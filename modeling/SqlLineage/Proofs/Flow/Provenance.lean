/-
Module: SqlLineage.Proofs.Flow.Provenance
Purpose: Which nodes of a graph name the query that they come from. A node is made where its id comes up first
  in the script, and keeps what it is made with. One that a query produces names the query, unless it has come
  up before as a relation that is read.
Main exports: Draft.find?_addNodes, FlowLayout.mentions, FirstMention, NamesProducers,
  FlowLayout.layout_namesProducers
-/
import Mathlib.Data.List.Nodup
import SqlLineage.Proofs.Flow.JoinPaths
import SqlLineage.Proofs.Flow.JoinSides
import SqlLineage.Proofs.Lineage.Naming

namespace SqlLineage.Flow

open Lineage (Query TableReference JoinClause ParsedScript)

/-! ### The first node of an id -/

namespace Draft

theorem find?_addNode (draft : Draft) (node : NodeDraft) (id : String) :
    (draft.addNode node).nodes.find? (·.id == id) =
      (draft.nodes.find? (·.id == id)).or ([node].find? (·.id == id)) := by
  unfold addNode
  split
  · next present =>
      by_cases same : node.id = id
      · obtain ⟨other, listed, isOther⟩ := hasNode_iff.mp present
        obtain ⟨found, isFound⟩ : ∃ found, draft.nodes.find? (·.id == id) = some found := by
          rw [← Option.isSome_iff_exists, List.find?_isSome]
          exact ⟨other, listed, by simpa using isOther.trans same⟩
        rw [isFound, Option.some_or]
      · simp [same]
  · rw [List.find?_append]

/-- A node that is added again is left as it is. -/
theorem find?_addNodes (draft : Draft) (nodes : List NodeDraft) (id : String) :
    (draft.addNodes nodes).nodes.find? (·.id == id) =
      (draft.nodes.find? (·.id == id)).or (nodes.find? (·.id == id)) := by
  unfold addNodes
  induction nodes generalizing draft with
  | nil => simp
  | cons node rest ih =>
      rw [List.foldl_cons, ih, find?_addNode, Option.or_assoc, ← List.find?_append, List.singleton_append]

/-- The node of an id is the only one that a search can find. -/
theorem WellFormed.find?_eq {draft : Draft} (wellFormed : draft.WellFormed) {node : NodeDraft}
    (listed : node ∈ draft.nodes) : draft.nodes.find? (·.id == node.id) = some node := by
  obtain ⟨found, isFound⟩ : ∃ found, draft.nodes.find? (·.id == node.id) = some found := by
    rw [← Option.isSome_iff_exists, List.find?_isSome]
    exact ⟨node, listed, by simp⟩
  have same : found.id = node.id := by simpa using List.find?_some isFound
  rw [isFound, List.inj_on_of_nodup_map wellFormed.ids (List.mem_of_find?_eq_some isFound) listed same]

end Draft

@[simp] theorem nodes_linkAll (relations : Relations) (names : List String) (draft : Draft) :
    (linkAll relations names draft).nodes = draft.nodes := by
  unfold linkAll
  induction names generalizing draft with
  | nil => rfl
  | cons name rest ih =>
      rw [List.foldl_cons, ih, linkWritten]
      split
      · exact Draft.nodes_addEdge ..
      · rfl

theorem find?_addQueries (options : LayoutOptions) (relations : Relations) (queries : List (Query × Nat))
    (draft : Draft) (id : String) :
    (addQueries options relations queries draft).nodes.find? (·.id == id) =
      (draft.nodes.find? (·.id == id)).or
        ((queries.flatMap fun entry => queryNodes options relations entry.1 entry.2).find? (·.id == id)) := by
  unfold addQueries
  induction queries generalizing draft with
  | nil => simp
  | cons first rest ih =>
      rw [List.foldl_cons, ih, addQuery_eq, Draft.nodes_addEdgeList, Draft.find?_addNodes, Option.or_assoc,
        ← List.find?_append, List.flatMap_cons]

/-- The nodes that the queries of a script bring in, as they come up. -/
def FlowLayout.mentions (layout : FlowLayout) (script : ParsedScript) : List NodeDraft :=
  script.queries.zipIdx.flatMap fun entry =>
    queryNodes layout.options (layout.relations script) entry.1 entry.2

/-- The node of an id is the first one that comes up. -/
theorem FlowLayout.find?_draft (layout : FlowLayout) (script : ParsedScript) (id : String) :
    (layout.draft script).nodes.find? (·.id == id) = (layout.mentions script).find? (·.id == id) := by
  rw [draft_eq, nodes_linkAll, find?_addQueries]
  rfl

/-- What a search finds among numbered items stands at the first place at which anything is found. -/
theorem exists_first_of_findSome? {α β : Type} {items : List α} {look : α × Nat → Option β} {found : β}
    (search : items.zipIdx.findSome? look = some found) :
    ∃ (index : Nat) (item : α), items[index]? = some item ∧ look (item, index) = some found ∧
      ∀ earlier < index, ∀ other, items[earlier]? = some other → look (other, earlier) = none := by
  obtain ⟨before, ⟨item, index⟩, behind, shape, isFound, unseen⟩ := List.findSome?_eq_some_iff.mp search
  obtain ⟨front, back, rfl, rfl, isBehind⟩ := List.zipIdx_eq_append_iff.mp shape
  cases back with
  | nil => simp at isBehind
  | cons first back =>
      rw [List.zipIdx_cons, Nat.zero_add] at isBehind
      obtain ⟨same, _⟩ := List.cons.inj isBehind
      obtain ⟨rfl, rfl⟩ := Prod.mk.inj same
      refine ⟨front.length, item, by simp, isFound, fun earlier lower other located => ?_⟩
      refine unseen _ (List.mk_mem_zipIdx_iff_getElem?.mpr ?_)
      rwa [List.getElem?_append_left lower] at located

/-! ### What a node is made for -/

section Queries

variable {options : LayoutOptions} {relations : Relations} {query : Query} {index : Nat}

/-- The nodes of its tables are the first ones that a query brings in. -/
theorem exists_table_of_find?_queryNodes {table : TableReference} {node : NodeDraft}
    (isTable : table ∈ query.tables)
    (isFirst : (queryNodes options relations query index).find?
      (·.id == (relations.nodeOf index table).id) = some node) :
    ∃ other ∈ query.tables, node = relations.nodeOf index other := by
  obtain ⟨found, isFound⟩ : ∃ found, (query.tables.map (relations.nodeOf index)).find?
      (·.id == (relations.nodeOf index table).id) = some found := by
    rw [← Option.isSome_iff_exists, List.find?_isSome]
    exact ⟨_, List.mem_map_of_mem isTable, by simp⟩
  rw [queryNodes, List.append_assoc, List.append_assoc, List.find?_append, isFound, Option.some_or] at isFirst
  obtain rfl := Option.some.inj isFirst
  obtain ⟨other, isOther, same⟩ := List.mem_map.mp (List.mem_of_find?_eq_some isFound)
  exact ⟨other, isOther, same.symm⟩

end Queries

section Script

variable {layout : FlowLayout} {script : ParsedScript}

/-- How the id of a node comes up first, by the query at a position: as a relation that it reads, as a join of
it, or else as what it produces. -/
inductive FirstMention (layout : FlowLayout) (script : ParsedScript) (node : FlowNode) (first : Nat) :
    Prop where
  | read (isRead : layout.Reads script first node.id) (unnamed : node.queryId = none)
  | join {query : Query} {position : Nat} {join : JoinClause} (located : script.queries[first]? = some query)
      (joinLocated : query.joins[position]? = some join) (id : node.id = joinId query position)
      (named : node.queryId = some query.id)
  | product {query : Query} (located : script.queries[first]? = some query)
      (produced : node.id ∈ layout.targets script first query)
      (unread : ¬ layout.Reads script first node.id) (named : node.queryId = some query.id)

/-- The id of each node comes up first somewhere. -/
theorem Placing.exists_firstMention {graph : FlowGraph} {layers : List (List Nat)}
    (placing : Placing layout.options (layout.draft script) layers graph)
    (listedJoins : ∀ query ∈ script.queries, query.JoinsListed) {node : FlowNode}
    (member : node ∈ graph.nodes) :
    ∃ first, FirstMention layout script node first ∧
      ∀ earlier < first, ¬ layout.Reads script earlier node.id ∧ ¬ layout.Produces script earlier node.id := by
  have isFirst := (layout.wellFormed_draft script).find?_eq (placing.origin_mem member)
  rw [FlowLayout.find?_draft, FlowLayout.mentions, List.find?_flatMap] at isFirst
  obtain ⟨first, query, located, isFound, unseen⟩ := exists_first_of_findSome? isFirst
  refine ⟨first, ?_, fun earlier lower => ?_⟩
  · rcases mem_queryNodes_cases (List.mem_of_find?_eq_some isFound) with
      ⟨table, isReference, same⟩ | ⟨position, join, joinLocated, same⟩ | isTarget
    · exact .read ⟨query, located, table, isReference, (congrArg NodeDraft.id same).symm⟩
        (congrArg NodeDraft.queryId same)
    · exact .join located joinLocated (congrArg NodeDraft.id same) (congrArg NodeDraft.queryId same)
    · by_cases isRead : layout.Reads script first node.id
      · refine .read isRead ?_
        -- The node that is read is one of the tables, which come up before what is produced.
        obtain ⟨reader, readerLocated, table, isReference, same⟩ := isRead
        obtain rfl := Option.some.inj (located.symm.trans readerLocated)
        have isTable := (listedJoins query (List.mem_of_getElem? located)).mem_tables isReference
        have isFirst : (queryNodes layout.options (layout.relations script) query first).find?
            (·.id == layout.referent script first table) = some node.origin := by
          rw [same]
          exact isFound
        obtain ⟨other, _, ofTable⟩ := exists_table_of_find?_queryNodes isTable isFirst
        exact congrArg NodeDraft.queryId ofTable
      · obtain ⟨_, _, _, _, same⟩ := exists_of_mem_targetNodes isTarget
        exact .product located (List.mem_map_of_mem isTarget) isRead (congrArg NodeDraft.queryId same)
  · have absent : ∀ other, script.queries[earlier]? = some other →
        ¬ BringsIn layout.options (layout.relations script) other earlier node.id := by
      rintro other otherLocated ⟨mention, listed, same⟩
      have unlike := List.find?_eq_none.mp (unseen earlier lower other otherLocated) mention listed
      exact unlike (beq_iff_eq.mpr same)
    constructor
    · rintro ⟨reader, readerLocated, table, isReference, same⟩
      have isTable := (listedJoins reader (List.mem_of_getElem? readerLocated)).mem_tables isReference
      exact absent reader readerLocated (same ▸ bringsIn_table isTable)
    · rintro ⟨producer, producerLocated, produced⟩
      exact absent producer producerLocated (bringsIn_target produced)

/-- What a query is the first to produce comes up up to there: as a relation that is read, or else as what
this query produces. -/
theorem FirstMention.of_produces {node : FlowNode} {first : Nat} (mention : FirstMention layout script node first)
    (before : ∀ earlier < first, ¬ layout.Reads script earlier node.id ∧ ¬ layout.Produces script earlier node.id)
    {index : Nat} {query : Query} (located : script.queries[index]? = some query)
    (produced : node.id ∈ layout.targets script index query)
    (isFirst : ∀ earlier < index, ¬ layout.Produces script earlier node.id) :
    (∃ reader ≤ index, layout.Reads script reader node.id ∧ node.queryId = none) ∨
      (∀ reader ≤ index, ¬ layout.Reads script reader node.id) ∧ node.queryId = some query.id := by
  have produces : layout.Produces script index node.id := ⟨query, located, produced⟩
  have early : first ≤ index := Nat.le_of_not_lt fun later => (before index later).2 produces
  cases mention with
  | read isRead unnamed => exact .inl ⟨first, early, isRead, unnamed⟩
  | join _ _ id _ => exact absurd (id ▸ isJoinId_joinId _ _) (not_isJoinId_of_produces produces)
  | @product other otherLocated otherProduces unread named =>
      obtain rfl : first = index :=
        Nat.le_antisymm early (Nat.le_of_not_lt fun lower => isFirst first lower ⟨other, otherLocated, otherProduces⟩)
      obtain rfl := Option.some.inj (located.symm.trans otherLocated)
      refine .inr ⟨fun reader upTo isRead => ?_, named⟩
      rcases Nat.lt_or_eq_of_le upTo with lower | rfl
      · exact (before reader lower).1 isRead
      · exact unread isRead

/-- A node of the role `output` is not read. -/
theorem not_reads_of_output (lawful : layout.classifier.Lawful) {name : String} (index : Nat) :
    ¬ layout.Reads script index (nodeId .output name) := by
  rintro ⟨query, _, table, _, same⟩
  exact role_ne lawful rfl script _ (nodeId_inj.mp same).1

/-- A node that is read is for no join. -/
theorem not_isJoinId_of_reads (lawful : layout.classifier.Lawful) {index : Nat} {id : String}
    (isRead : layout.Reads script index id) : ¬ IsJoinId id := by
  obtain ⟨_, _, table, _, rfl⟩ := isRead
  exact not_isJoinId_referent lawful index table

/-! ### The queries that nodes name -/

/-- Which nodes of a graph name a query, and which one. -/
structure NamesProducers (layout : FlowLayout) (script : ParsedScript) (graph : FlowGraph) : Prop where
  /-- What a query is the first to produce names the query, if no query up to it reads the node. -/
  named : ∀ node ∈ graph.nodes, ∀ (index : Nat) (query : Query), script.queries[index]? = some query →
    node.id ∈ layout.targets script index query →
      (∀ earlier < index, ¬ layout.Produces script earlier node.id) →
        (∀ reader ≤ index, ¬ layout.Reads script reader node.id) → node.queryId = some query.id
  /-- If one of them does, then the node names no query. -/
  unnamed : ∀ node ∈ graph.nodes, ∀ index, layout.Produces script index node.id →
    (∀ earlier < index, ¬ layout.Produces script earlier node.id) →
      ∀ reader ≤ index, layout.Reads script reader node.id → node.queryId = none
  /-- No query reads a node of the role `output`, so that each names the first query that produces it. -/
  outputs : ∀ node ∈ graph.nodes, node.role = .output →
    ∃ (index : Nat) (query : Query), script.queries[index]? = some query ∧
      node.id ∈ layout.targets script index query ∧
        (∀ earlier < index, ¬ layout.Produces script earlier node.id) ∧ node.queryId = some query.id
  /-- Each join of a query has a node, and the node names the query. -/
  joins : ∀ (index : Nat) (query : Query) (position : Nat) (join : JoinClause),
    script.queries[index]? = some query → query.joins[position]? = some join →
      ∃ node ∈ graph.nodes, node.id = joinId query position ∧ node.role = .join ∧
        node.queryId = some query.id
  /-- There are no other nodes of the role `join`. -/
  onlyJoins : ∀ node ∈ graph.nodes, node.role = .join →
    ∃ (index : Nat) (query : Query) (position : Nat) (join : JoinClause),
      script.queries[index]? = some query ∧ query.joins[position]? = some join ∧
        node.id = joinId query position
  /-- A node that no query produces, and that is for no join, names no query. -/
  others : ∀ node ∈ graph.nodes, node.role ≠ .join →
    (∀ index, ¬ layout.Produces script index node.id) → node.queryId = none

theorem Placing.namesProducers {graph : FlowGraph} {layers : List (List Nat)}
    (placing : Placing layout.options (layout.draft script) layers graph)
    (lawful : layout.classifier.Lawful) (listedJoins : ∀ query ∈ script.queries, query.JoinsListed)
    (lowercaseIds : ∀ query ∈ script.queries, Text.lowercase query.id = query.id) :
    NamesProducers layout script graph where
  named := by
    intro node member index query located produced isFirst unread
    obtain ⟨first, mention, before⟩ := placing.exists_firstMention listedJoins member
    rcases mention.of_produces before located produced isFirst with ⟨reader, upTo, isRead, _⟩ | ⟨_, named⟩
    · exact absurd isRead (unread reader upTo)
    · exact named
  unnamed := by
    rintro node member index ⟨query, located, produced⟩ isFirst reader upTo isRead
    obtain ⟨first, mention, before⟩ := placing.exists_firstMention listedJoins member
    rcases mention.of_produces before located produced isFirst with ⟨_, _, _, unnamed⟩ | ⟨unread, _⟩
    · exact unnamed
    · exact absurd isRead (unread reader upTo)
  outputs := by
    intro node member isOutput
    obtain ⟨name, named⟩ := (layout.wellFormed_draft script).named node.origin (placing.origin_mem member)
    have id : node.id = nodeId .output name := by
      rw [← isOutput]
      exact named
    obtain ⟨first, mention, before⟩ := placing.exists_firstMention listedJoins member
    cases mention with
    | read isRead _ =>
        rw [id] at isRead
        exact absurd isRead (not_reads_of_output lawful first)
    | join _ _ joinId _ =>
        have isJoin := (placing.isJoinId_iff member).mp (joinId ▸ isJoinId_joinId _ _)
        rw [isOutput] at isJoin
        cases isJoin
    | @product query located produced _ named =>
        exact ⟨first, query, located, produced, fun earlier lower => (before earlier lower).2, named⟩
  joins := by
    intro index query position join located joinLocated
    obtain ⟨node, member, id, isJoin⟩ := exists_mem_of_joinId placing located joinLocated
    refine ⟨node, member, id, isJoin, ?_⟩
    obtain ⟨_, mention, _⟩ := placing.exists_firstMention listedJoins member
    have known : IsJoinId node.id := id ▸ isJoinId_joinId query position
    cases mention with
    | read isRead _ => exact absurd known (not_isJoinId_of_reads lawful isRead)
    | @join other _ _ otherLocated _ otherId named =>
        -- Queries with joins at one node have one id.
        have sameId := (joinId_inj.mp (id.symm.trans otherId)).1
        rw [lowercaseIds query (List.mem_of_getElem? located),
          lowercaseIds other (List.mem_of_getElem? otherLocated)] at sameId
        rw [named, sameId]
    | product located produced _ _ => exact absurd known (not_isJoinId_of_mem_targetIds produced)
  onlyJoins := by
    intro node member isJoin
    have known := (placing.isJoinId_iff member).mpr isJoin
    obtain ⟨first, mention, _⟩ := placing.exists_firstMention listedJoins member
    cases mention with
    | read isRead _ => exact absurd known (not_isJoinId_of_reads lawful isRead)
    | join located joinLocated id _ => exact ⟨first, _, _, _, located, joinLocated, id⟩
    | product located produced _ _ => exact absurd known (not_isJoinId_of_mem_targetIds produced)
  others := by
    intro node member noJoin unproduced
    obtain ⟨first, mention, _⟩ := placing.exists_firstMention listedJoins member
    cases mention with
    | read _ unnamed => exact unnamed
    | join _ _ id _ =>
        exact absurd ((placing.isJoinId_iff member).mp (id ▸ isJoinId_joinId _ _)) noJoin
    | product located produced _ _ => exact absurd ⟨_, located, produced⟩ (unproduced first)

end Script

/-- However statements are read and quotes are escaped, a node names the query that produces it, if it is not
read up to there. -/
theorem FlowLayout.exists_namesProducers (read : String → Option Sql.Query) (escapes : Script.QuoteEscapes)
    (text : String) (classification : ClassificationOptions) (options : LayoutOptions) :
    ∃ graph, (ofOptions classification options).layout (Lineage.parseWith read escapes text) = .ok graph ∧
      NamesProducers (ofOptions classification options) (Lineage.parseWith read escapes text) graph := by
  obtain ⟨graph, layers, placed, placing⟩ := exists_placing options
    ((ofOptions classification options).wellFormed_draft (Lineage.parseWith read escapes text))
  refine ⟨graph, placed, placing.namesProducers (Classifier.lawful_ofOptions classification) ?_ ?_⟩
  · exact fun query member => (Lineage.isCollected_of_mem_queries member).joins
  · exact fun query member => Lineage.lowercase_id_of_mem_queries member

/-- In the graph of every script, a node names the query that produces it, if it is not read up to there. -/
theorem FlowLayout.layout_namesProducers (dialect : Sql.Dialect) (text : String)
    (classification : ClassificationOptions) (options : LayoutOptions) :
    ∃ graph, (ofOptions classification options).layout (Lineage.parseScript dialect text) = .ok graph ∧
      NamesProducers (ofOptions classification options) (Lineage.parseScript dialect text) graph :=
  exists_namesProducers (Sql.sourceQuery? dialect) (Lineage.escapesOf dialect) text classification options

/-! ### A node that does not name its query -/

/-- A script with a common table expression that reads itself. -/
def selfReadingScript : String := "WITH RECURSIVE a AS(SELECT 1 FROM a)SELECT 1"

/-- The node of the common table expression comes up as a relation that is read, so it names no query. -/
theorem self_reading_unnamed :
    ((Lineage.parseScript .generic selfReadingScript).queries[0]?.map fun query => (query.id,
      (FlowLayout.ofOptions {} {}).targets (Lineage.parseScript .generic selfReadingScript) 0 query)) =
        some ("cte_0_a", ["cte:a"]) ∧
      ∃ graph, (FlowLayout.ofOptions {} {}).layout (Lineage.parseScript .generic selfReadingScript) = .ok graph ∧
        ∃ node ∈ graph.nodes, node.id = "cte:a" ∧ node.queryId = none := by
  obtain ⟨produced, listed⟩ :
      ((Lineage.parseScript .generic selfReadingScript).queries[0]?.map fun query => (query.id,
        (FlowLayout.ofOptions {} {}).targets (Lineage.parseScript .generic selfReadingScript) 0 query)) =
          some ("cte_0_a", ["cte:a"]) ∧
      { id := "cte:a", label := "a", role := .cte, queryId := none } ∈
        ((FlowLayout.ofOptions {} {}).draft (Lineage.parseScript .generic selfReadingScript)).nodes := by
    decide +kernel
  obtain ⟨graph, layers, placed, placing⟩ := exists_placing (FlowLayout.ofOptions {} {}).options
    ((FlowLayout.ofOptions {} {}).wellFormed_draft (Lineage.parseScript .generic selfReadingScript))
  obtain ⟨node, member, isOrigin⟩ := List.mem_map.mp (placing.perm_origin.symm.subset listed)
  exact ⟨produced, graph, placed, node, member, congrArg NodeDraft.id isOrigin,
    congrArg NodeDraft.queryId isOrigin⟩

end SqlLineage.Flow
