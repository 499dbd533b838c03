/-
Module: SqlLineage.Proofs.Flow.JoinPaths
Purpose: What a flow graph says about the origin of a result: the nodes that lead to it through joins alone
  are those of the relations that its queries read, and of what the script writes under its name.
Main exports: FlowLayout.Produces, FlowLayout.Reads, FlowGraph.JoinPath, FlowLayout.joinPath_iff
-/
import SqlLineage.Proofs.Flow.Links

namespace SqlLineage.Flow

open Lineage (Query TableReference JoinClause ParsedScript)

/-! ### Producing, reading and writing -/

namespace FlowLayout

variable (layout : FlowLayout) (script : ParsedScript)

/-- The node of this id stands for something that the query at this position produces. -/
def Produces (index : Nat) (id : String) : Prop :=
  ∃ query, script.queries[index]? = some query ∧
    id ∈ layout.targets script index query

/-- The node of this id stands for a relation that the query at this position reads. -/
def Reads (index : Nat) (id : String) : Prop :=
  ∃ query, script.queries[index]? = some query ∧
    ∃ table ∈ query.references, layout.referent script index table = id

end FlowLayout

/-- A path from one node to another whose inner nodes are all joins. -/
inductive FlowGraph.JoinPath (graph : FlowGraph) : String → String → Prop where
  | edge {source target : String} (leads : graph.Leads source target) : JoinPath graph source target
  | step {source target : String} {join : FlowNode} (listed : join ∈ graph.nodes)
      (isJoin : join.role = .join) (leads : graph.Leads source join.id)
      (rest : JoinPath graph join.id target) : JoinPath graph source target

/-! ### The ids of joins -/

/-- The id of a node for a join. -/
def IsJoinId (id : String) : Prop := ∃ name, id = nodeId .join name

theorem isJoinId_joinId (query : Query) (position : Nat) : IsJoinId (joinId query position) :=
  ⟨_, rfl⟩

theorem not_isJoinId_nodeId {role : NodeRole} (name : String) (other : role ≠ .join) :
    ¬ IsJoinId (nodeId role name) := by
  intro known
  rcases known with ⟨_, same⟩
  exact other (nodeId_inj.mp same).1

theorem not_isJoinId_of_mem_targetIds {options : LayoutOptions} {scopes : CteScopes} {index : Nat}
    {query : Query} {id : String} (produced : id ∈ targetIds options scopes index query) :
    ¬ IsJoinId id := by
  obtain ⟨node, listed, rfl⟩ := List.mem_map.mp produced
  obtain ⟨⟨name, named⟩, other⟩ := exists_name_of_mem_targetNodes listed
  rw [named]
  exact not_isJoinId_nodeId name other

/-- Joins at different positions, or of queries whose ids differ in more than case, have ids of their
own. -/
theorem joinId_inj {query other : Query} {position otherPosition : Nat} :
    joinId query position = joinId other otherPosition ↔
      Text.lowercase query.id = Text.lowercase other.id ∧ position = otherPosition := by
  rw [joinId, joinId, nodeId_inj, Text.lowercase_numbered, Text.lowercase_numbered,
    Text.numbered_inj]
  exact and_iff_right rfl

section Script

variable {layout : FlowLayout} {script : ParsedScript}

theorem not_isJoinId_referent (lawful : layout.classifier.Lawful) (index : Nat)
    (table : TableReference) : ¬ IsJoinId (layout.referent script index table) :=
  not_isJoinId_nodeId _ (role_ne lawful rfl script _)

/-! ### The kinds of edges -/

/-- The kinds of edges that the queries of a script bring in: to a join from one of its sides or from the
join before it, and to something that a query produces from a join of it or from a relation it reads. -/
inductive QueryEdge (layout : FlowLayout) (script : ParsedScript) : String → String → Prop where
  | side {index position : Nat} {query : Query} {table : TableReference}
      (located : script.queries[index]? = some query) (listed : table ∈ query.references) :
      QueryEdge layout script (layout.referent script index table) (joinId query position)
  | chain {index position : Nat} {query : Query} {next : JoinClause}
      (located : script.queries[index]? = some query)
      (nextLocated : query.joins[position + 1]? = some next) :
      QueryEdge layout script (joinId query position) (joinId query (position + 1))
  | result {index position : Nat} {query : Query} {target : String}
      (located : script.queries[index]? = some query) (produced : layout.Produces script index target) :
      QueryEdge layout script (joinId query position) target
  | table {index : Nat} {query : Query} {table : TableReference} {target : String}
      (located : script.queries[index]? = some query) (listed : table ∈ query.references)
      (produced : layout.Produces script index target) :
      QueryEdge layout script (layout.referent script index table) target

/-- Every edge of a draft is brought in by a query or is a link between what is written and read. -/
theorem queryEdge_or_writtenToRead {source target : String}
    (isEdge : (source, target) ∈ (layout.draft script).edges) :
    QueryEdge layout script source target ∨ layout.WrittenToRead script source target := by
  have present := ((layout.wellFormed_draft script).closed _ isEdge).1
  obtain ⟨_, ⟨index, query, located, ofQuery⟩ | linked⟩ := FlowLayout.mem_edges_draft_iff.mp isEdge
  · apply Or.inl
    rcases List.mem_append.mp ofQuery with ofJoins | ofTables
    · cases joinEdge_of_mem ofJoins with
      | side joinLocated isSide =>
          refine .side located (Query.mem_references_iff.mpr (Or.inr ?_))
          exact ⟨_, List.mem_of_getElem? joinLocated, isSide⟩
      | chain joinLocated nextLocated => exact .chain located nextLocated
      | target joinLocated produced => exact .result located ⟨query, located, produced⟩
    · obtain ⟨⟨table, listed, rfl⟩, produced⟩ := mem_tableEdges_iff.mp ofTables
      have isReference :=
        Query.mem_references_iff.mpr (Or.inl (mem_tables_of_mem_unjoinedTables listed))
      exact .table located isReference ⟨query, located, produced⟩
  · exact Or.inr ((exists_linked_iff present).mp linked)

theorem not_isJoinId_of_produces {index : Nat} {id : String} (produced : layout.Produces script index id) :
    ¬ IsJoinId id := by
  obtain ⟨query, _, member⟩ := produced
  exact not_isJoinId_of_mem_targetIds member

theorem not_isJoinId_of_writtenToRead (lawful : layout.classifier.Lawful)
    {source target : String} (written : layout.WrittenToRead script source target) :
    ¬ IsJoinId source ∧ ¬ IsJoinId target := by
  obtain ⟨_, _, output, _, index, _, _, table, _, _, _, rfl, rfl⟩ := written
  exact ⟨not_isJoinId_nodeId output (by decide), not_isJoinId_referent lawful index table⟩

/-! ### What is produced and read has nodes -/

theorem hasNode_of_produces {index : Nat} {id : String} (produced : layout.Produces script index id) :
    (layout.draft script).hasNode id = true := by
  obtain ⟨query, located, member⟩ := produced
  exact FlowLayout.hasNode_draft_iff.mpr ⟨index, query, located, bringsIn_target member⟩

variable (layout script) in
/-- Whether a relation has a node among those for the sides of these joins, or else the node of the left side
of the join before them, whose chain they continue. -/
def HasSideNode (index : Nat) (previous : Option JoinClause) (joins : List JoinClause)
    (table : TableReference) : Prop :=
  layout.referent script index table ∈
      (sideNodes (layout.relations script) index previous joins).map NodeDraft.id ∨
    ∃ last, previous = some last ∧
      layout.referent script index table = layout.referent script index last.left

namespace HasSideNode

variable {index : Nat} {previous : Option JoinClause} {first : JoinClause} {rest : List JoinClause}

/-- The left side of a join that continues a chain has the node of the left side before it. -/
theorem left (agree : ∀ last, previous = some last → last.left.key = first.left.key →
      last.left.isCte = first.left.isCte) :
    HasSideNode layout script index previous (first :: rest) first.left := by
  cases continued : continues previous first with
  | true =>
      obtain ⟨last, isLast, sameKey⟩ := continues_iff.mp continued
      have sameMark := agree last isLast sameKey
      exact .inr ⟨last, isLast, (referent_congr (CteScopes.keyFor_congr sameKey sameMark)).symm⟩
  | false =>
      apply Or.inl
      rw [sideNodes_cons, continued]
      exact List.mem_cons_self

theorem right : HasSideNode layout script index previous (first :: rest) first.right := by
  apply Or.inl
  rw [sideNodes_cons, List.map_append, List.map_cons]
  exact List.mem_append_right _ List.mem_cons_self

theorem of_rest {table : TableReference}
    (isLeft : HasSideNode layout script index previous (first :: rest) first.left)
    (known : HasSideNode layout script index (some first) rest table) :
    HasSideNode layout script index previous (first :: rest) table := by
  rcases known with here | ⟨_, given, same⟩
  · apply Or.inl
    rw [sideNodes_cons, List.map_append, List.map_cons]
    exact List.mem_append_right _ (List.mem_cons_of_mem _ here)
  · cases given
    rw [HasSideNode, same]
    exact isLeft

/-- Both sides of each of these joins have nodes, where left sides of one name are of one kind. -/
theorem of_mem {joins : List JoinClause} (agree : ∀ join ∈ previous.toList ++ joins,
      ∀ other ∈ joins, join.left.key = other.left.key → join.left.isCte = other.left.isCte) :
    ∀ join ∈ joins, ∀ table, table = join.left ∨ table = join.right →
      HasSideNode layout script index previous joins table := by
  induction joins generalizing previous with
  | nil =>
      intro join member
      cases member
  | cons first rest ih =>
      have isLeft : HasSideNode layout script index previous (first :: rest) first.left := by
        apply left
        intro last isLast
        refine agree last (List.mem_append_left _ ?_) first List.mem_cons_self
        rw [isLast]
        exact List.mem_singleton_self last
      intro join member table isSide
      rcases List.mem_cons.mp member with rfl | later
      · rcases isSide with rfl | rfl
        · exact isLeft
        · exact right
      · have agreeBehind : ∀ join ∈ (some first).toList ++ rest, ∀ other ∈ rest,
            join.left.key = other.left.key → join.left.isCte = other.left.isCte := by
          intro join isJoin other isOther
          exact agree join (List.mem_append_right _ isJoin) other (List.mem_cons_of_mem _ isOther)
        exact isLeft.of_rest (ih agreeBehind join later table isSide)

end HasSideNode

theorem hasNode_of_reads {index : Nat} {id : String}
    (agree : ∀ query ∈ script.queries, ∀ table ∈ query.references, ∀ other ∈ query.references,
      table.key = other.key → table.isCte = other.isCte)
    (isRead : layout.Reads script index id) : (layout.draft script).hasNode id = true := by
  obtain ⟨query, located, table, listed, rfl⟩ := isRead
  refine FlowLayout.hasNode_draft_iff.mpr ⟨index, query, located, ?_⟩
  rcases Query.mem_references_iff.mp listed with isTable | ⟨join, joinListed, isSide⟩
  · exact bringsIn_table isTable
  · have lefts : ∀ join ∈ query.joins, join.left ∈ query.references :=
      fun other member => Query.mem_references_iff.mpr (.inr ⟨other, member, .inl rfl⟩)
    have known : HasSideNode layout script index none query.joins table :=
      .of_mem (fun first isFirst other isOther => agree query (List.mem_of_getElem? located) first.left
        (lefts first isFirst) other.left (lefts other isOther)) join joinListed table isSide
    rcases known with here | ⟨_, given, _⟩
    · obtain ⟨node, isNode, same⟩ := List.mem_map.mp here
      exact same ▸ bringsIn_side isNode
    · cases given

/-! ### What leads to a result through joins -/

theorem Placing.isJoinId_iff {graph : FlowGraph} {layers : List (List Nat)}
    (placing : Placing layout.options (layout.draft script) layers graph) {node : FlowNode}
    (listed : node ∈ graph.nodes) : IsJoinId node.id ↔ node.role = .join := by
  obtain ⟨name, named⟩ :=
    (layout.wellFormed_draft script).named node.origin (placing.origin_mem listed)
  have id : node.id = nodeId node.role name := named
  constructor
  · intro known
    rcases known with ⟨other, same⟩
    exact (nodeId_inj.mp (id.symm.trans same)).1
  · intro isJoin
    exact ⟨name, by rw [id, isJoin]⟩

section Sound

variable (lawful : layout.classifier.Lawful)
  (distinctIds : (script.queries.map fun query => Text.lowercase query.id).Nodup)

include distinctIds in
/-- If queries have ids of their own, so have the joins of all of them. -/
theorem eq_of_joinId_eq {index position otherIndex otherPosition : Nat} {query other : Query}
    (located : script.queries[index]? = some query)
    (otherLocated : script.queries[otherIndex]? = some other)
    (same : joinId query position = joinId other otherPosition) :
    index = otherIndex ∧ query = other ∧ position = otherPosition := by
  obtain ⟨sameId, samePosition⟩ := joinId_inj.mp same
  obtain ⟨bound, _⟩ := List.getElem?_eq_some_iff.mp located
  have sameIndex : index = otherIndex := by
    refine (List.getElem?_inj (by simpa using bound) distinctIds).mp ?_
    rw [List.getElem?_map, List.getElem?_map, located, otherLocated, Option.map_some, Option.map_some,
      sameId]
  subst sameIndex
  exact ⟨rfl, Option.some.inj (located.symm.trans otherLocated), samePosition⟩

include lawful distinctIds

/-- An edge that leaves a join leads to the next join of its query, or to something it produces. -/
theorem next_or_produces_of_joinId {index position : Nat} {query : Query} {target : String}
    (located : script.queries[index]? = some query)
    (isEdge : (joinId query position, target) ∈ (layout.draft script).edges) :
    target = joinId query (position + 1) ∨ layout.Produces script index target := by
  have isJoin := isJoinId_joinId query position
  rcases queryEdge_or_writtenToRead isEdge with ofQuery | written
  · generalize start : joinId query position = source at ofQuery isJoin
    cases ofQuery with
    | side => exact absurd isJoin (not_isJoinId_referent lawful _ _)
    | chain otherLocated nextLocated =>
        obtain ⟨rfl, rfl, rfl⟩ := eq_of_joinId_eq distinctIds located otherLocated start
        exact Or.inl rfl
    | result otherLocated produced =>
        obtain ⟨rfl, rfl, rfl⟩ := eq_of_joinId_eq distinctIds located otherLocated start
        exact Or.inr produced
    | table => exact absurd isJoin (not_isJoinId_referent lawful _ _)
  · exact absurd isJoin (not_isJoinId_of_writtenToRead lawful written).1

variable {graph : FlowGraph} {layers : List (List Nat)}
  (placing : Placing layout.options (layout.draft script) layers graph)

include placing

/-- What a join leads to through joins is produced by the query of the join. -/
theorem produces_of_joinPath
    {index position : Nat} {query : Query} {target : String}
    (located : script.queries[index]? = some query) (noJoin : ¬ IsJoinId target)
    (path : graph.JoinPath (joinId query position) target) : layout.Produces script index target := by
  generalize start : joinId query position = source at path
  induction path generalizing position with
  | edge leads =>
      subst start
      rcases next_or_produces_of_joinId lawful distinctIds located (placing.leads_iff.mp leads) with
        rfl | produced
      · exact absurd (isJoinId_joinId query _) noJoin
      · exact produced
  | step listed isJoin leads rest ih =>
      subst start
      rcases next_or_produces_of_joinId lawful distinctIds located (placing.leads_iff.mp leads) with
        next | produced
      · exact ih noJoin next.symm
      · exact absurd ((placing.isJoinId_iff listed).mpr isJoin)
          (not_isJoinId_of_produces produced)

/-- What leads to a result through joins is read by a query that produces it, or written under its
name. -/
theorem reads_or_written_of_joinPath
    {source target : String} (sourceNoJoin : ¬ IsJoinId source) (targetNoJoin : ¬ IsJoinId target)
    (path : graph.JoinPath source target) :
    (∃ index, layout.Produces script index target ∧ layout.Reads script index source) ∨
      layout.WrittenToRead script source target := by
  cases path with
  | edge leads =>
      rcases queryEdge_or_writtenToRead (placing.leads_iff.mp leads) with ofQuery | written
      · cases ofQuery with
        | side => exact absurd (isJoinId_joinId _ _) targetNoJoin
        | chain => exact absurd (isJoinId_joinId _ _) sourceNoJoin
        | result => exact absurd (isJoinId_joinId _ _) sourceNoJoin
        | table located listed produced =>
            exact Or.inl ⟨_, produced, _, located, _, listed, rfl⟩
      · exact Or.inr written
  | step listed isJoin leads rest =>
      have inner := (placing.isJoinId_iff listed).mpr isJoin
      rcases queryEdge_or_writtenToRead (placing.leads_iff.mp leads) with ofQuery | written
      · generalize middle : FlowNode.id _ = join at ofQuery inner rest
        cases ofQuery with
        | side located listed =>
            have produced :=
              produces_of_joinPath lawful distinctIds placing located targetNoJoin rest
            exact Or.inl ⟨_, produced, _, located, _, listed, rfl⟩
        | chain => exact absurd (isJoinId_joinId _ _) sourceNoJoin
        | result => exact absurd (isJoinId_joinId _ _) sourceNoJoin
        | table located listed produced => exact absurd inner (not_isJoinId_of_produces produced)
      · exact absurd inner (not_isJoinId_of_writtenToRead lawful written).2

end Sound

/-! ### What a query reads leads to what it produces -/

section Complete

variable {graph : FlowGraph} {layers : List (List Nat)}
  (placing : Placing layout.options (layout.draft script) layers graph) {index : Nat} {query : Query}
  (located : script.queries[index]? = some query)

include placing located

/-- The edges of a query are drawn, unless they lead from a node to itself. -/
theorem leads_of_mem_edgesOf {source target : String} (proper : source ≠ target)
    (isEdge : (source, target) ∈ layout.edgesOf script index query) :
    graph.Leads source target := by
  rw [placing.leads_iff, FlowLayout.mem_edges_draft_iff]
  exact ⟨proper, Or.inl ⟨index, query, located, isEdge⟩⟩

theorem exists_mem_of_joinId {position : Nat} {join : JoinClause}
    (joinLocated : query.joins[position]? = some join) :
    ∃ node ∈ graph.nodes, node.id = joinId query position ∧ node.role = .join := by
  have present : (layout.draft script).hasNode (joinId query position) = true :=
    FlowLayout.hasNode_draft_iff.mpr ⟨index, query, located, bringsIn_join joinLocated⟩
  obtain ⟨node, listed, same⟩ := placing.exists_mem_of_hasNode present
  refine ⟨node, listed, same, (placing.isJoinId_iff listed).mp ?_⟩
  rw [same]
  exact isJoinId_joinId query position

/-- From each join a path goes along its chain and leaves the last join of it for the results. -/
theorem joinPath_of_drop {position : Nat} (previous : Option JoinClause) {join : JoinClause}
    {rest : List JoinClause} {target : String}
    (produced : target ∈ layout.targets script index query)
    (suffix : query.joins.drop position = join :: rest)
    (drawn : ∀ edge ∈ joinEdges (layout.relations script) index query
      (layout.targets script index query) position previous
      (join :: rest), edge ∈ layout.edgesOf script index query) :
    graph.JoinPath (joinId query position) target := by
  have isResult : joinId query position ≠ target := by
    rintro rfl
    exact not_isJoinId_of_mem_targetIds produced (isJoinId_joinId query position)
  -- Along the joins behind this one: the path leaves here, or goes on with the next join.
  induction rest generalizing position previous join with
  | nil =>
      apply FlowGraph.JoinPath.edge
      apply leads_of_mem_edgesOf placing located isResult
      exact drawn _ (target_mem_joinEdges rfl produced)
  | cons next rest ih =>
      cases ends : endsChain join (next :: rest) with
      | true =>
          apply FlowGraph.JoinPath.edge
          apply leads_of_mem_edgesOf placing located isResult
          exact drawn _ (target_mem_joinEdges ends produced)
      | false =>
          have continued : continues (some join) next = true := by
            simpa [endsChain, continues] using ends
          have nextSuffix : query.joins.drop (position + 1) = next :: rest := by
            rw [← List.tail_drop, suffix, List.tail_cons]
          have nextLocated : query.joins[position + 1]? = some next := by
            rw [← List.head?_drop, nextSuffix, List.head?_cons]
          have nextIsResult : joinId query (position + 1) ≠ target := by
            rintro rfl
            exact not_isJoinId_of_mem_targetIds produced (isJoinId_joinId query (position + 1))
          have apart : joinId query position ≠ joinId query (position + 1) := by
            intro equal
            exact absurd (joinId_inj.mp equal).2 (Nat.ne_of_lt (Nat.lt_succ_self position))
          obtain ⟨node, listed, same, isJoin⟩ := exists_mem_of_joinId placing located nextLocated
          have leads := leads_of_mem_edgesOf placing located apart
            (drawn _ (next_mem_joinEdges continued))
          have onward := ih (some join) nextSuffix
            (fun edge later => drawn edge (mem_joinEdges_of_mem_rest later)) nextIsResult
          rw [← same] at leads onward
          exact .step listed isJoin leads onward

variable (lawful : layout.classifier.Lawful)

include lawful

/-- A path that goes on from a join can be entered from each relation that feeds it. -/
theorem joinPath_of_feeds {position : Nat} {join : JoinClause} {table : TableReference} {target : String}
    (joinLocated : query.joins[position]? = some join)
    (onward : graph.JoinPath (joinId query position) target)
    (feeds : (layout.referent script index table, joinId query position) ∈
      layout.edgesOf script index query) :
    graph.JoinPath (layout.referent script index table) target := by
  have proper : layout.referent script index table ≠ joinId query position := by
    intro equal
    exact not_isJoinId_referent lawful index table (equal ▸ isJoinId_joinId query position)
  obtain ⟨node, listed, same, isJoin⟩ := exists_mem_of_joinId placing located joinLocated
  have leads := leads_of_mem_edgesOf placing located proper feeds
  rw [← same] at leads onward
  exact .step listed isJoin leads onward

variable (agree : ∀ table ∈ query.references, ∀ other ∈ query.references,
  table.key = other.key → table.isCte = other.isCte)

include agree

/-- From both sides of each join a path leads to the results. The left side of a join that continues a
chain has the path of the join before it, with which it shares its relation. -/
theorem joinPath_of_side_from {position : Nat} (previous : Option JoinClause)
    {joins : List JoinClause} {target : String} (produced : target ∈ layout.targets script index query)
    (suffix : query.joins.drop position = joins)
    (drawn : ∀ edge ∈ joinEdges (layout.relations script) index query
      (layout.targets script index query) position previous joins,
        edge ∈ layout.edgesOf script index query)
    (before : ∀ last, previous = some last → last.left ∈ query.references ∧
      graph.JoinPath (layout.referent script index last.left) target) :
    ∀ join ∈ joins, ∀ table, table = join.left ∨ table = join.right →
      graph.JoinPath (layout.referent script index table) target := by
  -- Each join hands the path of its left side on to the next one, which may continue its chain.
  induction joins generalizing position previous with
  | nil =>
      intro join listed
      cases listed
  | cons first rest ih =>
      have here : query.joins[position]? = some first := by
        rw [← List.head?_drop, suffix, List.head?_cons]
      have restSuffix : query.joins.drop (position + 1) = rest := by
        rw [← List.tail_drop, suffix, List.tail_cons]
      have leftListed : first.left ∈ query.references :=
        Query.mem_references_iff.mpr (Or.inr ⟨first, List.mem_of_getElem? here, Or.inl rfl⟩)
      have onward := joinPath_of_drop placing located previous produced suffix drawn
      have leftPath : graph.JoinPath (layout.referent script index first.left) target := by
        cases continued : continues previous first with
        | true =>
            obtain ⟨last, isLast, sameKey⟩ := continues_iff.mp continued
            obtain ⟨lastListed, lastPath⟩ := before last isLast
            have sameMark := agree _ lastListed _ leftListed sameKey
            rw [← referent_congr (CteScopes.keyFor_congr sameKey sameMark)]
            exact lastPath
        | false =>
            apply joinPath_of_feeds placing located lawful here onward
            exact drawn _ (left_mem_joinEdges continued)
      have rightPath : graph.JoinPath (layout.referent script index first.right) target := by
        apply joinPath_of_feeds placing located lawful here onward
        exact drawn _ right_mem_joinEdges
      intro join joinListed table isSide
      rcases List.mem_cons.mp joinListed with rfl | later
      · rcases isSide with rfl | rfl
        · exact leftPath
        · exact rightPath
      · refine ih (some first) restSuffix ?_ ?_ join later table isSide
        · intro edge member
          exact drawn edge (mem_joinEdges_of_mem_rest member)
        · intro _ given
          cases given
          exact ⟨leftListed, leftPath⟩

theorem joinPath_of_side {target : String}
    (produced : target ∈ layout.targets script index query)
    {join : JoinClause} (listed : join ∈ query.joins) {table : TableReference}
    (isSide : table = join.left ∨ table = join.right) :
    graph.JoinPath (layout.referent script index table) target := by
  refine joinPath_of_side_from placing located lawful agree none produced List.drop_zero ?_ ?_ join
    listed table isSide
  · intro edge member
    exact List.mem_append_left _ member
  · intro _ given
    cases given

/-- From everything that a query reads a path leads to everything else that it produces. -/
theorem joinPath_of_reads {source target : String} (proper : source ≠ target)
    (produced : target ∈ layout.targets script index query)
    {table : TableReference} (listed : table ∈ query.references)
    (isSource : layout.referent script index table = source) :
    graph.JoinPath source target := by
  subst isSource
  rcases Query.mem_references_iff.mp listed with isTable | ⟨join, joinListed, isSide⟩
  · by_cases joined : (layout.relations script).scopes.keyFor index table ∈
        joinedKeys (layout.relations script).scopes index query
    · -- The relation feeds the results through the join that mentions it.
      obtain ⟨join, joinListed, side, isSide, same⟩ := mem_joinedKeys_iff.mp joined
      rw [← referent_congr same]
      exact joinPath_of_side placing located lawful agree produced joinListed isSide
    · obtain ⟨first, isFirst, same⟩ := exists_mem_unjoinedTables isTable joined
      rw [← referent_congr same] at proper ⊢
      apply FlowGraph.JoinPath.edge
      apply leads_of_mem_edgesOf placing located proper
      exact List.mem_append_right _ (mem_tableEdges_iff.mpr ⟨⟨first, isFirst, rfl⟩, produced⟩)
  · exact joinPath_of_side placing located lawful agree produced joinListed isSide

end Complete

end Script

/-! ### The origin of results -/

/-- In the graph of a script whose queries have ids of their own, and whose queries refer to no relation
both as a common table expression and otherwise, whatever a query produces or reads has a node, and the
nodes that lead to a result through joins alone are those of the relations that its queries read, and the
node of the relation as the script writes it. -/
theorem FlowLayout.joinPath_iff (classification : ClassificationOptions) (options : LayoutOptions)
    (script : ParsedScript)
    (distinctIds : (script.queries.map fun query => Text.lowercase query.id).Nodup)
    (agree : ∀ query ∈ script.queries, ∀ table ∈ query.references, ∀ other ∈ query.references,
      table.key = other.key → table.isCte = other.isCte) :
    ∃ graph, (ofOptions classification options).layout script = .ok graph ∧
      (∀ index id, (ofOptions classification options).Produces script index id ∨
          (ofOptions classification options).Reads script index id → ∃ node ∈ graph.nodes, node.id = id) ∧
      ∀ source ∈ graph.nodes, ∀ target ∈ graph.nodes, source.role ≠ .join → source.id ≠ target.id →
        (∃ index, (ofOptions classification options).Produces script index target.id) →
          (graph.JoinPath source.id target.id ↔
            (∃ index, (ofOptions classification options).Produces script index target.id ∧
              (ofOptions classification options).Reads script index source.id) ∨
            (ofOptions classification options).WrittenToRead script source.id target.id) := by
  have lawful : (ofOptions classification options).classifier.Lawful :=
    Classifier.lawful_ofOptions classification
  have wellFormed := (ofOptions classification options).wellFormed_draft script
  obtain ⟨graph, layers, placed, placing⟩ :=
    exists_placing (ofOptions classification options).options wellFormed
  refine ⟨graph, placed, ?_, ?_⟩
  · rintro index id (produced | isRead)
    · exact placing.exists_mem_of_hasNode (hasNode_of_produces produced)
    · exact placing.exists_mem_of_hasNode (hasNode_of_reads agree isRead)
  rintro source sourceListed target - noJoin proper ⟨_, someProduced⟩
  constructor
  · intro path
    have sourceNoJoin : ¬ IsJoinId source.id := by
      intro isJoin
      exact noJoin ((placing.isJoinId_iff sourceListed).mp isJoin)
    exact reads_or_written_of_joinPath lawful distinctIds placing sourceNoJoin
      (not_isJoinId_of_produces someProduced) path
  · rintro (⟨index, ⟨query, located, produced⟩, ⟨reader, readerLocated, table, listed, isSource⟩⟩ |
      written)
    · obtain rfl := Option.some.inj (located.symm.trans readerLocated)
      exact joinPath_of_reads placing located lawful (agree query (List.mem_of_getElem? located))
        proper produced listed isSource
    · have linked := (exists_linked_iff (placing.hasNode_of_mem sourceListed)).mpr written
      refine .edge (placing.leads_iff.mpr ?_)
      exact FlowLayout.mem_edges_draft_iff.mpr ⟨proper, Or.inr linked⟩

/-- A report on orders, which are joined with customers and with items, beside rates without a join. -/
def reportScript : ParsedScript :=
  let orders : TableReference := { name := "orders" }
  let customers : TableReference := { name := "Customers" }
  let items : TableReference := { name := "items" }
  { queries := [{
      id := "query_0"
      tables := [orders, customers, items, { name := "rates" }]
      joins := [{ left := orders, right := customers }, { left := orders, right := items }]
      outputs := ["Report"] }] }

/-- The customers lead to the report through both joins. -/
theorem FlowLayout.joinPath_report :
    (reportScript.queries.map fun query => Text.lowercase query.id).Nodup ∧
      (∀ query ∈ reportScript.queries, ∀ table ∈ query.references, ∀ other ∈ query.references,
        table.key = other.key → table.isCte = other.isCte) ∧
      ∃ graph, (ofOptions {} {}).layout reportScript = .ok graph ∧
        ∃ source ∈ graph.nodes, ∃ target ∈ graph.nodes, source.role = .sourceTable ∧
          source.id = "source:customers" ∧ target.id = "output:report" ∧
            graph.JoinPath source.id target.id := by
  have distinctIds : (reportScript.queries.map fun query => Text.lowercase query.id).Nodup := by
    decide +kernel
  have agree : ∀ query ∈ reportScript.queries, ∀ table ∈ query.references,
      ∀ other ∈ query.references, table.key = other.key → table.isCte = other.isCte := by
    decide +kernel
  have roles : ((ofOptions {} {}).layout reportScript).map (fun graph => graph.nodes.all fun node =>
      node.id != "source:customers" || node.role == .sourceTable) = .ok true := by
    decide +kernel
  have produced : (ofOptions {} {}).Produces reportScript 0 "output:report" :=
    ⟨_, rfl, by decide +kernel⟩
  have isRead : (ofOptions {} {}).Reads reportScript 0 "source:customers" :=
    ⟨_, rfl, { name := "Customers" }, by decide +kernel, by decide +kernel⟩
  obtain ⟨graph, placed, present, paths⟩ := joinPath_iff {} {} reportScript distinctIds agree
  obtain ⟨target, targetListed, targetId⟩ := present 0 _ (.inl produced)
  obtain ⟨source, sourceListed, sourceId⟩ := present 0 _ (.inr isRead)
  rw [placed] at roles
  have role : source.role = .sourceTable := by
    simpa [sourceId] using List.all_eq_true.mp (Except.ok.inj roles) source sourceListed
  have noJoin : source.role ≠ .join := by
    rw [role]
    decide
  have proper : source.id ≠ target.id := by
    rw [sourceId, targetId]
    decide
  rw [← targetId] at produced
  rw [← sourceId] at isRead
  exact ⟨distinctIds, agree, graph, placed, source, sourceListed, target, targetListed, role, sourceId,
    targetId, (paths source sourceListed target targetListed noJoin proper ⟨0, produced⟩).mpr
      (.inl ⟨0, produced, isRead⟩)⟩

end SqlLineage.Flow
