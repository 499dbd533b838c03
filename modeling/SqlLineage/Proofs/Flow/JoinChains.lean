/-
Module: SqlLineage.Proofs.Flow.JoinChains
Purpose: Which joins of a query chain. Two joins in a row do if their left relations have one name. They are
  one relation then, unless one is a common table expression and the other is not.
Main exports: joinBefore, exists_chain_of_mem_joinEdges, FlowGraph.JoinPath.snoc, ChainsJoins,
  FlowLayout.layout_chainsJoins
-/
import SqlLineage.Proofs.Flow.JoinPaths

namespace SqlLineage.Flow

open Lineage (Query TableReference JoinClause ParsedScript)

/-! ### The edges of a chain -/

section Joins

variable {relations : Relations} {index : Nat} {query : Query} {targets : List String}

/-- The join in front of a position. -/
def joinBefore (query : Query) : Nat → Option JoinClause
  | 0 => none
  | position + 1 => query.joins[position]?

/-- The edges that the joins from a position on bring in are edges of the query. -/
theorem mem_joinEdges_of_drop {position : Nat} {edge : String × String}
    (isEdge : edge ∈ joinEdges relations index query targets position (joinBefore query position)
      (query.joins.drop position)) :
    edge ∈ joinEdges relations index query targets 0 none query.joins := by
  induction position with
  | zero => exact isEdge
  | succ position ih =>
      apply ih
      cases suffix : query.joins.drop position with
      | nil =>
          have behind : query.joins.drop (position + 1) = [] := by rw [← List.tail_drop, suffix, List.tail_nil]
          rw [behind] at isEdge
          cases isEdge
      | cons join rest =>
          have here : query.joins[position]? = some join := by
            rw [← List.head?_drop, suffix, List.head?_cons]
          have behind : query.joins.drop (position + 1) = rest := by
            rw [← List.tail_drop, suffix, List.tail_cons]
          rw [behind, joinBefore, here] at isEdge
          exact mem_joinEdges_of_mem_rest isEdge

/-- A join that chains with the one before it is fed by it, any other one by its left relation. -/
theorem feeds_mem_joinEdges {position : Nat} {join : JoinClause}
    (located : query.joins[position]? = some join) :
    (if continues (joinBefore query position) join then joinId query (position - 1)
      else (relations.nodeOf index join.left).id, joinId query position) ∈
        joinEdges relations index query targets 0 none query.joins := by
  obtain ⟨bound, rfl⟩ := List.getElem?_eq_some_iff.mp located
  apply mem_joinEdges_of_drop
  rw [List.drop_eq_getElem_cons bound, joinEdges_cons]
  exact List.mem_cons_self

/-- Only joins that follow each other and whose left relations have one name are joined by an edge. -/
theorem exists_chain_of_mem_joinEdges {position : Nat} {previous : Option JoinClause}
    {joins : List JoinClause} (suffix : query.joins.drop position = joins)
    (before : ∀ join, previous = some join →
      ∃ earlier, position = earlier + 1 ∧ query.joins[earlier]? = some join)
    (relational : ∀ table, ¬ IsJoinId (relations.nodeOf index table).id)
    (produced : ∀ target ∈ targets, ¬ IsJoinId target) {source target : String}
    (fromJoin : IsJoinId source) (toJoin : IsJoinId target)
    (isEdge : (source, target) ∈ joinEdges relations index query targets position previous joins) :
    ∃ earlier join next, source = joinId query earlier ∧ target = joinId query (earlier + 1) ∧
      query.joins[earlier]? = some join ∧ query.joins[earlier + 1]? = some next ∧
        join.left.key = next.left.key := by
  induction joins generalizing position previous with
  | nil => cases isEdge
  | cons join rest ih =>
      have here : query.joins[position]? = some join := by
        rw [← List.head?_drop, suffix, List.head?_cons]
      rw [joinEdges_cons, List.mem_cons, List.mem_cons, List.mem_append] at isEdge
      rcases isEdge with fed | right | out | later
      · obtain ⟨rfl, rfl⟩ := Prod.mk.inj fed
        split at fromJoin
        · next continued =>
            obtain ⟨last, isLast, sameName⟩ := continues_iff.mp continued
            obtain ⟨earlier, rfl, located⟩ := before last isLast
            exact ⟨earlier, last, join, by simp [continued], rfl, located, here, sameName⟩
        · exact absurd fromJoin (relational join.left)
      · obtain ⟨rfl, _⟩ := Prod.mk.inj right
        exact absurd fromJoin (relational join.right)
      · split at out
        · obtain ⟨_, member, same⟩ := List.mem_map.mp out
          obtain ⟨_, rfl⟩ := Prod.mk.inj same
          exact absurd toJoin (produced _ member)
        · cases out
      · refine ih ?_ ?_ later
        · rw [← List.tail_drop, suffix, List.tail_cons]
        · rintro last ⟨⟩
          exact ⟨position, rfl, here⟩

end Joins

/-- A path that has come to a join can go on from there. -/
theorem FlowGraph.JoinPath.snoc {graph : FlowGraph} {source target : String} {join : FlowNode}
    (listed : join ∈ graph.nodes) (isJoin : join.role = .join) (path : graph.JoinPath source join.id)
    (leads : graph.Leads join.id target) : graph.JoinPath source target := by
  generalize ended : join.id = last at path
  induction path with
  | edge first =>
      subst ended
      exact .step listed isJoin first (.edge leads)
  | step innerListed innerJoin first _ ih => exact .step innerListed innerJoin first (ih ended)

/-- References of one name denote one relation exactly if both of them are to common table expressions, or
neither is. -/
theorem CteScopes.keyFor_eq_iff {scopes : CteScopes} {index : Nat} {table other : TableReference}
    (sameName : table.key = other.key) :
    scopes.keyFor index table = scopes.keyFor index other ↔ table.isCte = other.isCte := by
  constructor
  · intro sameKey
    rw [← scopes.keyFor_isCte index table, sameKey, scopes.keyFor_isCte]
  · exact scopes.keyFor_congr sameName

section Script

variable {layout : FlowLayout} {script : ParsedScript}

/-! ### Chains in a script -/

/-- The edges of a query from one join to another are those of its chains. -/
theorem exists_chain_of_mem_edgesOf (lawful : layout.classifier.Lawful) {index : Nat} {query : Query}
    {source target : String} (fromJoin : IsJoinId source) (toJoin : IsJoinId target)
    (isEdge : (source, target) ∈ layout.edgesOf script index query) :
    ∃ earlier join next, source = joinId query earlier ∧ target = joinId query (earlier + 1) ∧
      query.joins[earlier]? = some join ∧ query.joins[earlier + 1]? = some next ∧
        join.left.key = next.left.key := by
  rcases List.mem_append.mp isEdge with ofJoins | ofTables
  · refine exists_chain_of_mem_joinEdges List.drop_zero ?_ (not_isJoinId_referent lawful index) ?_
      fromJoin toJoin ofJoins
    · rintro join ⟨⟩
    · exact fun target produced => not_isJoinId_of_mem_targetIds produced
  · obtain ⟨_, produced⟩ := mem_tableEdges_iff.mp ofTables
    exact absurd toJoin (not_isJoinId_of_mem_targetIds produced)

/-- A join that continues a chain is fed by the join before it, any other one by its left relation. -/
theorem feeds_mem_edgesOf (layout : FlowLayout) (script : ParsedScript) (index : Nat) {query : Query}
    {position : Nat} {join : JoinClause} (located : query.joins[position]? = some join) :
    (if continues (joinBefore query position) join then joinId query (position - 1)
      else layout.referent script index join.left, joinId query position) ∈
        layout.edgesOf script index query :=
  List.mem_append_left _ (feeds_mem_joinEdges located)

/-- A query adds an edge from one join to the next exactly if their left relations have one name. -/
theorem chain_mem_edgesOf_iff (lawful : layout.classifier.Lawful) {index position : Nat} {query : Query}
    {join next : JoinClause} (located : query.joins[position]? = some join)
    (nextLocated : query.joins[position + 1]? = some next) :
    (joinId query position, joinId query (position + 1)) ∈ layout.edgesOf script index query ↔
      join.left.key = next.left.key := by
  constructor
  · intro isEdge
    obtain ⟨earlier, last, behind, same, _, lastLocated, behindLocated, sameName⟩ :=
      exists_chain_of_mem_edgesOf lawful (isJoinId_joinId _ _) (isJoinId_joinId _ _) isEdge
    obtain rfl := (joinId_inj.mp same).2
    obtain rfl := Option.some.inj (located.symm.trans lastLocated)
    obtain rfl := Option.some.inj (nextLocated.symm.trans behindLocated)
    exact sameName
  · intro sameName
    have continued : continues (joinBefore query (position + 1)) next = true :=
      continues_iff.mpr ⟨join, located, sameName⟩
    have fed := feeds_mem_edgesOf layout script index nextLocated
    rwa [if_pos continued, Nat.add_sub_cancel] at fed

/-! ### Chains in a graph -/

section Graph

variable {graph : FlowGraph} {layers : List (List Nat)}
  (placing : Placing layout.options (layout.draft script) layers graph)
  (lawful : layout.classifier.Lawful)

include placing lawful

/-- The edges of a graph from one join to another are those of the chains of its queries. -/
theorem exists_chain_of_leads {source target : FlowNode} (sourceListed : source ∈ graph.nodes)
    (targetListed : target ∈ graph.nodes) (fromJoin : source.role = .join) (toJoin : target.role = .join)
    (leads : graph.Leads source.id target.id) :
    ∃ (index : Nat) (query : Query) (position : Nat) (join next : JoinClause),
      script.queries[index]? = some query ∧ source.id = joinId query position ∧
        target.id = joinId query (position + 1) ∧ query.joins[position]? = some join ∧
          query.joins[position + 1]? = some next ∧ join.left.key = next.left.key := by
  have sourceJoin := (placing.isJoinId_iff sourceListed).mpr fromJoin
  have targetJoin := (placing.isJoinId_iff targetListed).mpr toJoin
  have isEdge := placing.leads_iff.mp leads
  have present := placing.hasNode_of_mem sourceListed
  obtain ⟨_, ⟨index, query, located, ofQuery⟩ | linked⟩ := FlowLayout.mem_edges_draft_iff.mp isEdge
  · obtain ⟨position, join, next, chain⟩ :=
      exists_chain_of_mem_edgesOf lawful sourceJoin targetJoin ofQuery
    exact ⟨index, query, position, join, next, located, chain⟩
  · exact absurd sourceJoin
      (not_isJoinId_of_writtenToRead lawful ((exists_linked_iff present).mp linked)).1

/-- The left relation of the first join of a chain leads to it. -/
theorem joinPath_of_starts {index position : Nat} {query : Query} {join : JoinClause}
    (located : script.queries[index]? = some query) (joinLocated : query.joins[position]? = some join)
    (starts : ¬ continues (joinBefore query position) join = true) :
    graph.JoinPath (layout.referent script index join.left) (joinId query position) := by
  have fed := feeds_mem_edgesOf layout script index joinLocated
  rw [if_neg starts] at fed
  refine .edge (leads_of_mem_edgesOf placing located ?_ fed)
  intro equal
  exact not_isJoinId_referent lawful index join.left (equal ▸ isJoinId_joinId query position)

/-- Along its chain a path leads to each join, from the left relation of the first join of the chain. -/
theorem exists_joinPath_of_join {index position : Nat} {query : Query} {join : JoinClause}
    (located : script.queries[index]? = some query) (joinLocated : query.joins[position]? = some join) :
    ∃ first ∈ query.joins.take (position + 1), first.left.key = join.left.key ∧
      graph.JoinPath (layout.referent script index first.left) (joinId query position) := by
  have here {position : Nat} {join : JoinClause} (joinLocated : query.joins[position]? = some join) :
      join ∈ query.joins.take (position + 1) := by
    rw [List.take_add_one, joinLocated]
    simp
  induction position generalizing join with
  | zero => exact ⟨join, here joinLocated, rfl, joinPath_of_starts placing lawful located joinLocated nofun⟩
  | succ position ih =>
      by_cases continued : continues (joinBefore query (position + 1)) join = true
      · obtain ⟨last, lastLocated, sameName⟩ := continues_iff.mp continued
        obtain ⟨first, early, firstName, path⟩ := ih lastLocated
        obtain ⟨node, listed, same, isJoin⟩ := exists_mem_of_joinId placing located lastLocated
        have fed := feeds_mem_edgesOf layout script index joinLocated
        rw [if_pos continued, Nat.add_sub_cancel] at fed
        have apart : joinId query position ≠ joinId query (position + 1) := by
          intro equal
          exact Nat.succ_ne_self position (joinId_inj.mp equal).2.symm
        have leads := leads_of_mem_edgesOf placing located apart fed
        rw [← same] at path leads
        refine ⟨first, ?_, firstName.trans sameName, path.snoc listed isJoin leads⟩
        exact (List.take_sublist_take_left (Nat.le_succ (position + 1))).subset early
      · exact ⟨join, here joinLocated, rfl,
          joinPath_of_starts placing lawful located joinLocated continued⟩

end Graph

end Script

/-- What the chains of the joins of a script's queries are. -/
structure ChainsJoins (layout : FlowLayout) (script : ParsedScript) (graph : FlowGraph) : Prop where
  /-- A query adds an edge from one join to the next exactly if their left relations have one name. -/
  added : ∀ (index : Nat) (query : Query) (position : Nat) (join next : JoinClause),
    script.queries[index]? = some query → query.joins[position]? = some join →
      query.joins[position + 1]? = some next →
        ((joinId query position, joinId query (position + 1)) ∈ layout.edgesOf script index query ↔
          join.left.key = next.left.key)
  /-- The joins have one relation to their left then exactly if both of the references to it are to common
  table expressions, or neither is. -/
  faithful : ∀ (index : Nat) (query : Query) (position : Nat) (join next : JoinClause),
    script.queries[index]? = some query → query.joins[position]? = some join →
      query.joins[position + 1]? = some next →
        (joinId query position, joinId query (position + 1)) ∈ layout.edgesOf script index query →
          ((CteScopes.ofScript script).keyFor index join.left =
              (CteScopes.ofScript script).keyFor index next.left ↔
            join.left.isCte = next.left.isCte)
  /-- No other edge leads from a join to a join. -/
  only : ∀ source ∈ graph.nodes, ∀ target ∈ graph.nodes, source.role = .join → target.role = .join →
    graph.Leads source.id target.id →
      ∃ (index : Nat) (query : Query) (position : Nat) (join next : JoinClause),
        script.queries[index]? = some query ∧ source.id = joinId query position ∧
          target.id = joinId query (position + 1) ∧ query.joins[position]? = some join ∧
            query.joins[position + 1]? = some next ∧ join.left.key = next.left.key
  /-- To each join a path leads along its chain, from the left relation of the first join of it. -/
  entered : ∀ (index : Nat) (query : Query) (position : Nat) (join : JoinClause),
    script.queries[index]? = some query → query.joins[position]? = some join →
      ∃ first ∈ query.joins.take (position + 1), first.left.key = join.left.key ∧
        graph.JoinPath (layout.referent script index first.left) (joinId query position)
  /-- The left relation of a join leads to it, unless a join before it has another one of that name to its
  left. -/
  fed : ∀ (index : Nat) (query : Query) (position : Nat) (join : JoinClause),
    script.queries[index]? = some query → query.joins[position]? = some join →
      (∀ other ∈ query.joins.take position, other.left.key = join.left.key →
        other.left.isCte = join.left.isCte) →
          graph.JoinPath (layout.referent script index join.left) (joinId query position)

theorem Placing.chainsJoins {layout : FlowLayout} {script : ParsedScript} {graph : FlowGraph}
    {layers : List (List Nat)} (placing : Placing layout.options (layout.draft script) layers graph)
    (lawful : layout.classifier.Lawful) : ChainsJoins layout script graph where
  added index query position join next located joinLocated nextLocated :=
    chain_mem_edgesOf_iff lawful joinLocated nextLocated
  faithful index query position join next located joinLocated nextLocated isEdge :=
    CteScopes.keyFor_eq_iff ((chain_mem_edgesOf_iff lawful joinLocated nextLocated).mp isEdge)
  only source sourceListed target targetListed fromJoin toJoin leads :=
    exists_chain_of_leads placing lawful sourceListed targetListed fromJoin toJoin leads
  entered index query position join located joinLocated :=
    exists_joinPath_of_join placing lawful located joinLocated
  fed := by
    intro index query position join located joinLocated agree
    obtain ⟨first, early, sameName, path⟩ := exists_joinPath_of_join placing lawful located joinLocated
    have sameMark : first.left.isCte = join.left.isCte := by
      rw [List.take_add_one, joinLocated, List.mem_append] at early
      rcases early with before | here
      · exact agree first before sameName
      · rw [List.mem_singleton.mp here]
    rwa [referent_congr (CteScopes.keyFor_congr sameName sameMark)] at path

/-- Whatever a script holds, two joins in a row chain exactly if their left relations have one name. -/
theorem FlowLayout.exists_chainsJoins (script : Lineage.ParsedScript)
    (classification : ClassificationOptions) (options : LayoutOptions) :
    ∃ graph, (ofOptions classification options).layout script = .ok graph ∧
      ChainsJoins (ofOptions classification options) script graph := by
  obtain ⟨graph, layers, placed, placing⟩ := exists_placing options
    ((ofOptions classification options).wellFormed_draft script)
  exact ⟨graph, placed, placing.chainsJoins (Classifier.lawful_ofOptions classification)⟩

/-- In the graph of every script, two joins in a row chain exactly if their left relations have one name. -/
theorem FlowLayout.layout_chainsJoins (dialect : Sql.Dialect) (text : String)
    (classification : ClassificationOptions) (options : LayoutOptions) :
    ∃ graph, (ofOptions classification options).layout (Lineage.parseScript dialect text) = .ok graph ∧
      ChainsJoins (ofOptions classification options) (Lineage.parseScript dialect text) graph :=
  exists_chainsJoins (Lineage.parseScript dialect text) classification options

/-! ### A chain that joins two relations -/

/-- A script that joins a common table expression to one table and, behind a set operator, a table of its
name to another one. -/
def chainScript : String := "(WITH a AS(SELECT 1)SELECT 1 FROM a JOIN b)UNION SELECT 1 FROM a JOIN c"

/-- The query behind the set operator, with what stands in front of it. -/
def chainQuery : Query :=
  { id := "stmt_0", name := "final query"
    tables := [{ name := "a", isCte := true }, { name := "b" }, { name := "a" }, { name := "c" }]
    joins := [{ left := { name := "a", isCte := true }, right := { name := "b" } },
      { left := { name := "a" }, right := { name := "c" } }]
    fields := [{ expression := "1", transformation := .expression },
      { expression := "1", transformation := .expression }]
    isMain := true, dependsOn := ["a"]
    unionInfo := some { kind := "UNION", sources := ["a", "b", "c"] } }

/-- The second join goes on with the chain of the first one, and nothing leads from the table to it. -/
theorem chain_joins_two_relations :
    (Lineage.parseScript .generic chainScript).queries[1]? = some chainQuery ∧
      chainQuery.joins.map (fun join =>
        (CteScopes.ofScript (Lineage.parseScript .generic chainScript)).keyFor 1 join.left) =
          [.cte "a", .table "a"] ∧
      ∃ graph, (FlowLayout.ofOptions {} {}).layout (Lineage.parseScript .generic chainScript) = .ok graph ∧
        graph.Leads (joinId chainQuery 0) (joinId chainQuery 1) ∧
          ∃ node ∈ graph.nodes, node.id = "source:a" ∧ ∀ target, ¬ graph.Leads node.id target := by
  obtain ⟨located, keys, chained, present, unfed⟩ :
      (Lineage.parseScript .generic chainScript).queries[1]? = some chainQuery ∧
      chainQuery.joins.map (fun join =>
        (CteScopes.ofScript (Lineage.parseScript .generic chainScript)).keyFor 1 join.left) =
          [.cte "a", .table "a"] ∧
      (joinId chainQuery 0, joinId chainQuery 1) ∈
        ((FlowLayout.ofOptions {} {}).draft (Lineage.parseScript .generic chainScript)).edges ∧
      ((FlowLayout.ofOptions {} {}).draft (Lineage.parseScript .generic chainScript)).hasNode "source:a" = true ∧
      ∀ edge ∈ ((FlowLayout.ofOptions {} {}).draft (Lineage.parseScript .generic chainScript)).edges,
        edge.1 ≠ "source:a" := by
    decide +kernel
  obtain ⟨graph, layers, placed, placing⟩ := exists_placing (FlowLayout.ofOptions {} {}).options
    ((FlowLayout.ofOptions {} {}).wellFormed_draft (Lineage.parseScript .generic chainScript))
  obtain ⟨node, listed, same⟩ := placing.exists_mem_of_hasNode present
  refine ⟨located, keys, graph, placed, placing.leads_iff.mpr chained, node, listed, same, ?_⟩
  intro target leads
  exact unfed _ (placing.leads_iff.mp leads) same

end SqlLineage.Flow
