/-
Module: SqlLineage.Proofs.Flow.JoinSides
Purpose: The two sides of a join are among the relations that its query lists, the left one before the right
  one, whether the statement is in the grammar or its tokens are scanned. So each side has a profile, and
  brings no node of its own into a draft.
Main exports: ParsedScript.JoinsItsTables, joinsItsTables
-/
import SqlLineage.Proofs.Flow.Links
import SqlLineage.Proofs.Flow.QueryEdges

namespace SqlLineage

open Lineage (Query TableReference JoinClause ParsedScript)

/-- A relation is listed before another one exactly if it has a position before one of the other's. -/
theorem Lineage.JoinClause.listedIn_iff {tables : List TableReference} {join : JoinClause} :
    join.ListedIn tables ↔ ∃ left right : Nat, left < right ∧ tables[left]? = some join.left ∧
      tables[right]? = some join.right := by
  rw [JoinClause.ListedIn, List.cons_sublist_iff]
  constructor
  · rintro ⟨before, behind, rfl, inFront, later⟩
    obtain ⟨left, isLeft⟩ := List.mem_iff_getElem?.mp inFront
    obtain ⟨right, isRight⟩ := List.mem_iff_getElem?.mp (List.singleton_sublist.mp later)
    obtain ⟨bound, _⟩ := List.getElem?_eq_some_iff.mp isLeft
    refine ⟨left, before.length + right, Nat.lt_add_right right bound, ?_, ?_⟩
    · rw [List.getElem?_append_left bound, isLeft]
    · rw [List.getElem?_append_right (Nat.le_add_right _ _), Nat.add_sub_cancel_left, isRight]
  · rintro ⟨left, right, lower, isLeft, isRight⟩
    refine ⟨tables.take right, tables.drop right, (List.take_append_drop right tables).symm, ?_, ?_⟩
    · exact List.mem_of_getElem? ((List.getElem?_take_of_lt lower).trans isLeft)
    · rw [List.singleton_sublist]
      refine List.mem_of_getElem? (i := 0) ?_
      rw [List.getElem?_drop, Nat.add_zero, isRight]

namespace Flow

/-- The sides of listed joins denote nodes of listed relations. -/
theorem exists_table_of_mem_sideNodes {relations : Relations} {index : Nat} {query : Query}
    (listed : query.JoinsListed) {node : NodeDraft}
    (member : node ∈ sideNodes relations index none query.joins) :
    ∃ table ∈ query.tables, node = relations.nodeOf index table := by
  obtain ⟨join, isJoin, table, isSide, rfl⟩ := exists_of_mem_sideNodes member
  have isReference : table ∈ query.references :=
    Lineage.Query.mem_references_iff.mpr (.inr ⟨join, isJoin, isSide⟩)
  exact ⟨table, listed.mem_tables isReference, rfl⟩

/-- Whether the joins of a script are of relations that their queries list. -/
structure JoinsItsTables (script : ParsedScript) : Prop where
  /-- The left side of a join has a position before one of the right side. -/
  listed : ∀ query ∈ script.queries, ∀ join ∈ query.joins, ∃ left right : Nat, left < right ∧
    query.tables[left]? = some join.left ∧ query.tables[right]? = some join.right
  profiled : ∀ index query, script.queries[index]? = some query → ∀ join ∈ query.joins,
    ∀ side ∈ [join.left, join.right], ∃ profile, (profileTables script (.ofScript script)).get?
      ((CteScopes.ofScript script).keyFor index side) = some profile
  /-- A query adds nodes for its tables, its joins and what it produces, and no other ones. -/
  nodes : ∀ query ∈ script.queries, ∀ options relations draft index,
    ∀ node ∈ (addQuery options relations draft query index).nodes, node ∈ draft.nodes ∨
      (∃ table ∈ query.tables, node = relations.nodeOf index table) ∨
      (∃ position join, query.joins[position]? = some join ∧ node = joinNode query position join) ∨
      node ∈ targetNodes options relations.scopes index query

theorem joinsItsTables_of_listed {script : ParsedScript}
    (listed : ∀ query ∈ script.queries, query.JoinsListed) : JoinsItsTables script where
  listed query member join isJoin :=
    Lineage.JoinClause.listedIn_iff.mp (listed query member join isJoin)
  profiled index query located join isJoin side isSide := by
    have isReference : side ∈ query.references := by
      refine Lineage.Query.mem_references_iff.mpr (.inr ⟨join, isJoin, ?_⟩)
      simpa using isSide
    have isTable := (listed query (List.mem_of_getElem? located)).mem_tables isReference
    have hasKey : (CteScopes.ofScript script).keyFor index side ∈
        (profileTables script (.ofScript script)).map (·.1) :=
      mem_keys_profileTables_iff.mpr ⟨index, query, located, side, isTable, rfl⟩
    obtain ⟨profile, _, found⟩ := Profiles.exists_lookup_of_mem_keys hasKey
    exact ⟨profile, found⟩
  nodes query member options relations draft index node isNode := by
    rw [addQuery_eq, Draft.nodes_addEdgeList] at isNode
    refine (Draft.mem_nodes_addNodes isNode).imp_right fun brought => ?_
    simp only [queryNodes, List.mem_append] at brought
    rcases brought with ((ofTable | ofJoin) | ofTarget) | ofSide
    · obtain ⟨table, isTable, rfl⟩ := List.mem_map.mp ofTable
      exact .inl ⟨table, isTable, rfl⟩
    · obtain ⟨position, bound, rfl⟩ := List.mem_mapIdx.mp ofJoin
      exact .inr (.inl ⟨position, _, List.getElem?_eq_getElem bound, rfl⟩)
    · exact .inr (.inr ofTarget)
    · exact .inl (exists_table_of_mem_sideNodes (listed query member) ofSide)

/-- However statements are read and quotes are escaped, the joins of a script are of relations that their
queries list. -/
theorem joinsItsTables_parseWith (read : String → Option Sql.Query) (escapes : Script.QuoteEscapes)
    (text : String) : JoinsItsTables (Lineage.parseWith read escapes text) :=
  joinsItsTables_of_listed fun _ member => (Lineage.isCollected_of_mem_queries member).joins

/-- In every dialect the joins of a script are of relations that their queries list. -/
theorem joinsItsTables (dialect : Sql.Dialect) (text : String) :
    JoinsItsTables (Lineage.parseScript dialect text) :=
  joinsItsTables_parseWith (Sql.sourceQuery? dialect) (Lineage.escapesOf dialect) text

end Flow

end SqlLineage
