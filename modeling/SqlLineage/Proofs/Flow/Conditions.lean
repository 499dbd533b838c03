/-
Module: SqlLineage.Proofs.Flow.Conditions
Purpose: Of the text of a join condition, the graph of a script shows only whether it compares a key of the
  joined relation: scripts whose joins are keyed alike, and are the same otherwise, have one graph.
Main exports: plainJoin, plainQuery, plainScript, profileTables_plainScript, FlowLayout.draft_plainScript
-/
import Mathlib.Data.List.Basic
import SqlLineage.Proofs.Flow.QueryEdges

namespace SqlLineage.Flow

open Lineage (Query TableReference JoinClause ParsedScript)

/-- The join with a condition that says no more than whether the join is on a key. -/
def plainJoin (join : JoinClause) : JoinClause :=
  { join with condition := if isKeyedJoin join then some "USING (id)" else none }

/-- The query with such joins. -/
def plainQuery (query : Query) : Query := { query with joins := query.joins.map plainJoin }

/-- The script with such joins. -/
def plainScript (script : ParsedScript) : ParsedScript :=
  { script with queries := script.queries.map plainQuery }

/-- The column `id` looks like a key of every relation. -/
theorem isKeyedCondition_id (right : TableReference) :
    isKeyedCondition right "USING (id)".toList = true := by
  have columns : usingColumns? "USING (id)".toList = some [['i', 'd']] := by decide +kernel
  have isKey : [['i', 'd']].any isKeyColumn = true := by decide +kernel
  rw [isKeyedCondition, columns]
  exact isKey

@[simp] theorem isKeyedJoin_plainJoin (join : JoinClause) :
    isKeyedJoin (plainJoin join) = isKeyedJoin join := by
  by_cases keyed : isKeyedJoin join = true
  · have shape : plainJoin join = { join with condition := some "USING (id)" } := by
      rw [plainJoin, if_pos keyed]
    rw [keyed, shape, isKeyedJoin, Bool.and_eq_true]
    rw [isKeyedJoin, Bool.and_eq_true] at keyed
    exact ⟨keyed.1, isKeyedCondition_id join.right⟩
  · have shape : plainJoin join = { join with condition := none } := by
      rw [plainJoin, if_neg keyed]
    rw [Bool.eq_false_iff.mpr keyed, shape, isKeyedJoin, Bool.and_false]

variable {scopes : CteScopes} {relations : Relations} {query : Query} {index : Nat}
  {script : ParsedScript}

/-! ### Profiles -/

@[simp] theorem ofScript_plainScript (script : ParsedScript) :
    CteScopes.ofScript (plainScript script) = .ofScript script := by
  rw [CteScopes.ofScript, CteScopes.ofScript, plainScript, List.foldl_map]
  rfl

theorem references_plainScript : references (plainScript script) scopes = references script scopes := by
  simp only [references, plainScript, List.zipIdx_map, List.flatMap_map]
  rfl

theorem joinsOf_plainScript :
    joinsOf (plainScript script) scopes =
      (joinsOf script scopes).map fun entry => (entry.1, entry.2.1, plainJoin entry.2.2) := by
  simp only [joinsOf, plainScript, List.zipIdx_map, List.flatMap_map, List.map_flatMap, plainQuery,
    Prod.map, List.map_map]
  rfl

theorem subqueryOf?_plainScript (name : String) :
    subqueryOf? (plainScript script) name = (subqueryOf? script name).map plainQuery := by
  rw [subqueryOf?, plainScript, List.find?_map]
  rfl

theorem isWritten_plainScript (name : String) :
    isWritten (plainScript script) name = isWritten script name := by
  rw [isWritten, plainScript, List.any_map]
  rfl

theorem describeOrigin_plainScript (key : RelationKey) (profile : TableProfile) :
    describeOrigin (plainScript script) key profile = describeOrigin script key profile := by
  cases key with
  | cte name => rfl
  | table name =>
      simp only [describeOrigin, subqueryOf?_plainScript, isWritten_plainScript]
      cases subqueryOf? script name <;> rfl

theorem countJoin_plainJoin (profiles : Profiles) (left right : RelationKey) (join : JoinClause) :
    countJoin profiles left right (plainJoin join) = countJoin profiles left right join := by
  simp only [countJoin, isKeyedJoin_plainJoin]

/-- The profiles of the relations do not depend on more of the conditions. -/
theorem profileTables_plainScript (script : ParsedScript) (scopes : CteScopes) :
    profileTables (plainScript script) scopes = profileTables script scopes := by
  simp only [profileTables, readRelations, references_plainScript, describeOrigin_plainScript,
    joinsOf_plainScript, List.foldl_map, countJoin_plainJoin]

theorem Relations.ofScript_plainScript (classifier : Classifier) (script : ParsedScript) :
    Relations.ofScript classifier (plainScript script) = .ofScript classifier script := by
  simp only [Relations.ofScript, Flow.ofScript_plainScript, profileTables_plainScript]

/-! ### Nodes and edges -/

theorem continues_plainJoin (previous : Option JoinClause) (join : JoinClause) :
    continues (previous.map plainJoin) (plainJoin join) = continues previous join := by
  cases previous <;> rfl

theorem endsChain_plainJoin (join : JoinClause) (rest : List JoinClause) :
    endsChain (plainJoin join) (rest.map plainJoin) = endsChain join rest := by
  cases rest <;> rfl

theorem sideNodes_plainJoin (previous : Option JoinClause) (joins : List JoinClause) :
    sideNodes relations index (previous.map plainJoin) (joins.map plainJoin) =
      sideNodes relations index previous joins := by
  induction joins generalizing previous with
  | nil => rfl
  | cons join rest ih =>
      rw [List.map_cons, sideNodes_cons, sideNodes_cons, continues_plainJoin]
      exact congrArg _ (congrArg _ (ih (some join)))

theorem joinEdges_plainQuery (targets : List String) (position : Nat) (previous : Option JoinClause)
    (joins : List JoinClause) :
    joinEdges relations index (plainQuery query) targets position (previous.map plainJoin)
        (joins.map plainJoin) =
      joinEdges relations index query targets position previous joins := by
  induction joins generalizing position previous with
  | nil => rfl
  | cons join rest ih =>
      have behind := ih (position + 1) (some join)
      rw [Option.map_some] at behind
      rw [List.map_cons, joinEdges_cons, joinEdges_cons, continues_plainJoin, endsChain_plainJoin, behind]
      rfl

theorem unjoinedTables_plainQuery :
    unjoinedTables scopes index (plainQuery query) = unjoinedTables scopes index query := by
  simp only [unjoinedTables, plainQuery, List.flatMap_map]
  rfl

theorem queryNodes_plainQuery (options : LayoutOptions) :
    queryNodes options relations (plainQuery query) index = queryNodes options relations query index := by
  have joins : (plainQuery query).joins.mapIdx (joinNode (plainQuery query)) =
      query.joins.mapIdx (joinNode query) := by
    rw [plainQuery, List.mapIdx_eq_zipIdx_map, List.zipIdx_map, List.map_map,
      List.mapIdx_eq_zipIdx_map]
    rfl
  have sides : sideNodes relations index none (plainQuery query).joins =
      sideNodes relations index none query.joins := sideNodes_plainJoin none query.joins
  rw [queryNodes, joins, sides]
  rfl

theorem queryEdges_plainQuery (options : LayoutOptions) :
    queryEdges options relations (plainQuery query) index = queryEdges options relations query index := by
  have joins : joinEdges relations index (plainQuery query)
      (targetIds options relations.scopes index query) 0 none (plainQuery query).joins =
        joinEdges relations index query (targetIds options relations.scopes index query) 0 none
          query.joins := joinEdges_plainQuery _ 0 none query.joins
  have targets : targetIds options relations.scopes index (plainQuery query) =
      targetIds options relations.scopes index query := rfl
  rw [queryEdges, targets, joins, tableEdges, targets, unjoinedTables_plainQuery]
  rfl

theorem addQuery_plainQuery (options : LayoutOptions) (draft : Draft) :
    addQuery options relations draft (plainQuery query) index =
      addQuery options relations draft query index := by
  rw [addQuery_eq, addQuery_eq, queryNodes_plainQuery, queryEdges_plainQuery]

theorem writtenNames_plainScript : writtenNames (plainScript script) = writtenNames script := by
  simp only [writtenNames, plainScript, List.flatMap_map]
  rfl

/-- The nodes and the edges of a script do not depend on more of the conditions. -/
theorem FlowLayout.draft_plainScript (layout : FlowLayout) (script : ParsedScript) :
    layout.draft (plainScript script) = layout.draft script := by
  simp only [FlowLayout.draft, Relations.ofScript_plainScript, writtenNames_plainScript]
  simp only [plainScript, List.zipIdx_map, List.foldl_map, Prod.map, addQuery_plainQuery, id]

end SqlLineage.Flow
