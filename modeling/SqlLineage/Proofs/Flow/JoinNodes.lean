/-
Module: SqlLineage.Proofs.Flow.JoinNodes
Purpose: The nodes for the joins of a script. Each join has one, and no other node has the role; but joins
  at the same position of two queries share theirs if the ids of the queries differ in case at most.
Main exports: joinIds, Placing.mem_nodesWithRole_join_iff, Placing.length_nodesWithRole_join_iff
-/
import Mathlib.Data.List.Dedup
import Mathlib.Data.List.Nodup
import SqlLineage.Proofs.Flow.JoinPaths
import SqlLineage.Proofs.Flow.WellFormed

namespace SqlLineage.Flow

open Lineage (Query ParsedScript)

/-! ### The ids of all joins -/

/-- The ids of the nodes for the joins of a query, by position. -/
def joinIdsOf (query : Query) : List String := (List.range query.joins.length).map (joinId query)

/-- The ids of the nodes for the joins of a script, one for each join. -/
def joinIds (script : ParsedScript) : List String := script.queries.flatMap joinIdsOf

/-- The case-folded ids of the queries with joins. -/
def joiningIds (script : ParsedScript) : List String :=
  (script.queries.filter fun query => !query.joins.isEmpty).map fun query => Text.lowercase query.id

variable {script : ParsedScript}

theorem length_joinIds : (joinIds script).length = (script.queries.flatMap Query.joins).length := by
  simp [joinIds, joinIdsOf, List.length_flatMap]

theorem nodup_joinIdsOf (query : Query) : (joinIdsOf query).Nodup := by
  apply List.Nodup.map _ List.nodup_range
  intro position other same
  exact (joinId_inj.mp same).2

/-- Two queries with joins share a node for one of them exactly if their ids differ in case at most. -/
theorem disjoint_joinIdsOf_iff {query other : Query} :
    (joinIdsOf query).Disjoint (joinIdsOf other) ↔
      ((!query.joins.isEmpty) = true → (!other.joins.isEmpty) = true →
        Text.lowercase query.id ≠ Text.lowercase other.id) := by
  have first : ∀ {query : Query}, (!query.joins.isEmpty) = true → joinId query 0 ∈ joinIdsOf query := by
    intro query joins
    apply List.mem_map_of_mem
    rw [List.mem_range, List.length_pos_iff]
    simpa using joins
  have notEmpty : ∀ {query : Query} {position : Nat}, position ∈ List.range query.joins.length →
      (!query.joins.isEmpty) = true := by
    intro query position inRange
    have length := List.length_pos_iff.mp (Nat.zero_lt_of_lt (List.mem_range.mp inRange))
    simpa using length
  constructor
  · intro disjoint joins otherJoins same
    have shared : joinId query 0 = joinId other 0 := joinId_inj.mpr ⟨same, rfl⟩
    exact disjoint (first joins) (shared ▸ first otherJoins)
  · intro distinct id listed otherListed
    obtain ⟨position, inRange, rfl⟩ := List.mem_map.mp listed
    obtain ⟨otherPosition, otherInRange, same⟩ := List.mem_map.mp otherListed
    exact distinct (notEmpty inRange) (notEmpty otherInRange) (joinId_inj.mp same.symm).1

/-- Joins have nodes of their own exactly if no two queries with joins share an id. -/
theorem nodup_joinIds_iff : (joinIds script).Nodup ↔ (joiningIds script).Nodup := by
  rw [joinIds, List.nodup_flatMap, joiningIds, List.nodup_iff_pairwise_ne, List.pairwise_map,
    List.pairwise_filter]
  constructor
  · rintro ⟨_, disjoint⟩
    exact disjoint.imp disjoint_joinIdsOf_iff.mp
  · intro distinct
    exact ⟨fun query _ => nodup_joinIdsOf query, distinct.imp disjoint_joinIdsOf_iff.mpr⟩

/-! ### The nodes of a graph -/

section Script

variable {layout : FlowLayout} {graph : FlowGraph} {layers : List (List Nat)}

theorem hasNode_joinId_iff (lawful : layout.classifier.Lawful) {id : String} :
    (layout.draft script).hasNode id = true ∧ IsJoinId id ↔ id ∈ joinIds script := by
  rw [FlowLayout.hasNode_draft_iff]
  constructor
  · -- Nodes for relations and for results have other roles, which their ids show.
    rintro ⟨⟨index, query, located, node, listed, rfl⟩, isJoin⟩
    rcases mem_queryNodes_cases listed with ⟨table, _, rfl⟩ | ⟨position, join, joinLocated, rfl⟩ | ofTarget
    · exact absurd isJoin (not_isJoinId_referent lawful index table)
    · obtain ⟨bound, _⟩ := List.getElem?_eq_some_iff.mp joinLocated
      exact List.mem_flatMap.mpr ⟨query, List.mem_of_getElem? located,
        List.mem_map_of_mem (List.mem_range.mpr bound)⟩
    · exact absurd isJoin (not_isJoinId_of_mem_targetIds (List.mem_map_of_mem ofTarget))
  · intro listed
    obtain ⟨query, member, inQuery⟩ := List.mem_flatMap.mp listed
    obtain ⟨position, inRange, rfl⟩ := List.mem_map.mp inQuery
    obtain ⟨index, located⟩ := List.mem_iff_getElem?.mp member
    have joined := List.getElem?_eq_getElem (List.mem_range.mp inRange)
    exact ⟨⟨index, query, located, bringsIn_join joined⟩, isJoinId_joinId query position⟩

namespace Placing

variable (lawful : layout.classifier.Lawful)
  (placing : Placing layout.options (layout.draft script) layers graph)

include lawful placing

/-- The nodes for joins are those of the joins of the script. -/
theorem mem_nodesWithRole_join_iff {id : String} :
    id ∈ (graph.nodesWithRole .join).map FlowNode.id ↔ id ∈ joinIds script := by
  rw [← hasNode_joinId_iff lawful, List.mem_map]
  constructor
  · rintro ⟨node, listed, rfl⟩
    obtain ⟨member, isJoin⟩ := List.mem_filter.mp listed
    exact ⟨placing.hasNode_of_mem member, (placing.isJoinId_iff member).mpr (by simpa using isJoin)⟩
  · rintro ⟨present, isJoin⟩
    obtain ⟨node, member, rfl⟩ := placing.exists_mem_of_hasNode present
    have role := (placing.isJoinId_iff member).mp isJoin
    exact ⟨node, List.mem_filter.mpr ⟨member, by simpa using role⟩, rfl⟩

/-- There are as many nodes for joins as joins exactly if no two queries with joins share an id. -/
theorem length_nodesWithRole_join_iff :
    (graph.nodesWithRole .join).length = (script.queries.flatMap Query.joins).length ↔
      (joiningIds script).Nodup := by
  have wellFormed := placing.wellFormed (layout.wellFormed_draft script)
  have distinct : ((graph.nodesWithRole .join).map FlowNode.id).Nodup :=
    wellFormed.ids.sublist (List.filter_sublist.map _)
  -- So the nodes are as many as the different ids among those of all joins.
  have perm : ((graph.nodesWithRole .join).map FlowNode.id).Perm (joinIds script).dedup := by
    rw [List.perm_ext_iff_of_nodup distinct (List.nodup_dedup _)]
    intro id
    rw [List.mem_dedup]
    exact placing.mem_nodesWithRole_join_iff lawful
  rw [← length_joinIds, ← List.length_map FlowNode.id, perm.length_eq, ← nodup_joinIds_iff,
    ← List.dedup_eq_self]
  constructor
  · exact (List.dedup_sublist _).eq_of_length
  · intro same
    rw [same]

end Placing

end Script

end SqlLineage.Flow
