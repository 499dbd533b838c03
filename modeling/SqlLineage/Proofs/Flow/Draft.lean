/-
Module: SqlLineage.Proofs.Flow.Draft
Purpose: What a draft holds after nodes and edges were added to it, and that it stays well formed: ids
  are distinct and show the role of their node, and the edges are distinct and join two different nodes.
Main exports: cutFirst_nodeId, nodeId_inj, Draft.WellFormed, Draft.addNodes, Draft.addEdgeList,
  Draft.WellFormed.addNodes, Draft.WellFormed.addEdgeList
-/
import Mathlib.Data.List.Nodup
import SqlLineage.Flow.Draft
import SqlLineage.Proofs.Text.Cut

namespace SqlLineage.Flow

/-! ### Node ids -/

theorem NodeRole.colon_not_mem_slug (role : NodeRole) : ':' ∉ role.slug.toList := by
  cases role <;> decide

/-- The first colon of an id stands between the slug of the role and the case-folded name. -/
theorem cutFirst_nodeId (role : NodeRole) (name : String) :
    Text.cutFirst ':' (nodeId role name).toList =
      some (role.slug.toList, (Text.lowercase name).toList) := by
  have split : (nodeId role name).toList =
      role.slug.toList ++ ':' :: (Text.lowercase name).toList := by
    simp [nodeId]
  rw [split]
  exact Text.cutFirst_append role.colon_not_mem_slug _

/-- Two ids agree only if the roles and the case-folded names do. -/
theorem nodeId_inj {role other : NodeRole} {name otherName : String} :
    nodeId role name = nodeId other otherName ↔
      role = other ∧ Text.lowercase name = Text.lowercase otherName := by
  constructor
  · intro same
    have cut := cutFirst_nodeId role name
    rw [same, cutFirst_nodeId other otherName] at cut
    simp only [Option.some.injEq, Prod.mk.injEq, String.toList_inj] at cut
    exact ⟨(NodeRole.slug_injective cut.1).symm, cut.2.symm⟩
  · intro known
    rcases known with ⟨rfl, same⟩
    rw [nodeId, nodeId, same]

namespace Draft

/-! ### Adding nodes and edges -/

/-- Adds several nodes. -/
def addNodes (nodes : List NodeDraft) (draft : Draft) : Draft :=
  nodes.foldl (fun draft node => draft.addNode node) draft

/-- Adds several edges. -/
def addEdgeList (edges : List (String × String)) (draft : Draft) : Draft :=
  edges.foldl (fun draft edge => draft.addEdge edge.1 edge.2) draft

variable {draft : Draft}

theorem hasNode_iff {id : String} :
    draft.hasNode id = true ↔ ∃ node ∈ draft.nodes, node.id = id := by
  simp [hasNode]

@[simp] theorem hasNode_addNode_iff {node : NodeDraft} {id : String} :
    (draft.addNode node).hasNode id = true ↔ draft.hasNode id = true ∨ node.id = id := by
  unfold addNode
  split
  · next present =>
      constructor
      · exact Or.inl
      · intro known
        rcases known with old | rfl
        · exact old
        · exact present
  · simp [hasNode]

@[simp] theorem hasNode_addEdge {source target id : String} :
    (draft.addEdge source target).hasNode id = draft.hasNode id := by
  simp [hasNode]

@[simp] theorem mem_edges_addEdge_iff {source target : String} {edge : String × String} :
    edge ∈ (draft.addEdge source target).edges ↔
      edge ∈ draft.edges ∨ source ≠ target ∧ edge = (source, target) := by
  unfold addEdge
  by_cases same : source = target
  · simp [same]
  · by_cases present : (source, target) ∈ draft.edges
    · rw [if_pos (by simp [present])]
      constructor
      · exact Or.inl
      · intro known
        rcases known with old | ⟨_, rfl⟩
        · exact old
        · exact present
    · simp [same, present]

@[simp] theorem edges_addNodes (nodes : List NodeDraft) : (draft.addNodes nodes).edges = draft.edges := by
  unfold addNodes
  induction nodes generalizing draft with
  | nil => rfl
  | cons node rest ih => rw [List.foldl_cons, ih, edges_addNode]

@[simp] theorem hasNode_addNodes_iff {nodes : List NodeDraft} {id : String} :
    (draft.addNodes nodes).hasNode id = true ↔
      draft.hasNode id = true ∨ ∃ node ∈ nodes, node.id = id := by
  unfold addNodes
  induction nodes generalizing draft with
  | nil => simp
  | cons node rest ih => simp [ih, or_assoc]

/-- A node of a draft that a node was added to is that one or was there before. -/
theorem mem_nodes_addNode {first node : NodeDraft} (member : node ∈ (draft.addNode first).nodes) :
    node ∈ draft.nodes ∨ node = first := by
  unfold addNode at member
  split at member
  · exact Or.inl member
  · exact (List.mem_append.mp member).imp_right List.mem_singleton.mp

theorem mem_nodes_addNodes {nodes : List NodeDraft} {node : NodeDraft}
    (member : node ∈ (draft.addNodes nodes).nodes) : node ∈ draft.nodes ∨ node ∈ nodes := by
  unfold addNodes at member
  induction nodes generalizing draft with
  | nil => exact Or.inl member
  | cons first rest ih =>
      rw [List.foldl_cons] at member
      rcases ih member with old | later
      · rcases mem_nodes_addNode old with before | rfl
        · exact Or.inl before
        · exact Or.inr List.mem_cons_self
      · exact Or.inr (List.mem_cons_of_mem _ later)

@[simp] theorem nodes_addEdgeList (edges : List (String × String)) :
    (draft.addEdgeList edges).nodes = draft.nodes := by
  unfold addEdgeList
  induction edges generalizing draft with
  | nil => rfl
  | cons edge rest ih => rw [List.foldl_cons, ih, nodes_addEdge]

@[simp] theorem hasNode_addEdgeList (edges : List (String × String)) (id : String) :
    (draft.addEdgeList edges).hasNode id = draft.hasNode id := by
  rw [hasNode, nodes_addEdgeList, ← hasNode]

@[simp] theorem mem_edges_addEdgeList_iff {edges : List (String × String)} {edge : String × String} :
    edge ∈ (draft.addEdgeList edges).edges ↔
      edge ∈ draft.edges ∨ edge.1 ≠ edge.2 ∧ edge ∈ edges := by
  unfold addEdgeList
  induction edges generalizing draft with
  | nil => simp
  | cons first rest ih =>
      rw [List.foldl_cons, ih, mem_edges_addEdge_iff, List.mem_cons, or_assoc]
      constructor
      · intro known
        rcases known with old | ⟨proper, rfl⟩ | ⟨proper, listed⟩
        · exact Or.inl old
        · exact Or.inr ⟨proper, Or.inl rfl⟩
        · exact Or.inr ⟨proper, Or.inr listed⟩
      · intro known
        rcases known with old | ⟨proper, rfl | listed⟩
        · exact Or.inl old
        · exact Or.inr (Or.inl ⟨proper, rfl⟩)
        · exact Or.inr (Or.inr ⟨proper, listed⟩)

/-! ### Well-formed drafts -/

/-- Each id stands for one node and shows its role; each edge joins two different nodes of the draft, and
two nodes are joined once. -/
structure WellFormed (draft : Draft) : Prop where
  ids : (draft.nodes.map NodeDraft.id).Nodup
  named : ∀ node ∈ draft.nodes, ∃ name, node.id = nodeId node.role name
  closed : ∀ edge ∈ draft.edges, draft.hasNode edge.1 = true ∧ draft.hasNode edge.2 = true
  proper : ∀ edge ∈ draft.edges, edge.1 ≠ edge.2
  single : draft.edges.Nodup

namespace WellFormed

theorem empty : WellFormed {} := by
  constructor <;> simp

theorem addNode (wellFormed : WellFormed draft) {node : NodeDraft}
    (named : ∃ name, node.id = nodeId node.role name) : WellFormed (draft.addNode node) where
  ids := by
    unfold Draft.addNode
    split
    · exact wellFormed.ids
    · next absent =>
        have isNew : node.id ∉ draft.nodes.map NodeDraft.id := by
          intro listed
          obtain ⟨other, member, same⟩ := List.mem_map.mp listed
          exact absent (hasNode_iff.mpr ⟨other, member, same⟩)
        rw [List.map_append, List.map_singleton]
        exact List.nodup_append_comm.mp (List.nodup_cons.mpr ⟨isNew, wellFormed.ids⟩)
  named other member := by
    unfold Draft.addNode at member
    split at member
    · exact wellFormed.named other member
    · rcases List.mem_append.mp member with old | new
      · exact wellFormed.named other old
      · rw [List.mem_singleton.mp new]
        exact named
  closed edge member := by
    rw [edges_addNode] at member
    have ends := wellFormed.closed edge member
    exact ⟨hasNode_addNode_iff.mpr (Or.inl ends.1), hasNode_addNode_iff.mpr (Or.inl ends.2)⟩
  proper edge member := by
    rw [edges_addNode] at member
    exact wellFormed.proper edge member
  single := by
    rw [edges_addNode]
    exact wellFormed.single

theorem addEdge (wellFormed : WellFormed draft) {source target : String}
    (hasSource : draft.hasNode source = true) (hasTarget : draft.hasNode target = true) :
    WellFormed (draft.addEdge source target) where
  ids := by
    rw [nodes_addEdge]
    exact wellFormed.ids
  named := by
    rw [nodes_addEdge]
    exact wellFormed.named
  closed edge member := by
    rw [hasNode_addEdge, hasNode_addEdge]
    rcases mem_edges_addEdge_iff.mp member with old | ⟨_, rfl⟩
    · exact wellFormed.closed edge old
    · exact ⟨hasSource, hasTarget⟩
  proper edge member := by
    rcases mem_edges_addEdge_iff.mp member with old | ⟨proper, rfl⟩
    · exact wellFormed.proper edge old
    · exact proper
  single := by
    unfold Draft.addEdge
    split
    · exact wellFormed.single
    · next isNew =>
        have absent : (source, target) ∉ draft.edges := by
          intro present
          simp [present] at isNew
        exact List.nodup_append_comm.mp (List.nodup_cons.mpr ⟨absent, wellFormed.single⟩)

theorem addNodes {nodes : List NodeDraft} (wellFormed : WellFormed draft)
    (named : ∀ node ∈ nodes, ∃ name, node.id = nodeId node.role name) :
    WellFormed (draft.addNodes nodes) := by
  induction nodes generalizing draft with
  | nil => exact wellFormed
  | cons node rest ih =>
      have first := wellFormed.addNode (named node List.mem_cons_self)
      exact ih first fun other listed => named other (List.mem_cons_of_mem _ listed)

theorem addEdgeList {edges : List (String × String)} (wellFormed : WellFormed draft)
    (closed : ∀ edge ∈ edges, draft.hasNode edge.1 = true ∧ draft.hasNode edge.2 = true) :
    WellFormed (draft.addEdgeList edges) := by
  induction edges generalizing draft with
  | nil => exact wellFormed
  | cons edge rest ih =>
      have ends := closed edge List.mem_cons_self
      apply ih (wellFormed.addEdge ends.1 ends.2)
      intro other listed
      simpa using closed other (List.mem_cons_of_mem _ listed)

end WellFormed

end Draft

end SqlLineage.Flow
