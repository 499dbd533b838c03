/-
Module: SqlLineage.Proofs.Flow.Placement
Purpose: Placing a well-formed draft always succeeds. Its nodes keep what they are and come layer by
  layer; its edges keep their order, and those that a search marks are the back edges.
Main exports: Draft.position, Draft.nodeAt, Draft.graph, Draft.placedEdges, placeLayers, FlowGraph.Leads,
  Placing, exists_placing
-/
import Mathlib.Data.List.Perm.Basic
import SqlLineage.Flow.Layout
import SqlLineage.Proofs.Flow.Draft
import SqlLineage.Proofs.Flow.Layers

namespace SqlLineage.Flow

namespace Draft

/-! ### Nodes by position -/

/-- The position of the node of this id. -/
def position (draft : Draft) (id : String) : Nat := draft.nodes.findIdx (·.id == id)

/-- The node at this position. -/
def nodeAt (draft : Draft) (index : Nat) : NodeDraft := draft.nodes.getD index default

variable {draft : Draft} {id : String} {index : Nat}

theorem position_lt (present : draft.hasNode id = true) :
    draft.position id < draft.nodes.length := by
  obtain ⟨node, member, same⟩ := hasNode_iff.mp present
  exact List.findIdx_lt_length_of_exists ⟨node, member, by simp [same]⟩

theorem indexOf?_eq_some (present : draft.hasNode id = true) :
    draft.indexOf? id = some (draft.position id) := by
  rw [indexOf?, List.findIdx?_eq_guard_findIdx_lt, position]
  simpa [Option.guard] using hasNode_iff.mp present

theorem nodeAt_eq_getElem (bound : index < draft.nodes.length) :
    draft.nodeAt index = draft.nodes[index] := by
  simp [nodeAt, bound]

theorem nodeAt_mem (bound : index < draft.nodes.length) : draft.nodeAt index ∈ draft.nodes := by
  rw [nodeAt_eq_getElem bound]
  exact List.getElem_mem bound

/-- At the position of an id stands its node. -/
theorem id_nodeAt_position (present : draft.hasNode id = true) :
    (draft.nodeAt (draft.position id)).id = id := by
  rw [nodeAt_eq_getElem (position_lt present)]
  exact eq_of_beq (List.findIdx_getElem (w := position_lt present))

theorem hasNode_id_nodeAt (bound : index < draft.nodes.length) :
    draft.hasNode (draft.nodeAt index).id = true :=
  hasNode_iff.mpr ⟨_, nodeAt_mem bound, rfl⟩

/-- Nodes at different positions have different ids. -/
theorem WellFormed.index_eq_of_id_eq (wellFormed : draft.WellFormed) {other : Nat}
    (bound : index < draft.nodes.length) (otherBound : other < draft.nodes.length)
    (same : (draft.nodeAt index).id = (draft.nodeAt other).id) : index = other := by
  have left : index < (draft.nodes.map NodeDraft.id).length := by simpa using bound
  have right : other < (draft.nodes.map NodeDraft.id).length := by simpa using otherBound
  have equal : (draft.nodes.map NodeDraft.id)[index] = (draft.nodes.map NodeDraft.id)[other] := by
    rw [List.getElem_map, List.getElem_map, ← nodeAt_eq_getElem bound,
      ← nodeAt_eq_getElem otherBound, same]
  exact wellFormed.ids.getElem_inj_iff.mp equal

theorem WellFormed.position_nodeAt (wellFormed : draft.WellFormed)
    (bound : index < draft.nodes.length) : draft.position (draft.nodeAt index).id = index := by
  have present := hasNode_id_nodeAt bound
  exact wellFormed.index_eq_of_id_eq (position_lt present) bound (id_nodeAt_position present)

theorem map_nodeAt_range : (List.range draft.nodes.length).map draft.nodeAt = draft.nodes := by
  apply List.ext_getElem
  · simp
  · intro position left right
    simp [nodeAt, right]

/-! ### The draft as a graph over positions -/

/-- An edge by the positions of its nodes. -/
def positions (draft : Draft) (edge : String × String) : Nat × Nat :=
  (draft.position edge.1, draft.position edge.2)

/-- The draft as a graph over the positions of its nodes. -/
def graph (draft : Draft) : Digraph Nat :=
  { nodes := List.range draft.nodes.length, edges := draft.edges.map draft.positions }

theorem mapM_eq_ok {α β ε : Type} {read : α → Except ε β} {value : α → β} {items : List α}
    (succeeds : ∀ item ∈ items, read item = .ok (value item)) :
    items.mapM read = .ok (items.map value) := by
  induction items with
  | nil => rfl
  | cons item rest ih =>
      rw [List.mapM_cons, succeeds item List.mem_cons_self,
        ih fun other listed => succeeds other (List.mem_cons_of_mem _ listed)]
      rfl

theorem WellFormed.digraph_eq (wellFormed : draft.WellFormed) : draft.digraph = .ok draft.graph := by
  have found : ∀ edge ∈ draft.edges, draft.edgeIndices edge = .ok (draft.positions edge) := by
    intro edge member
    have ends := wellFormed.closed edge member
    rw [edgeIndices, indexOf?_eq_some ends.1, indexOf?_eq_some ends.2, positions]
  rw [digraph, mapM_eq_ok found]
  rfl

theorem leads_graph_iff {source target : Nat} :
    draft.graph.Leads source target ↔
      ∃ edge ∈ draft.edges, draft.position edge.1 = source ∧ draft.position edge.2 = target := by
  simp [Digraph.Leads, graph, positions]

theorem WellFormed.closed_graph (wellFormed : draft.WellFormed) : draft.graph.Closed := by
  intro source target leads
  obtain ⟨edge, member, rfl, rfl⟩ := leads_graph_iff.mp leads
  have ends := wellFormed.closed edge member
  simp only [graph, List.mem_range]
  exact ⟨position_lt ends.1, position_lt ends.2⟩

/-- Whether a search marks the edge. -/
def isBack (draft : Draft) (edge : String × String) : Bool :=
  draft.graph.backEdges.contains (draft.positions edge)

/-- The edges of a draft as they are placed. -/
def placedEdges (draft : Draft) : List FlowEdge :=
  draft.edges.map fun edge =>
    { id := edgeId edge.1 edge.2
      source := edge.1
      target := edge.2
      isBackEdge := draft.isBack edge }

theorem map_ends_placedEdges (draft : Draft) :
    draft.placedEdges.map (fun edge => (edge.source, edge.target)) = draft.edges := by
  rw [placedEdges, List.map_map]
  exact List.map_id _

end Draft

/-! ### The nodes of the layers -/

/-- What a placed node was in the draft. -/
def FlowNode.origin (node : FlowNode) : NodeDraft :=
  { id := node.id, label := node.label, role := node.role, queryId := node.queryId }

/-- One layer, given the positions of its nodes. -/
def placeLayer (options : LayoutOptions) (draft : Draft) (members : List Nat) (layer : Nat) :
    List FlowNode :=
  members.mapIdx fun order index => (draft.nodeAt index).place options layer order

/-- The layers from a number on. -/
def placeLayers (options : LayoutOptions) (draft : Draft) (first : Nat) (layers : List (List Nat)) :
    List FlowNode :=
  (layers.zipIdx first).flatMap fun entry => placeLayer options draft entry.1 entry.2

section Layers

variable {options : LayoutOptions} {draft : Draft} {members : List Nat} {layer first : Nat}
  {layers : List (List Nat)}

theorem placeNodes_eq
    (bounded : ∀ members ∈ layers, ∀ index ∈ members, index < draft.nodes.length) :
    placeNodes options draft layers = placeLayers options draft 0 layers := by
  have known : ∀ members : List Nat, (∀ index ∈ members, index < draft.nodes.length) →
      members.filterMap (draft.nodes[·]?) = members.map draft.nodeAt := by
    intro members bounds
    rw [← List.filterMap_eq_map]
    apply List.filterMap_congr
    intro index listed
    simp [Draft.nodeAt, bounds index listed]
  apply List.flatMap_congr
  rintro ⟨members, layer⟩ listed
  have member := List.fst_mem_of_mem_zipIdx listed
  simp only [known members (bounded members member)]
  apply List.ext_getElem
  · simp [placeLayer]
  · intro order left right
    simp [placeLayer]

theorem mem_placeLayer_iff {node : FlowNode} :
    node ∈ placeLayer options draft members layer ↔
      ∃ order, ∃ bound : order < members.length,
        (draft.nodeAt members[order]).place options layer order = node :=
  List.mem_mapIdx

theorem map_origin_placeLayer :
    (placeLayer options draft members layer).map FlowNode.origin = members.map draft.nodeAt := by
  apply List.ext_getElem
  · simp [placeLayer]
  · intro order left right
    simp [placeLayer, NodeDraft.place, FlowNode.origin]

theorem map_order_placeLayer :
    (placeLayer options draft members layer).map FlowNode.order = List.range members.length := by
  apply List.ext_getElem
  · simp [placeLayer]
  · intro order left right
    simp [placeLayer, NodeDraft.place]

theorem map_origin_placeLayers :
    (placeLayers options draft first layers).map FlowNode.origin =
      layers.flatten.map draft.nodeAt := by
  induction layers generalizing first with
  | nil => rfl
  | cons members rest ih =>
      simp only [placeLayers, List.zipIdx_cons, List.flatMap_cons, List.map_append,
        List.flatten_cons, map_origin_placeLayer]
      exact congrArg _ ih

/-- A placed node stands for one of the positions of its layer. -/
theorem exists_of_mem_placeLayers {node : FlowNode}
    (listed : node ∈ placeLayers options draft first layers) :
    ∃ members, first ≤ node.layer ∧ layers[node.layer - first]? = some members ∧
      node ∈ placeLayer options draft members node.layer := by
  obtain ⟨⟨members, layer⟩, entry, placed⟩ := List.mem_flatMap.mp listed
  obtain ⟨order, bound, rfl⟩ := mem_placeLayer_iff.mp placed
  exact ⟨members, List.le_snd_of_mem_zipIdx entry, (List.mk_mem_zipIdx_iff_le_and_getElem?_sub.mp entry).2,
    placed⟩

/-- The nodes of a layer show its number. -/
theorem layer_of_mem_placeLayer {node : FlowNode}
    (listed : node ∈ placeLayer options draft members layer) : node.layer = layer := by
  obtain ⟨order, bound, rfl⟩ := mem_placeLayer_iff.mp listed
  rfl

/-- The nodes with one layer number are those of that layer. -/
theorem filter_layer_placeLayers (number : Nat) :
    (placeLayers options draft first layers).filter (·.layer = number) =
      if first ≤ number then placeLayer options draft (layers.getD (number - first) []) number
      else [] := by
  induction layers generalizing first with
  | nil => simp [placeLayers, placeLayer]
  | cons members rest ih =>
      have split : placeLayers options draft first (members :: rest) =
          placeLayer options draft members first ++ placeLayers options draft (first + 1) rest := by
        simp [placeLayers, List.zipIdx_cons]
      rw [split, List.filter_append, ih]
      by_cases here : first = number
      · subst here
        have all : (placeLayer options draft members first).filter (·.layer = first) =
            placeLayer options draft members first := by
          rw [List.filter_eq_self]
          intro node listed
          simpa using layer_of_mem_placeLayer listed
        simp [all]
      · have none : (placeLayer options draft members first).filter (·.layer = number) = [] := by
          rw [List.filter_eq_nil_iff]
          intro node listed
          simpa [layer_of_mem_placeLayer listed] using here
        rw [none, List.nil_append]
        by_cases later : first + 1 ≤ number
        · obtain ⟨distance, rfl⟩ := Nat.exists_eq_add_of_le later
          have steps : first + 1 + distance - first = distance + 1 := by omega
          simp [steps, Nat.le_of_succ_le later]
        · have notLater : ¬ first ≤ number := by omega
          rw [if_neg later, if_neg notLater]

/-- The layers come one after the other, and within a layer the positions grow. -/
theorem pairwise_placeLayers (wellFormed : draft.WellFormed)
    (bounded : ∀ members ∈ layers, ∀ index ∈ members, index < draft.nodes.length)
    (sorted : ∀ members ∈ layers, members.Pairwise (· < ·)) :
    (placeLayers options draft first layers).Pairwise fun node other =>
      node.layer < other.layer ∨
        node.layer = other.layer ∧ draft.position node.id < draft.position other.id := by
  apply List.pairwise_flatMap.mpr
  constructor
  · rintro ⟨members, layer⟩ entry
    have member : members ∈ layers := List.fst_mem_of_mem_zipIdx entry
    rw [List.pairwise_iff_getElem]
    intro i j left right before
    have leftBound : i < members.length := by simpa [placeLayer] using left
    have rightBound : j < members.length := by simpa [placeLayer] using right
    have grows := List.pairwise_iff_getElem.mp (sorted members member) i j leftBound rightBound before
    apply Or.inr
    simpa [placeLayer, NodeDraft.place, wellFormed.position_nodeAt,
      bounded members member _ (List.getElem_mem leftBound),
      bounded members member _ (List.getElem_mem rightBound)] using grows
  · have numbers : ((layers.zipIdx first).map Prod.snd).Pairwise (· < ·) := by
      rw [List.zipIdx_map_snd]
      exact List.pairwise_lt_range'
    apply (List.pairwise_map.mp numbers).imp
    intro entry later before node listed other otherListed
    rw [layer_of_mem_placeLayer listed, layer_of_mem_placeLayer otherListed]
    exact Or.inl before

end Layers

/-! ### The placed draft -/

/-- Some edge leads from the one node to the other. -/
def FlowGraph.Leads (graph : FlowGraph) (source target : String) : Prop :=
  ∃ edge ∈ graph.edges, edge.source = source ∧ edge.target = target

/-- How the nodes and edges of a graph come from a draft and its layers. -/
structure Placing (options : LayoutOptions) (draft : Draft) (layers : List (List Nat))
    (graph : FlowGraph) : Prop where
  layering : Digraph.Layering (List.range draft.nodes.length)
    (draft.graph.without draft.graph.backEdges).edges layers
  nodes : graph.nodes = placeLayers options draft 0 layers
  edges : graph.edges = draft.placedEdges

section Placing

variable {options : LayoutOptions} {draft : Draft} {layers : List (List Nat)}

theorem bounded_of_layering {edges : List (Nat × Nat)}
    (layering : Digraph.Layering (List.range draft.nodes.length) edges layers) :
    ∀ members ∈ layers, ∀ index ∈ members, index < draft.nodes.length := by
  intro members listed index member
  exact List.mem_range.mp ((layering.ordered members listed).mem member)

/-- A well-formed draft is placed: without the marked edges it falls into layers. -/
theorem exists_placing (options : LayoutOptions) {draft : Draft} (wellFormed : draft.WellFormed) :
    ∃ graph layers, place options draft = .ok graph ∧ Placing options draft layers graph := by
  obtain ⟨layers, layered, layering⟩ := Digraph.layers?_without_backEdges wellFormed.closed_graph
  have edges : List.zipWith
      (fun edge indices =>
        { id := edgeId edge.1 edge.2
          source := edge.1
          target := edge.2
          isBackEdge := draft.graph.backEdges.contains indices : FlowEdge })
      draft.edges draft.graph.edges = draft.placedEdges := by
    rw [Draft.graph, List.zipWith_map_right, List.zipWith_self]
    rfl
  refine ⟨.ofParts (placeNodes options draft layers) draft.placedEdges, layers, ?_, layering,
    placeNodes_eq (bounded_of_layering layering), rfl⟩
  rw [place, wellFormed.digraph_eq]
  simp only [bind, Except.bind, layered, edges]
  rfl

namespace Placing

variable {graph : FlowGraph} (placing : Placing options draft layers graph)

include placing

/-- A graph has the edges of its draft. -/
theorem leads_iff {source target : String} :
    graph.Leads source target ↔ (source, target) ∈ draft.edges := by
  rw [FlowGraph.Leads, placing.edges, Draft.placedEdges]
  constructor
  · intro leads
    rcases leads with ⟨edge, member, rfl, rfl⟩
    obtain ⟨_, listed, rfl⟩ := List.mem_map.mp member
    exact listed
  · intro listed
    exact ⟨_, List.mem_map_of_mem listed, rfl, rfl⟩

/-- Placing changes the order of the nodes, and nothing else about them. -/
theorem perm_origin : (graph.nodes.map FlowNode.origin).Perm draft.nodes := by
  rw [placing.nodes, map_origin_placeLayers]
  have perm := placing.layering.perm.map draft.nodeAt
  rwa [Draft.map_nodeAt_range] at perm

theorem perm_ids : (graph.nodes.map FlowNode.id).Perm (draft.nodes.map NodeDraft.id) := by
  have perm := placing.perm_origin.map NodeDraft.id
  rwa [List.map_map] at perm

theorem origin_mem {node : FlowNode} (member : node ∈ graph.nodes) : node.origin ∈ draft.nodes :=
  placing.perm_origin.subset (List.mem_map_of_mem member)

theorem hasNode_of_mem {node : FlowNode} (member : node ∈ graph.nodes) :
    draft.hasNode node.id = true :=
  Draft.hasNode_iff.mpr ⟨node.origin, placing.origin_mem member, rfl⟩

theorem exists_mem_of_hasNode {id : String} (present : draft.hasNode id = true) :
    ∃ node ∈ graph.nodes, node.id = id := by
  obtain ⟨origin, member, same⟩ := Draft.hasNode_iff.mp present
  obtain ⟨node, listed, rfl⟩ := List.mem_map.mp (placing.perm_origin.symm.subset member)
  exact ⟨node, listed, same⟩

/-- The layer of a node is that of its position. -/
theorem layer_eq (wellFormed : draft.WellFormed) {node : FlowNode} (member : node ∈ graph.nodes) :
    node.layer = Digraph.layerOf layers (draft.position node.id) := by
  rw [placing.nodes] at member
  obtain ⟨members, _, located, placed⟩ := exists_of_mem_placeLayers member
  obtain ⟨order, bound, same⟩ := mem_placeLayer_iff.mp placed
  have inLayers : members ∈ layers := List.mem_of_getElem? located
  have small := bounded_of_layering placing.layering members inLayers _ (List.getElem_mem bound)
  have position : draft.position node.id = members[order] := by
    rw [← same]
    exact wellFormed.position_nodeAt small
  rw [position]
  have nodup : layers.flatten.Nodup :=
    placing.layering.perm.nodup_iff.mpr List.nodup_range
  exact (Digraph.layerOf_eq_of_mem nodup located (List.getElem_mem bound)).symm

end Placing

end Placing

end SqlLineage.Flow
