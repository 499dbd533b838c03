/-
Module: SqlLineage.Proofs.Flow.Layering
Purpose: The layers of every flow graph. The edges that are no back edges have no cycle, a back edge
  closes one, each node stands right behind the last of its predecessors, and the nodes are listed by
  layer and then by their first appearance.
Main exports: FlowGraph.Forward, FlowGraph.predecessors, FlowGraph.Layered, FlowLayout.layout_layered
-/
import Mathlib.Data.List.MinMax
import SqlLineage.Proofs.Flow.Placement
import SqlLineage.Proofs.Flow.ScriptDraft

namespace SqlLineage.Flow

open Lineage (ParsedScript)
open Relation (ReflTransGen TransGen)

namespace FlowGraph

/-- Some edge that is no back edge leads from the one node to the other. -/
def Forward (graph : FlowGraph) (source target : String) : Prop :=
  ∃ edge ∈ graph.edges, edge.source = source ∧ edge.target = target ∧ edge.isBackEdge = false

/-- The nodes from which an edge that is no back edge leads to this one. -/
def predecessors (graph : FlowGraph) (id : String) : List FlowNode :=
  graph.nodes.filter fun node =>
    graph.edges.any fun edge => edge.source == node.id && edge.target == id && !edge.isBackEdge

/-- What the layers of a graph say, given the ids of its nodes in order of first appearance and the ends of
its edges. -/
structure Layered (graph : FlowGraph) (appearance : List String) (links : List (String × String)) :
    Prop where
  drawn : graph.edges.map (fun edge => (edge.source, edge.target)) = links
  acyclic : ∀ id, ¬ TransGen graph.Forward id id
  /-- The target of a back edge reaches its source without back edges. -/
  closes : ∀ edge ∈ graph.edges, edge.isBackEdge = true →
    ReflTransGen graph.Forward edge.target edge.source
  noBackEdge : (∀ id, ¬ TransGen graph.Leads id id) →
    ∀ edge ∈ graph.edges, edge.isBackEdge = false
  layer : ∀ node ∈ graph.nodes,
    node.layer = ((graph.predecessors node.id).map (·.layer + 1)).max?.getD 0
  increasing : ∀ source ∈ graph.nodes, ∀ target ∈ graph.nodes,
    graph.Forward source.id target.id → source.layer < target.layer
  noEmptyLayer : ∀ node ∈ graph.nodes, ∀ layer < node.layer, ∃ other ∈ graph.nodes,
    other.layer = layer
  complete : (graph.nodes.map FlowNode.id).Perm appearance
  sorted : graph.nodes.Pairwise fun node other =>
    node.layer < other.layer ∨
      node.layer = other.layer ∧ appearance.idxOf node.id < appearance.idxOf other.id
  orders : ∀ layer,
    (graph.nodesOfLayer layer).map FlowNode.order = List.range (graph.nodesOfLayer layer).length

theorem mem_predecessors_iff {graph : FlowGraph} {id : String} {node : FlowNode} :
    node ∈ graph.predecessors id ↔ node ∈ graph.nodes ∧ graph.Forward node.id id := by
  simp [predecessors, Forward, and_assoc]

end FlowGraph

/-- The greatest of some numbers, or zero without any: a bound of all of them that is reached unless it
is zero. -/
theorem max?_getD_eq {numbers : List Nat} {bound : Nat} (above : ∀ number ∈ numbers, number ≤ bound)
    (reached : bound ≠ 0 → bound ∈ numbers) : numbers.max?.getD 0 = bound := by
  cases greatest : numbers.max? with
  | none =>
      rw [List.max?_eq_none_iff] at greatest
      subst greatest
      by_contra positive
      exact List.not_mem_nil (reached fun zero => positive zero.symm)
  | some most =>
      obtain ⟨member, largest⟩ := List.max?_eq_some_iff.mp greatest
      apply Nat.le_antisymm (above most member)
      by_cases zero : bound = 0
      · rw [zero]
        exact Nat.zero_le _
      · exact largest bound (reached zero)

theorem Draft.idxOf_ids (draft : Draft) (id : String) :
    (draft.nodes.map NodeDraft.id).idxOf id = draft.position id := by
  rw [List.idxOf, List.findIdx_map]
  rfl

namespace Placing

variable {options : LayoutOptions} {draft : Draft} {layers : List (List Nat)} {graph : FlowGraph}
  (placing : Placing options draft layers graph) (wellFormed : draft.WellFormed)

include placing

theorem forward_iff {source target : String} :
    graph.Forward source target ↔
      (source, target) ∈ draft.edges ∧ draft.isBack (source, target) = false := by
  rw [FlowGraph.Forward, placing.edges, Draft.placedEdges]
  constructor
  · intro known
    rcases known with ⟨edge, member, rfl, rfl, forward⟩
    obtain ⟨⟨source, target⟩, listed, rfl⟩ := List.mem_map.mp member
    exact ⟨listed, forward⟩
  · intro known
    rcases known with ⟨listed, forward⟩
    exact ⟨_, List.mem_map_of_mem listed, rfl, rfl, forward⟩

/-- An edge that is no back edge is unmarked at the positions of its nodes. -/
theorem leads_of_forward {source target : String} (forward : graph.Forward source target) :
    (draft.graph.without draft.graph.backEdges).Leads (draft.position source)
      (draft.position target) := by
  obtain ⟨listed, unmarked⟩ := placing.forward_iff.mp forward
  rw [Digraph.leads_without_iff]
  refine ⟨Draft.leads_graph_iff.mpr ⟨_, listed, rfl, rfl⟩, ?_⟩
  simpa [Draft.isBack, Draft.positions] using unmarked

/-- Edges that are no back edges lead to later layers. -/
theorem layer_lt {source target : String} (forward : graph.Forward source target) :
    Digraph.layerOf layers (draft.position source) <
      Digraph.layerOf layers (draft.position target) :=
  placing.layering.above _ _ (placing.leads_of_forward forward)

theorem acyclic (id : String) : ¬ TransGen graph.Forward id id := by
  have ascends : ∀ source target, TransGen graph.Forward source target →
      Digraph.layerOf layers (draft.position source) <
        Digraph.layerOf layers (draft.position target) := by
    intro source target path
    induction path with
    | single forward => exact placing.layer_lt forward
    | tail _ forward ih => exact ih.trans (placing.layer_lt forward)
  exact fun cycle => Nat.lt_irrefl _ (ascends id id cycle)

include wellFormed

/-- An unmarked edge between positions is no back edge between their nodes. -/
theorem forward_of_leads {source target : Nat}
    (leads : (draft.graph.without draft.graph.backEdges).Leads source target) :
    graph.Forward (draft.nodeAt source).id (draft.nodeAt target).id := by
  obtain ⟨leads, unmarked⟩ := Digraph.leads_without_iff.mp leads
  obtain ⟨⟨left, right⟩, listed, rfl, rfl⟩ := Draft.leads_graph_iff.mp leads
  have ends := wellFormed.closed _ listed
  rw [Draft.id_nodeAt_position ends.1, Draft.id_nodeAt_position ends.2, placing.forward_iff]
  exact ⟨listed, by simpa [Draft.isBack, Draft.positions] using unmarked⟩

theorem closes {edge : FlowEdge} (member : edge ∈ graph.edges) (isBack : edge.isBackEdge = true) :
    ReflTransGen graph.Forward edge.target edge.source := by
  rw [placing.edges] at member
  obtain ⟨⟨source, target⟩, listed, rfl⟩ := List.mem_map.mp member
  have ends := wellFormed.closed _ listed
  have marked : (draft.position source, draft.position target) ∈ draft.graph.backEdges := by
    simpa [Draft.isBack, Draft.positions] using isBack
  have path := ReflTransGen.lift (fun index => (draft.nodeAt index).id)
    (fun _ _ leads => placing.forward_of_leads wellFormed leads) _ _
    (Digraph.returns_of_mem_backEdges wellFormed.closed_graph marked)
  simpa only [Function.onFun, Draft.id_nodeAt_position ends.1, Draft.id_nodeAt_position ends.2]
    using path

/-- A node behind the first layer has a predecessor in the layer just before. -/
theorem exists_predecessor {node : FlowNode} (member : node ∈ graph.nodes) (deep : node.layer ≠ 0) :
    ∃ before ∈ graph.predecessors node.id, before.layer + 1 = node.layer := by
  have present := placing.hasNode_of_mem member
  rw [placing.layer_eq wellFormed member] at deep ⊢
  obtain ⟨source, leads, justBefore⟩ := placing.layering.tight (draft.position node.id)
    (List.mem_range.mpr (Draft.position_lt present)) deep
  have forward := placing.forward_of_leads wellFormed leads
  have bound : source < draft.nodes.length :=
    List.mem_range.mp (wellFormed.closed_graph _ _ (Digraph.leads_without_iff.mp leads).1).1
  obtain ⟨before, listed, same⟩ :=
    placing.exists_mem_of_hasNode (Draft.hasNode_id_nodeAt bound)
  rw [Draft.id_nodeAt_position present, ← same] at forward
  refine ⟨before, FlowGraph.mem_predecessors_iff.mpr ⟨listed, forward⟩, ?_⟩
  rw [placing.layer_eq wellFormed listed, same, wellFormed.position_nodeAt bound, justBefore]

theorem layer_lt_of_forward {source target : FlowNode} (sourceListed : source ∈ graph.nodes)
    (targetListed : target ∈ graph.nodes) (forward : graph.Forward source.id target.id) :
    source.layer < target.layer := by
  rw [placing.layer_eq wellFormed sourceListed, placing.layer_eq wellFormed targetListed]
  exact placing.layer_lt forward

theorem layer_eq_max {node : FlowNode} (member : node ∈ graph.nodes) :
    node.layer = ((graph.predecessors node.id).map (·.layer + 1)).max?.getD 0 := by
  refine (max?_getD_eq ?_ ?_).symm
  · intro number listed
    obtain ⟨before, isBefore, rfl⟩ := List.mem_map.mp listed
    obtain ⟨beforeListed, forward⟩ := FlowGraph.mem_predecessors_iff.mp isBefore
    exact placing.layer_lt_of_forward wellFormed beforeListed member forward
  · intro deep
    obtain ⟨before, isBefore, justBefore⟩ := placing.exists_predecessor wellFormed member deep
    exact List.mem_map.mpr ⟨before, isBefore, justBefore⟩

/-- Going from a node to predecessors meets every layer before its own. -/
theorem exists_of_layer_lt {node : FlowNode} (member : node ∈ graph.nodes) {layer : Nat}
    (before : layer < node.layer) : ∃ other ∈ graph.nodes, other.layer = layer := by
  induction depth : node.layer generalizing node with
  | zero => omega
  | succ depth' ih =>
      obtain ⟨predecessor, isBefore, justBefore⟩ :=
        placing.exists_predecessor wellFormed member (by omega)
      have listed := (FlowGraph.mem_predecessors_iff.mp isBefore).1
      by_cases here : predecessor.layer = layer
      · exact ⟨predecessor, listed, here⟩
      · exact ih listed (by omega) (by omega)

theorem sorted : graph.nodes.Pairwise fun node other =>
    node.layer < other.layer ∨
      node.layer = other.layer ∧ draft.position node.id < draft.position other.id := by
  rw [placing.nodes]
  apply pairwise_placeLayers wellFormed (bounded_of_layering placing.layering)
  intro members listed
  exact List.pairwise_lt_range.sublist (placing.layering.ordered members listed)

omit wellFormed in
theorem orders (layer : Nat) :
    (graph.nodesOfLayer layer).map FlowNode.order =
      List.range (graph.nodesOfLayer layer).length := by
  rw [FlowGraph.nodesOfLayer, placing.nodes, filter_layer_placeLayers, if_pos (Nat.zero_le _),
    map_order_placeLayer]
  simp [placeLayer]

theorem layered : graph.Layered (draft.nodes.map NodeDraft.id) draft.edges where
  drawn := by rw [placing.edges, draft.map_ends_placedEdges]
  acyclic := placing.acyclic
  closes edge member isBack := placing.closes wellFormed member isBack
  noBackEdge noCycle edge member := by
    by_contra isBack
    have path := placing.closes wellFormed member (by simpa using isBack)
    have weaker : graph.Forward ≤ graph.Leads := by
      rintro source target ⟨edge, listed, isSource, isTarget, _⟩
      exact ⟨edge, listed, isSource, isTarget⟩
    exact noCycle edge.source
      (TransGen.head' ⟨edge, member, rfl, rfl⟩ (ReflTransGen.mono weaker _ _ path))
  layer node member := placing.layer_eq_max wellFormed member
  increasing source sourceListed target targetListed forward :=
    placing.layer_lt_of_forward wellFormed sourceListed targetListed forward
  noEmptyLayer node member layer before := placing.exists_of_layer_lt wellFormed member before
  complete := placing.perm_ids
  sorted := by
    simp only [Draft.idxOf_ids]
    exact placing.sorted wellFormed
  orders := placing.orders

end Placing

/-- Every script is laid out, under any rules and options, and its graph is layered. -/
theorem FlowLayout.layout_layered (layout : FlowLayout) (script : ParsedScript) :
    ∃ graph, layout.layout script = .ok graph ∧
      graph.Layered ((layout.draft script).nodes.map NodeDraft.id) (layout.draft script).edges := by
  have wellFormed := layout.wellFormed_draft script
  obtain ⟨graph, layers, placed, placing⟩ := exists_placing layout.options wellFormed
  exact ⟨graph, placed, placing.layered wellFormed⟩

end SqlLineage.Flow
