/-
Module: SqlLineage.Proofs.Flow.Layers
Purpose: The layers of a graph without cycles. Taking off the nodes that no edge leads to, again and
  again, succeeds, and puts each node right behind the last layer from which an edge leads to it.
Main exports: Digraph.layerOf, Digraph.Layering, Digraph.peel_layering,
  Digraph.layers?_without_backEdges
-/
import Mathlib.Data.List.Basic
import Mathlib.Data.List.Perm.Basic
import SqlLineage.Proofs.Flow.BackEdges

namespace SqlLineage.Flow

namespace Digraph

variable {α : Type} [DecidableEq α]

/-- The position of the first layer that holds the node. -/
def layerOf (layers : List (List α)) (node : α) : Nat :=
  layers.findIdx fun layer => decide (node ∈ layer)

/-- The layers hold each node once, in the order of the nodes, and the edges decide the layer: each edge
leads to a later layer, and behind the first layer some edge comes from the layer just before. -/
structure Layering (nodes : List α) (edges : List (α × α)) (layers : List (List α)) : Prop where
  perm : layers.flatten.Perm nodes
  nonempty : ∀ layer ∈ layers, layer ≠ []
  ordered : ∀ layer ∈ layers, layer.Sublist nodes
  above : ∀ source target, (source, target) ∈ edges → layerOf layers source < layerOf layers target
  tight : ∀ node ∈ nodes, layerOf layers node ≠ 0 →
    ∃ source, (source, node) ∈ edges ∧ layerOf layers source + 1 = layerOf layers node

@[simp] theorem layerOf_cons_of_mem {layer : List α} {node : α} (member : node ∈ layer)
    (layers : List (List α)) : layerOf (layer :: layers) node = 0 := by
  simp [layerOf, List.findIdx_cons, member]

@[simp] theorem layerOf_cons_of_not_mem {layer : List α} {node : α} (other : node ∉ layer)
    (layers : List (List α)) : layerOf (layer :: layers) node = layerOf layers node + 1 := by
  simp [layerOf, List.findIdx_cons, other]

/-- Where no node is listed twice, every layer that holds a node is the first one. -/
theorem layerOf_eq_of_mem {layers : List (List α)} (nodup : layers.flatten.Nodup) {number : Nat}
    {layer : List α} (located : layers[number]? = some layer) {node : α} (member : node ∈ layer) :
    layerOf layers node = number := by
  induction layers generalizing number with
  | nil => cases located
  | cons first rest ih =>
      rw [List.flatten_cons] at nodup
      cases number with
      | zero =>
          cases located
          exact layerOf_cons_of_mem member rest
      | succ number =>
          have later : node ∈ rest.flatten :=
            List.mem_flatten.mpr ⟨layer, List.mem_of_getElem? located, member⟩
          have notFirst : node ∉ first :=
            fun early => List.disjoint_of_nodup_append nodup early later
          rw [layerOf_cons_of_not_mem notFirst, ih (List.nodup_append.mp nodup).2.1 located]

theorem isSource_iff {edges : List (α × α)} {node : α} :
    isSource edges node = true ↔ ∀ source, (source, node) ∉ edges := by
  simp only [isSource, List.all_eq_true, decide_eq_true_eq]
  constructor
  · intro all source isEdge
    exact all (source, node) isEdge rfl
  · rintro none ⟨source, target⟩ isEdge rfl
    exact none source isEdge

/-- Going back along edges lowers the rank, so among finitely many nodes there is one that no edge leads
to. -/
theorem exists_isSource {nodes : List α} {edges : List (α × α)} {rank : α → Nat}
    (closed : ∀ source target, (source, target) ∈ edges → source ∈ nodes)
    (ranked : ∀ source target, (source, target) ∈ edges → rank source < rank target)
    {node : α} (member : node ∈ nodes) : ∃ source ∈ nodes, isSource edges source = true := by
  induction height : rank node using Nat.strongRecOn generalizing node with
  | ind bound ih =>
      by_cases isFirst : isSource edges node = true
      · exact ⟨node, member, isFirst⟩
      · rw [isSource_iff] at isFirst
        push Not at isFirst
        obtain ⟨source, isEdge⟩ := isFirst
        have lower : rank source < bound := height ▸ ranked source node isEdge
        exact ih (rank source) lower (closed source node isEdge) rfl

/-! ### Taking off the first layer -/

/-- The nodes that some edge leads to. -/
def reached (nodes : List α) (edges : List (α × α)) : List α :=
  nodes.filter fun node => !isSource edges node

/-- The edges from these nodes. -/
def edgesFrom (nodes : List α) (edges : List (α × α)) : List (α × α) :=
  edges.filter fun edge => edge.1 ∈ nodes

theorem mem_edgesFrom {nodes : List α} {edges : List (α × α)} {source target : α} :
    (source, target) ∈ edgesFrom nodes edges ↔ (source, target) ∈ edges ∧ source ∈ nodes := by
  simp [edgesFrom]

section FirstLayer

variable {nodes : List α} {edges : List (α × α)} {layers : List (List α)} {node : α}

theorem not_mem_sources_of_edge {source : α} (isEdge : (source, node) ∈ edges) :
    node ∉ nodes.filter (isSource edges) := by
  intro first
  exact isSource_iff.mp (List.mem_filter.mp first).2 source isEdge

theorem mem_reached_iff (member : node ∈ nodes) :
    node ∈ reached nodes edges ↔ node ∉ nodes.filter (isSource edges) := by
  simp [reached, member]

/-- An edge between the others leads from one of them to one of them. -/
theorem closed_edgesFrom
    (closed : ∀ source target, (source, target) ∈ edges → source ∈ nodes ∧ target ∈ nodes) :
    ∀ source target, (source, target) ∈ edgesFrom (reached nodes edges) edges →
      source ∈ reached nodes edges ∧ target ∈ reached nodes edges := by
  intro source target isEdge
  obtain ⟨isEdge, later⟩ := mem_edgesFrom.mp isEdge
  have member := (closed source target isEdge).2
  exact ⟨later, (mem_reached_iff member).mpr (not_mem_sources_of_edge isEdge)⟩

/-- In front of the layers of the others an edge still leads to a later layer. -/
theorem Layering.above_cons
    (closed : ∀ source target, (source, target) ∈ edges → source ∈ nodes ∧ target ∈ nodes)
    (rest : Layering (reached nodes edges) (edgesFrom (reached nodes edges) edges) layers)
    {source : α} (isEdge : (source, node) ∈ edges) :
    layerOf (nodes.filter (isSource edges) :: layers) source <
      layerOf (nodes.filter (isSource edges) :: layers) node := by
  rw [layerOf_cons_of_not_mem (not_mem_sources_of_edge isEdge)]
  by_cases first : source ∈ nodes.filter (isSource edges)
  · rw [layerOf_cons_of_mem first]
    exact Nat.succ_pos _
  · have later := (mem_reached_iff (closed source node isEdge).1).mpr first
    rw [layerOf_cons_of_not_mem first]
    exact Nat.succ_lt_succ (rest.above source node (mem_edgesFrom.mpr ⟨isEdge, later⟩))

/-- In front of the layers of the others, each of them still has an edge from the layer just before: one
from the first layer if the others have none among themselves. -/
theorem Layering.tight_cons
    (closed : ∀ source target, (source, target) ∈ edges → source ∈ nodes ∧ target ∈ nodes)
    (rest : Layering (reached nodes edges) (edgesFrom (reached nodes edges) edges) layers)
    (later : node ∈ reached nodes edges) :
    ∃ source, (source, node) ∈ edges ∧
      layerOf (nodes.filter (isSource edges) :: layers) source = layerOf layers node := by
  by_cases shallow : layerOf layers node = 0
  · have notSource : ¬ isSource edges node = true := by
      simpa using (List.mem_filter.mp later).2
    rw [isSource_iff] at notSource
    push Not at notSource
    obtain ⟨source, isEdge⟩ := notSource
    refine ⟨source, isEdge, ?_⟩
    by_cases first : source ∈ nodes.filter (isSource edges)
    · rw [layerOf_cons_of_mem first, shallow]
    · have sourceLater := (mem_reached_iff (closed source node isEdge).1).mpr first
      have before := rest.above source node (mem_edgesFrom.mpr ⟨isEdge, sourceLater⟩)
      omega
  · obtain ⟨source, isEdge, justBefore⟩ := rest.tight node later shallow
    obtain ⟨isEdge, sourceLater⟩ := mem_edgesFrom.mp isEdge
    have notFirst := (mem_reached_iff (closed source node isEdge).1).mp sourceLater
    refine ⟨source, isEdge, ?_⟩
    rw [layerOf_cons_of_not_mem notFirst, justBefore]

/-- The nodes that no edge leads to, in front of the layers of the others. -/
theorem Layering.cons
    (closed : ∀ source target, (source, target) ∈ edges → source ∈ nodes ∧ target ∈ nodes)
    (nonempty : nodes.filter (isSource edges) ≠ [])
    (rest : Layering (reached nodes edges) (edgesFrom (reached nodes edges) edges) layers) :
    Layering nodes edges (nodes.filter (isSource edges) :: layers) where
  perm := by
    rw [List.flatten_cons]
    exact (List.Perm.append_left _ rest.perm).trans (List.filter_append_perm _ nodes)
  nonempty layer listed := by
    rcases List.mem_cons.mp listed with rfl | later
    · exact nonempty
    · exact rest.nonempty layer later
  ordered layer listed := by
    rcases List.mem_cons.mp listed with rfl | later
    · exact List.filter_sublist
    · exact (rest.ordered layer later).trans List.filter_sublist
  above source target isEdge := rest.above_cons closed isEdge
  tight node member deep := by
    have notFirst : node ∉ nodes.filter (isSource edges) :=
      fun first => deep (layerOf_cons_of_mem first layers)
    obtain ⟨source, isEdge, same⟩ := rest.tight_cons closed ((mem_reached_iff member).mpr notFirst)
    refine ⟨source, isEdge, ?_⟩
    rw [same, layerOf_cons_of_not_mem notFirst]

end FirstLayer

/-! ### All layers -/

/-- Nodes whose edges have no cycle fall into layers. -/
theorem peel_layering {nodes : List α} {edges : List (α × α)} {rank : α → Nat}
    (closed : ∀ source target, (source, target) ∈ edges → source ∈ nodes ∧ target ∈ nodes)
    (ranked : ∀ source target, (source, target) ∈ edges → rank source < rank target) :
    ∃ layers, peel nodes edges = .ok layers ∧ Layering nodes edges layers := by
  fun_induction peel nodes edges with
  | case1 edges =>
      refine ⟨[], rfl, List.Perm.refl [], by simp, by simp, ?_, by simp⟩
      intro source target isEdge
      exact absurd (closed source target isEdge).1 List.not_mem_nil
  | case2 edges first others layer empty =>
      -- Some node has no edge to it, so the first layer is not empty.
      obtain ⟨source, member, isFirst⟩ := exists_isSource
        (fun source target isEdge => (closed source target isEdge).1) ranked List.mem_cons_self
      have listed : source ∈ layer := List.mem_filter.mpr ⟨member, isFirst⟩
      rw [empty] at listed
      cases listed
  | case3 edges first others layer nonempty rest smaller layers peeled ih =>
      obtain ⟨layers', peeled', layering⟩ := ih (closed_edgesFrom closed)
        fun source target isEdge => ranked source target (mem_edgesFrom.mp isEdge).1
      rw [peeled] at peeled'
      cases peeled'
      exact ⟨layer :: layers, rfl, layering.cons closed nonempty⟩
  | case4 edges first others layer nonempty rest smaller node stuck ih =>
      obtain ⟨layers, peeled, _⟩ := ih (closed_edgesFrom closed)
        fun source target isEdge => ranked source target (mem_edgesFrom.mp isEdge).1
      rw [stuck] at peeled
      cases peeled

/-- Without the edges that a search marks, every graph falls into layers. -/
theorem layers?_without_backEdges {graph : Digraph α} (closed : graph.Closed) :
    ∃ layers, (graph.without graph.backEdges).layers? = .ok layers ∧
      Layering graph.nodes (graph.without graph.backEdges).edges layers := by
  obtain ⟨rank, ranked⟩ := exists_rank closed
  refine peel_layering ?_ ranked
  intro source target isEdge
  exact closed source target (leads_without_iff.mp isEdge).1

end Digraph

end SqlLineage.Flow
