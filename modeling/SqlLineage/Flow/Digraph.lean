/-
Module: SqlLineage.Flow.Digraph
Purpose: Directed graphs over listed nodes: which edges close a cycle, and the layers of a graph
  without cycles.
Main exports: Digraph, Digraph.backEdges, Digraph.without, Digraph.layers?
-/

namespace SqlLineage.Flow

/-- A directed graph. The order of nodes and edges decides which edge of a cycle is said to close it. -/
structure Digraph (α : Type) where
  nodes : List α
  edges : List (α × α)
deriving Repr, Inhabited, DecidableEq

namespace Digraph

variable {α : Type} [DecidableEq α]

/-- The nodes that edges lead to from this one, those of the latest edge first. -/
def successors (graph : Digraph α) (node : α) : List α :=
  ((graph.edges.filter (·.1 = node)).map (·.2)).reverse

/-! ### Edges that close a cycle -/

/-- What a depth-first search has met so far. -/
structure Search (α : Type) where
  /-- The nodes that were entered. -/
  seen : List α := []
  /-- The edges that led back to a node on the path of the search. -/
  back : List (α × α) := []
deriving Repr, Inhabited, DecidableEq

/-- Searches from a node that was not entered before. The path holds the nodes on the way to it,
nearest first. An edge to the path closes a cycle, and an edge to any other node that was entered
before is passed over. The first argument bounds the length of the path; the number of nodes
suffices. -/
def explore (graph : Digraph α) : Nat → List α → α → Search α → Search α
  | 0, _, _, search => search
  | bound + 1, path, node, search =>
    (graph.successors node).foldl
      (fun search next =>
        if next ∈ node :: path then { search with back := search.back ++ [(node, next)] }
        else if next ∈ search.seen then search
        else graph.explore bound (node :: path) next search)
      { search with seen := node :: search.seen }

/-- Searches from each node in turn that no earlier search has entered. -/
def search (graph : Digraph α) : Search α :=
  graph.nodes.foldl
    (fun search node =>
      if node ∈ search.seen then search
      else graph.explore (graph.nodes.length + 1) [] node search)
    {}

/-- The edges that close a cycle for a search from each node in turn. -/
def backEdges (graph : Digraph α) : List (α × α) := graph.search.back

/-- The graph without some of its edges. -/
def without (graph : Digraph α) (removed : List (α × α)) : Digraph α :=
  { graph with edges := graph.edges.filter fun edge => edge ∉ removed }

/-! ### Layers -/

/-- Whether no edge leads to the node. -/
def isSource (edges : List (α × α)) (node : α) : Bool := edges.all fun edge => edge.2 ≠ node

/-- Takes off the nodes that no edge leads to as a layer, then does the same with what is left. A rest
in which an edge leads to every node has a cycle, and one of its nodes is the error. -/
def peel (nodes : List α) (edges : List (α × α)) : Except α (List (List α)) :=
  match nodes with
  | [] => .ok []
  | first :: others =>
    let layer := (first :: others).filter (isSource edges)
    if nonempty : layer = [] then .error first
    else
      let rest := (first :: others).filter fun node => !isSource edges node
      have : rest.length < (first :: others).length := by
        obtain ⟨node, member⟩ := List.exists_mem_of_ne_nil _ nonempty
        have source := List.mem_filter.1 member
        exact List.length_filter_lt_length_iff_exists.2 ⟨node, source.1, by simp [source.2]⟩
      match peel rest (edges.filter fun edge => edge.1 ∈ rest) with
      | .ok layers => .ok (layer :: layers)
      | .error node => .error node
termination_by nodes.length
decreasing_by exact this

/-- The layers of a graph without cycles: a node is in the first layer that lies behind all nodes with
an edge to it. The nodes of a layer keep their order. -/
def layers? (graph : Digraph α) : Except α (List (List α)) := peel graph.nodes graph.edges

end Digraph

end SqlLineage.Flow
