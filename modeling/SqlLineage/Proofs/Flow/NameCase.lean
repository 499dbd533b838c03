/-
Module: SqlLineage.Proofs.Flow.NameCase
Purpose: Scripts that differ in the letter case of names alone have one graph, but for the letter case of
  its labels: putting all names of a script in lower case first changes nothing else about the graph.
Main exports: FlowGraph.caseFolded, FlowLayout.draft_caseFolded, place_caseFolded,
  FlowLayout.layout_eq_of_caseFolded
-/
import SqlLineage.Proofs.Flow.NameFolding
import SqlLineage.Proofs.Flow.WellFormed

namespace SqlLineage.Flow

open Lineage (Query ParsedScript)
open Text (lowercase)

variable {relations : Relations}

/-! ### Drafts -/

namespace Draft

/-- The draft with the labels and the query ids of its nodes in lower case. -/
def caseFolded (draft : Draft) : Draft :=
  { draft with nodes := draft.nodes.map NodeDraft.caseFolded }

theorem hasNode_caseFolded (draft : Draft) (id : String) :
    draft.caseFolded.hasNode id = draft.hasNode id := by
  rw [hasNode, caseFolded, List.any_map]
  rfl

theorem addNodes_caseFolded (nodes : List NodeDraft) (draft : Draft) :
    draft.caseFolded.addNodes (nodes.map NodeDraft.caseFolded) = (draft.addNodes nodes).caseFolded := by
  unfold addNodes
  induction nodes generalizing draft with
  | nil => rfl
  | cons node rest ih =>
      have step : draft.caseFolded.addNode node.caseFolded = (draft.addNode node).caseFolded := by
        have id : node.caseFolded.id = node.id := rfl
        rw [addNode, addNode, id, hasNode_caseFolded]
        split
        · rfl
        · simp only [caseFolded, List.map_append, List.map_singleton]
      rw [List.map_cons, List.foldl_cons, List.foldl_cons, step, ih]

theorem addEdge_caseFolded (source target : String) (draft : Draft) :
    draft.caseFolded.addEdge source target = (draft.addEdge source target).caseFolded := by
  have edges : draft.caseFolded.edges = draft.edges := rfl
  rw [addEdge, addEdge, edges]
  split <;> rfl

theorem addEdgeList_caseFolded (edges : List (String × String)) (draft : Draft) :
    draft.caseFolded.addEdgeList edges = (draft.addEdgeList edges).caseFolded := by
  unfold addEdgeList
  induction edges generalizing draft with
  | nil => rfl
  | cons edge rest ih => rw [List.foldl_cons, List.foldl_cons, addEdge_caseFolded, ih]

end Draft

section Drafts

variable {draft other : Draft}

/-- A query brings the same into drafts that differ in the letter case of labels alone. -/
theorem addQuery_caseFolded (same : draft.caseFolded = other.caseFolded) (options : LayoutOptions)
    (query : Query) (index : Nat) :
    (addQuery options relations.caseFolded draft query.caseFolded index).caseFolded =
      (addQuery options relations other query index).caseFolded := by
  rw [addQuery_eq, addQuery_eq, ← Draft.addEdgeList_caseFolded, ← Draft.addEdgeList_caseFolded,
    ← Draft.addNodes_caseFolded, ← Draft.addNodes_caseFolded, queryNodes_caseFolded,
    queryEdges_caseFolded, same]

theorem addQueries_caseFolded (same : draft.caseFolded = other.caseFolded) (options : LayoutOptions)
    (queries : List (Query × Nat)) :
    (addQueries options relations.caseFolded (queries.map (Prod.map Query.caseFolded id))
        draft).caseFolded = (addQueries options relations queries other).caseFolded := by
  unfold addQueries
  induction queries generalizing draft other with
  | nil => exact same
  | cons entry rest ih =>
      rw [List.map_cons, List.foldl_cons, List.foldl_cons]
      apply ih
      exact addQuery_caseFolded same options entry.1 entry.2

theorem linkWritten_caseFolded (same : draft.caseFolded = other.caseFolded) (name : String) :
    (linkWritten relations.caseFolded draft name).caseFolded =
      (linkWritten relations other name).caseFolded := by
  have nodes : ∀ id, draft.hasNode id = other.hasNode id := by
    intro id
    rw [← draft.hasNode_caseFolded, same, other.hasNode_caseFolded]
  have profiled : relations.caseFolded.profiles.contains (.table name) =
      relations.profiles.contains (.table name) := Profiles.contains_caseFolded _ _
  have linked : Linked relations.caseFolded draft name ↔ Linked relations other name := by
    simp only [Linked, nodes, profiled]
    exact Iff.rfl
  by_cases isLinked : Linked relations other name
  · rw [linkWritten_of_linked isLinked, linkWritten_of_linked (linked.mpr isLinked),
      ← Draft.addEdge_caseFolded, ← Draft.addEdge_caseFolded, same]
    rfl
  · rw [linkWritten_of_not_linked isLinked, linkWritten_of_not_linked (mt linked.mp isLinked), same]

theorem linkAll_caseFolded (same : draft.caseFolded = other.caseFolded) (names : List String) :
    (linkAll relations.caseFolded names draft).caseFolded =
      (linkAll relations names other).caseFolded := by
  unfold linkAll
  induction names generalizing draft other with
  | nil => exact same
  | cons name rest ih =>
      rw [List.foldl_cons, List.foldl_cons]
      apply ih
      exact linkWritten_caseFolded same name

end Drafts

theorem writtenNames_caseFolded (script : ParsedScript) :
    writtenNames script.caseFolded = writtenNames script := by
  simp only [writtenNames, ParsedScript.caseFolded, Query.caseFolded, List.flatMap_map, List.map_map,
    Function.comp_def, Text.lowercase_lowercase]

/-- The letter case of the names of a script decides that of labels and query ids in its draft, and nothing
else. -/
theorem FlowLayout.draft_caseFolded (classification : ClassificationOptions) (options : LayoutOptions)
    (script : ParsedScript) :
    ((ofOptions classification options).draft script.caseFolded).caseFolded =
      ((ofOptions classification options).draft script).caseFolded := by
  have relations : (ofOptions classification options).relations script.caseFolded =
      ((ofOptions classification options).relations script).caseFolded :=
    Relations.ofScript_caseFolded classification script
  have queries : script.caseFolded.queries.zipIdx =
      script.queries.zipIdx.map (Prod.map Query.caseFolded id) := by
    rw [ParsedScript.caseFolded, List.zipIdx_map]
  rw [draft_eq, draft_eq, relations, writtenNames_caseFolded, queries]
  apply linkAll_caseFolded
  exact addQueries_caseFolded rfl options _

/-! ### Graphs -/

/-- The node with its label and the id of its query in lower case. -/
def FlowNode.caseFolded (node : FlowNode) : FlowNode :=
  { node with label := lowercase node.label, queryId := node.queryId.map lowercase }

/-- The graph with the labels and the query ids of its nodes in lower case. Graphs with one such form agree in
all else: in the ids, roles, layers, orders and positions of their nodes, in their edges, and in their
fingerprint. -/
def FlowGraph.caseFolded (graph : FlowGraph) : FlowGraph :=
  { graph with nodes := graph.nodes.map FlowNode.caseFolded }

theorem FlowGraph.caseFolded_ofParts (nodes : List FlowNode) (edges : List FlowEdge) :
    (ofParts nodes edges).caseFolded = ofParts (nodes.map FlowNode.caseFolded) edges := by
  have text : fingerprintText (nodes.map FlowNode.caseFolded) edges = fingerprintText nodes edges := by
    rw [fingerprintText, fingerprintText, List.map_map]
    rfl
  rw [ofParts, ofParts, Flow.fingerprint, Flow.fingerprint, text]
  rfl

theorem placeNodes_caseFolded (options : LayoutOptions) (draft : Draft) (layers : List (List Nat)) :
    placeNodes options draft.caseFolded layers =
      (placeNodes options draft layers).map FlowNode.caseFolded := by
  have members : ∀ indices : List Nat, indices.filterMap (draft.caseFolded.nodes[·]?) =
      (indices.filterMap (draft.nodes[·]?)).map NodeDraft.caseFolded := by
    intro indices
    rw [List.map_filterMap]
    apply List.filterMap_congr
    intro index _
    exact List.getElem?_map
  simp only [placeNodes, members, List.map_flatMap, List.mapIdx_eq_zipIdx_map, List.zipIdx_map,
    List.map_map]
  rfl

/-- Placing a draft does not look at labels. -/
theorem place_caseFolded (options : LayoutOptions) (draft : Draft) :
    place options draft.caseFolded = (place options draft).map FlowGraph.caseFolded := by
  have indexOf : ∀ id, draft.caseFolded.indexOf? id = draft.indexOf? id := by
    intro id
    rw [Draft.indexOf?, Draft.indexOf?, Draft.caseFolded, List.findIdx?_map]
    rfl
  have digraph : draft.caseFolded.digraph = draft.digraph := by
    have length : draft.caseFolded.nodes.length = draft.nodes.length := List.length_map _
    have indices : draft.caseFolded.edgeIndices = draft.edgeIndices := by
      funext edge
      rw [Draft.edgeIndices, Draft.edgeIndices, indexOf, indexOf]
    rw [Draft.digraph, Draft.digraph, indices, length]
    rfl
  have id : ∀ node : Nat, draft.caseFolded.nodes[node]?.map NodeDraft.id =
      draft.nodes[node]?.map NodeDraft.id := by
    intro node
    rw [Draft.caseFolded, List.getElem?_map, Option.map_map]
    rfl
  rw [place, place, digraph]
  cases draft.digraph with
  | error problem => rfl
  | ok graph =>
      simp only [bind, Except.bind, id]
      cases (graph.without graph.backEdges).layers? with
      | error node => rfl
      | ok layers =>
          simp only [placeNodes_caseFolded, ← FlowGraph.caseFolded_ofParts]
          rfl

/-- Scripts that differ in the letter case of names and ids alone are laid out alike by the built-in rules:
the two graphs differ in the letter case of labels and query ids alone. -/
theorem FlowLayout.layout_eq_of_caseFolded (classification : ClassificationOptions)
    (options : LayoutOptions) {script other : ParsedScript}
    (same : script.caseFolded = other.caseFolded) :
    ∃ graph otherGraph, (ofOptions classification options).layout script = .ok graph ∧
      (ofOptions classification options).layout other = .ok otherGraph ∧
        graph.caseFolded = otherGraph.caseFolded := by
  obtain ⟨graph, laidOut, _⟩ := (ofOptions classification options).exists_graph script
  obtain ⟨otherGraph, otherLaidOut, _⟩ := (ofOptions classification options).exists_graph other
  have placed : ((ofOptions classification options).layout script).map FlowGraph.caseFolded =
      ((ofOptions classification options).layout other).map FlowGraph.caseFolded := by
    rw [layout, layout, ← place_caseFolded, ← place_caseFolded, ← draft_caseFolded, same,
      draft_caseFolded]
  rw [laidOut, otherLaidOut] at placed
  exact ⟨graph, otherGraph, laidOut, otherLaidOut, Except.ok.inj placed⟩

/-- A script that writes a relation from a join with a common table expression. -/
def quietScript : ParsedScript :=
  { queries := [
      { id := "cte_0_recent", name := "recent", isCte := true,
        tables := [.named "sales.orders" none false] },
      { id := "stmt_0", name := "final query", outputs := ["report"],
        tables := [.named "recent" (some "r") true, .named "customers" (some "c") false],
        joins := [
          { left := .named "recent" (some "r") true
            right := .named "customers" (some "c") false
            condition := some "r.customer_id = c.id" }] }] }

/-- The same script with other letters in capital. -/
def loudScript : ParsedScript :=
  { queries := [
      { id := "CTE_0_RECENT", name := "Recent", isCte := true,
        tables := [.named "Sales.ORDERS" none false] },
      { id := "Stmt_0", name := "Final Query", outputs := ["REPORT"],
        tables := [.named "RECENT" (some "R") true, .named "Customers" (some "C") false],
        joins := [
          { left := .named "recent" (some "r") true
            right := .named "CUSTOMERS" (some "c") false
            condition := some "r.customer_id = c.id" }] }] }

theorem FlowLayout.layout_eq_loudScript :
    quietScript.caseFolded = loudScript.caseFolded ∧
      ∃ graph otherGraph, (ofOptions {} {}).layout quietScript = .ok graph ∧
        (ofOptions {} {}).layout loudScript = .ok otherGraph ∧
          graph.caseFolded = otherGraph.caseFolded := by
  have same : quietScript.caseFolded = loudScript.caseFolded := by
    simp only [ParsedScript.caseFolded, quietScript, loudScript, List.map_cons, List.map_nil,
      Query.caseFolded, ParsedScript.mk.injEq, List.cons.injEq, Query.mk.injEq, true_and, and_true]
    decide +kernel
  exact ⟨same, layout_eq_of_caseFolded {} {} same⟩

end SqlLineage.Flow
