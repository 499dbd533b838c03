/-
Module: SqlLineage.Proofs.Flow.Document
Purpose: The document of a flow graph tells the graph if all its positions can be written as numbers, and is
  not read otherwise. With the documents of scripts these are the ones that are exchanged with others.
Main exports: FlowGraph.ofJson?_toJson, documents_restored
-/
import SqlLineage.Flow.Document
import SqlLineage.Proofs.Lineage.Document

namespace SqlLineage.Flow

open Json (fullRecord asFloat)
open Lineage (ParsedScript)

namespace Position

/-- Whether a position can be written. -/
def isFinite (position : Position) : Bool := position.x.isFinite && position.y.isFinite

theorem asFloat_float (x : Float) : asFloat (.float x) = if x.isFinite then some x else none := by
  unfold Json.float
  split <;> rfl

theorem ofJson?_toJson (position : Position) :
    ofJson? position.toJson = if position.isFinite then some position else none := by
  have opened : ofJson? position.toJson =
      (asFloat (.float position.x)).bind fun x => (asFloat (.float position.y)).bind fun y => some { x, y } := rfl
  rw [opened, asFloat_float, asFloat_float, isFinite]
  cases position.x.isFinite with
  | false => rfl
  | true => cases position.y.isFinite <;> rfl

end Position

namespace FlowNode

theorem ofJson?_toJson (node : FlowNode) :
    ofJson? node.toJson = if node.position.isFinite then some node else none := by
  have opened : ofJson? node.toJson =
      (NodeRole.ofName? node.role.name).bind fun role => (Position.ofJson? node.position.toJson).bind fun position =>
        some { node with role, position } := by
    obtain ⟨id, label, role, layer, order, position, queryId⟩ := node
    cases queryId <;> rfl
  rw [opened, NodeRole.ofName?_name, Option.bind_some, Position.ofJson?_toJson]
  cases node.position.isFinite <;> rfl

end FlowNode

namespace FlowEdge

theorem ofJson?_toJson (edge : FlowEdge) : ofJson? edge.toJson = some edge := rfl

end FlowEdge

namespace FlowGraph

/-- Whether all positions of a graph can be written. -/
def isFinite (graph : FlowGraph) : Bool := graph.nodes.all fun node => node.position.isFinite

theorem mapM_ofJson?_nodes (nodes : List FlowNode) :
    (nodes.map FlowNode.toJson).mapM FlowNode.ofJson? =
      if nodes.all fun node => node.position.isFinite then some nodes else none := by
  induction nodes with
  | nil => rfl
  | cons node rest ih =>
      rw [List.map_cons, List.mapM_cons, FlowNode.ofJson?_toJson, ih, List.all_cons]
      cases node.position.isFinite with
      | false => rfl
      | true => cases rest.all fun node => node.position.isFinite <;> rfl

theorem mapM_ofJson?_edges (edges : List FlowEdge) :
    (edges.map FlowEdge.toJson).mapM FlowEdge.ofJson? = some edges :=
  (Json.Restores.of_eq FlowEdge.ofJson?_toJson).list.read_write edges

/-- A graph is read from its document exactly if its positions can be written. -/
theorem ofJson?_toJson (graph : FlowGraph) :
    ofJson? graph.toJson = if graph.isFinite then some graph else none := by
  have opened : ofJson? graph.toJson =
      ((graph.nodes.map FlowNode.toJson).mapM FlowNode.ofJson?).bind fun nodes =>
        ((graph.edges.map FlowEdge.toJson).mapM FlowEdge.ofJson?).bind fun edges =>
          some { graph with nodes, edges } := rfl
  rw [opened, mapM_ofJson?_nodes, mapM_ofJson?_edges, ← isFinite]
  cases graph.isFinite <;> rfl

end FlowGraph

/-- The lineage of a script is read from its document and from whatever may stand for that; a graph is read
from its document exactly if its positions can be written. -/
theorem documents_restored :
    Json.Restores ParsedScript.ofJson? ParsedScript.toJson ParsedScript.Variant ∧
      ∀ graph : FlowGraph, FlowGraph.ofJson? graph.toJson = if graph.isFinite then some graph else none :=
  ⟨ParsedScript.restores, FlowGraph.ofJson?_toJson⟩

/-- A document that gives two fields of a query and a member of an unknown name is read with the default values
of all others. -/
theorem documents_restored_partialDocument :
    ParsedScript.ofJson? Lineage.partialDocument = some Lineage.partialScript :=
  documents_restored.1.reads _ _ Lineage.variant_partialDocument

end SqlLineage.Flow
