/-
Module: SqlLineage.Flow.Document
Purpose: The JSON document of a flow graph. Unlike the lineage of a script it has no defaults: all
  fields must be given, except for the query of a node that has none.
Main exports: FlowGraph.toJson, FlowGraph.ofJson?
-/
import SqlLineage.Flow.Graph
import SqlLineage.Json.Record

namespace SqlLineage.Flow

open Json (fullRecord required defaulted asString asBool asNat asFloat asList asOption)

namespace Position

def fieldNames : List String := ["x", "y"]

def toJson (position : Position) : Json :=
  .obj [("x", .float position.x), ("y", .float position.y)]

def ofJson? (document : Json) : Option Position := do
  let fields ← fullRecord fieldNames document
  let x ← required asFloat "x" fields
  let y ← required asFloat "y" fields
  pure { x, y }

end Position

namespace FlowNode

def fieldNames : List String := ["id", "label", "role", "layer", "order", "position", "queryId"]

def toJson (node : FlowNode) : Json :=
  .obj <| [
    ("id", .str node.id),
    ("label", .str node.label),
    ("role", .str node.role.name),
    ("layer", .nat node.layer),
    ("order", .nat node.order),
    ("position", node.position.toJson)]
    ++ (match node.queryId with
      | some id => [("queryId", .str id)]
      | none => [])

def ofJson? (document : Json) : Option FlowNode := do
  let fields ← fullRecord fieldNames document
  let id ← required asString "id" fields
  let label ← required asString "label" fields
  let role ← NodeRole.ofName? (← required asString "role" fields)
  let layer ← required asNat "layer" fields
  let order ← required asNat "order" fields
  let position ← required Position.ofJson? "position" fields
  let queryId ← defaulted (asOption asString) none "queryId" fields
  pure { id, label, role, layer, order, position, queryId }

end FlowNode

namespace FlowEdge

def fieldNames : List String := ["id", "from", "to", "backEdge"]

def toJson (edge : FlowEdge) : Json :=
  .obj [
    ("id", .str edge.id),
    ("from", .str edge.source),
    ("to", .str edge.target),
    ("backEdge", .bool edge.isBackEdge)]

def ofJson? (document : Json) : Option FlowEdge := do
  let fields ← fullRecord fieldNames document
  let id ← required asString "id" fields
  let source ← required asString "from" fields
  let target ← required asString "to" fields
  let isBackEdge ← required asBool "backEdge" fields
  pure { id, source, target, isBackEdge }

end FlowEdge

namespace FlowGraph

def fieldNames : List String := ["nodes", "edges", "fingerprint"]

/-- The document of a flow graph. -/
def toJson (graph : FlowGraph) : Json :=
  .obj [
    ("nodes", .arr (graph.nodes.map FlowNode.toJson)),
    ("edges", .arr (graph.edges.map FlowEdge.toJson)),
    ("fingerprint", .str graph.fingerprint)]

/-- The flow graph that a document holds. It is taken as it is, also where its parts disagree. -/
def ofJson? (document : Json) : Option FlowGraph := do
  let fields ← fullRecord fieldNames document
  let nodes ← required (asList FlowNode.ofJson?) "nodes" fields
  let edges ← required (asList FlowEdge.ofJson?) "edges" fields
  let fingerprint ← required asString "fingerprint" fields
  pure { nodes, edges, fingerprint }

end FlowGraph

end SqlLineage.Flow
