/-
Module: SqlLineage.Flow.Graph
Purpose: Flow graphs with their nodes placed in layers, and the fingerprint by which two of them are
  compared.
Main exports: Position, FlowNode, FlowEdge, FlowGraph, edgeId, fingerprint
-/
import SqlLineage.Digest.Sha256
import SqlLineage.Flow.Role

namespace SqlLineage.Flow

/-- Where a node is drawn. -/
structure Position where
  x : Float
  y : Float
deriving Repr, Inhabited

structure FlowNode where
  id : String
  label : String
  role : NodeRole
  layer : Nat
  /-- The position inside the layer. -/
  order : Nat
  position : Position
  /-- The query that brought the node in, for joins and for the results of queries. -/
  queryId : Option String
deriving Repr, Inhabited

structure FlowEdge where
  id : String
  source : String
  target : String
  /-- Whether the edge closes a cycle, in which case it does not count for the layers. -/
  isBackEdge : Bool
deriving Repr, Inhabited, DecidableEq

structure FlowGraph where
  nodes : List FlowNode
  edges : List FlowEdge
  /-- A digest of the ids of all nodes and edges. -/
  fingerprint : String
deriving Repr, Inhabited

/-- The id of the edge between two nodes. -/
def edgeId (source target : String) : String := source ++ "->" ++ target

/-- The text that a fingerprint is made from: the ids of the nodes and, below a line of dashes, those
of the edges, one on a line. -/
def fingerprintText (nodes : List FlowNode) (edges : List FlowEdge) : String :=
  String.join (nodes.map fun node => node.id ++ "\n") ++ "--\n" ++
    String.join (edges.map fun edge => edge.id ++ "\n")

/-- The digest of the ids of all nodes and edges, in their order. -/
def fingerprint (nodes : List FlowNode) (edges : List FlowEdge) : String :=
  Digest.hexText (Digest.sha256 (fingerprintText nodes edges).toUTF8.toList)

namespace FlowGraph

/-- The graph of these nodes and edges. -/
def ofParts (nodes : List FlowNode) (edges : List FlowEdge) : FlowGraph :=
  { nodes, edges, fingerprint := Flow.fingerprint nodes edges }

def node? (graph : FlowGraph) (id : String) : Option FlowNode :=
  graph.nodes.find? (·.id == id)

def hasEdge (graph : FlowGraph) (source target : String) : Bool :=
  graph.edges.any fun edge => edge.source == source && edge.target == target

def nodesWithRole (graph : FlowGraph) (role : NodeRole) : List FlowNode :=
  graph.nodes.filter (·.role = role)

/-- The nodes of one layer, in the order of the graph. -/
def nodesOfLayer (graph : FlowGraph) (layer : Nat) : List FlowNode :=
  graph.nodes.filter (·.layer = layer)

/-- The number of layers up to the last one with a node. -/
def layerCount (graph : FlowGraph) : Nat :=
  graph.nodes.foldl (fun count node => max count (node.layer + 1)) 0

def isEmpty (graph : FlowGraph) : Bool := graph.nodes.isEmpty

end FlowGraph

end SqlLineage.Flow
