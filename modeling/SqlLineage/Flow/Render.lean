/-
Module: SqlLineage.Flow.Render
Purpose: Flow graphs as text: a listing for the terminal, a JSON document, and a drawing in the DOT
  language.
Main exports: OutputFormat, Paint, FlowGraph.toText, FlowGraph.toDot, FlowGraph.render, legend
-/
import SqlLineage.Flow.Document
import SqlLineage.Json.Printer
import SqlLineage.Text.Paint

namespace SqlLineage.Flow

open Text (Paint paint)

/-- The renderings of a flow graph. -/
inductive OutputFormat where
  | text
  | json
  | dot
deriving Repr, Inhabited, DecidableEq

namespace OutputFormat

def name : OutputFormat → String
  | text => "text"
  | json => "json"
  | dot => "dot"

def all : List OutputFormat := [text, json, dot]

def ofName? (name : String) : Option OutputFormat := all.find? (·.name == name)

end OutputFormat

/-- The lines, each ended by a line break. -/
def lines (items : List String) : String := String.join (items.map (· ++ "\n"))

/-- The colour of a role on the terminal. -/
def NodeRole.paint (role : NodeRole) : Paint :=
  .rgb role.colour.red role.colour.green role.colour.blue

namespace FlowGraph

/-! ### Listing -/

/-- The lines of one layer: a heading and its nodes. -/
def layerLines (colours : Bool) (graph : FlowGraph) (layer : Nat) : List String :=
  paint colours .bold ("Layer " ++ toString layer) ::
    (graph.nodesOfLayer layer).map fun node =>
      "  " ++ paint colours node.role.paint ("[" ++ node.role.name ++ "]") ++ " " ++ node.label

/-- The line of an edge, which says if it closes a cycle. -/
def edgeLine (colours : Bool) (edge : FlowEdge) : String :=
  "  " ++ edge.source ++ " -> " ++ edge.target ++
    paint colours .yellow (if edge.isBackEdge then " (cycle)" else "")

/-- The nodes layer by layer, then the edges if there are any. -/
def toText (colours : Bool) (graph : FlowGraph) : String :=
  lines <| (List.range graph.layerCount).flatMap (layerLines colours graph) ++
    if graph.edges.isEmpty then []
    else paint colours .bold "Edges" :: graph.edges.map (edgeLine colours)

/-! ### Drawing -/

/-- A character inside a quoted string of a drawing: quotes and backslashes get a backslash. -/
def escapeChar (c : Char) : List Char :=
  if c = '\x22' || c = '\\' then ['\\', c] else [c]

/-- A quoted string of a drawing. -/
def quoted (s : String) : String :=
  "\x22" ++ String.ofList (s.toList.flatMap escapeChar) ++ "\x22"

def nodeLine (node : FlowNode) : String :=
  "  " ++ quoted node.id ++ " [label=" ++ quoted node.label ++ ", shape=" ++ node.role.shape ++
    ", fillcolor=" ++ quoted node.role.colourText ++ "];"

def arrowLine (edge : FlowEdge) : String :=
  "  " ++ quoted edge.source ++ " -> " ++ quoted edge.target ++
    (if edge.isBackEdge then " [style=dashed]" else "") ++ ";"

/-- The lines that hold the nodes of one layer at one rank. -/
def rankLines (graph : FlowGraph) (layer : Nat) : List String :=
  ["  subgraph layer_" ++ toString layer ++ " \x7b", "    rank=same;"]
    ++ (graph.nodesOfLayer layer).map (fun node => "    " ++ quoted node.id ++ ";")
    ++ ["  \x7d"]

/-- The graph in the DOT language, with the nodes of each layer at one rank. -/
def toDot (graph : FlowGraph) : String :=
  lines <|
    ["digraph flow \x7b", "  rankdir=LR;",
      "  node [style=filled, fontname=" ++ quoted "Helvetica" ++ "];"]
    ++ graph.nodes.map nodeLine
    ++ graph.edges.map arrowLine
    ++ (List.range graph.layerCount).flatMap (rankLines graph)
    ++ ["\x7d"]

/-- The graph in one of the formats. -/
def render (colours : Bool) (format : OutputFormat) (graph : FlowGraph) : String :=
  match format with
  | .text => graph.toText colours
  | .json => graph.toJson.pretty
  | .dot => graph.toDot

end FlowGraph

/-! ### Legend -/

/-- A text filled up with spaces to a width. -/
def padRight (width : Nat) (s : String) : String :=
  s ++ String.ofList (List.replicate (width - s.length) ' ')

/-- The roles with the words and the shapes that stand for them. -/
def legend (colours : Bool) : String :=
  lines <| NodeRole.all.map fun role =>
    "  " ++ paint colours role.paint "■" ++ " " ++ padRight 16 role.name ++ " " ++
      role.description ++ " (" ++ role.shape ++ ")"

end SqlLineage.Flow
