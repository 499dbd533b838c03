/-
Module: SqlLineage.Proofs.Flow.Drawing
Purpose: The drawing of a graph is read back as its nodes, its edges and its layers, whatever characters stand
  in ids and labels.
Main exports: Dot.reads_quoted, FlowGraph.drawing, FlowGraph.readDrawing_toDot, FlowGraph.toDot_faithful
-/
import SqlLineage.Proofs.Flow.DrawingReader
import SqlLineage.Proofs.Text.Lowercase

namespace SqlLineage.Flow

/-- What a drawing has to show of a node. -/
def FlowNode.drawn (node : FlowNode) : DrawnNode := ⟨node.id, node.label, node.role⟩

/-- What a drawing has to show of an edge. The edges that close a cycle are dashed. -/
def FlowEdge.drawn (edge : FlowEdge) : DrawnEdge := ⟨edge.source, edge.target, edge.isBackEdge⟩

/-- The ids of the nodes of a layer. -/
def FlowGraph.idsOfLayer (graph : FlowGraph) (layer : Nat) : List String :=
  (graph.nodesOfLayer layer).map (·.id)

/-- What a drawing has to show of a graph. -/
def FlowGraph.drawing (graph : FlowGraph) : Drawing :=
  { nodes := graph.nodes.map FlowNode.drawn
    edges := graph.edges.map FlowEdge.drawn
    ranks := (List.range graph.layerCount).map fun layer => (layer, graph.idsOfLayer layer) }

open FlowGraph (escapeChar quoted nodeLine arrowLine rankLines)

namespace Dot

/-! ### Quoted strings -/

/-- Inside quotes an escaped character is read as itself and leaves the string open. -/
theorem scan_escapeChar (read : List Char) (c : Char) (rest : List Char) :
    scan (.inQuotes read) (escapeChar c ++ rest) = scan (.inQuotes (read ++ [c])) rest := by
  by_cases isQuote : c = '\x22'
  · subst isQuote
    rfl
  by_cases isBackslash : c = '\\'
  · subst isBackslash
    rfl
  have plain : escapeChar c = [c] := by
    rw [escapeChar, decide_eq_false isQuote, decide_eq_false isBackslash]
    rfl
  rw [plain, List.singleton_append, scan, step, if_neg isQuote, if_neg isBackslash]
  rfl

/-- No escaped text closes the string that it stands in. -/
theorem scan_flatMap_escapeChar (read cs rest : List Char) :
    scan (.inQuotes read) (cs.flatMap escapeChar ++ rest) = scan (.inQuotes (read ++ cs)) rest := by
  induction cs generalizing read with
  | nil => rw [List.flatMap_nil, List.nil_append, List.append_nil]
  | cons c cs ih =>
      rw [List.flatMap_cons, List.append_assoc, scan_escapeChar, ih, List.append_assoc,
        List.singleton_append]

/-- A quoted string is one token, which ends at its last quote. -/
theorem reads_quoted (s : String) : Reads (quoted s) [.quoted s] := by
  have shape : (quoted s).toList = '\x22' :: (s.toList.flatMap escapeChar ++ ['\x22']) := by
    simp [quoted]
  have opened : scan .between (quoted s).toList =
      scan (.inQuotes []) (s.toList.flatMap escapeChar ++ ['\x22']) := by
    rw [shape]
    rfl
  have closed : scan (.inQuotes s.toList) ['\x22'] = ([.quoted (.ofList s.toList)], .between) := rfl
  rw [Reads, opened, scan_flatMap_escapeChar, List.nil_append, closed, String.ofList_toList]

example : readTokens (quoted "a\x22 -> \\") = some [.quoted "a\x22 -> \\"] := by decide

/-! ### Names of ranks -/

/-- A word that goes on to a mark is one token. -/
theorem scan_inWord {cs : List Char} (word : ∀ c ∈ cs, isWordChar c = true) (read rest : List Char) :
    scan (.inWord read) (cs ++ rest) = scan (.inWord (read ++ cs)) rest := by
  induction cs generalizing read with
  | nil => rw [List.nil_append, List.append_nil]
  | cons c cs ih =>
      have first : isWordChar c = true := word c List.mem_cons_self
      have others : ∀ d ∈ cs, isWordChar d = true :=
        fun d listed => word d (List.mem_cons_of_mem c listed)
      rw [List.cons_append, scan, step, if_pos first, ih others, List.append_assoc,
        List.singleton_append]
      rfl

def rankName (layer : Nat) : String := "layer_" ++ toString layer

theorem isWordChar_of_mem_toString {n : Nat} {c : Char} (listed : c ∈ (toString n).toList) :
    isWordChar c = true := by
  have digit : c.isDigit = true := Text.isDigit_of_mem_toString listed
  rw [isWordChar, Char.isAlphanum, digit, Bool.or_true, Bool.true_or]

theorem reads_rankName (layer : Nat) : Reads (rankName layer ++ " ") [.word (rankName layer)] := by
  have cut : (rankName layer ++ " ").toList = "layer_".toList ++ ((toString layer).toList ++ [' ']) := by
    rw [rankName, String.append_assoc, String.toList_append, String.toList_append]
    rfl
  have opened : scan .between (rankName layer ++ " ").toList =
      scan (.inWord "layer_".toList) ((toString layer).toList ++ [' ']) := by
    rw [cut, scan_append]
    rfl
  have closed : ∀ read, scan (.inWord read) [' '] = ([.word (.ofList read)], .between) := fun _ => rfl
  rw [Reads, opened, scan_inWord (fun c => isWordChar_of_mem_toString), closed,
    ← String.toList_append, String.ofList_toList, rankName]

/-- The name of a rank tells the layer. -/
theorem layerOf?_rankName (layer : Nat) : layerOf? (rankName layer) = some layer := by
  have name : (rankName layer).toList = 'l' :: 'a' :: 'y' :: 'e' :: 'r' :: '_' :: Nat.toDigits 10 layer := by
    simp [rankName]
  have digits : Nat.toDigits 10 layer ≠ [] ∧ (Nat.toDigits 10 layer).all Char.isDigit = true := by
    refine ⟨Nat.toDigits_ne_nil, ?_⟩
    apply List.all_eq_true.mpr
    exact fun c listed => Nat.isDigit_of_mem_toDigits (by decide) (by decide) listed
  rw [layerOf?, name]
  exact (if_pos digits).trans (congrArg some (Nat.ofDigitChars_toDigits (by decide) (by decide)))

/-- A shape and a colour together tell the role. -/
theorem roleOf?_shape (role : NodeRole) : roleOf? role.shape role.colourText = some role := by
  cases role <;> rfl

/-! ### Lines -/

def nodeStatement (node : FlowNode) : Statement :=
  .node node.id [("label", node.label), ("shape", node.role.shape), ("fillcolor", node.role.colourText)]

theorem says_nodeLine (node : FlowNode) : Says (nodeLine node) [nodeStatement node] := by
  have head : Reads "  " [] := rfl
  have label : Reads " [label=" [.mark '[', .word "label", .mark '='] := rfl
  have shape : Reads (", shape=" ++ (node.role.shape ++ ", fillcolor="))
      [.mark ',', .word "shape", .mark '=', .word node.role.shape, .mark ',', .word "fillcolor",
        .mark '='] := by
    cases node.role <;> rfl
  have tail : Reads "];" [.mark ']', .mark ';'] := rfl
  have cut : nodeLine node = "  " ++ quoted node.id ++ " [label=" ++ quoted node.label ++
      (", shape=" ++ (node.role.shape ++ ", fillcolor=")) ++ quoted node.role.colourText ++ "];" := by
    simp only [nodeLine, String.append_assoc]
  have reads : Reads (nodeLine node)
      ([.quoted node.id, .mark '[', .word "label", .mark '=', .quoted node.label, .mark ',', .word "shape",
        .mark '=', .word node.role.shape, .mark ',', .word "fillcolor", .mark '=',
        .quoted node.role.colourText, .mark ']'] ++ [.mark ';']) := by
    have named := (head.append (reads_quoted node.id)).append label
    have labelled := (named.append (reads_quoted node.label)).append shape
    rw [cut]
    exact (labelled.append (reads_quoted node.role.colourText)).append tail
  exact .statement reads rfl rfl rfl

def edgeStatement (edge : FlowEdge) : Statement :=
  .edge edge.source edge.target (if edge.isBackEdge then [("style", "dashed")] else [])

theorem says_arrowLine (edge : FlowEdge) : Says (arrowLine edge) [edgeStatement edge] := by
  have head : Reads "  " [] := rfl
  have arrow : Reads " -> " [.mark '-', .mark '>'] := rfl
  have ends := ((head.append (reads_quoted edge.source)).append arrow).append (reads_quoted edge.target)
  have style : Reads " [style=dashed]"
      [.mark '[', .word "style", .mark '=', .word "dashed", .mark ']'] := rfl
  have plain : Reads "" [] := rfl
  have tail : Reads ";" [.mark ';'] := rfl
  rw [arrowLine, edgeStatement]
  cases edge.isBackEdge with
  | false =>
      have reads := (ends.append plain).append tail
      exact .statement reads rfl rfl rfl
  | true =>
      have reads := (ends.append style).append tail
      exact .statement reads rfl rfl rfl

/-- A layer in a drawing: a subgraph that names its nodes. -/
def rankStatements (layer : Nat) (ids : List String) : List Statement :=
  [.opens "subgraph" (rankName layer), .setting "rank" "same"] ++ ids.map (.node · []) ++ [.closes]

theorem says_idLine (id : String) : Says ("    " ++ quoted id ++ ";") [.node id []] := by
  have head : Reads "    " [] := rfl
  have tail : Reads ";" [.mark ';'] := rfl
  have reads := (head.append (reads_quoted id)).append tail
  exact .statement reads rfl rfl rfl

theorem says_rankOpening (layer : Nat) :
    Says ("  subgraph layer_" ++ toString layer ++ " \x7b") [.opens "subgraph" (rankName layer)] := by
  have cut : "  subgraph layer_" ++ toString layer ++ " \x7b" =
      "  subgraph " ++ (rankName layer ++ " ") ++ "\x7b" := by
    simp [← String.toList_inj, rankName]
  have head : Reads "  subgraph " [.word "subgraph"] := rfl
  have tail : Reads "\x7b" [.mark '\x7b'] := rfl
  have reads := (head.append (reads_rankName layer)).append tail
  rw [cut]
  exact .statement reads rfl rfl rfl

theorem says_rankLines (graph : FlowGraph) (layer : Nat) :
    Says (lines (rankLines graph layer)) (rankStatements layer (graph.idsOfLayer layer)) := by
  have setting : Says "    rank=same;" [.setting "rank" "same"] := by
    have reads : Reads "    rank=same;" ([.word "rank", .mark '=', .word "same"] ++ [.mark ';']) := rfl
    exact .statement reads rfl rfl rfl
  have closing : Says "  \x7d" [.closes] := by
    have reads : Reads "  \x7d" ([] ++ [.mark '\x7d']) := rfl
    exact .statement reads rfl rfl rfl
  have members : Says (lines ((graph.nodesOfLayer layer).map fun node => "    " ++ quoted node.id ++ ";"))
      ((graph.nodesOfLayer layer).map fun node => .node node.id []) := by
    apply Says.lines_map
    intro node
    exact says_idLine node.id
  rw [rankLines, rankStatements, FlowGraph.idsOfLayer, List.map_map]
  apply Says.lines_append _ closing.lines_singleton
  apply Says.lines_append _ members
  exact (says_rankOpening layer).lines_singleton.lines_append setting.lines_singleton

theorem says_header :
    Says (lines ["digraph flow \x7b", "  rankdir=LR;",
        "  node [style=filled, fontname=" ++ quoted "Helvetica" ++ "];"])
      [.opens "digraph" "flow", .setting "rankdir" "LR",
        .defaults "node" [("style", "filled"), ("fontname", "Helvetica")]] := by
  have opening : Says "digraph flow \x7b" [.opens "digraph" "flow"] := by
    have reads : Reads "digraph flow \x7b" ([.word "digraph", .word "flow"] ++ [.mark '\x7b']) := rfl
    exact .statement reads rfl rfl rfl
  have direction : Says "  rankdir=LR;" [.setting "rankdir" "LR"] := by
    have reads : Reads "  rankdir=LR;" ([.word "rankdir", .mark '=', .word "LR"] ++ [.mark ';']) := rfl
    exact .statement reads rfl rfl rfl
  have defaults : Says ("  node [style=filled, fontname=" ++ quoted "Helvetica" ++ "];")
      [.defaults "node" [("style", "filled"), ("fontname", "Helvetica")]] := by
    have head : Reads "  node [style=filled, fontname=" [.word "node", .mark '[', .word "style", .mark '=',
        .word "filled", .mark ',', .word "fontname", .mark '='] := rfl
    have tail : Reads "];" [.mark ']', .mark ';'] := rfl
    have reads : Reads ("  node [style=filled, fontname=" ++ quoted "Helvetica" ++ "];")
        ([.word "node", .mark '[', .word "style", .mark '=', .word "filled", .mark ',', .word "fontname",
          .mark '=', .quoted "Helvetica", .mark ']'] ++ [.mark ';']) :=
      (head.append (reads_quoted "Helvetica")).append tail
    exact .statement reads rfl rfl rfl
  exact opening.lines_singleton.lines_append (direction.lines_singleton.lines_append defaults.lines_singleton)

/-! ### Drawing statement by statement -/

theorem draw_nodeStatement (drawing : Drawing) (node : FlowNode) :
    draw (drawing, .inGraph) (nodeStatement node) =
      some ({ drawing with nodes := drawing.nodes ++ [node.drawn] }, .inGraph) := by
  simp [draw, nodeStatement, List.lookup_cons, roleOf?_shape, FlowNode.drawn]

theorem draw_nodeStatements (nodes : List FlowNode) (drawing : Drawing) :
    (nodes.map nodeStatement).foldlM draw (drawing, .inGraph) =
      some ({ drawing with nodes := drawing.nodes ++ nodes.map FlowNode.drawn }, .inGraph) := by
  induction nodes generalizing drawing with
  | nil => simp
  | cons node rest ih => simp [draw_nodeStatement, ih]

theorem draw_edgeStatement (drawing : Drawing) (edge : FlowEdge) :
    draw (drawing, .inGraph) (edgeStatement edge) =
      some ({ drawing with edges := drawing.edges ++ [edge.drawn] }, .inGraph) := by
  simp only [edgeStatement, FlowEdge.drawn, draw]
  cases edge.isBackEdge <;> rfl

theorem draw_edgeStatements (edges : List FlowEdge) (drawing : Drawing) :
    (edges.map edgeStatement).foldlM draw (drawing, .inGraph) =
      some ({ drawing with edges := drawing.edges ++ edges.map FlowEdge.drawn }, .inGraph) := by
  induction edges generalizing drawing with
  | nil => simp
  | cons edge rest ih => simp [draw_edgeStatement, ih]

theorem draw_ids (ids read : List String) (drawing : Drawing) (layer : Nat) :
    (ids.map (Statement.node · [])).foldlM draw (drawing, .inRank layer read) =
      some (drawing, .inRank layer (read ++ ids)) := by
  induction ids generalizing read with
  | nil => simp
  | cons id rest ih => simp [draw, ih]

theorem draw_rankStatements (layer : Nat) (ids : List String) (drawing : Drawing) :
    (rankStatements layer ids).foldlM draw (drawing, .inGraph) =
      some ({ drawing with ranks := drawing.ranks ++ [(layer, ids)] }, .inGraph) := by
  simp [rankStatements, List.foldlM_append, draw, layerOf?_rankName, draw_ids]

theorem draw_ranks (ids : Nat → List String) (layers : List Nat) (drawing : Drawing) :
    (layers.flatMap fun layer => rankStatements layer (ids layer)).foldlM draw (drawing, .inGraph) =
      some ({ drawing with ranks := drawing.ranks ++ layers.map fun layer => (layer, ids layer) },
        .inGraph) := by
  induction layers generalizing drawing with
  | nil => simp
  | cons layer rest ih => simp [List.foldlM_append, draw_rankStatements, ih]

end Dot

namespace FlowGraph

open Dot (Statement Reads Says scan draw)

/-- The statements of the drawing. -/
def statements (graph : FlowGraph) : List Statement :=
  [.opens "digraph" "flow", .setting "rankdir" "LR",
      .defaults "node" [("style", "filled"), ("fontname", "Helvetica")]]
    ++ graph.nodes.map Dot.nodeStatement
    ++ graph.edges.map Dot.edgeStatement
    ++ (List.range graph.layerCount).flatMap (fun layer => Dot.rankStatements layer (graph.idsOfLayer layer))
    ++ [.closes]

theorem says_toDot (graph : FlowGraph) : Says graph.toDot graph.statements := by
  have closing : Says "\x7d" [.closes] := by
    have reads : Reads "\x7d" ([] ++ [.mark '\x7d']) := rfl
    exact .statement reads rfl rfl rfl
  rw [toDot, statements]
  apply Says.lines_append _ closing.lines_singleton
  apply Says.lines_append _ (.lines_flatMap (Dot.says_rankLines graph) _)
  apply Says.lines_append _ (.lines_map Dot.says_arrowLine _)
  exact Dot.says_header.lines_append (.lines_map Dot.says_nodeLine _)

/-- The statements of a drawing draw what it has to show. -/
theorem draw_statements (graph : FlowGraph) :
    graph.statements.foldlM draw ({}, .before) = some (graph.drawing, .after) := by
  simp [statements, List.foldlM_append, draw, Dot.draw_nodeStatements, Dot.draw_edgeStatements,
    Dot.draw_ranks, drawing]

theorem readDrawing_toDot (graph : FlowGraph) : Dot.readDrawing graph.toDot = some graph.drawing :=
  Dot.readDrawing_eq_some graph.says_toDot graph.draw_statements

/-- What is to be shown of a graph decides its drawing. -/
theorem toDot_congr {graph other : FlowGraph} (same : other.drawing = graph.drawing) :
    other.toDot = graph.toDot := by
  obtain ⟨nodes, edges, ranks⟩ := Drawing.mk.inj same
  have nodeLines : ∀ nodes : List FlowNode, nodes.map nodeLine =
      (nodes.map FlowNode.drawn).map fun shown => nodeLine
        { id := shown.id, label := shown.label, role := shown.role, layer := 0, order := 0,
          position := default, queryId := none } := by
    intro nodes
    rw [List.map_map]
    rfl
  have arrowLines : ∀ edges : List FlowEdge, edges.map arrowLine =
      (edges.map FlowEdge.drawn).map fun shown => arrowLine
        { id := "", source := shown.source, target := shown.target, isBackEdge := shown.isDashed } := by
    intro edges
    rw [List.map_map]
    rfl
  have ranksLines : ∀ graph : FlowGraph, (List.range graph.layerCount).flatMap (rankLines graph) =
      graph.drawing.ranks.flatMap fun rank =>
        ["  subgraph layer_" ++ toString rank.1 ++ " \x7b", "    rank=same;"]
          ++ rank.2.map (fun id => "    " ++ quoted id ++ ";") ++ ["  \x7d"] := by
    intro graph
    simp only [drawing, List.flatMap_map, idsOfLayer, List.map_map]
    rfl
  rw [toDot, toDot, nodeLines, arrowLines, ranksLines, nodeLines, arrowLines, ranksLines, nodes, edges,
    same]

end FlowGraph

end SqlLineage.Flow
