/-
Module: SqlLineage.Proofs.Flow.DrawingReader
Purpose: A reader of drawings in the DOT language, which finds the tokens of a text, then its statements, and
  then what they draw. Inside double quotes a backslash stands for the character after it.
Main exports: Dot.Token, Dot.scan, Dot.Statement, Dot.readStatements, Drawing, Dot.readDrawing, Dot.Says
-/
import SqlLineage.Flow.Render

namespace SqlLineage.Flow

/-! ### What a drawing shows -/

structure DrawnNode where
  id : String
  label : String
  role : NodeRole
deriving Repr, DecidableEq

structure DrawnEdge where
  source : String
  target : String
  isDashed : Bool
deriving Repr, DecidableEq

/-- The content of a drawing: its nodes, its edges, and the ids of the nodes at each rank. -/
structure Drawing where
  nodes : List DrawnNode := []
  edges : List DrawnEdge := []
  ranks : List (Nat × List String) := []
deriving Repr, DecidableEq

namespace Dot

/-! ### Tokens -/

/-- The tokens of a drawing: words of letters, digits and underscores, quoted strings, and single marks. -/
inductive Token where
  | word (text : String)
  | quoted (text : String)
  | mark (c : Char)
deriving Repr, DecidableEq

/-- Where in a text the reader is, with the characters read of a token that it is inside of. -/
inductive Mode where
  | between
  | inWord (read : List Char)
  | inQuotes (read : List Char)
  | afterBackslash (read : List Char)
deriving Repr, DecidableEq

def isWordChar (c : Char) : Bool := c.isAlphanum || c = '_'

/-- What a character between two tokens is, or begins. -/
def start (c : Char) : List Token × Mode :=
  if c = '\x22' then ([], .inQuotes [])
  else if isWordChar c then ([], .inWord [c])
  else if c.isWhitespace then ([], .between)
  else ([.mark c], .between)

/-- The tokens that a character completes, and where the reader is after it. -/
def step : Mode → Char → List Token × Mode
  | .between, c => start c
  | .inWord read, c =>
      if isWordChar c then ([], .inWord (read ++ [c]))
      else (.word (.ofList read) :: (start c).1, (start c).2)
  | .inQuotes read, c =>
      if c = '\x22' then ([.quoted (.ofList read)], .between)
      else if c = '\\' then ([], .afterBackslash read)
      else ([], .inQuotes (read ++ [c]))
  | .afterBackslash read, c => ([], .inQuotes (read ++ [c]))

/-- The tokens that are complete after some characters, and where the reader is then. -/
def scan : Mode → List Char → List Token × Mode
  | mode, [] => ([], mode)
  | mode, c :: cs => ((step mode c).1 ++ (scan (step mode c).2 cs).1, (scan (step mode c).2 cs).2)

/-- The tokens of a text, unless it ends inside a quoted string. -/
def readTokens (text : String) : Option (List Token) :=
  match scan .between text.toList with
  | (tokens, .between) => some tokens
  | (tokens, .inWord read) => some (tokens ++ [.word (.ofList read)])
  | _ => none

/-! ### Statements -/

abbrev Attributes := List (String × String)

/-- The statements of a drawing. -/
inductive Statement where
  /-- The head of a block, as in `subgraph layer_0` with a brace after it. -/
  | opens (kind name : String)
  | closes
  | setting (name value : String)
  /-- Attributes for all that is of a kind. -/
  | defaults (kind : String) (attributes : Attributes)
  | node (id : String) (attributes : Attributes)
  | edge (source target : String) (attributes : Attributes)
deriving Repr, DecidableEq

/-- The text of a word or a quoted string. -/
def Token.text? : Token → Option String
  | .word text => some text
  | .quoted text => some text
  | .mark _ => none

/-- Whether a statement ends with the token. -/
def Token.isEnd : Token → Bool
  | .mark c => c = ';' || c = '\x7b' || c = '\x7d'
  | _ => false

/-- The attributes behind an opening bracket. -/
def readPairs : List Token → Option Attributes
  | [.word name, .mark '=', value, .mark ']', .mark ';'] => do
      let text ← value.text?
      return [(name, text)]
  | .word name :: .mark '=' :: value :: .mark ',' :: rest => do
      let text ← value.text?
      let pairs ← readPairs rest
      return (name, text) :: pairs
  | _ => none

/-- The attributes at the end of a statement, if it has any. -/
def readAttributes : List Token → Option Attributes
  | [.mark ';'] => some []
  | .mark '[' :: rest => readPairs rest
  | _ => none

def readStatement : List Token → Option Statement
  | [.mark '\x7d'] => some .closes
  | [.word kind, .word name, .mark '\x7b'] => some (.opens kind name)
  | [.word name, .mark '=', .word value, .mark ';'] => some (.setting name value)
  | .word kind :: rest => (readAttributes rest).map (.defaults kind)
  | .quoted source :: .mark '-' :: .mark '>' :: .quoted target :: rest =>
      (readAttributes rest).map (.edge source target)
  | .quoted id :: rest => (readAttributes rest).map (.node id)
  | _ => none

/-- The statements that some tokens make, the first of them with the tokens already read in front. -/
def readStatements : List Token → List Token → Option (List Statement)
  | [], [] => some []
  | _ :: _, [] => none
  | read, token :: rest =>
      if token.isEnd then do
        let statement ← readStatement (read ++ [token])
        let statements ← readStatements [] rest
        return statement :: statements
      else readStatements (read ++ [token]) rest

/-! ### Drawings -/

/-- The role that a shape and a colour stand for. -/
def roleOf? (shape colour : String) : Option NodeRole :=
  NodeRole.all.find? fun role => role.shape == shape && role.colourText == colour

/-- The layer whose nodes a subgraph of this name holds. -/
def layerOf? (name : String) : Option Nat :=
  match name.toList with
  | 'l' :: 'a' :: 'y' :: 'e' :: 'r' :: '_' :: digits =>
      if digits ≠ [] ∧ digits.all Char.isDigit then some (Nat.ofDigitChars 10 digits 0) else none
  | _ => none

/-- Where among the blocks of a drawing a statement stands. -/
inductive Place where
  | before
  | inGraph
  | inRank (layer : Nat) (ids : List String)
  | after
deriving Repr, DecidableEq

/-- What a statement adds to a drawing, and where the next one stands. -/
def draw : Drawing × Place → Statement → Option (Drawing × Place)
  | (drawing, .before), .opens "digraph" _ => some (drawing, .inGraph)
  | (drawing, .inGraph), .setting _ _ => some (drawing, .inGraph)
  | (drawing, .inGraph), .defaults _ _ => some (drawing, .inGraph)
  | (drawing, .inGraph), .node id attributes => do
      let label ← attributes.lookup "label"
      let shape ← attributes.lookup "shape"
      let colour ← attributes.lookup "fillcolor"
      let role ← roleOf? shape colour
      return ({ drawing with nodes := drawing.nodes ++ [⟨id, label, role⟩] }, .inGraph)
  | (drawing, .inGraph), .edge source target attributes =>
      let isDashed := attributes.lookup "style" == some "dashed"
      some ({ drawing with edges := drawing.edges ++ [⟨source, target, isDashed⟩] }, .inGraph)
  | (drawing, .inGraph), .opens "subgraph" name => do
      let layer ← layerOf? name
      return (drawing, .inRank layer [])
  | (drawing, .inRank layer ids), .setting _ _ => some (drawing, .inRank layer ids)
  | (drawing, .inRank layer ids), .node id [] => some (drawing, .inRank layer (ids ++ [id]))
  | (drawing, .inRank layer ids), .closes =>
      some ({ drawing with ranks := drawing.ranks ++ [(layer, ids)] }, .inGraph)
  | (drawing, .inGraph), .closes => some (drawing, .after)
  | _, _ => none

/-- What a text in the DOT language draws, if it is a whole drawing. -/
def readDrawing (text : String) : Option Drawing := do
  let tokens ← readTokens text
  let statements ← readStatements [] tokens
  match ← statements.foldlM draw ({}, .before) with
  | (drawing, .after) => some drawing
  | _ => none

/-! ### Reading piece by piece -/

/-- Reading goes on where it stood. -/
theorem scan_append (mode : Mode) (cs ds : List Char) :
    scan mode (cs ++ ds) =
      ((scan mode cs).1 ++ (scan (scan mode cs).2 ds).1, (scan (scan mode cs).2 ds).2) := by
  induction cs generalizing mode with
  | nil => rfl
  | cons c cs ih => rw [List.cons_append, scan, scan, ih, List.append_assoc]

/-- A piece of text that consists of whole tokens. -/
def Reads (text : String) (tokens : List Token) : Prop := scan .between text.toList = (tokens, .between)

namespace Reads

variable {first second : String} {tokens others : List Token}

theorem append (left : Reads first tokens) (right : Reads second others) :
    Reads (first ++ second) (tokens ++ others) := by
  unfold Reads at left right ⊢
  rw [String.toList_append, scan_append, left, right]

/-- Whole tokens are read alike in front of any text. -/
theorem scan_append (reads : Reads first tokens) (rest : List Char) :
    scan .between (first.toList ++ rest) =
      (tokens ++ (scan .between rest).1, (scan .between rest).2) := by
  rw [Dot.scan_append, reads]

theorem readTokens_eq (reads : Reads first tokens) : readTokens first = some tokens := by
  rw [readTokens, reads]

end Reads

/-- Up to its last token a statement is gathered. -/
theorem readStatements_gather {body : List Token} (inside : body.any Token.isEnd = false)
    (read rest : List Token) :
    readStatements read (body ++ rest) = readStatements (read ++ body) rest := by
  induction body generalizing read with
  | nil => rw [List.nil_append, List.append_nil]
  | cons token body ih =>
      rw [List.any_cons, Bool.or_eq_false_iff] at inside
      obtain ⟨notEnd, others⟩ := inside
      rw [List.cons_append, readStatements, notEnd, if_neg Bool.false_ne_true, ih others,
        List.append_assoc, List.singleton_append]

/-- A statement is read up to its last token. -/
theorem readStatements_statement {body : List Token} {last : Token} {statement : Statement}
    (inside : body.any Token.isEnd = false) (ends : last.isEnd = true)
    (means : readStatement (body ++ [last]) = some statement) (rest : List Token) :
    readStatements [] (body ++ [last] ++ rest) = (readStatements [] rest).map (statement :: ·) := by
  rw [List.append_assoc, readStatements_gather inside, List.singleton_append, readStatements, if_pos ends,
    List.nil_append, means]
  cases readStatements [] rest <;> rfl

/-- A piece of text that consists of whole statements. -/
def Says (text : String) (statements : List Statement) : Prop :=
  ∃ tokens, Reads text tokens ∧ ∀ rest,
    readStatements [] (tokens ++ rest) = (readStatements [] rest).map (statements ++ ·)

namespace Says

variable {first second : String} {statements others : List Statement}

theorem nil : Says "" [] :=
  ⟨[], rfl, fun _ => Option.map_id.symm ▸ rfl⟩

theorem statement {body : List Token} {last : Token} {statement : Statement}
    (reads : Reads first (body ++ [last])) (inside : body.any Token.isEnd = false)
    (ends : last.isEnd = true) (means : readStatement (body ++ [last]) = some statement) :
    Says first [statement] :=
  ⟨body ++ [last], reads, readStatements_statement inside ends means⟩

theorem append (left : Says first statements) (right : Says second others) :
    Says (first ++ second) (statements ++ others) := by
  obtain ⟨tokens, reads, read⟩ := left
  obtain ⟨otherTokens, otherReads, otherRead⟩ := right
  refine ⟨tokens ++ otherTokens, reads.append otherReads, fun rest => ?_⟩
  rw [List.append_assoc, read, otherRead, Option.map_map]
  apply congrArg (Option.map · _)
  funext later
  exact (List.append_assoc statements others later).symm

/-- A line says what stands on it. -/
theorem line (said : Says first statements) : Says (first ++ "\n") statements := by
  obtain ⟨tokens, reads, read⟩ := said
  have ends : Reads "\n" [] := rfl
  exact ⟨tokens, List.append_nil tokens ▸ reads.append ends, read⟩

theorem lines_append {items more : List String} (left : Says (lines items) statements)
    (right : Says (lines more) others) : Says (lines (items ++ more)) (statements ++ others) := by
  rw [lines, List.map_append, String.join_append]
  exact left.append right

theorem lines_singleton (said : Says first statements) : Says (lines [first]) statements := by
  rw [lines, List.map_singleton, String.join_cons, String.join_nil, String.append_empty]
  exact said.line

theorem lines_flatMap {α : Type} {text : α → List String} {meaning : α → List Statement}
    (said : ∀ item, Says (lines (text item)) (meaning item)) (items : List α) :
    Says (lines (items.flatMap text)) (items.flatMap meaning) := by
  induction items with
  | nil => exact nil
  | cons item rest ih =>
      rw [List.flatMap_cons, List.flatMap_cons]
      exact (said item).lines_append ih

theorem lines_map {α : Type} {text : α → String} {meaning : α → Statement}
    (said : ∀ item, Says (text item) [meaning item]) (items : List α) :
    Says (lines (items.map text)) (items.map meaning) := by
  rw [List.map_eq_flatMap, List.map_eq_flatMap]
  exact lines_flatMap (fun item => (said item).lines_singleton) items

/-- A text of whole statements is read as these. -/
theorem exists_tokens (said : Says first statements) :
    ∃ tokens, readTokens first = some tokens ∧ readStatements [] tokens = some statements := by
  obtain ⟨tokens, reads, read⟩ := said
  have whole := read []
  rw [List.append_nil] at whole
  refine ⟨tokens, reads.readTokens_eq, whole.trans ?_⟩
  rw [readStatements, Option.map_some, List.append_nil]

end Says

/-- What a text of whole statements draws is what these draw. -/
theorem readDrawing_eq_some {text : String} {statements : List Statement} {drawing : Drawing}
    (said : Says text statements)
    (drawn : statements.foldlM draw ({}, .before) = some (drawing, .after)) :
    readDrawing text = some drawing := by
  obtain ⟨tokens, tokensRead, statementsRead⟩ := said.exists_tokens
  rw [readDrawing, tokensRead, Option.bind_eq_bind, Option.bind_some, statementsRead,
    Option.bind_eq_bind, Option.bind_some, drawn]
  rfl

end Dot

end SqlLineage.Flow
