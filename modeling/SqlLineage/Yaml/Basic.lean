/-
Module: SqlLineage.Yaml.Basic
Purpose: YAML documents as values, and the characters that shape them. A scalar keeps its text as it is
  written; what it means is for the reader of the document to say. A node may refer to another one, so a
  document is a root with a table of the nodes that can be referred to.
Main exports: ScalarStyle, Scalar, Node, Document, Part, isBlank, isBreak, isWordEnd, isAllowed
-/

namespace SqlLineage.Yaml

/-- How a scalar is written. -/
inductive ScalarStyle where
  | plain
  | singleQuoted
  | doubleQuoted
  /-- The lines of a block as they stand. -/
  | literal
  /-- The lines of a block, joined where they can be. -/
  | folded
deriving Repr, Inhabited, DecidableEq

/-- A scalar with its tag, which is kept octet by octet, a character for each. -/
structure Scalar where
  text : String := ""
  style : ScalarStyle := .plain
  tag : Option String := none
deriving Repr, Inhabited, DecidableEq

/-- Whether nothing is written. -/
def Scalar.isMissing (scalar : Scalar) : Bool := scalar.text.isEmpty && scalar.style == .plain

/-- A part of a document. -/
inductive Node where
  | scalar (scalar : Scalar)
  | sequence (items : List Node)
  | mapping (entries : List (Node × Node))
  /-- A further use of the node whose anchor has this number. -/
  | reference (anchor : Nat)
deriving Repr, Inhabited

/-- What stands where nothing is written. -/
def Node.missing : Node := .scalar {}

/-! ### Documents -/

/-- An anchor: its number, and the place of the node that it marks. Two anchors may share a number. -/
structure Anchor where
  number : Nat
  place : Nat
deriving Repr, Inhabited, DecidableEq

/-- A document whose nodes may refer to one another. -/
structure Document where
  root : Node
  /-- The anchors, the latest first. -/
  anchors : List Anchor
  /-- The nodes that have an anchor, by their places. -/
  nodes : List (Nat × Node)
deriving Inhabited

/-- The node that references with this number stand for: of the anchors with the number, the latest
counts. -/
def Document.target? (document : Document) (number : Nat) : Option Node := do
  let anchor ← document.anchors.find? (·.number == number)
  document.nodes.lookup anchor.place

/-- A node, seen in the document that it belongs to. -/
structure Part where
  document : Document
  node : Node
deriving Inhabited

/-- The node itself, or the one that it refers to. An anchor never marks a reference, so one step
suffices. -/
def Part.content? (part : Part) : Option Node :=
  match part.node with
  | .reference number => part.document.target? number
  | node => some node

/-- Another node of the same document. -/
def Part.at (part : Part) (node : Node) : Part := { part with node }

def Document.whole (document : Document) : Part := { document, node := document.root }

/-! ### Characters -/

/-- A space or a tab. -/
def isBlank (c : Char) : Bool := c == ' ' || c == '\t'

/-- A character that ends a line. -/
def isBreak (c : Char) : Bool :=
  c == '\n' || c == '\r' || c == '\x85' || c == '\u2028' || c == '\u2029'

/-- Whether a word ends in front of this text. -/
def isWordEnd : List Char → Bool
  | [] => true
  | c :: _ => isBlank c || isBreak c

/-- A character that shapes flow collections. -/
def isFlowIndicator (c : Char) : Bool :=
  c == ',' || c == '[' || c == ']' || c == '\x7b' || c == '\x7d'

/-- A character of a name: of an anchor, of a directive, or between the marks of a tag. -/
def isNameChar (c : Char) : Bool := c.isAlphanum || c == '_' || c == '-'

/-- A character that may stand in a document: all but the control characters. -/
def isAllowed (c : Char) : Bool :=
  let code := c.toNat
  c == '\t' || c == '\n' || c == '\r' || code == 0x85 || (0x20 ≤ code && code ≤ 0x7E) ||
    (0xA0 ≤ code && code ≤ 0xFFFD) || 0x10000 ≤ code

end SqlLineage.Yaml
