/-
Module: SqlLineage.Yaml.Reader
Purpose: Reading a document from left to right with an eye on lines and columns, which carry the structure
  of block collections.
Main exports: KeyStart, State, Reader, advance, takeRun, breakLine, skipGap, marker?
-/
import SqlLineage.Yaml.Token

namespace SqlLineage.Yaml

/-- A place where a key may have begun. Whether it is one, the colon after it says. -/
structure KeyStart where
  index : Nat
  line : Nat
  column : Nat
  /-- The number of tokens before it. -/
  token : Nat
  /-- Whether nothing but a key may stand here. -/
  isRequired : Bool
deriving Repr, Inhabited, DecidableEq

/-- How far a document has been read. -/
structure State where
  rest : List Char
  /-- The number of characters that have been read, of all lines together. -/
  index : Nat := 0
  line : Nat := 0
  column : Nat := 0
  /-- Whether a block collection or a key may begin here: nothing but the marks of collections stands
  before it on the line. -/
  fresh : Bool := true
  /-- The columns of the block collections that are open, the innermost first. -/
  indents : List Nat := []
  /-- The place where a key of the innermost collection may have begun. -/
  keyStart : Option KeyStart := none
  /-- The same for the collections around the flow collections that are open, the innermost first. -/
  outerKeyStarts : List (Option KeyStart) := []
  tokens : Array Token := #[]
deriving Inhabited

/-- Whether a flow collection is open. -/
def State.inFlow (s : State) : Bool := !s.outerKeyStarts.isEmpty

/-- The column from which on the content of the innermost block collection stands. -/
def State.floor (s : State) : Nat :=
  match s.indents with
  | [] => 0
  | column :: _ => column + 1

/-- A step of reading. All that can go wrong makes the document invalid. -/
abbrev Reader := StateT State Option

/-- What has not been read. -/
def remaining : Reader (List Char) := do pure (← get).rest

def setFresh (fresh : Bool) : Reader Unit := modify ({ · with fresh })

/-- Adds a token at the end. -/
def emit (token : Token) : Reader Unit := modify fun s => { s with tokens := s.tokens.push token }

/-- Passes over this many characters of a line. -/
def advance (count : Nat) : Reader Unit :=
  modify fun s =>
    { s with
      rest := s.rest.drop count
      index := s.index + count
      column := s.column + count }

/-- Takes the characters up to the first that fails the test. None of them may end a line. -/
def takeRun (test : Char → Bool) : Reader String := do
  let run := (← remaining).takeWhile test
  advance run.length
  pure (String.ofList run)

/-- Fails unless the rest of the text is as asked. -/
def expectNext (test : List Char → Bool) : Reader Unit := do
  if !test (← remaining) then failure

/-- Passes over spaces and tabs. -/
def skipBlanks : Reader Unit := do
  let _ ← takeRun isBlank

/-- Passes over the end of a line, if there is one, and gives the text that it counts as: a line feed, or
itself if it is one of the separators of Unicode. -/
def breakLine : Reader String := do
  let next (count : Nat) (text : String) : Reader String := do
    modify fun s =>
      { s with
        rest := s.rest.drop count
        index := s.index + count
        line := s.line + 1
        column := 0 }
    pure text
  match (← remaining) with
  | '\r' :: '\n' :: _ => next 2 "\n"
  | c :: _ =>
    if c == '\u2028' || c == '\u2029' then next 1 (String.singleton c)
    else if isBreak c then next 1 "\n"
    else pure ""
  | [] => pure ""

/-- Passes over the rest of the line, its end excluded. -/
def skipLine : Reader Unit := do
  let _ ← takeRun fun c => !isBreak c

/-- Passes over blanks and a comment at the end of a line, and over the line end. -/
def endLine : Reader Unit := do
  skipBlanks
  if (← remaining).head? == some '#' then skipLine
  expectNext (·.head?.all isBreak)
  let _ ← breakLine

/-- Passes over blanks, comments and line ends. Outside flow collections a line may begin a block
collection, so tabs in front of it are not passed over. A byte order mark is passed over at the start of
any line, and takes up a column there. -/
def skipGap : Nat → Reader Unit
  | 0 => pure ()
  | fuel + 1 => do
    let s ← get
    match s.rest with
    | [] => pure ()
    | c :: _ =>
      if c == ' ' || (c == '\t' && (s.inFlow || !s.fresh)) || (c == '\ufeff' && s.column == 0) then
        advance 1
        skipGap fuel
      else if c == '#' then
        skipLine
        skipGap fuel
      else if isBreak c then
        let _ ← breakLine
        if !s.inFlow then setFresh true
        skipGap fuel
      else
        pure ()

/-- The marks between documents, which hold at the start of a line only. -/
inductive Marker where
  | documentStart
  | documentEnd
deriving Repr, Inhabited, DecidableEq

/-- The marker that stands here. -/
def marker? : Reader (Option Marker) := do
  let s ← get
  if s.column != 0 then pure none
  else
    match s.rest with
    | '-' :: '-' :: '-' :: rest => pure (if isWordEnd rest then some .documentStart else none)
    | '.' :: '.' :: '.' :: rest => pure (if isWordEnd rest then some .documentEnd else none)
    | _ => pure none

end SqlLineage.Yaml
