/-
Module: SqlLineage.Yaml.Outline
Purpose: The tokens of a text, with tokens for what only the columns say. A block collection is open as long
  as the lines stand to the right of its column. A key need not be marked, and shows as one by the colon
  after it: it must be on one line and not too long.
Main exports: tokens?
-/
import SqlLineage.Yaml.Properties
import SqlLineage.Yaml.Scalar

namespace SqlLineage.Yaml

/-! ### Keys -/

/-- The most characters that a key without a mark may have. -/
def keyLimit : Nat := 1024

/-- Gives up the key that may have begun in the innermost collection. -/
def dropKey : Reader Unit := do
  let s ← get
  if s.keyStart.any (·.isRequired) then failure
  set { s with keyStart := none }

/-- Notes that a key may begin here. In the column of the block collection around it nothing else may
stand. -/
def noteKey : Reader Unit := do
  let s ← get
  if s.fresh then
    dropKey
    let start : KeyStart :=
      { index := s.index
        line := s.line
        column := s.column
        token := s.tokens.size
        isRequired := !s.inFlow && s.indents.head? == some s.column }
    modify ({ · with keyStart := some start })

/-- What is left of a place where a key may have begun when the reader has come this far. -/
def State.openKey? (s : State) : Option KeyStart → Option (Option KeyStart)
  | some start =>
    if start.line < s.line || start.index + keyLimit < s.index then
      if start.isRequired then none else some none
    else
      some (some start)
  | none => some none

/-- Gives up the keys that would be too long, or would go over a line end. -/
def dropLongKeys : Reader Unit := do
  let s ← get
  let keyStart ← StateT.lift (s.openKey? s.keyStart)
  let outerKeyStarts ← StateT.lift (s.outerKeyStarts.mapM s.openKey?)
  set { s with keyStart, outerKeyStarts }

/-! ### Block collections -/

/-- Adds a token in front of those from this number on. -/
def emitAt (number : Nat) (token : Token) : Reader Unit :=
  modify fun s =>
    { s with
      tokens := s.tokens.extract 0 number ++ #[token] ++ s.tokens.extract number s.tokens.size }

/-- Opens a block collection in this column, with its token before the one of this number, unless one is
open there or further to the right. -/
def openBlock (column number : Nat) (token : Token) : Reader Unit := do
  let s ← get
  if !s.inFlow && s.floor ≤ column then
    set { s with indents := column :: s.indents }
    emitAt number token

/-- Closes block collections as long as the column of the innermost one passes the test. -/
def closeBlocks (test : Nat → Bool) : Reader Unit :=
  modify fun s =>
    if s.inFlow then s
    else
      let closed := s.indents.takeWhile test
      { s with
        indents := s.indents.drop closed.length
        tokens := s.tokens ++ closed.map fun _ => Token.blockEnd }

/-- Closes everything between documents. -/
def closeAll : Reader Unit := do
  closeBlocks fun _ => true
  dropKey
  setFresh false

/-! ### Tokens -/

/-- Reads the mark of a block collection's part: it may open the collection. In a flow collection it has
no such effect. -/
def blockMark (opening mark : Token) : Reader Unit := do
  let s ← get
  if !s.inFlow then
    if !s.fresh then failure
    openBlock s.column s.tokens.size opening
  dropKey
  emit mark
  advance 1

/-- Reads the colon before a value, which may make a key of what stands before it. -/
def valueMark : Reader Unit := do
  let s ← get
  match s.keyStart with
  | some start =>
    emitAt start.token .key
    openBlock start.column start.token .blockMapping
    modify ({ · with keyStart := none })
    setFresh false
  | none =>
    if !s.inFlow then
      if !s.fresh then failure
      openBlock s.column s.tokens.size .blockMapping
    setFresh (!s.inFlow)
  emit .value
  advance 1

/-- Reads the bracket that opens a flow collection. The collection may be a key. -/
def openFlow (token : Token) : Reader Unit := do
  noteKey
  modify fun s =>
    { s with
      outerKeyStarts := s.keyStart :: s.outerKeyStarts
      keyStart := none }
  setFresh true
  emit token
  advance 1

/-- Reads the bracket that closes a flow collection, if one is open. -/
def closeFlow (token : Token) : Reader Unit := do
  dropKey
  modify fun s =>
    match s.outerKeyStarts with
    | outer :: others => { s with keyStart := outer, outerKeyStarts := others }
    | [] => s
  setFresh false
  emit token
  advance 1

/-- Reads a token that may be a key by itself, or its beginning. -/
def keyPart (read : Reader Token) : Reader Unit := do
  noteKey
  setFresh false
  emit (← read)

/-- Reads the token that stands here, which is not a marker or a directive. -/
def contentToken : Reader Unit := do
  let s ← get
  match s.rest with
  | [] => pure ()
  | c :: rest =>
    let isWord := isWordEnd rest
    if c == '[' then openFlow .openSequence
    else if c == '\x7b' then openFlow .openMapping
    else if c == ']' then closeFlow .closeSequence
    else if c == '\x7d' then closeFlow .closeMapping
    else if c == ',' then
      dropKey
      setFresh true
      emit .comma
      advance 1
    else if c == '-' && isWord then
      blockMark .blockSequence .item
      setFresh true
    else if c == '?' && (s.inFlow || isWord) then
      blockMark .blockMapping .key
      setFresh (!s.inFlow)
    else if c == ':' && (s.inFlow || isWord) then valueMark
    else if c == '*' then keyPart do pure (.reference (← anchorName))
    else if c == '&' then keyPart do pure (.anchor (← anchorName))
    else if c == '!' then keyPart tag
    else if (c == '|' || c == '>') && !s.inFlow then
      dropKey
      setFresh true
      emit (← blockScalar (c == '>'))
    else if c == '\x27' || c == '\x22' then keyPart (quotedScalar c)
    else if startsPlain s.inFlow s.rest then keyPart plainScalar
    else failure

/-- Reads the token that stands here. -/
def nextToken : Reader Unit := do
  let s ← get
  if s.column == 0 && s.rest.head? == some '%' then
    closeAll
    emit (← directive)
  else
    let mark (token : Token) : Reader Unit := do
      closeAll
      advance 3
      emit token
    match (← marker?) with
    | some .documentStart => mark .documentStart
    | some .documentEnd => mark .documentEnd
    | none => contentToken

/-- Reads the tokens up to the end of the text. -/
def allTokens : Nat → Reader Unit
  | 0 => failure
  | fuel + 1 => do
    skipGap ((← remaining).length + 1)
    dropLongKeys
    let column := (← get).column
    closeBlocks (column < ·)
    if (← remaining).isEmpty then closeAll
    else
      nextToken
      allTokens fuel

/-- The tokens of a text. -/
def tokens? (text : String) : Option (List Token) := do
  let rest := text.toList
  if !rest.all isAllowed then none
  let (_, s) ← (allTokens (rest.length + 1)).run { rest }
  pure s.tokens.toList

end SqlLineage.Yaml
