/-
Module: SqlLineage.Yaml.Scalar
Purpose: The scalars: plain ones, quoted ones, and those that take the lines of a block. Where a scalar
  runs over several lines, one line end counts as a space and each further one as itself.
Main exports: Gap, plainScalar, quotedScalar, blockScalar
-/
import SqlLineage.Text.Digit
import SqlLineage.Yaml.Reader

namespace SqlLineage.Yaml

/-- What stands between two words of a scalar. -/
structure Gap where
  /-- Blanks before the first line end, which count if there is none. -/
  blanks : String := ""
  /-- The first line end, empty if it is escaped. -/
  first : Option String := none
  /-- The further line ends. -/
  more : String := ""
deriving Repr, Inhabited

/-- The text that a gap counts as. -/
def Gap.text (gap : Gap) : String :=
  match gap.first with
  | none => gap.blanks
  | some "\n" => if gap.more.isEmpty then " " else gap.more
  | some first => first ++ gap.more

/-- Reads blanks and line ends. A tab may not stand in the indentation of a plain scalar, whose columns
begin at `floor`. -/
def readGap (floor : Nat) : Nat → Gap → Reader Gap
  | 0, gap => pure gap
  | fuel + 1, gap => do
    let s ← get
    match s.rest with
    | [] => pure gap
    | c :: _ =>
      if isBlank c then
        if gap.first.isSome then
          if c == '\t' && s.column < floor then failure
          advance 1
          readGap floor fuel gap
        else
          advance 1
          readGap floor fuel { gap with blanks := gap.blanks.push c }
      else if isBreak c then
        let lineEnd ← breakLine
        match gap.first with
        | none => readGap floor fuel { gap with first := some lineEnd }
        | some _ => readGap floor fuel { gap with more := gap.more ++ lineEnd }
      else
        pure gap

/-! ### Plain scalars -/

/-- The word of a plain scalar at the head of the text: it ends at a blank, at a line end, and at a
character that shapes the document. In a flow collection a colon in front of such a character is an
error. -/
def plainWord (inFlow : Bool) : List Char → Option (List Char)
  | [] => some []
  | c :: rest =>
    if isBlank c || isBreak c then some []
    else if c == ':' && isWordEnd rest then some []
    else if inFlow && c == ':' && rest.head?.any (fun d => isFlowIndicator d || d == '?') then none
    else if inFlow && isFlowIndicator c then some []
    else (plainWord inFlow rest).map (c :: ·)

/-- Reads the further words of a plain scalar. Outside flow collections its lines must be indented as the
content of the block collection around it. -/
def plainRest : Nat → String → Reader String
  | 0, text => pure text
  | fuel + 1, text => do
    let gap ← readGap (← get).floor ((← remaining).length + 1) {}
    if gap.first.isSome then setFresh true
    let s ← get
    if !s.inFlow && s.column < s.floor then return text
    if (← marker?).isSome || s.rest.head? == some '#' then return text
    let word ← StateT.lift (plainWord s.inFlow s.rest)
    if word.isEmpty then return text
    advance word.length
    setFresh false
    plainRest fuel (text ++ gap.text ++ String.ofList word)

/-- Whether a plain scalar may begin in front of this text. -/
def startsPlain (inFlow : Bool) : List Char → Bool
  | [] => false
  | c :: rest =>
    if c == '-' then !isWordEnd rest
    else if c == '?' || c == ':' then !inFlow && !isWordEnd rest
    else !(isBlank c || isBreak c || isFlowIndicator c) &&
      !("#&*!|>\x27\x22%@\x60".toList.contains c)

/-- Reads a plain scalar. -/
def plainScalar : Reader Token := do
  let s ← get
  let word ← StateT.lift (plainWord s.inFlow s.rest)
  advance word.length
  pure (.scalar (← plainRest s.rest.length (String.ofList word)) .plain)

/-! ### Quoted scalars -/

/-- The character that a letter after a backslash stands for. -/
def letterEscape? : Char → Option Char
  | '0' => some '\x00'
  | 'a' => some '\x07'
  | 'b' => some '\x08'
  | 't' | '\t' => some '\t'
  | 'n' => some '\n'
  | 'v' => some '\x0b'
  | 'f' => some '\x0c'
  | 'r' => some '\r'
  | 'e' => some '\x1b'
  | ' ' => some ' '
  | '\x22' => some '\x22'
  | '/' => some '/'
  | '\\' => some '\\'
  | 'N' => some '\x85'
  | '_' => some '\xa0'
  | 'L' => some '\u2028'
  | 'P' => some '\u2029'
  | _ => none

/-- The number of hexadecimal digits that a letter after a backslash announces. -/
def codeLength? : Char → Option Nat
  | 'x' => some 2
  | 'u' => some 4
  | 'U' => some 8
  | _ => none

/-- Reads what follows a backslash. -/
def escapeSequence : Reader Char := do
  match (← remaining) with
  | [] => failure
  | letter :: rest =>
    match codeLength? letter with
    | none =>
      advance 1
      StateT.lift (letterEscape? letter)
    | some count =>
      let digits := rest.take count
      if digits.length < count then failure
      let code ← StateT.lift (Text.digitsValue? 16 digits)
      if h : code.isValidChar then
        advance (count + 1)
        pure (Char.ofNatAux code h)
      else
        failure

/-- Reads a quoted scalar up to its closing quote. -/
def quotedRest (quote : Char) : Nat → String → Reader String
  | 0, _ => failure
  | fuel + 1, text => do
    if (← marker?).isSome then failure
    let gapFrom (gap : Gap) : Reader String := do
      let gap ← readGap 0 ((← remaining).length + 1) gap
      quotedRest quote fuel (text ++ gap.text)
    match (← remaining) with
    | [] => failure
    | c :: rest =>
      if c == quote then
        if quote == '\x27' && rest.head? == some '\x27' then
          advance 2
          quotedRest quote fuel (text.push '\x27')
        else
          advance 1
          pure text
      else if isBlank c || isBreak c then
        gapFrom {}
      else if quote == '\x22' && c == '\\' then
        advance 1
        if rest.head?.any isBreak then
          let _ ← breakLine
          gapFrom { first := some "" }
        else
          let c ← escapeSequence
          quotedRest quote fuel (text.push c)
      else
        advance 1
        quotedRest quote fuel (text.push c)

/-- Reads a scalar in single or in double quotes. -/
def quotedScalar (quote : Char) : Reader Token := do
  advance 1
  let text ← quotedRest quote ((← remaining).length + 1) ""
  pure (.scalar text (if quote == '\x27' then .singleQuoted else .doubleQuoted))

/-! ### Block scalars -/

/-- What becomes of the line ends at the end of a block scalar. -/
inductive Chomping where
  | strip
  | clip
  | keep
deriving Repr, Inhabited, DecidableEq

/-- Reads the mark for the end of a block scalar. -/
def chompingMark? : Reader (Option Chomping) := do
  match (← remaining) with
  | '-' :: _ =>
    advance 1
    pure (some .strip)
  | '+' :: _ =>
    advance 1
    pure (some .keep)
  | _ => pure none

/-- Reads the digit that says how far a block scalar is indented. -/
def indentationMark? : Reader (Option Nat) := do
  match (← remaining) with
  | c :: _ =>
    if !c.isDigit then pure none
    else if c == '0' then failure
    else
      advance 1
      pure (some (c.toNat - 48))
  | [] => pure none

/-- Passes over empty lines and over indentation up to the given column, or over all of it where the
column is not yet known. Gives the line ends and the largest indentation. -/
def blockBreaks (indentation : Option Nat) : Nat → String → Nat → Reader (String × Nat)
  | 0, breaks, widest => pure (breaks, widest)
  | fuel + 1, breaks, widest => do
    let s ← get
    let spaces := (s.rest.takeWhile (· == ' ')).length
    let spaces :=
      match indentation with
      | some column => min spaces (column - s.column)
      | none => spaces
    advance spaces
    let s ← get
    let widest := max widest s.column
    let isShort := indentation.all (s.column < ·)
    match s.rest with
    | c :: _ =>
      if isShort && c == '\t' then failure
      else if isBreak c then
        let lineEnd ← breakLine
        blockBreaks indentation fuel (breaks ++ lineEnd) widest
      else
        pure (breaks, widest)
    | [] => pure (breaks, widest)

/-- The parts of a block scalar that has been read up to the start of a line. -/
structure BlockText where
  text : String := ""
  /-- The end of the last line with text. -/
  lineEnd : String := ""
  /-- The ends of the empty lines after it. -/
  emptyLines : String := ""
  /-- Whether the last line with text begins with a blank. -/
  leadingBlank : Bool := false
deriving Repr, Inhabited

/-- What the line ends before a next line come to. Folding joins two lines of which neither begins with a
blank. -/
def BlockText.joint (folded : Bool) (block : BlockText) (nextBlank : Bool) : String :=
  if folded && block.lineEnd == "\n" && !block.leadingBlank && !nextBlank then
    if block.emptyLines.isEmpty then " " else block.emptyLines
  else block.lineEnd ++ block.emptyLines

/-- Reads the lines of a block scalar. -/
def blockLines (folded : Bool) (indentation : Nat) : Nat → BlockText → Reader BlockText
  | 0, block => pure block
  | fuel + 1, block => do
    let s ← get
    match s.rest with
    | [] => pure block
    | c :: _ =>
      if s.column != indentation then pure block
      else
        let joint := block.joint folded (isBlank c)
        let line ← takeRun fun c => !isBreak c
        let lineEnd ← breakLine
        let (emptyLines, _) ← blockBreaks (some indentation) ((← remaining).length + 1) "" 0
        blockLines folded indentation fuel
          { text := block.text ++ joint ++ line
            lineEnd, emptyLines
            leadingBlank := isBlank c }

/-- The text of a block scalar with its end treated as asked. -/
def BlockText.chomped (chomping : Chomping) (block : BlockText) : String :=
  match chomping with
  | .strip => block.text
  | .clip => block.text ++ block.lineEnd
  | .keep => block.text ++ block.lineEnd ++ block.emptyLines

/-- Reads a block scalar from its first mark on. -/
def blockScalar (folded : Bool) : Reader Token := do
  advance 1
  let chomping ← chompingMark?
  let indentation ← indentationMark?
  let chomping ← if chomping.isSome then pure chomping else chompingMark?
  endLine
  let floor := (← get).floor
  let given := indentation.map (floor - 1 + ·)
  let (emptyLines, widest) ← blockBreaks given ((← remaining).length + 1) "" 0
  let column := given.getD (max (max widest floor) 1)
  let block ← blockLines folded column ((← remaining).length + 1) { emptyLines }
  pure (.scalar (block.chomped (chomping.getD .clip)) (if folded then .folded else .literal))

end SqlLineage.Yaml
