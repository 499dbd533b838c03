/-
Module: SqlLineage.Sql.Grammar.Basic
Purpose: Reading a list of tokens from left to right. A reader takes tokens from the front or fails;
  what is tried and fails takes nothing.
Main exports: Reader, Failure, next, keyword?, symbol?, attempt, many, commaSeparated, deeper
-/
import SqlLineage.Sql.Dialect
import SqlLineage.Sql.Printer

namespace SqlLineage.Sql.Grammar

/-- Why a text is not in the grammar. -/
inductive Failure where
  | unexpected
  /-- Constructs are nested too deeply. No other reading is tried then. -/
  | tooDeep
deriving Repr, Inhabited, DecidableEq

/-- What a reader goes on from. -/
structure State where
  /-- The tokens not read yet. -/
  tokens : List Lexeme
  /-- How many more constructs may be nested in each other. -/
  depth : Nat
  /-- Whether the condition of a hierarchy is read, where `PRIOR` is an operator. -/
  inHierarchy : Bool := false
deriving Repr, Inhabited

abbrev Reader := StateT State (Except Failure)

/-- Nothing that can stand here. -/
def unexpected : Reader α := throw .unexpected

/-! ### Single tokens -/

/-- The token after so many others, without taking it. -/
def peekAt (position : Nat) : Reader (Option Token) :=
  return (← get).tokens[position]?.map Lexeme.token

def peek : Reader (Option Token) := peekAt 0

/-- The keyword after so many tokens; empty if there is none. -/
def peekKeywordAt (position : Nat) : Reader String :=
  return ((← peekAt position).map Token.keyword).getD ""

def peekKeyword : Reader String := peekKeywordAt 0

/-- Whether the token after so many others is this symbol. -/
def peekSymbolAt (position : Nat) (symbol : String) : Reader Bool :=
  return (← peekAt position) == some (.symbol symbol)

def peekSymbol (symbol : String) : Reader Bool := peekSymbolAt 0 symbol

/-- The next token. -/
def next : Reader Token := do
  let state ← get
  match state.tokens with
  | [] => unexpected
  | ⟨token, _⟩ :: rest =>
    set { state with tokens := rest }
    pure token

/-- Gives a token back that was taken. -/
def putBack (token : Token) : Reader Unit :=
  modify fun state => { state with tokens := { token } :: state.tokens }

/-- Whether the next token stands right after the one before it. -/
def isAdjacent : Reader Bool := return (← get).tokens.head?.any (!·.afterBlank)

/-- Takes so many tokens. -/
def skip (count : Nat) : Reader Unit :=
  modify fun state => { state with tokens := state.tokens.drop count }

/-- Takes the symbol if it comes next; says whether it did. -/
def symbol? (symbol : String) : Reader Bool := do
  if ← peekSymbol symbol then
    skip 1
    pure true
  else pure false

/-- Takes the symbol, which has to come next. -/
def symbol (symbol : String) : Reader Unit := do
  unless ← symbol? symbol do unexpected

/-- Takes the keyword if it comes next; says whether it did. -/
def keyword? (word : String) : Reader Bool := do
  if (← peekKeyword) == word then
    skip 1
    pure true
  else pure false

/-- Takes the keyword, which has to come next. -/
def keyword (word : String) : Reader Unit := do
  unless ← keyword? word do unexpected

/-- Takes the keywords if all of them come next in this order; says whether they did. -/
def keywords? (words : List String) : Reader Bool := do
  let state ← get
  if (state.tokens.take words.length).map (·.token.keyword) == words then
    skip words.length
    pure true
  else pure false

/-- Takes the keywords, all of which have to come next. -/
def keywords (words : List String) : Reader Unit := do
  unless ← keywords? words do unexpected

/-- Takes the next keyword if it is one of these. -/
def oneOf? (words : List String) : Reader (Option String) := do
  let word ← peekKeyword
  if !word.isEmpty && words.contains word then
    skip 1
    pure (some word)
  else pure none

/-- Takes the next keyword, which has to be one of these. -/
def oneOf (words : List String) : Reader String := do
  match ← oneOf? words with
  | some word => pure word
  | none => unexpected

/-! ### Combinations -/

/-- Tries to read something and takes nothing if it is not there. -/
def attempt (read : Reader α) : Reader (Option α) := fun state =>
  match read state with
  | .ok (value, after) => .ok (some value, after)
  | .error .tooDeep => .error .tooDeep
  | .error .unexpected => .ok (none, state)

/-- Tries the first reading. Where it finds nothing, the second one is taken, and where it fails and
`retry` allows it, the third; should that fail as well, the first failure stands. -/
def orElse (retry : Bool) (first : Reader (Option α)) (absent failed : Reader α) : Reader α :=
  fun state =>
    match first state with
    | .ok (some value, after) => .ok (value, after)
    | .ok (none, after) => absent after
    | .error failure =>
      if retry then
        match failed state with
        | .ok result => .ok result
        | .error _ => .error failure
      else .error failure

/-- Reads something one level deeper. -/
def deeper (read : Reader α) : Reader α := do
  let state ← get
  match state.depth with
  | 0 => throw .tooDeep
  | depth + 1 =>
    set { state with depth }
    let value ← read
    modify fun state => { state with depth := depth + 1 }
    pure value

/-- Goes on as long as the step finds something, at most so many times. -/
def iterateWithin (step : α → Reader (Option α)) : Nat → α → Reader α
  | 0, value => pure value
  | fuel + 1, value => do
    match ← step value with
    | some value => iterateWithin step fuel value
    | none => pure value

/-- Goes on from a value as long as the step finds something. Each step takes a token, so that there
are no more steps than tokens. -/
def iterate (step : α → Reader (Option α)) (value : α) : Reader α := do
  iterateWithin step ((← get).tokens.length + 1) value

/-- As many of a thing as there are, one after the other. -/
def many (read : Reader (Option α)) : Reader (List α) := do
  let found ← iterate (fun found => return (← read).map (· :: found)) []
  pure found.reverse

/-- Asks a reader only where the condition holds. Elsewhere nothing is taken. -/
def onlyIf (condition : Bool) (read : Reader Bool) : Reader Bool :=
  if condition then read else pure false

/-- Things with a comma between two of them, until there is no comma or `atEnd` holds after one. -/
def commaSeparatedUntil (atEnd : Reader Bool) (read : Reader α) : Reader (List α) := do
  let first ← read
  let rest ← many do
    if ← symbol? "," then
      if ← atEnd then pure none else return some (← read)
    else pure none
  pure (first :: rest)

/-- Whether a list is over where a comma may stand before its end: a bracket is closed, or one of these
words comes next. -/
def atListEnd (words : List String) : Reader Bool := do
  match ← peek with
  | none => pure true
  | some (.symbol symbol) => pure ([")", "]", "\x7d", ";"].contains symbol)
  | some token => pure (words.contains token.keyword)

/-- Things with a comma between two of them. -/
def commaSeparated (dialect : Dialect) (read : Reader α) : Reader (List α) :=
  commaSeparatedUntil (onlyIf dialect.trailingCommas (atListEnd endsColumn)) read

/-- Things with a comma between two of them, or nothing where the symbol that closes the list comes
next. The symbol is left. -/
def commaSeparatedOrNone (dialect : Dialect) (closing : String) (read : Reader α) :
    Reader (List α) := do
  if ← peekSymbol closing then pure []
  else if dialect.trailingCommas && (← peekSymbol ",") && (← peekSymbolAt 1 closing) then
    skip 1
    pure []
  else commaSeparated dialect read

/-- Something in parentheses. -/
def parenthesized (read : Reader α) : Reader α := do
  symbol "("
  let value ← read
  symbol ")"
  pure value

/-- Asks the second reader only if the first one found nothing. -/
def firstOf (first second : Reader Bool) : Reader Bool := do
  if ← first then pure true else second

/-- Something if this keyword comes first. -/
def afterKeyword (word : String) (read : Reader α) : Reader (Option α) := do
  if ← keyword? word then return some (← read) else pure none

/-! ### Names and literals -/

/-- A name: any word, or a string. -/
def name : Reader Ident := do
  match ← next with
  | .word value _ quote => pure { value, quote }
  | .text .single value => pure { value, quote := some '\x27' }
  | .text .double value => pure { value, quote := some '\x22' }
  | _ => unexpected

/-- The parts of a name that a quoted part with points in it stands for. -/
def splitAtPoints (ident : Ident) : List Ident :=
  (Text.pieces ['.'] ident.value.toList).map fun piece => { ident with value := String.ofList piece }

/-- Takes two points in a row, between which a part of a name is left out. -/
def omittedPart? : Reader Bool := do
  if (← peekSymbolAt 0 ".") && (← peekSymbolAt 1 ".") then
    skip 2
    pure true
  else pure false

/-- The parts of a name; in BigQuery a quoted part may hold several. -/
def splitQuoted (dialect : Dialect) (parts : List Ident) : List Ident :=
  if dialect.pointsInQuotes then parts.flatMap splitAtPoints else parts

/-- A name with its qualifiers. The one after the first may be left out where the dialect allows it. -/
def path (dialect : Dialect) : Reader (List Ident) := do
  let first ← name
  let second ← (do
    if ← onlyIf dialect.omittedSchema omittedPart? then return [{ value := "" }, ← name]
    else pure [])
  let rest ← many do
    if ← symbol? "." then return some (← name) else pure none
  pure (splitQuoted dialect (first :: second ++ rest))

/-- What follows a hyphen in a name: a word, or a number, right after it. Says whether the number took
the point after the name. After a number without a point the statement has to be over, unless a point
follows. -/
def hyphenated : Reader (String × Bool) := do
  unless ← isAdjacent do unexpected
  match ← next with
  | .word value _ none => pure (value, false)
  | .number digits false =>
    if digits.endsWith "." then
      let whole := (digits.toList.takeWhile Char.isDigit)
      if whole.length + 1 = digits.length && !whole.isEmpty then pure (String.ofList whole, true)
      else unexpected
    else
      if (← peekSymbol ".") || (← peek).isNone || (← startsHyphen) then pure (digits, false)
      else unexpected
  | _ => unexpected
where
  startsHyphen : Reader Bool := do
    if ← peekSymbol "-" then isAdjacent else pure false

/-- A part of a name that hyphens may join, and whether a point after it was taken. -/
def hyphenatedPart : Reader (Ident × Bool) := do
  let first ← name
  let more ← iterate (fun (text, ended) => do
    if !ended && first.quote.isNone && (← peekSymbol "-") && (← isAdjacent) then
      skip 1
      let (added, ended) ← hyphenated
      pure (some (text ++ "-" ++ added, ended))
    else pure none) (first.value, false)
  pure ({ first with value := more.1 }, more.2)

/-- The name of a table with its qualifiers, which hyphens may join where the dialect allows it. -/
def tablePath (dialect : Dialect) : Reader (List Ident) := do
  if dialect.hyphenatedTables then
    let first ← hyphenatedPart
    let parts ← iterate (fun (parts, ended) => do
      let point ← symbol? "."
      if point || ended then
        let (part, ended) ← hyphenatedPart
        pure (some (parts ++ [part], ended))
      else pure none) ([first.1], first.2)
    pure (splitQuoted dialect parts.1)
  else path dialect

/-- Names in parentheses. -/
def names (dialect : Dialect) : Reader (List Ident) := parenthesized (commaSeparated dialect name)

/-- The value of a string. A word without a meaning of its own may stand for one. -/
def stringValue (dialect : Dialect) : Reader String := do
  match ← next with
  | .word value "" _ => pure value
  | .text .single value | .text .double value | .text .unicode value => pure value
  | .text .escaped value =>
    if dialect.isAnyOf [.generic, .postgres] then pure value else unexpected
  | _ => unexpected

/-- A whole number. -/
def natural : Reader Nat := do
  match ← next with
  | .number digits _ =>
    match digits.toNat? with
    | some value => if value < Nat.pow 2 64 && digits.all Char.isDigit then pure value else unexpected
    | none => unexpected
  | _ => unexpected

/-- The value of a string in single quotes. -/
def singleQuoted : Reader String := do
  match ← next with
  | .text .single value => pure value
  | _ => unexpected

/-- A literal, as it is written out. -/
def literal (dialect : Dialect) : Reader String := do
  match ← next with
  | .word value "" (some '\x22') => pure (StringStyle.double.render value)
  | .word _ "TRUE" _ => if dialect.booleanLiterals then pure "true" else unexpected
  | .word _ "FALSE" _ => if dialect.booleanLiterals then pure "false" else unexpected
  | .word _ "NULL" _ => pure "NULL"
  | .number digits long => pure (if long then digits ++ "L" else digits)
  | .text style value =>
    if style = .escaped && !dialect.isAnyOf [.generic, .postgres] then unexpected
    else pure (style.render value)
  | .placeholder name => pure name
  | .symbol mark =>
    if mark = ":" || mark = "@" then
      match ← next with
      | .word value _ _ => pure (mark ++ value)
      | .number digits false => pure (mark ++ digits)
      | _ => unexpected
    else unexpected
  | _ => unexpected

/-- A number, or a placeholder for one, as it is written out. -/
def numeric (dialect : Dialect) : Reader String := do
  match ← peek with
  | some (.number _ _) | some (.placeholder _) | some (.symbol _) => literal dialect
  | _ => unexpected

/-- A number with or without a sign. -/
def signedNumber (dialect : Dialect) : Reader String := do
  if ← symbol? "+" then return "+" ++ (← numeric dialect)
  else if ← symbol? "-" then return "-" ++ (← numeric dialect)
  else numeric dialect

/-- Another name for what was read, after `AS` or right away where a word with this keyword may stand for
one. A string may in any case. -/
def otherNameIf? (allowed : String → Reader Bool) : Reader (Option Ident) := do
  let afterAs ← keyword? "AS"
  match ← peek with
  | some (.word value keyword quote) =>
    if ← firstOf (pure afterAs) (allowed keyword) then
      skip 1
      pure (some { value, quote })
    else pure none
  | some (.text .single value) =>
    skip 1
    pure (some { value, quote := some '\x27' })
  | some (.text .double value) =>
    skip 1
    pure (some { value, quote := some '\x22' })
  | _ => if afterAs then unexpected else pure none

/-- Another name for what was read, after `AS` or right away unless it is one of these words. -/
def otherName? (reserved : List String) : Reader (Option Ident) :=
  otherNameIf? fun keyword => pure (!reserved.contains keyword)

end SqlLineage.Sql.Grammar
