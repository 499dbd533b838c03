/-
Module: SqlLineage.Sql.Lexer
Purpose: Cutting one statement into the tokens of the grammar, as its dialect writes them. Blanks and
  comments leave no token; a literal, a quoted name or a comment that is not closed is refused.
Main exports: readToken?, tokenize?
-/
import SqlLineage.Sql.Dialect
import SqlLineage.Sql.Token
import SqlLineage.Text.Blank
import SqlLineage.Text.Numeric

namespace SqlLineage.Sql

/-! ### Literals -/

/-- The way backslashes are read in the literals of a dialect. -/
def Dialect.backslash (dialect : Dialect) : Backslash :=
  if dialect.keepsWildcardEscapes then .escapeButWildcards
  else if dialect.backslashEscapes then .escape
  else .literal

/-- The way backslashes are read in the literals that have them in all dialects. -/
def Dialect.strictBackslash (dialect : Dialect) : Backslash :=
  if dialect.keepsWildcardEscapes then .escapeButWildcards else .escape

/-- A literal of this style after its opening quote. -/
def textToken (style : StringStyle) (read : Option (Cut (List Char))) : Option (Cut Token) :=
  read.map fun (value, after) => (.text style (String.ofList value), after)

/-- A literal after its opening quote; two more of them open one between three quotes, unless there is
no such style. -/
def quotedLiteral (quote : Char) (backslash : Backslash) (one : StringStyle)
    (three : Option StringStyle) (rest : List Char) : Option (Cut Token) :=
  match three, rest with
  | some three, c :: d :: after =>
    if c = quote && d = quote then textToken three (readTriple quote backslash after)
    else textToken one (readString quote backslash rest)
  | _, _ => textToken one (readString quote backslash rest)

/-- A word that starts with these characters. -/
def wordToken (dialect : Dialect) (start rest : List Char) : Cut Token :=
  (Token.plain (String.ofList (start ++ rest.takeWhile dialect.isIdentifierPart)),
    rest.dropWhile dialect.isIdentifierPart)

/-- What starts with a letter that may stand before a literal. -/
def lettered (dialect : Dialect) (c : Char) (rest : List Char) : Option (Cut Token) :=
  let word := some (wordToken dialect [c] rest)
  let bytes := dialect.isAnyOf [.bigquery, .generic, .mysql, .postgres]
  let raw := dialect.isAnyOf [.bigquery, .generic]
  let triple := fun (style : StringStyle) => if dialect.tripleQuotes then some style else none
  match c.toUpper, rest with
  | 'B', '\x27' :: after =>
    if bytes then quotedLiteral '\x27' .literal .byteSingle (triple .tripleByteSingle) after else word
  | 'B', '\x22' :: after =>
    if bytes then quotedLiteral '\x22' .literal .byteDouble (triple .tripleByteDouble) after else word
  | 'R', '\x27' :: after =>
    if raw then quotedLiteral '\x27' .literal .rawSingle (some .tripleRawSingle) after else word
  | 'R', '\x22' :: after =>
    if raw then quotedLiteral '\x22' .literal .rawDouble (some .tripleRawDouble) after else word
  | 'N', '\x27' :: after =>
    textToken .national (readString '\x27' dialect.strictBackslash after)
  | 'X', '\x27' :: after => textToken .hex (readString '\x27' dialect.strictBackslash after)
  | 'E', '\x27' :: after => textToken .escaped (readEscaped after)
  | 'U', '&' :: '\x27' :: after =>
    if dialect.isAnyOf [.generic, .postgres] then textToken .unicode (readCoded after) else word
  | _, _ => word

/-! ### Quoted names -/

/-- A name in quotes, after the opening one. -/
def quotedName (quote : Char) (rest : List Char) : Option (Cut Token) :=
  (readQuotedName (closingQuote quote) rest).map fun (name, after) =>
    (.word (String.ofList name) "" (some quote), after)

/-- A name in quotes of its own inside of brackets, after the opening quote. Its quotes belong to it. -/
def nestedName (quote : Char) (rest : List Char) : Option (Cut Token) := do
  let (name, after) ← readQuotedName quote rest
  match after.dropWhile Text.isBlank with
  | ']' :: after => return (.word (String.ofList (quote :: name ++ [quote])) "" (some '['), after)
  | _ => none

/-- What starts with a bracket where that may open a name. It does if a quote or a name follows. -/
def bracketed (dialect : Dialect) (rest : List Char) : Option (Cut Token) :=
  match rest.dropWhile Text.isBlank with
  | '\x22' :: after => nestedName '\x22' after
  | c :: _ => if dialect.isIdentifierStart c then quotedName '[' rest else some (.symbol "[", rest)
  | [] => some (.symbol "[", rest)

/-! ### Numbers -/

/-- The digits at the head of the text. -/
def digits (cs : List Char) : Cut (List Char) := (cs.takeWhile Char.isDigit, cs.dropWhile Char.isDigit)

/-- Whether the text starts with the letter of an exponent. -/
def startsExponent (cs : List Char) : Bool := cs.head?.any fun c => c = 'e' || c = 'E'

/-- An exponent at the head of the text: without a digit in it there is none. -/
def exponent : List Char → Cut (List Char)
  | e :: sign :: rest =>
    let signed := sign = '+' || sign = '-'
    let power := digits (if signed then rest else sign :: rest)
    if startsExponent [e] && !power.1.isEmpty then
      (e :: (if signed then [sign] else []) ++ power.1, power.2)
    else ([], e :: sign :: rest)
  | cs => ([], cs)

/-- What starts with a digit or a point. -/
def numeral (dialect : Dialect) (cs : List Char) : Cut Token :=
  let whole := digits cs
  match whole.1, whole.2 with
  | ['0'], 'x' :: after =>
    (.text .hex (String.ofList (after.takeWhile isHexDigit)), after.dropWhile isHexDigit)
  | _, _ =>
    let point : Cut (List Char) :=
      match whole.2 with
      | '.' :: after => (['.'], after)
      | after => ([], after)
    let fraction := digits point.2
    let mantissa := whole.1 ++ point.1 ++ fraction.1
    if mantissa = ['.'] then (.symbol ".", fraction.2)
    else
      let name := fraction.2.takeWhile dialect.isIdentifierPart
      if dialect.digitsStartNames && !startsExponent fraction.2 && !name.isEmpty then
        wordToken dialect mantissa fraction.2
      else
        let power := exponent fraction.2
        let number := String.ofList (mantissa ++ power.1)
        match power.2 with
        | 'L' :: after => (.number number true, after)
        | after => (.number number false, after)
where
  isHexDigit (c : Char) : Bool := (Text.digitValue? 16 c).isSome

/-! ### Symbols -/

/-- The symbols of more than one character; one that starts another stands after it. -/
def longSymbols : List String := [
  "->>", "->", "<=>", "<=", "<>", "<<", "<@", ">=", ">>", "=>", "==", "!~~*", "!~~", "!~*", "!~",
  "!=", "!!", "::", ":=", "||/", "||", "|/", "&&", "^@", "~~*", "~~", "~*", "#>>", "#>", "#-",
  "@>", "@?"]

/-- The characters that an operator of the user's own may consist of. -/
def isCustomOperatorPart (c : Char) : Bool := "+-*/<>=~!@#%^&|\x60?".toList.contains c

/-- The characters of a symbol after which an operator of the user's own goes on. -/
def isCustomOperatorStart (c : Char) : Bool := "-|<>&~#%".toList.contains c

/-- The longest symbol at the head of the text. -/
def symbol (dialect : Dialect) (c : Char) (rest : List Char) : Cut Token :=
  let found : Cut (List Char) :=
    match longSymbols.findSome? fun s => (Text.stripStart? s.toList (c :: rest)).map (s.toList, ·) with
    | some cut => cut
    | none => ([c], rest)
  let more := found.2.takeWhile isCustomOperatorPart
  if dialect.customOperators && isCustomOperatorStart c && !more.isEmpty then
    (.customOperator (String.ofList (found.1 ++ more)), found.2.dropWhile isCustomOperatorPart)
  else
    (.symbol (String.ofList found.1), found.2)

/-- What starts with a dollar sign: a literal between two equal tags, or a placeholder. -/
def dollar (dialect : Dialect) (rest : List Char) : Option (Cut Token) :=
  let isTagPart := fun c => Text.isAlphanumeric c || c = '_' || (dialect = .sqlite && c = '$')
  let tag := rest.takeWhile isTagPart
  match rest.dropWhile isTagPart with
  | '$' :: after => textToken (.dollar (String.ofList tag)) (readUntil ('$' :: tag ++ ['$']) after)
  | after => some (.placeholder (String.ofList ('$' :: tag)), after)

/-- What starts with a sign that names of some dialects may start with. No name goes on with a blank, an
angle bracket or, after the first of the signs, a quote. -/
def signed (dialect : Dialect) (c : Char) (rest : List Char) : Cut Token :=
  match c, rest with
  | '@', '@' :: d :: after =>
    if dialect.isIdentifierStart '@' && d ≠ ' ' then wordToken dialect [c, '@', d] after
    else (.symbol "@@", d :: after)
  | '@', '@' :: [] => (.symbol "@@", [])
  | _, d :: after =>
    let isSymbol :=
      d = ' ' || d = '>' || (c = '#' && d = '-')
        || (c = '@' && (d = '?' || d = '\x27' || d = '\x22' || d = '\x60'))
    if dialect.isIdentifierStart c && !isSymbol then wordToken dialect [c, d] after
    else symbol dialect c rest
  | _, [] => symbol dialect c rest

/-- What starts with a question mark: a placeholder, or an operator. The operator of one mark takes the
character after it as well. -/
def question (dialect : Dialect) (rest : List Char) : Cut Token :=
  if dialect.questionOperators then
    match rest with
    | '|' :: after => (.symbol "?|", after)
    | '&' :: after => (.symbol "?&", after)
    | _ => (.symbol "?", rest.drop 1)
  else
    (.placeholder (String.ofList ('?' :: rest.takeWhile Text.isNumeric)),
      rest.dropWhile Text.isNumeric)

/-! ### Statements -/

/-- The text after a comment that ends with its line. -/
def skipLine (cs : List Char) : List Char := (cs.dropWhile (· ≠ '\n')).drop 1

/-- The next token of a statement, or a blank or a comment, which is none, and the text after it. -/
def readToken? (dialect : Dialect) (c : Char) (rest : List Char) : Option (Cut (Option Token)) :=
  let token := fun (read : Option (Cut Token)) => read.map fun (token, after) => (some token, after)
  let triple := fun (style : StringStyle) => if dialect.tripleQuotes then some style else none
  if c = ' ' || c = '\t' || c = '\n' || c = '\r' then some (none, rest)
  else if c.isAlpha && dialect.isIdentifierStart c then token (lettered dialect c rest)
  else if c = '\x27' then
    token (quotedLiteral c dialect.backslash .single (triple .tripleSingle) rest)
  else if dialect.isQuoteStart c then token (quotedName c rest)
  else if c = '[' && dialect.nestedQuotes then token (bracketed dialect rest)
  else if c = '\x22' then
    token (quotedLiteral c dialect.backslash .double (triple .tripleDouble) rest)
  else if c.isDigit || c = '.' then token (numeral dialect (c :: rest))
  else if c = '#' && dialect.hashComments then some (none, skipLine rest)
  else if c = '@' || c = '#' then token (signed dialect c rest)
  else if c = '?' then token (question dialect rest)
  else if dialect.isIdentifierStart c then token (wordToken dialect [c] rest)
  else if c = '$' then token (dollar dialect rest)
  else if Text.isBlank c then some (none, rest)
  else
    match c, rest with
    | '-', '-' :: after => some (none, skipLine after)
    | '/', '*' :: after => (readUntil ['*', '/'] after).map fun (_, after) => (none, after)
    | '/', '/' :: after =>
      if dialect = .snowflake then some (none, skipLine after)
      else if dialect.isAnyOf [.duckdb, .generic] then some (some (.symbol "//"), after)
      else some (some (.symbol "/"), rest)
    | _, _ => token (symbol dialect c rest)

/-- The tokens of a text of at most so many characters, the first of which may stand after a blank. -/
def tokensWithin (dialect : Dialect) : Nat → Bool → List Char → Option (List Lexeme)
  | _, _, [] => some []
  | 0, _, _ :: _ => none
  | fuel + 1, afterBlank, c :: rest => do
    let (token, after) ← readToken? dialect c rest
    match token with
    | some token => return { token, afterBlank } :: (← tokensWithin dialect fuel false after)
    | none => tokensWithin dialect fuel true after

/-- The tokens of a statement. -/
def tokenize? (dialect : Dialect) (statement : String) : Option (List Lexeme) :=
  let characters := statement.toList
  tokensWithin dialect characters.length true characters

end SqlLineage.Sql
