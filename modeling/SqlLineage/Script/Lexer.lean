/-
Module: SqlLineage.Script.Lexer
Purpose: Cutting a script into tokens. No text is refused: a character that starts no token is a token
  of its own, and a string, a quoted name or a comment that is not closed runs to the end.
Main exports: QuoteEscapes, Lexeme, Lexeme.scan, tokensFrom, tokenize
-/
import SqlLineage.Script.Token
import SqlLineage.Text.Blank
import SqlLineage.Text.Numeric

namespace SqlLineage.Script

/-- How a quote is written inside a string literal. -/
inductive QuoteEscapes where
  /-- A quote is written twice, and in no other way. -/
  | doubled
  /-- A backslash takes the character after it, whatever that is; a doubled quote still stands for
  one. -/
  | backslash
deriving Repr, Inhabited, DecidableEq

def isNameStart (c : Char) : Bool :=
  Text.isAlphabetic c || c = '_' || c = '#' || c = '@'

def isNamePart (c : Char) : Bool :=
  Text.isAlphanumeric c || c = '_' || c = '$' || c = '#' || c = '@'

/-- Characters that run together into one operator. -/
def isOperatorRun (c : Char) : Bool :=
  c = '<' || c = '>' || c = '=' || c = '!' || c = '|' || c = '&' || c = ':'

def isPunctuation (c : Char) : Bool :=
  c = '(' || c = ')' || c = ',' || c = ';' || c = '.' || c = '[' || c = ']'

/-- Operators that always stand alone. -/
def isSingleOperator (c : Char) : Bool :=
  c = '+' || c = '-' || c = '*' || c = '/' || c = '%' || c = '^' || c = '~'

/-- The rest of a block comment, after its opening, and what follows it. -/
def readBlockComment : List Char → List Char × List Char
  | [] => ([], [])
  | '*' :: '/' :: rest => (['*', '/'], rest)
  | c :: rest =>
    let tail := readBlockComment rest
    (c :: tail.1, tail.2)

/-- The rest of a quoted run, after its opening quote, and what follows it. A doubled quote belongs to
the run, and with `backslash` so does every character after a backslash. -/
def readQuoted (quote : Char) (backslash : Bool) : List Char → List Char × List Char
  | [] => ([], [])
  | [c] => ([c], [])
  | c :: d :: rest =>
    if (c = '\\' && backslash) || (c = quote && d = quote) then
      let tail := readQuoted quote backslash rest
      (c :: d :: tail.1, tail.2)
    else if c = quote then
      ([c], d :: rest)
    else
      let tail := readQuoted quote backslash (d :: rest)
      (c :: tail.1, tail.2)

/-- What may stand in a number before its exponent. -/
def isNumberPart (c : Char) : Bool := c.isDigit || c = '.'

/-- An exponent at the head of the text and what follows it: the letter for it counts only before a
digit or a sign. -/
def readExponent : List Char → List Char × List Char
  | e :: sign :: rest =>
    if (e = 'e' || e = 'E') && (sign.isDigit || sign = '-' || sign = '+') then
      (e :: sign :: rest.takeWhile Char.isDigit, rest.dropWhile Char.isDigit)
    else
      ([], e :: sign :: rest)
  | cs => ([], cs)

/-- A number at the head of the text and what follows it: digits and points, then an exponent. -/
def readNumber (cs : List Char) : List Char × List Char :=
  let exponent := readExponent (cs.dropWhile isNumberPart)
  (cs.takeWhile isNumberPart ++ exponent.1, exponent.2)

/-- One token's characters at the head of a text, and the text after them. -/
structure Lexeme where
  kind : TokenKind
  text : List Char
  rest : List Char
deriving Repr, DecidableEq

namespace Lexeme

/-- The lexeme of a token that is one character. -/
def single (kind : TokenKind) (c : Char) (rest : List Char) : Lexeme := ⟨kind, [c], rest⟩

/-- The lexeme that takes as many characters as satisfy the test, and the first one in any case. -/
def run (kind : TokenKind) (p : Char → Bool) (c : Char) (rest : List Char) : Lexeme :=
  ⟨kind, c :: rest.takeWhile p, rest.dropWhile p⟩

/-- The lexeme of a quoted run. -/
def quoted (kind : TokenKind) (quote : Char) (backslash : Bool) (rest : List Char) : Lexeme :=
  let body := readQuoted quote backslash rest
  ⟨kind, quote :: body.1, body.2⟩

/-- The lexeme of a word, which is a keyword or an identifier. -/
def word (c : Char) (rest : List Char) : Lexeme :=
  let text := c :: rest.takeWhile isNamePart
  ⟨wordKind (String.ofList text), text, rest.dropWhile isNamePart⟩

/-- The lexeme of a number. -/
def number (c : Char) (rest : List Char) : Lexeme :=
  let split := readNumber rest
  ⟨.numberLiteral, c :: split.1, split.2⟩

/-- The lexeme of a comment, or of the operator that a comment would start with. -/
def dashOrSlash (c : Char) : List Char → Lexeme
  | '-' :: rest =>
    if c = '-' then run .lineComment (· ≠ '\n') c ('-' :: rest)
    else single .operator c ('-' :: rest)
  | '*' :: rest =>
    if c = '/' then
      let body := readBlockComment rest
      ⟨.blockComment, c :: '*' :: body.1, body.2⟩
    else
      single .operator c ('*' :: rest)
  | rest => single .operator c rest

/-- The lexeme at the head of a text that starts with no white space. A double quote opens a quoted
name, inside which backslashes count as they do in strings; between backquotes they never count. -/
def scan (escapes : QuoteEscapes) (c : Char) (rest : List Char) : Lexeme :=
  if c = '-' || c = '/' then dashOrSlash c rest
  else if c = '\x27' then quoted .stringLiteral c (escapes = .backslash) rest
  else if c = '\x22' then quoted .quotedIdentifier c (escapes = .backslash) rest
  else if c = '\x60' then quoted .quotedIdentifier c false rest
  else if c.isDigit then number c rest
  else if isNameStart c then word c rest
  else if isPunctuation c then single .punctuation c rest
  else if isOperatorRun c then run .operator isOperatorRun c rest
  else if isSingleOperator c then single .operator c rest
  else single .unknown c rest

end Lexeme

/-! ### Nothing is lost

Each reader cuts its text in two, and a lexeme takes at least one character. -/

theorem readBlockComment_append (cs : List Char) :
    (readBlockComment cs).1 ++ (readBlockComment cs).2 = cs := by
  fun_induction readBlockComment cs with
  | case1 => rfl
  | case2 rest => rfl
  | case3 c rest _ tail ih => simpa [tail] using ih

theorem readQuoted_append (quote : Char) (backslash : Bool) (cs : List Char) :
    (readQuoted quote backslash cs).1 ++ (readQuoted quote backslash cs).2 = cs := by
  fun_induction readQuoted quote backslash cs with
  | case1 => rfl
  | case2 c => rfl
  | case3 c d rest _ tail ih => simpa [tail] using ih
  | case4 => rfl
  | case5 c d rest _ _ tail ih => simpa [tail] using ih

theorem readExponent_append (cs : List Char) :
    (readExponent cs).1 ++ (readExponent cs).2 = cs := by
  fun_cases readExponent cs <;> simp

theorem readNumber_append (cs : List Char) : (readNumber cs).1 ++ (readNumber cs).2 = cs := by
  simp [readNumber, readExponent_append]

namespace Lexeme

theorem single_append (kind : TokenKind) (c : Char) (rest : List Char) :
    (single kind c rest).text ++ (single kind c rest).rest = c :: rest := rfl

theorem run_append (kind : TokenKind) (p : Char → Bool) (c : Char) (rest : List Char) :
    (run kind p c rest).text ++ (run kind p c rest).rest = c :: rest := by
  simp [run]

theorem quoted_append (kind : TokenKind) (quote : Char) (backslash : Bool) (rest : List Char) :
    (quoted kind quote backslash rest).text ++ (quoted kind quote backslash rest).rest
      = quote :: rest := by
  simp [quoted, readQuoted_append]

theorem word_append (c : Char) (rest : List Char) :
    (word c rest).text ++ (word c rest).rest = c :: rest := by
  simp [word]

theorem number_append (c : Char) (rest : List Char) :
    (number c rest).text ++ (number c rest).rest = c :: rest := by
  simp [number, readNumber_append]

theorem dashOrSlash_append (c : Char) (rest : List Char) :
    (dashOrSlash c rest).text ++ (dashOrSlash c rest).rest = c :: rest := by
  unfold dashOrSlash
  split
  · split
    · exact run_append ..
    · exact single_append ..
  · split
    · simp [readBlockComment_append]
    · exact single_append ..
  · exact single_append ..

theorem scan_append (escapes : QuoteEscapes) (c : Char) (rest : List Char) :
    (scan escapes c rest).text ++ (scan escapes c rest).rest = c :: rest := by
  fun_cases scan escapes c rest <;>
    simp_all only [dashOrSlash_append, quoted_append, number_append, word_append,
      single_append, run_append]

theorem dashOrSlash_head (c : Char) (rest : List Char) :
    ∃ more, (dashOrSlash c rest).text = c :: more := by
  unfold dashOrSlash
  split
  · split <;> exact ⟨_, rfl⟩
  · split <;> exact ⟨_, rfl⟩
  · exact ⟨_, rfl⟩

/-- The first character of a lexeme is the one at which it was scanned. -/
theorem scan_head (escapes : QuoteEscapes) (c : Char) (rest : List Char) :
    ∃ more, (scan escapes c rest).text = c :: more := by
  fun_cases scan escapes c rest
  · exact dashOrSlash_head c rest
  all_goals exact ⟨_, rfl⟩

/-- What follows a lexeme is shorter than the text it was cut from. -/
theorem scan_rest_length (escapes : QuoteEscapes) (c : Char) (rest : List Char) :
    (scan escapes c rest).rest.length < (c :: rest).length := by
  have whole := congrArg List.length (scan_append escapes c rest)
  obtain ⟨more, head⟩ := scan_head escapes c rest
  rw [List.length_append, head] at whole
  simp only [List.length_cons] at whole ⊢
  omega

end Lexeme

/-- The tokens of a text that starts at the byte `offset` of a script. -/
def tokensFrom (escapes : QuoteEscapes) (offset : Nat) : List Char → List Token
  | [] => []
  | c :: rest =>
    if Text.isBlank c then
      tokensFrom escapes (offset + c.utf8Size) rest
    else
      let lexeme := Lexeme.scan escapes c rest
      let text := String.ofList lexeme.text
      ⟨lexeme.kind, text, offset⟩ :: tokensFrom escapes (offset + text.utf8ByteSize) lexeme.rest
termination_by cs => cs.length
decreasing_by
  · simp
  · exact Lexeme.scan_rest_length escapes c rest

/-- The tokens of a script. -/
def tokenize (escapes : QuoteEscapes) (script : String) : List Token :=
  tokensFrom escapes 0 script.toList

end SqlLineage.Script
