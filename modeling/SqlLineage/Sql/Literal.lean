/-
Module: SqlLineage.Sql.Literal
Purpose: The ways to write a string literal: reading what stands between its quotes, with the escapes it
  has, and writing it back.
Main exports: StringStyle, StringStyle.render, inQuotes, Backslash, readString, readEscaped, readCoded
-/
import SqlLineage.Text.Cut
import SqlLineage.Text.Digit

namespace SqlLineage.Sql

/-- Something read at the head of a text and the text after it. -/
abbrev Cut (α : Type) := α × List Char

/-- The ways to write a string literal. -/
inductive StringStyle where
  | single
  | double
  | tripleSingle
  | tripleDouble
  | byteSingle
  | byteDouble
  | tripleByteSingle
  | tripleByteDouble
  | rawSingle
  | rawDouble
  | tripleRawSingle
  | tripleRawDouble
  | escaped
  | unicode
  | national
  | hex
  /-- Between two copies of a tag that stands between dollar signs. -/
  | dollar (tag : String)
deriving Repr, Inhabited, DecidableEq

/-! ### Writing -/

/-- The characters of a literal with each of its quotes written twice. A quote that follows a backslash
counts as escaped already, and so do two quotes in a row. The first argument says whether the last
character before them, quotes after a backslash left aside, is a backslash. -/
def escapeQuotesFrom (quote : Char) (afterBackslash : Bool) : List Char → List Char
  | [] => []
  | [c] => if c = quote && !afterBackslash then [c, c] else [c]
  | c :: d :: rest =>
    if c = quote then
      if afterBackslash then c :: escapeQuotesFrom quote true (d :: rest)
      else if d = quote then c :: d :: escapeQuotesFrom quote false rest
      else c :: c :: escapeQuotesFrom quote false (d :: rest)
    else c :: escapeQuotesFrom quote (c = '\\') (d :: rest)

/-- The text of a literal between its quotes. -/
def escapeQuotes (quote : Char) (value : String) : String :=
  String.ofList (escapeQuotesFrom quote false value.toList)

/-- The text between its quotes. -/
def inQuotes (quote : Char) (value : String) : String :=
  quote.toString ++ escapeQuotes quote value ++ quote.toString

/-- A character of a literal in which a backslash escapes. -/
def backslashed : Char → List Char
  | '\x27' => ['\\', '\x27']
  | '\\' => ['\\', '\\']
  | '\n' => ['\\', 'n']
  | '\t' => ['\\', 't']
  | '\r' => ['\\', 'r']
  | c => [c]

/-- A number in capital hexadecimal digits, with so many of them at least. -/
def capitalHex (width value : Nat) : List Char :=
  let digits := (Nat.toDigits 16 value).map Char.toUpper
  List.replicate (width - digits.length) '0' ++ digits

/-- A character of a literal that is written in ASCII: others are written as their code points, those of
more than four digits after a plus sign. -/
def coded (c : Char) : List Char :=
  if c = '\x27' then ['\x27', '\x27']
  else if c = '\\' then ['\\', '\\']
  else if c.val < 128 then [c]
  else if c.val ≤ 0xffff then '\\' :: capitalHex 4 c.toNat
  else '\\' :: '+' :: capitalHex 6 c.toNat

/-- The literal as the statement is written out. -/
def StringStyle.render (value : String) : StringStyle → String
  | single => inQuotes '\x27' value
  | double => inQuotes '\x22' value
  | tripleSingle => "\x27\x27\x27" ++ value ++ "\x27\x27\x27"
  | tripleDouble => "\x22\x22\x22" ++ value ++ "\x22\x22\x22"
  | byteSingle => "B\x27" ++ value ++ "\x27"
  | byteDouble => "B\x22" ++ value ++ "\x22"
  | tripleByteSingle => "B\x27\x27\x27" ++ value ++ "\x27\x27\x27"
  | tripleByteDouble => "B\x22\x22\x22" ++ value ++ "\x22\x22\x22"
  | rawSingle => "R\x27" ++ value ++ "\x27"
  | rawDouble => "R\x22" ++ value ++ "\x22"
  | tripleRawSingle => "R\x27\x27\x27" ++ value ++ "\x27\x27\x27"
  | tripleRawDouble => "R\x22\x22\x22" ++ value ++ "\x22\x22\x22"
  | escaped => "E\x27" ++ String.ofList (value.toList.flatMap backslashed) ++ "\x27"
  | unicode => "U&\x27" ++ String.ofList (value.toList.flatMap coded) ++ "\x27"
  | national => "N\x27" ++ value ++ "\x27"
  | hex => "X\x27" ++ value ++ "\x27"
  | dollar tag => "$" ++ tag ++ "$" ++ value ++ "$" ++ tag ++ "$"

/-! ### Backslashes in plain literals -/

/-- The character that a letter after a backslash stands for. -/
def unescaped : Char → Char
  | '0' => '\x00'
  | 'a' => '\x07'
  | 'b' => '\x08'
  | 'f' => '\x0c'
  | 'n' => '\n'
  | 'r' => '\r'
  | 't' => '\t'
  | 'Z' => '\x1a'
  | c => c

/-- How a backslash inside a literal is read. -/
inductive Backslash where
  /-- As any other character. -/
  | literal
  /-- As the escape of the character after it. -/
  | escape
  /-- As an escape, except that `\%` and `\_` stay as they are. -/
  | escapeButWildcards
deriving DecidableEq

/-- The characters that a backslash and the character after it stand for. -/
def Backslash.meaning (backslash : Backslash) (c : Char) : List Char :=
  if backslash = .escapeButWildcards && (c = '%' || c = '_') then ['\\', c] else [unescaped c]

/-! ### Reading -/

/-- What stands before the closing quote, where a doubled quote stands for one, and what follows it. -/
def readQuotedName (close : Char) : List Char → Option (Cut (List Char))
  | [] => none
  | [c] => if c = close then some ([], []) else none
  | c :: d :: rest =>
    if c = close then
      if d = close then
        (readQuotedName close rest).map fun (name, after) => (c :: name, after)
      else some ([], d :: rest)
    else (readQuotedName close (d :: rest)).map fun (name, after) => (c :: name, after)

/-- The value of a literal after its opening quote and what follows its closing one. -/
def readString (quote : Char) (backslash : Backslash) : List Char → Option (Cut (List Char))
  | [] => none
  | [c] => if c = quote then some ([], []) else none
  | c :: d :: rest =>
    if c = quote then
      if d = quote then
        (readString quote backslash rest).map fun (value, after) => (c :: value, after)
      else some ([], d :: rest)
    else if c = '\\' && backslash ≠ .literal then
      (readString quote backslash rest).map fun (value, after) =>
        (backslash.meaning d ++ value, after)
    else (readString quote backslash (d :: rest)).map fun (value, after) => (c :: value, after)

/-- What stands before the next copy of the delimiter and what follows it. -/
def readUntil (delimiter : List Char) : List Char → Option (Cut (List Char))
  | [] => none
  | c :: cs =>
    match Text.stripStart? delimiter (c :: cs) with
    | some after => some ([], after)
    | none => (readUntil delimiter cs).map fun (value, after) => (c :: value, after)

/-- The value of a literal between three quotes on each side, after the opening ones. A backslash keeps
the character after it from closing the literal. -/
def readTriple (quote : Char) (backslash : Backslash) : List Char → Option (Cut (List Char))
  | [] => none
  | [_] => none
  | c :: d :: rest =>
    if c = '\\' && backslash ≠ .literal then
      (readTriple quote backslash rest).map fun (value, after) =>
        (backslash.meaning d ++ value, after)
    else if c = quote && d = quote && rest.head? = some quote then some ([], rest.drop 1)
    else (readTriple quote backslash (d :: rest)).map fun (value, after) => (c :: value, after)

/-! ### Numbers of characters -/

/-- The number that digits stand for, which may have a plus sign. -/
def signedValue? (base : Nat) : List Char → Option Nat
  | [] | ['+'] => none
  | '+' :: digits => Text.digitsValue? base digits
  | digits => Text.digitsValue? base digits

/-- The character with this number. -/
def charOf? (value : Nat) : Option Char :=
  if value.isValidChar then some (Char.ofNat value) else none

/-- The character whose number ends in this byte; there are none but those of ASCII. -/
def byteOf? (value : Nat) : Option Char :=
  if value % 256 < 128 then some (Char.ofNat (value % 256)) else none

/-- The head of a list that the test holds for, of at most so many elements, and the rest. -/
def takeSome (count : Nat) (test : Char → Bool) (cs : List Char) : Cut (List Char) :=
  let taken := (cs.take count).takeWhile test
  (taken, cs.drop taken.length)

/-- The character with the number that so many digits stand for. -/
def codePoint? (value? : List Char → Option Nat) (count : Nat) (cs : List Char) :
    Option (Cut Char) := do
  if cs.length < count then none
  else return (← charOf? (← value? (cs.take count)), cs.drop count)

/-! ### Literals with escapes of their own -/

/-- The character that an escape stands for, after its backslash. -/
def readEscape : List Char → Option (Cut Char)
  | [] => none
  | 'b' :: rest => some ('\x08', rest)
  | 'f' :: rest => some ('\x0c', rest)
  | 'n' :: rest => some ('\n', rest)
  | 'r' :: rest => some ('\r', rest)
  | 't' :: rest => some ('\t', rest)
  | 'u' :: rest => codePoint? (signedValue? 16) 4 rest
  | 'U' :: rest => codePoint? (signedValue? 16) 8 rest
  | 'x' :: rest => do
    let (digits, after) := takeSome 2 (fun c => (Text.digitValue? 16 c).isSome) rest
    if digits.isEmpty then some ('x', after)
    else return (← byteOf? (← Text.digitsValue? 16 digits), after)
  | c :: rest => do
    if (Text.digitValue? 8 c).isSome then
      let (digits, after) := takeSome 3 (fun c => (Text.digitValue? 8 c).isSome) (c :: rest)
      return (← byteOf? (← Text.digitsValue? 8 digits), after)
    else some (c, rest)

/-- The value of a literal of at most so many characters, in which a backslash starts an escape. No
escape stands for the character zero. -/
def readEscapedWithin : Nat → List Char → Option (Cut (List Char))
  | 0, _ => none
  | _, [] => none
  | fuel + 1, '\x27' :: '\x27' :: rest => do
    let (value, after) ← readEscapedWithin fuel rest
    return ('\x27' :: value, after)
  | _, '\x27' :: rest => some ([], rest)
  | fuel + 1, '\\' :: rest => do
    let (c, rest) ← readEscape rest
    if c = '\x00' then none
    else
      let (value, after) ← readEscapedWithin fuel rest
      return (c :: value, after)
  | fuel + 1, c :: rest => do
    let (value, after) ← readEscapedWithin fuel rest
    return (c :: value, after)

/-- The value of a literal in which a backslash starts an escape, after its opening quote. -/
def readEscaped (cs : List Char) : Option (Cut (List Char)) := readEscapedWithin (cs.length + 1) cs

/-- The value of a literal of at most so many characters, in which a backslash stands before a code
point. -/
def readCodedWithin : Nat → List Char → Option (Cut (List Char))
  | 0, _ => none
  | _, [] => none
  | fuel + 1, '\x27' :: '\x27' :: rest => do
    let (value, after) ← readCodedWithin fuel rest
    return ('\x27' :: value, after)
  | _, '\x27' :: rest => some ([], rest)
  | fuel + 1, '\\' :: rest => do
    let (c, rest) ←
      match rest with
      | '\\' :: rest => some ('\\', rest)
      | '+' :: rest => codePoint? (Text.digitsValue? 16) 6 rest
      | rest => codePoint? (Text.digitsValue? 16) 4 rest
    let (value, after) ← readCodedWithin fuel rest
    return (c :: value, after)
  | fuel + 1, c :: rest => do
    let (value, after) ← readCodedWithin fuel rest
    return (c :: value, after)

/-- The value of a literal in which a backslash stands before a code point, after its opening quote. -/
def readCoded (cs : List Char) : Option (Cut (List Char)) := readCodedWithin (cs.length + 1) cs

example : readEscaped "\\x41\\101\\'q' x".toList = some ("AA'q".toList, " x".toList) := by decide
example : readCoded "\\0041''\\+01F600'".toList = some ("A'😀".toList, []) := by decide
example : StringStyle.unicode.render "é😀" = "U&'\\00E9\\+01F600'" := by decide

end SqlLineage.Sql
