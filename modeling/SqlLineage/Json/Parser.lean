/-
Module: SqlLineage.Json.Parser
Purpose: Reading JSON texts. White space may surround the one document of a text, and nothing else.
Main exports: Json.parse?, Json.parseValue?
-/
import SqlLineage.Json.Basic
import SqlLineage.Text.Digit

namespace SqlLineage.Json

def isSpace (c : Char) : Bool := c = ' ' || c = '\n' || c = '\t' || c = '\r'

def skipSpace (cs : List Char) : List Char := cs.dropWhile isSpace

/-! ### Numbers -/

/-- The largest significand that is kept; further digits of a number are dropped. -/
def significandLimit : Nat := Nat.pow 2 64

/-- Appends digits to a significand as long as it stays within 64 bits, and counts the digits that
were taken and those that were dropped. -/
def takeDigits (significand taken : Nat) : List Char → Nat × Nat × Nat
  | [] => (significand, taken, 0)
  | c :: rest =>
    let next := significand * 10 + (c.toNat - 48)
    if next < significandLimit then takeDigits next (taken + 1) rest
    else (significand, taken, rest.length + 1)

/-- The float `significand * 10 ^ exponent` by one division or multiplication with a power of ten; a
power below the least one is reached in steps. Nothing if the result exceeds all floats. -/
def scaleFloat (x : Float) (exponent : Int) : Nat → Option Float
  | 0 => some 0.0
  | fuel + 1 =>
    if exponent.natAbs ≤ 308 then
      let power := Float.ofScientific 1 false exponent.natAbs
      if 0 ≤ exponent then
        let scaled := x * power
        if scaled.isInf then none else some scaled
      else
        some (x / power)
    else if x == 0.0 then some x
    else if 0 ≤ exponent then none
    else scaleFloat (x / Float.ofScientific 1 false 308) (exponent + 308) fuel

/-- The number with these parts; `fraction` and `exponent` are missing where the text has none. -/
def numberOf (isNegative : Bool) (whole : List Char) (fraction : Option (List Char))
    (exponent : Option Int) : Json :=
  let sign := fun (x : Float) => if isNegative then -x else x
  let (significand, _, dropped) := takeDigits 0 0 whole
  match fraction, exponent, dropped with
  | none, none, 0 =>
    if !isNegative then .num (.natural significand)
    else if significand = 0 then .num (.real (-0.0))
    else if significand ≤ Nat.pow 2 63 then .num (.negative (significand - 1))
    else .num (.real (sign significand.toFloat))
  | _, _, _ =>
    let (significand, taken, _) := takeDigits significand 0 (fraction.getD [])
    let power := (exponent.getD 0) + dropped - taken
    match scaleFloat significand.toFloat power (power.natAbs / 308 + 2) with
    | some x => .num (.real (sign x))
    | none => .unreadable

/-- The digits at the head of the text, at least one, and the text after them. -/
def readDigits (cs : List Char) : Option (List Char × List Char) :=
  match cs.takeWhile Char.isDigit with
  | [] => none
  | digits => some (digits, cs.dropWhile Char.isDigit)

/-- The value of decimal digits. -/
def digitsValue (digits : List Char) : Nat :=
  digits.foldl (fun n c => n * 10 + (c.toNat - 48)) 0

/-- The exponent at the head of the text, if there is one. -/
def readExponent : List Char → Option (Option Int × List Char)
  | 'e' :: rest | 'E' :: rest => do
    let (isNegative, rest) :=
      match rest with
      | '-' :: rest => (true, rest)
      | '+' :: rest => (false, rest)
      | rest => (false, rest)
    let (digits, rest) ← readDigits rest
    let size : Int := digitsValue digits
    pure (some (if isNegative then -size else size), rest)
  | rest => some (none, rest)

/-- The fraction at the head of the text, if there is one. -/
def readFraction : List Char → Option (Option (List Char) × List Char)
  | '.' :: rest => do
    let (digits, rest) ← readDigits rest
    pure (some digits, rest)
  | rest => some (none, rest)

/-- The number at the head of the text. A zero in front of other digits is refused. -/
def readNumber (cs : List Char) : Option (Json × List Char) := do
  let (isNegative, cs) :=
    match cs with
    | '-' :: rest => (true, rest)
    | rest => (false, rest)
  let (whole, rest) ← readDigits cs
  if whole.length > 1 && whole.head? = some '0' then none
  let (fraction, rest) ← readFraction rest
  let (exponent, rest) ← readExponent rest
  pure (numberOf isNegative whole fraction exponent, rest)

/-! ### Strings -/

/-- The four hexadecimal digits at the head of the text. -/
def readHex : List Char → Option (Nat × List Char)
  | a :: b :: c :: d :: rest => do pure (← Text.digitsValue? 16 [a, b, c, d], rest)
  | _ => none

/-- The character that one letter after a backslash stands for. -/
def simpleEscape? : Char → Option Char
  | '\x22' => some '\x22'
  | '\\' => some '\\'
  | '/' => some '/'
  | 'b' => some '\x08'
  | 'f' => some '\x0c'
  | 'n' => some '\n'
  | 'r' => some '\r'
  | 't' => some '\t'
  | _ => none

/-- One piece of a string: a character, or half a pair of surrogates that has no other half. -/
abbrev StringPiece := Option Char

/-- The escape after a backslash, and the text after it. Two escapes that form a surrogate pair are one
character. -/
def readEscape : List Char → Option (StringPiece × List Char)
  | 'u' :: rest => do
    let (code, rest) ← readHex rest
    if 0xD800 ≤ code && code < 0xDC00 then
      match rest with
      | '\\' :: 'u' :: low =>
        let (second, after) ← readHex low
        if 0xDC00 ≤ second && second < 0xE000 then
          pure (some (Char.ofNat (0x10000 + (code - 0xD800) * 0x400 + (second - 0xDC00))), after)
        else
          pure (none, rest)
      | _ => pure (none, rest)
    else if 0xDC00 ≤ code && code < 0xE000 then
      pure (none, rest)
    else
      pure (some (Char.ofNat code), rest)
  | c :: rest => (simpleEscape? c).map fun c => (some c, rest)
  | [] => none

/-- The rest of a string after its opening quote, as pieces in reverse, and the text after its closing
quote. Control characters must be escaped. The first argument bounds the length of the text. -/
def readString (reversed : List StringPiece) : Nat → List Char →
    Option (List StringPiece × List Char)
  | 0, _ => none
  | _, [] => none
  | fuel + 1, c :: rest =>
    if c = '\x22' then some (reversed, rest)
    else if c = '\\' then
      match readEscape rest with
      | some (piece, after) => readString (piece :: reversed) fuel after
      | none => none
    else if c.toNat < 32 then none
    else readString (some c :: reversed) fuel rest

/-- The string with these pieces in reverse, unless one of them is no character. -/
def stringOf? (reversed : List StringPiece) : Option String :=
  (reversed.reverse.mapM id).map String.ofList

/-! ### Documents -/

mutual

/-- The document at the head of the text and the text after it. The first argument bounds the number
of steps; twice the length of the text suffices. -/
def readValue : Nat → List Char → Option (Json × List Char)
  | 0, _ => none
  | fuel + 1, cs =>
    match skipSpace cs with
    | 'n' :: 'u' :: 'l' :: 'l' :: rest => some (.null, rest)
    | 't' :: 'r' :: 'u' :: 'e' :: rest => some (.bool true, rest)
    | 'f' :: 'a' :: 'l' :: 's' :: 'e' :: rest => some (.bool false, rest)
    | '\x22' :: rest => do
      let (pieces, rest) ← readString [] (rest.length + 1) rest
      pure (((stringOf? pieces).map Json.str).getD .unreadable, rest)
    | '[' :: rest =>
      match skipSpace rest with
      | ']' :: rest => some (.arr [], rest)
      | rest => do
        let (items, rest) ← readItems fuel rest
        pure (.arr items, rest)
    | '\x7b' :: rest =>
      match skipSpace rest with
      | '\x7d' :: rest => some (.obj [], rest)
      | rest => do
        let (members, rest) ← readMembers fuel rest
        pure ((members.map Json.obj).getD .unreadable, rest)
    | rest => readNumber rest

/-- The items of an array up to its closing bracket. -/
def readItems : Nat → List Char → Option (List Json × List Char)
  | 0, _ => none
  | fuel + 1, cs => do
    let (item, rest) ← readValue fuel cs
    match skipSpace rest with
    | ',' :: rest =>
      let (items, rest) ← readItems fuel rest
      pure (item :: items, rest)
    | ']' :: rest => pure ([item], rest)
    | _ => none

/-- The members of an object up to its closing brace, unless one of their names is no text. -/
def readMembers : Nat → List Char → Option (Option (List (String × Json)) × List Char)
  | 0, _ => none
  | fuel + 1, cs =>
    match skipSpace cs with
    | '\x22' :: rest => do
      let (pieces, rest) ← readString [] (rest.length + 1) rest
      let name := stringOf? pieces
      match skipSpace rest with
      | ':' :: rest =>
        let (value, rest) ← readValue fuel rest
        let member := name.map fun name => (name, value)
        match skipSpace rest with
        | ',' :: rest =>
          let (members, rest) ← readMembers fuel rest
          pure (member.bind fun member => members.map (member :: ·), rest)
        | '\x7d' :: rest => pure (member.map ([·]), rest)
        | _ => none
      | _ => none
    | _ => none

end

/-- The document that a text holds. -/
def parse? (text : String) : Option Json :=
  let cs := text.toList
  match readValue (2 * cs.length + 2) cs with
  | some (document, rest) => if (skipSpace rest).isEmpty then some document else none
  | none => none

end SqlLineage.Json
