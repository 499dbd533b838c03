/-
Module: SqlLineage.Json.Printer
Purpose: Writing JSON documents, on one line or indented by two spaces.
Main exports: Json.compact, Json.pretty, Json.realText, Json.quote
-/
import SqlLineage.Decimal.Shortest
import SqlLineage.Json.Basic
import SqlLineage.Text.Cut

namespace SqlLineage.Json

/-- The digits of a decimal with the point after the first `whole` of them, for a position inside or
outside the digits. -/
def placePoint (digits : List Char) (whole : Int) : String :=
  let count : Int := digits.length
  if whole ≤ 0 then
    "0." ++ String.ofList (List.replicate (-whole).toNat '0' ++ digits)
  else if count ≤ whole then
    String.ofList (digits ++ List.replicate (whole - count).toNat '0') ++ ".0"
  else
    String.ofList (digits.take whole.toNat) ++ "." ++ String.ofList (digits.drop whole.toNat)

/-- A decimal in exponent form: one digit before the point, and the sign of the exponent always
written. -/
def exponentForm (digits : List Char) (whole : Int) : String :=
  let mantissa :=
    match digits with
    | [] => ""
    | [d] => String.ofList [d]
    | d :: more => String.ofList (d :: '.' :: more)
  let power := whole - 1
  mantissa ++ "e" ++ (if 0 ≤ power then "+" else "-") ++ toString power.natAbs

/-- The text of a finite float: the fewest digits that read back, positional from `1e-5` up to but
not including `1e16`, and with a point in every positional text. -/
def realText (x : Float) : String :=
  let sign := if x.toBits.toNat / Nat.pow 2 63 = 1 then "-" else ""
  match Decimal.ofFloat? x with
  | none => sign ++ "0.0"
  | some d =>
    let digits := (toString d.digits).toList
    let whole : Int := digits.length + d.exponent
    sign ++ (if -5 < whole && whole ≤ 16 then placePoint digits whole
      else exponentForm digits whole)

def numberText : Number → String
  | .natural n => toString n
  | .negative n => "-" ++ toString (n + 1)
  | .real x => realText x

/-- The last `width` hexadecimal digits of a number. -/
def hexDigits : Nat → Nat → List Char
  | 0, _ => []
  | width + 1, n => hexDigits width (n / 16) ++ [Nat.digitChar (n % 16)]

/-- A character inside a JSON string. -/
def escapeChar (c : Char) : List Char :=
  if c = '\x22' then ['\\', '\x22']
  else if c = '\\' then ['\\', '\\']
  else if c = '\n' then ['\\', 'n']
  else if c = '\r' then ['\\', 'r']
  else if c = '\t' then ['\\', 't']
  else if c = '\x08' then ['\\', 'b']
  else if c = '\x0c' then ['\\', 'f']
  else if c.toNat < 32 then '\\' :: 'u' :: hexDigits 4 c.toNat
  else [c]

/-- A JSON string. -/
def quote (s : String) : String :=
  String.ofList ('\x22' :: s.toList.flatMap escapeChar ++ ['\x22'])

mutual

/-- A document on one line without spaces. -/
def compact : Json → String
  | null => "null"
  | bool true => "true"
  | bool false => "false"
  | num n => numberText n
  | str s => quote s
  | arr items => "[" ++ Text.joinWith "," (compactItems items) ++ "]"
  | obj members => "\x7b" ++ Text.joinWith "," (compactMembers members) ++ "\x7d"
  | unreadable => "null"

def compactItems : List Json → List String
  | [] => []
  | item :: rest => compact item :: compactItems rest

def compactMembers : List (String × Json) → List String
  | [] => []
  | (name, value) :: rest => (quote name ++ ":" ++ compact value) :: compactMembers rest

end

/-- A container over several lines: each part on a line of its own, one step further in than the
brackets. An empty container is its two brackets. -/
def block (opening closing : String) (depth : Nat) (parts : List String) : String :=
  if parts.isEmpty then opening ++ closing
  else
    let margin := fun (steps : Nat) => "\n" ++ String.ofList (List.replicate (2 * steps) ' ')
    opening ++ Text.joinWith "," (parts.map fun part => margin (depth + 1) ++ part)
      ++ margin depth ++ closing

mutual

/-- A document indented by two spaces, inside `depth` containers. -/
def prettyAt (depth : Nat) : Json → String
  | null => "null"
  | bool true => "true"
  | bool false => "false"
  | num n => numberText n
  | str s => quote s
  | arr items => block "[" "]" depth (prettyItems (depth + 1) items)
  | obj members => block "\x7b" "\x7d" depth (prettyMembers (depth + 1) members)
  | unreadable => "null"

def prettyItems (depth : Nat) : List Json → List String
  | [] => []
  | item :: rest => prettyAt depth item :: prettyItems depth rest

def prettyMembers (depth : Nat) : List (String × Json) → List String
  | [] => []
  | (name, value) :: rest => (quote name ++ ": " ++ prettyAt depth value) :: prettyMembers depth rest

end

/-- A document indented by two spaces. -/
def pretty (document : Json) : String := prettyAt 0 document

end SqlLineage.Json
