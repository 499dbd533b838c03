/-
Module: SqlLineage.Config.Yaml
Purpose: Configurations in YAML. A plain scalar is a text, a number or a flag as the option wants it; where
  nothing is written, a list is empty and a section has its defaults.
Main exports: flag?, natural?, real?, ValueKind, DocumentForm.yaml, parseConfiguration
-/
import SqlLineage.Config.Document
import SqlLineage.Decimal.Reading
import SqlLineage.Text.Blank
import SqlLineage.Text.Cut
import SqlLineage.Text.Digit
import SqlLineage.Yaml.Parser

namespace SqlLineage.Config

open Yaml (Node Part Scalar)

/-! ### Values of plain scalars -/

/-- The flag that a text is. -/
def flag? (text : String) : Option Bool :=
  if ["true", "True", "TRUE"].contains text then some true
  else if ["false", "False", "FALSE"].contains text then some false
  else none

/-- The value of digits in a base; there must be at least one. -/
def digits? (base : Nat) (digits : List Char) : Option Nat :=
  if digits.isEmpty then none else Text.digitsValue? base digits

/-- The marks of the bases other than ten. -/
def baseMarks : List (String × Nat) := [("0x", 16), ("0o", 8), ("0b", 2)]

/-- The number of 64 bits without a sign that a text is. A plus may stand in front of it; a decimal
number has no needless zeros. -/
def natural? (text : String) : Option Nat := do
  let unsigned :=
    match text.toList with
    | '+' :: rest => rest
    | rest => rest
  let marked := baseMarks.findSome? fun (mark, base) =>
    (Text.stripStart? mark.toList unsigned).bind (digits? base)
  let value ←
    match marked with
    | some value => some value
    | none =>
      if unsigned.length > 1 && unsigned.head? == some '0' then none else digits? 10 unsigned
  if value < Nat.pow 2 64 then some value else none

/-- The float that a text is. Other than by these words, infinity cannot be written. -/
def real? (text : String) : Option Float :=
  if [".inf", ".Inf", ".INF", "+.inf", "+.Inf", "+.INF"].contains text then some (1.0 / 0.0)
  else if ["-.inf", "-.Inf", "-.INF"].contains text then some (-1.0 / 0.0)
  else if [".nan", ".NaN", ".NAN"].contains text then some (0.0 / 0.0)
  else Decimal.readFloat? text.toList

/-! ### Documents -/

/-- The scalar that a part is. -/
def asScalar (part : Part) : Option Scalar :=
  match part.content? with
  | some (.scalar scalar) => some scalar
  | _ => none

def asText (part : Part) : Option String := (asScalar part).map (·.text)

/-- The values of scalars other than texts, by the tags that name them. -/
inductive ValueKind where
  | flag
  | natural
  | real
deriving Repr, Inhabited, DecidableEq

def ValueKind.tag : ValueKind → String
  | flag => "tag:yaml.org,2002:bool"
  | natural => "tag:yaml.org,2002:int"
  | real => "tag:yaml.org,2002:float"

/-- Whether a scalar may stand for a value that is not a text: a plain one may, whatever its tag, and the
lines of a block may if their tag says so. -/
def ValueKind.admits (kind : ValueKind) (scalar : Scalar) : Bool :=
  match scalar.style with
  | .plain => true
  | .literal => scalar.tag == some kind.tag
  | _ => false

def asValue (kind : ValueKind) (read : String → Option α) (part : Part) : Option α := do
  let scalar ← asScalar part
  if kind.admits scalar then read scalar.text else none

def asItems (part : Part) : Option (List Part) :=
  match part.content? with
  | some (.sequence items) => some (items.map part.at)
  | some (.scalar scalar) => if scalar.isMissing then some [] else none
  | _ => none

/-- The entries whose keys are known names. Each key must be a text, and a known name may be given
once. -/
def knownEntries (names : List String) (part : Part) :
    List (Node × Node) → Option (List (String × Part))
  | [] => some []
  | (key, value) :: rest => do
    let name ← asText (part.at key)
    let known ← knownEntries names part rest
    if names.contains name then
      if known.any (·.1 == name) then none else some ((name, part.at value) :: known)
    else
      some known

def asSection (names : List String) (part : Part) : Option (List (String × Part)) :=
  match part.content? with
  | some (.mapping entries) => knownEntries names part entries
  | some (.scalar scalar) => if scalar.isMissing then some [] else none
  | _ => none

/-- Documents in YAML. -/
def DocumentForm.yaml : DocumentForm Part :=
  { record := asSection
    items := asItems
    text := asText
    flag := asValue .flag flag?
    natural := asValue .natural natural?
    real := asValue .real real? }

/-- The configuration that a text holds. A text of white space holds the defaults. -/
def parseConfiguration (text : String) : Option Configuration :=
  if Text.isBlankText text then some {}
  else (Yaml.parse? text).bind (readConfiguration .yaml ·.whole)

end SqlLineage.Config
