/-
Module: SqlLineage.Json.Basic
Purpose: JSON documents as values. The members of an object keep their order and their repetitions.
Main exports: Number, Json
-/

namespace SqlLineage

/-- A JSON number. Whole numbers within 64 bits are kept apart from all others. -/
inductive Number where
  | natural (n : Nat)
  /-- The whole number `-(n + 1)`. -/
  | negative (n : Nat)
  | real (x : Float)
deriving Repr, Inhabited

/-- A JSON document. -/
inductive Json where
  | null
  | bool (b : Bool)
  | num (n : Number)
  | str (s : String)
  | arr (items : List Json)
  | obj (members : List (String × Json))
  /-- A well-formed document without a value: a number out of range, a string with half a pair of
  surrogates, or an object with such a string for a name. It may stand only where nobody looks at it. -/
  | unreadable
deriving Repr, Inhabited

namespace Json

/-- A whole number. -/
def nat (n : Nat) : Json := .num (.natural n)

/-- A floating-point number, or null for one that JSON cannot write. -/
def float (x : Float) : Json := if x.isFinite then .num (.real x) else .null

/-- The value of the last member of this name. -/
def get? (name : String) : Json → Option Json
  | obj members => (members.reverse.find? (·.1 == name)).map (·.2)
  | _ => none

/-- An optional text, null if it is missing. -/
def optional : Option String → Json
  | some s => str s
  | none => null

/-- A list of texts. -/
def strings (items : List String) : Json := arr (items.map str)

end Json

end SqlLineage
