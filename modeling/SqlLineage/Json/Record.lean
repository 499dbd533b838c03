/-
Module: SqlLineage.Json.Record
Purpose: Reading JSON documents as records. A record is an object whose unknown members are passed
  over, or an array with the fields in their order, of which trailing ones may be missing.
Main exports: Json.Fields, Json.record, Json.required, Json.defaulted, Json.asString, Json.asNat
-/
import SqlLineage.Json.Basic

namespace SqlLineage.Json

/-- The fields of a record that a document gives, by name. -/
abbrev Fields := List (String × Json)

/-- The fields given by an object: of its members those with a known name. A name given twice is an
error. -/
def fieldsOfMembers (names : List String) : List (String × Json) → Option Fields
  | [] => some []
  | (name, value) :: rest => do
    let fields ← fieldsOfMembers names rest
    if names.contains name then
      if fields.any (·.1 == name) then none else some ((name, value) :: fields)
    else
      some fields

/-- The fields given by an array: its items in the order of the names. A surplus item is an error. -/
def fieldsOfItems (names : List String) (items : List Json) : Option Fields :=
  if items.length ≤ names.length then some (names.zip items) else none

/-- The fields of a record with these names. -/
def record (names : List String) : Json → Option Fields
  | obj members => fieldsOfMembers names members
  | arr items => fieldsOfItems names items
  | _ => none

/-- The fields of a record with these names, for a record without defaults: an array must give all of
them. -/
def fullRecord (names : List String) : Json → Option Fields
  | arr items => if items.length = names.length then fieldsOfItems names items else none
  | document => record names document

/-- A field that has to be given. -/
def required (read : Json → Option α) (name : String) (fields : Fields) : Option α := do
  read (← fields.lookup name)

/-- A field with a value to take if it is not given. A given null is read like any other value. -/
def defaulted (read : Json → Option α) (value : α) (name : String) (fields : Fields) : Option α :=
  match fields.lookup name with
  | some given => read given
  | none => some value

/-! ### Leaves -/

def asString : Json → Option String
  | str s => some s
  | _ => none

def asBool : Json → Option Bool
  | bool b => some b
  | _ => none

/-- A whole number that is not negative. A number with a point is none, even if it is whole. -/
def asNat : Json → Option Nat
  | num (.natural n) => some n
  | _ => none

/-- Any number, as a float. -/
def asFloat : Json → Option Float
  | num (.natural n) => some n.toFloat
  | num (.negative n) => some (-(n + 1).toFloat)
  | num (.real x) => some x
  | _ => none

/-- A value that may be null. -/
def asOption (read : Json → Option α) : Json → Option (Option α)
  | null => some none
  | value => (read value).map some

def asList (read : Json → Option α) : Json → Option (List α)
  | arr items => items.mapM read
  | _ => none

@[simp] theorem asString_str (s : String) : asString (str s) = some s := rfl
@[simp] theorem asBool_bool (b : Bool) : asBool (bool b) = some b := rfl

end SqlLineage.Json
