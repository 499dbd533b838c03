/-
Module: SqlLineage.Yaml.Token
Purpose: The tokens of a YAML document. Where indentation says that a block collection begins or ends there
  is a token for it, so that what follows need not look at columns.
Main exports: Token
-/
import SqlLineage.Yaml.Basic

namespace SqlLineage.Yaml

inductive Token where
  /-- The directive for the version of the language. -/
  | version (major minor : Nat)
  /-- The directive that gives a handle for tags its meaning. -/
  | handle (name expansion : String)
  | documentStart
  | documentEnd
  | blockSequence
  | blockMapping
  | blockEnd
  | openSequence
  | closeSequence
  | openMapping
  | closeMapping
  /-- The dash in front of an item of a block sequence. -/
  | item
  /-- The comma after a part of a flow collection. -/
  | comma
  | key
  | value
  | anchor (name : String)
  | reference (name : String)
  /-- A tag whose handle, if it is not empty, stands for the first part of it. -/
  | tag (handle suffix : String)
  | scalar (text : String) (style : ScalarStyle)
deriving Repr, Inhabited, DecidableEq

end SqlLineage.Yaml
