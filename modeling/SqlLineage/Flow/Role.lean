/-
Module: SqlLineage.Flow.Role
Purpose: The roles that the nodes of a flow graph play, and how each of them is shown.
Main exports: NodeRole, NodeRole.all, nodeId
-/
import SqlLineage.Text.Lowercase

namespace SqlLineage.Flow

/-- The role of a node in the flow diagram. -/
inductive NodeRole where
  | sourceTable
  | factTable
  | dimensionTable
  | cte
  | tempTable
  | join
  | output
deriving Repr, Inhabited, DecidableEq

namespace NodeRole

/-- The roles in the order of the legend. -/
def all : List NodeRole := [sourceTable, factTable, dimensionTable, cte, tempTable, join, output]

/-- The name of the role. -/
def name : NodeRole → String
  | sourceTable => "SOURCE_TABLE"
  | factTable => "FACT_TABLE"
  | dimensionTable => "DIMENSION_TABLE"
  | cte => "CTE"
  | tempTable => "TEMP_TABLE"
  | join => "JOIN"
  | output => "OUTPUT"

/-- The role of this name. -/
def ofName? (name : String) : Option NodeRole := all.find? (·.name == name)

/-- What stands before the colon in the ids of the nodes with this role. -/
def slug : NodeRole → String
  | sourceTable => "source"
  | factTable => "fact"
  | dimensionTable => "dimension"
  | cte => "cte"
  | tempTable => "temp"
  | join => "join"
  | output => "output"

/-- The words for the role in the legend. -/
def description : NodeRole → String
  | sourceTable => "source table"
  | factTable => "fact table"
  | dimensionTable => "dimension table"
  | cte => "CTE"
  | tempTable => "temp table"
  | join => "join"
  | output => "output"

/-- A colour by its red, green and blue parts. -/
structure Colour where
  red : Nat
  green : Nat
  blue : Nat
deriving Repr, Inhabited, DecidableEq

/-- The colour that fills the nodes with this role. -/
def colour : NodeRole → Colour
  | sourceTable => ⟨0x94, 0xa3, 0xb8⟩
  | factTable => ⟨0x60, 0xa5, 0xfa⟩
  | dimensionTable => ⟨0x4a, 0xde, 0x80⟩
  | cte => ⟨0xc0, 0x84, 0xfc⟩
  | tempTable => ⟨0xf4, 0x72, 0xb6⟩
  | join => ⟨0xfb, 0xbf, 0x24⟩
  | output => ⟨0x34, 0xd3, 0x99⟩

/-- Two hexadecimal digits. -/
def hexByte (n : Nat) : List Char := [Nat.digitChar (n / 16 % 16), Nat.digitChar (n % 16)]

/-- The colour in the form `#rrggbb`. -/
def colourText (role : NodeRole) : String :=
  let c := role.colour
  String.ofList ('#' :: hexByte c.red ++ hexByte c.green ++ hexByte c.blue)

/-- The shape of the nodes with this role in a drawing. -/
def shape : NodeRole → String
  | join => "diamond"
  | output => "doubleoctagon"
  | cte => "note"
  | _ => "box"

/-- Whether the role is that of a table, which a join, an output and a common table expression are
not. -/
def isTable : NodeRole → Bool
  | sourceTable | factTable | dimensionTable | tempTable => true
  | cte | join | output => false

@[simp] theorem ofName?_name (role : NodeRole) : ofName? role.name = some role := by
  cases role <;> rfl

theorem slug_injective {role other : NodeRole} (same : role.slug = other.slug) : role = other := by
  cases role <;> cases other <;> first | rfl | simp [slug] at same

end NodeRole

/-- The id of a node: names that differ in case alone denote the same node of a role. -/
def nodeId (role : NodeRole) (name : String) : String :=
  role.slug ++ ":" ++ Text.lowercase name

end SqlLineage.Flow
