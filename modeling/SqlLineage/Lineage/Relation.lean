/-
Module: SqlLineage.Lineage.Relation
Purpose: The relations a query mentions and the joins between them.
Main exports: TableReference, TableReference.named, TableReference.key, JoinKind, JoinClause
-/
import SqlLineage.Text.Cut
import SqlLineage.Text.Lowercase

namespace SqlLineage.Lineage

/-- A relation mentioned in a `FROM` or `JOIN` clause. -/
structure TableReference where
  /-- The name as written, qualifiers included. -/
  name : String := ""
  /-- What stands before the last dot of the name. -/
  schema : Option String := none
  aliasName : Option String := none
  /-- Whether the name stands for a common table expression. -/
  isCte : Bool := false
deriving Repr, Inhabited, DecidableEq

namespace TableReference

/-- The qualifier of a dotted name: everything before its last dot. -/
def qualifier (name : String) : Option String :=
  (Text.cutLast '.' name.toList).map fun (before, _) => String.ofList before

/-- A reference to the relation of this name. -/
def named (name : String) (aliasName : Option String) (isCte : Bool) : TableReference :=
  { name, schema := qualifier name, aliasName, isCte }

/-- The identity of the relation: names that differ in case alone denote the same one. -/
def key (table : TableReference) : String := Text.lowercase table.name

/-- Whether two references name the same relation. -/
def sameRelation (table other : TableReference) : Bool := table.key == other.key

theorem sameRelation_iff (table other : TableReference) :
    table.sameRelation other = true ↔ table.key = other.key := by
  simp [sameRelation]

end TableReference

/-- How two relations are joined. -/
inductive JoinKind where
  | inner
  | left
  | right
  | full
  | cross
deriving Repr, Inhabited, DecidableEq

namespace JoinKind

/-- The keyword of a join. -/
def name : JoinKind → String
  | inner => "INNER"
  | left => "LEFT"
  | right => "RIGHT"
  | full => "FULL"
  | cross => "CROSS"

def all : List JoinKind := [inner, left, right, full, cross]

/-- The join that a keyword stands for. -/
def ofName? (name : String) : Option JoinKind := all.find? (·.name == name)

@[simp] theorem ofName?_name (kind : JoinKind) : ofName? kind.name = some kind := by
  cases kind <;> rfl

end JoinKind

/-- One join of a query. -/
structure JoinClause where
  /-- The first relation of the `FROM` item that the join belongs to. -/
  left : TableReference := {}
  right : TableReference := {}
  kind : JoinKind := .inner
  /-- The text of the `ON` condition, or the whole `USING` clause. -/
  condition : Option String := none
deriving Repr, Inhabited, DecidableEq

end SqlLineage.Lineage
