/-
Module: SqlLineage.Flow.KeyedJoin
Purpose: Recognizing joins on a key of the joined relation, from the text of their conditions.
Main exports: isKeyColumn, isKeyedJoin
-/
import SqlLineage.Lineage.Relation
import SqlLineage.Text.Blank

namespace SqlLineage.Flow

open Lineage (TableReference JoinClause)

/-- Characters that may quote a column name. -/
def isColumnQuote (c : Char) : Bool := c = '\x22' || c = '\x60' || c = '[' || c = ']'

def endsWith (ending text : List Char) : Bool := (Text.stripEnd? ending text).isSome

/-- The endings of column names that look like keys. -/
def keyEndings : List String := ["_id", "_key", "_code", "_sk"]

/-- Whether a column looks like a key by its name. -/
def isKeyColumn (column : List Char) : Bool :=
  let name := Text.lowercase (String.ofList (Text.trimBy isColumnQuote column))
  name == "id" || keyEndings.any fun ending => endsWith ending.toList name.toList

/-- The name of a relation after its last dot. -/
def baseName (name : String) : String :=
  match Text.cutLast '.' name.toList with
  | some (_, base) => String.ofList base
  | none => name

/-- Whether a qualifier names the relation: by its alias, its name, or its name without a schema. -/
def namesTable (qualifier : String) (table : TableReference) : Bool :=
  (table.aliasName.map Text.lowercase == some qualifier) || table.key == qualifier ||
    (match Text.cutLast '.' table.key.toList with
      | some (_, base) => String.ofList base == qualifier
      | none => false)

/-- The column of the relation that one side of a comparison refers to. A column without a qualifier
may be of any relation. -/
def columnOf? (table : TableReference) (side : List Char) : Option (List Char) :=
  let side := Text.trimBy Text.isBlank side
  match Text.cutLast '.' side with
  | some (qualifier, column) =>
    if namesTable (Text.lowercase (String.ofList qualifier)) table then some column else none
  | none => some side

/-- The two sides of an equality, without the parentheses around it. Other comparisons that contain an
equals sign are none. -/
def equalitySides? (conjunct : List Char) : Option (List Char × List Char) := do
  let (left, right) ← Text.cutFirst '=' conjunct
  let compared := match left.getLast? with
    | some c => c = '<' || c = '>' || c = '!'
    | none => false
  if compared || right.head? = some '>' then none
  else some (left.dropWhile (· = '('), (right.reverse.dropWhile (· = ')')).reverse)

/-- The parts of a condition that are joined by `AND`. -/
def conjuncts (condition : List Char) : List (List Char) :=
  (Text.pieces " AND ".toList condition).flatMap (Text.pieces " and ".toList)

/-- The columns of a `USING` clause. -/
def usingColumns? (condition : List Char) : Option (List (List Char)) := do
  let rest ← Text.stripStart? "USING (".toList condition
  let columns ← Text.stripEnd? [')'] rest
  pure ((Text.pieces [','] columns).map (Text.trimBy Text.isBlank))

/-- Whether a condition compares a column of the relation that looks like a key for equality. -/
def isKeyedCondition (right : TableReference) (condition : List Char) : Bool :=
  match usingColumns? condition with
  | some columns => columns.any isKeyColumn
  | none =>
    ((conjuncts condition).filterMap equalitySides?).any fun (left, other) =>
      [left, other].any fun side => ((columnOf? right side).map isKeyColumn).getD false

/-- Whether a join is an equality join on a column of the joined relation that looks like a key. -/
def isKeyedJoin (join : JoinClause) : Bool :=
  join.kind != .cross &&
    match join.condition with
    | some condition => isKeyedCondition join.right condition.toList
    | none => false

end SqlLineage.Flow
