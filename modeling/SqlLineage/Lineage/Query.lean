/-
Module: SqlLineage.Lineage.Query
Purpose: What is known of one query of a script: the relations it reads and writes, its columns and
  its filters.
Main exports: Transformation, Field, Filter, UnionInfo, Query, Cte, Query.addTable
-/
import SqlLineage.Lineage.Relation

namespace SqlLineage.Lineage

/-- How a column of a result is derived. -/
inductive Transformation where
  | direct
  | aggregation
  | window
  | conditional
  | concatenation
  | expression
deriving Repr, Inhabited, DecidableEq

namespace Transformation

def name : Transformation → String
  | direct => "DIRECT"
  | aggregation => "AGGREGATION"
  | window => "WINDOW"
  | conditional => "CONDITIONAL"
  | concatenation => "CONCATENATION"
  | expression => "EXPRESSION"

def all : List Transformation :=
  [direct, aggregation, window, conditional, concatenation, expression]

def ofName? (name : String) : Option Transformation := all.find? (·.name == name)

@[simp] theorem ofName?_name (transformation : Transformation) :
    ofName? transformation.name = some transformation := by
  cases transformation <;> rfl

end Transformation

/-- A column of a result. -/
structure Field where
  expression : String := ""
  aliasName : Option String := none
  transformation : Transformation := .direct
deriving Repr, Inhabited, DecidableEq

/-- A condition on the rows of a query. -/
structure Filter where
  /-- `WHERE` or `HAVING`. -/
  clause : String := ""
  condition : String := ""
deriving Repr, Inhabited, DecidableEq

/-- A set operation and the relations that feed its branches, in order of first appearance. -/
structure UnionInfo where
  /-- The operator and its quantifier. -/
  kind : String := ""
  sources : List String := []
deriving Repr, Inhabited, DecidableEq

/-- One query of a script. -/
structure Query where
  id : String := ""
  name : String := ""
  tables : List TableReference := []
  joins : List JoinClause := []
  /-- The relations that the query writes. -/
  outputs : List String := []
  isMain : Bool := false
  isCte : Bool := false
  isSubQuery : Bool := false
  isTempTable : Bool := false
  fields : List Field := []
  filters : List Filter := []
  groupBy : List String := []
  orderBy : List String := []
  /-- The names of the common table expressions and the ids of the subqueries that the query reads. -/
  dependsOn : List String := []
  unionInfo : Option UnionInfo := none
deriving Repr, Inhabited, DecidableEq

namespace Query

/-- A query is either a statement's own one, or a common table expression or a subquery inside it. -/
def isStatementLevel (query : Query) : Bool := !query.isCte && !query.isSubQuery

/-- Notes that the query reads this one; a name is noted once. -/
def addDependency (name : String) (query : Query) : Query :=
  if query.dependsOn.contains name then query
  else { query with dependsOn := query.dependsOn ++ [name] }

/-- Notes a relation that the query reads. -/
def addTable (table : TableReference) (query : Query) : Query :=
  let query := if table.isCte then query.addDependency table.key else query
  { query with tables := query.tables ++ [table] }

@[simp] theorem tables_addDependency (name : String) (query : Query) :
    (query.addDependency name).tables = query.tables := by
  unfold addDependency; split <;> rfl

@[simp] theorem tables_addTable (table : TableReference) (query : Query) :
    (query.addTable table).tables = query.tables ++ [table] := by
  unfold addTable; split <;> simp

end Query

/-- A common table expression and the query that defines it. -/
structure Cte where
  name : String := ""
  definition : Query := {}
deriving Repr, Inhabited, DecidableEq

end SqlLineage.Lineage
