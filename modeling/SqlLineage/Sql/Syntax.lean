/-
Module: SqlLineage.Sql.Syntax
Purpose: The syntax tree of a query. It keeps apart what lineage asks for: columns and conditions, the
  relations and their joins, and the queries nested anywhere in an expression. The rest of a query is
  kept as the text it is written out with.
Main exports: Expr, Part, Query, Cte, QueryBody, Select, SelectItem, JoinedTables, TableFactor, Join
-/
import SqlLineage.Sql.Token

namespace SqlLineage.Sql

/-- The other name of a relation, and the names of its columns with their types. -/
structure TableAlias where
  name : Ident
  columns : List String := []
deriving Repr, Inhabited, DecidableEq

/-- The operators that make one query of two. -/
inductive SetOperator where
  | union
  | except
  | intersect
  | minus
deriving Repr, Inhabited, DecidableEq

namespace SetOperator

def keyword : SetOperator → String
  | union => "UNION"
  | except => "EXCEPT"
  | intersect => "INTERSECT"
  | minus => "MINUS"

def all : List SetOperator := [union, except, intersect, minus]

/-- How strongly the operator binds. -/
def precedence : SetOperator → Nat
  | intersect => 20
  | _ => 10

end SetOperator

/-- The ways to join a relation to those before it. -/
inductive JoinOperator where
  | inner
  | left
  | right
  | full
  | cross
  | semi
  | leftSemi
  | rightSemi
  | anti
  | leftAnti
  | rightAnti
  | crossApply
  | outerApply
  /-- To the row that is nearest in time, as the text of the condition says. -/
  | asof (matching : String)
deriving Repr, Inhabited, DecidableEq

mutual

/-- An expression. -/
inductive Expr where
  /-- A column, after the names that qualify it. -/
  | column (path : List Ident)
  | nested (inner : Expr)
  | conditional (operand : Option Expr) (conditions results : List Expr) (otherwise : Option Expr)
  /-- A call: its name, whether it ranges over a window, and what stands in its parentheses, in its
  clause `WITHIN GROUP` and after that. -/
  | call (name : String) (windowed : Bool) (arguments ordering rest : List Part)
  /-- A call in braces, which every database is to read alike. -/
  | braced (call : Expr)
  | operation (left : Expr) (operator : String) (right : Expr)
  | phrase (parts : List Part)
  /-- A phrase in which the second half is the principal operand. -/
  | inverted (lead principal : List Part)

/-- A piece of an expression. -/
inductive Part where
  | text (text : String)
  | operand (expr : Expr)
  | query (query : Query)

/-- A query with the common table expressions that it declares. -/
structure Query where
  /-- Whether the common table expressions may read themselves. -/
  isRecursive : Bool
  ctes : List Cte
  body : QueryBody
  orderBy : List String
  /-- What stands after the order. -/
  tail : String

/-- A common table expression. -/
structure Cte where
  aliasName : TableAlias
  /-- Whether its rows are to be kept. -/
  materialized : String
  query : Query
  /-- A name after the query. -/
  origin : Option Ident

inductive QueryBody where
  | select (select : Select)
  | nested (query : Query)
  | combined (operator : SetOperator) (quantifier : String) (left right : QueryBody)
  /-- A statement that changes rows, and the query it takes them from. -/
  | write (head : String) (source : Option Query) (tail : String)
  /-- Rows that no query is needed for. -/
  | rows (text : String)

structure Select where
  /-- What stands before the select list. -/
  head : String
  items : List SelectItem
  /-- What stands between the select list and the relations. -/
  destination : String
  tables : List JoinedTables
  /-- What stands between the relations and the condition. -/
  views : String
  condition : Option Expr
  groupBy : List String
  /-- What stands after `GROUP BY` and its expressions. -/
  grouping : String
  having : Option Expr
  /-- What stands after all that. -/
  tail : String

inductive SelectItem where
  | value (expr : Expr) (aliasName : Option Ident)
  | wildcard (text : String)

/-- A relation and those joined to it. -/
structure JoinedTables where
  relation : TableFactor
  joins : List Join

/-- What rows are taken from. -/
inductive TableFactor where
  /-- A relation by name, with what stands before and after its other name. -/
  | table (name : List Ident) (arguments : String) (aliasName : Option TableAlias) (options : String)
  | derived (isLateral : Bool) (query : Query) (aliasName : Option TableAlias)
  | nested (inner : JoinedTables) (aliasName : Option TableAlias)
  /-- Rows that come from no relation of a name. -/
  | other (text : String) (aliasName : Option TableAlias) (options : String)

structure Join where
  isGlobal : Bool
  operator : JoinOperator
  relation : TableFactor
  constraint : JoinConstraint

inductive JoinConstraint where
  | on (condition : Expr)
  | using (columns : List (List Ident))
  | natural
  | none

end

instance : Inhabited Expr := ⟨.column []⟩

namespace TableFactor

/-- The other name of what rows are taken from. -/
def aliasName : TableFactor → Option TableAlias
  | table _ _ aliasName _ | derived _ _ aliasName | nested _ aliasName | other _ aliasName _ =>
    aliasName

/-- The same under another name. -/
def withAlias (aliasName : TableAlias) : TableFactor → TableFactor
  | table name arguments _ options => table name arguments (some aliasName) options
  | derived isLateral query _ => derived isLateral query (some aliasName)
  | nested inner _ => nested inner (some aliasName)
  | other text _ options => other text (some aliasName) options

end TableFactor

namespace Expr

/-- An expression that holds no other. -/
def plain (text : String) : Expr := phrase [.text text]

/-- A query in parentheses. -/
def subquery (query : Query) : Expr := phrase [.text "(", .query query, .text ")"]

/-- Whether the expression is a query in parentheses and nothing else. -/
def isSubquery : Expr → Bool
  | phrase [.text "(", .query _, .text ")"] => true
  | _ => false

end Expr

/-! ### The queries nested in an expression -/

mutual

/-- The outermost queries of an expression, in the order in which they are evaluated: all conditions of
a conditional come before its results, the principal operand of an inverted phrase comes first, and the
order of a call last. -/
def Expr.queries : Expr → List Query
  | .column _ => []
  | .nested inner => inner.queries
  | .conditional operand conditions results otherwise =>
    Expr.queriesOfOption operand ++ Expr.queriesOfList conditions ++ Expr.queriesOfList results
      ++ Expr.queriesOfOption otherwise
  | .call _ _ arguments ordering rest =>
    Part.queriesOfList arguments ++ Part.queriesOfList rest ++ Part.queriesOfList ordering
  | .braced call => call.queries
  | .operation left _ right => left.queries ++ right.queries
  | .phrase parts => Part.queriesOfList parts
  | .inverted lead principal => Part.queriesOfList principal ++ Part.queriesOfList lead

def Expr.queriesOfOption : Option Expr → List Query
  | none => []
  | some expr => expr.queries

def Expr.queriesOfList : List Expr → List Query
  | [] => []
  | expr :: rest => expr.queries ++ Expr.queriesOfList rest

def Part.queries : Part → List Query
  | .text _ => []
  | .operand expr => expr.queries
  | .query query => [query]

def Part.queriesOfList : List Part → List Query
  | [] => []
  | part :: rest => part.queries ++ Part.queriesOfList rest

end

end SqlLineage.Sql
