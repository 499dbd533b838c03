/-
Module: SqlLineage.Sql.Grammar.Rules
Purpose: What the constructs of the grammar have in common. Expressions and queries may be nested in any of
  them; the rules that read those are handed in, so that every reader ends.
Main exports: Rules, Rules.expression, Rules.expressions, Rules.above, startsQuery
-/
import SqlLineage.Sql.Grammar.DataType
import SqlLineage.Sql.Grammar.Precedence

namespace SqlLineage.Sql.Grammar

/-- How the constructs are read that may be nested in any other. -/
structure Rules where
  dialect : Dialect
  /-- An expression whose operators all bind more strongly than the level. -/
  subexpression : Nat → Reader Expr
  /-- An expression without an operator between two operands. -/
  operand : Reader Expr
  query : Reader Query
  /-- A query without its order, whose set operators all bind more strongly than the level. -/
  queryBody : Nat → Reader QueryBody
  joinedTables : Reader JoinedTables

instance : Coe String Part := ⟨.text⟩
instance : Coe Expr Part := ⟨.operand⟩
instance : Coe Query Part := ⟨.query⟩

/-- Expressions with a comma between two of them. -/
def commaParts : List Expr → List Part
  | [] => []
  | [expr] => [.operand expr]
  | expr :: rest => .operand expr :: .text ", " :: commaParts rest

/-- Lists of pieces with a comma between two of them. -/
def commaPieces : List (List Part) → List Part
  | [] => []
  | [parts] => parts
  | parts :: rest => parts ++ .text ", " :: commaPieces rest

/-- Lists of pieces with a blank between two of them. -/
def spacedPieces : List (List Part) → List Part
  | [] => []
  | [parts] => parts
  | parts :: rest => parts ++ .text " " :: spacedPieces rest

/-- Whether a query comes next. -/
def startsQuery : Reader Bool := return ["SELECT", "WITH"].contains (← peekKeyword)

namespace Rules

variable (r : Rules)

def expression : Reader Expr := r.subexpression 0

def expressions : Reader (List Expr) := commaSeparated r.dialect r.expression

/-- Expressions up to the symbol that closes the list, which is left; there may be none. -/
def expressionsBefore (closing : String) : Reader (List Expr) := do
  if ← peekSymbol closing then pure [] else r.expressions

/-- An expression whose operators bind more strongly than those of the class. -/
def above (strength : Strength) : Reader Expr := r.subexpression (strength.level r.dialect)

/-- An expression after a keyword, if that comes next. -/
def boundAfter (word : String) : Reader (List Part) := do
  match ← afterKeyword word r.expression with
  | some expr => pure [.text (" " ++ word ++ " "), expr]
  | none => pure []

end Rules

end SqlLineage.Sql.Grammar
