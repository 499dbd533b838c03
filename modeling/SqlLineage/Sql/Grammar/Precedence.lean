/-
Module: SqlLineage.Sql.Grammar.Precedence
Purpose: How strongly the operators between two operands bind.
Main exports: Strength, Strength.level, operatorStrength, binaryOperator?
-/
import SqlLineage.Sql.Grammar.Basic

namespace SqlLineage.Sql.Grammar

/-- The classes of operators that bind equally. -/
inductive Strength where
  | disjunction
  | conjunction
  | negation
  | other
  | test
  | pattern
  | comparison
  | range
  | pipe
  | caret
  | ampersand
  | exclusive
  | sum
  | product
  | zone
  | cast
  | collation
  | subscript
deriving Repr, Inhabited, DecidableEq

namespace Strength

/-- The level of a class; a higher one binds more strongly. In Postgres patterns and ranges bind more
strongly than comparisons, and the operators that are not arithmetic are all of one class. -/
def level (dialect : Dialect) (strength : Strength) : Nat :=
  if dialect = .postgres then
    match strength with
    | disjunction => 10
    | conjunction => 20
    | negation => 30
    | test => 40
    | comparison => 50
    | pattern | range => 60
    | other | pipe | ampersand => 70
    | exclusive => 75
    | sum => 80
    | product => 90
    | caret => 100
    | zone => 110
    | collation => 120
    | subscript => 130
    | cast => 140
  else
    match strength with
    | disjunction => 5
    | conjunction => 10
    | negation => 15
    | other => 16
    | test => 17
    | pattern => 19
    | comparison | range => 20
    | pipe => 21
    | caret => 22
    | ampersand => 23
    | exclusive => 24
    | sum => 30
    | product => 40
    | zone => 41
    | cast | subscript => 50
    | collation => 0

end Strength

/-- The symbols that in Postgres are operators of a class of their own. -/
def postgresSymbols : List String := [
  "->", "->>", "#>", "#>>", "@>", "<@", "#-", "@?", "@@", "?", "?&", "?|", "!", "&&", "^@", "||", "#",
  ">>", "<<"]

/-- The class of an operator that is a symbol. -/
def symbolStrength? (dialect : Dialect) (symbol : String) : Option Strength :=
  if dialect = .postgres && postgresSymbols.contains symbol then some .other
  else
    match symbol with
    | "=" | "<" | "<=" | "<>" | "!=" | ">" | ">=" | "==" | "~" | "~*" | "!~" | "!~*" | "~~" | "~~*"
    | "!~~" | "!~~*" | "<=>" => some .comparison
    | "|" => some .pipe
    | "^" | "#" | ">>" | "<<" => some .caret
    | "&" => some .ampersand
    | "+" | "-" => some .sum
    | "*" | "/" | "//" | "%" | "||" => some .product
    | "::" | "!" | "&&" | "^@" => some .cast
    | "[" => some .subscript
    | ":" => if dialect.colonPaths then some .cast else none
    | "->" | "->>" | "#>" | "#>>" | "@>" | "<@" | "#-" | "@?" | "@@" => some .other
    | _ => none

/-- The class of an operator that is a keyword. -/
def wordStrength? (dialect : Dialect) (word : String) : Option Strength :=
  match word with
  | "OR" => some .disjunction
  | "AND" => some .conjunction
  | "XOR" => some .exclusive
  | "IS" => some .test
  | "IN" | "BETWEEN" | "OVERLAPS" | "OPERATOR" => some .range
  | "LIKE" | "ILIKE" | "RLIKE" | "REGEXP" | "SIMILAR" => some .pattern
  | "DIV" => some .product
  | "COLLATE" => if dialect = .postgres then some .collation else none
  | _ => none

/-- How strongly what comes next binds to the operand before it; zero if it does not. -/
def operatorStrength (dialect : Dialect) : Reader Nat := do
  let level := fun (strength : Option Strength) => (strength.map (·.level dialect)).getD 0
  match ← peek with
  | some (.symbol symbol) => pure (level (symbolStrength? dialect symbol))
  | some (.customOperator _) => pure (level (some .other))
  | some (.word _ "AT" _) =>
    if (← peekKeywordAt 1) == "TIME" && (← peekKeywordAt 2) == "ZONE" then pure (level (some .zone))
    else pure 0
  | some (.word _ "NOT" _) =>
    match ← peekKeywordAt 1 with
    | "IN" | "BETWEEN" => pure (level (some .range))
    | "LIKE" | "ILIKE" | "RLIKE" | "REGEXP" | "SIMILAR" => pure (level (some .pattern))
    | _ => pure 0
  | some (.word _ keyword _) => pure (level (wordStrength? dialect keyword))
  | _ => pure 0

/-- The operator between two operands that a token is, as it is written out. -/
def binaryOperator? (dialect : Dialect) : Token → Option String
  | .symbol symbol =>
    match symbol with
    | "==" => some "="
    | "!=" => some "<>"
    | "=" | "<>" | "<=>" | ">" | ">=" | "<" | "<=" | "+" | "-" | "*" | "/" | "%" | "||" | "|" | "^"
    | "&" | "~" | "~*" | "!~" | "!~*" | "~~" | "~~*" | "!~~" | "!~~*" | "->" | "->>" | "#>" | "#>>"
    | "@>" | "<@" | "#-" | "@?" | "@@" | "?" | "?|" | "?&" => some symbol
    | "//" => if dialect.isAnyOf [.duckdb, .generic] then some symbol else none
    | "<<" | ">>" => if dialect.isAnyOf [.duckdb, .generic, .postgres] then some symbol else none
    | "#" => if dialect = .postgres then some symbol else none
    | "&&" | "^@" => if dialect.isAnyOf [.generic, .postgres] then some symbol else none
    | _ => none
  | .customOperator symbol => some symbol
  | .word _ keyword _ =>
    match keyword with
    | "AND" | "OR" | "XOR" | "OVERLAPS" => some keyword
    | _ => none
  | _ => none

end SqlLineage.Sql.Grammar
