/-
Module: SqlLineage.Sql.Grammar.Statement
Purpose: Statements, and the query that they take rows from: queries themselves, and those that insert rows
  or create a table or a view from one. Others take rows from none.
Main exports: statement, statements, sourceQuery?
-/
import SqlLineage.Sql.Grammar.Command
import SqlLineage.Sql.Grammar.Create
import SqlLineage.Sql.Lexer

namespace SqlLineage.Sql.Grammar

section

variable (r : Rules)

/-- A statement that explains no other one, and the query that it takes rows from if it has one. -/
def plainStatement : Reader (Option Query) := deeper do
  match ← peek with
  | some (.symbol "(") => return some (← r.query)
  | some (.word _ "CREATE" _) =>
    skip 1
    create r
  | some (.word _ "INSERT" _) =>
    skip 1
    match ← insertBody r with
    | .write _ source _ => pure source
    | _ => pure none
  | some (.word _ keyword _) =>
    if ["SELECT", "WITH", "VALUES"].contains keyword then return some (← r.query)
    else
      skip 1
      if ← command? r keyword then pure none else unexpected
  | _ => unexpected

/-- Options in parentheses, each with a value if it is given one. -/
def explainOptions : Reader Unit := do
  let option : Reader Unit := do
    let _ ← name
    unless (← peekSymbol ",") || (← peekSymbol ")") do
      let _ ← r.expression
  let _ ← parenthesized (commaSeparated r.dialect option)

/-- Explains another statement or describes a table, after its keyword. -/
def explain (word : String) : Reader Unit := do
  if ← onlyIf (word == "EXPLAIN" && r.dialect.isAnyOf [.duckdb, .generic, .postgres]) (peekSymbol "(") then
    explainOptions r
  else unless ← firstOf (keywords? ["QUERY", "PLAN"]) (keyword? "ESTIMATE") do
    let _ ← keyword? "ANALYZE"
    let _ ← keyword? "VERBOSE"
    if ← keyword? "FORMAT" then
      let _ ← oneOf ["TEXT", "GRAPHVIZ", "JSON"]
  if (← attempt (plainStatement r)).isNone then
    let _ ← oneOf? ["EXTENDED", "FORMATTED"]
    if r.dialect.isAnyOf [.clickhouse, .snowflake] then
      let _ ← keyword? "TABLE"
    let _ ← path r.dialect

/-- A statement, and the query that it takes rows from if it has one. -/
def statement : Reader (Option Query) := do
  match ← oneOf? ["EXPLAIN", "DESCRIBE", "DESC"] with
  | some word =>
    explain r word
    pure none
  | none => plainStatement r

/-- The first of statements with semicolons between them; the rest has to be in the grammar too. A lone
`END` ends them. -/
def statements : Reader (Option Query) := do
  let separators := many do
    if ← symbol? ";" then pure (some ()) else pure none
  let _ ← separators
  let first ← statement r
  let _ ← many do
    let found ← separators
    if (← peek).isNone then pure none
    else if found.isEmpty then
      if (← peekKeyword) == "END" then
        modify fun state => { state with tokens := [] }
        pure none
      else unexpected
    else
      let _ ← statement r
      pure (some ())
  pure first

end

/-- How deeply statements, queries and expressions may be nested in each other. -/
def maxDepth : Nat := 50

/-- The rules for a statement of so many tokens. Constructs that are nested in each other take a token
each, apart from the few that one of them starts with. -/
def rulesFor (dialect : Dialect) (length : Nat) : Rules := rulesWithin dialect (4 * length + 8)

end Grammar

/-- The query that a statement takes its rows from. There is none if the statement is not in the grammar
of the dialect, or takes no rows. -/
def sourceQuery? (dialect : Dialect) (statement : String) : Option Query := do
  let tokens ← tokenize? dialect statement
  let rules := Grammar.rulesFor dialect tokens.length
  match (Grammar.statements rules).run { tokens, depth := Grammar.maxDepth } with
  | .ok (query, _) => query
  | .error _ => none

end SqlLineage.Sql
