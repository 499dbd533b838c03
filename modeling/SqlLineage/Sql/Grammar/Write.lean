/-
Module: SqlLineage.Sql.Grammar.Write
Purpose: The statements that change rows. They may stand in place of a query.
Main exports: assignment, insertBody, updateBody
-/
import SqlLineage.Sql.Grammar.Select

namespace SqlLineage.Sql.Grammar

/-- The formats that files of rows are stored in. -/
def fileFormats : List String :=
  ["AVRO", "JSONFILE", "ORC", "PARQUET", "RCFILE", "SEQUENCEFILE", "TEXTFILE"]

/-- What a statement does where a row breaks a constraint, after `OR`. -/
def conflictActions : List String := ["REPLACE", "ROLLBACK", "ABORT", "FAIL", "IGNORE"]

/-- What a statement does where a row breaks a constraint, if it says so. -/
def conflictClause : Reader String := do
  if (← peekKeyword) == "OR" && conflictActions.contains (← peekKeywordAt 1) then
    let action ← peekKeywordAt 1
    skip 2
    pure ("OR " ++ action)
  else pure ""

section

variable (r : Rules)

/-! ### Parts of both statements -/

/-- A value for a column. -/
def assignment : Reader String := do
  let target ← (do
    if ← symbol? "(" then
      let columns ← commaSeparated r.dialect (path r.dialect)
      symbol ")"
      pure ("(" ++ renderPaths columns ++ ")")
    else return renderPath (← path r.dialect))
  symbol "="
  return target ++ " = " ++ (← r.expression).render

def assignments : Reader String := return commas (← commaSeparated r.dialect (assignment r))

/-- The columns that a statement gives back. -/
def returning : Reader String := do
  if ← keyword? "RETURNING" then
    let items ← commaSeparated r.dialect (selectItem r)
    pure ("RETURNING " ++ commas (SelectItem.renderList items))
  else pure ""

/-- The condition on the rows that are changed. -/
def whereClause : Reader String := do
  match ← afterKeyword "WHERE" r.expression with
  | some condition => pure ("WHERE " ++ condition.render)
  | none => pure ""

/-! ### New rows -/

/-- Whether a query in parentheses comes next. -/
def startsSubquery : Reader Bool := do
  if ← peekSymbol "(" then return (← peekKeywordAt 1) == "SELECT" else pure false

/-- Column names in parentheses, if there are any. -/
def columnNames? (mayBeEmpty : Bool) : Reader String := do
  if ← symbol? "(" then
    let columns ← (do
      if mayBeEmpty && (← peekSymbol ")") then pure [] else commaSeparated r.dialect name)
    symbol ")"
    pure (if columns.isEmpty then "" else "(" ++ renderNames columns ++ ")")
  else pure ""

/-- What is done with rows that are there already. -/
def conflict : Reader String := do
  if ← keyword? "ON" then
    if ← keyword? "CONFLICT" then
      let target ← (do
        if ← keywords? ["ON", "CONSTRAINT"] then
          return " ON CONSTRAINT " ++ renderPath (← path r.dialect)
        else if ← peekSymbol "(" then return "(" ++ renderNames (← names r.dialect) ++ ")"
        else pure "")
      keyword "DO"
      if ← keyword? "NOTHING" then pure ("ON CONFLICT" ++ target ++ " DO NOTHING")
      else
        keywords ["UPDATE", "SET"]
        let assignments ← assignments r
        return "ON CONFLICT" ++ target ++ " DO UPDATE SET " ++ assignments ++ spaced (← whereClause r)
    else
      keywords ["DUPLICATE", "KEY", "UPDATE"]
      return "ON DUPLICATE KEY UPDATE " ++ (← assignments r)
  else pure ""

/-- The format that rows are given in, with values. -/
def inputFormat : Reader String := do
  if ← onlyIf r.dialect.clickhouseClauses (keyword? "FORMAT") then
    let format ← name
    let values := (← attempt r.expressions).getD []
    pure (clauses ["FORMAT", format.render, commas (values.map Expr.render)])
  else pure ""

/-- The table that rows go into, or the call of a function that stands for one. -/
def insertTarget : Reader String := do
  if ← onlyIf (r.dialect = .clickhouse) (keyword? "FUNCTION") then
    return "FUNCTION " ++ (← call r (← path r.dialect)).render
  else
    let target ← path r.dialect
    if ← onlyIf (r.dialect = .postgres) (keyword? "AS") then
      return renderPath target ++ " AS " ++ (← name).render
    else pure (renderPath target)

/-- The names that the new rows and their columns have in what follows. -/
def newRows : Reader String := do
  if ← onlyIf (r.dialect.isAnyOf [.generic, .mysql]) (keyword? "AS") then
    return "AS " ++ renderPath (← path r.dialect) ++ spaced (← columnNames? r false)
  else pure ""

/-- The columns that get values, and the partition that rows go into. A query in parentheses may follow
right away. -/
def insertColumns : Reader String := do
  if ← startsSubquery then pure ""
  else
    let columns ← columnNames? r r.dialect.emptyInsertColumns
    let partition ← (do
      if ← keyword? "PARTITION" then
        let parts ← parenthesized r.expressions
        pure ("PARTITION (" ++ commas (parts.map Expr.render) ++ ")")
      else pure "")
    let late ← (do if r.dialect = .hive then columnNames? r false else pure "")
    pure (clauses [columns, partition, late])

/-- The rest of a statement that adds rows to a table, after these words. -/
def insertRows (head : String) : Reader QueryBody := do
  let ending : Reader String := do
    let settings ← settings r
    let format ← inputFormat r
    let rows ← newRows r
    let conflict ← conflict r
    return clauses [settings, format, rows, conflict, ← returning r]
  if ← keywords? ["DEFAULT", "VALUES"] then
    return .write (head ++ " DEFAULT VALUES") none (← ending)
  else
    let head := clauses [head, ← insertColumns r]
    if ["FORMAT", "SETTINGS"].contains (← peekKeyword) then return .write head none (← ending)
    else if ← onlyIf (r.dialect = .mysql) (keyword? "SET") then
      let assignments ← assignments r
      return .write (head ++ " SET " ++ assignments) none (← ending)
    else
      let source ← r.query
      return .write head (some source) (← ending)

/-- Rows that are written to files, after these words. They go into no table. -/
def insertFiles (head : String) : Reader QueryBody := do
  let directory ← stringValue r.dialect
  let format ← (do
    if ← keywords? ["STORED", "AS"] then return " STORED AS " ++ (← oneOf fileFormats) else pure "")
  let source ← r.query
  pure (.write (head ++ " DIRECTORY \x27" ++ directory ++ "\x27" ++ format ++ " " ++ source.render) none "")

/-- A statement that adds rows, after its keyword. -/
def insertBody : Reader QueryBody := do
  let alternative ← conflictClause
  let known := r.dialect.isAnyOf [.generic, .mysql]
  let priority ← (do
    if known then return (← oneOf? ["LOW_PRIORITY", "DELAYED", "HIGH_PRIORITY"]).getD ""
    else pure "")
  let flag := fun (allowed : Bool) (word : String) => do
    if ← onlyIf allowed (keyword? word) then pure word else pure ""
  let ignore ← flag known "IGNORE"
  let overwrite ← flag true "OVERWRITE"
  let into ← flag true "INTO"
  let locally ← flag true "LOCAL"
  if ← keyword? "DIRECTORY" then insertFiles r (clauses ["INSERT", overwrite, locally])
  else
    let table ← flag true "TABLE"
    let target ← insertTarget r
    let words :=
      if alternative.isEmpty then [priority, ignore, overwrite, into, table] else [alternative, "INTO"]
    insertRows r (clauses ("INSERT" :: words ++ [target]))

/-! ### Changed rows -/

/-- A statement that changes rows, after its keyword. -/
def updateBody : Reader QueryBody := do
  let alternative ← conflictClause
  let target ← r.joinedTables
  let others : Reader String := do
    if ← keyword? "FROM" then return "FROM " ++ (← r.joinedTables).render else pure ""
  let early ← others
  keyword "SET"
  let assignments ← assignments r
  let late ← (do if early.isEmpty then others else pure "")
  let condition ← whereClause r
  let returned ← returning r
  let words :=
    ["UPDATE", alternative, target.render, early, "SET", assignments, late, condition, returned]
  pure (.write (clauses words) none "")

end

end SqlLineage.Sql.Grammar
