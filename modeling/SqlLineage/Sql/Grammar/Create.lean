/-
Module: SqlLineage.Sql.Grammar.Create
Purpose: The statements that create a table or a view, and the query that it is made from. Those that create
  an index, a schema or a database have none.
Main exports: createTable, createView, create
-/
import SqlLineage.Sql.Grammar.Query
import SqlLineage.Sql.Grammar.TableOption

namespace SqlLineage.Sql.Grammar

section

variable (r : Rules)

/-! ### Tables -/

/-- The name of a table that another one is made like. A token that starts no name is taken for one. -/
def likeTable : Reader Unit := do
  match ← attempt (tablePath r.dialect) with
  | some _ => pure ()
  | none => skip 1

/-- Creates a table, after its keyword. -/
def createTable : Reader (Option Query) := do
  let _ ← keywords? ["IF", "NOT", "EXISTS"]
  let _ ← tablePath r.dialect
  if ← keywords? ["ON", "CLUSTER"] then
    let _ ← name
  if (← oneOf? ["LIKE", "ILIKE"]).isSome then likeTable r
  if ← keyword? "CLONE" then likeTable r
  tableElements r
  tableOptions r
  if ← keyword? "AS" then return some (← r.query)
  else if r.dialect = .mysql && (← peekKeyword) == "SELECT" then return some (← r.query)
  else pure none

/-- Creates a table in Snowflake, after its keyword. The query that it is filled from comes last. -/
def createSnowflakeTable : Reader (Option Query) := do
  let _ ← keywords? ["IF", "NOT", "EXISTS"]
  let _ ← path r.dialect
  repeated (snowflakeOption? r)
  if ← keyword? "AS" then return some (← r.query) else pure none

/-! ### Views -/

/-- A column of a view. -/
def viewColumn : Reader Unit := do
  let _ ← name
  if ← onlyIf (r.dialect.isAnyOf [.bigquery, .generic]) (keyword? "OPTIONS") then options r
  else if ← onlyIf (r.dialect.isAnyOf [.generic, .snowflake]) (keyword? "COMMENT") then
    let _ ← singleQuoted
  if r.dialect = .clickhouse then
    let _ ← dataType r.dialect

/-- The columns of a view, if they are given. -/
def viewColumns : Reader Unit := do
  if ← symbol? "(" then
    unless ← symbol? ")" do
      let _ ← commaSeparatedUntil (onlyIf r.dialect.trailingCommas (atListEnd [])) (viewColumn r)
      symbol ")"

/-- Creates a view, after its keyword. -/
def createView : Reader (Option Query) := do
  if r.dialect.isAnyOf [.bigquery, .generic, .sqlite] then
    let _ ← keywords? ["IF", "NOT", "EXISTS"]
  let _ ← tablePath r.dialect
  viewColumns r
  optionsAfter r "WITH"
  if ← keyword? "CLUSTER" then
    keyword "BY"
    columnList? r.dialect
  if r.dialect.isAnyOf [.bigquery, .generic] then optionsAfter r "OPTIONS"
  if ← onlyIf r.dialect.clickhouseClauses (keyword? "TO") then
    let _ ← path r.dialect
  if ← onlyIf (r.dialect.isAnyOf [.generic, .snowflake]) (keyword? "COMMENT") then
    symbol "="
    let _ ← singleQuoted
  keyword "AS"
  let query ← r.query
  if r.dialect.isAnyOf [.generic, .redshift] then
    let _ ← keywords? ["WITH", "NO", "SCHEMA", "BINDING"]
  pure (some query)

/-! ### Indexes and schemas -/

/-- Creates an index, after its keyword. It may be without a name. -/
def createIndex : Reader Unit := do
  let _ ← keyword? "CONCURRENTLY"
  let named ← keywords? ["IF", "NOT", "EXISTS"]
  unless ← onlyIf (!named) (keyword? "ON") do
    let _ ← path r.dialect
    keyword "ON"
  let _ ← path r.dialect
  let _ ← afterKeyword "USING" name
  let _ ← parenthesized (commaSeparated r.dialect (orderItem r))
  let _ ← afterKeyword "INCLUDE" (names r.dialect)
  if ← keyword? "NULLS" then
    let _ ← keyword? "NOT"
    keyword "DISTINCT"
  if r.dialect.isAnyOf [.generic, .postgres] then
    let _ ← afterKeyword "WITH" (parenthesized r.expressions)
  let _ ← afterKeyword "WHERE" r.expression

/-- Creates a schema, after its keyword. It may be named by its owner. -/
def createSchema : Reader Unit := do
  let _ ← keywords? ["IF", "NOT", "EXISTS"]
  unless (← peekKeyword) == "AUTHORIZATION" do
    let _ ← path r.dialect
  let _ ← afterKeyword "AUTHORIZATION" name

/-- Creates a database, after its keyword. -/
def createDatabase : Reader Unit := do
  let _ ← keywords? ["IF", "NOT", "EXISTS"]
  let _ ← path r.dialect
  repeated do
    if ← firstOf (keyword? "LOCATION") (keyword? "MANAGEDLOCATION") then
      let _ ← stringValue r.dialect
      pure true
    else pure false

/-- Creates what holds no rows of its own, after `CREATE`. -/
def createOther : Reader Unit := do
  if ← firstOf (keyword? "INDEX") (keywords? ["UNIQUE", "INDEX"]) then createIndex r
  else if ← keyword? "SCHEMA" then createSchema r
  else
    keyword "DATABASE"
    createDatabase r

/-! ### All of them -/

/-- The start of a statement that creates a table in Snowflake, after `CREATE`. Where it starts otherwise,
the words that only such a statement may start with have no other reading. -/
def startsSnowflakeTable : Reader Bool := do
  let start ← get
  let _ ← keywords? ["OR", "REPLACE"]
  let scope ← oneOf? ["LOCAL", "GLOBAL"]
  let lifetime ← oneOf? ["TEMP", "TEMPORARY", "VOLATILE", "TRANSIENT"]
  if ← keyword? "TABLE" then pure true
  else if scope.isSome || ["VOLATILE", "TRANSIENT"].contains (lifetime.getD "") then unexpected
  else
    set start
    pure false

/-- Creates a table, a view or the like, after `CREATE`. Only tables and views may replace others. -/
def create : Reader (Option Query) := do
  if ← onlyIf (r.dialect = .snowflake) startsSnowflakeTable then createSnowflakeTable r
  else
    let replaces ← keywords? ["OR", "REPLACE"]
    let _ ← keywords? ["OR", "ALTER"]
    let _ ← keyword? "LOCAL"
    let _ ← keyword? "GLOBAL"
    let _ ← keyword? "TRANSIENT"
    let _ ← oneOf? ["TEMP", "TEMPORARY"]
    let _ ← onlyIf (r.dialect = .duckdb) (keyword? "PERSISTENT")
    if ← keyword? "TABLE" then createTable r
    else if ← keyword? "MATERIALIZED" then
      keyword "VIEW"
      createView r
    else if ← keyword? "VIEW" then createView r
    else if replaces then unexpected
    else
      createOther r
      pure none

end

end SqlLineage.Sql.Grammar
