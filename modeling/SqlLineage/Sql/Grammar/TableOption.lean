/-
Module: SqlLineage.Sql.Grammar.TableOption
Purpose: What may stand between the columns of a table that is created and the query it is filled from: how
  its rows are stored, divided and ordered. All of it is only recognized.
Main exports: storage, onCommit, comment, tableOptions, snowflakeOption?
-/
import SqlLineage.Sql.Grammar.Column
import SqlLineage.Sql.Grammar.Write

namespace SqlLineage.Sql.Grammar

section

variable (r : Rules)

/-! ### Files of rows -/

/-- What ends a field, an element or a line in a file of rows. A word that does not lead to one has no
effect and ends the list. -/
def delimiter? : Reader Bool := do
  let ending := fun (words : List String) => do
    if ← keywords? words then
      let _ ← name
      pure true
    else pure false
  match ← oneOf? ["FIELDS", "COLLECTION", "MAP", "LINES", "NULL"] with
  | some "FIELDS" =>
    let found ← ending ["TERMINATED", "BY"]
    let _ ← onlyIf found (ending ["ESCAPED", "BY"])
    pure found
  | some "COLLECTION" => ending ["ITEMS", "TERMINATED", "BY"]
  | some "MAP" => ending ["KEYS", "TERMINATED", "BY"]
  | some "LINES" => ending ["TERMINATED", "BY"]
  | some _ => ending ["DEFINED", "AS"]
  | none => pure false

/-- How rows are written to files, after `ROW`. -/
def rowFormat : Reader Unit := do
  keyword "FORMAT"
  if ← keyword? "SERDE" then
    let _ ← stringValue r.dialect
  else
    let _ ← keyword? "DELIMITED"
    repeated delimiter?

/-- How and where rows are stored. -/
def storage? : Reader Bool := do
  if ← keyword? "ROW" then
    rowFormat r
    pure true
  else if ← keyword? "STORED" then
    keyword "AS"
    if ← keyword? "INPUTFORMAT" then
      let _ ← r.expression
      keyword "OUTPUTFORMAT"
      let _ ← r.expression
    else
      let _ ← oneOf fileFormats
    pure true
  else if ← keyword? "LOCATION" then
    let _ ← stringValue r.dialect
    pure true
  else if ← keywords? ["WITH", "SERDEPROPERTIES"] then
    let _ ← parenthesized (commaSeparated r.dialect (option r))
    pure true
  else pure false

/-- The columns by which rows are kept in different places. -/
def partitionColumns : Reader Unit := do
  if ← keywords? ["PARTITIONED", "BY"] then
    let _ ← parenthesized (commaSeparated r.dialect (columnDefinition r))

/-- The buckets that rows are put into. -/
def buckets : Reader Unit := do
  if ← onlyIf (r.dialect.isAnyOf [.generic, .hive]) (keywords? ["CLUSTERED", "BY"]) then
    columnList r.dialect
    if ← keywords? ["SORTED", "BY"] then
      let _ ← parenthesized (orderItems r)
    keyword "INTO"
    let _ ← numeric r.dialect
    keyword "BUCKETS"

/-! ### Single options -/

/-- A word after an equality sign. -/
def assignedWord : Reader Unit := do
  symbol "="
  match ← next with
  | .word _ _ _ => pure ()
  | _ => unexpected

/-- A comment, after its keyword. -/
def comment : Reader Unit := do
  let _ ← symbol? "="
  let _ ← singleQuoted

/-- What happens to the rows of a temporary table when a transaction ends, after `COMMIT`. -/
def onCommit : Reader Unit := do
  let effects : List (List String) := [["DELETE", "ROWS"], ["PRESERVE", "ROWS"], ["DROP"]]
  match ← effects.findM? keywords? with
  | some _ => pure ()
  | none => unexpected

/-- The keys that rows are ordered by: one, or a list in parentheses, which may be empty. -/
def sortKeys : Reader Unit := do
  if ← symbol? "(" then
    let _ ← r.expressionsBefore ")"
    symbol ")"
  else
    let _ ← r.expression

/-- The engine that stores a table. -/
def engine : Reader Unit := do
  if ← keyword? "ENGINE" then
    assignedWord
    columnList? r.dialect

/-- The first number that is given by itself. -/
def firstNumber : Reader Unit := do
  if ← keyword? "AUTO_INCREMENT" then
    let _ ← symbol? "="
    if (← natural) ≥ Nat.pow 2 32 then unexpected

/-- How a table is divided and clustered. -/
def division : Reader Unit := do
  if ← onlyIf (r.dialect.isAnyOf [.bigquery, .generic, .postgres])
      (keywords? ["PARTITION", "BY"]) then
    let _ ← r.expression
  if r.dialect.isAnyOf [.bigquery, .generic] then
    if ← keywords? ["CLUSTER", "BY"] then
      let _ ← commaSeparated r.dialect name
    optionsAfter r "OPTIONS"

/-! ### All options -/

/-- The options of a table, in their order, before the query that it is filled from. -/
def tableOptions : Reader Unit := do
  if ← onlyIf (r.dialect = .hive) (keyword? "COMMENT") then
    let _ ← singleQuoted
  let _ ← keywords? ["WITHOUT", "ROWID"]
  partitionColumns r
  buckets r
  repeated (storage? r)
  optionsAfter r "WITH"
  optionsAfter r "TBLPROPERTIES"
  engine r
  firstNumber
  if ← onlyIf r.dialect.clickhouseClauses (keywords? ["PRIMARY", "KEY"]) then
    let _ ← r.expression
  if ← keywords? ["ORDER", "BY"] then sortKeys r
  division r
  if ← keywords? ["DEFAULT", "CHARSET"] then assignedWord
  if ← keyword? "COLLATE" then assignedWord
  if ← keywords? ["ON", "COMMIT"] then onCommit
  let _ ← keyword? "STRICT"
  if ← onlyIf (r.dialect ≠ .hive) (keyword? "COMMENT") then comment

/-- An option of a table in Snowflake, where options stand in any order. -/
def snowflakeOption? : Reader Bool := do
  match ← peekKeyword with
  | "COPY" =>
    keywords ["COPY", "GRANTS"]
    pure true
  | "COMMENT" =>
    skip 1
    comment
    pure true
  | "CLUSTER" =>
    keywords ["CLUSTER", "BY"]
    columnList r.dialect
    pure true
  | "ENABLE_SCHEMA_EVOLUTION" | "CHANGE_TRACKING" =>
    skip 1
    symbol "="
    let _ ← oneOf ["TRUE", "FALSE"]
    pure true
  | "DATA_RETENTION_TIME_IN_DAYS" | "MAX_DATA_EXTENSION_TIME_IN_DAYS" =>
    skip 1
    symbol "="
    let _ ← natural
    pure true
  | "DEFAULT_DDL_COLLATION" =>
    skip 1
    symbol "="
    let _ ← stringValue r.dialect
    pure true
  | "WITH" =>
    skip 1
    if ["AGGREGATION", "TAG", "ROW"].contains (← peekKeyword) then pure true else unexpected
  | "AGGREGATION" =>
    keywords ["AGGREGATION", "POLICY"]
    let _ ← path r.dialect
    pure true
  | "ROW" =>
    keywords ["ROW", "ACCESS", "POLICY"]
    let _ ← path r.dialect
    keyword "ON"
    columnList r.dialect
    pure true
  | "TAG" =>
    skip 1
    tags r.dialect
    pure true
  | "ON" =>
    keywords ["ON", "COMMIT"]
    onCommit
    pure true
  | _ =>
    if ← peekSymbol "(" then
      tableElements r
      pure true
    else pure false

end

end SqlLineage.Sql.Grammar
