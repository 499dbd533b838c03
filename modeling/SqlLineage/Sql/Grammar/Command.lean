/-
Module: SqlLineage.Sql.Grammar.Command
Purpose: The statements that pass no rows on from a query: those that change or remove rows, those that alter or
  remove tables and the like, and those about transactions and the session. A script may hold them among
  others, and lineage asks nothing of them, so that they are only recognized.
Main exports: command?
-/
import SqlLineage.Sql.Grammar.Alter
import SqlLineage.Text.Ascii

namespace SqlLineage.Sql.Grammar

section

variable (r : Rules)

/-- Names of tables and the like. -/
def paths : Reader Unit := do
  let _ ← commaSeparated r.dialect (path r.dialect)

/-! ### Rows -/

/-- Removes rows, after its keyword. -/
def delete : Reader Unit := do
  unless ← keyword? "FROM" do
    unless r.dialect.isAnyOf [.bigquery, .generic] do
      paths r
      keyword "FROM"
  let _ ← commaSeparated r.dialect r.joinedTables
  let _ ← afterKeyword "USING" (commaSeparated r.dialect r.joinedTables)
  let _ ← whereClause r
  let _ ← returning r
  if ← keywords? ["ORDER", "BY"] then
    let _ ← commaSeparated r.dialect (orderItem r)
  if ← keyword? "LIMIT" then
    unless ← keyword? "ALL" do
      let _ ← r.expression

/-- What is done with the rows that match, or with those that do not, if more comes next. -/
def mergeClause? : Reader Bool := do
  if (← peek).isNone || (← peekSymbol ";") then pure false
  else
    keyword "WHEN"
    let unmatched ← keyword? "NOT"
    keyword "MATCHED"
    let ofSource ← onlyIf unmatched (keywords? ["BY", "SOURCE"])
    let _ ← onlyIf (unmatched && !ofSource) (keywords? ["BY", "TARGET"])
    let _ ← afterKeyword "AND" r.expression
    keyword "THEN"
    if unmatched && !ofSource then
      keyword "INSERT"
      let _ ← columnNames? r (r.dialect = .mysql)
      unless ← onlyIf (r.dialect.isAnyOf [.bigquery, .generic]) (keyword? "ROW") do
        keyword "VALUES"
        let _ ← valueRows r
    else unless ← keyword? "DELETE" do
      keywords ["UPDATE", "SET"]
      let _ ← assignments r
    pure true

/-- Brings the rows of a table in line with other rows, after its keyword. -/
def merge : Reader Unit := do
  let _ ← keyword? "INTO"
  let _ ← tableFactor r
  keyword "USING"
  let _ ← tableFactor r
  keyword "ON"
  let _ ← r.expression
  repeated (mergeClause? r)

/-- Removes all rows, after its keyword. -/
def truncate : Reader Unit := do
  let _ ← keyword? "TABLE"
  let _ ← keyword? "ONLY"
  paths r
  let _ ← afterKeyword "PARTITION" (parenthesized r.expressions)
  if r.dialect.isAnyOf [.generic, .postgres] then
    let _ ← firstOf (keywords? ["RESTART", "IDENTITY"]) (keywords? ["CONTINUE", "IDENTITY"])
    let _ ← oneOf? ["CASCADE", "RESTRICT"]
  if ← keywords? ["ON", "CLUSTER"] then
    let _ ← name

/-! ### Tables and the like -/

/-- What is removed by its name alone. -/
def droppable : List String :=
  ["TABLE", "VIEW", "INDEX", "ROLE", "SCHEMA", "DATABASE", "SEQUENCE", "STAGE", "TYPE"]

/-- Removes tables and the like, after its keyword. -/
def drop : Reader Unit := do
  let _ ← onlyIf (r.dialect.isAnyOf [.duckdb, .generic, .mysql]) (keyword? "TEMPORARY")
  let _ ← onlyIf (r.dialect = .duckdb) (keyword? "PERSISTENT")
  let kind ← oneOf droppable
  let _ ← keywords? ["IF", "EXISTS"]
  paths r
  let cascades ← keyword? "CASCADE"
  let restricts ← keyword? "RESTRICT"
  let purges ← keyword? "PURGE"
  if cascades && restricts || kind == "ROLE" && (cascades || restricts || purges) then unexpected

/-! ### Transactions -/

/-- A property of a transaction, if one comes next. -/
def transactionMode? : Reader Bool := do
  if ← keywords? ["ISOLATION", "LEVEL"] then
    if ← keyword? "READ" then
      let _ ← oneOf ["UNCOMMITTED", "COMMITTED"]
    else unless ← keywords? ["REPEATABLE", "READ"] do
      let _ ← oneOf ["SERIALIZABLE", "SNAPSHOT"]
    pure true
  else firstOf (keywords? ["READ", "ONLY"]) (keywords? ["READ", "WRITE"])

/-- The properties of a transaction. There may be a comma behind each but the last. -/
def transactionModes : Reader Unit := do
  let _ ← iterate (fun expected => do
    if ← transactionMode? then return some (← symbol? ",")
    else if expected then unexpected
    else pure none) false

/-- The end of a transaction, after its keyword, and whether another one follows. -/
def transactionEnd : Reader Unit := do
  let _ ← oneOf? ["TRANSACTION", "WORK"]
  if ← keyword? "AND" then
    let _ ← keyword? "NO"
    keyword "CHAIN"

/-- Whether the words for kinds of a transaction may stand behind `BEGIN`. -/
def knowsTransactionKinds : Bool := r.dialect.isAnyOf [.generic, .mssql, .sqlite]

/-- Starts a transaction, after `BEGIN`. -/
def begin : Reader Unit := do
  if knowsTransactionKinds r then
    let _ ← oneOf? ["DEFERRED", "IMMEDIATE", "EXCLUSIVE", "TRY", "CATCH"]
  let _ ← oneOf? ["TRANSACTION", "WORK"]
  transactionModes

/-- Gives a transaction up, or what it did since a point in it, after its keyword. -/
def rollback : Reader Unit := do
  transactionEnd
  if ← keyword? "TO" then
    let _ ← keyword? "SAVEPOINT"
    let _ ← name

/-! ### The session -/

/-- Chooses a database or the like, after its keyword. -/
def use : Reader Unit := do
  unless ← onlyIf (r.dialect = .hive) (keyword? "DEFAULT") do
    if r.dialect = .databricks then
      let _ ← oneOf? ["CATALOG", "DATABASE", "SCHEMA"]
    else if r.dialect = .snowflake then
      let _ ← oneOf? ["DATABASE", "SCHEMA", "WAREHOUSE", "ROLE"]
    let _ ← path r.dialect

/-- The variable that is set, in capitals; some have a meaning of their own. -/
def sessionVariable : Reader String := do
  if ← keywords? ["TIME", "ZONE"] then pure "TIMEZONE"
  else return Text.upper (renderPath (← path r.dialect))

/-- Sets a variable of the session, after its keyword and its scope. -/
def assignVariable : Reader Unit := do
  let target ← sessionVariable r
  if target == "NAMES" && r.dialect.isAnyOf [.generic, .mysql] then
    unless ← keyword? "DEFAULT" do
      let _ ← stringValue r.dialect
      let _ ← afterKeyword "COLLATE" (stringValue r.dialect)
  else if ← firstOf (symbol? "=") (keyword? "TO") then
    let _ ← commaSeparatedUntil (pure false) r.expression
  else
    match target with
    | "TIMEZONE" => let _ ← r.expression
    | "CHARACTERISTICS" =>
      keywords ["AS", "TRANSACTION"]
      transactionModes
    | "TRANSACTION" =>
      if (← afterKeyword "SNAPSHOT" (literal r.dialect)).isNone then transactionModes
    | _ => unexpected

/-- Sets a variable of the session or the role in it, after its keyword. -/
def assign : Reader Unit := do
  let scope ← oneOf? ["SESSION", "LOCAL", "HIVEVAR"]
  if scope == some "HIVEVAR" then
    symbol ":"
    assignVariable r
  else
    let role : Reader Ident := do
      keyword "ROLE"
      name
    if (← attempt role).isNone then assignVariable r

/-- Calls a procedure, after its keyword. -/
def callProcedure : Reader Unit := do
  let procedure ← path r.dialect
  if ← peekSymbol "(" then
    let _ ← call r procedure

/-- Ends a connection or what runs on it, after its keyword. -/
def kill : Reader Unit := do
  match ← oneOf? ["CONNECTION", "QUERY", "MUTATION"] with
  | some "MUTATION" => unless r.dialect.clickhouseClauses do unexpected
  | _ => pure ()
  let _ ← natural

/-! ### All of them -/

/-- Reads a statement that starts with this keyword, after it, if it is one that passes no rows on. -/
def command? (word : String) : Reader Bool := do
  match word with
  | "DELETE" => delete r
  | "UPDATE" => let _ ← updateBody r
  | "REPLACE" =>
    if r.dialect.isAnyOf [.generic, .mysql, .sqlite] then let _ ← insertBody r
    else unexpected
  | "MERGE" => merge r
  | "TRUNCATE" => truncate r
  | "DROP" => drop r
  | "ALTER" => alter r
  | "START" =>
    keyword "TRANSACTION"
    transactionModes
  | "BEGIN" => begin r
  | "COMMIT" => transactionEnd
  | "END" =>
    if r.dialect.isAnyOf [.generic, .mssql] then
      let _ ← oneOf? ["TRY", "CATCH"]
    transactionEnd
  | "ROLLBACK" => rollback
  | "SAVEPOINT" => let _ ← name
  | "RELEASE" =>
    let _ ← keyword? "SAVEPOINT"
    let _ ← name
  | "USE" => use r
  | "SET" => assign r
  | "CALL" => callProcedure r
  | "ASSERT" =>
    let _ ← r.expression
    let _ ← afterKeyword "AS" r.expression
  | "CLOSE" =>
    unless ← keyword? "ALL" do
      let _ ← name
  | "DISCARD" => let _ ← oneOf ["ALL", "PLANS", "SEQUENCES", "TEMP", "TEMPORARY"]
  | "DEALLOCATE" =>
    let _ ← keyword? "PREPARE"
    let _ ← name
  | "KILL" => kill r
  | _ => return false
  pure true

end

end SqlLineage.Sql.Grammar
