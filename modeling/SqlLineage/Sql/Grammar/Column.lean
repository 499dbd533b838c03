/-
Module: SqlLineage.Sql.Grammar.Column
Purpose: The columns that a statement creates: their types and their properties, and the options in
  parentheses that columns, tables and views have in common. All of them are only recognized.
Main exports: options, optionsAfter, tags, columnProperty?, columnDefinition, tableElements
-/
import SqlLineage.Sql.Grammar.Constraint
import SqlLineage.Sql.Grammar.Window

namespace SqlLineage.Sql.Grammar

section

variable (r : Rules)

/-! ### Options -/

/-- How the rows of a table are clustered, after `CLUSTERED`. -/
def clustering : Reader Unit := do
  if ← keywords? ["COLUMNSTORE", "INDEX"] then
    if ← keyword? "ORDER" then columnList r.dialect
  else
    keyword "INDEX"
    let _ ← parenthesized <| commaSeparated r.dialect do
      let _ ← name
      let _ ← oneOf? ["ASC", "DESC"]

/-- The ranges that the rows of a table are divided into, after `PARTITION`. -/
def partitioning : Reader Unit :=
  parenthesized do
    let _ ← name
    keyword "RANGE"
    let _ ← oneOf? ["LEFT", "RIGHT"]
    keywords ["FOR", "VALUES"]
    let _ ← parenthesized r.expressions

/-- An option and its value. -/
def option : Reader Unit := do
  let known ← (do
    if r.dialect.isAnyOf [.generic, .mssql] then oneOf? ["HEAP", "PARTITION", "CLUSTERED"]
    else pure none)
  match known with
  | some "HEAP" => pure ()
  | some "PARTITION" => partitioning r
  | some _ => clustering r
  | none =>
    let _ ← name
    symbol "="
    let _ ← r.expression

/-- Options in parentheses; there may be none. -/
def options : Reader Unit :=
  parenthesized do
    let _ ← commaSeparatedOrNone r.dialect ")" (option r)

/-- Options in parentheses after the keyword, if that comes next. -/
def optionsAfter (word : String) : Reader Unit := do
  if ← keyword? word then options r

/-- A name and the string that it stands for. -/
def tag (dialect : Dialect) : Reader Unit := do
  let _ ← name
  symbol "="
  let _ ← stringValue dialect

/-- Names and the strings that they stand for, in parentheses. -/
def tags (dialect : Dialect) : Reader Unit := do
  let _ ← parenthesized (commaSeparated dialect (tag dialect))

/-! ### Numbers that are given in order -/

/-- A number to start with and a step, in parentheses, after the opening one. -/
def startAndStep : Reader Unit := do
  let _ ← signedNumber r.dialect
  symbol ","
  let _ ← signedNumber r.dialect
  symbol ")"

/-- A number after this word and, perhaps, one of the others. -/
def sequenceNumber (word : String) (fillers : List String) : Reader Bool := do
  if ← keyword? word then
    let _ ← oneOf? fillers
    let _ ← signedNumber r.dialect
    pure true
  else pure false

/-- A bound of a sequence. -/
def sequenceBound (word : String) : Reader Bool :=
  firstOf (sequenceNumber r word []) (keywords? ["NO", word])

/-- The options of a sequence of numbers, in their order. -/
def sequenceOptions : Reader Unit := do
  let _ ← sequenceNumber r "INCREMENT" ["BY"]
  let _ ← sequenceBound r "MINVALUE"
  let _ ← sequenceBound r "MAXVALUE"
  let _ ← sequenceNumber r "START" ["WITH"]
  let _ ← sequenceNumber r "CACHE" []
  let _ ← firstOf (keywords? ["NO", "CYCLE"]) (keyword? "CYCLE")

/-! ### Computed columns -/

/-- A value that is computed from other columns, after the opening parenthesis. Where it has to be stored,
the statement says so. -/
def computed (mustBeStored : Bool) : Reader Unit := do
  let _ ← r.expression
  symbol ")"
  if mustBeStored then keyword "STORED"
  else
    let _ ← oneOf? ["STORED", "VIRTUAL"]

/-- How the values of a column are generated, after `GENERATED`. -/
def generated : Reader Bool := do
  if ← firstOf (keywords? ["ALWAYS", "AS", "IDENTITY"])
      (keywords? ["BY", "DEFAULT", "AS", "IDENTITY"]) then
    if ← symbol? "(" then
      sequenceOptions r
      symbol ")"
    pure true
  else if ← keywords? ["ALWAYS", "AS"] then
    if ← symbol? "(" then
      computed r (r.dialect = .postgres)
      pure true
    else pure false
  else pure false

/-! ### Properties of columns -/

/-- A property of a column by which numbers are given or access is ruled, in Snowflake. Once its first word
is there, the rest has to follow. -/
def ruledColumn : Reader Bool := do
  let policy : Reader Unit := do
    let _ ← name
    if ← keyword? "USING" then columnList r.dialect
  let found ← attempt do
    let _ ← keyword? "WITH"
    if (← oneOf? ["IDENTITY", "AUTOINCREMENT"]).isSome then pure "IDENTITY"
    else if ← keyword? "TAG" then pure "TAG"
    else
      let _ ← oneOf ["MASKING", "PROJECTION"]
      keyword "POLICY"
      pure "POLICY"
  match found with
  | some "IDENTITY" =>
    if ← symbol? "(" then startAndStep r
    else if ← keyword? "START" then
      let _ ← signedNumber r.dialect
      keyword "INCREMENT"
      let _ ← signedNumber r.dialect
    let _ ← oneOf? ["ORDER", "NOORDER"]
    pure true
  | some "TAG" =>
    tags r.dialect
    pure true
  | some _ =>
    policy
    pure true
  | none => pure false

/-- A property of a column that starts with the word which was taken. -/
def propertyAfter (word : String) : Reader Bool := do
  match word with
  | "COMMENT" =>
    let _ ← singleQuoted
    pure true
  | "NULL" => pure true
  | "DEFAULT" =>
    let _ ← r.expression
    pure true
  | "UNIQUE" =>
    characteristics
    pure true
  | "REFERENCES" =>
    references r.dialect
    pure true
  | "CHECK" =>
    check r
    pure true
  | _ => pure false

/-- A property of a column that few dialects know. Some of them take their words in any dialect, so that
what follows those words is looked at next. -/
def rareProperty? : Reader Bool := do
  let isOneOf := fun (dialects : List Dialect) => pure (r.dialect.isAnyOf dialects)
  if (← keyword? "AUTO_INCREMENT") && (← isOneOf [.generic, .mysql]) then pure true
  else if (← keyword? "AUTOINCREMENT") && (← isOneOf [.generic, .sqlite]) then pure true
  else if (← keyword? "ASC") && (← isOneOf [.generic, .sqlite]) then pure true
  else if (← keyword? "DESC") && (← isOneOf [.generic, .sqlite]) then pure true
  else if (← keywords? ["ON", "UPDATE"]) && (← isOneOf [.generic, .mysql]) then
    let _ ← r.expression
    pure true
  else if ← keyword? "GENERATED" then generated r
  else if ← onlyIf (r.dialect.isAnyOf [.bigquery, .generic]) (keyword? "OPTIONS") then
    options r
    pure true
  else if (← keyword? "AS") && (← isOneOf [.duckdb, .generic, .mysql, .sqlite]) then
    symbol "("
    computed r false
    pure true
  else if (← keyword? "IDENTITY") && (← isOneOf [.generic, .mssql]) then
    if ← symbol? "(" then startAndStep r
    pure true
  else if ← onlyIf (r.dialect.isAnyOf [.generic, .sqlite]) (keywords? ["ON", "CONFLICT"]) then
    let _ ← oneOf ["ROLLBACK", "ABORT", "FAIL", "IGNORE", "REPLACE"]
    pure true
  else pure false

/-- A property of a column. -/
def columnProperty? : Reader Bool := do
  if ← onlyIf (r.dialect = .snowflake) (ruledColumn r) then pure true
  else if ← keywords? ["CHARACTER", "SET"] then
    let _ ← path r.dialect
    pure true
  else if ← keywords? ["NOT", "NULL"] then pure true
  else
    match ← oneOf? ["COMMENT", "NULL", "DEFAULT", "UNIQUE", "REFERENCES", "CHECK"] with
    | some word => propertyAfter r word
    | none =>
      if ← keywords? ["PRIMARY", "KEY"] then
        characteristics
        pure true
      else if ← onlyIf r.dialect.clickhouseClauses (keyword? "EPHEMERAL") then
        unless (← peekSymbol ",") || (← peekSymbol ")") do
          let _ ← r.expression
        pure true
      else if ← onlyIf r.dialect.clickhouseClauses
          (firstOf (keyword? "MATERIALIZED") (keyword? "ALIAS")) then
        let _ ← r.expression
        pure true
      else rareProperty? r

/-- A property of a column, which may have a name. -/
def namedProperty? : Reader Bool := do
  if ← keyword? "CONSTRAINT" then
    let _ ← name
    if ← columnProperty? r then pure true else unexpected
  else if ← columnProperty? r then pure true
  else if ← onlyIf (r.dialect.isAnyOf [.generic, .mysql, .snowflake]) (keyword? "COLLATE") then
    let _ ← path r.dialect
    pure true
  else pure false

/-! ### Columns -/

/-- The words that follow a column without a type. -/
def endsUntyped : List String := [
  "CONSTRAINT", "PRIMARY", "NOT", "UNIQUE", "CHECK", "DEFAULT", "COLLATE", "REFERENCES", "GENERATED",
  "AS"]

/-- Whether a column has no type, as the dialect may allow. -/
def isUntyped : Reader Bool := do
  if r.dialect = .sqlite then
    match ← peek with
    | some (.word _ keyword _) => pure (endsUntyped.contains keyword)
    | _ => pure true
  else pure false

/-- A column: its name, its type and its properties. -/
def columnDefinition : Reader Unit := do
  let _ ← name
  unless ← isUntyped r do
    let _ ← dataType r.dialect
  if ← keyword? "COLLATE" then
    let _ ← path r.dialect
  repeated (namedProperty? r)

/-- A column of a table or a constraint on its rows. -/
def tableElement : Reader Unit := do
  unless ← tableConstraint? r do
    match ← peek with
    | some (.word _ _ _) => columnDefinition r
    | _ => unexpected

/-- The columns of a table and the constraints on its rows, if they are given. The list may end with a comma
only where any list may. -/
def tableElements : Reader Unit := do
  if ← symbol? "(" then
    unless ← symbol? ")" do
      let _ ← commaSeparatedUntil (onlyIf r.dialect.trailingCommas (peekSymbol ")")) (tableElement r)
      symbol ")"

end

end SqlLineage.Sql.Grammar
