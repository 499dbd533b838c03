/-
Module: SqlLineage.Sql.Grammar.Alter
Purpose: The statements that alter a table, a view or an index. They pass no rows on and are only recognized.
Main exports: alteration, alter
-/
import SqlLineage.Sql.Grammar.Column
import SqlLineage.Sql.Grammar.Query

namespace SqlLineage.Sql.Grammar

section

variable (r : Rules)

/-! ### Columns of a table -/

/-- Where a column is put, if that is said. -/
def columnPlace : Reader Unit := do
  if r.dialect.isAnyOf [.generic, .mysql] then
    unless ← keyword? "FIRST" do
      let _ ← afterKeyword "AFTER" name

/-- A column as it will be, after its old name: its type, its properties and its place. -/
def columnRevision : Reader Unit := do
  let _ ← dataType r.dialect
  repeated (columnProperty? r)
  columnPlace r

/-- What is changed of a column, after its name. -/
def columnChange : Reader Unit := do
  if ← firstOf (keywords? ["SET", "NOT", "NULL"]) (keywords? ["DROP", "NOT", "NULL"]) then pure ()
  else if ← keywords? ["SET", "DEFAULT"] then
    let _ ← r.expression
  else if ← keywords? ["DROP", "DEFAULT"] then pure ()
  else
    unless ← keywords? ["SET", "DATA", "TYPE"] do
      if r.dialect = .postgres then keyword "TYPE" else unexpected
    let _ ← dataType r.dialect
    if r.dialect = .postgres then
      let _ ← afterKeyword "USING" r.expression

/-! ### Tables -/

/-- A name and the one that takes its place. -/
def replacedName : Reader Unit := do
  let _ ← name
  keyword "TO"
  let _ ← name

/-- What is added to a table, after `ADD`. -/
def addition : Reader Unit := do
  unless ← tableConstraint? r do
    let _ ← keywords? ["IF", "NOT", "EXISTS"]
    let _ ← keyword? "COLUMN"
    if r.dialect.isAnyOf [.bigquery, .duckdb, .generic, .postgres] then
      let _ ← keywords? ["IF", "NOT", "EXISTS"]
    columnDefinition r
    columnPlace r

/-- What is removed from a table, after `DROP`. -/
def removal : Reader Unit := do
  unless ← onlyIf (r.dialect.isAnyOf [.generic, .mysql]) (keywords? ["PRIMARY", "KEY"]) do
    unless ← keyword? "CONSTRAINT" do
      let _ ← keyword? "COLUMN"
    let _ ← keywords? ["IF", "EXISTS"]
    let _ ← name
    let _ ← oneOf? ["CASCADE", "RESTRICT"]

/-- What is given another name, after `RENAME`. -/
def nameChange : Reader Unit := do
  if ← keyword? "TO" then
    let _ ← path r.dialect
  else
    unless ← onlyIf (r.dialect = .postgres) (keyword? "CONSTRAINT") do
      let _ ← keyword? "COLUMN"
    replacedName

/-- One of the things that are done to a table. -/
def alteration : Reader Unit := do
  match ← oneOf ["ADD", "RENAME", "DROP", "CHANGE", "MODIFY", "ALTER", "SWAP", "OWNER"] with
  | "ADD" => addition r
  | "RENAME" => nameChange r
  | "DROP" => removal r
  | "CHANGE" =>
    let _ ← keyword? "COLUMN"
    let _ ← name
    let _ ← name
    columnRevision r
  | "MODIFY" =>
    let _ ← keyword? "COLUMN"
    let _ ← name
    columnRevision r
  | "ALTER" =>
    let _ ← keyword? "COLUMN"
    let _ ← name
    columnChange r
  | "SWAP" =>
    keyword "WITH"
    let _ ← path r.dialect
  | _ =>
    unless r.dialect.isAnyOf [.generic, .postgres] do unexpected
    keyword "TO"
    let _ ← name

/-- Alters a table, after its keyword. -/
def alterTable : Reader Unit := do
  let _ ← keywords? ["IF", "EXISTS"]
  let _ ← keyword? "ONLY"
  let _ ← path r.dialect
  if ← keywords? ["ON", "CLUSTER"] then
    let _ ← name
  let _ ← commaSeparated r.dialect (alteration r)
  if ← firstOf (keyword? "LOCATION") (keywords? ["SET", "LOCATION"]) then
    let _ ← name

/-! ### All of them -/

/-- Gives a view another query, after its keyword. -/
def alterView : Reader Unit := do
  let _ ← path r.dialect
  columnList? r.dialect
  optionsAfter r "WITH"
  keyword "AS"
  let _ ← r.query

/-- Alters a table, a view or an index, after `ALTER`. -/
def alter : Reader Unit := do
  match ← oneOf ["TABLE", "VIEW", "INDEX"] with
  | "TABLE" => alterTable r
  | "VIEW" => alterView r
  | _ =>
    let _ ← path r.dialect
    keywords ["RENAME", "TO"]
    let _ ← path r.dialect

end

end SqlLineage.Sql.Grammar
