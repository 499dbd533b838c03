/-
Module: SqlLineage.Sql.Grammar.SelectList
Purpose: The columns that a query gives: expressions with other names, and asterisks with what changes the
  columns that they stand for.
Main exports: selectItem, selectItems
-/
import SqlLineage.Sql.Grammar.Call

namespace SqlLineage.Sql.Grammar

section

variable (r : Rules)

/-! ### Asterisks -/

/-- A column with a new name. -/
def renamed : Reader String := do
  let column ← name
  keyword "AS"
  return column.render ++ " AS " ++ (← name).render

/-- A column in place of one of its name. -/
def replaced : Reader String := do
  let value ← r.expression
  let word := if ← keyword? "AS" then " AS " else " "
  return value.render ++ word ++ (← name).render

/-- One name, or names in parentheses. -/
def oneOrMore (word : String) (read : Reader String) : Reader String := do
  if ← symbol? "(" then
    let found ← commaSeparated r.dialect read
    symbol ")"
    pure (" " ++ word ++ " (" ++ commas found ++ ")")
  else return " " ++ word ++ " " ++ (← read)

/-- What changes the columns that an asterisk stands for. -/
def wildcardOptions : Reader String := do
  let ident : Reader String := return (← name).render
  let liked ← (do
    if ← onlyIf (r.dialect.isAnyOf [.generic, .snowflake]) (keyword? "ILIKE") then
      return " ILIKE " ++ inQuotes '\x27' (← singleQuoted)
    else pure "")
  let excluded ← (do
    if ← onlyIf (liked.isEmpty && r.dialect.isAnyOf [.duckdb, .generic, .snowflake])
        (keyword? "EXCLUDE") then
      oneOrMore r "EXCLUDE" ident
    else pure "")
  let excepted ← (do
    if ← onlyIf r.dialect.wildcardExcept (keyword? "EXCEPT") then
      if ← peekSymbol "(" then return " EXCEPT (" ++ renderNames (← names r.dialect) ++ ")"
      else return " EXCEPT (" ++ (← ident) ++ ")"
    else pure "")
  let replacing ← (do
    if ← onlyIf (r.dialect.isAnyOf [.bigquery, .clickhouse, .duckdb, .generic, .snowflake])
        (keyword? "REPLACE") then
      let found ← parenthesized (commaSeparated r.dialect (replaced r))
      pure (" REPLACE (" ++ commas found ++ ")")
    else pure "")
  let changed ← (do
    if ← onlyIf (r.dialect.isAnyOf [.generic, .snowflake]) (keyword? "RENAME") then
      oneOrMore r "RENAME" renamed
    else pure "")
  pure (liked ++ excluded ++ excepted ++ replacing ++ changed)

/-! ### Columns -/

/-- Whether a word with this keyword, which comes next, names the column before it in a dialect where most
words may. Words that may go on with the query do so if something follows them. -/
def namesColumnFreely (keyword : String) : Reader Bool := do
  if ["EXCEPT", "LIMIT", "OFFSET", "RETURNING"].contains keyword then
    match ← peekAt 1 with
    | none | some (.symbol ",") => pure true
    | some _ => pure false
  else if keyword = "FETCH" then return !(["FIRST", "NEXT"].contains (← peekKeywordAt 1))
  else pure (!neverColumnAlias.contains keyword)

/-- The other name of a column. -/
def columnAlias : Reader (Option Ident) :=
  if r.dialect.freeColumnAlias then otherNameIf? namesColumnFreely else otherName? endsColumn

/-- A column of a select list. The word `FROM` is none, unless it is quoted. -/
def selectValue (expr : Expr) : Reader SelectItem := do
  match expr with
  | .column [⟨value, none⟩] =>
    if Text.lowercase value == "from" then unexpected
    else return .value expr (← columnAlias r)
  | .operation (.column [ident]) "=" right =>
    if r.dialect.equalsAlias then pure (.value right (some ident))
    else return .value expr (← columnAlias r)
  | _ => return .value expr (← columnAlias r)

def selectItem : Reader SelectItem :=
  wildcardOr r
    (fun qualifier => return .wildcard (renderWildcard qualifier ++ (← wildcardOptions r)))
    (selectValue r)

/-- The columns that a query gives. -/
def selectItems : Reader (List SelectItem) :=
  commaSeparatedUntil (onlyIf r.dialect.trailingSelectCommas (atListEnd endsColumn)) (selectItem r)

end

end SqlLineage.Sql.Grammar
