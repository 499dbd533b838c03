/-
Module: SqlLineage.Sql.Grammar.DocumentTable
Purpose: Tables that are read from a JSON document: the columns they have and where in the document the
  values of those are found.
Main exports: jsonTable, openJson
-/
import SqlLineage.Sql.Grammar.Rules

namespace SqlLineage.Sql.Grammar

/-! ### Columns -/

/-- What becomes of a column for which the document has no value, or one of the wrong kind. -/
def columnFallback? (dialect : Dialect) : Reader (Option String) := do
  match ← oneOf? ["NULL", "ERROR", "DEFAULT"] with
  | some word =>
    let value ← (do if word = "DEFAULT" then return " " ++ (← literal dialect) else pure "")
    keyword "ON"
    pure (some (word ++ value))
  | none => pure none

/-- What becomes of a column without a value, and of one with a wrong value. -/
structure Fallbacks where
  onEmpty : Option String := none
  onError : Option String := none

namespace Fallbacks

def render (fallbacks : Fallbacks) : String :=
  (fallbacks.onEmpty.map (" " ++ · ++ " ON EMPTY")).getD ""
    ++ (fallbacks.onError.map (" " ++ · ++ " ON ERROR")).getD ""

end Fallbacks

/-- The fallbacks of a column. Of two for the same case the last one counts. -/
def fallbacks (dialect : Dialect) : Reader Fallbacks :=
  iterate (fun found => do
    match ← columnFallback? dialect with
    | some fallback =>
      if ← keyword? "EMPTY" then pure (some { found with onEmpty := some fallback })
      else
        keyword "ERROR"
        pure (some { found with onError := some fallback })
    | none => pure none) {}

/-- A column of a table that is read from a document. Columns of nested objects are read by `nested`. -/
def documentColumn (dialect : Dialect) (nested : Reader String) : Reader String := do
  if ← keyword? "NESTED" then
    let _ ← keyword? "PATH"
    let path ← literal dialect
    keyword "COLUMNS"
    let columns ← parenthesized (commaSeparated dialect nested)
    pure ("NESTED PATH " ++ path ++ " COLUMNS (" ++ commas columns ++ ")")
  else
    let column ← name
    if ← keyword? "FOR" then
      keyword "ORDINALITY"
      pure (column.render ++ " FOR ORDINALITY")
    else
      let type ← dataType dialect
      let presence := if ← keyword? "EXISTS" then " EXISTS" else ""
      keyword "PATH"
      let path ← literal dialect
      let fallbacks ← fallbacks dialect
      pure (column.render ++ " " ++ type.render ++ presence ++ " PATH " ++ path ++ fallbacks.render)

/-- A column of a table that is read from a document, with objects nested at most so deeply. -/
def documentColumnWithin (dialect : Dialect) : Nat → Reader String
  | 0 => unexpected
  | fuel + 1 => documentColumn dialect (documentColumnWithin dialect fuel)

section

variable (r : Rules)

/-! ### Tables -/

/-- The columns of a table and the document that they are read from, after the opening parenthesis. -/
def jsonTable : Reader String := do
  let document ← r.expression
  symbol ","
  let path ← literal r.dialect
  keyword "COLUMNS"
  let column := documentColumnWithin r.dialect ((← get).tokens.length + 1)
  let columns ← parenthesized (commaSeparated r.dialect column)
  symbol ")"
  pure ("JSON_TABLE(" ++ document.render ++ ", " ++ path ++ " COLUMNS(" ++ commas columns ++ "))")

/-- A column with the place of its values in the document. -/
def openJsonColumn : Reader String := do
  let column ← name
  let type ← dataType r.dialect
  let path ← (do
    match ← peek with
    | some (.text .single value) =>
      skip 1
      pure (" " ++ inQuotes '\x27' value)
    | _ => pure "")
  let whole ← (do
    if ← keyword? "AS" then
      keyword "JSON"
      pure " AS JSON"
    else pure "")
  pure (column.render ++ " " ++ type.render ++ path ++ whole)

/-- A document as a table, after the opening parenthesis. -/
def openJson : Reader String := do
  let document ← r.expression
  let path ← (do if ← symbol? "," then return ", " ++ (← literal r.dialect) else pure "")
  symbol ")"
  let columns ← (do
    if ← keyword? "WITH" then
      let columns ← parenthesized (commaSeparated r.dialect (openJsonColumn r))
      pure (" WITH (" ++ commas columns ++ ")")
    else pure "")
  pure ("OPENJSON(" ++ document.render ++ path ++ ")" ++ columns)

end

end SqlLineage.Sql.Grammar
