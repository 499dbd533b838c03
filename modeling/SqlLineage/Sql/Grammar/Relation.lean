/-
Module: SqlLineage.Sql.Grammar.Relation
Purpose: What stands after `FROM`: relations by name, and what rows are taken from in their place: queries,
  calls, lists of values and documents.
Main exports: tableAlias, valueRows, settings, tableFactor
-/
import SqlLineage.Sql.Grammar.DocumentTable
import SqlLineage.Sql.Grammar.Expression
import SqlLineage.Sql.Grammar.RowPattern

namespace SqlLineage.Sql.Grammar

section

variable (r : Rules)

/-- The name of a column, with its type if there is one. -/
def typedName : Reader String := do
  let column ← name
  match ← attempt (dataType r.dialect) with
  | some type => pure (column.render ++ " " ++ type.render)
  | none => pure column.render

/-- The other name of a relation, with the names of its columns and their types. -/
def tableAlias : Reader (Option TableAlias) := do
  match ← otherName? endsTable with
  | none => pure none
  | some name =>
    if ← symbol? "(" then
      let columns ← commaSeparated r.dialect (typedName r)
      symbol ")"
      pure (some { name, columns })
    else pure (some { name })

/-! ### Rows and calls -/

/-- A row of values, and whether it is marked as one. -/
def valueRow : Reader (Bool × String) := do
  let explicit ← keyword? "ROW"
  symbol "("
  let values ← (do if r.dialect.emptyRows then r.expressionsBefore ")" else r.expressions)
  symbol ")"
  pure (explicit, "(" ++ commas (values.map Expr.render) ++ ")")

/-- Rows of values, after `VALUES`. One mark for all of them is as good as one for each. -/
def valueRows : Reader String := do
  let rows ← commaSeparated r.dialect (valueRow r)
  let word := if rows.any Prod.fst then "ROW" else ""
  pure ("VALUES " ++ commas (rows.map fun (_, row) => word ++ row))

/-- A query in place of a relation, after its opening parenthesis. -/
def derivedTable (isLateral : Bool) : Reader TableFactor := do
  let query ← r.query
  symbol ")"
  return .derived isLateral query (← tableAlias r)

/-- Settings by name, if there are any. -/
def settings : Reader String := do
  if ← onlyIf r.dialect.clickhouseClauses (keyword? "SETTINGS") then
    let found ← commaSeparated r.dialect do
      let key ← name
      symbol "="
      return key.render ++ " = " ++ (← literal r.dialect)
    pure ("SETTINGS " ++ commas found)
  else pure ""

/-- The arguments of a function in place of a relation, after the opening parenthesis. Settings may come
last. -/
def tableArguments : Reader String := do
  let step := fun ((texts, isOver) : List String × Bool) => do
    if isOver then pure none
    else
      let settings ← settings r
      if settings.isEmpty then
        let value := Part.renderAll (← argument r)
        let isOver := !(← symbol? ",")
        let isOver ← firstOf (pure isOver) (onlyIf r.dialect.trailingCommas (atListEnd endsColumn))
        pure (some (texts ++ [value], isOver))
      else pure (some (texts ++ [settings], true))
  let texts ← (do
    if ← peekSymbol ")" then pure [] else return (← iterate step ([], false)).1)
  symbol ")"
  pure ("(" ++ commas texts ++ ")")

/-! ### Pivots -/

/-- A call of an aggregate, and the name of its result. -/
def namedAggregate : Reader String := do
  match ← next with
  | .word function _ _ =>
    let value ← call r [{ value := function }]
    match ← afterKeyword "AS" name with
    | some name => pure (value.render ++ " AS " ++ name.render)
    | none => pure value.render
  | _ => unexpected

/-- The values that become columns. -/
def pivotValues : Reader String := do
  if ← keyword? "ANY" then
    if ← keywords? ["ORDER", "BY"] then
      return "ANY ORDER BY " ++ Part.renderAll (← orderItems r)
    else pure "ANY"
  else if ← startsQuery then return (← r.query).render
  else
    let values ← commaSeparated r.dialect do
      let value ← r.expression
      match ← afterKeyword "AS" name with
      | some name => pure (value.render ++ " AS " ++ name.render)
      | none => pure value.render
    pure (commas values)

/-- The columns of a relation made from its rows, or the other way round. -/
def pivot? (factor : TableFactor) : Reader (Option TableFactor) := do
  match ← oneOf? ["PIVOT", "UNPIVOT"] with
  | some "PIVOT" =>
    symbol "("
    let aggregates ← commaSeparated r.dialect (namedAggregate r)
    keyword "FOR"
    let column ← path r.dialect
    keyword "IN"
    let values ← parenthesized (pivotValues r)
    let absent ← (do
      if ← keywords? ["DEFAULT", "ON", "NULL"] then
        return " DEFAULT ON NULL (" ++ (← parenthesized r.expression).render ++ ")"
      else pure "")
    symbol ")"
    let text := factor.render ++ " PIVOT(" ++ commas aggregates ++ " FOR " ++ renderPath column
      ++ " IN (" ++ values ++ ")" ++ absent ++ ")"
    return some (.other text (← tableAlias r) "")
  | some _ =>
    symbol "("
    let value ← name
    keyword "FOR"
    let column ← name
    keyword "IN"
    let columns ← names r.dialect
    symbol ")"
    let text := factor.render ++ " UNPIVOT(" ++ value.render ++ " FOR " ++ column.render ++ " IN ("
      ++ renderNames columns ++ "))"
    return some (.other text (← tableAlias r) "")
  | none => pure none

/-! ### Relations by name -/

/-- How many rows are taken, or how large a part of them; whether it stands in parentheses. -/
def sampleSize (opened : Bool) : Reader String := do
  let amount ← (do
    match ← attempt r.expression with
    | some amount => pure amount.render
    | none =>
      match ← next with
      | .word value _ _ => pure value
      | _ => unexpected)
  let unit := spaced ((← oneOf? ["ROWS", "PERCENT"]).getD "")
  if opened then
    symbol ")"
    pure (" (" ++ amount ++ unit ++ ")")
  else pure (" " ++ amount ++ unit)

/-- One of the parts that rows are divided into, after its keyword. -/
def sampleBucket : Reader String := do
  let bucket ← numeric r.dialect
  keywords ["OUT", "OF"]
  let total ← numeric r.dialect
  let key ← r.boundAfter "ON"
  symbol ")"
  pure (" (BUCKET " ++ bucket ++ " OUT OF " ++ total ++ Part.renderAll key ++ ")")

/-- A part of the rows of a relation, taken at random. -/
def sample : Reader String := do
  match ← oneOf? ["TABLESAMPLE", "SAMPLE"] with
  | none => pure ""
  | some word =>
    let method := spaced ((← oneOf? ["BERNOULLI", "ROW", "SYSTEM", "BLOCK"]).getD "")
    let opened ← symbol? "("
    let inBuckets ← onlyIf opened (keyword? "BUCKET")
    let extent ← (do if inBuckets then sampleBucket r else sampleSize r opened)
    let seed ← (do
      match ← oneOf? ["REPEATABLE", "SEED"] with
      | some word => return " " ++ word ++ " (" ++ (← parenthesized (numeric r.dialect)) ++ ")"
      | none => pure "")
    let offset := Part.renderAll (← r.boundAfter "OFFSET")
    if inBuckets then pure (word ++ method ++ seed ++ extent ++ offset)
    else pure (word ++ method ++ extent ++ seed ++ offset)

/-- The moment whose rows are read. -/
def moment : Reader String := do
  if r.dialect.timeTravel then
    if ← keywords? ["FOR", "SYSTEM_TIME", "AS", "OF"] then
      return "FOR SYSTEM_TIME AS OF " ++ (← r.expression).render
    else if ["AT", "BEFORE"].contains (← peekKeyword) then
      return (← call r (← tablePath r.dialect)).render
    else pure ""
  else pure ""

/-- Hints on how a relation is to be read. A `WITH` that no parenthesis follows belongs to what comes
after the relation. -/
def hints : Reader String := do
  if (← peekKeyword) == "WITH" && (← peekSymbolAt 1 "(") then
    skip 1
    let found ← parenthesized r.expressions
    pure ("WITH (" ++ commas (found.map Expr.render) ++ ")")
  else pure ""

/-- The search for a pattern in the rows of a relation, if there is one. -/
def patternSearch (factor : TableFactor) : Reader TableFactor := do
  if ← onlyIf r.dialect.rowPatterns (keyword? "MATCH_RECOGNIZE") then
    let search ← rowPatternClause r
    return .other (factor.render ++ " " ++ search) (← tableAlias r) ""
  else pure factor

/-- A relation by name, or a function that gives one. -/
def namedTable : Reader TableFactor := do
  let name ← tablePath r.dialect
  let document ← (do
    if r.dialect.documentPaths && (← peekSymbol "[") then
      return Part.renderAll (← documentPath r)
    else pure "")
  let partitions ← (do
    if ← onlyIf (r.dialect.isAnyOf [.generic, .mysql]) (keyword? "PARTITION") then
      return "PARTITION (" ++ renderNames (← names r.dialect) ++ ")"
    else pure "")
  let moment ← moment r
  let arguments ← (do if ← symbol? "(" then tableArguments r else pure "")
  let ordinality ← (do
    if ← keywords? ["WITH", "ORDINALITY"] then pure " WITH ORDINALITY" else pure "")
  let early ← (do if r.dialect.sampleBeforeAlias then sample r else pure "")
  let aliasName ← tableAlias r
  let hints ← hints r
  let late ← (do if r.dialect.sampleBeforeAlias then pure "" else sample r)
  let factor := TableFactor.table name
    (document ++ partitions ++ arguments ++ ordinality ++ spaced early) aliasName
    (Text.joinWith " " ([hints, moment, late].filter (!·.isEmpty)))
  patternSearch r (← iterate (pivot? r) factor)

/-! ### What stands in place of a relation -/

/-- The elements of lists as rows, after `UNNEST`. A `WITH` that introduces nothing has no effect. -/
def elements : Reader TableFactor := do
  let lists ← parenthesized r.expressions
  let ordinality := if ← keywords? ["WITH", "ORDINALITY"] then " WITH ORDINALITY" else ""
  let aliasName ← tableAlias r
  let opened ← keyword? "WITH"
  let offset ← (do
    if ← onlyIf opened (keyword? "OFFSET") then
      match ← otherName? endsColumn with
      | some name => pure ("WITH OFFSET AS " ++ name.render)
      | none => pure "WITH OFFSET"
    else pure "")
  pure (.other ("UNNEST(" ++ commas (lists.map Expr.render) ++ ")" ++ ordinality) aliasName offset)

/-- What stands in parentheses after `FROM`, after the opening one: a query; or relations that are
joined; or, where the dialect allows it, a lone relation, which may have its other name outside. -/
def parenthesizedTable : Reader TableFactor := do
  match ← attempt (derivedTable r false) with
  | some factor => iterate (pivot? r) factor
  | none =>
    let inner ← r.joinedTables
    let isJoin :=
      !inner.joins.isEmpty ||
        match inner.relation with
        | .nested _ _ => true
        | _ => false
    if isJoin then
      symbol ")"
      return .nested inner (← tableAlias r)
    else if r.dialect.parenthesizedTable then
      symbol ")"
      match ← tableAlias r, inner.relation.aliasName with
      | none, _ => pure inner.relation
      | some outer, none => pure (inner.relation.withAlias outer)
      | some _, some _ => unexpected
    else unexpected

/-- A query or a call that may refer to the relations before it, after its keyword. -/
def lateralTable : Reader TableFactor := do
  if ← symbol? "(" then derivedTable r true
  else
    let function ← path r.dialect
    symbol "("
    let values ← (do if ← peekSymbol ")" then pure [] else commaSeparated r.dialect (argument r))
    symbol ")"
    let text := "LATERAL " ++ renderPath function ++ "(" ++ Part.renderAll (commaPieces values) ++ ")"
    return .other text (← tableAlias r) ""

/-- Rows of values in place of a relation, after their keyword. -/
def valueTable : Reader TableFactor := do
  let rows ← valueRows r
  let query : Query :=
    { isRecursive := false, ctes := [], body := .rows rows, orderBy := [], tail := "" }
  return .derived false query (← tableAlias r)

/-- What rows are taken from. -/
def tableFactor : Reader TableFactor := do
  let precedesParenthesis ← peekSymbolAt 1 "("
  let valuesAllowed := precedesParenthesis && r.dialect.isAnyOf [.databricks, .generic, .snowflake]
  if ← keyword? "LATERAL" then lateralTable r
  else if ← keyword? "TABLE" then
    let value ← parenthesized r.expression
    return .other ("TABLE(" ++ value.render ++ ")") (← tableAlias r) ""
  else if ← symbol? "(" then parenthesizedTable r
  else if ← onlyIf valuesAllowed (keyword? "VALUES") then valueTable r
  else if ← onlyIf (r.dialect.isAnyOf [.bigquery, .generic, .postgres]) (keyword? "UNNEST") then
    elements r
  else if ← onlyIf precedesParenthesis (keyword? "JSON_TABLE") then
    skip 1
    let text ← jsonTable r
    return .other text (← tableAlias r) ""
  else if ← onlyIf precedesParenthesis (keyword? "OPENJSON") then
    skip 1
    let text ← openJson r
    return .other text (← tableAlias r) ""
  else namedTable r

end

end SqlLineage.Sql.Grammar
