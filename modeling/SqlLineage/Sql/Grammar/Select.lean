/-
Module: SqlLineage.Sql.Grammar.Select
Purpose: Queries without set operators: the clauses around the select list and how they are written out.
Main exports: clauses, select
-/
import SqlLineage.Sql.Grammar.Join
import SqlLineage.Sql.Grammar.SelectList

namespace SqlLineage.Sql.Grammar

/-- Texts with a blank between two of them; empty ones are left out. -/
def clauses (texts : List String) : String := Text.joinWith " " (texts.filter (!·.isEmpty))

section

variable (r : Rules)

/-! ### Before the relations -/

/-- How many rows come first. -/
def top : Reader String := do
  let quantity ← (do
    if ← symbol? "(" then
      let quantity ← r.expression
      symbol ")"
      pure ("(" ++ quantity.render ++ ")")
    else return toString (← natural))
  let percent := if ← keyword? "PERCENT" then " PERCENT" else ""
  let ties := if ← keywords? ["WITH", "TIES"] then " WITH TIES" else ""
  pure ("TOP " ++ quantity ++ percent ++ ties)

/-- Which of equal rows are kept. -/
def distinct : Reader String := do
  let all ← keyword? "ALL"
  if ← keyword? "DISTINCT" then
    if all then unexpected
    else if ← keyword? "ON" then
      let columns ← parenthesized (r.expressionsBefore ")")
      pure ("DISTINCT ON (" ++ commas (columns.map Expr.render) ++ ")")
    else pure "DISTINCT"
  else pure ""

/-- The kind of value that each row becomes. -/
def rowKind : Reader String := do
  if ← onlyIf (r.dialect = .bigquery) (keyword? "AS") then
    return "AS " ++ (← oneOf ["VALUE", "STRUCT"])
  else pure ""

/-- What stands before the select list. -/
def selectHead : Reader String := do
  let kind ← rowKind r
  let top := fun (allowed : Bool) => do
    if ← onlyIf allowed (keyword? "TOP") then top r else pure ""
  let early ← top r.dialect.topBeforeDistinct
  let distinct ← distinct r
  let late ← top !r.dialect.topBeforeDistinct
  pure (clauses [kind, early, distinct, late])

/-- The table that the rows go into. -/
def destination : Reader String := do
  if ← keyword? "INTO" then
    let temporary := if (← oneOf? ["TEMP", "TEMPORARY"]).isSome then " TEMPORARY" else ""
    let unlogged := if ← keyword? "UNLOGGED" then " UNLOGGED" else ""
    let table := if ← keyword? "TABLE" then " TABLE" else ""
    return "INTO" ++ temporary ++ unlogged ++ table ++ " " ++ renderPath (← path r.dialect)
  else pure ""

/-! ### After the relations -/

/-- A call that adds rows to each row. -/
def lateralView : Reader (Option String) := do
  if ← keywords? ["LATERAL", "VIEW"] then
    let outer := if ← keyword? "OUTER" then " OUTER" else ""
    let value ← r.expression
    let table ← path r.dialect
    let columns ← commaSeparated r.dialect
      (otherName? ["WHERE", "GROUP", "CLUSTER", "HAVING", "LATERAL"])
    let named := columns.filterMap id
    let columns := if named.isEmpty then "" else " AS " ++ renderNames named
    pure (some ("LATERAL VIEW" ++ outer ++ " " ++ value.render ++ " " ++ renderPath table ++ columns))
  else pure none

/-- A list of expressions after these keywords, if they come next. -/
def listAfter (words : List String) : Reader String := do
  if ← keywords? words then
    return Text.joinWith " " words ++ " " ++ commas ((← r.expressions).map Expr.render)
  else pure ""

/-- A group of expressions in parentheses; one expression may stand without them if it may be lifted. -/
def groupingSet (lifts : Bool) : Reader String := do
  if ← symbol? "(" then
    let found ← r.expressionsBefore ")"
    symbol ")"
    match lifts, found with
    | true, [expr] => pure expr.render
    | _, _ => pure ("(" ++ commas (found.map Expr.render) ++ ")")
  else if lifts then return (← r.expression).render
  else unexpected

/-- An expression that rows are grouped by. -/
def groupingItem : Reader String := do
  let sets := fun (words : String) (lifts : Bool) => do
    let found ← parenthesized (commaSeparated r.dialect (groupingSet r lifts))
    pure (words ++ " (" ++ commas found ++ ")")
  if r.dialect.groupingSets then
    if ← keywords? ["GROUPING", "SETS"] then sets "GROUPING SETS" false
    else if ← keyword? "CUBE" then sets "CUBE" true
    else if ← keyword? "ROLLUP" then sets "ROLLUP" true
    else if (← peekSymbolAt 0 "(") && (← peekSymbolAt 1 ")") then
      skip 2
      pure "()"
    else return (← r.expression).render
  else return (← r.expression).render

/-- The totals that are added to groups. -/
def groupingModifiers : Reader String := do
  let found ← (do
    if r.dialect.groupByModifiers then
      many (afterKeyword "WITH" (return "WITH " ++ (← oneOf ["ROLLUP", "CUBE", "TOTALS"])))
    else pure [])
  pure (Text.joinWith " " found)

/-- The expressions that rows are grouped by, and the text after them. -/
def grouping : Reader (List String × String) := do
  if ← keywords? ["GROUP", "BY"] then
    if ← keyword? "ALL" then return ([], "GROUP BY ALL" ++ spaced (← groupingModifiers r))
    else
      let items ← commaSeparated r.dialect (groupingItem r)
      return (items, ← groupingModifiers r)
  else pure ([], "")

/-- Windows by name and the condition on their results, in either order. -/
def windows : Reader String := do
  let named : Reader String :=
    return "WINDOW " ++ commas (← commaSeparated r.dialect (namedWindow r))
  let qualified : Reader String := return "QUALIFY " ++ (← r.expression).render
  if ← keyword? "WINDOW" then
    let first ← named
    if ← keyword? "QUALIFY" then return first ++ " " ++ (← qualified) else pure first
  else if ← keyword? "QUALIFY" then
    let first ← qualified
    if ← keyword? "WINDOW" then return first ++ " " ++ (← named) else pure first
  else pure ""

/-- The rows that each row of a hierarchy leads to. -/
def relationships : Reader String := do
  keywords ["CONNECT", "BY"]
  let outside := (← get).inHierarchy
  modify fun state => { state with inHierarchy := true }
  let found ← r.expressions
  modify fun state => { state with inHierarchy := outside }
  pure (commas (found.map Expr.render))

/-- The way through a hierarchy. -/
def hierarchy : Reader String := do
  let start : Reader String := do
    keywords ["START", "WITH"]
    return (← r.expression).render
  if r.dialect.connectBy then
    match ← peekKeyword with
    | "CONNECT" =>
      let steps ← relationships r
      let condition ← start
      pure ("START WITH " ++ condition ++ " CONNECT BY " ++ steps)
    | "START" =>
      let condition ← start
      let steps ← relationships r
      pure ("START WITH " ++ condition ++ " CONNECT BY " ++ steps)
    | _ => pure ""
  else pure ""

/-- A query without set operators, after `SELECT`. -/
def select : Reader Select := do
  let head ← selectHead r
  let items ← (do
    if r.dialect.emptySelectList && (← peekKeyword) == "FROM" then pure [] else selectItems r)
  let destination ← destination r
  let tables ← (do if ← keyword? "FROM" then fromTables r else pure [])
  let views ← many (lateralView r)
  let prewhere ← (do
    if ← onlyIf r.dialect.clickhouseClauses (keyword? "PREWHERE") then
      return "PREWHERE " ++ (← r.expression).render
    else pure "")
  let condition ← afterKeyword "WHERE" r.expression
  let (groupBy, grouping) ← grouping r
  let cluster ← listAfter r ["CLUSTER", "BY"]
  let distribute ← listAfter r ["DISTRIBUTE", "BY"]
  let sort ← listAfter r ["SORT", "BY"]
  let having ← afterKeyword "HAVING" r.expression
  let windows ← windows r
  let hierarchy ← hierarchy r
  pure {
    head, items, destination, tables
    views := clauses (views ++ [prewhere])
    condition, groupBy
    grouping := clauses [grouping, cluster, distribute, sort]
    having
    tail := clauses [windows, hierarchy] }

end

end SqlLineage.Sql.Grammar
