/-
Module: SqlLineage.Sql.Grammar.QueryTail
Purpose: What follows the body of a query: its order, how many rows are given, which of them are locked and
  the form that they are given in.
Main exports: queryOrder, queryTail
-/
import SqlLineage.Sql.Grammar.Select

namespace SqlLineage.Sql.Grammar

/-! ### Rows as documents -/

/-- A string in parentheses. -/
def label (dialect : Dialect) : Reader String :=
  return "(\x27" ++ (← parenthesized (stringValue dialect)) ++ "\x27)"

/-- A string in parentheses, if there is one. -/
def label? (dialect : Dialect) : Reader String := do
  if ← peekSymbol "(" then label dialect else pure ""

/-- Options after commas. A comma that no option follows has no effect. -/
def documentOptions (option? : Reader (Option String)) : Reader (List String) := do
  let found ← many do
    if ← symbol? "," then return some (← option?).toList else pure none
  pure found.flatten

/-- The options that were given, in the order in which they are written out. Each option starts with its
word, and the last one of a word counts. -/
def orderedOptions (order : List String) (found : List String) : String :=
  String.join <| order.filterMap fun word =>
    (found.reverse.find? (·.startsWith word)).map (", " ++ ·)

/-- Rows as a document in XML. -/
def xmlClause (dialect : Dialect) : Reader String := do
  let mode ← (do
    match ← oneOf ["RAW", "AUTO", "EXPLICIT", "PATH"] with
    | "AUTO" => pure "AUTO"
    | "EXPLICIT" => pure "EXPLICIT"
    | word => return word ++ (← label? dialect))
  let found ← documentOptions do
    match ← oneOf? ["ELEMENTS", "BINARY", "ROOT", "TYPE"] with
    | some "BINARY" =>
      keyword "BASE64"
      pure (some "BINARY BASE64")
    | some "ROOT" => return some ("ROOT" ++ (← label dialect))
    | found => pure found
  pure ("FOR XML " ++ mode ++ orderedOptions ["BINARY", "TYPE", "ROOT", "ELEMENTS"] found)

/-- Rows as a document in JSON. -/
def jsonClause (dialect : Dialect) : Reader String := do
  let mode ← oneOf ["AUTO", "PATH"]
  let found ← documentOptions do
    match ← oneOf? ["ROOT", "INCLUDE_NULL_VALUES", "WITHOUT_ARRAY_WRAPPER"] with
    | some "ROOT" => return some ("ROOT" ++ (← label dialect))
    | found => pure found
  pure ("FOR JSON " ++ mode
    ++ orderedOptions ["ROOT", "INCLUDE_NULL_VALUES", "WITHOUT_ARRAY_WRAPPER"] found)

/-! ### Locks -/

/-- The rows that are locked, after `FOR`. -/
def lock (dialect : Dialect) : Reader String := do
  let kind ← oneOf ["UPDATE", "SHARE"]
  let table ← (do
    if ← keyword? "OF" then return " OF " ++ renderPath (← path dialect) else pure "")
  let waiting ← (do
    if ← keyword? "NOWAIT" then pure " NOWAIT"
    else if ← keywords? ["SKIP", "LOCKED"] then pure " SKIP LOCKED"
    else pure "")
  pure ("FOR " ++ kind ++ table ++ waiting)

/-- A clause after `FOR`, and whether it is the last one. -/
def purpose (dialect : Dialect) : Reader (String × Bool) := do
  match ← oneOf? ["XML", "JSON", "BROWSE"] with
  | some "XML" => return (← xmlClause dialect, true)
  | some "JSON" => return (← jsonClause dialect, true)
  | some _ => pure ("FOR BROWSE", true)
  | none => return (← lock dialect, false)

/-- What the rows are read for. -/
def purposes (dialect : Dialect) : Reader (List String) := do
  let found ← iterate (fun (found, isOver) => do
    if ← onlyIf (!isOver) (keyword? "FOR") then
      let (clause, isOver) ← purpose dialect
      pure (some (found ++ [clause], isOver))
    else pure none) ([], false)
  pure found.1

section

variable (r : Rules)

/-! ### Order -/

/-- The values that gaps in an order are filled with. -/
def interpolation : Reader String := do
  if ← onlyIf r.dialect.clickhouseClauses (keyword? "INTERPOLATE") then
    if ← symbol? "(" then
      let found ← commaSeparatedOrNone r.dialect ")" do
        let column ← name
        return column.render ++ Part.renderAll (← r.boundAfter "AS")
      symbol ")"
      pure ("INTERPOLATE (" ++ commas found ++ ")")
    else pure "INTERPOLATE"
  else pure ""

/-- The keys of the order of a query, and the text after them. -/
def queryOrder : Reader (List String × String) := do
  if ← keywords? ["ORDER", "BY"] then
    let keys ← commaSeparated r.dialect (orderItem r)
    return (keys.map Part.renderAll, ← interpolation r)
  else pure ([], "")

/-! ### How many rows are given -/

/-- The first rows to be given and how many. -/
structure Extent where
  limit : Option String := none
  offset : Option String := none

/-- A bound on the rows, in addition to those read before. -/
def extentStep (extent : Extent) : Reader Extent := do
  let limited ← (do
    if ← onlyIf extent.limit.isNone (keyword? "LIMIT") then
      if ← keyword? "ALL" then pure extent
      else return { extent with limit := some (← r.expression).render }
    else pure extent)
  let bounded ← (do
    if ← onlyIf limited.offset.isNone (keyword? "OFFSET") then
      let start ← r.expression
      let unit := spaced ((← oneOf? ["ROW", "ROWS"]).getD "")
      pure { limited with offset := some ("OFFSET " ++ start.render ++ unit) }
    else pure limited)
  match bounded.limit, bounded.offset with
  | some start, none =>
    if ← onlyIf r.dialect.limitComma (symbol? ",") then
      return { limit := some (← r.expression).render, offset := some ("OFFSET " ++ start) }
    else pure bounded
  | _, _ => pure bounded

/-- How many rows are given, as the standard writes it. -/
def fetch : Reader String := do
  if ← keyword? "FETCH" then
    let _ ← oneOf ["FIRST", "NEXT"]
    let quantity ← (do
      if (← oneOf? ["ROW", "ROWS"]).isSome then pure ""
      else
        let quantity ← literal r.dialect
        let percent := if ← keyword? "PERCENT" then " PERCENT" else ""
        let _ ← oneOf ["ROW", "ROWS"]
        pure (" " ++ quantity ++ percent))
    let ties ← (do
      if ← keyword? "ONLY" then pure "ONLY"
      else
        keywords ["WITH", "TIES"]
        pure "WITH TIES")
    pure ("FETCH FIRST" ++ quantity ++ " ROWS " ++ ties)
  else pure ""

/-- The format that rows are given in. -/
def outputFormat : Reader String := do
  if ← onlyIf r.dialect.clickhouseClauses (keyword? "FORMAT") then
    if ← keyword? "NULL" then pure "FORMAT NULL" else return "FORMAT " ++ (← name).render
  else pure ""

/-- What stands after the order of a query. -/
def queryTail : Reader String := do
  let extent ← extentStep r (← extentStep r {})
  let limit := (extent.limit.map ("LIMIT " ++ ·)).getD ""
  let perGroup ← (do
    if ← onlyIf r.dialect.clickhouseClauses (keyword? "BY") then
      return "BY " ++ commas ((← r.expressions).map Expr.render)
    else pure "")
  let settings ← settings r
  let fetch ← fetch r
  let purposes ← purposes r.dialect
  let format ← outputFormat r
  pure (clauses ([limit, extent.offset.getD "", perGroup, settings, fetch] ++ purposes ++ [format]))

end

end SqlLineage.Sql.Grammar
