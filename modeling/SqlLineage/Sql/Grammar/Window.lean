/-
Module: SqlLineage.Sql.Grammar.Window
Purpose: The order of rows, and the windows of rows around each of them.
Main exports: orderItem, orderItems, nullTreatment, window, namedWindow
-/
import SqlLineage.Sql.Grammar.Interval

namespace SqlLineage.Sql.Grammar

section

variable (r : Rules)

/-! ### Order -/

/-- Where rows without a value are put. -/
def nullsOrder : Reader String := do
  if ← keywords? ["NULLS", "FIRST"] then pure " NULLS FIRST"
  else if ← keywords? ["NULLS", "LAST"] then pure " NULLS LAST"
  else pure ""

/-- The gaps in an order that are to be filled. -/
def filling : Reader (List Part) := do
  if ← onlyIf r.dialect.clickhouseClauses (keywords? ["WITH", "FILL"]) then
    let lower ← r.boundAfter "FROM"
    let upper ← r.boundAfter "TO"
    let step ← r.boundAfter "STEP"
    pure (.text " WITH FILL" :: lower ++ upper ++ step)
  else pure []

/-- A key of an order and its direction. -/
def orderItem : Reader (List Part) := do
  let key ← r.expression
  let direction ← oneOf? ["ASC", "DESC"]
  let nulls ← nullsOrder
  let filling ← filling r
  pure (.operand key :: .text (spaced (direction.getD "") ++ nulls) :: filling)

def orderItems : Reader (List Part) := return commaPieces (← commaSeparated r.dialect (orderItem r))

/-- The keys of an order after its keywords, if those come next. -/
def orderClause : Reader (List (List Part)) := do
  if ← keywords? ["ORDER", "BY"] then return [.text "ORDER BY " :: (← orderItems r)] else pure []

/-- The keys that rows are kept apart by, if they are given. -/
def partitionClause : Reader (List (List Part)) := do
  if ← keywords? ["PARTITION", "BY"] then
    return [.text "PARTITION BY " :: commaParts (← r.expressions)]
  else pure []

/-! ### Windows -/

/-- What happens to rows without a value. -/
def nullTreatment : Reader (Option String) := do
  match ← oneOf? ["RESPECT", "IGNORE"] with
  | some word =>
    keyword "NULLS"
    pure (some (word ++ " NULLS"))
  | none => pure none

/-- An end of a window frame. A string stands for a span of time. -/
def frameBound : Reader (List Part) := do
  if ← keywords? ["CURRENT", "ROW"] then pure ["CURRENT ROW"]
  else
    let distance ← (do
      if ← keyword? "UNBOUNDED" then pure (Part.text "UNBOUNDED")
      else
        match ← peek with
        | some (.text .single _) => return .operand (← interval r)
        | _ => return .operand (← r.expression))
    let direction ← oneOf ["PRECEDING", "FOLLOWING"]
    pure [distance, .text (" " ++ direction)]

/-- The rows around the current one that a window function sees. -/
def frame : Reader (List Part) := do
  let units ← oneOf ["ROWS", "RANGE", "GROUPS"]
  if ← keyword? "BETWEEN" then
    let lower ← frameBound r
    keyword "AND"
    let upper ← frameBound r
    pure (.text (units ++ " BETWEEN ") :: lower ++ .text " AND " :: upper)
  else
    let lower ← frameBound r
    pure (.text (units ++ " ") :: lower)

/-- A window, after its opening parenthesis. -/
def window : Reader (List Part) := do
  let base ← (do
    match ← peek with
    | some (.word _ "" _) => return [[Part.text (← name).render]]
    | _ => pure [])
  let partition ← partitionClause r
  let order ← orderClause r
  let frame ← (do
    if ← peekSymbol ")" then pure [] else return [← frame r])
  symbol ")"
  pure (spacedPieces (base ++ partition ++ order ++ frame))

/-- A window that a query names. -/
def namedWindow : Reader String := do
  let ident ← name
  keyword "AS"
  if ← symbol? "(" then
    return ident.render ++ " AS (" ++ Part.renderAll (← window r) ++ ")"
  else if r.dialect.windowNameReference then return ident.render ++ " AS " ++ (← name).render
  else unexpected

end

end SqlLineage.Sql.Grammar
