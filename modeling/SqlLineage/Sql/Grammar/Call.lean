/-
Module: SqlLineage.Sql.Grammar.Call
Purpose: Calls of functions: their arguments, the clauses among those, and what may stand after them.
Main exports: wildcardOr, argument, call, withMethods
-/
import SqlLineage.Sql.Grammar.Window

namespace SqlLineage.Sql.Grammar

section

variable (r : Rules)

/-! ### Wildcards -/

/-- All columns of what the names before the asterisk denote. -/
def wildcard? : Reader (Option (List Ident)) := do
  if ← symbol? "*" then pure (some [])
  else
    match ← peek with
    | some (.word _ _ _) | some (.text .single _) =>
      if ← peekSymbolAt 1 "." then
        let first ← name
        let rest ← many do
          if ← peekSymbolAt 1 "*" then pure none
          else if ← symbol? "." then
            match ← peek with
            | some (.word _ _ _) | some (.text .single _) => return some (← name)
            | _ => unexpected
          else pure none
        if ← symbol? "." then
          symbol "*"
          pure (some (first :: rest))
        else pure none
      else pure none
    | _ => pure none

/-- The text of a wildcard after these names. -/
def renderWildcard (qualifier : List Ident) : String :=
  if qualifier.isEmpty then "*" else renderPath qualifier ++ ".*"

/-- A wildcard, or else an expression. A wildcard that turns out to be none takes no token. -/
def wildcardOr (wildcard : List Ident → Reader α) (value : Expr → Reader α) : Reader α := do
  let start ← get
  match ← wildcard? with
  | some qualifier => wildcard qualifier
  | none =>
    set start
    value (← r.expression)

/-! ### Arguments -/

/-- The value of an argument. -/
def argumentValue : Reader (List Part) :=
  wildcardOr r (fun qualifier => pure [.text (renderWildcard qualifier)])
    (fun expr => pure [.operand expr])

/-- The sign between the name of an argument and its value. -/
def argumentOperator : Reader String := do
  if ← keyword? "VALUE" then pure "VALUE"
  else
    match ← next with
    | .symbol symbol =>
      if r.dialect.argumentSymbols.contains symbol then pure symbol else unexpected
    | _ => unexpected

/-- An argument after its name. -/
def namedArgument : Reader (List Part) := do
  let label ← (do
    if r.dialect.argumentNamedByExpression then return Part.operand (← r.expression)
    else return .text (← name).render)
  let operator ← argumentOperator r
  let value ← argumentValue r
  pure (label :: .text (" " ++ operator ++ " ") :: value)

/-- An argument of a call. -/
def argument : Reader (List Part) := do
  match ← attempt (namedArgument r) with
  | some parts => pure parts
  | none => argumentValue r

/-- What a list of values does when it grows too long. -/
def overflow : Reader (List (List Part)) := do
  if ← keywords? ["ON", "OVERFLOW"] then
    if ← keyword? "ERROR" then pure [["ON OVERFLOW ERROR"]]
    else
      keyword "TRUNCATE"
      let filler ← (do
        match ← peek with
        | some (.text style _) =>
          if [.single, .escaped, .unicode, .national, .hex].contains style then
            return [← r.expression]
          else unexpected
        | _ => pure [])
      let count ← oneOf ["WITH", "WITHOUT"]
      keyword "COUNT"
      pure [.text "ON OVERFLOW TRUNCATE" :: filler.flatMap (fun expr => [.text " ", .operand expr])
        ++ [.text (" " ++ count ++ " COUNT")]]
  else pure []

/-- What happens to absent values in a document that a call builds. -/
def absentValues : Reader (List (List Part)) := do
  if ← keywords? ["ABSENT", "ON", "NULL"] then pure [["ABSENT ON NULL"]]
  else if ← keywords? ["NULL", "ON", "NULL"] then pure [["NULL ON NULL"]]
  else pure []

/-- Whether equal arguments count once. -/
def duplicates : Reader String := do
  let all ← keyword? "ALL"
  let distinct ← keyword? "DISTINCT"
  match all, distinct with
  | true, true => unexpected
  | true, false => pure "ALL "
  | false, true => pure "DISTINCT "
  | false, false => pure ""

/-- The clauses after the values of the arguments, and whether they say what happens to rows without a
value. -/
def argumentClauses : Reader (List (List Part) × Bool) := do
  let nulls ← (do
    if r.dialect.nullTreatmentArgument then
      return (← nullTreatment).toList.map fun text => [Part.text text]
    else pure [])
  let order ← orderClause r
  let limit ← (do
    match ← afterKeyword "LIMIT" r.expression with
    | some expr => pure [[.text "LIMIT ", .operand expr]]
    | none => pure [])
  let having ← (do
    if ← onlyIf (r.dialect.isAnyOf [.bigquery, .generic]) (keyword? "HAVING") then
      let bound ← oneOf ["MIN", "MAX"]
      return [[.text ("HAVING " ++ bound ++ " "), .operand (← r.expression)]]
    else pure [])
  let separator ← (do
    if ← onlyIf (r.dialect.isAnyOf [.generic, .mysql]) (keyword? "SEPARATOR") then
      return [[Part.text ("SEPARATOR " ++ (← literal r.dialect))]]
    else pure [])
  let overflow ← overflow r
  let absent ← absentValues
  pure (nulls ++ order ++ limit ++ having ++ separator ++ overflow ++ absent, !nulls.isEmpty)

/-- The arguments of a call with its parentheses, after the opening one, and whether they say what
happens to rows without a value. -/
def arguments : Reader (List Part × Bool) := do
  let leading ← absentValues
  if ← symbol? ")" then
    pure (.text "(" :: spacedPieces leading ++ [.text ")"], false)
  else
    let duplicates ← duplicates
    let values ← commaSeparated r.dialect (argument r)
    let (trailing, treatsNulls) ← argumentClauses r
    symbol ")"
    let clauses := leading ++ trailing
    let gap : List Part := if clauses.isEmpty then [] else [.text " "]
    pure (.text ("(" ++ duplicates) :: commaPieces values ++ gap ++ spacedPieces clauses
      ++ [.text ")"], treatsNulls)

/-! ### Calls -/

/-- The order of the values that a call collects. -/
def withinGroup : Reader (List Part) := do
  if ← keywords? ["WITHIN", "GROUP"] then
    symbol "("
    keywords ["ORDER", "BY"]
    let items ← orderItems r
    symbol ")"
    pure (.text " WITHIN GROUP (ORDER BY " :: items ++ [.text ")"])
  else pure []

/-- The condition on the rows that an aggregate sees. Its opening words have no effect where the others
do not follow. -/
def filterClause : Reader (List Part) := do
  if ← onlyIf r.dialect.aggregateFilter (keyword? "FILTER") then
    if ← symbol? "(" then
      if ← keyword? "WHERE" then
        let condition ← r.expression
        symbol ")"
        pure [.text " FILTER (WHERE ", .operand condition, .text ")"]
      else pure []
    else pure []
  else pure []

/-- The window that a call ranges over. -/
def overClause : Reader (List Part) := do
  if ← keyword? "OVER" then
    if ← symbol? "(" then return .text " OVER (" :: (← window r) ++ [.text ")"]
    else return [.text (" OVER " ++ (← name).render)]
  else pure []

/-- A call of the function of this name. -/
def call (function : List Ident) : Reader Expr := do
  symbol "("
  if r.dialect = .snowflake && (← startsQuery) then
    let query ← r.query
    symbol ")"
    pure (.call (renderPath function) false ["(", query, ")"] [] [])
  else
    let first ← arguments r
    let second ← (do
      if ← onlyIf r.dialect.clickhouseClauses (symbol? "(") then return some (← arguments r)
      else pure none)
    let ordering ← withinGroup r
    let filter ← filterClause r
    let nulls ← (do if (second.getD first).2 then pure none else nullTreatment)
    let windowParts ← overClause r
    let rest : List Part := filter ++ [.text (spaced (nulls.getD ""))] ++ windowParts
    pure (.call (renderPath function) (!windowParts.isEmpty)
      (first.1 ++ (second.map Prod.fst).getD []) ordering rest)

/-- A call on the value before it, if one follows after a point. -/
def methodCall? : Reader (Option Expr) := do
  if ← symbol? "." then
    match ← next with
    | .word value _ quote => return some (← call r [{ value, quote }])
    | _ => unexpected
  else pure none

/-- A value with the functions that are called on it. A point that leads to no call is left. -/
def withMethods (value : Expr) : Reader Expr := do
  if r.dialect.methods then
    match ← attempt (many (methodCall? r)) with
    | some (first :: rest) =>
      pure (.phrase (.operand value :: (first :: rest).flatMap fun expr => [.text ".", .operand expr]))
    | _ => pure value
  else pure value

end

end SqlLineage.Sql.Grammar
