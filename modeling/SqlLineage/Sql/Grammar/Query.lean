/-
Module: SqlLineage.Sql.Grammar.Query
Purpose: Whole queries: the operators that join two of them and the common table expressions that they
  declare; and the rules of the grammar, which tie its constructs together.
Main exports: queryBody, cte, query, rulesWithin
-/
import SqlLineage.Sql.Grammar.QueryTail
import SqlLineage.Sql.Grammar.Write

namespace SqlLineage.Sql.Grammar

section

variable (r : Rules)

/-! ### Set operators -/

/-- A whole table, after `TABLE`. It is taken for three tokens long, with a point in the middle or not. -/
def wholeTable : Reader String := do
  let first ← peekAt 0
  let isQualified ← peekSymbolAt 1 "."
  let last ← peekAt 2
  skip 3
  match first, isQualified, last with
  | some (.word schema _ _), true, some (.word table _ _) => pure ("TABLE " ++ schema ++ "." ++ table)
  | some (.word table _ _), false, _ => pure ("TABLE " ++ table)
  | _, _, _ => unexpected

/-- A query without an operator. -/
def simpleBody : Reader QueryBody := do
  if ← keyword? "SELECT" then return .select (← select r)
  else if ← symbol? "(" then
    let query ← r.query
    symbol ")"
    pure (.nested query)
  else if ← keyword? "VALUES" then return .rows (← valueRows r)
  else if ← keyword? "TABLE" then return .rows (← wholeTable)
  else unexpected

/-- Which of the rows that occur on both sides are kept, and whether columns are matched by name. -/
def setQuantifier : Reader String := do
  if ← keywords? ["DISTINCT", "BY", "NAME"] then pure "DISTINCT BY NAME"
  else if ← keywords? ["BY", "NAME"] then pure "BY NAME"
  else if ← keyword? "ALL" then
    if ← keywords? ["BY", "NAME"] then pure "ALL BY NAME" else pure "ALL"
  else if ← keyword? "DISTINCT" then pure "DISTINCT"
  else pure ""

/-- The set operator that a keyword stands for. -/
def setOperator? (word : String) : Option SetOperator :=
  SetOperator.all.find? (·.keyword == word)

/-- A query without its order, whose set operators all bind more strongly than the level. -/
def queryBody (level : Nat) : Reader QueryBody := do
  let first ← simpleBody r
  iterate (fun left => do
    match setOperator? (← peekKeyword) with
    | some operator =>
      if level < operator.precedence then
        skip 1
        let quantifier ← setQuantifier
        return some (.combined operator quantifier left (← r.queryBody operator.precedence))
      else pure none
    | none => pure none) first

/-! ### Whole queries -/

/-- A common table expression. -/
def cte : Reader Cte := do
  let name ← name
  let columns ← (do
    if ← symbol? "(" then
      let columns ← commaSeparated r.dialect (typedName r)
      symbol ")"
      pure columns
    else pure [])
  keyword "AS"
  let materialized ← (do
    if r.dialect ≠ .postgres then pure ""
    else if ← keyword? "MATERIALIZED" then pure "MATERIALIZED"
    else if ← keywords? ["NOT", "MATERIALIZED"] then pure "NOT MATERIALIZED"
    else pure "")
  let query ← parenthesized r.query
  let origin ← afterKeyword "FROM" Grammar.name
  pure { aliasName := { name, columns }, materialized, query, origin }

/-- A query with its common table expressions and its order. -/
def query : Reader Query := deeper do
  let declares ← keyword? "WITH"
  let isRecursive ← onlyIf declares (keyword? "RECURSIVE")
  let ctes ← (do if declares then commaSeparated r.dialect (cte r) else pure [])
  if ← keyword? "INSERT" then
    return { isRecursive, ctes, body := ← insertBody r, orderBy := [], tail := "" }
  else if ← keyword? "UPDATE" then
    return { isRecursive, ctes, body := ← updateBody r, orderBy := [], tail := "" }
  else
    let body ← r.queryBody 0
    let (orderBy, interpolation) ← queryOrder r
    return { isRecursive, ctes, body, orderBy, tail := clauses [interpolation, ← queryTail r] }

end

/-! ### The rules -/

/-- The rules by which constructs may be nested in each other so many times. -/
def rulesWithin (dialect : Dialect) : Nat → Rules
  | 0 =>
    { dialect
      subexpression := fun _ => unexpected
      operand := unexpected
      query := unexpected
      queryBody := fun _ => unexpected
      joinedTables := unexpected }
  | fuel + 1 =>
    let inner := rulesWithin dialect fuel
    { dialect
      subexpression := subexpression inner
      operand := operand inner
      query := query inner
      queryBody := queryBody inner
      joinedTables := joinedTables inner }

end SqlLineage.Sql.Grammar
