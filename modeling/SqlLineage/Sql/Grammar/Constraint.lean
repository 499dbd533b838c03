/-
Module: SqlLineage.Sql.Grammar.Constraint
Purpose: The constraints on the rows of a table. Lineage asks nothing of them, so that they are only
  recognized.
Main exports: references, characteristics, columnList, tableConstraint?
-/
import SqlLineage.Sql.Grammar.Rules

namespace SqlLineage.Sql.Grammar

/-- Goes on reading parts of one kind until none comes next. -/
def repeated (part? : Reader Bool) : Reader Unit := do
  let _ ← many do
    if ← part? then pure (some ()) else pure none

/-! ### When a constraint holds -/

/-- Which aspects of the moment at which a constraint is checked were given. Each is given once. -/
structure Characteristics where
  deferrable : Bool := false
  initially : Bool := false
  enforced : Bool := false

/-- Whether a constraint is enforced, and when it is checked. -/
def characteristics : Reader Unit := do
  let _ ← iterate (fun (given : Characteristics) => do
    if ← onlyIf (!given.deferrable)
        (firstOf (keywords? ["NOT", "DEFERRABLE"]) (keyword? "DEFERRABLE")) then
      pure (some { given with deferrable := true })
    else if ← onlyIf (!given.initially) (keyword? "INITIALLY") then
      let _ ← oneOf ["DEFERRED", "IMMEDIATE"]
      pure (some { given with initially := true })
    else if ← onlyIf (!given.enforced)
        (firstOf (keyword? "ENFORCED") (keywords? ["NOT", "ENFORCED"])) then
      pure (some { given with enforced := true })
    else pure none) {}

/-! ### References -/

/-- What happens to rows that refer to a row which is changed. -/
def referentialAction : Reader Unit := do
  let actions : List (List String) :=
    [["RESTRICT"], ["CASCADE"], ["SET", "NULL"], ["NO", "ACTION"], ["SET", "DEFAULT"]]
  match ← actions.findM? keywords? with
  | some _ => pure ()
  | none => unexpected

/-- What happens when a row that others refer to is deleted or changed; at most once for each. -/
def referentialActions : Reader Unit := do
  let _ ← iterate (fun (onDelete, onUpdate) => do
    if ← onlyIf (!onDelete) (keywords? ["ON", "DELETE"]) then
      referentialAction
      pure (some (true, onUpdate))
    else if ← onlyIf (!onUpdate) (keywords? ["ON", "UPDATE"]) then
      referentialAction
      pure (some (onDelete, true))
    else pure none) (false, false)

/-- Names in parentheses, of which there is one at least. -/
def columnList (dialect : Dialect) : Reader Unit := do
  let _ ← names dialect

/-- Names in parentheses, which may be left out. -/
def columnList? (dialect : Dialect) : Reader Unit := do
  if ← peekSymbol "(" then columnList dialect

/-- The table and the columns that are referred to, after `REFERENCES`. -/
def references (dialect : Dialect) : Reader Unit := do
  let _ ← path dialect
  columnList? dialect
  referentialActions
  characteristics

/-! ### Indexes -/

/-- How an index is built, if it says so. -/
def indexMethod? : Reader Bool := do
  if ← keyword? "USING" then
    let _ ← oneOf ["BTREE", "HASH"]
    pure true
  else pure false

/-- An option of an index. -/
def indexOption? (dialect : Dialect) : Reader Bool := do
  if ← indexMethod? then pure true
  else if ← keyword? "COMMENT" then
    let _ ← stringValue dialect
    pure true
  else pure false

/-- The name of an index, if it has one. Any word is taken for it. -/
def indexName? : Reader Unit := do
  let _ ← attempt name

/-- The rest of a constraint that rows differ in some columns. -/
def uniqueColumns (dialect : Dialect) : Reader Unit := do
  indexName?
  let _ ← indexMethod?
  columnList dialect
  repeated (indexOption? dialect)
  characteristics

section

variable (r : Rules)

/-- A condition in parentheses. -/
def check : Reader Unit := do
  let _ ← parenthesized r.expression

/-- An index among the columns of a table. It has no name of its own before it. -/
def index? : Reader Bool := do
  if (← oneOf? ["INDEX", "KEY"]).isSome then
    if (← peekKeyword) != "USING" then indexName?
    let _ ← indexMethod?
    columnList r.dialect
    pure true
  else if (← oneOf? ["FULLTEXT", "SPATIAL"]).isSome then
    let _ ← oneOf? ["KEY", "INDEX"]
    indexName?
    columnList r.dialect
    pure true
  else pure false

/-- A constraint after its name. -/
def constraint? : Reader Bool := do
  match ← oneOf? ["UNIQUE", "PRIMARY", "FOREIGN", "CHECK"] with
  | some "UNIQUE" =>
    let marked := (← oneOf? ["KEY", "INDEX"]).isSome
    if marked && !r.dialect.isAnyOf [.generic, .mysql] then unexpected
    if ← keyword? "NULLS" then
      let _ ← keyword? "NOT"
      keyword "DISTINCT"
    uniqueColumns r.dialect
    pure true
  | some "PRIMARY" =>
    keyword "KEY"
    uniqueColumns r.dialect
    pure true
  | some "FOREIGN" =>
    keyword "KEY"
    columnList r.dialect
    keyword "REFERENCES"
    references r.dialect
    pure true
  | some _ =>
    check r
    pure true
  | none => pure false

/-- A constraint on the rows of a table or an index of it. -/
def tableConstraint? : Reader Bool := do
  if ← keyword? "CONSTRAINT" then
    let _ ← name
    if ← constraint? r then pure true else unexpected
  else if ← constraint? r then pure true
  else if r.dialect.isAnyOf [.generic, .mysql] then index? r
  else pure false

end

end SqlLineage.Sql.Grammar
