/-
Module: SqlLineage.Sql.Grammar.Join
Purpose: Relations that are joined to each other, and the lists of them after `FROM`.
Main exports: join?, joinedTables, fromTables
-/
import SqlLineage.Sql.Grammar.Relation

namespace SqlLineage.Sql.Grammar

section

variable (r : Rules)

/-- The condition of a join, if it has one. -/
def joinConstraint : Reader JoinConstraint := do
  if ← keyword? "ON" then return .on (← r.expression)
  else if ← keyword? "USING" then
    return .using (← parenthesized (commaSeparated r.dialect (tablePath r.dialect)))
  else pure .none

/-- The operator of a join after its side: the one that keeps all rows of that side, or one of those
that keep the rows for which the other side has a row, or has none. -/
def sidedJoin (outer present absent : JoinOperator) : Reader JoinOperator := do
  match ← oneOf ["OUTER", "SEMI", "ANTI", "JOIN"] with
  | "OUTER" =>
    keyword "JOIN"
    pure outer
  | "SEMI" =>
    keyword "JOIN"
    pure present
  | "ANTI" =>
    keyword "JOIN"
    pure absent
  | _ => pure outer

/-- The operator of a join that may have a condition. -/
def constrainedJoin? : Reader (Option JoinOperator) := do
  match ← peekKeyword with
  | "JOIN" =>
    skip 1
    pure (some .inner)
  | "INNER" =>
    keywords ["INNER", "JOIN"]
    pure (some .inner)
  | "LEFT" =>
    skip 1
    return some (← sidedJoin .left .leftSemi .leftAnti)
  | "RIGHT" =>
    skip 1
    return some (← sidedJoin .right .rightSemi .rightAnti)
  | "ANTI" =>
    keywords ["ANTI", "JOIN"]
    pure (some .anti)
  | "SEMI" =>
    keywords ["SEMI", "JOIN"]
    pure (some .semi)
  | "FULL" =>
    skip 1
    let _ ← keyword? "OUTER"
    keyword "JOIN"
    pure (some .full)
  | _ => pure none

/-- The operator of a join that has no condition. -/
def unconstrainedJoin? : Reader (Option JoinOperator) := do
  if ← keyword? "CROSS" then
    match ← oneOf ["JOIN", "APPLY"] with
    | "JOIN" => pure (some .cross)
    | _ => pure (some .crossApply)
  else if ← keyword? "OUTER" then
    keyword "APPLY"
    pure (some .outerApply)
  else pure none

/-- A join and the relation that it adds. -/
def join? : Reader (Option Join) := do
  let isGlobal ← keyword? "GLOBAL"
  match ← unconstrainedJoin? with
  | some operator =>
    return some { isGlobal, operator, relation := ← tableFactor r, constraint := .none }
  | none =>
    if ← keyword? "ASOF" then
      keyword "JOIN"
      let relation ← tableFactor r
      keyword "MATCH_CONDITION"
      let matching ← parenthesized r.expression
      return some
        { isGlobal, operator := .asof matching.render, relation, constraint := ← joinConstraint r }
    else
      let isNatural ← keyword? "NATURAL"
      match ← constrainedJoin? with
      | some operator =>
        let relation ← tableFactor r
        let constraint ← (do if isNatural then pure .natural else joinConstraint r)
        return some { isGlobal, operator, relation, constraint }
      | none => if isNatural then unexpected else pure none

/-- A relation and those joined to it. -/
def joinedTables : Reader JoinedTables := do
  let relation ← tableFactor r
  return { relation, joins := ← many (join? r) }

/-- Relations after `FROM`, with those joined to each of them. -/
def fromTables : Reader (List JoinedTables) :=
  commaSeparatedUntil (onlyIf r.dialect.trailingTableCommas (atListEnd endsTables)) r.joinedTables

end

end SqlLineage.Sql.Grammar
