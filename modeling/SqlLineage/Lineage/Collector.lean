/-
Module: SqlLineage.Lineage.Collector
Purpose: The lineage of one statement, from the syntax tree of the query it takes its rows from. Common
  table expressions and nested queries become queries of their own, each before the one that reads it.
Main exports: Walk, Collector, transformationOf, collectQuery, collectStatement
-/
import SqlLineage.Lineage.ParsedScript
import SqlLineage.Sql.Printer
import SqlLineage.Sql.Subquery

namespace SqlLineage.Lineage

/-! ### Columns -/

/-- The functions that make one value of many. -/
def aggregateFunctions : List String := [
  "array_agg", "avg", "count", "group_concat", "listagg", "max", "min", "string_agg", "sum"]

/-- How the result of a call is derived. -/
def callTransformation (name : String) (windowed : Bool) : Transformation :=
  let name := Text.lowercase name
  if windowed then .window
  else if aggregateFunctions.contains name then .aggregation
  else if name = "concat" || name = "concat_ws" then .concatenation
  else .expression

/-- How a column is derived from its expression. -/
def transformationOf : Sql.Expr → Transformation
  | .column _ => .direct
  | .nested inner => transformationOf inner
  | .call name windowed _ _ _ => callTransformation name windowed
  | .braced call => transformationOf call
  | .conditional _ _ _ _ => .conditional
  | .operation _ "||" _ => .concatenation
  | _ => .expression

/-- The name that a column without another one has. -/
def implicitName : Sql.Expr → Option String
  | .column path => path.getLast?.map Sql.Ident.value
  | _ => none

/-- What is known of a column of a select list. -/
def fieldOf : Sql.SelectItem → Field
  | .value expr aliasName =>
    { expression := expr.render
      aliasName := (aliasName.map Sql.Ident.value).or (implicitName expr)
      transformation := transformationOf expr }
  | .wildcard text => { expression := text }

/-! ### Joins -/

/-- The kind of a join. Those that are no plain joins count as inner ones. -/
def joinKind : Sql.JoinOperator → JoinKind
  | .left => .left
  | .right => .right
  | .full => .full
  | .cross => .cross
  | _ => .inner

/-- Whether the condition of the join says which rows belong together. -/
def keepsCondition : Sql.JoinOperator → Bool
  | .inner | .left | .right | .full => true
  | _ => false

/-- The text of the condition of a join. -/
def conditionText (operator : Sql.JoinOperator) : Sql.JoinConstraint → Option String
  | .on condition => if keepsCondition operator then some condition.render else none
  | .using columns =>
    if keepsCondition operator then some ("USING (" ++ Sql.renderPaths columns ++ ")") else none
  | _ => none

/-! ### Walking a tree -/

/-- How far the walk through a statement has come. -/
structure Walk where
  ctes : List Cte := []
  /-- The queries that are complete. -/
  queries : List Query := []
  /-- How many nested queries there were. -/
  nestedCount : Nat := 0
  /-- The query that is being filled. -/
  query : Query
deriving Repr, DecidableEq

namespace Walk

/-- Changes the query that is being filled. -/
def update (change : Query → Query) (walk : Walk) : Walk :=
  { walk with query := change walk.query }

/-- Counts a nested query. -/
def count (walk : Walk) : Walk := { walk with nestedCount := walk.nestedCount + 1 }

/-- Notes a complete nested query of this id, which the query that is being filled depends on. -/
def complete (id : String) (nested : Query) (walk : Walk) : Walk :=
  { walk with queries := walk.queries ++ [nested] }.update (·.addDependency id)

/-- Notes a complete definition of a common table expression. -/
def declare (name : String) (definition : Query) (walk : Walk) : Walk :=
  { walk with
    queries := walk.queries ++ [definition]
    ctes := walk.ctes ++ [{ name, definition }] }

/-- Notes a join of two relations, if there are two. -/
def join (left right : Option TableReference) (operator : Sql.JoinOperator)
    (constraint : Sql.JoinConstraint) (walk : Walk) : Walk :=
  match left, right with
  | some left, some right =>
    let clause : JoinClause :=
      { left, right, kind := joinKind operator, condition := conditionText operator constraint }
    walk.update fun query => { query with joins := query.joins ++ [clause] }
  | _, _ => walk

/-- Notes a condition on rows. -/
def filter (clause : String) (condition : Option Sql.Expr) (walk : Walk) : Walk :=
  match condition with
  | some expr =>
    walk.update fun query =>
      { query with filters := query.filters ++ [{ clause, condition := expr.render }] }
  | none => walk

/-- Notes a set operation over the relations after so many. The innermost operation that comes first
gives it its kind, and a relation is noted once. -/
def combine (operator : Sql.SetOperator) (quantifier : String) (before : Nat) (walk : Walk) : Walk :=
  walk.update fun query =>
    let info := query.unionInfo.getD { kind := operator.keyword ++ Sql.spaced quantifier }
    let names := (query.tables.drop before).map TableReference.name
    let sources := names.foldl
      (fun sources name => if sources.contains name then sources else sources ++ [name]) info.sources
    { query with unionInfo := some { info with sources } }

@[simp] theorem query_update (change : Query → Query) (walk : Walk) :
    (walk.update change).query = change walk.query := rfl

@[simp] theorem queries_update (change : Query → Query) (walk : Walk) :
    (walk.update change).queries = walk.queries := rfl

end Walk

/-- A reference to a relation by name, seen where the common table expressions of these names, in lower
case, are visible. -/
def referenceTo (scope : List String) (name : List Sql.Ident) (aliasName : Option Sql.TableAlias) :
    TableReference :=
  let name := Text.joinWith "." (name.map Sql.Ident.value)
  .named name (aliasName.map (·.name.value)) (scope.contains (Text.lowercase name))

/-- A walk through a statement, with what is in scope where it has come to. -/
structure Collector extends Walk where
  /-- The names of the common table expressions that are visible, in lower case. -/
  scope : List String := []
deriving Repr, DecidableEq

namespace Collector

/-- The walk goes on, with the same names in scope. -/
def note (change : Walk → Walk) (collector : Collector) : Collector :=
  { collector with toWalk := change collector.toWalk }

/-- A name comes into scope. -/
def push (key : String) (collector : Collector) : Collector :=
  { collector with scope := collector.scope ++ [key] }

/-- The names that came into scope last go out of it, until so many are left. -/
def truncate (length : Nat) (collector : Collector) : Collector :=
  { collector with scope := collector.scope.take length }

/-- Fills another query in between; gives it back complete. -/
def within (inner : Query) (fill : Collector → Collector) (collector : Collector) :
    Collector × Query :=
  let filled := fill (collector.note (·.update fun _ => inner))
  (filled.note (·.update fun _ => collector.query), filled.query)

/-- Fills a nested query of the statement with this index; gives back how it is referred to. -/
def nest (index : Nat) (aliasName : Option String) (fill : Collector → Collector)
    (collector : Collector) : Collector × TableReference :=
  let id := "sub_" ++ toString index ++ "_" ++ toString collector.nestedCount
  let nested : Query := { id, name := aliasName.getD "subquery", isSubQuery := true }
  let (collector, nested) := (collector.note .count).within nested fill
  (collector.note (·.complete id nested), .named id aliasName false)

/-- Fills a query that is nested in an expression, and that the query around it reads. -/
def link (index : Nat) (fill : Collector → Collector) (collector : Collector) : Collector :=
  let (collector, reference) := collector.nest index none fill
  collector.note (·.update (·.addTable reference))

end Collector

mutual

/-- Walks through a query. What it declares goes out of scope behind it. -/
def collectQuery (index : Nat) : Sql.Query → Collector → Collector
  | ⟨isRecursive, ctes, body, orderBy, _⟩, collector =>
    let filled := collectBody index body (collectCtes index isRecursive ctes collector)
    let ordered := filled.note (·.update fun query =>
      { query with orderBy := query.orderBy ++ orderBy })
    ordered.truncate collector.scope.length
termination_by query => sizeOf query

/-- Walks through declarations. Each comes into scope behind its definition, or before it if they are
recursive. -/
def collectCtes (index : Nat) (isRecursive : Bool) : List Sql.Cte → Collector → Collector
  | [], collector => collector
  | ⟨aliasName, _, definition, _⟩ :: rest, collector =>
    let name := aliasName.name.value
    let key := Text.lowercase name
    let collector := if isRecursive then collector.push key else collector
    let empty : Query := { id := "cte_" ++ toString index ++ "_" ++ key, name, isCte := true }
    let (collector, definition) := collector.within empty (collectQuery index definition)
    let collector := if isRecursive then collector else collector.push key
    collectCtes index isRecursive rest (collector.note (·.declare name definition))
termination_by ctes => sizeOf ctes

def collectBody (index : Nat) : Sql.QueryBody → Collector → Collector
  | .select select, collector => collectSelect index select collector
  | .nested query, collector => collectQuery index query collector
  | .combined operator quantifier left right, collector =>
    let before := collector.query.tables.length
    let filled := collectBody index right (collectBody index left collector)
    filled.note (·.combine operator quantifier before)
  | .write _ source _, collector => collectSource index source collector
  | .rows _, collector => collector
termination_by body => sizeOf body

def collectSource (index : Nat) : Option Sql.Query → Collector → Collector
  | none, collector => collector
  | some query, collector => collectQuery index query collector
termination_by source => sizeOf source

/-- Walks through the relations of a query first, then through its columns and conditions. -/
def collectSelect (index : Nat) : Sql.Select → Collector → Collector
  | ⟨_, items, _, tables, _, condition, groupBy, _, having, _⟩, collector =>
    let collector := collectItems index items (collectTables index tables collector)
    let collector := (collectOption index condition collector).note (·.filter "WHERE" condition)
    let collector := collector.note (·.update fun query =>
      { query with groupBy := query.groupBy ++ groupBy })
    (collectOption index having collector).note (·.filter "HAVING" having)
termination_by select => sizeOf select

def collectTables (index : Nat) : List Sql.JoinedTables → Collector → Collector
  | [], collector => collector
  | joined :: rest, collector => collectTables index rest (collectJoined index joined collector).1
termination_by tables => sizeOf tables

/-- Walks through relations that are joined; gives back the first of them. -/
def collectJoined (index : Nat) : Sql.JoinedTables → Collector → Collector × Option TableReference
  | ⟨relation, joins⟩, collector =>
    let (collector, primary) := collectFactor index relation collector
    (collectJoins index primary joins collector, primary)
termination_by joined => sizeOf joined

/-- Walks through joins to the relation before them, which is the left side of each. -/
def collectJoins (index : Nat) (primary : Option TableReference) :
    List Sql.Join → Collector → Collector
  | [], collector => collector
  | ⟨_, operator, relation, constraint⟩ :: rest, collector =>
    let (collector, right) := collectFactor index relation collector
    let collector :=
      if keepsCondition operator then collectConstraint index constraint collector else collector
    collectJoins index primary rest (collector.note (·.join primary right operator constraint))
termination_by joins => sizeOf joins

def collectConstraint (index : Nat) : Sql.JoinConstraint → Collector → Collector
  | .on condition, collector => collectExpr index condition collector
  | _, collector => collector
termination_by constraint => sizeOf constraint

/-- Notes what rows are taken from; gives it back unless it has no name. -/
def collectFactor (index : Nat) :
    Sql.TableFactor → Collector → Collector × Option TableReference
  | .table name _ aliasName _, collector =>
    let reference := referenceTo collector.scope name aliasName
    (collector.note (·.update (·.addTable reference)), some reference)
  | .derived _ query aliasName, collector =>
    let (collector, reference) :=
      collector.nest index (aliasName.map (·.name.value)) (collectQuery index query)
    (collector.note (·.update (·.addTable reference)), some reference)
  | .nested inner _, collector => collectJoined index inner collector
  | .other _ _ _, collector => (collector, none)
termination_by factor => sizeOf factor

def collectItems (index : Nat) : List Sql.SelectItem → Collector → Collector
  | [], collector => collector
  | item :: rest, collector =>
    let collector := (collectItem index item collector).note (·.update fun query =>
      { query with fields := query.fields ++ [fieldOf item] })
    collectItems index rest collector
termination_by items => sizeOf items

def collectItem (index : Nat) : Sql.SelectItem → Collector → Collector
  | .value expr _, collector => collectExpr index expr collector
  | .wildcard _, collector => collector
termination_by item => sizeOf item

def collectOption (index : Nat) : Option Sql.Expr → Collector → Collector
  | none, collector => collector
  | some expr, collector => collectExpr index expr collector
termination_by expr => sizeOf expr

/-- Walks through the outermost queries of an expression when all of them are found. -/
def collectExpr (index : Nat) (expr : Sql.Expr) (collector : Collector) : Collector :=
  expr.outermost.attach.foldl
    (fun collector found => collector.link index (collectQuery index found.1)) collector
termination_by sizeOf expr
decreasing_by exact Sql.Expr.sizeOf_lt_of_mem_outermost found.2

end

/-- The lineage of the statement with this index, whose own query is filled from the syntax tree. -/
def collectStatement (index : Nat) (tree : Sql.Query) (root : Query) : StatementLineage :=
  let filled := collectQuery index tree { query := root }
  { ctes := filled.ctes, queries := filled.queries ++ [filled.query] }

end SqlLineage.Lineage
