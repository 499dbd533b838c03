/-
Module: SqlLineage.Proofs.Lineage.LexicalWalk
Purpose: The walk through a statement with lexical scope: what is visible is an argument of each walk, which
  no part changes for those behind it. The collector keeps the names in a stack instead, which each part
  pushes to and cuts off again, and looks for nested queries before it walks through them. Both walk alike, and
  the stack behind a query is as it was before it.
Main exports: walkQuery, collectQuery_eq, collectCtes_eq, queries_collectStatement
-/
import SqlLineage.Lineage.Collector
import SqlLineage.Proofs.Lineage.Reading

namespace SqlLineage.Lineage

/-! ### The walk -/

namespace Walk

/-- Fills another query in between; gives it back complete. -/
def within (inner : Query) (fill : Walk → Walk) (walk : Walk) : Walk × Query :=
  let filled := fill { walk with query := inner }
  ({ filled with query := walk.query }, filled.query)

/-- Fills a nested query of the statement with this index; gives back how it is referred to. -/
def nest (index : Nat) (aliasName : Option String) (fill : Walk → Walk) (walk : Walk) :
    Walk × TableReference :=
  let id := "sub_" ++ toString index ++ "_" ++ toString walk.nestedCount
  let nested : Query := { id, name := aliasName.getD "subquery", isSubQuery := true }
  let (walk, nested) := walk.count.within nested fill
  (walk.complete id nested, .named id aliasName false)

/-- A query that is filled in between leaves the one around it as it was. -/
@[simp] theorem query_within (inner : Query) (fill : Walk → Walk) (walk : Walk) :
    (walk.within inner fill).1.query = walk.query := rfl

/-- The walk when a nested query that is filled so is complete and listed. -/
def nested (index : Nat) (aliasName : Option String) (fill : Walk → Walk) (walk : Walk) : Walk :=
  let result := walk.nest index aliasName fill
  result.1.update (·.addTable result.2)

end Walk

mutual

/-- Walks through a query where the common table expressions of the scope are visible. -/
def walkQuery (index : Nat) (scope : List String) : Sql.Query → Walk → Walk
  | ⟨isRecursive, ctes, body, orderBy, _⟩, walk =>
    let (walk, scope) := walkCtes index isRecursive scope ctes walk
    (walkBody index scope body walk).update fun query =>
      { query with orderBy := query.orderBy ++ orderBy }

/-- Walks through declarations; each is visible to those after it, and to itself if they are recursive.
Gives back the scope after them. -/
def walkCtes (index : Nat) (isRecursive : Bool) (scope : List String) :
    List Sql.Cte → Walk → Walk × List String
  | [], walk => (walk, scope)
  | ⟨aliasName, _, definition, _⟩ :: rest, walk =>
    let name := aliasName.name.value
    let key := Text.lowercase name
    let inner := if isRecursive then scope ++ [key] else scope
    let empty : Query := { id := "cte_" ++ toString index ++ "_" ++ key, name, isCte := true }
    let (walk, definition) := walk.within empty (walkQuery index inner definition)
    walkCtes index isRecursive (scope ++ [key]) rest (walk.declare name definition)

def walkBody (index : Nat) (scope : List String) : Sql.QueryBody → Walk → Walk
  | .select select, walk => walkSelect index scope select walk
  | .nested query, walk => walkQuery index scope query walk
  | .combined operator quantifier left right, walk =>
    let before := walk.query.tables.length
    (walkBody index scope right (walkBody index scope left walk)).combine operator quantifier before
  | .write _ source _, walk => walkSource index scope source walk
  | .rows _, walk => walk

def walkSource (index : Nat) (scope : List String) : Option Sql.Query → Walk → Walk
  | none, walk => walk
  | some query, walk => walkQuery index scope query walk

/-- Walks through the relations of a query first, then through its columns and conditions. -/
def walkSelect (index : Nat) (scope : List String) : Sql.Select → Walk → Walk
  | ⟨_, items, _, tables, _, condition, groupBy, _, having, _⟩, walk =>
    let walk := walkItems index scope items (walkTables index scope tables walk)
    let walk := (walkOption index scope condition walk).filter "WHERE" condition
    let walk := walk.update fun query => { query with groupBy := query.groupBy ++ groupBy }
    (walkOption index scope having walk).filter "HAVING" having

def walkTables (index : Nat) (scope : List String) : List Sql.JoinedTables → Walk → Walk
  | [], walk => walk
  | joined :: rest, walk =>
    walkTables index scope rest (walkJoined index scope joined walk).1

/-- Walks through relations that are joined; gives back the first of them. -/
def walkJoined (index : Nat) (scope : List String) :
    Sql.JoinedTables → Walk → Walk × Option TableReference
  | ⟨relation, joins⟩, walk =>
    let (walk, primary) := walkFactor index scope relation walk
    (walkJoins index scope primary joins walk, primary)

/-- Walks through joins to the relation before them, which is the left side of each. -/
def walkJoins (index : Nat) (scope : List String) (primary : Option TableReference) :
    List Sql.Join → Walk → Walk
  | [], walk => walk
  | ⟨_, operator, relation, constraint⟩ :: rest, walk =>
    let (walk, right) := walkFactor index scope relation walk
    let walk := if keepsCondition operator then walkConstraint index scope constraint walk else walk
    walkJoins index scope primary rest (walk.join primary right operator constraint)

def walkConstraint (index : Nat) (scope : List String) : Sql.JoinConstraint → Walk → Walk
  | .on condition, walk => walkExpr index scope condition walk
  | _, walk => walk

/-- Notes what rows are taken from; gives it back unless it has no name. -/
def walkFactor (index : Nat) (scope : List String) :
    Sql.TableFactor → Walk → Walk × Option TableReference
  | .table name _ aliasName _, walk =>
    let reference := referenceTo scope name aliasName
    (walk.update (·.addTable reference), some reference)
  | .derived _ query aliasName, walk =>
    let (walk, reference) :=
      walk.nest index (aliasName.map (·.name.value)) (walkQuery index scope query)
    (walk.update (·.addTable reference), some reference)
  | .nested inner _, walk => walkJoined index scope inner walk
  | .other _ _ _, walk => (walk, none)

def walkItems (index : Nat) (scope : List String) : List Sql.SelectItem → Walk → Walk
  | [], walk => walk
  | item :: rest, walk =>
    let walk := (walkItem index scope item walk).update fun query =>
      { query with fields := query.fields ++ [fieldOf item] }
    walkItems index scope rest walk

def walkItem (index : Nat) (scope : List String) : Sql.SelectItem → Walk → Walk
  | .value expr _, walk => walkExpr index scope expr walk
  | .wildcard _, walk => walk

/-- Walks through the outermost queries of an expression, in the order of `Sql.Expr.queries`. The query
around it reads each of them. -/
def walkExpr (index : Nat) (scope : List String) : Sql.Expr → Walk → Walk
  | .column _, walk => walk
  | .nested inner, walk => walkExpr index scope inner walk
  | .conditional operand conditions results otherwise, walk =>
    let walk := walkExprs index scope conditions (walkOption index scope operand walk)
    walkOption index scope otherwise (walkExprs index scope results walk)
  | .call _ _ arguments ordering rest, walk =>
    walkParts index scope ordering
      (walkParts index scope rest (walkParts index scope arguments walk))
  | .braced call, walk => walkExpr index scope call walk
  | .operation left _ right, walk => walkExpr index scope right (walkExpr index scope left walk)
  | .phrase parts, walk => walkParts index scope parts walk
  | .inverted lead principal, walk =>
    walkParts index scope lead (walkParts index scope principal walk)

def walkOption (index : Nat) (scope : List String) : Option Sql.Expr → Walk → Walk
  | none, walk => walk
  | some expr, walk => walkExpr index scope expr walk

def walkExprs (index : Nat) (scope : List String) : List Sql.Expr → Walk → Walk
  | [], walk => walk
  | expr :: rest, walk => walkExprs index scope rest (walkExpr index scope expr walk)

def walkParts (index : Nat) (scope : List String) : List Sql.Part → Walk → Walk
  | [], walk => walk
  | part :: rest, walk => walkParts index scope rest (walkPart index scope part walk)

def walkPart (index : Nat) (scope : List String) : Sql.Part → Walk → Walk
  | .text _, walk => walk
  | .operand expr, walk => walkExpr index scope expr walk
  | .query query, walk =>
    let (walk, reference) := walk.nest index none (walkQuery index scope query)
    walk.update (·.addTable reference)

end

/-! ### What is found first and walked through later -/

/-- The walk through queries that are nested one after another in an expression. -/
def walkNested (index : Nat) (scope : List String) (queries : List Sql.Query) (walk : Walk) : Walk :=
  queries.foldl (fun walk query => walk.nested index none (walkQuery index scope query)) walk

@[simp] theorem walkNested_nil (index : Nat) (scope : List String) (walk : Walk) :
    walkNested index scope [] walk = walk := rfl

theorem walkNested_append (index : Nat) (scope : List String) (first second : List Sql.Query)
    (walk : Walk) : walkNested index scope (first ++ second) walk =
      walkNested index scope second (walkNested index scope first walk) :=
  List.foldl_append

mutual

/-- The walk through an expression is the walk through its outermost queries. -/
theorem walkExpr_eq (index : Nat) (scope : List String) : (expr : Sql.Expr) → (walk : Walk) →
    walkExpr index scope expr walk = walkNested index scope expr.queries walk
  | .column _, walk => by
      rw [walkExpr, Sql.Expr.queries, walkNested_nil]
  | .nested inner, walk => by
      rw [walkExpr, Sql.Expr.queries, walkExpr_eq index scope inner]
  | .conditional operand conditions results otherwise, walk => by
      rw [walkExpr, Sql.Expr.queries, walkNested_append, walkNested_append, walkNested_append,
        walkOption_eq index scope operand, walkExprs_eq index scope conditions,
        walkExprs_eq index scope results, walkOption_eq index scope otherwise]
  | .call _ _ arguments ordering rest, walk => by
      rw [walkExpr, Sql.Expr.queries, walkNested_append, walkNested_append,
        walkParts_eq index scope arguments, walkParts_eq index scope rest,
        walkParts_eq index scope ordering]
  | .braced call, walk => by
      rw [walkExpr, Sql.Expr.queries, walkExpr_eq index scope call]
  | .operation left _ right, walk => by
      rw [walkExpr, Sql.Expr.queries, walkNested_append, walkExpr_eq index scope left,
        walkExpr_eq index scope right]
  | .phrase parts, walk => by
      rw [walkExpr, Sql.Expr.queries, walkParts_eq index scope parts]
  | .inverted lead principal, walk => by
      rw [walkExpr, Sql.Expr.queries, walkNested_append, walkParts_eq index scope principal,
        walkParts_eq index scope lead]

theorem walkOption_eq (index : Nat) (scope : List String) : (expr : Option Sql.Expr) → (walk : Walk) →
    walkOption index scope expr walk = walkNested index scope (Sql.Expr.queriesOfOption expr) walk
  | none, walk => by
      rw [walkOption, Sql.Expr.queriesOfOption, walkNested_nil]
  | some expr, walk => by
      rw [walkOption, Sql.Expr.queriesOfOption, walkExpr_eq index scope expr]

theorem walkExprs_eq (index : Nat) (scope : List String) : (exprs : List Sql.Expr) → (walk : Walk) →
    walkExprs index scope exprs walk = walkNested index scope (Sql.Expr.queriesOfList exprs) walk
  | [], walk => by
      rw [walkExprs, Sql.Expr.queriesOfList, walkNested_nil]
  | expr :: rest, walk => by
      rw [walkExprs, Sql.Expr.queriesOfList, walkNested_append, walkExpr_eq index scope expr,
        walkExprs_eq index scope rest]

theorem walkParts_eq (index : Nat) (scope : List String) : (parts : List Sql.Part) → (walk : Walk) →
    walkParts index scope parts walk = walkNested index scope (Sql.Part.queriesOfList parts) walk
  | [], walk => by
      rw [walkParts, Sql.Part.queriesOfList, walkNested_nil]
  | part :: rest, walk => by
      rw [walkParts, Sql.Part.queriesOfList, walkNested_append, walkPart_eq index scope part,
        walkParts_eq index scope rest]

theorem walkPart_eq (index : Nat) (scope : List String) : (part : Sql.Part) → (walk : Walk) →
    walkPart index scope part walk = walkNested index scope part.queries walk
  | .text _, walk => by
      rw [walkPart, Sql.Part.queries, walkNested_nil]
  | .operand expr, walk => by
      rw [walkPart, Sql.Part.queries, walkExpr_eq index scope expr]
  | .query query, walk => by
      rw [walkPart, Sql.Part.queries]
      rfl

end

/-! ### The collector walks alike -/

/-- Declarations add their own names to the scope and nothing else, whatever is declared inside them. -/
theorem scope_walkCtes (index : Nat) (isRecursive : Bool) (scope : List String) (ctes : List Sql.Cte)
    (walk : Walk) : (walkCtes index isRecursive scope ctes walk).2 =
      scope ++ (ctes.map Sql.Cte.name).map Text.lowercase := by
  induction ctes generalizing scope walk with
  | nil => simp [walkCtes]
  | cons cte rest ih =>
      obtain ⟨aliasName, materialized, definition, origin⟩ := cte
      rw [walkCtes, ih]
      simp [Sql.Cte.name]

namespace Collector

section Fill

variable {fill : Collector → Collector} {walkFill : Walk → Walk} {scope : List String}
  (fills : ∀ walk, fill ⟨walk, scope⟩ = ⟨walkFill walk, scope⟩)

include fills

theorem within_eq (inner : Query) (walk : Walk) :
    within inner fill ⟨walk, scope⟩ =
      (⟨(walk.within inner walkFill).1, scope⟩, (walk.within inner walkFill).2) := by
  have filled : fill (note (·.update fun _ => inner) ⟨walk, scope⟩) =
      ⟨walkFill { walk with query := inner }, scope⟩ := fills _
  rw [within, filled]
  rfl

theorem nest_eq (index : Nat) (aliasName : Option String) (walk : Walk) :
    nest index aliasName fill ⟨walk, scope⟩ =
      (⟨(walk.nest index aliasName walkFill).1, scope⟩, (walk.nest index aliasName walkFill).2) := by
  rw [nest, note, within_eq fills]
  rfl

theorem link_eq (index : Nat) (walk : Walk) :
    link index fill ⟨walk, scope⟩ = ⟨walk.nested index none walkFill, scope⟩ := by
  rw [link, nest_eq fills]
  rfl

end Fill

/-- Queries that are walked through alike one by one are walked through alike one after another. -/
theorem foldl_eq {α : Type} {fill : α → Collector → Collector} {walkFill : α → Walk → Walk}
    {scope : List String} {items : List α}
    (fills : ∀ item ∈ items, ∀ walk, fill item ⟨walk, scope⟩ = ⟨walkFill item walk, scope⟩) (walk : Walk) :
    items.foldl (fun collector item => fill item collector) ⟨walk, scope⟩ =
      ⟨items.foldl (fun walk item => walkFill item walk) walk, scope⟩ := by
  induction items generalizing walk with
  | nil => rfl
  | cons item rest ih =>
      rw [List.foldl_cons, List.foldl_cons, fills item List.mem_cons_self]
      exact ih (fun other member => fills other (List.mem_cons_of_mem _ member)) _

end Collector

mutual

/-- The collector walks through a query as lexical scope says, and what was in scope before it is in scope
behind it. -/
theorem collectQuery_eq (index : Nat) (query : Sql.Query) (walk : Walk) (scope : List String) :
    collectQuery index query ⟨walk, scope⟩ = ⟨walkQuery index scope query walk, scope⟩ := by
  obtain ⟨isRecursive, ctes, body, orderBy, tail⟩ := query
  rw [collectQuery, walkQuery, collectCtes_eq, collectBody_eq]
  simp only [Collector.truncate, Collector.note, scope_walkCtes, List.take_left]
termination_by sizeOf query

/-- Behind declarations the stack of the collector is the scope that they leave. -/
theorem collectCtes_eq (index : Nat) (isRecursive : Bool) (ctes : List Sql.Cte) (walk : Walk)
    (scope : List String) : collectCtes index isRecursive ctes ⟨walk, scope⟩ =
      ⟨(walkCtes index isRecursive scope ctes walk).1, (walkCtes index isRecursive scope ctes walk).2⟩ := by
  match ctes with
  | [] => rw [collectCtes, walkCtes]
  | ⟨aliasName, materialized, definition, origin⟩ :: rest =>
      rw [collectCtes, walkCtes]
      cases isRecursive with
      | true =>
          have fills := Collector.within_eq fun walk =>
            collectQuery_eq index definition walk (scope ++ [Text.lowercase aliasName.name.value])
          simp only [if_true, Collector.push, fills, Collector.note]
          exact collectCtes_eq index true rest _ _
      | false =>
          have fills := Collector.within_eq fun walk => collectQuery_eq index definition walk scope
          simp only [Bool.false_eq_true, if_false, Collector.push, fills, Collector.note]
          exact collectCtes_eq index false rest _ _
termination_by sizeOf ctes

theorem collectBody_eq (index : Nat) (body : Sql.QueryBody) (walk : Walk) (scope : List String) :
    collectBody index body ⟨walk, scope⟩ = ⟨walkBody index scope body walk, scope⟩ := by
  match body with
  | .select select => rw [collectBody, walkBody, collectSelect_eq]
  | .nested query => rw [collectBody, walkBody, collectQuery_eq]
  | .combined operator quantifier left right =>
      rw [collectBody, walkBody, collectBody_eq index left, collectBody_eq index right]
      rfl
  | .write _ source _ => rw [collectBody, walkBody, collectSource_eq]
  | .rows _ => rw [collectBody, walkBody]
termination_by sizeOf body

theorem collectSource_eq (index : Nat) (source : Option Sql.Query) (walk : Walk) (scope : List String) :
    collectSource index source ⟨walk, scope⟩ = ⟨walkSource index scope source walk, scope⟩ := by
  match source with
  | none => rw [collectSource, walkSource]
  | some query => rw [collectSource, walkSource, collectQuery_eq]
termination_by sizeOf source

theorem collectSelect_eq (index : Nat) (select : Sql.Select) (walk : Walk) (scope : List String) :
    collectSelect index select ⟨walk, scope⟩ = ⟨walkSelect index scope select walk, scope⟩ := by
  obtain ⟨head, items, destination, tables, views, condition, groupBy, grouping, having, tail⟩ := select
  rw [collectSelect, walkSelect, collectTables_eq, collectItems_eq, collectOption_eq index condition]
  simp only [Collector.note]
  rw [collectOption_eq index having]
termination_by sizeOf select

theorem collectTables_eq (index : Nat) (tables : List Sql.JoinedTables) (walk : Walk)
    (scope : List String) :
    collectTables index tables ⟨walk, scope⟩ = ⟨walkTables index scope tables walk, scope⟩ := by
  match tables with
  | [] => rw [collectTables, walkTables]
  | joined :: rest =>
      rw [collectTables, walkTables, collectJoined_eq]
      exact collectTables_eq index rest _ scope
termination_by sizeOf tables

theorem collectJoined_eq (index : Nat) (joined : Sql.JoinedTables) (walk : Walk) (scope : List String) :
    collectJoined index joined ⟨walk, scope⟩ =
      (⟨(walkJoined index scope joined walk).1, scope⟩, (walkJoined index scope joined walk).2) := by
  obtain ⟨relation, joins⟩ := joined
  rw [collectJoined, walkJoined, collectFactor_eq]
  simp only [collectJoins_eq index _ joins]
termination_by sizeOf joined

theorem collectJoins_eq (index : Nat) (primary : Option TableReference) (joins : List Sql.Join)
    (walk : Walk) (scope : List String) :
    collectJoins index primary joins ⟨walk, scope⟩ = ⟨walkJoins index scope primary joins walk, scope⟩ := by
  match joins with
  | [] => rw [collectJoins, walkJoins]
  | ⟨isGlobal, operator, relation, constraint⟩ :: rest =>
      have conditioned : ∀ walk : Walk,
          (if keepsCondition operator then collectConstraint index constraint ⟨walk, scope⟩
            else ⟨walk, scope⟩) =
          (⟨if keepsCondition operator then walkConstraint index scope constraint walk else walk, scope⟩ :
            Collector) := by
        intro walk
        split
        · exact collectConstraint_eq index constraint walk scope
        · rfl
      rw [collectJoins, walkJoins, collectFactor_eq]
      simp only [conditioned, Collector.note]
      exact collectJoins_eq index primary rest _ scope
termination_by sizeOf joins

theorem collectConstraint_eq (index : Nat) (constraint : Sql.JoinConstraint) (walk : Walk)
    (scope : List String) :
    collectConstraint index constraint ⟨walk, scope⟩ =
      ⟨walkConstraint index scope constraint walk, scope⟩ := by
  match constraint with
  | .on condition => rw [collectConstraint, walkConstraint, collectExpr_eq]
  | .using _ | .natural | .none => rw [collectConstraint.eq_def, walkConstraint.eq_def]
termination_by sizeOf constraint

theorem collectFactor_eq (index : Nat) (factor : Sql.TableFactor) (walk : Walk) (scope : List String) :
    collectFactor index factor ⟨walk, scope⟩ =
      (⟨(walkFactor index scope factor walk).1, scope⟩, (walkFactor index scope factor walk).2) := by
  match factor with
  | .table name _ aliasName _ =>
      rw [collectFactor, walkFactor]
      rfl
  | .derived _ query aliasName =>
      have fills := Collector.nest_eq fun walk => collectQuery_eq index query walk scope
      rw [collectFactor, walkFactor, fills]
      rfl
  | .nested inner _ => rw [collectFactor, walkFactor, collectJoined_eq]
  | .other _ _ _ => rw [collectFactor, walkFactor]
termination_by sizeOf factor

theorem collectItems_eq (index : Nat) (items : List Sql.SelectItem) (walk : Walk) (scope : List String) :
    collectItems index items ⟨walk, scope⟩ = ⟨walkItems index scope items walk, scope⟩ := by
  match items with
  | [] => rw [collectItems, walkItems]
  | item :: rest =>
      rw [collectItems, walkItems, collectItem_eq]
      exact collectItems_eq index rest _ scope
termination_by sizeOf items

theorem collectItem_eq (index : Nat) (item : Sql.SelectItem) (walk : Walk) (scope : List String) :
    collectItem index item ⟨walk, scope⟩ = ⟨walkItem index scope item walk, scope⟩ := by
  match item with
  | .value expr _ => rw [collectItem, walkItem, collectExpr_eq]
  | .wildcard _ => rw [collectItem, walkItem]
termination_by sizeOf item

theorem collectOption_eq (index : Nat) (expr : Option Sql.Expr) (walk : Walk) (scope : List String) :
    collectOption index expr ⟨walk, scope⟩ = ⟨walkOption index scope expr walk, scope⟩ := by
  match expr with
  | none => rw [collectOption, walkOption]
  | some expr => rw [collectOption, walkOption, collectExpr_eq]
termination_by sizeOf expr

/-- The queries that the search finds in an expression are those that the walk comes to. -/
theorem collectExpr_eq (index : Nat) (expr : Sql.Expr) (walk : Walk) (scope : List String) :
    collectExpr index expr ⟨walk, scope⟩ = ⟨walkExpr index scope expr walk, scope⟩ := by
  have fills : ∀ found ∈ expr.outermost.attach, ∀ walk : Walk,
      Collector.link index (collectQuery index found.1) ⟨walk, scope⟩ =
        ⟨walk.nested index none (walkQuery index scope found.1), scope⟩ := by
    intro found _
    have smaller := Sql.Expr.sizeOf_lt_of_mem_outermost found.2
    exact Collector.link_eq (fun walk => collectQuery_eq index found.1 walk scope) index
  have attached := List.foldl_attach (l := expr.outermost) (b := walk)
    (f := fun walk query => walk.nested index none (walkQuery index scope query))
  rw [collectExpr, Collector.foldl_eq fills, attached, walkExpr_eq, walkNested, Sql.Expr.outermost_eq_queries]
termination_by sizeOf expr

end

/-- What the collector gathers of a statement is what the walk with lexical scope gathers. -/
theorem ctes_collectStatement (index : Nat) (tree : Sql.Query) (root : Query) :
    (collectStatement index tree root).ctes = (walkQuery index [] tree { query := root }).ctes := by
  rw [collectStatement, collectQuery_eq]

theorem queries_collectStatement (index : Nat) (tree : Sql.Query) (root : Query) :
    (collectStatement index tree root).queries = (walkQuery index [] tree { query := root }).queries ++
      [(walkQuery index [] tree { query := root }).query] := by
  rw [collectStatement, collectQuery_eq]

end SqlLineage.Lineage
