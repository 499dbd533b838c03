/-
Module: SqlLineage.Proofs.Lineage.WalkSteps
Purpose: An induction principle for the walk through a statement. A relation between two points of a walk
  and the part of the syntax tree between them that holds across each single step, in the scope of the step,
  holds across the whole walk.
Main exports: Query.SameKind, Walk.Notes, IsScope, Walk.Steps, Walk.Steps.onQuery
-/
import SqlLineage.Proofs.Lineage.LexicalWalk
import SqlLineage.Proofs.Lineage.QueryId

namespace SqlLineage.Lineage

open Sql (Frame Sees Reading)

/-! ### Steps -/

/-- Whether a query is the same one later, however it was filled. -/
structure Query.SameKind (query later : Query) : Prop where
  id : later.id = query.id
  name : later.name = query.name
  isCte : later.isCte = query.isCte
  isSubQuery : later.isSubQuery = query.isSubQuery

namespace Query.SameKind

variable {query later last : Query}

theorem refl (query : Query) : query.SameKind query :=
  ⟨rfl, rfl, rfl, rfl⟩

theorem trans (first : query.SameKind later) (second : later.SameKind last) : query.SameKind last where
  id := second.id.trans first.id
  name := second.name.trans first.name
  isCte := second.isCte.trans first.isCte
  isSubQuery := second.isSubQuery.trans first.isSubQuery

theorem addDependency (name : String) (query : Query) :
    query.SameKind (query.addDependency name) := by
  unfold Query.addDependency
  split
  · exact refl query
  · exact ⟨rfl, rfl, rfl, rfl⟩

theorem addTable (table : TableReference) (query : Query) : query.SameKind (query.addTable table) := by
  unfold Query.addTable
  split
  · have noted := addDependency table.key query
    exact ⟨noted.id, noted.name, noted.isCte, noted.isSubQuery⟩
  · exact ⟨rfl, rfl, rfl, rfl⟩

end Query.SameKind

/-- The query that a common table expression of the statement with this index starts from. -/
def emptyDefinition (index : Nat) (name : String) : Query :=
  { id := (QueryId.declared index (Text.lowercase name)).text, name, isCte := true }

/-- The query that a nested query starts from, with so many before it. -/
def emptyNested (index number : Nat) (aliasName : Option String) : Query :=
  { id := (QueryId.nested index number).text, name := aliasName.getD "subquery", isSubQuery := true }

namespace Walk

/-- Whether only columns, joins, conditions and the like were noted between two points of a walk. -/
structure Notes (walk later : Walk) : Prop where
  query : walk.query.SameKind later.query
  tables : later.query.tables = walk.query.tables
  dependsOn : later.query.dependsOn = walk.query.dependsOn
  queries : later.queries = walk.queries
  nestedCount : later.nestedCount = walk.nestedCount

/-- The walk when a common table expression is declared whose definition is filled so. -/
def declared (index : Nat) (name : String) (fill : Walk → Walk) (walk : Walk) : Walk :=
  let filled := walk.within (emptyDefinition index name) fill
  filled.1.declare name filled.2

theorem notes_refl (walk : Walk) : walk.Notes walk :=
  ⟨.refl _, rfl, rfl, rfl, rfl⟩

theorem notes_update {change : Query → Query} {walk : Walk}
    (sameKind : walk.query.SameKind (change walk.query))
    (tables : (change walk.query).tables = walk.query.tables)
    (dependsOn : (change walk.query).dependsOn = walk.query.dependsOn) :
    walk.Notes (walk.update change) :=
  ⟨sameKind, tables, dependsOn, rfl, rfl⟩

theorem notes_filter (clause : String) (condition : Option Sql.Expr) (walk : Walk) :
    walk.Notes (walk.filter clause condition) := by
  cases condition with
  | none => exact notes_refl walk
  | some expr => exact ⟨⟨rfl, rfl, rfl, rfl⟩, rfl, rfl, rfl, rfl⟩

theorem notes_join (left right : Option TableReference) (operator : Sql.JoinOperator)
    (constraint : Sql.JoinConstraint) (walk : Walk) :
    walk.Notes (walk.join left right operator constraint) := by
  cases left with
  | none => exact notes_refl walk
  | some left =>
      cases right with
      | none => exact notes_refl walk
      | some right => exact ⟨⟨rfl, rfl, rfl, rfl⟩, rfl, rfl, rfl, rfl⟩

theorem notes_combine (operator : Sql.SetOperator) (quantifier : String) (before : Nat) (walk : Walk) :
    walk.Notes (walk.combine operator quantifier before) :=
  notes_update ⟨rfl, rfl, rfl, rfl⟩ rfl rfl

end Walk

/-! ### Scopes -/

/-- Whether a scope holds exactly the names, in lower case, that are visible where these frames stand
around. -/
def IsScope (scope : List String) (around : List Frame) : Prop := ∀ key, key ∈ scope ↔ Sees around key

/-- Whether a scope holds exactly what is visible, and the names that are declared by now. -/
def IsScopeBehind (scope : List String) (earlier : List String) (around : List Frame) : Prop :=
  ∀ key, key ∈ scope ↔ key ∈ earlier.map Text.lowercase ∨ Sees around key

theorem isScope_nil : IsScope [] [] := by
  intro key
  simp

/-- A body sees all that its query declares. -/
theorem IsScope.body {scope names : List String} {around : List Frame} (isScope : IsScope scope around) :
    IsScope (scope ++ names.map Text.lowercase) (.body names :: around) := by
  intro key
  rw [Sql.sees_cons_iff, Sql.shows_body_iff, List.mem_append, isScope key, or_comm]

namespace IsScopeBehind

variable {scope earlier : List String} {around : List Frame}

theorem start (isScope : IsScope scope around) : IsScopeBehind scope [] around := by
  intro key
  simp [isScope key]

/-- A definition sees what is declared before it, and itself if it is recursive. -/
theorem definition (isScope : IsScopeBehind scope earlier around) (isRecursive : Bool) (name : String) :
    IsScope (if isRecursive then scope ++ [Text.lowercase name] else scope)
      (.definition isRecursive earlier name :: around) := by
  intro key
  rw [Sql.sees_cons_iff, Sql.shows_definition_iff]
  cases isRecursive with
  | false => simp [isScope key]
  | true =>
      rw [if_pos rfl, List.mem_append, isScope key]
      simp [or_comm, or_left_comm]

theorem next (isScope : IsScopeBehind scope earlier around) (name : String) :
    IsScopeBehind (scope ++ [Text.lowercase name]) (earlier ++ [name]) around := by
  intro key
  simp only [List.mem_append, List.map_append, isScope key, List.map_cons, List.map_nil]
  exact or_right_comm

end IsScopeBehind

theorem keepsCondition_eq (operator : Sql.JoinOperator) :
    keepsCondition operator = operator.isConditional := by
  cases operator <;> rfl

/-! ### Relations that hold across each step -/

namespace Walk

/-- Whether a relation holds across each step of a walk through the statement with this index. It is between
two points of the walk and what the part between them reads, where these frames stand around and the names
of the list are in scope. What is declared is in scope for the rest of the walk. -/
structure Steps (index : Nat) (related : List Frame → List String → Walk → Reading → Walk → Prop) :
    Prop where
  notes : ∀ {around scope walk later}, walk.Notes later → related around scope walk {} later
  append : ∀ {around scope walk reading later behind last}, related around scope walk reading later →
    related around scope later behind last → related around scope walk (reading ++ behind) last
  table : ∀ {around scope}, IsScope scope around → ∀ name aliasName walk,
    related around scope walk
      { own := [⟨around, .table (Text.joinWith "." (name.map Sql.Ident.value))
        (aliasName.map fun aliasName : Sql.TableAlias => aliasName.name.value)⟩] }
      (walk.update (·.addTable (referenceTo scope name aliasName)))
  nested : ∀ {around scope reading fill}, (∀ walk, related around scope walk reading (fill walk)) →
    ∀ aliasName walk,
      related around scope walk (reading.asNested around aliasName) (walk.nested index aliasName fill)
  declared : ∀ {around scope isRecursive earlier name reading fill},
    (∀ walk, related (.definition isRecursive earlier name :: around)
      (if isRecursive then scope ++ [Text.lowercase name] else scope) walk reading (fill walk)) →
    ∀ {walk behind last},
      related around (scope ++ [Text.lowercase name]) (walk.declared index name fill) behind last →
      related around scope walk (reading.asDefinition ++ behind) last
  body : ∀ {names around scope walk reading last},
    related (.body names :: around) scope walk reading last → related around scope walk reading last

namespace Steps

variable {index : Nat} {related : List Frame → List String → Walk → Reading → Walk → Prop}
  (steps : Walk.Steps index related)

include steps

theorem refl (around : List Frame) (scope : List String) (walk : Walk) :
    related around scope walk {} walk :=
  steps.notes (notes_refl walk)

/-- What is noted behind a part of a walk does not count. -/
theorem noting {around : List Frame} {scope : List String} {walk later last : Walk} {reading : Reading}
    (first : related around scope walk reading later) (noted : later.Notes last) :
    related around scope walk reading last := by
  rw [← Sql.Reading.append_empty reading]
  exact steps.append first (steps.notes noted)

/-! ### The parts of a statement -/

mutual

/-- What holds across each step holds across the walk through a query. -/
theorem onQuery {around : List Frame} {scope : List String} (isScope : IsScope scope around) :
    (query : Sql.Query) → (walk : Walk) →
      related around scope walk (query.reading around) (walkQuery index scope query walk)
  | ⟨isRecursive, ctes, body, _, _⟩, walk => by
      rw [walkQuery, Sql.Query.reading]
      have inBody : IsScope (walkCtes index isRecursive scope ctes walk).2
          (.body (ctes.map Sql.Cte.name) :: around) := by
        rw [scope_walkCtes]
        exact isScope.body
      apply onCtes isRecursive (.start isScope) ctes walk
      apply steps.body
      exact steps.noting (onBody inBody body _) (notes_update ⟨rfl, rfl, rfl, rfl⟩ rfl rfl)

/-- What holds from the end of the declarations on, in the scope behind them, holds from their start. -/
theorem onCtes {around : List Frame} {scope earlier : List String} (isRecursive : Bool)
    (isScope : IsScopeBehind scope earlier around) :
    (ctes : List Sql.Cte) → (walk : Walk) → {behind : Reading} → {last : Walk} →
      related around (walkCtes index isRecursive scope ctes walk).2
        (walkCtes index isRecursive scope ctes walk).1 behind last →
      related around scope walk (Sql.Cte.readingOfList isRecursive around earlier ctes ++ behind) last
  | [], walk, _, _, later => by
      rw [walkCtes] at later
      rw [Sql.Cte.readingOfList, Sql.Reading.empty_append]
      exact later
  | ⟨aliasName, _, definition, _⟩ :: rest, walk, _, _, later => by
      rw [walkCtes] at later
      rw [Sql.Cte.readingOfList, Sql.Reading.append_assoc]
      have fills := onQuery (isScope.definition isRecursive aliasName.name.value) definition
      exact steps.declared fills (onCtes isRecursive (isScope.next aliasName.name.value) rest _ later)

theorem onBody {around : List Frame} {scope : List String} (isScope : IsScope scope around) :
    (body : Sql.QueryBody) → (walk : Walk) →
      related around scope walk (body.reading around) (walkBody index scope body walk)
  | .select select, walk => by
      rw [walkBody, Sql.QueryBody.reading]
      exact onSelect isScope select walk
  | .nested query, walk => by
      rw [walkBody, Sql.QueryBody.reading]
      exact onQuery isScope query walk
  | .combined _ _ left right, walk => by
      rw [walkBody, Sql.QueryBody.reading]
      exact steps.noting (steps.append (onBody isScope left walk) (onBody isScope right _))
        (notes_combine _ _ _ _)
  | .write _ source _, walk => by
      rw [walkBody, Sql.QueryBody.reading]
      exact onSource isScope source walk
  | .rows _, walk => by
      rw [walkBody, Sql.QueryBody.reading]
      exact steps.refl around scope walk

theorem onSource {around : List Frame} {scope : List String} (isScope : IsScope scope around) :
    (source : Option Sql.Query) → (walk : Walk) →
      related around scope walk (Sql.Query.readingOfOption around source)
        (walkSource index scope source walk)
  | none, walk => by
      rw [walkSource, Sql.Query.readingOfOption]
      exact steps.refl around scope walk
  | some query, walk => by
      rw [walkSource, Sql.Query.readingOfOption]
      exact onQuery isScope query walk

theorem onSelect {around : List Frame} {scope : List String} (isScope : IsScope scope around) :
    (select : Sql.Select) → (walk : Walk) →
      related around scope walk (select.reading around) (walkSelect index scope select walk)
  | ⟨_, items, _, tables, _, condition, groupBy, _, having, _⟩, walk => by
      rw [walkSelect, Sql.Select.reading]
      have columns := steps.append (onTables isScope tables walk) (onItems isScope items _)
      have rows := steps.noting (steps.append columns (onOption isScope condition _))
        (notes_filter "WHERE" condition _)
      have grouped : ∀ walk : Walk, walk.Notes (walk.update fun query =>
          { query with groupBy := query.groupBy ++ groupBy }) :=
        fun _ => notes_update ⟨rfl, rfl, rfl, rfl⟩ rfl rfl
      exact steps.noting (steps.append (steps.noting rows (grouped _)) (onOption isScope having _))
        (notes_filter "HAVING" having _)

theorem onTables {around : List Frame} {scope : List String} (isScope : IsScope scope around) :
    (tables : List Sql.JoinedTables) → (walk : Walk) →
      related around scope walk (Sql.JoinedTables.readingOfList around tables)
        (walkTables index scope tables walk)
  | [], walk => by
      rw [walkTables, Sql.JoinedTables.readingOfList]
      exact steps.refl around scope walk
  | joined :: rest, walk => by
      rw [walkTables, Sql.JoinedTables.readingOfList]
      exact steps.append (onJoined isScope joined walk) (onTables isScope rest _)

theorem onJoined {around : List Frame} {scope : List String} (isScope : IsScope scope around) :
    (joined : Sql.JoinedTables) → (walk : Walk) →
      related around scope walk (joined.reading around) (walkJoined index scope joined walk).1
  | ⟨relation, joins⟩, walk => by
      rw [walkJoined, Sql.JoinedTables.reading]
      exact steps.append (onFactor isScope relation walk) (onJoins isScope _ joins _)

theorem onJoins {around : List Frame} {scope : List String} (isScope : IsScope scope around)
    (primary : Option TableReference) : (joins : List Sql.Join) → (walk : Walk) →
      related around scope walk (Sql.Join.readingOfList around joins)
        (walkJoins index scope primary joins walk)
  | [], walk => by
      rw [walkJoins, Sql.Join.readingOfList]
      exact steps.refl around scope walk
  | ⟨_, operator, relation, constraint⟩ :: rest, walk => by
      rw [walkJoins, Sql.Join.readingOfList, keepsCondition_eq]
      have conditioned : ∀ walk, related around scope walk
          (if operator.isConditional then constraint.reading around else {})
          (if operator.isConditional then walkConstraint index scope constraint walk else walk) := by
        intro walk
        split
        · exact onConstraint isScope constraint walk
        · exact steps.refl around scope walk
      have right := steps.append (onFactor isScope relation walk) (conditioned _)
      exact steps.append (steps.noting right (notes_join primary _ operator constraint _))
        (onJoins isScope primary rest _)

theorem onConstraint {around : List Frame} {scope : List String} (isScope : IsScope scope around) :
    (constraint : Sql.JoinConstraint) → (walk : Walk) →
      related around scope walk (constraint.reading around) (walkConstraint index scope constraint walk)
  | .on condition, walk => by
      rw [walkConstraint, Sql.JoinConstraint.reading]
      exact onExpr isScope condition walk
  | .using _, walk => by
      rw [walkConstraint.eq_def, Sql.JoinConstraint.reading.eq_def]
      exact steps.refl around scope walk
  | .natural, walk => by
      rw [walkConstraint.eq_def, Sql.JoinConstraint.reading.eq_def]
      exact steps.refl around scope walk
  | .none, walk => by
      rw [walkConstraint.eq_def, Sql.JoinConstraint.reading.eq_def]
      exact steps.refl around scope walk

theorem onFactor {around : List Frame} {scope : List String} (isScope : IsScope scope around) :
    (factor : Sql.TableFactor) → (walk : Walk) →
      related around scope walk (factor.reading around) (walkFactor index scope factor walk).1
  | .table name _ aliasName _, walk => by
      rw [walkFactor, Sql.TableFactor.reading]
      exact steps.table isScope name aliasName walk
  | .derived _ query aliasName, walk => by
      rw [walkFactor, Sql.TableFactor.reading]
      exact steps.nested (onQuery isScope query) _ walk
  | .nested inner _, walk => by
      rw [walkFactor, Sql.TableFactor.reading]
      exact onJoined isScope inner walk
  | .other _ _ _, walk => by
      rw [walkFactor, Sql.TableFactor.reading]
      exact steps.refl around scope walk

theorem onItems {around : List Frame} {scope : List String} (isScope : IsScope scope around) :
    (items : List Sql.SelectItem) → (walk : Walk) →
      related around scope walk (Sql.SelectItem.readingOfList around items)
        (walkItems index scope items walk)
  | [], walk => by
      rw [walkItems, Sql.SelectItem.readingOfList]
      exact steps.refl around scope walk
  | item :: rest, walk => by
      rw [walkItems, Sql.SelectItem.readingOfList]
      have listed : ∀ walk : Walk, walk.Notes (walk.update fun query =>
          { query with fields := query.fields ++ [fieldOf item] }) :=
        fun _ => notes_update ⟨rfl, rfl, rfl, rfl⟩ rfl rfl
      exact steps.append (steps.noting (onItem isScope item walk) (listed _)) (onItems isScope rest _)

theorem onItem {around : List Frame} {scope : List String} (isScope : IsScope scope around) :
    (item : Sql.SelectItem) → (walk : Walk) →
      related around scope walk (item.reading around) (walkItem index scope item walk)
  | .value expr _, walk => by
      rw [walkItem, Sql.SelectItem.reading]
      exact onExpr isScope expr walk
  | .wildcard _, walk => by
      rw [walkItem, Sql.SelectItem.reading]
      exact steps.refl around scope walk

theorem onExpr {around : List Frame} {scope : List String} (isScope : IsScope scope around) :
    (expr : Sql.Expr) → (walk : Walk) →
      related around scope walk (expr.reading around) (walkExpr index scope expr walk)
  | .column _, walk => by
      rw [walkExpr, Sql.Expr.reading]
      exact steps.refl around scope walk
  | .nested inner, walk => by
      rw [walkExpr, Sql.Expr.reading]
      exact onExpr isScope inner walk
  | .conditional operand conditions results otherwise, walk => by
      rw [walkExpr, Sql.Expr.reading]
      have tested := steps.append (onOption isScope operand walk) (onExprs isScope conditions _)
      exact steps.append (steps.append tested (onExprs isScope results _)) (onOption isScope otherwise _)
  | .call _ _ arguments ordering rest, walk => by
      rw [walkExpr, Sql.Expr.reading]
      exact steps.append (steps.append (onParts isScope arguments walk) (onParts isScope rest _))
        (onParts isScope ordering _)
  | .braced call, walk => by
      rw [walkExpr, Sql.Expr.reading]
      exact onExpr isScope call walk
  | .operation left _ right, walk => by
      rw [walkExpr, Sql.Expr.reading]
      exact steps.append (onExpr isScope left walk) (onExpr isScope right _)
  | .phrase parts, walk => by
      rw [walkExpr, Sql.Expr.reading]
      exact onParts isScope parts walk
  | .inverted lead principal, walk => by
      rw [walkExpr, Sql.Expr.reading]
      exact steps.append (onParts isScope principal walk) (onParts isScope lead _)

theorem onOption {around : List Frame} {scope : List String} (isScope : IsScope scope around) :
    (expr : Option Sql.Expr) → (walk : Walk) →
      related around scope walk (Sql.Expr.readingOfOption around expr) (walkOption index scope expr walk)
  | none, walk => by
      rw [walkOption, Sql.Expr.readingOfOption]
      exact steps.refl around scope walk
  | some expr, walk => by
      rw [walkOption, Sql.Expr.readingOfOption]
      exact onExpr isScope expr walk

theorem onExprs {around : List Frame} {scope : List String} (isScope : IsScope scope around) :
    (exprs : List Sql.Expr) → (walk : Walk) →
      related around scope walk (Sql.Expr.readingOfList around exprs) (walkExprs index scope exprs walk)
  | [], walk => by
      rw [walkExprs, Sql.Expr.readingOfList]
      exact steps.refl around scope walk
  | expr :: rest, walk => by
      rw [walkExprs, Sql.Expr.readingOfList]
      exact steps.append (onExpr isScope expr walk) (onExprs isScope rest _)

theorem onParts {around : List Frame} {scope : List String} (isScope : IsScope scope around) :
    (parts : List Sql.Part) → (walk : Walk) →
      related around scope walk (Sql.Part.readingOfList around parts) (walkParts index scope parts walk)
  | [], walk => by
      rw [walkParts, Sql.Part.readingOfList]
      exact steps.refl around scope walk
  | part :: rest, walk => by
      rw [walkParts, Sql.Part.readingOfList]
      exact steps.append (onPart isScope part walk) (onParts isScope rest _)

theorem onPart {around : List Frame} {scope : List String} (isScope : IsScope scope around) :
    (part : Sql.Part) → (walk : Walk) →
      related around scope walk (part.reading around) (walkPart index scope part walk)
  | .text _, walk => by
      rw [walkPart, Sql.Part.reading]
      exact steps.refl around scope walk
  | .operand expr, walk => by
      rw [walkPart, Sql.Part.reading]
      exact onExpr isScope expr walk
  | .query query, walk => by
      rw [walkPart, Sql.Part.reading]
      exact steps.nested (onQuery isScope query) none walk

end

end Steps

end Walk

end SqlLineage.Lineage
