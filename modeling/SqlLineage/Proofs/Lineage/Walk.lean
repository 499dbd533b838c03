/-
Module: SqlLineage.Proofs.Lineage.Walk
Purpose: What a walk through a statement leaves behind. A query that is filled keeps what it is and what
  it writes, lists the relations that it joins in the order of each join, and has only inner queries before
  it.
Main exports: Query.JoinsListed, Query.IsInner, Query.Extends, Walk.Extends, extends_walkQuery
-/
import SqlLineage.Proofs.Lineage.LexicalWalk

namespace SqlLineage.Lineage

/-! ### Queries -/

/-- Whether relations are listed with the two sides of a join among them, the left one before the right
one. -/
def JoinClause.ListedIn (tables : List TableReference) (join : JoinClause) : Prop :=
  [join.left, join.right].Sublist tables

namespace JoinClause.ListedIn

variable {tables more : List TableReference} {join : JoinClause}

theorem left_mem (listed : join.ListedIn tables) : join.left ∈ tables :=
  List.Sublist.mem List.mem_cons_self listed

theorem right_mem (listed : join.ListedIn tables) : join.right ∈ tables :=
  List.Sublist.mem (List.mem_cons_of_mem _ List.mem_cons_self) listed

theorem append (listed : join.ListedIn tables) (more : List TableReference) :
    join.ListedIn (tables ++ more) :=
  listed.trans (List.sublist_append_left tables more)

/-- A relation is listed before those that are listed behind it. -/
theorem of_append (left : join.left ∈ tables) (right : join.right ∈ more) :
    join.ListedIn (tables ++ more) :=
  (List.singleton_sublist.mpr left).append (List.singleton_sublist.mpr right)

end JoinClause.ListedIn

/-- Whether a query lists all the relations that it joins, the left one of each join before the right
one. -/
def Query.JoinsListed (query : Query) : Prop :=
  ∀ join ∈ query.joins, join.ListedIn query.tables

/-- What a query inside a statement is: a common table expression or a subquery, which writes nothing. -/
structure Query.IsInner (query : Query) : Prop where
  kind : query.isCte = !query.isSubQuery
  silent : query.outputs = []
  joins : query.JoinsListed

/-- How a query may be filled. -/
structure Query.Extends (query later : Query) : Prop where
  isCte : later.isCte = query.isCte
  isSubQuery : later.isSubQuery = query.isSubQuery
  outputs : later.outputs = query.outputs
  tables : query.tables <+: later.tables
  joins : query.JoinsListed → later.JoinsListed

namespace Query

namespace Extends

variable {query later last : Query}

theorem refl (query : Query) : query.Extends query :=
  ⟨rfl, rfl, rfl, List.prefix_rfl, fun listed => listed⟩

theorem trans (first : query.Extends later) (second : later.Extends last) : query.Extends last where
  isCte := second.isCte.trans first.isCte
  isSubQuery := second.isSubQuery.trans first.isSubQuery
  outputs := second.outputs.trans first.outputs
  tables := first.tables.trans second.tables
  joins listed := second.joins (first.joins listed)

/-- A query may be filled with anything that is neither a relation nor a join. -/
theorem of_eq (isCte : later.isCte = query.isCte) (isSubQuery : later.isSubQuery = query.isSubQuery)
    (outputs : later.outputs = query.outputs) (tables : later.tables = query.tables)
    (joins : later.joins = query.joins) : query.Extends later where
  isCte := isCte
  isSubQuery := isSubQuery
  outputs := outputs
  tables := tables ▸ List.prefix_rfl
  joins listed := by rwa [JoinsListed, tables, joins]

theorem isInner (filled : query.Extends later) (inner : query.IsInner) : later.IsInner where
  kind := by rw [filled.isCte, filled.isSubQuery, inner.kind]
  silent := filled.outputs.trans inner.silent
  joins := filled.joins inner.joins

end Extends

theorem isInner_of_joins_eq_nil {query : Query} (kind : query.isCte = !query.isSubQuery)
    (silent : query.outputs = []) (unjoined : query.joins = []) : query.IsInner where
  kind := kind
  silent := silent
  joins join member := by
    rw [unjoined] at member
    cases member

theorem extends_addDependency (name : String) (query : Query) :
    query.Extends (query.addDependency name) := by
  unfold addDependency
  split
  · exact .refl query
  · exact .of_eq rfl rfl rfl rfl rfl

theorem extends_addTable (table : TableReference) (query : Query) :
    query.Extends (query.addTable table) := by
  have noted : query.Extends (if table.isCte then query.addDependency table.key else query) := by
    split
    · exact extends_addDependency _ query
    · exact .refl query
  exact noted.trans ⟨rfl, rfl, rfl, List.prefix_append _ [table],
    fun listed join member => (listed join member).append [table]⟩

end Query

/-! ### Walks -/

namespace Walk

/-- How a walk may go on: the query that is being filled extends, and the complete ones are inner
queries. -/
structure Extends (walk later : Walk) : Prop where
  query : walk.query.Extends later.query
  queries : (∀ query ∈ walk.queries, query.IsInner) → ∀ query ∈ later.queries, query.IsInner

/-- Whether a reference, if there is one, is listed between two points of a walk. -/
def Finds (walk later : Walk) (reference : Option TableReference) : Prop :=
  ∀ table, reference = some table →
    ∃ own, later.query.tables = walk.query.tables ++ own ∧ table ∈ own

/-- A walk on to a reference that is listed on the way. -/
structure Gives (walk : Walk) (result : Walk × Option TableReference) : Prop where
  onward : walk.Extends result.1
  listed : walk.Finds result.1 result.2

variable {walk later last : Walk}

theorem Extends.refl (walk : Walk) : walk.Extends walk :=
  ⟨.refl walk.query, id⟩

theorem Extends.trans (first : walk.Extends later) (second : later.Extends last) :
    walk.Extends last :=
  ⟨first.query.trans second.query, fun inner => second.queries (first.queries inner)⟩

/-- What is listed stays listed. -/
theorem Finds.extend {reference : Option TableReference} (finds : walk.Finds later reference)
    (onward : later.Extends last) : walk.Finds last reference := by
  intro table given
  obtain ⟨own, tables, listed⟩ := finds table given
  obtain ⟨more, tablesLast⟩ := onward.query.tables
  refine ⟨own ++ more, ?_, List.mem_append_left _ listed⟩
  rw [← tablesLast, tables, List.append_assoc]

theorem Finds.mem {reference : Option TableReference} (finds : walk.Finds later reference)
    {table : TableReference} (given : reference = some table) : table ∈ later.query.tables := by
  obtain ⟨own, tables, listed⟩ := finds table given
  rw [tables]
  exact List.mem_append_right _ listed

theorem extends_update {change : Query → Query} (filled : walk.query.Extends (change walk.query)) :
    walk.Extends (walk.update change) :=
  ⟨filled, id⟩

theorem extends_addTable (table : TableReference) (walk : Walk) :
    walk.Extends (walk.update (·.addTable table)) :=
  extends_update (Query.extends_addTable table walk.query)

theorem gives_addTable (onward : walk.Extends later) (table : TableReference) :
    walk.Gives (later.update (·.addTable table), some table) where
  onward := onward.trans (extends_addTable table later)
  listed := by
    intro _ given
    cases given
    obtain ⟨own, tables⟩ := onward.query.tables
    refine ⟨own ++ [table], ?_, List.mem_append_right _ List.mem_cons_self⟩
    rw [query_update, Query.tables_addTable, ← tables, List.append_assoc]

theorem extends_filter (clause : String) (condition : Option Sql.Expr) (walk : Walk) :
    walk.Extends (walk.filter clause condition) := by
  cases condition with
  | none => exact .refl walk
  | some expr => exact ⟨.of_eq rfl rfl rfl rfl rfl, id⟩

theorem extends_combine (operator : Sql.SetOperator) (quantifier : String) (before : Nat)
    (walk : Walk) : walk.Extends (walk.combine operator quantifier before) :=
  extends_update (.of_eq rfl rfl rfl rfl rfl)

/-- A relation may be joined to one that was listed before it. -/
theorem extends_join {left right : Option TableReference} (operator : Sql.JoinOperator)
    (constraint : Sql.JoinConstraint)
    (leftListed : ∀ table, left = some table → table ∈ walk.query.tables)
    (rightListed : walk.Finds later right) :
    later.Extends (later.join left right operator constraint) := by
  cases left with
  | none => exact .refl later
  | some left =>
      cases right with
      | none => exact .refl later
      | some right =>
          refine ⟨⟨rfl, rfl, rfl, List.prefix_rfl, fun listed join member => ?_⟩, id⟩
          rcases List.mem_append.mp member with old | new
          · exact listed join old
          · obtain ⟨own, tables, isListed⟩ := rightListed right rfl
            rw [List.mem_singleton.mp new]
            show JoinClause.ListedIn later.query.tables _
            rw [tables]
            exact .of_append (leftListed left rfl) isListed

section Within

variable {fill : Walk → Walk} (fills : ∀ walk : Walk, walk.Extends (fill walk))

include fills

theorem extends_within (inner : Query) (walk : Walk) : walk.Extends (walk.within inner fill).1 :=
  ⟨.refl walk.query, (fills { walk with query := inner }).queries⟩

theorem isInner_within {inner : Query} (isInner : inner.IsInner) (walk : Walk) :
    (walk.within inner fill).2.IsInner :=
  (fills { walk with query := inner }).query.isInner isInner

theorem extends_nest (index : Nat) (aliasName : Option String) (walk : Walk) :
    walk.Extends (walk.nest index aliasName fill).1 := by
  let nested : Query := {
    id := "sub_" ++ toString index ++ "_" ++ toString walk.nestedCount
    name := aliasName.getD "subquery"
    isSubQuery := true }
  have isInner : nested.IsInner := Query.isInner_of_joins_eq_nil rfl rfl rfl
  let counted : Walk := { walk with nestedCount := walk.nestedCount + 1 }
  refine ⟨Query.extends_addDependency _ walk.query, fun inner query member => ?_⟩
  rcases List.mem_append.mp member with old | new
  · exact (extends_within fills nested counted).queries inner query old
  · rw [List.mem_singleton.mp new]
    exact isInner_within fills isInner counted

end Within

theorem extends_declare {definition : Query} (isInner : definition.IsInner) (name : String)
    (walk : Walk) : walk.Extends (walk.declare name definition) := by
  refine ⟨.refl walk.query, fun inner query member => ?_⟩
  rcases List.mem_append.mp member with old | new
  · exact inner query old
  · rw [List.mem_singleton.mp new]
    exact isInner

end Walk

/-! ### The parts of a statement -/

mutual

theorem extends_walkQuery (index : Nat) (scope : List String) :
    (query : Sql.Query) → (walk : Walk) → walk.Extends (walkQuery index scope query walk)
  | ⟨isRecursive, ctes, body, _, _⟩, walk => by
      rw [walkQuery]
      exact ((extends_walkCtes index isRecursive scope ctes walk).trans
        (extends_walkBody index _ body _)).trans
          (Walk.extends_update (.of_eq rfl rfl rfl rfl rfl))

theorem extends_walkCtes (index : Nat) (isRecursive : Bool) (scope : List String) :
    (ctes : List Sql.Cte) → (walk : Walk) →
      walk.Extends (walkCtes index isRecursive scope ctes walk).1
  | [], walk => by
      rw [walkCtes]
      exact .refl walk
  | ⟨aliasName, _, definition, _⟩ :: rest, walk => by
      rw [walkCtes]
      have fills := extends_walkQuery index
        (if isRecursive then scope ++ [Text.lowercase aliasName.name.value] else scope) definition
      let empty : Query := {
        id := "cte_" ++ toString index ++ "_" ++ Text.lowercase aliasName.name.value
        name := aliasName.name.value
        isCte := true }
      have emptyInner : empty.IsInner := Query.isInner_of_joins_eq_nil rfl rfl rfl
      have filled := Walk.extends_within fills empty walk
      have isInner := Walk.isInner_within fills emptyInner walk
      exact (filled.trans (Walk.extends_declare isInner aliasName.name.value _)).trans
        (extends_walkCtes index isRecursive _ rest _)

theorem extends_walkBody (index : Nat) (scope : List String) :
    (body : Sql.QueryBody) → (walk : Walk) → walk.Extends (walkBody index scope body walk)
  | .select select, walk => by
      rw [walkBody]
      exact extends_walkSelect index scope select walk
  | .nested query, walk => by
      rw [walkBody]
      exact extends_walkQuery index scope query walk
  | .combined operator quantifier left right, walk => by
      rw [walkBody]
      exact ((extends_walkBody index scope left walk).trans
        (extends_walkBody index scope right _)).trans (Walk.extends_combine operator quantifier _ _)
  | .write _ source _, walk => by
      rw [walkBody]
      exact extends_walkSource index scope source walk
  | .rows _, walk => by
      rw [walkBody]
      exact .refl walk

theorem extends_walkSource (index : Nat) (scope : List String) :
    (source : Option Sql.Query) → (walk : Walk) → walk.Extends (walkSource index scope source walk)
  | none, walk => by
      rw [walkSource]
      exact .refl walk
  | some query, walk => by
      rw [walkSource]
      exact extends_walkQuery index scope query walk

theorem extends_walkSelect (index : Nat) (scope : List String) :
    (select : Sql.Select) → (walk : Walk) → walk.Extends (walkSelect index scope select walk)
  | ⟨_, items, _, tables, _, condition, groupBy, _, having, _⟩, walk => by
      rw [walkSelect]
      have columns := (extends_walkTables index scope tables walk).trans
        (extends_walkItems index scope items _)
      have rows := (columns.trans (extends_walkOption index scope condition _)).trans
        (Walk.extends_filter "WHERE" condition _)
      have grouped : ∀ walk : Walk, walk.Extends (walk.update fun query =>
          { query with groupBy := query.groupBy ++ groupBy }) :=
        fun walk => Walk.extends_update (.of_eq rfl rfl rfl rfl rfl)
      exact ((rows.trans (grouped _)).trans (extends_walkOption index scope having _)).trans
        (Walk.extends_filter "HAVING" having _)

theorem extends_walkTables (index : Nat) (scope : List String) :
    (tables : List Sql.JoinedTables) → (walk : Walk) →
      walk.Extends (walkTables index scope tables walk)
  | [], walk => by
      rw [walkTables]
      exact .refl walk
  | joined :: rest, walk => by
      rw [walkTables]
      exact (gives_walkJoined index scope joined walk).onward.trans
        (extends_walkTables index scope rest _)

/-- The first of the joined relations is listed before they are joined. -/
theorem gives_walkJoined (index : Nat) (scope : List String) :
    (joined : Sql.JoinedTables) → (walk : Walk) → walk.Gives (walkJoined index scope joined walk)
  | ⟨relation, joins⟩, walk => by
      rw [walkJoined]
      have first := gives_walkFactor index scope relation walk
      have onward := extends_walkJoins index scope joins _ fun _ given => first.listed.mem given
      exact ⟨first.onward.trans onward, first.listed.extend onward⟩

theorem extends_walkJoins (index : Nat) (scope : List String) {primary : Option TableReference} :
    (joins : List Sql.Join) → (walk : Walk) →
      (∀ table, primary = some table → table ∈ walk.query.tables) →
        walk.Extends (walkJoins index scope primary joins walk)
  | [], walk, _ => by
      rw [walkJoins]
      exact .refl walk
  | ⟨_, operator, relation, constraint⟩ :: rest, walk, listed => by
      rw [walkJoins]
      have right := gives_walkFactor index scope relation walk
      have conditioned : (walkFactor index scope relation walk).1.Extends
          (if keepsCondition operator then
            walkConstraint index scope constraint (walkFactor index scope relation walk).1
          else (walkFactor index scope relation walk).1) := by
        split
        · exact extends_walkConstraint index scope constraint _
        · exact .refl _
      have joined := (right.onward.trans conditioned).trans
        (Walk.extends_join operator constraint listed (right.listed.extend conditioned))
      exact joined.trans (extends_walkJoins index scope rest _
        fun table given => joined.query.tables.subset (listed table given))

theorem extends_walkConstraint (index : Nat) (scope : List String) :
    (constraint : Sql.JoinConstraint) → (walk : Walk) →
      walk.Extends (walkConstraint index scope constraint walk)
  | .on condition, walk => by
      rw [walkConstraint]
      exact extends_walkExpr index scope condition walk
  | .using _, walk => by
      rw [walkConstraint]
      · exact .refl walk
      · intro _ given
        cases given
  | .natural, walk => by
      rw [walkConstraint]
      · exact .refl walk
      · intro _ given
        cases given
  | .none, walk => by
      rw [walkConstraint]
      · exact .refl walk
      · intro _ given
        cases given

theorem gives_walkFactor (index : Nat) (scope : List String) :
    (factor : Sql.TableFactor) → (walk : Walk) → walk.Gives (walkFactor index scope factor walk)
  | .table name _ aliasName _, walk => by
      rw [walkFactor]
      exact Walk.gives_addTable (.refl walk) _
  | .derived _ query aliasName, walk => by
      rw [walkFactor]
      exact Walk.gives_addTable
        (Walk.extends_nest (extends_walkQuery index scope query) index _ walk) _
  | .nested inner _, walk => by
      rw [walkFactor]
      exact gives_walkJoined index scope inner walk
  | .other _ _ _, walk => by
      rw [walkFactor]
      exact ⟨.refl walk, fun _ given => nomatch given⟩

theorem extends_walkItems (index : Nat) (scope : List String) :
    (items : List Sql.SelectItem) → (walk : Walk) → walk.Extends (walkItems index scope items walk)
  | [], walk => by
      rw [walkItems]
      exact .refl walk
  | item :: rest, walk => by
      rw [walkItems]
      exact ((extends_walkItem index scope item walk).trans
        (Walk.extends_update (.of_eq rfl rfl rfl rfl rfl))).trans
          (extends_walkItems index scope rest _)

theorem extends_walkItem (index : Nat) (scope : List String) :
    (item : Sql.SelectItem) → (walk : Walk) → walk.Extends (walkItem index scope item walk)
  | .value expr _, walk => by
      rw [walkItem]
      exact extends_walkExpr index scope expr walk
  | .wildcard _, walk => by
      rw [walkItem]
      exact .refl walk

theorem extends_walkExpr (index : Nat) (scope : List String) :
    (expr : Sql.Expr) → (walk : Walk) → walk.Extends (walkExpr index scope expr walk)
  | .column _, walk => by
      rw [walkExpr]
      exact .refl walk
  | .nested inner, walk => by
      rw [walkExpr]
      exact extends_walkExpr index scope inner walk
  | .conditional operand conditions results otherwise, walk => by
      rw [walkExpr]
      have tested := (extends_walkOption index scope operand walk).trans
        (extends_walkExprs index scope conditions _)
      exact (tested.trans (extends_walkExprs index scope results _)).trans
        (extends_walkOption index scope otherwise _)
  | .call _ _ arguments ordering rest, walk => by
      rw [walkExpr]
      exact ((extends_walkParts index scope arguments walk).trans
        (extends_walkParts index scope rest _)).trans (extends_walkParts index scope ordering _)
  | .braced call, walk => by
      rw [walkExpr]
      exact extends_walkExpr index scope call walk
  | .operation left _ right, walk => by
      rw [walkExpr]
      exact (extends_walkExpr index scope left walk).trans (extends_walkExpr index scope right _)
  | .phrase parts, walk => by
      rw [walkExpr]
      exact extends_walkParts index scope parts walk
  | .inverted lead principal, walk => by
      rw [walkExpr]
      exact (extends_walkParts index scope principal walk).trans
        (extends_walkParts index scope lead _)

theorem extends_walkOption (index : Nat) (scope : List String) :
    (expr : Option Sql.Expr) → (walk : Walk) → walk.Extends (walkOption index scope expr walk)
  | none, walk => by
      rw [walkOption]
      exact .refl walk
  | some expr, walk => by
      rw [walkOption]
      exact extends_walkExpr index scope expr walk

theorem extends_walkExprs (index : Nat) (scope : List String) :
    (exprs : List Sql.Expr) → (walk : Walk) → walk.Extends (walkExprs index scope exprs walk)
  | [], walk => by
      rw [walkExprs]
      exact .refl walk
  | expr :: rest, walk => by
      rw [walkExprs]
      exact (extends_walkExpr index scope expr walk).trans (extends_walkExprs index scope rest _)

theorem extends_walkParts (index : Nat) (scope : List String) :
    (parts : List Sql.Part) → (walk : Walk) → walk.Extends (walkParts index scope parts walk)
  | [], walk => by
      rw [walkParts]
      exact .refl walk
  | part :: rest, walk => by
      rw [walkParts]
      exact (extends_walkPart index scope part walk).trans (extends_walkParts index scope rest _)

theorem extends_walkPart (index : Nat) (scope : List String) :
    (part : Sql.Part) → (walk : Walk) → walk.Extends (walkPart index scope part walk)
  | .text _, walk => by
      rw [walkPart]
      exact .refl walk
  | .operand expr, walk => by
      rw [walkPart]
      exact extends_walkExpr index scope expr walk
  | .query query, walk => by
      rw [walkPart]
      exact (Walk.extends_nest (extends_walkQuery index scope query) index none walk).trans
        (Walk.extends_addTable _ _)

end

end SqlLineage.Lineage
