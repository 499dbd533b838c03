/-
Module: SqlLineage.Proofs.Lineage.WithLists
Purpose: The common table expressions of a script are those of its queries that define one, in the same
  order and under the same names. What is declared together comes in the order of the declarations.
Main exports: Sql.Query.IsPartOf, Collects, EntersInOrder, Mirrored, Walk.Mirrors, mirrors_walkQuery,
  ctes_mirror_queries
-/
import SqlLineage.Proofs.Lineage.Script
import SqlLineage.Proofs.Lineage.WalkSteps

/-! ### The queries inside a query -/

namespace SqlLineage.Sql

mutual

/-- The outermost queries that rows are taken from, and those in the conditions of joins that have one. -/
def JoinedTables.queries : JoinedTables → List Query
  | ⟨relation, joins⟩ => relation.queries ++ Join.queriesOfList joins

def Join.queriesOfList : List Join → List Query
  | [] => []
  | ⟨_, operator, relation, constraint⟩ :: rest =>
    relation.queries ++ (if operator.isConditional then constraint.queries else []) ++
      Join.queriesOfList rest

def JoinConstraint.queries : JoinConstraint → List Query
  | .on condition => condition.queries
  | _ => []

def TableFactor.queries : TableFactor → List Query
  | .derived _ query _ => [query]
  | .nested inner _ => inner.queries
  | _ => []

end

def SelectItem.queries : SelectItem → List Query
  | .value expr _ => expr.queries
  | .wildcard _ => []

def Select.queries (select : Select) : List Query :=
  select.tables.flatMap JoinedTables.queries ++ select.items.flatMap SelectItem.queries ++
    Expr.queriesOfOption select.condition ++ Expr.queriesOfOption select.having

/-- The outermost queries of a body. -/
def QueryBody.queries : QueryBody → List Query
  | .select block => block.queries
  | .nested query => [query]
  | .combined _ _ left right => left.queries ++ right.queries
  | .write _ source _ => source.toList
  | .rows _ => []

/-- Whether a query stands somewhere inside another one, or is that one itself. -/
inductive Query.IsPartOf (part : Query) : Query → Prop where
  | itself : part.IsPartOf part
  | definition {query : Query} {cte : Cte} (member : cte ∈ query.ctes) (within : part.IsPartOf cte.query) :
      part.IsPartOf query
  | body {query child : Query} (member : child ∈ query.body.queries) (within : part.IsPartOf child) :
      part.IsPartOf query

/-- Whether these common table expressions are declared together somewhere inside these queries. -/
def DeclaredIn (queries : List Query) (declarations : List Cte) : Prop :=
  ∃ query ∈ queries, ∃ part : Query, part.IsPartOf query ∧ part.ctes = declarations

theorem declaredIn_append {queries others : List Query} {declarations : List Cte}
    (declared : DeclaredIn (queries ++ others) declarations) :
    DeclaredIn queries declarations ∨ DeclaredIn others declarations := by
  obtain ⟨query, member, part, isPart, rfl⟩ := declared
  rcases List.mem_append.mp member with first | second
  · exact .inl ⟨query, first, part, isPart, rfl⟩
  · exact .inr ⟨query, second, part, isPart, rfl⟩

/-- What is declared inside a query is declared by itself, inside a definition or inside its body. -/
theorem declaredIn_query {isRecursive : Bool} {ctes declarations : List Cte} {body : QueryBody}
    {orderBy : List String} {tail : String}
    (declared : DeclaredIn [⟨isRecursive, ctes, body, orderBy, tail⟩] declarations) :
    declarations = ctes ∨ DeclaredIn (ctes.map Cte.query) declarations ∨
      DeclaredIn body.queries declarations := by
  obtain ⟨query, member, part, isPart, rfl⟩ := declared
  obtain rfl := List.mem_singleton.mp member
  cases isPart with
  | itself => exact .inl rfl
  | definition member within =>
      exact .inr (.inl ⟨_, List.mem_map_of_mem member, part, within, rfl⟩)
  | body member within => exact .inr (.inr ⟨_, member, part, within, rfl⟩)

end SqlLineage.Sql

namespace SqlLineage.Lineage

open Sql (DeclaredIn)

/-! ### Entries -/

/-- Whether an entry of the list of common table expressions is what a declaration in the statement with this
index was filled to. -/
structure Collects (index : Nat) (declaration : Sql.Cte) (entry : Cte) : Prop where
  name : entry.name = declaration.name
  definition : ∃ collector : Collector, collector.query = emptyDefinition index declaration.name ∧
    entry.definition = (collectQuery index declaration.query collector).query

/-- Whether there are entries for these declarations among others, in the order of the declarations. -/
def EntersInOrder (index : Nat) (declarations : List Sql.Cte) (entries : List Cte) : Prop :=
  ∃ own, List.Forall₂ (Collects index) declarations own ∧ own.Sublist entries

theorem EntersInOrder.sublist {index : Nat} {declarations : List Sql.Cte} {entries more : List Cte}
    (enters : EntersInOrder index declarations entries) (sublist : entries.Sublist more) :
    EntersInOrder index declarations more := by
  obtain ⟨own, collects, listed⟩ := enters
  exact ⟨own, collects, listed.trans sublist⟩

/-- Whether common table expressions are those that are defined by these queries, in the same order and under
the same names. No definition is a main query. -/
structure Mirrored (entries : List Cte) (queries : List Query) : Prop where
  definitions : entries.map Cte.definition = queries.filter Query.isCte
  names : ∀ entry ∈ entries, entry.name = entry.definition.name
  unmarked : ∀ query ∈ queries, query.isCte = true → query.isMain = false

namespace Mirrored

variable {entries others : List Cte} {queries more : List Query} {query : Query}

theorem nil : Mirrored [] [] :=
  ⟨rfl, List.forall_mem_nil _, List.forall_mem_nil _⟩

theorem append (first : Mirrored entries queries) (second : Mirrored others more) :
    Mirrored (entries ++ others) (queries ++ more) where
  definitions := by
    rw [List.map_append, List.filter_append, first.definitions, second.definitions]
  names := List.forall_mem_append.mpr ⟨first.names, second.names⟩
  unmarked := List.forall_mem_append.mpr ⟨first.unmarked, second.unmarked⟩

/-- A query that defines nothing. -/
theorem other (notCte : query.isCte = false) : Mirrored [] [query] where
  definitions := by rw [List.map_nil, List.filter_cons_of_neg (by simp [notCte]), List.filter_nil]
  names := List.forall_mem_nil _
  unmarked := by
    intro _ member isCte
    rw [List.mem_singleton.mp member, notCte] at isCte
    cases isCte

theorem definition {name : String} (isCte : query.isCte = true) (unmarked : query.isMain = false)
    (sameName : query.name = name) : Mirrored [{ name, definition := query }] [query] where
  definitions := by rw [List.filter_cons_of_pos isCte, List.filter_nil, List.map_singleton]
  names := by
    intro _ member
    rw [List.mem_singleton.mp member]
    exact sameName.symm
  unmarked := by
    intro _ member _
    rw [List.mem_singleton.mp member]
    exact unmarked

theorem flatMap {lineages : List StatementLineage}
    (mirrored : ∀ lineage ∈ lineages, Mirrored lineage.ctes lineage.queries) :
    Mirrored (lineages.flatMap StatementLineage.ctes) (lineages.flatMap StatementLineage.queries) := by
  induction lineages with
  | nil => exact nil
  | cons lineage rest ih =>
      rw [List.flatMap_cons, List.flatMap_cons]
      exact (mirrored lineage List.mem_cons_self).append
        (ih fun other member => mirrored other (List.mem_cons_of_mem _ member))

/-- To mark a main query changes no definition. -/
theorem filter_markMain (mirrored : Mirrored entries queries) :
    (markMain queries).filter Query.isCte = queries.filter Query.isCte := by
  have unmarked := mirrored.unmarked
  clear mirrored
  unfold markMain
  induction queries with
  | nil => rfl
  | cons query rest ih =>
      obtain ⟨here, behind⟩ := List.forall_mem_cons.mp unmarked
      have kept := ih behind
      rw [markMainFrom]
      rcases Bool.eq_false_or_eq_true query.isCte with isCte | notCte
      · have same : { query with isMain := !(markMainFrom rest).2 && query.isStatementLevel } = query := by
          rw [Query.isStatementLevel, isCte, Bool.not_true, Bool.false_and, Bool.and_false, ← here isCte]
          rw [← isCte]
        rw [same, List.filter_cons_of_pos isCte, List.filter_cons_of_pos isCte, kept]
      · rwa [List.filter_cons_of_neg (by simp [notCte]), List.filter_cons_of_neg (by simp [notCte])]

end Mirrored

/-! ### A walk completes definitions twice over -/

/-- How a walk may go on: what it adds to the common table expressions are the definitions among the queries
that it adds, and these declarations have their entries. -/
structure Walk.Mirrors (index : Nat) (declared : List Sql.Cte → Prop) (walk later : Walk) : Prop where
  query : walk.query.SameKind later.query
  isMain : later.query.isMain = walk.query.isMain
  adds : ∃ entries inner, later.ctes = walk.ctes ++ entries ∧ later.queries = walk.queries ++ inner ∧
    Mirrored entries inner ∧
      ∀ declarations, declared declarations → EntersInOrder index declarations entries

namespace Walk.Mirrors

variable {index : Nat} {walk later last : Walk} {queries others : List Sql.Query}
  {declared more : List Sql.Cte → Prop}

theorem mono (mirrors : walk.Mirrors index declared later)
    (subset : ∀ declarations, more declarations → declared declarations) :
    walk.Mirrors index more later := by
  obtain ⟨entries, inner, ctes, queries, mirrored, enters⟩ := mirrors.adds
  exact ⟨mirrors.query, mirrors.isMain, entries, inner, ctes, queries, mirrored,
    fun declarations isMore => enters declarations (subset declarations isMore)⟩

theorem trans (first : walk.Mirrors index declared later) (second : later.Mirrors index more last) :
    walk.Mirrors index (fun declarations => declared declarations ∨ more declarations) last := by
  obtain ⟨entries, inner, ctes, queries, mirrored, enters⟩ := first.adds
  obtain ⟨behind, complete, ctesLast, queriesLast, mirroredLast, entersLast⟩ := second.adds
  refine ⟨first.query.trans second.query, second.isMain.trans first.isMain,
    entries ++ behind, inner ++ complete, ?_, ?_, mirrored.append mirroredLast, ?_⟩
  · rw [ctesLast, ctes, List.append_assoc]
  · rw [queriesLast, queries, List.append_assoc]
  · rintro declarations (isFirst | isSecond)
    · exact (enters declarations isFirst).sublist (List.sublist_append_left entries behind)
    · exact (entersLast declarations isSecond).sublist (List.sublist_append_right entries behind)

theorem append (first : walk.Mirrors index (DeclaredIn queries) later)
    (second : later.Mirrors index (DeclaredIn others) last) :
    walk.Mirrors index (DeclaredIn (queries ++ others)) last :=
  (first.trans second).mono fun _ => Sql.declaredIn_append

/-- Nothing is complete where only the query that is being filled changes. -/
theorem of_eq (sameKind : walk.query.SameKind later.query)
    (isMain : later.query.isMain = walk.query.isMain) (ctes : later.ctes = walk.ctes)
    (queries : later.queries = walk.queries) : walk.Mirrors index (DeclaredIn []) later := by
  refine ⟨sameKind, isMain, [], [], ?_, ?_, .nil, ?_⟩
  · rw [ctes, List.append_nil]
  · rw [queries, List.append_nil]
  · rintro _ ⟨_, member, _⟩
    cases member

theorem refl (walk : Walk) : walk.Mirrors index (DeclaredIn []) walk :=
  of_eq (.refl _) rfl rfl rfl

/-- Where nothing is declared no entry is needed. -/
theorem undeclared (walk : Walk) :
    walk.Mirrors index (fun declarations => declarations = [] ∨ DeclaredIn [] declarations) walk := by
  have nothing : walk.Mirrors index (DeclaredIn []) walk := .refl walk
  obtain ⟨entries, inner, ctes, queries, mirrored, enters⟩ := nothing.adds
  refine ⟨nothing.query, nothing.isMain, entries, inner, ctes, queries, mirrored, ?_⟩
  rintro declarations (rfl | inside)
  · exact ⟨[], .nil, List.nil_sublist entries⟩
  · exact enters declarations inside

/-- What is noted behind a part of a walk adds nothing. -/
theorem noting (first : walk.Mirrors index (DeclaredIn queries) later)
    (noted : later.Mirrors index (DeclaredIn []) last) : walk.Mirrors index (DeclaredIn queries) last := by
  rw [← List.append_nil queries]
  exact first.append noted

end Walk.Mirrors

/-! ### The parts of a statement -/

theorem Query.isMain_addDependency (name : String) (query : Query) :
    (query.addDependency name).isMain = query.isMain := by
  unfold Query.addDependency
  split <;> rfl

theorem Query.isMain_addTable (table : TableReference) (query : Query) :
    (query.addTable table).isMain = query.isMain := by
  unfold Query.addTable
  split
  · exact isMain_addDependency table.key query
  · rfl

namespace Walk.Mirrors

theorem addTable (index : Nat) (table : TableReference) (walk : Walk) :
    walk.Mirrors index (DeclaredIn []) (walk.update (·.addTable table)) :=
  of_eq (.addTable table walk.query) (Query.isMain_addTable table walk.query) rfl rfl

theorem filter (index : Nat) (clause : String) (condition : Option Sql.Expr) (walk : Walk) :
    walk.Mirrors index (DeclaredIn []) (walk.filter clause condition) := by
  cases condition with
  | none => exact refl walk
  | some expr => exact of_eq ⟨rfl, rfl, rfl, rfl⟩ rfl rfl rfl

theorem join (index : Nat) (left right : Option TableReference) (operator : Sql.JoinOperator)
    (constraint : Sql.JoinConstraint) (walk : Walk) :
    walk.Mirrors index (DeclaredIn []) (walk.join left right operator constraint) := by
  cases left with
  | none => exact refl walk
  | some left =>
      cases right with
      | none => exact refl walk
      | some right => exact of_eq ⟨rfl, rfl, rfl, rfl⟩ rfl rfl rfl

theorem combine (index : Nat) (operator : Sql.SetOperator) (quantifier : String) (before : Nat)
    (walk : Walk) : walk.Mirrors index (DeclaredIn []) (walk.combine operator quantifier before) :=
  of_eq ⟨rfl, rfl, rfl, rfl⟩ rfl rfl rfl

/-- A nested query is complete without an entry. -/
theorem nested {index : Nat} {query : Sql.Query} {fill : Walk → Walk}
    (fills : ∀ walk : Walk, walk.Mirrors index (DeclaredIn [query]) (fill walk))
    (aliasName : Option String) (walk : Walk) :
    walk.Mirrors index (DeclaredIn [query]) (walk.nested index aliasName fill) := by
  let start : Walk := { walk with
    nestedCount := walk.nestedCount + 1, query := emptyNested index walk.nestedCount aliasName }
  have filled := fills start
  obtain ⟨entries, inner, ctes, queries, mirrored, enters⟩ := filled.adds
  have notCte : (fill start).query.isCte = false := filled.query.isCte
  refine ⟨(Query.SameKind.addDependency _ walk.query).trans (.addTable _ _), ?_,
    entries, inner ++ [(fill start).query], ctes, ?_, ?_, enters⟩
  · exact (Query.isMain_addTable _ _).trans (Query.isMain_addDependency _ walk.query)
  · show (fill start).queries ++ [(fill start).query] = _
    rw [queries, List.append_assoc]
  · rw [← List.append_nil entries]
    exact mirrored.append (.other notCte)

/-- A definition is complete together with its entry, which comes before those of the declarations behind
it. -/
theorem declare {index : Nat} {scope : List String} {cte : Sql.Cte}
    {rest : List Sql.Cte} {walk last : Walk} {more : List Sql.Cte → Prop}
    (fills : ∀ walk : Walk, walk.Mirrors index (DeclaredIn [cte.query])
      (walkQuery index scope cte.query walk))
    (behind : (walk.declared index cte.name (walkQuery index scope cte.query)).Mirrors index
      (fun declarations => declarations = rest ∨ more declarations) last) :
    walk.Mirrors index (fun declarations => declarations = cte :: rest ∨
      DeclaredIn [cte.query] declarations ∨ more declarations) last := by
  let start : Walk := { walk with query := emptyDefinition index cte.name }
  let definition : Query := (walkQuery index scope cte.query start).query
  have filled := fills start
  obtain ⟨entries, inner, ctes, queries, mirrored, enters⟩ := filled.adds
  obtain ⟨others, complete, ctesLast, queriesLast, mirroredLast, entersLast⟩ := behind.adds
  have isCte : definition.isCte = true := filled.query.isCte
  have sameName : definition.name = cte.name := filled.query.name
  have entered : Mirrored (entries ++ [{ name := cte.name, definition }]) (inner ++ [definition]) :=
    mirrored.append (.definition isCte filled.isMain sameName)
  refine ⟨behind.query, behind.isMain, entries ++ [{ name := cte.name, definition }] ++ others,
    inner ++ [definition] ++ complete, ?_, ?_, entered.append mirroredLast, ?_⟩
  · rw [ctesLast]
    show (walkQuery index scope cte.query start).ctes ++ [_] ++ others = _
    rw [ctes, List.append_assoc, List.append_assoc, List.append_assoc]
    rfl
  · rw [queriesLast]
    show (walkQuery index scope cte.query start).queries ++ [definition] ++ complete = _
    rw [queries, List.append_assoc, List.append_assoc, List.append_assoc]
  · rintro declarations (rfl | inside | isBehind)
    · obtain ⟨own, collects, listed⟩ := entersLast rest (.inl rfl)
      have filledHere : definition = (collectQuery index cte.query ⟨start, scope⟩).query := by
        rw [collectQuery_eq]
      refine ⟨{ name := cte.name, definition } :: own,
        .cons ⟨rfl, ⟨start, scope⟩, rfl, filledHere⟩ collects, ?_⟩
      rw [List.append_assoc]
      exact (listed.cons_cons _).trans (List.sublist_append_right entries _)
    · refine (enters declarations inside).sublist ?_
      rw [List.append_assoc]
      exact List.sublist_append_left entries _
    · exact (entersLast declarations (.inr isBehind)).sublist (List.sublist_append_right _ others)

end Walk.Mirrors

mutual

theorem mirrors_walkQuery (index : Nat) (scope : List String) : (query : Sql.Query) → (walk : Walk) →
    walk.Mirrors index (DeclaredIn [query]) (walkQuery index scope query walk)
  | ⟨isRecursive, ctes, body, _, _⟩, walk => by
      rw [walkQuery]
      refine .mono ((mirrors_walkCtes index isRecursive scope ctes walk).trans
        ((mirrors_walkBody index (walkCtes index isRecursive scope ctes walk).2 body _).noting
          (.of_eq ⟨rfl, rfl, rfl, rfl⟩ rfl rfl rfl))) ?_
      intro declarations declared
      rw [or_assoc]
      exact Sql.declaredIn_query declared

theorem mirrors_walkCtes (index : Nat) (isRecursive : Bool) (scope : List String) :
    (ctes : List Sql.Cte) → (walk : Walk) →
      walk.Mirrors index (fun declarations => declarations = ctes ∨
        DeclaredIn (ctes.map Sql.Cte.query) declarations)
        (walkCtes index isRecursive scope ctes walk).1
  | [], walk => by
      rw [walkCtes]
      exact .undeclared walk
  | ⟨aliasName, materialized, definition, origin⟩ :: rest, walk => by
      rw [walkCtes]
      have fills := mirrors_walkQuery index
        (if isRecursive then scope ++ [Text.lowercase aliasName.name.value] else scope) definition
      let cte : Sql.Cte := ⟨aliasName, materialized, definition, origin⟩
      refine .mono (@Walk.Mirrors.declare index _ cte _ _ _ _ fills (mirrors_walkCtes index isRecursive _ rest _)) ?_
      rintro declarations (isList | inside)
      · exact .inl isList
      · exact .inr (@Sql.declaredIn_append [definition] _ _ inside)

theorem mirrors_walkBody (index : Nat) (scope : List String) :
    (body : Sql.QueryBody) → (walk : Walk) →
      walk.Mirrors index (DeclaredIn body.queries) (walkBody index scope body walk)
  | .select select, walk => by
      rw [walkBody, Sql.QueryBody.queries]
      exact mirrors_walkSelect index scope select walk
  | .nested query, walk => by
      rw [walkBody, Sql.QueryBody.queries]
      exact mirrors_walkQuery index scope query walk
  | .combined operator quantifier left right, walk => by
      rw [walkBody, Sql.QueryBody.queries]
      exact ((mirrors_walkBody index scope left walk).append
        (mirrors_walkBody index scope right _)).noting (.combine index operator quantifier _ _)
  | .write _ source _, walk => by
      rw [walkBody, Sql.QueryBody.queries]
      exact mirrors_walkSource index scope source walk
  | .rows _, walk => by
      rw [walkBody, Sql.QueryBody.queries]
      exact .refl walk

theorem mirrors_walkSource (index : Nat) (scope : List String) :
    (source : Option Sql.Query) → (walk : Walk) →
      walk.Mirrors index (DeclaredIn source.toList) (walkSource index scope source walk)
  | none, walk => by
      rw [walkSource]
      exact .refl walk
  | some query, walk => by
      rw [walkSource]
      exact mirrors_walkQuery index scope query walk

theorem mirrors_walkSelect (index : Nat) (scope : List String) :
    (select : Sql.Select) → (walk : Walk) →
      walk.Mirrors index (DeclaredIn select.queries) (walkSelect index scope select walk)
  | ⟨_, items, _, tables, _, condition, groupBy, _, having, _⟩, walk => by
      rw [walkSelect, Sql.Select.queries]
      have columns := (mirrors_walkTables index scope tables walk).append
        (mirrors_walkItems index scope items _)
      have rows := (columns.append (mirrors_walkOption index scope condition _)).noting
        (.filter index "WHERE" condition _)
      have grouped : ∀ walk : Walk, walk.Mirrors index (DeclaredIn []) (walk.update fun query =>
          { query with groupBy := query.groupBy ++ groupBy }) :=
        fun _ => .of_eq ⟨rfl, rfl, rfl, rfl⟩ rfl rfl rfl
      exact ((rows.noting (grouped _)).append (mirrors_walkOption index scope having _)).noting
        (.filter index "HAVING" having _)

theorem mirrors_walkTables (index : Nat) (scope : List String) :
    (tables : List Sql.JoinedTables) → (walk : Walk) →
      walk.Mirrors index (DeclaredIn (tables.flatMap Sql.JoinedTables.queries))
        (walkTables index scope tables walk)
  | [], walk => by
      rw [walkTables]
      exact .refl walk
  | joined :: rest, walk => by
      rw [walkTables]
      exact (mirrors_walkJoined index scope joined walk).append (mirrors_walkTables index scope rest _)

theorem mirrors_walkJoined (index : Nat) (scope : List String) :
    (joined : Sql.JoinedTables) → (walk : Walk) →
      walk.Mirrors index (DeclaredIn joined.queries) (walkJoined index scope joined walk).1
  | ⟨relation, joins⟩, walk => by
      rw [walkJoined, Sql.JoinedTables.queries]
      exact (mirrors_walkFactor index scope relation walk).append
        (mirrors_walkJoins index scope _ joins _)

theorem mirrors_walkJoins (index : Nat) (scope : List String) (primary : Option TableReference) :
    (joins : List Sql.Join) → (walk : Walk) →
      walk.Mirrors index (DeclaredIn (Sql.Join.queriesOfList joins))
        (walkJoins index scope primary joins walk)
  | [], walk => by
      rw [walkJoins, Sql.Join.queriesOfList]
      exact .refl walk
  | ⟨_, operator, relation, constraint⟩ :: rest, walk => by
      rw [walkJoins, Sql.Join.queriesOfList, keepsCondition_eq]
      have conditioned : ∀ walk : Walk, walk.Mirrors index
          (DeclaredIn (if operator.isConditional then constraint.queries else []))
          (if operator.isConditional then walkConstraint index scope constraint walk else walk) := by
        intro walk
        split
        · exact mirrors_walkConstraint index scope constraint walk
        · exact .refl walk
      have right := (mirrors_walkFactor index scope relation walk).append (conditioned _)
      exact (right.noting (.join index primary _ operator constraint _)).append
        (mirrors_walkJoins index scope primary rest _)

theorem mirrors_walkConstraint (index : Nat) (scope : List String) :
    (constraint : Sql.JoinConstraint) → (walk : Walk) →
      walk.Mirrors index (DeclaredIn constraint.queries) (walkConstraint index scope constraint walk)
  | .on condition, walk => by
      rw [walkConstraint, Sql.JoinConstraint.queries]
      exact mirrors_walkExpr index scope condition walk
  | .using _, walk => by
      rw [walkConstraint.eq_def, Sql.JoinConstraint.queries.eq_def]
      exact .refl walk
  | .natural, walk => by
      rw [walkConstraint.eq_def, Sql.JoinConstraint.queries.eq_def]
      exact .refl walk
  | .none, walk => by
      rw [walkConstraint.eq_def, Sql.JoinConstraint.queries.eq_def]
      exact .refl walk

theorem mirrors_walkFactor (index : Nat) (scope : List String) :
    (factor : Sql.TableFactor) → (walk : Walk) →
      walk.Mirrors index (DeclaredIn factor.queries) (walkFactor index scope factor walk).1
  | .table _ _ _ _, walk => by
      rw [walkFactor, Sql.TableFactor.queries.eq_def]
      exact .addTable index _ walk
  | .derived _ query _, walk => by
      rw [walkFactor, Sql.TableFactor.queries]
      exact .nested (mirrors_walkQuery index scope query) _ walk
  | .nested inner _, walk => by
      rw [walkFactor, Sql.TableFactor.queries]
      exact mirrors_walkJoined index scope inner walk
  | .other _ _ _, walk => by
      rw [walkFactor, Sql.TableFactor.queries.eq_def]
      exact .refl walk

theorem mirrors_walkItems (index : Nat) (scope : List String) :
    (items : List Sql.SelectItem) → (walk : Walk) →
      walk.Mirrors index (DeclaredIn (items.flatMap Sql.SelectItem.queries))
        (walkItems index scope items walk)
  | [], walk => by
      rw [walkItems]
      exact .refl walk
  | item :: rest, walk => by
      rw [walkItems]
      have listed : ∀ walk : Walk, walk.Mirrors index (DeclaredIn []) (walk.update fun query =>
          { query with fields := query.fields ++ [fieldOf item] }) :=
        fun _ => .of_eq ⟨rfl, rfl, rfl, rfl⟩ rfl rfl rfl
      exact ((mirrors_walkItem index scope item walk).noting (listed _)).append
        (mirrors_walkItems index scope rest _)

theorem mirrors_walkItem (index : Nat) (scope : List String) :
    (item : Sql.SelectItem) → (walk : Walk) →
      walk.Mirrors index (DeclaredIn item.queries) (walkItem index scope item walk)
  | .value expr _, walk => by
      rw [walkItem, Sql.SelectItem.queries]
      exact mirrors_walkExpr index scope expr walk
  | .wildcard _, walk => by
      rw [walkItem, Sql.SelectItem.queries]
      exact .refl walk

theorem mirrors_walkExpr (index : Nat) (scope : List String) :
    (expr : Sql.Expr) → (walk : Walk) →
      walk.Mirrors index (DeclaredIn expr.queries) (walkExpr index scope expr walk)
  | .column _, walk => by
      rw [walkExpr, Sql.Expr.queries]
      exact .refl walk
  | .nested inner, walk => by
      rw [walkExpr, Sql.Expr.queries]
      exact mirrors_walkExpr index scope inner walk
  | .conditional operand conditions results otherwise, walk => by
      rw [walkExpr, Sql.Expr.queries]
      have tested := (mirrors_walkOption index scope operand walk).append
        (mirrors_walkExprs index scope conditions _)
      exact (tested.append (mirrors_walkExprs index scope results _)).append
        (mirrors_walkOption index scope otherwise _)
  | .call _ _ arguments ordering rest, walk => by
      rw [walkExpr, Sql.Expr.queries]
      exact ((mirrors_walkParts index scope arguments walk).append
        (mirrors_walkParts index scope rest _)).append (mirrors_walkParts index scope ordering _)
  | .braced call, walk => by
      rw [walkExpr, Sql.Expr.queries]
      exact mirrors_walkExpr index scope call walk
  | .operation left _ right, walk => by
      rw [walkExpr, Sql.Expr.queries]
      exact (mirrors_walkExpr index scope left walk).append (mirrors_walkExpr index scope right _)
  | .phrase parts, walk => by
      rw [walkExpr, Sql.Expr.queries]
      exact mirrors_walkParts index scope parts walk
  | .inverted lead principal, walk => by
      rw [walkExpr, Sql.Expr.queries]
      exact (mirrors_walkParts index scope principal walk).append (mirrors_walkParts index scope lead _)

theorem mirrors_walkOption (index : Nat) (scope : List String) :
    (expr : Option Sql.Expr) → (walk : Walk) →
      walk.Mirrors index (DeclaredIn (Sql.Expr.queriesOfOption expr)) (walkOption index scope expr walk)
  | none, walk => by
      rw [walkOption, Sql.Expr.queriesOfOption]
      exact .refl walk
  | some expr, walk => by
      rw [walkOption, Sql.Expr.queriesOfOption]
      exact mirrors_walkExpr index scope expr walk

theorem mirrors_walkExprs (index : Nat) (scope : List String) :
    (exprs : List Sql.Expr) → (walk : Walk) →
      walk.Mirrors index (DeclaredIn (Sql.Expr.queriesOfList exprs)) (walkExprs index scope exprs walk)
  | [], walk => by
      rw [walkExprs, Sql.Expr.queriesOfList]
      exact .refl walk
  | expr :: rest, walk => by
      rw [walkExprs, Sql.Expr.queriesOfList]
      exact (mirrors_walkExpr index scope expr walk).append (mirrors_walkExprs index scope rest _)

theorem mirrors_walkParts (index : Nat) (scope : List String) :
    (parts : List Sql.Part) → (walk : Walk) →
      walk.Mirrors index (DeclaredIn (Sql.Part.queriesOfList parts)) (walkParts index scope parts walk)
  | [], walk => by
      rw [walkParts, Sql.Part.queriesOfList]
      exact .refl walk
  | part :: rest, walk => by
      rw [walkParts, Sql.Part.queriesOfList]
      exact (mirrors_walkPart index scope part walk).append (mirrors_walkParts index scope rest _)

theorem mirrors_walkPart (index : Nat) (scope : List String) :
    (part : Sql.Part) → (walk : Walk) →
      walk.Mirrors index (DeclaredIn part.queries) (walkPart index scope part walk)
  | .text _, walk => by
      rw [walkPart, Sql.Part.queries]
      exact .refl walk
  | .operand expr, walk => by
      rw [walkPart, Sql.Part.queries]
      exact mirrors_walkExpr index scope expr walk
  | .query query, walk => by
      rw [walkPart, Sql.Part.queries]
      exact .nested (mirrors_walkQuery index scope query) none walk

end

/-! ### The common table expressions of a script -/

/-- What a statement contributes holds each definition twice, once as an entry and once as a query. -/
theorem mirrored_of_contributes {read : String → Option Sql.Query} {statement : Script.Statement}
    {lineage : StatementLineage} (contributes : Contributes read statement lineage) :
    Mirrored lineage.ctes lineage.queries := by
  have level : ∀ kind, (rootQuery statement.index kind).isCte = false := by
    intro kind
    unfold rootQuery
    split <;> rfl
  cases contributes with
  | @collected kind tree _ =>
      have mirrors := mirrors_walkQuery statement.index [] tree
        { query := rootQuery statement.index kind }
      obtain ⟨entries, inner, ctes, queries, mirrored, _⟩ := mirrors.adds
      have own : (walkQuery statement.index [] tree
          { query := rootQuery statement.index kind }).query.isCte = false :=
        mirrors.query.isCte.trans (level kind)
      rw [ctes_collectStatement, queries_collectStatement, ctes, queries]
      have all := mirrored.append (.other own)
      rwa [List.append_nil] at all
  | @scanned kind _ =>
      apply Mirrored.other
      exact (extends_foldl_addTable statement.relations.tables _).isCte.trans (level kind)

/-- What a statement declares together is entered in that order. -/
theorem entersInOrder_collectStatement (index : Nat) {tree : Sql.Query} (root : Query)
    {part : Sql.Query} (isPart : part.IsPartOf tree) :
    EntersInOrder index part.ctes (collectStatement index tree root).ctes := by
  obtain ⟨entries, _, ctes, _, _, enters⟩ := (mirrors_walkQuery index [] tree { query := root }).adds
  have entered := enters part.ctes ⟨tree, List.mem_cons_self, part, isPart, rfl⟩
  rwa [ctes_collectStatement, ctes]

/-- The common table expressions of a script are those that its queries define, in the same order and under
the same names; and what is declared together in a statement is entered in the order of the declarations. -/
theorem ctes_mirror_queries (read : String → Option Sql.Query) (escapes : Script.QuoteEscapes)
    (script : String) :
    (parseWith read escapes script).ctes.map Cte.definition =
        (parseWith read escapes script).queries.filter Query.isCte ∧
      (∀ cte ∈ (parseWith read escapes script).ctes, cte.name = cte.definition.name) ∧
      ∀ statement ∈ Script.Statement.split escapes script, ∀ tree : Sql.Query,
        statement.kind?.isSome = true → read statement.normalized = some tree →
          ∀ part : Sql.Query, part.IsPartOf tree →
            EntersInOrder statement.index part.ctes (parseWith read escapes script).ctes := by
  have mirrored : Mirrored (parseWith read escapes script).ctes
      (((Script.Statement.split escapes script).filterMap (statementLineage? read)).flatMap
        StatementLineage.queries) := by
    apply Mirrored.flatMap
    intro lineage member
    obtain ⟨statement, _, contributes⟩ := List.mem_filterMap.mp member
    exact mirrored_of_contributes (contributes_of_statementLineage? contributes)
  refine ⟨?_, mirrored.names, ?_⟩
  · rw [mirrored.definitions]
    exact mirrored.filter_markMain.symm
  · intro statement member tree isKnown isTree part isPart
    obtain ⟨kind, isKind⟩ := Option.isSome_iff_exists.mp isKnown
    have contributes : statementLineage? read statement =
        some (collectStatement statement.index tree (rootQuery statement.index kind)) := by
      rw [statementLineage?, isKind, isTree]
      rfl
    have entered := entersInOrder_collectStatement statement.index (rootQuery statement.index kind) isPart
    apply entered.sublist
    have listed := List.mem_filterMap.mpr ⟨statement, member, contributes⟩
    obtain ⟨before, behind, split⟩ := List.append_of_mem listed
    show List.Sublist _ (List.flatMap StatementLineage.ctes _)
    rw [split, List.flatMap_append, List.flatMap_cons]
    exact (List.sublist_append_left _ _).trans (List.sublist_append_right _ _)

/-- A definition inside another one is entered before it, and so between those it is not declared with. -/
theorem ctes_mirror_queries_nested :
    ∃ statement ∈ Script.Statement.split .doubled
        "WITH a AS(SELECT 1),c AS(WITH b AS(SELECT 1)SELECT 1 FROM b)SELECT 1 FROM c",
      ∃ tree, Sql.sourceQuery? .generic statement.normalized = some tree ∧
        tree.ctes.map Sql.Cte.name = ["a", "c"] ∧
        (parseWith (Sql.sourceQuery? .generic) .doubled
          "WITH a AS(SELECT 1),c AS(WITH b AS(SELECT 1)SELECT 1 FROM b)SELECT 1 FROM c").ctes.map Cte.name =
            ["a", "b", "c"] ∧
        EntersInOrder statement.index tree.ctes (parseWith (Sql.sourceQuery? .generic) .doubled
          "WITH a AS(SELECT 1),c AS(WITH b AS(SELECT 1)SELECT 1 FROM b)SELECT 1 FROM c").ctes := by
  have read : ∃ statement ∈ Script.Statement.split .doubled
        "WITH a AS(SELECT 1),c AS(WITH b AS(SELECT 1)SELECT 1 FROM b)SELECT 1 FROM c",
      ∃ tree ∈ Sql.sourceQuery? .generic statement.normalized, statement.kind?.isSome = true ∧
        tree.ctes.map Sql.Cte.name = ["a", "c"] ∧
        (parseWith (Sql.sourceQuery? .generic) .doubled
          "WITH a AS(SELECT 1),c AS(WITH b AS(SELECT 1)SELECT 1 FROM b)SELECT 1 FROM c").ctes.map Cte.name =
            ["a", "b", "c"] := by
    decide +kernel
  obtain ⟨statement, member, tree, isTree, isKnown, declared, names⟩ := read
  have entered := (ctes_mirror_queries (Sql.sourceQuery? .generic) .doubled _).2.2 statement member tree
    isKnown (Option.mem_def.mp isTree) tree .itself
  exact ⟨statement, member, tree, Option.mem_def.mp isTree, declared, names, entered⟩

end SqlLineage.Lineage
