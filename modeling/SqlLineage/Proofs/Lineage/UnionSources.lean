/-
Module: SqlLineage.Proofs.Lineage.UnionSources
Purpose: What a query that is a set operation notes as its sources. Each name that it reads is among them
  once; but a relation in two spellings is there twice, and what an operand on the right that is a set
  operation itself reads comes before what stands left of it.
Main exports: Sql.Query.bareBody, firstSpellings, Branches, branchesOfQuery, Walk.Merges,
  Query.MergesBranches, mergesBranches_collectQuery
-/
import Mathlib.Data.List.Nodup
import SqlLineage.Lineage.Script
import SqlLineage.Proofs.Lineage.Walk

/-! ### Set operations -/

namespace SqlLineage.Sql

/-- Whether the body is a set operation. -/
def QueryBody.isCombined : QueryBody → Bool
  | .combined _ _ _ _ => true
  | _ => false

mutual

/-- The body of a query without parentheses, and without a statement that writes its rows. -/
def Query.bareBody : Query → QueryBody
  | ⟨_, _, body, _, _⟩ => body.bare

def QueryBody.bare : QueryBody → QueryBody
  | .nested query => query.bareBody
  | .write _ (some query) _ => query.bareBody
  | body => body

end

end SqlLineage.Sql

namespace SqlLineage.Lineage

/-! ### Names in order of first appearance -/

/-- The relations that these names stand for, each by the name that comes first. Names that differ in case
alone stand for one relation. -/
def firstSpellings (names : List String) : List String :=
  names.eraseDupsBy fun later earlier => Text.lowercase later == Text.lowercase earlier

/-- Whether none of these names is another spelling of another one. -/
def SpelledAlike (names : List String) : Prop :=
  ∀ first ∈ names, ∀ second ∈ names, Text.lowercase first = Text.lowercase second → first = second

section Erasing

variable {α : Type} {same other : α → α → Bool}

theorem mem_of_mem_eraseDupsBy {item : α} :
    {items : List α} → item ∈ items.eraseDupsBy same → item ∈ items
  | first :: rest, kept => by
      rw [List.eraseDupsBy_cons, List.mem_cons] at kept
      rcases kept with rfl | behind
      · exact List.mem_cons_self
      · exact List.mem_cons_of_mem _ (List.mem_filter.mp (mem_of_mem_eraseDupsBy behind)).1
termination_by items => items.length
decreasing_by exact Nat.lt_succ_of_le (List.length_filter_le _ _)

/-- None of those that are kept is the same as one before it. -/
theorem pairwise_eraseDupsBy (same : α → α → Bool) :
    (items : List α) → (items.eraseDupsBy same).Pairwise fun earlier later => same later earlier = false
  | [] => .nil
  | item :: rest => by
      rw [List.eraseDupsBy_cons, List.pairwise_cons]
      refine ⟨fun later kept => ?_, pairwise_eraseDupsBy same _⟩
      have listed := mem_of_mem_eraseDupsBy kept
      simpa using (List.mem_filter.mp listed).2
termination_by items => items.length
decreasing_by exact Nat.lt_succ_of_le (List.length_filter_le _ _)

theorem eraseDupsBy_congr : {items : List α} →
    (∀ first ∈ items, ∀ second ∈ items, same first second = other first second) →
      items.eraseDupsBy same = items.eraseDupsBy other
  | [], _ => rfl
  | item :: rest, agree => by
      have alike : (rest.filter fun later => same later item = false) =
          rest.filter fun later => other later item = false := by
        apply List.filter_congr
        intro later member
        rw [agree later (List.mem_cons_of_mem _ member) item List.mem_cons_self]
      rw [List.eraseDupsBy_cons, List.eraseDupsBy_cons, alike]
      congr 1
      apply eraseDupsBy_congr
      intro first isFirst second isSecond
      exact agree first (List.mem_cons_of_mem _ (List.mem_filter.mp isFirst).1)
        second (List.mem_cons_of_mem _ (List.mem_filter.mp isSecond).1)
termination_by items => items.length
decreasing_by exact Nat.lt_succ_of_le (List.length_filter_le _ _)

end Erasing

theorem nodup_eraseDups (names : List String) : names.eraseDups.Nodup := by
  apply (pairwise_eraseDupsBy (· == ·) names).imp
  intro earlier later apart same
  rw [same, beq_self_eq_true] at apart
  cases apart

/-- A name is noted behind the others unless it is one of them. -/
theorem foldl_note_eraseDups (names noted : List String) :
    names.foldl (fun sources name => if sources.contains name then sources else sources ++ [name])
      noted.eraseDups = (noted ++ names).eraseDups := by
  induction names generalizing noted with
  | nil => rw [List.foldl_nil, List.append_nil]
  | cons name rest ih =>
      have known : noted.eraseDups.contains name = noted.contains name := by
        rw [Bool.eq_iff_iff, List.contains_iff_mem, List.contains_iff_mem, List.mem_eraseDups]
      have next : (if noted.eraseDups.contains name then noted.eraseDups
          else noted.eraseDups ++ [name]) = (noted ++ [name]).eraseDups := by
        rw [known, List.eraseDups_append, List.cons_removeAll]
        cases noted.contains name with
        | true => simp
        | false => simp [List.eraseDups_cons]
      rw [List.foldl_cons, next, ih, List.append_assoc]
      rfl

/-- Names that were all noted before add nothing. -/
theorem eraseDups_append_of_subset {names more : List String} (subset : more ⊆ names) :
    (names ++ more).eraseDups = names.eraseDups := by
  have nothing : more.removeAll names = [] := by
    rw [List.removeAll, List.filter_eq_nil_iff]
    intro name member
    simpa using subset member
  rw [List.eraseDups_append, nothing, List.eraseDups_nil, List.append_nil]

/-- What comes behind names is noted alike behind others that are noted alike. -/
theorem eraseDups_append_congr {names others : List String} (alike : names.eraseDups = others.eraseDups)
    (more : List String) : (names ++ more).eraseDups = (others ++ more).eraseDups := by
  have known : more.removeAll names = more.removeAll others := by
    apply List.filter_congr
    intro name _
    have listed : name ∈ names ↔ name ∈ others := by
      rw [← List.mem_eraseDups, alike, List.mem_eraseDups]
    simp [listed]
  rw [List.eraseDups_append, List.eraseDups_append, alike, known]

theorem firstSpellings_of_spelledAlike {names : List String} (alike : SpelledAlike names) :
    firstSpellings names = names.eraseDups := by
  apply eraseDupsBy_congr
  intro first isFirst second isSecond
  rw [Bool.eq_iff_iff, beq_iff_eq, beq_iff_eq]
  exact ⟨alike first isFirst second isSecond, congrArg Text.lowercase⟩

/-- Each relation is kept by one name. -/
theorem nodup_lowercase_firstSpellings (names : List String) :
    ((firstSpellings names).map Text.lowercase).Nodup := by
  rw [List.Nodup, List.pairwise_map]
  apply (pairwise_eraseDupsBy _ names).imp
  intro earlier later apart same
  rw [same, beq_self_eq_true] at apart
  cases apart

/-- All the names are one for each relation just when they are spelled alike. -/
theorem nodup_lowercase_iff {names sources : List String} (nodup : sources.Nodup)
    (complete : ∀ name, name ∈ sources ↔ name ∈ names) :
    (sources.map Text.lowercase).Nodup ↔ SpelledAlike names := by
  rw [List.nodup_map_iff_inj_on nodup]
  constructor
  · intro apart first isFirst second isSecond
    exact apart first ((complete first).mpr isFirst) second ((complete second).mpr isSecond)
  · intro alike first isFirst second isSecond
    exact alike first ((complete first).mp isFirst) second ((complete second).mp isSecond)

/-- A list of all the names has one for each relation, the first one, just when it has them in order and they
are spelled alike. -/
theorem eq_firstSpellings_iff {names sources : List String} (nodup : sources.Nodup)
    (complete : ∀ name, name ∈ sources ↔ name ∈ names) :
    sources = firstSpellings names ↔ sources = names.eraseDups ∧ SpelledAlike names := by
  constructor
  · intro kept
    have alike : SpelledAlike names := by
      rw [← nodup_lowercase_iff nodup complete, kept]
      exact nodup_lowercase_firstSpellings names
    exact ⟨kept.trans (firstSpellings_of_spelledAlike alike), alike⟩
  · rintro ⟨inOrder, alike⟩
    exact inOrder.trans (firstSpellings_of_spelledAlike alike).symm

/-! ### The branches of a query -/

/-- What the branches of a query read, by name: of a set operation each operand, of others all at once. -/
inductive Branches where
  | single (names : List String)
  | combined (left right : Branches)
deriving DecidableEq

namespace Branches

/-- The names that are read, in order. -/
def names : Branches → List String
  | single names => names
  | combined left right => left.names ++ right.names

/-- The names in the order in which set operations come across them: each looks at both its operands when
they are complete. -/
def noted : Branches → List String
  | single _ => []
  | combined left right => left.noted ++ right.noted ++ (left.names ++ right.names)

def isCombined : Branches → Bool
  | single _ => false
  | combined _ _ => true

/-- Whether no right operand is a set operation itself. -/
def IsLeftNested : Branches → Prop
  | single _ => True
  | combined left right => left.IsLeftNested ∧ right.isCombined = false

variable {branches left right : Branches}

theorem noted_of_not_isCombined (isSingle : branches.isCombined = false) : branches.noted = [] := by
  cases branches with
  | single names => rfl
  | combined left right => cases isSingle

theorem noted_subset (branches : Branches) : branches.noted ⊆ branches.names := by
  induction branches with
  | single names => exact List.nil_subset _
  | combined left right leftSubset rightSubset =>
      rw [noted, names]
      refine List.append_subset.mpr ⟨List.append_subset.mpr ⟨?_, ?_⟩, List.Subset.refl _⟩
      · exact List.subset_append_of_subset_left _ leftSubset
      · exact List.subset_append_of_subset_right _ rightSubset

/-- A set operation comes across all that its operands read. -/
theorem mem_noted_iff (isCombined : branches.isCombined = true) {name : String} :
    name ∈ branches.noted ↔ name ∈ branches.names := by
  cases branches with
  | single names => cases isCombined
  | combined left right =>
      refine ⟨fun noted => noted_subset _ noted, fun listed => ?_⟩
      exact List.mem_append_right _ listed

/-- Without a set operation on the right, names are come across in order. -/
theorem eraseDups_noted (isCombined : branches.isCombined = true) (leftNested : branches.IsLeftNested) :
    branches.noted.eraseDups = branches.names.eraseDups := by
  induction branches with
  | single names => cases isCombined
  | combined left right ih _ =>
      obtain ⟨nestedLeft, rightSingle⟩ := leftNested
      rw [noted, names, noted_of_not_isCombined rightSingle, List.append_nil]
      cases leftCombined : left.isCombined with
      | false => rw [noted_of_not_isCombined leftCombined, List.nil_append]
      | true =>
          have again : (left.noted ++ left.names).eraseDups = left.names.eraseDups := by
            rw [eraseDups_append_of_subset fun _ => (mem_noted_iff leftCombined).mpr]
            exact ih leftCombined nestedLeft
          rw [← List.append_assoc]
          exact eraseDups_append_congr again right.names

end Branches

/-! ### The walk through the branches -/

/-- The names of the relations that were listed between two points of a walk. -/
def Walk.listedSince (walk later : Walk) : List String :=
  (later.query.tables.drop walk.query.tables.length).map TableReference.name

mutual

/-- The branches of a query that is walked through from here, with what the walk lists in each. -/
def branchesOfQuery (index : Nat) (scope : List String) : Sql.Query → Walk → Branches
  | ⟨isRecursive, ctes, body, _, _⟩, walk =>
    let (walk, scope) := walkCtes index isRecursive scope ctes walk
    branchesOfBody index scope body walk

def branchesOfBody (index : Nat) (scope : List String) : Sql.QueryBody → Walk → Branches
  | .select select, walk => .single (walk.listedSince (walkSelect index scope select walk))
  | .nested query, walk => branchesOfQuery index scope query walk
  | .combined _ _ left right, walk =>
    .combined (branchesOfBody index scope left walk)
      (branchesOfBody index scope right (walkBody index scope left walk))
  | .write _ source _, walk => branchesOfSource index scope source walk
  | .rows _, _ => .single []

def branchesOfSource (index : Nat) (scope : List String) : Option Sql.Query → Walk → Branches
  | none, _ => .single []
  | some query, walk => branchesOfQuery index scope query walk

end

mutual

/-- A query has several branches just when it is a set operation. -/
theorem isCombined_branchesOfQuery (index : Nat) (scope : List String) :
    (query : Sql.Query) → (walk : Walk) →
      (branchesOfQuery index scope query walk).isCombined = query.bareBody.isCombined
  | ⟨_, _, body, _, _⟩, walk => by
      rw [branchesOfQuery, Sql.Query.bareBody]
      exact isCombined_branchesOfBody index _ body _

theorem isCombined_branchesOfBody (index : Nat) (scope : List String) :
    (body : Sql.QueryBody) → (walk : Walk) →
      (branchesOfBody index scope body walk).isCombined = body.bare.isCombined
  | .select _, _ => by
      simp [branchesOfBody, Sql.QueryBody.bare, Branches.isCombined, Sql.QueryBody.isCombined]
  | .nested query, walk => by
      rw [branchesOfBody, Sql.QueryBody.bare]
      exact isCombined_branchesOfQuery index scope query walk
  | .combined _ _ _ _, _ => by
      simp [branchesOfBody, Sql.QueryBody.bare, Branches.isCombined, Sql.QueryBody.isCombined]
  | .write _ none _, _ => by
      simp [branchesOfBody, branchesOfSource, Sql.QueryBody.bare, Branches.isCombined,
        Sql.QueryBody.isCombined]
  | .write _ (some query) _, walk => by
      rw [branchesOfBody, branchesOfSource, Sql.QueryBody.bare]
      exact isCombined_branchesOfQuery index scope query walk
  | .rows _, _ => by
      simp [branchesOfBody, Sql.QueryBody.bare, Branches.isCombined, Sql.QueryBody.isCombined]

end

/-! ### Selects note no sources -/

/-- Declarations leave the query around them as it is. -/
theorem query_walkCtes (index : Nat) (isRecursive : Bool) (scope : List String) (ctes : List Sql.Cte)
    (walk : Walk) : (walkCtes index isRecursive scope ctes walk).1.query = walk.query := by
  induction ctes generalizing scope walk with
  | nil => rw [walkCtes]
  | cons cte rest ih =>
      obtain ⟨aliasName, materialized, definition, origin⟩ := cte
      rw [walkCtes, ih]
      rfl

/-- Whether the query that is being filled has the same sources at two points of a walk. -/
def Walk.KeepsInfo (walk later : Walk) : Prop := later.query.unionInfo = walk.query.unionInfo

namespace Walk.KeepsInfo

variable {walk later last : Walk}

theorem refl (walk : Walk) : walk.KeepsInfo walk := rfl

theorem trans (first : walk.KeepsInfo later) (second : later.KeepsInfo last) : walk.KeepsInfo last :=
  Eq.trans second first

theorem addTable (table : TableReference) (walk : Walk) :
    walk.KeepsInfo (walk.update (·.addTable table)) := by
  show (walk.query.addTable table).unionInfo = _
  rw [Query.addTable]
  split
  · show (walk.query.addDependency table.key).unionInfo = _
    rw [Query.addDependency]
    split <;> rfl
  · rfl

/-- A nested query notes its own sources, not those of the query around it. -/
theorem nest (index : Nat) (aliasName : Option String) (fill : Walk → Walk) (walk : Walk) :
    walk.KeepsInfo (walk.nest index aliasName fill).1 := by
  show (walk.query.addDependency _).unionInfo = _
  rw [Query.addDependency]
  split <;> rfl

theorem filter (clause : String) (condition : Option Sql.Expr) (walk : Walk) :
    walk.KeepsInfo (walk.filter clause condition) := by
  cases condition <;> rfl

theorem join (left right : Option TableReference) (operator : Sql.JoinOperator)
    (constraint : Sql.JoinConstraint) (walk : Walk) :
    walk.KeepsInfo (walk.join left right operator constraint) := by
  cases left <;> cases right <;> rfl

end Walk.KeepsInfo

mutual

theorem keepsInfo_walkTables (index : Nat) (scope : List String) :
    (tables : List Sql.JoinedTables) → (walk : Walk) →
      walk.KeepsInfo (walkTables index scope tables walk)
  | [], walk => by
      rw [walkTables]
      exact .refl walk
  | joined :: rest, walk => by
      rw [walkTables]
      exact (keepsInfo_walkJoined index scope joined walk).trans (keepsInfo_walkTables index scope rest _)

theorem keepsInfo_walkJoined (index : Nat) (scope : List String) :
    (joined : Sql.JoinedTables) → (walk : Walk) →
      walk.KeepsInfo (walkJoined index scope joined walk).1
  | ⟨relation, joins⟩, walk => by
      rw [walkJoined]
      exact (keepsInfo_walkFactor index scope relation walk).trans
        (keepsInfo_walkJoins index scope _ joins _)

theorem keepsInfo_walkJoins (index : Nat) (scope : List String) (primary : Option TableReference) :
    (joins : List Sql.Join) → (walk : Walk) →
      walk.KeepsInfo (walkJoins index scope primary joins walk)
  | [], walk => by
      rw [walkJoins]
      exact .refl walk
  | ⟨_, operator, relation, constraint⟩ :: rest, walk => by
      rw [walkJoins]
      have conditioned : ∀ walk : Walk, walk.KeepsInfo
          (if keepsCondition operator then walkConstraint index scope constraint walk else walk) := by
        intro walk
        split
        · exact keepsInfo_walkConstraint index scope constraint walk
        · exact .refl walk
      have right := (keepsInfo_walkFactor index scope relation walk).trans (conditioned _)
      exact (right.trans (.join primary _ operator constraint _)).trans
        (keepsInfo_walkJoins index scope primary rest _)

theorem keepsInfo_walkConstraint (index : Nat) (scope : List String) :
    (constraint : Sql.JoinConstraint) → (walk : Walk) →
      walk.KeepsInfo (walkConstraint index scope constraint walk)
  | .on condition, walk => by
      rw [walkConstraint]
      exact keepsInfo_walkExpr index scope condition walk
  | .using _, walk => by
      rw [walkConstraint.eq_def]
      exact .refl walk
  | .natural, walk => by
      rw [walkConstraint.eq_def]
      exact .refl walk
  | .none, walk => by
      rw [walkConstraint.eq_def]
      exact .refl walk

theorem keepsInfo_walkFactor (index : Nat) (scope : List String) :
    (factor : Sql.TableFactor) → (walk : Walk) →
      walk.KeepsInfo (walkFactor index scope factor walk).1
  | .table _ _ _ _, walk => by
      rw [walkFactor]
      exact .addTable _ walk
  | .derived _ query aliasName, walk => by
      rw [walkFactor]
      exact (Walk.KeepsInfo.nest index _ (walkQuery index scope query) walk).trans (.addTable _ _)
  | .nested inner _, walk => by
      rw [walkFactor]
      exact keepsInfo_walkJoined index scope inner walk
  | .other _ _ _, walk => by
      rw [walkFactor]
      exact .refl walk

theorem keepsInfo_walkItems (index : Nat) (scope : List String) :
    (items : List Sql.SelectItem) → (walk : Walk) → walk.KeepsInfo (walkItems index scope items walk)
  | [], walk => by
      rw [walkItems]
      exact .refl walk
  | item :: rest, walk => by
      rw [walkItems]
      have listed := keepsInfo_walkItem index scope item walk
      exact listed.trans (keepsInfo_walkItems index scope rest _)

theorem keepsInfo_walkItem (index : Nat) (scope : List String) :
    (item : Sql.SelectItem) → (walk : Walk) → walk.KeepsInfo (walkItem index scope item walk)
  | .value expr _, walk => by
      rw [walkItem]
      exact keepsInfo_walkExpr index scope expr walk
  | .wildcard _, walk => by
      rw [walkItem]
      exact .refl walk

theorem keepsInfo_walkExpr (index : Nat) (scope : List String) :
    (expr : Sql.Expr) → (walk : Walk) → walk.KeepsInfo (walkExpr index scope expr walk)
  | .column _, walk => by
      rw [walkExpr]
      exact .refl walk
  | .nested inner, walk => by
      rw [walkExpr]
      exact keepsInfo_walkExpr index scope inner walk
  | .conditional operand conditions results otherwise, walk => by
      rw [walkExpr]
      have tested := (keepsInfo_walkOption index scope operand walk).trans
        (keepsInfo_walkExprs index scope conditions _)
      exact (tested.trans (keepsInfo_walkExprs index scope results _)).trans
        (keepsInfo_walkOption index scope otherwise _)
  | .call _ _ arguments ordering rest, walk => by
      rw [walkExpr]
      exact ((keepsInfo_walkParts index scope arguments walk).trans
        (keepsInfo_walkParts index scope rest _)).trans (keepsInfo_walkParts index scope ordering _)
  | .braced call, walk => by
      rw [walkExpr]
      exact keepsInfo_walkExpr index scope call walk
  | .operation left _ right, walk => by
      rw [walkExpr]
      exact (keepsInfo_walkExpr index scope left walk).trans (keepsInfo_walkExpr index scope right _)
  | .phrase parts, walk => by
      rw [walkExpr]
      exact keepsInfo_walkParts index scope parts walk
  | .inverted lead principal, walk => by
      rw [walkExpr]
      exact (keepsInfo_walkParts index scope principal walk).trans
        (keepsInfo_walkParts index scope lead _)

theorem keepsInfo_walkOption (index : Nat) (scope : List String) :
    (expr : Option Sql.Expr) → (walk : Walk) → walk.KeepsInfo (walkOption index scope expr walk)
  | none, walk => by
      rw [walkOption]
      exact .refl walk
  | some expr, walk => by
      rw [walkOption]
      exact keepsInfo_walkExpr index scope expr walk

theorem keepsInfo_walkExprs (index : Nat) (scope : List String) :
    (exprs : List Sql.Expr) → (walk : Walk) → walk.KeepsInfo (walkExprs index scope exprs walk)
  | [], walk => by
      rw [walkExprs]
      exact .refl walk
  | expr :: rest, walk => by
      rw [walkExprs]
      exact (keepsInfo_walkExpr index scope expr walk).trans (keepsInfo_walkExprs index scope rest _)

theorem keepsInfo_walkParts (index : Nat) (scope : List String) :
    (parts : List Sql.Part) → (walk : Walk) → walk.KeepsInfo (walkParts index scope parts walk)
  | [], walk => by
      rw [walkParts]
      exact .refl walk
  | part :: rest, walk => by
      rw [walkParts]
      exact (keepsInfo_walkPart index scope part walk).trans (keepsInfo_walkParts index scope rest _)

theorem keepsInfo_walkPart (index : Nat) (scope : List String) :
    (part : Sql.Part) → (walk : Walk) → walk.KeepsInfo (walkPart index scope part walk)
  | .text _, walk => by
      rw [walkPart]
      exact .refl walk
  | .operand expr, walk => by
      rw [walkPart]
      exact keepsInfo_walkExpr index scope expr walk
  | .query query, walk => by
      rw [walkPart]
      exact (Walk.KeepsInfo.nest index none (walkQuery index scope query) walk).trans (.addTable _ _)

end

/-- A select leaves the sources to the set operation around it. -/
theorem keepsInfo_walkSelect (index : Nat) (scope : List String) (select : Sql.Select) (walk : Walk) :
    walk.KeepsInfo (walkSelect index scope select walk) := by
  obtain ⟨_, items, _, tables, _, condition, groupBy, _, having, _⟩ := select
  rw [walkSelect]
  have columns := (keepsInfo_walkTables index scope tables walk).trans
    (keepsInfo_walkItems index scope items _)
  have rows := (columns.trans (keepsInfo_walkOption index scope condition _)).trans
    (.filter "WHERE" condition _)
  have grouped : ∀ walk : Walk, walk.KeepsInfo (walk.update fun query =>
      { query with groupBy := query.groupBy ++ groupBy }) := fun _ => rfl
  exact ((rows.trans (grouped _)).trans (keepsInfo_walkOption index scope having _)).trans
    (.filter "HAVING" having _)

/-! ### Set operations note what their branches read -/

/-- The sources that are noted so far. -/
def Query.notedSources (query : Query) : List String :=
  (query.unionInfo.map UnionInfo.sources).getD []

/-- How these branches are walked through: what they read is listed, and what set operations come across is
noted. -/
structure Walk.Merges (branches : Branches) (walk later : Walk) : Prop where
  tables : later.query.tables.map TableReference.name =
    walk.query.tables.map TableReference.name ++ branches.names
  sources : ∀ names : List String, walk.query.notedSources = names.eraseDups →
    later.query.notedSources = (names ++ branches.noted).eraseDups
  isSome : later.query.unionInfo.isSome = (walk.query.unionInfo.isSome || branches.isCombined)

namespace Walk.Merges

variable {walk middle later : Walk} {left right : Branches}

/-- A branch without a set operation. -/
theorem single (keeps : walk.KeepsInfo later) (extends' : walk.Extends later) :
    walk.Merges (.single (walk.listedSince later)) later := by
  obtain ⟨own, tables⟩ := extends'.query.tables
  constructor
  · rw [Branches.names, Walk.listedSince, ← tables, List.drop_left, List.map_append]
  · intro names noted
    rw [Branches.noted, List.append_nil, Query.notedSources, keeps]
    exact noted
  · rw [keeps, Branches.isCombined, Bool.or_false]

theorem nothing (walk : Walk) : walk.Merges (.single []) walk := by
  have merges := single (.refl walk) (.refl walk)
  rwa [Walk.listedSince, List.drop_length, List.map_nil] at merges

/-- What is noted of a query besides its relations and sources makes no difference. -/
theorem noting {branches : Branches} {change : Query → Query} (merges : walk.Merges branches later)
    (tables : (change later.query).tables = later.query.tables)
    (unionInfo : (change later.query).unionInfo = later.query.unionInfo) :
    walk.Merges branches (later.update change) where
  tables := (congrArg (List.map TableReference.name) tables).trans merges.tables
  sources names noted := by
    rw [query_update, Query.notedSources, unionInfo]
    exact merges.sources names noted
  isSome := (congrArg Option.isSome unionInfo).trans merges.isSome

theorem congr_walk {branches : Branches} {other : Walk} (merges : other.Merges branches later)
    (sameQuery : other.query = walk.query) : walk.Merges branches later where
  tables := sameQuery ▸ merges.tables
  sources := sameQuery ▸ merges.sources
  isSome := sameQuery ▸ merges.isSome

/-- A set operation notes what both its operands read behind what is noted inside them. -/
theorem combine (onLeft : walk.Merges left middle) (onRight : middle.Merges right later)
    (operator : Sql.SetOperator) (quantifier : String) :
    walk.Merges (.combined left right)
      (later.combine operator quantifier walk.query.tables.length) := by
  have tables : later.query.tables.map TableReference.name =
      walk.query.tables.map TableReference.name ++ (left.names ++ right.names) := by
    rw [onRight.tables, onLeft.tables, List.append_assoc]
  have since : (later.query.tables.drop walk.query.tables.length).map TableReference.name =
      left.names ++ right.names := by
    have length : walk.query.tables.length = (walk.query.tables.map TableReference.name).length :=
      (List.length_map _).symm
    rw [List.map_drop, tables, length, List.drop_left]
  constructor
  · exact tables
  · intro names noted
    have inside := onRight.sources _ (onLeft.sources names noted)
    have found : (later.query.unionInfo.getD { kind := operator.keyword ++ Sql.spaced quantifier }).sources =
        (names ++ left.noted ++ right.noted).eraseDups := by
      rw [← inside, Query.notedSources]
      cases later.query.unionInfo <;> rfl
    have all := foldl_note_eraseDups (left.names ++ right.names) (names ++ left.noted ++ right.noted)
    rw [← found, ← since] at all
    refine Eq.trans all ?_
    rw [since, Branches.noted]
    simp only [List.append_assoc]
  · exact (Bool.or_true _).symm

end Walk.Merges

mutual

/-- The walk through a query notes what its branches read. -/
theorem merges_walkQuery (index : Nat) (scope : List String) : (query : Sql.Query) → (walk : Walk) →
    walk.Merges (branchesOfQuery index scope query walk) (walkQuery index scope query walk)
  | ⟨isRecursive, ctes, body, _, _⟩, walk => by
      rw [branchesOfQuery, walkQuery]
      have merges := merges_walkBody index (walkCtes index isRecursive scope ctes walk).2 body
        (walkCtes index isRecursive scope ctes walk).1
      exact (merges.congr_walk (query_walkCtes index isRecursive scope ctes walk)).noting rfl rfl

theorem merges_walkBody (index : Nat) (scope : List String) : (body : Sql.QueryBody) → (walk : Walk) →
    walk.Merges (branchesOfBody index scope body walk) (walkBody index scope body walk)
  | .select select, walk => by
      rw [branchesOfBody, walkBody]
      exact .single (keepsInfo_walkSelect index scope select walk)
        (extends_walkSelect index scope select walk)
  | .nested query, walk => by
      rw [branchesOfBody, walkBody]
      exact merges_walkQuery index scope query walk
  | .combined operator quantifier left right, walk => by
      rw [branchesOfBody, walkBody]
      exact (merges_walkBody index scope left walk).combine (merges_walkBody index scope right _)
        operator quantifier
  | .write _ source _, walk => by
      rw [branchesOfBody, walkBody]
      exact merges_walkSource index scope source walk
  | .rows _, walk => by
      rw [branchesOfBody, walkBody]
      exact .nothing walk

theorem merges_walkSource (index : Nat) (scope : List String) :
    (source : Option Sql.Query) → (walk : Walk) →
      walk.Merges (branchesOfSource index scope source walk) (walkSource index scope source walk)
  | none, walk => by
      rw [branchesOfSource, walkSource]
      exact .nothing walk
  | some query, walk => by
      rw [branchesOfSource, walkSource]
      exact merges_walkQuery index scope query walk

end

/-! ### The sources of a query -/

/-- How a set operation of these branches notes its sources. They are the names that the query reads, each
once, in the order in which the set operations come across them. That is the order of first appearance unless
a set operation stands on the right of another one; and there is one name for each relation just when none is
spelled in two ways. -/
structure Query.MergesBranches (branches : Branches) (query : Query) (info : UnionInfo) : Prop where
  sources : info.sources = branches.noted.eraseDups
  nodup : info.sources.Nodup
  complete : ∀ name, name ∈ info.sources ↔ name ∈ query.tables.map TableReference.name
  inOrder : branches.IsLeftNested → info.sources = (query.tables.map TableReference.name).eraseDups
  onePerRelation : (info.sources.map Text.lowercase).Nodup ↔
    SpelledAlike (query.tables.map TableReference.name)
  firstSpellings : info.sources = firstSpellings (query.tables.map TableReference.name) ↔
    info.sources = (query.tables.map TableReference.name).eraseDups ∧
      SpelledAlike (query.tables.map TableReference.name)

/-- A query that nothing is known of yet has sources when it is filled just when it is a set operation, and
then those that its branches read. -/
theorem mergesBranches_collectQuery (index : Nat) (tree : Sql.Query) {collector : Collector}
    (unread : collector.query.tables = []) (unmerged : collector.query.unionInfo = none) :
    ((collectQuery index tree collector).query.unionInfo.isSome = true ↔
        tree.bareBody.isCombined = true) ∧
      (branchesOfQuery index collector.scope tree collector.toWalk).names =
        (collectQuery index tree collector).query.tables.map TableReference.name ∧
      ∀ info, (collectQuery index tree collector).query.unionInfo = some info →
        (collectQuery index tree collector).query.MergesBranches
          (branchesOfQuery index collector.scope tree collector.toWalk) info := by
  obtain ⟨walk, scope⟩ := collector
  rw [collectQuery_eq]
  dsimp only at unread unmerged ⊢
  have merges := merges_walkQuery index scope tree walk
  have isSome : (walkQuery index scope tree walk).query.unionInfo.isSome =
      (branchesOfQuery index scope tree walk).isCombined := by
    rw [merges.isSome, unmerged, Option.isSome_none, Bool.false_or]
  have names : (walkQuery index scope tree walk).query.tables.map TableReference.name =
      (branchesOfQuery index scope tree walk).names := by
    rw [merges.tables, unread, List.map_nil, List.nil_append]
  refine ⟨?_, names.symm, fun info noted => ?_⟩
  · rw [isSome, isCombined_branchesOfQuery]
  · have isCombined : (branchesOfQuery index scope tree walk).isCombined = true := by
      rw [← isSome, noted, Option.isSome_some]
    have unnoted : walk.query.notedSources = ([] : List String).eraseDups := by
      rw [Query.notedSources, unmerged]
      rfl
    have sources : info.sources = (branchesOfQuery index scope tree walk).noted.eraseDups := by
      have all := merges.sources [] unnoted
      rwa [Query.notedSources, noted, List.nil_append] at all
    have nodup : info.sources.Nodup := sources ▸ nodup_eraseDups _
    have complete : ∀ name, name ∈ info.sources ↔
        name ∈ (walkQuery index scope tree walk).query.tables.map TableReference.name := by
      intro name
      rw [sources, List.mem_eraseDups, Branches.mem_noted_iff isCombined, names]
    exact {
      sources := sources
      nodup := nodup
      complete := complete
      inOrder := fun leftNested => by
        rw [sources, Branches.eraseDups_noted isCombined leftNested, names]
      onePerRelation := nodup_lowercase_iff nodup complete
      firstSpellings := eq_firstSpellings_iff nodup complete }

/-- The operand on the right notes its sources first, and one relation by both its spellings. -/
theorem mergesBranches_rightNested : ∃ tree ∈ Sql.sourceQuery? .generic
      "SELECT 1 FROM a UNION (SELECT 1 FROM b UNION SELECT 1 FROM A)",
    branchesOfQuery 0 [] tree { query := {} } =
        .combined (.single ["a"]) (.combined (.single ["b"]) (.single ["A"])) ∧
      (collectQuery 0 tree { query := {} }).query.unionInfo =
        some { kind := "UNION", sources := ["b", "A", "a"] } ∧
      (collectQuery 0 tree { query := {} }).query.MergesBranches
        (.combined (.single ["a"]) (.combined (.single ["b"]) (.single ["A"])))
        { kind := "UNION", sources := ["b", "A", "a"] } := by
  have walked : ∃ tree ∈ Sql.sourceQuery? .generic
        "SELECT 1 FROM a UNION (SELECT 1 FROM b UNION SELECT 1 FROM A)",
      branchesOfQuery 0 [] tree { query := {} } =
          .combined (.single ["a"]) (.combined (.single ["b"]) (.single ["A"])) ∧
        (collectQuery 0 tree { query := {} }).query.unionInfo =
          some { kind := "UNION", sources := ["b", "A", "a"] } := by
    decide +kernel
  obtain ⟨tree, isTree, branches, noted⟩ := walked
  have merged := (@mergesBranches_collectQuery 0 tree { query := {} } rfl rfl).2.2 _ noted
  exact ⟨tree, isTree, branches, noted, branches ▸ merged⟩

/-- Sources need not be the relations by the names that come first: not where a relation is spelled in two
ways, and not where a set operation stands on the right of another one. -/
theorem sources_ne_firstSpellings :
    (∃ tree ∈ Sql.sourceQuery? .generic "SELECT 1 FROM a UNION SELECT 1 FROM A",
      let filled := (collectQuery 0 tree { query := {} }).query
      filled.unionInfo.map UnionInfo.sources = some ["a", "A"] ∧
        firstSpellings (filled.tables.map TableReference.name) = ["a"]) ∧
    ∃ tree ∈ Sql.sourceQuery? .generic "SELECT 1 FROM a UNION (SELECT 1 FROM b UNION SELECT 1 FROM c)",
      let filled := (collectQuery 0 tree { query := {} }).query
      filled.unionInfo.map UnionInfo.sources = some ["b", "c", "a"] ∧
        firstSpellings (filled.tables.map TableReference.name) = ["a", "b", "c"] := by
  decide +kernel

end SqlLineage.Lineage
