/-
Module: SqlLineage.Proofs.Lineage.Collection
Purpose: The lineage of a statement against its syntax tree. All relations that the tree mentions are
  listed, each as often as it is mentioned, and each as the scope of its mention says.
Main exports: exists_collected, collectsAll, resolvesLexically
-/
import Mathlib.Data.List.Basic
import SqlLineage.Proofs.Lineage.Resolution

namespace SqlLineage.Lineage

open Sql (Frame Sees Mention Block Reading Source)

/-- The queries of a statement: those inside it, and last its own one, which goes on from the relations
that it had listed before. -/
theorem exists_collected (index : Nat) (tree : Sql.Query) (root : Query) :
    ∃ inner last own, (collectStatement index tree root).queries = inner ++ [last] ∧
      last.tables = root.tables ++ own ∧ last.isSubQuery = root.isSubQuery ∧
      Fits (tree.reading []) inner own := by
  have reads := reads_walkQuery index tree { query := root }
  obtain ⟨inner, own, queries, tables, fits⟩ := reads.adds
  have collected := queries_collectStatement index tree root
  rw [queries] at collected
  exact ⟨inner, _, own, collected, tables, reads.isSubQuery, fits⟩

/-! ### Nothing is lost and nothing is found twice -/

theorem Lists.split {mentions : List Mention} {references : List TableReference} {names : List String}
    (lists : Lists mentions references names) :
    ∃ byName nested : List TableReference, references.Perm (byName ++ nested) ∧
      byName.map (fun reference => (reference.name, reference.aliasName)) =
        mentions.filterMap Mention.table? ∧
      nested.map TableReference.name = names ∧ names.length = mentions.countP Mention.isQuery := by
  induction lists with
  | nil => exact ⟨[], [], .refl _, rfl, rfl, rfl⟩
  | @table around mentions reference references names _ _ ih =>
      obtain ⟨byName, nested, all, tables, same, count⟩ := ih
      refine ⟨reference :: byName, nested, all.cons reference, ?_, same, ?_⟩
      · simp [tables]
      · simpa using count
  | @query around mentions reference references names _ _ ih =>
      obtain ⟨byName, nested, all, tables, same, count⟩ := ih
      refine ⟨byName, reference :: nested, (all.cons reference).trans List.perm_middle.symm, ?_, ?_, ?_⟩
      · rw [List.filterMap_cons_none (Mention.table?_query around _), tables]
      · rw [List.map_cons, same]
      · rw [List.countP_cons_of_pos (Mention.isQuery_query around _), List.length_cons, count]

theorem Completes.lists {blocks : List Block} {queries : List Query} {names : List String}
    (completes : Completes blocks queries names) :
    Lists (blocks.flatMap Block.mentions) (queries.flatMap Query.tables) names := by
  induction completes with
  | nil => exact .nil
  | cons _ lists _ ih => exact lists.append ih

/-- Whether the queries of a statement list what the syntax tree mentions and nothing else: the relations by
name as often as they are mentioned by name, and for each mention of a nested query a reference to a nested
query of the statement, each of which is referred to once. -/
structure CollectsAll (index : Nat) (tree : Sql.Query) (root : Query) : Prop where
  references : ∃ byName nested : List TableReference,
    ((collectStatement index tree root).queries.flatMap Query.tables).Perm
      (root.tables ++ byName ++ nested) ∧
    byName.map (fun reference => (reference.name, reference.aliasName)) =
      (tree.reading []).mentions.filterMap Mention.table? ∧
    (nested.map TableReference.name).Perm (nestedIds (collectStatement index tree root).queries.dropLast)
  subqueries : (collectStatement index tree root).queries.countP Query.isSubQuery =
    (tree.reading []).mentions.countP Mention.isQuery + if root.isSubQuery then 1 else 0

/-- The walk through a statement loses no relation and lists none that is not there. -/
theorem collectsAll (index : Nat) (tree : Sql.Query) (root : Query) : CollectsAll index tree root := by
  obtain ⟨inner, last, own, queries, tables, isSubQuery, innerNames, ownNames, completes, lists, ids⟩ :=
    exists_collected index tree root
  obtain ⟨byName, nested, all, names, same, count⟩ := (completes.lists.append lists).split
  refine ⟨⟨byName, nested, ?_, names, ?_⟩, ?_⟩
  · rw [queries, List.flatMap_append, List.flatMap_singleton, tables, List.append_assoc]
    exact (List.perm_append_comm_assoc _ _ _).trans (all.append_left root.tables)
  · rw [queries, List.dropLast_concat, same]
    exact ids
  · have total : (inner.countP Query.isSubQuery) = (innerNames ++ ownNames).length := by
      rw [ids.length_eq, nestedIds, List.length_map, List.countP_eq_length_filter]
    rw [queries, List.countP_append, total, count, List.countP_singleton, isSubQuery]
    rfl

/-! ### Scopes are lexical -/

/-- Whether a reference stands for a mention: a relation by name is taken for a common table expression
exactly if one of its name is visible at the mention, and a nested query never is. -/
def Resolves (mention : Mention) (reference : TableReference) : Prop :=
  match mention.source with
  | .table name aliasName => reference.name = name ∧ reference.aliasName = aliasName ∧
      (reference.isCte = true ↔ Sees mention.around reference.key)
  | .query aliasName => reference.aliasName = aliasName ∧ reference.isCte = false

theorem Lists.resolves {mentions : List Mention} {references : List TableReference}
    {names : List String} (lists : Lists mentions references names) :
    List.Forall₂ Resolves mentions references := by
  induction lists with
  | nil => exact .nil
  | table flagged _ ih => exact .cons ⟨rfl, rfl, flagged⟩ ih
  | query unflagged _ ih => exact .cons ⟨rfl, unflagged⟩ ih

theorem Completes.resolves {blocks : List Block} {queries : List Query} {names : List String}
    (completes : Completes blocks queries names) :
    List.Forall₂ (fun block query => List.Forall₂ Resolves block.mentions query.tables) blocks
      queries := by
  induction completes with
  | nil => exact .nil
  | cons _ lists _ ih => exact .cons lists.resolves ih

/-- Whether the references of a statement are resolved by lexical scope, each at the mention that it stands
for, in the statement's own query as in those inside it. The names that are visible are kept in a stack,
and the stack is the lexical environment wherever the walk comes to. -/
structure ResolvesLexically (index : Nat) (tree : Sql.Query) (root : Query) : Prop where
  references : ∃ inner last own, (collectStatement index tree root).queries = inner ++ [last] ∧
    List.Forall₂ (fun block query => List.Forall₂ Resolves block.mentions query.tables)
      (tree.reading []).inner inner ∧
    last.tables = root.tables ++ own ∧ List.Forall₂ Resolves (tree.reading []).own own
  /-- Behind declarations the scope is as it was but for their own names. -/
  declared : ∀ isRecursive ctes (collector : Collector),
    (collectCtes index isRecursive ctes collector).scope =
      collector.scope ++ (ctes.map Sql.Cte.name).map Text.lowercase
  /-- Behind a query the scope is as it was before it, whatever the query declares. -/
  restored : ∀ query (collector : Collector),
    (collectQuery index query collector).scope = collector.scope
  /-- A query is walked through as if the scope before it were an argument that nothing changes. -/
  lexical : ∀ query (collector : Collector),
    collectQuery index query collector = collector.note (walkQuery index collector.scope query)

/-- A reference is taken for one to a common table expression exactly where lexical scope says so. -/
theorem resolvesLexically (index : Nat) (tree : Sql.Query) (root : Query) :
    ResolvesLexically index tree root := by
  obtain ⟨inner, last, own, queries, tables, _, _, _, completes, lists, _⟩ :=
    exists_collected index tree root
  have lexical : ∀ query (collector : Collector),
      collectQuery index query collector = collector.note (walkQuery index collector.scope query) :=
    fun query collector => collectQuery_eq index query collector.toWalk collector.scope
  refine ⟨⟨inner, last, own, queries, completes.resolves, tables, lists.resolves⟩, ?_, ?_, lexical⟩
  · intro isRecursive ctes collector
    rw [collectCtes_eq index isRecursive ctes collector.toWalk collector.scope]
    exact scope_walkCtes index isRecursive collector.scope ctes collector.toWalk
  · intro query collector
    rw [lexical]
    rfl

/-- A query that declares a common table expression of the name that is made up for the query nested in
it: `WITH sub_0_0 AS (SELECT * FROM a) SELECT * FROM (SELECT * FROM b)`. -/
def collidingQuery : Sql.Query :=
  let all (factor : Sql.TableFactor) : Sql.QueryBody :=
    .select ⟨"SELECT", [.wildcard "*"], "", [⟨factor, []⟩], "", none, [], "", none, ""⟩
  let readAll (name : String) : Sql.Query := ⟨false, [], all (.table [⟨name, none⟩] "" none ""), [], ""⟩
  ⟨false, [⟨⟨⟨"sub_0_0", none⟩, []⟩, "", readAll "a", none⟩], all (.derived false (readAll "b") none), [], ""⟩

/-- A reference to a nested query is not taken for one to a common table expression even where one of its
made-up name is visible. -/
theorem nested_reference_unflagged :
    ∃ last mention reference, (collectStatement 0 collidingQuery {}).queries.getLast? = some last ∧
      (collidingQuery.reading []).own = [mention] ∧ last.tables = [reference] ∧
      ¬ (reference.isCte = true ↔ Sees mention.around reference.key) := by
  have visible : Sees [.body ["sub_0_0"]] (Text.lowercase "sub_0_0") :=
    ⟨.body ["sub_0_0"], List.mem_cons_self, .declared List.mem_cons_self⟩
  rw [queries_collectStatement]
  exact ⟨_, _, _, rfl, rfl, rfl, fun flagged => Bool.false_ne_true (flagged.mpr visible)⟩

end SqlLineage.Lineage
