/-
Module: SqlLineage.Proofs.Lineage.Mentions
Purpose: What the queries of a script mention, as the syntax trees of its statements tell. Each reference of
  a query that the grammar reads stands for one mention, and one to a nested query names a query that is
  nested in the same statement.
Main exports: scriptMentions, Query.Mentions, nestedIn, forall₂_mentions
-/
import Mathlib.Data.List.Forall2
import SqlLineage.Proofs.Lineage.Collection
import SqlLineage.Proofs.Lineage.Declared

namespace SqlLineage.Lineage

open Sql (Mention Block Reading)

deriving instance DecidableEq for Sql.Frame, Sql.Mention

/-- What each query of a syntax tree mentions, in the order in which they end. -/
def mentionLists (tree : Sql.Query) : List (List Mention) :=
  (tree.reading []).inner.map Block.mentions ++ [(tree.reading []).own]

/-- What each query that a statement contributes mentions. Nothing is known of one whose tokens are
scanned. -/
def statementMentions (read : String → Option Sql.Query) (statement : Script.Statement) :
    List (List Mention) :=
  if (statementLineage? read statement).isSome then
    match read statement.normalized with
    | some tree => mentionLists tree
    | none => [[]]
  else []

/-- What each query of a script mentions. -/
def scriptMentions (read : String → Option Sql.Query) (escapes : Script.QuoteEscapes)
    (script : String) : List (List Mention) :=
  (Script.Statement.split escapes script).flatMap (statementMentions read)

/-! ### The queries of a statement -/

/-- Whether the references of a query stand for these mentions, one for each in order, and those that stand
for nested queries have these names. -/
structure Query.Mentions (names : List String) (query : Query) (mentions : List Mention) : Prop where
  resolves : List.Forall₂ Resolves mentions query.tables
  named : ∀ mention table, (mention, table) ∈ mentions.zip query.tables → mention.isQuery = true →
    table.name ∈ names

theorem Query.Mentions.mono {names more : List String} {query : Query} {mentions : List Mention}
    (known : query.Mentions names mentions) (subset : names ⊆ more) : query.Mentions more mentions :=
  ⟨known.resolves, fun mention table listed isQuery => subset (known.named mention table listed isQuery)⟩

theorem Lists.mem_names {mentions : List Mention} {references : List TableReference}
    {names : List String} (lists : Lists mentions references names) :
    ∀ mention table, (mention, table) ∈ mentions.zip references → mention.isQuery = true →
      table.name ∈ names := by
  intro mention table listed isQuery
  induction lists with
  | nil => cases listed
  | table flagged behind ih =>
      rcases List.mem_cons.mp listed with here | later
      · obtain ⟨rfl, rfl⟩ := Prod.mk.inj here
        cases isQuery
      · exact ih later
  | query unflagged behind ih =>
      rcases List.mem_cons.mp listed with here | later
      · obtain ⟨rfl, rfl⟩ := Prod.mk.inj here
        exact List.mem_cons_self
      · exact List.mem_cons_of_mem _ (ih later)

theorem Completes.mentions {blocks : List Block} {queries : List Query} {names : List String}
    (completes : Completes blocks queries names) :
    List.Forall₂ (Query.Mentions names) queries (blocks.map Block.mentions) := by
  induction completes with
  | nil => exact .nil
  | @cons block blocks query queries names later isSubQuery lists behind ih =>
      refine .cons ⟨lists.resolves, ?_⟩ (ih.imp fun _ _ known => known.mono (List.subset_append_right _ _))
      intro mention table listed isQuery
      exact List.mem_append_left _ (lists.mem_names mention table listed isQuery)

/-- The references of a statement that the grammar reads stand for what its syntax tree mentions. -/
theorem mentions_collectStatement (index : Nat) (tree : Sql.Query) {root : Query}
    (unread : root.tables = []) :
    List.Forall₂ (Query.Mentions (nestedIds (collectStatement index tree root).queries))
      (collectStatement index tree root).queries (mentionLists tree) := by
  obtain ⟨inner, last, own, queries, tables, _, innerNames, ownNames, completes, lists, ids⟩ :=
    exists_collected index tree root
  have names : innerNames ++ ownNames ⊆ nestedIds (collectStatement index tree root).queries := by
    intro name listed
    rw [queries, nestedIds, List.filter_append, List.map_append]
    exact List.mem_append_left _ (ids.mem_iff.mp listed)
  have lastMentions : last.Mentions ownNames (tree.reading []).own := by
    constructor
    · rw [tables, unread, List.nil_append]
      exact lists.resolves
    · rw [tables, unread, List.nil_append]
      exact lists.mem_names
  have isInner := List.Subset.trans (List.subset_append_left innerNames ownNames) names
  have isOwn := List.Subset.trans (List.subset_append_right innerNames ownNames) names
  have all := List.rel_append (completes.mentions.imp fun _ _ known => known.mono isInner)
    (.cons (lastMentions.mono isOwn) .nil)
  rw [queries] at all ⊢
  exact all

/-- The references of a statement stand for what it mentions; of one whose tokens are scanned nothing is
known. -/
theorem mentions_of_statementLineage? {read : String → Option Sql.Query} {statement : Script.Statement}
    {lineage : StatementLineage} (contributes : statementLineage? read statement = some lineage) :
    List.Forall₂ (fun query mentions => if (read statement.normalized).isSome then
        query.Mentions (nestedIds lineage.queries) mentions else mentions = [])
      lineage.queries (statementMentions read statement) := by
  rw [statementMentions, contributes, Option.isSome_some, if_pos rfl]
  cases contributes_of_statementLineage? contributes with
  | @collected kind tree isTree =>
      rw [isTree]
      exact mentions_collectStatement statement.index tree (tables_rootQuery statement.index kind)
  | scanned isNone =>
      rw [isNone]
      exact .cons rfl .nil

/-! ### The queries of a script -/

section Script

variable (read : String → Option Sql.Query) (escapes : Script.QuoteEscapes) (script : String)

/-- The ids of the queries that are nested in the statement with this index. -/
def nestedIn (source : Nat) : List String :=
  nestedIds (((sourcedQueries read escapes script).filter fun sourced => sourced.1 == source).map Prod.snd)

/-- Whether a query of the statement with this index has these mentions, of which nothing is known if the
grammar does not read the statement. -/
structure KnownMentions (source : Nat) (query : Query) (mentions : List Mention) : Prop where
  isRead : IsRead read escapes script source → query.Mentions (nestedIn read escapes script source) mentions
  unread : ¬ IsRead read escapes script source → mentions = []

variable {read escapes script}

theorem mem_nestedIn_iff {source : Nat} {name : String} : name ∈ nestedIn read escapes script source ↔
    ∃ query, (source, query) ∈ sourcedQueries read escapes script ∧ query.isSubQuery = true ∧
      query.id = name := by
  simp [nestedIn, nestedIds, and_assoc]

/-- The mentions of a query do not depend on its mark for a main one. -/
theorem KnownMentions.of_unmarked {source : Nat} {query : Query} {mentions : List Mention}
    (known : KnownMentions read escapes script source query.unmarked mentions) :
    KnownMentions read escapes script source query mentions where
  isRead read := ⟨(known.isRead read).resolves, (known.isRead read).named⟩
  unread := known.unread

theorem KnownMentions.unmarked {source : Nat} {query : Query} {mentions : List Mention}
    (known : KnownMentions read escapes script source query mentions) :
    KnownMentions read escapes script source query.unmarked mentions where
  isRead read := ⟨(known.isRead read).resolves, (known.isRead read).named⟩
  unread := known.unread

/-- What is known of the queries that a statement contributes. -/
theorem known_of_contributes {statement : Script.Statement} {lineage : StatementLineage}
    (member : statement ∈ Script.Statement.split escapes script)
    (contributes : statementLineage? read statement = some lineage) :
    List.Forall₂ (KnownMentions read escapes script statement.index) lineage.queries
      (statementMentions read statement) := by
  have isContribution : (statement.index, lineage) ∈ contributions read escapes script :=
    List.mem_filterMap.mpr ⟨statement, member, by rw [contributes]; rfl⟩
  have isRead : IsRead read escapes script statement.index ↔ _ := isRead_iff member
  have names : nestedIds lineage.queries ⊆ nestedIn read escapes script statement.index := by
    intro name listed
    obtain ⟨nested, inBlock, rfl⟩ := List.mem_map.mp listed
    obtain ⟨isMember, isSubQuery⟩ := List.mem_filter.mp inBlock
    obtain ⟨query, sourced, same⟩ := exists_sourced isContribution isMember
    have sameKind := sameKind_of_unmarked_eq same.symm
    exact mem_nestedIn_iff.mpr ⟨query, sourced, sameKind.isSubQuery.trans isSubQuery, sameKind.id⟩
  apply (mentions_of_statementLineage? contributes).imp
  intro query mentions known
  split at known
  · next here => exact ⟨fun _ => known.mono names, fun unread => absurd (isRead.mpr here) unread⟩
  · next here => exact ⟨fun read => absurd (isRead.mp read) here, fun _ => known⟩

variable (read escapes script) in
/-- The references of a script stand for what its statements mention, one for each mention in order. -/
theorem forall₂_mentions : List.Forall₂ (fun sourced => KnownMentions read escapes script sourced.1 sourced.2)
    (sourcedQueries read escapes script) (scriptMentions read escapes script) := by
  have unmarked : List.Forall₂ (fun sourced => KnownMentions read escapes script sourced.1 sourced.2)
      ((sourcedQueries read escapes script).map fun sourced => (sourced.1, sourced.2.unmarked))
      (scriptMentions read escapes script) := by
    rw [map_unmarked_sourcedQueries, contributions, List.filterMap_eq_flatMap_toList, List.flatMap_assoc,
      scriptMentions, List.flatMap_def, List.flatMap_def]
    apply List.rel_flatten
    rw [List.forall₂_map_left_iff, List.forall₂_map_right_iff, List.forall₂_same]
    intro statement member
    cases contributes : statementLineage? read statement with
    | none =>
        rw [statementMentions, contributes]
        exact .nil
    | some lineage =>
        rw [Option.map_some, Option.toList_some, List.flatMap_singleton, List.forall₂_map_left_iff]
        exact (known_of_contributes member contributes).imp fun _ _ known => known.unmarked
  exact (List.forall₂_map_left_iff.mp unmarked).imp fun _ _ known => known.of_unmarked

theorem knownMentions_of_located {position source : Nat} {query : Query} {mentions : List Mention}
    (located : (sourcedQueries read escapes script)[position]? = some (source, query))
    (mentioned : (scriptMentions read escapes script)[position]? = some mentions) :
    KnownMentions read escapes script source query mentions := by
  have paired : ((sourcedQueries read escapes script).zip (scriptMentions read escapes script))[
      position]? = some ((source, query), mentions) :=
    List.getElem?_zip_eq_some.mpr ⟨located, mentioned⟩
  exact List.forall₂_zip (forall₂_mentions read escapes script) (List.mem_of_getElem? paired)

end Script

end SqlLineage.Lineage
