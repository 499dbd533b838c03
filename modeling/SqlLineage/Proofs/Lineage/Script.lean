/-
Module: SqlLineage.Proofs.Lineage.Script
Purpose: The queries of a script come in blocks, one for each statement that contributes: inner queries
  first and the statement's own query last. Each of them lists all the relations that it joins, in the
  order of each join.
Main exports: StatementLineage.IsBlock, isBlock_of_statementLineage?, contributions, sourceStatements,
  isCollected_of_mem_queries, countP_take_eq_of_sourceStatements_eq
-/
import Mathlib.Data.List.Basic
import SqlLineage.Lineage.Script
import SqlLineage.Proofs.Lineage.Walk

namespace SqlLineage

/-! ### The scan of a statement -/

namespace Script.ScanState

open Lineage (TableReference JoinKind)

/-- Whether the scan has listed each relation that is joined, the left one before the right one, or that a
join can find as its left side. -/
structure Listed (state : ScanState) : Prop where
  primary : ∀ table, state.primary = some table → table ∈ state.found.tables
  outer : ∀ table, some table ∈ state.outer → table ∈ state.found.tables
  joins : ∀ join ∈ state.found.joins, join.ListedIn state.found.tables

namespace Listed

theorem empty : Listed {} where
  primary _ found := nomatch found
  outer _ found := nomatch found
  joins := List.forall_mem_nil _

variable {state : ScanState} (listed : state.Listed)

include listed

theorem openScope : state.openScope.Listed where
  primary table isPrimary := nomatch isPrimary
  outer table member := by
    rcases List.mem_cons.mp member with isPrimary | enclosing
    · exact listed.primary table isPrimary.symm
    · exact listed.outer table enclosing
  joins := listed.joins

theorem closeScope : state.closeScope.Listed := by
  unfold ScanState.closeScope
  split
  · exact listed
  · next enclosing outer scopes =>
      refine ⟨fun table isPrimary => ?_, fun table member => ?_, listed.joins⟩
      · apply listed.outer table
        rw [scopes, ← isPrimary]
        exact List.mem_cons_self
      · apply listed.outer table
        rw [scopes]
        exact List.mem_cons_of_mem _ member

theorem addCte (name : String) : (state.addCte name).Listed :=
  ⟨listed.primary, listed.outer, listed.joins⟩

theorem addTables (tables : List TableReference) : (state.addTables tables).Listed where
  primary table isPrimary := by
    rcases Option.or_eq_some_iff.mp isPrimary with old | ⟨_, first⟩
    · exact List.mem_append_left _ (listed.primary table old)
    · exact List.mem_append_right _ (List.mem_of_head? first)
  outer table member := List.mem_append_left _ (listed.outer table member)
  joins join member := (listed.joins join member).append tables

theorem addJoin (kind : JoinKind) (right : TableReference) (condition : Option String) :
    (state.addJoin kind right condition).Listed := by
  unfold ScanState.addJoin
  split
  · next left isPrimary =>
      refine ⟨fun table same => ?_, fun table member => ?_, fun join member => ?_⟩
      · exact List.mem_append_left _ (listed.primary table same)
      · exact List.mem_append_left _ (listed.outer table member)
      · rcases List.mem_append.mp member with old | new
        · exact (listed.joins join old).append [right]
        · rw [List.mem_singleton.mp new]
          exact .of_append (listed.primary left isPrimary) List.mem_cons_self
  · refine ⟨?_, fun table member => ?_, fun join member => ?_⟩
    · intro _ given
      cases given
      exact List.mem_append_right _ List.mem_cons_self
    · exact List.mem_append_left _ (listed.outer table member)
    · exact (listed.joins join member).append [right]

/-- The whole scan lists what it joins. -/
theorem scanFrom (before tokens : List Token) : (Script.scanFrom state before tokens).Listed := by
  fun_induction Script.scanFrom state before tokens with
  | case1 => exact listed
  | case2 state before token rest _ ih => exact ih listed.openScope
  | case3 state before token rest _ _ ih => exact ih listed.closeScope
  | case4 state before token rest _ _ _ ih => exact ih (listed.addCte _)
  | case5 state before token rest _ _ _ _ list _ ih => exact ih (listed.addTables _)
  | case6 state before token rest _ _ _ _ _ _ ih => exact ih listed
  | case7 state before token rest _ _ _ _ _ right _ _ condition _ ih => exact ih (listed.addJoin _ _ _)
  | case8 state before token rest _ _ _ _ _ ih => exact ih listed

end Listed

end Script.ScanState

namespace Lineage

open Script (ScanState RelationScan)

/-! ### What a statement contributes -/

/-- A query as a script has it: it lists all the relations that it joins, in order, and is inside a
statement or its own query. -/
structure Query.IsCollected (query : Query) : Prop where
  joins : query.JoinsListed
  place : query.IsInner ∨ query.isStatementLevel = true

/-- Whether the queries of a statement are inner ones and, behind them, its own one. -/
def StatementLineage.IsBlock (lineage : StatementLineage) : Prop :=
  ∃ inner own, lineage.queries = inner ++ [own] ∧ (∀ query ∈ inner, query.IsInner) ∧
    own.isStatementLevel = true ∧ own.JoinsListed

theorem Query.IsInner.not_isStatementLevel {query : Query} (inner : query.IsInner) :
    query.isStatementLevel = false := by
  rw [isStatementLevel, inner.kind]
  cases query.isSubQuery <;> rfl

theorem Query.Extends.isStatementLevel {query later : Query} (filled : query.Extends later) :
    later.isStatementLevel = query.isStatementLevel := by
  rw [Query.isStatementLevel, filled.isCte, filled.isSubQuery]
  rfl

/-- A statement's own query joins nothing before it is filled. -/
theorem rootQuery_spec (index : Nat) (kind : Script.StatementKind) :
    (rootQuery index kind).isStatementLevel = true ∧ (rootQuery index kind).joins = [] := by
  unfold rootQuery
  split
  · exact ⟨rfl, rfl⟩
  · exact ⟨rfl, rfl⟩

theorem extends_foldl_addTable (tables : List TableReference) (query : Query) :
    query.Extends (tables.foldl (fun query table => query.addTable table) query) := by
  induction tables generalizing query with
  | nil => exact .refl query
  | cons table rest ih => exact (Query.extends_addTable table query).trans (ih (query.addTable table))

theorem tables_foldl_addTable (tables : List TableReference) (query : Query) :
    (tables.foldl (fun query table => query.addTable table) query).tables = query.tables ++ tables := by
  induction tables generalizing query with
  | nil => exact (List.append_nil _).symm
  | cons table rest ih =>
      rw [List.foldl_cons, ih, Query.tables_addTable, List.append_assoc]
      rfl

/-- A statement's own query that is filled by a scan lists what it joins. -/
theorem applyScan_spec {scan : RelationScan} {query : Query} (unjoined : query.joins = [])
    (listed : ∀ join ∈ scan.joins, join.ListedIn scan.tables) :
    (applyScan scan query).isStatementLevel = query.isStatementLevel ∧
      (applyScan scan query).JoinsListed := by
  refine ⟨(extends_foldl_addTable scan.tables query).isStatementLevel, ?_⟩
  intro join member
  have scanned : join ∈ scan.joins := by
    rwa [applyScan, unjoined, List.nil_append] at member
  show join.ListedIn (scan.tables.foldl (fun query table => query.addTable table) query).tables
  rw [tables_foldl_addTable]
  exact (listed join scanned).trans (List.sublist_append_right _ _)

/-- How a statement contributes: through the query that it takes its rows from, or through its tokens. -/
inductive Contributes (read : String → Option Sql.Query) (statement : Script.Statement) :
    StatementLineage → Prop where
  | collected {kind : Script.StatementKind} {tree : Sql.Query}
      (isTree : read statement.normalized = some tree) :
      Contributes read statement (collectStatement statement.index tree (rootQuery statement.index kind))
  | scanned {kind : Script.StatementKind} (isNone : read statement.normalized = none) :
      Contributes read statement
        { queries := [applyScan statement.relations (rootQuery statement.index kind)] }

theorem contributes_of_statementLineage? {read : String → Option Sql.Query} {statement : Script.Statement}
    {lineage : StatementLineage} (contributes : statementLineage? read statement = some lineage) :
    Contributes read statement lineage := by
  simp only [statementLineage?, Option.bind_eq_bind, Option.bind_eq_some_iff] at contributes
  obtain ⟨kind, _, contributes⟩ := contributes
  split at contributes
  · next tree isTree =>
      obtain rfl := Option.some.inj contributes
      exact .collected isTree
  · next isNone =>
      split at contributes
      · cases contributes
      · obtain rfl := Option.some.inj contributes
        exact .scanned isNone

theorem isBlock_collectStatement (index : Nat) (tree : Sql.Query) {root : Query}
    (level : root.isStatementLevel = true) (unjoined : root.joins = []) :
    (collectStatement index tree root).IsBlock := by
  have walked := extends_walkQuery index [] tree { query := root }
  have rootListed : root.JoinsListed := by
    intro join member
    rw [unjoined] at member
    cases member
  exact ⟨_, _, queries_collectStatement index tree root, walked.queries (List.forall_mem_nil _),
    walked.query.isStatementLevel.trans level, walked.query.joins rootListed⟩

/-- What a statement contributes is a block, whether its grammar is understood or its tokens are
scanned. -/
theorem isBlock_of_statementLineage? {read : String → Option Sql.Query} {statement : Script.Statement}
    {lineage : StatementLineage} (contributes : statementLineage? read statement = some lineage) :
    lineage.IsBlock := by
  cases contributes_of_statementLineage? contributes with
  | @collected kind tree _ =>
      obtain ⟨level, unjoined⟩ := rootQuery_spec statement.index kind
      exact isBlock_collectStatement statement.index tree level unjoined
  | @scanned kind _ =>
      obtain ⟨level, unjoined⟩ := rootQuery_spec statement.index kind
      have listed : ∀ join ∈ statement.relations.joins, join.ListedIn statement.relations.tables :=
        (ScanState.Listed.empty.scanFrom [] _).joins
      obtain ⟨sameLevel, joins⟩ := applyScan_spec unjoined listed
      exact ⟨[], _, rfl, List.forall_mem_nil _, sameLevel.trans level, joins⟩

/-! ### The queries of a script -/

/-- A query without the mark for a main one. -/
def Query.unmarked (query : Query) : Query := { query with isMain := false }

theorem map_unmarked_markMain (queries : List Query) :
    (markMain queries).map Query.unmarked = queries.map Query.unmarked := by
  unfold markMain
  induction queries with
  | nil => rfl
  | cons query rest ih =>
      rw [markMainFrom, List.map_cons, List.map_cons, ih]
      rfl

/-- What the statements of a script contribute, each with its index; some contribute nothing. -/
def contributions (read : String → Option Sql.Query) (escapes : Script.QuoteEscapes)
    (script : String) : List (Nat × StatementLineage) :=
  (Script.Statement.split escapes script).filterMap fun statement =>
    (statementLineage? read statement).map fun lineage => (statement.index, lineage)

/-- The index of the statement that each query of a script comes from, by position. -/
def sourceStatements (read : String → Option Sql.Query) (escapes : Script.QuoteEscapes)
    (script : String) : List Nat :=
  (contributions read escapes script).flatMap fun contribution =>
    contribution.2.queries.map fun _ => contribution.1

/-- The number of a statement among those that contribute. -/
theorem countP_take_of_blocks {blocks : List (Nat × StatementLineage)}
    (isBlock : ∀ block ∈ blocks, block.2.IsBlock) (distinct : (blocks.map Prod.fst).Nodup)
    {position source : Nat}
    (located : (blocks.flatMap fun block => block.2.queries.map fun _ => block.1)[position]? =
      some source) :
    ((blocks.flatMap fun block => block.2.queries).take position).countP Query.isStatementLevel =
      (blocks.map Prod.fst).idxOf source := by
  induction blocks generalizing position with
  | nil => cases located
  | cons block rest ih =>
      obtain ⟨inner, own, shape, isInner, level, _⟩ := isBlock block List.mem_cons_self
      -- Of a block only the last query is counted, so it counts for the positions behind the block alone.
      have noneBefore : inner.countP Query.isStatementLevel = 0 := by
        rw [List.countP_eq_zero]
        intro query member
        rw [(isInner query member).not_isStatementLevel]
        exact Bool.false_ne_true
      have length : block.2.queries.length = inner.length + 1 := by
        rw [shape, List.length_append, List.length_singleton]
      rw [List.map_cons, List.nodup_cons] at distinct
      rw [List.flatMap_cons] at located ⊢
      by_cases here : position < block.2.queries.length
      · rw [List.getElem?_append_left (by simpa using here), List.getElem?_map,
          List.getElem?_eq_getElem here, Option.map_some, Option.some.injEq] at located
        have sublist : (inner.take position).Sublist inner := List.take_sublist position inner
        rw [List.take_append_of_le_length (Nat.le_of_lt here), shape,
          List.take_append_of_le_length (by omega), List.map_cons, ← located, List.idxOf_cons_self]
        exact Nat.le_zero.mp (noneBefore ▸ sublist.countP_le)
      · have beyond : (block.2.queries.map fun _ => block.1).length ≤ position := by
          simpa using here
        rw [List.getElem?_append_right beyond, List.length_map] at located
        have other : block.1 ≠ source := by
          rintro rfl
          obtain ⟨later, member, listed⟩ := List.mem_flatMap.mp (List.mem_of_getElem? located)
          obtain ⟨_, _, same⟩ := List.mem_map.mp listed
          exact distinct.1 (same ▸ List.mem_map_of_mem member)
        rw [List.take_append, List.take_of_length_le (by omega), List.countP_append,
          ih (fun later member => isBlock later (List.mem_cons_of_mem _ member)) distinct.2 located,
          shape, List.countP_append, noneBefore, List.map_cons, List.idxOf_cons_ne _ other]
        simp [level, Nat.add_comm]

section Script

variable {read : String → Option Sql.Query} {escapes : Script.QuoteEscapes} {script : String}

theorem isBlock_of_mem_contributions :
    ∀ contribution ∈ contributions read escapes script, contribution.2.IsBlock := by
  intro contribution member
  obtain ⟨statement, _, contributes⟩ := List.mem_filterMap.mp member
  obtain ⟨lineage, isLineage, rfl⟩ := Option.map_eq_some_iff.mp contributes
  exact isBlock_of_statementLineage? isLineage

/-- The index of a statement is its position. -/
theorem map_index_split (escapes : Script.QuoteEscapes) (script : String) :
    (Script.Statement.split escapes script).map Script.Statement.index =
      List.range (Script.Statement.split escapes script).length := by
  apply List.ext_getElem (by simp)
  intro position _ _
  simp [Script.Statement.split, Script.TokenGroup.toStatement]

/-- The indices of the statements that contribute, in the order of the script. -/
theorem sublist_contributions : ((contributions read escapes script).map Prod.fst).Sublist
    (List.range (Script.Statement.split escapes script).length) := by
  rw [← map_index_split, contributions]
  induction Script.Statement.split escapes script with
  | nil => exact List.Sublist.slnil
  | cons statement rest ih =>
      rw [List.filterMap_cons]
      cases statementLineage? read statement with
      | none => exact ih.cons _
      | some lineage => exact ih.cons_cons _

theorem nodup_contributions : ((contributions read escapes script).map Prod.fst).Nodup :=
  sublist_contributions.nodup List.nodup_range

variable (read escapes script) in
/-- The queries of a script are those of its statements, one of them marked as main. -/
theorem queries_parseWith :
    (parseWith read escapes script).queries =
      markMain ((contributions read escapes script).flatMap fun contribution => contribution.2.queries) := by
  have statements : (Script.Statement.split escapes script).filterMap (statementLineage? read) =
      (contributions read escapes script).map Prod.snd := by
    rw [contributions, List.map_filterMap]
    congr 1
    funext statement
    cases statementLineage? read statement <;> rfl
  rw [parseWith, statements, ParsedScript.ofStatements]
  exact congrArg markMain (List.flatMap_map Prod.snd _ _)

variable (read escapes script) in
theorem map_unmarked_queries :
    (parseWith read escapes script).queries.map Query.unmarked =
      ((contributions read escapes script).flatMap fun contribution =>
        contribution.2.queries).map Query.unmarked := by
  rw [queries_parseWith, map_unmarked_markMain]

theorem length_sourceStatements :
    (sourceStatements read escapes script).length = (parseWith read escapes script).queries.length := by
  have length := congrArg List.length (map_unmarked_queries read escapes script)
  simpa [sourceStatements, List.length_flatMap] using length.symm

/-- Every query of a script lists the relations that it joins; one inside a statement writes nothing. -/
theorem isCollected_of_mem_queries {query : Query}
    (member : query ∈ (parseWith read escapes script).queries) : query.IsCollected := by
  have listed := List.mem_map_of_mem (f := Query.unmarked) member
  rw [map_unmarked_queries] at listed
  obtain ⟨collected, collectedListed, same⟩ := List.mem_map.mp listed
  obtain ⟨contribution, isContribution, inBlock⟩ := List.mem_flatMap.mp collectedListed
  obtain ⟨inner, own, shape, isInner, level, joins⟩ :=
    isBlock_of_mem_contributions contribution isContribution
  have isCollected : collected.IsCollected := by
    rw [shape, List.mem_append, List.mem_singleton] at inBlock
    rcases inBlock with isInside | rfl
    · exact ⟨(isInner collected isInside).joins, Or.inl (isInner collected isInside)⟩
    · exact ⟨joins, Or.inr level⟩
  have unmarked : query.unmarked.IsCollected := by
    rw [← same]
    exact ⟨isCollected.joins, isCollected.place.imp (fun inside => ⟨inside.kind, inside.silent, inside.joins⟩) id⟩
  exact ⟨unmarked.joins, unmarked.place.imp (fun inside => ⟨inside.kind, inside.silent, inside.joins⟩) id⟩

/-- Before a query of a script there are as many statements' own queries as statements that contribute
before its own one. -/
theorem countP_take_queries {position source : Nat}
    (located : (sourceStatements read escapes script)[position]? = some source) :
    ((parseWith read escapes script).queries.take position).countP Query.isStatementLevel =
      ((contributions read escapes script).map Prod.fst).idxOf source := by
  rw [← countP_take_of_blocks isBlock_of_mem_contributions nodup_contributions located]
  have level : Query.isStatementLevel = Query.isStatementLevel ∘ Query.unmarked := rfl
  rw [level, ← List.countP_map, ← List.countP_map, List.map_take, List.map_take, map_unmarked_queries]

/-- Before two queries that come from one statement there are as many statements' own queries. -/
theorem countP_take_eq_of_sourceStatements_eq {position other source : Nat}
    (located : (sourceStatements read escapes script)[position]? = some source)
    (otherLocated : (sourceStatements read escapes script)[other]? = some source) :
    ((parseWith read escapes script).queries.take position).countP Query.isStatementLevel =
      ((parseWith read escapes script).queries.take other).countP Query.isStatementLevel := by
  rw [countP_take_queries located, countP_take_queries otherLocated]

end Script

end Lineage

end SqlLineage
