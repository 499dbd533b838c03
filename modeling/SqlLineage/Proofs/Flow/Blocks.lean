/-
Module: SqlLineage.Proofs.Flow.Blocks
Purpose: The queries of a script come in blocks, one for each statement of which something is understood, in
  the order of the statements. A block ends with the statement's own query, so that the blocks can be told
  apart without the statements; the scopes of common table expressions count them that way.
Main exports: isRecognized, IsStatementBlock, ComesInBlocks, exists_blocks
-/
import SqlLineage.Proofs.Flow.Scopes
import SqlLineage.Proofs.Lineage.Declared

namespace SqlLineage

namespace Lineage

open Script (Statement RelationScan StatementKind)

/-! ### Statements of which something is understood -/

/-- Whether something of a statement is understood: it is of a kind that carries lineage, and the grammar
reads it, or the scan of its tokens finds a relation, or it writes one. -/
def isRecognized (read : String → Option Sql.Query) (statement : Statement) : Bool :=
  match statement.kind? with
  | none => false
  | some kind =>
    (read statement.normalized).isSome || !statement.relations.tables.isEmpty || kind.target?.isSome

theorem outputs_rootQuery (index : Nat) (kind : StatementKind) :
    (rootQuery index kind).outputs = kind.target?.toList := by
  unfold rootQuery
  cases kind.target? with
  | none => rfl
  | some target => rfl

/-- A statement contributes exactly if something of it is understood. -/
theorem isSome_statementLineage? (read : String → Option Sql.Query) (statement : Statement) :
    (statementLineage? read statement).isSome = isRecognized read statement := by
  unfold statementLineage? isRecognized
  cases statement.kind? with
  | none => rfl
  | some kind =>
      simp only [Option.bind_eq_bind, Option.bind_some]
      cases read statement.normalized with
      | some tree => rfl
      | none =>
          have tables : (applyScan statement.relations (rootQuery statement.index kind)).tables =
              statement.relations.tables := by
            rw [applyScan, tables_foldl_addTable, tables_rootQuery, List.nil_append]
          have outputs : (applyScan statement.relations (rootQuery statement.index kind)).outputs =
              kind.target?.toList := by
            rw [← outputs_rootQuery statement.index kind]
            exact (extends_foldl_addTable statement.relations.tables _).outputs
          simp only [tables, outputs]
          cases statement.relations.tables with
          | nil => cases kind.target? <;> rfl
          | cons table rest => rfl

section Script

variable (read : String → Option Sql.Query) (escapes : Script.QuoteEscapes) (script : String)

theorem map_fst_contributions : (contributions read escapes script).map Prod.fst =
    ((Statement.split escapes script).filter (isRecognized read)).map Statement.index := by
  rw [contributions]
  induction Statement.split escapes script with
  | nil => rfl
  | cons statement rest ih =>
      rw [List.filterMap_cons, List.filter_cons, ← isSome_statementLineage?]
      cases statementLineage? read statement with
      | none => exact ih
      | some lineage => exact congrArg (statement.index :: ·) ih

end Script

/-! ### The main query -/

/-- Behind all others a statement's own query is marked as main, and no other is. -/
theorem markMain_concat (queries : List Query) {own : Query} (level : own.isStatementLevel = true) :
    markMain (queries ++ [own]) = queries.map Query.unmarked ++ [{ own with isMain := true }] := by
  have marked : markMainFrom (queries ++ [own]) =
      (queries.map Query.unmarked ++ [{ own with isMain := true }], true) := by
    induction queries with
    | nil => simp [markMainFrom, level]
    | cons query rest ih => simp [markMainFrom, ih, Query.unmarked]
  rw [markMain, marked]

theorem isMain_iff_of_concat {queries : List Query} {own query : Query} {position : Nat}
    (level : own.isStatementLevel = true) (located : (markMain (queries ++ [own]))[position]? = some query) :
    query.isMain = true ↔ position + 1 = (markMain (queries ++ [own])).length := by
  have bound := (List.getElem?_eq_some_iff.mp located).1
  rw [markMain_concat queries level] at located bound ⊢
  rw [List.length_append, List.length_map, List.length_singleton] at bound ⊢
  by_cases isLast : position = queries.length
  · subst isLast
    rw [List.getElem?_append_right (by simp), List.length_map, Nat.sub_self] at located
    cases located
    simp
  · have earlier : position < queries.length := by omega
    rw [List.getElem?_append_left (by simpa using earlier), List.getElem?_map] at located
    obtain ⟨_, _, rfl⟩ := Option.map_eq_some_iff.mp located
    simp [Query.unmarked, isLast]

/-! ### Blocks -/

/-- Whether these queries are the block of the statement with this index: the queries inside the statement,
each either a common table expression or a subquery, and behind them its own one, under its id. -/
def IsStatementBlock (index : Nat) (queries : List Query) : Prop :=
  ∃ inner own, queries = inner ++ [own] ∧ (∀ query ∈ inner, query.isCte = !query.isSubQuery) ∧
    own.isStatementLevel = true ∧ own.id = "stmt_" ++ toString index

theorem isStatementBlock_of_contributes {read : String → Option Sql.Query} {statement : Statement}
    {lineage : StatementLineage} (contributes : statementLineage? read statement = some lineage) :
    IsStatementBlock statement.index lineage.queries := by
  obtain ⟨inner, own, shape, isInner, level, _⟩ := isBlock_of_statementLineage? contributes
  obtain ⟨id, bears⟩ := (isNamed_of_statementLineage? contributes).bears own (by simp [shape])
  refine ⟨inner, own, shape, fun query member => (isInner query member).kind, level, ?_⟩
  cases bears with
  | statement id _ _ => exact id
  | declared _ isCte _ => simp [Query.isStatementLevel, isCte] at level
  | nested _ _ isSubQuery => simp [Query.isStatementLevel, isSubQuery] at level

/-- The mark for a main query does not matter to a block. -/
theorem IsStatementBlock.of_unmarked {index : Nat} {queries marked : List Query}
    (isBlock : IsStatementBlock index queries)
    (same : marked.map Query.unmarked = queries.map Query.unmarked) : IsStatementBlock index marked := by
  obtain ⟨inner, own, rfl, isInner, level, id⟩ := isBlock
  rw [List.map_append, List.map_singleton] at same
  obtain ⟨markedInner, last, rfl, sameInner, sameLast⟩ := List.map_eq_append_iff.mp same
  obtain ⟨markedOwn, rfl, sameOwn⟩ := List.map_eq_singleton_iff.mp sameLast
  have kept := sameKind_of_unmarked_eq sameOwn
  refine ⟨markedInner, markedOwn, rfl, fun query member => ?_, ?_, kept.id.symm.trans id⟩
  · have listed := List.mem_map_of_mem (f := Query.unmarked) member
    rw [sameInner] at listed
    obtain ⟨other, otherMember, sameQuery⟩ := List.mem_map.mp listed
    have keptInner := sameKind_of_unmarked_eq sameQuery
    rw [keptInner.isCte, keptInner.isSubQuery]
    exact isInner other otherMember
  · rw [Query.isStatementLevel, ← kept.isCte, ← kept.isSubQuery]
    exact level

/-- Items that look like those of some blocks can be cut into blocks that look like those. -/
theorem exists_cut {α β ι : Type} {look : α → β} {items : List α} {blocks : List (ι × List α)}
    (same : items.map look = (blocks.flatMap Prod.snd).map look) :
    ∃ cut : List (ι × List α), items = cut.flatMap Prod.snd ∧
      cut.map (Prod.map id (List.map look)) = blocks.map (Prod.map id (List.map look)) := by
  induction blocks generalizing items with
  | nil => exact ⟨[], List.map_eq_nil_iff.mp same, rfl⟩
  | cons block rest ih =>
      rw [List.flatMap_cons, List.map_append] at same
      obtain ⟨first, others, rfl, sameFirst, sameOthers⟩ := List.map_eq_append_iff.mp same
      obtain ⟨cut, rfl, pieces⟩ := ih sameOthers
      refine ⟨(block.1, first) :: cut, rfl, ?_⟩
      rw [List.map_cons, List.map_cons, pieces, Prod.map, Prod.map, sameFirst]

/-- The index of the statement of each query of these blocks, by position. -/
def blockIndices (blocks : List (Nat × List Query)) : List Nat :=
  blocks.flatMap fun block => block.2.map fun _ => block.1

end Lineage

namespace Flow

open Lineage
open Script (Statement)

/-- Whether the queries of a script come in these blocks, each with the index of its statement. -/
structure ComesInBlocks (read : String → Option Sql.Query) (escapes : Script.QuoteEscapes)
    (script : String) (blocks : List (Nat × List Query)) : Prop where
  /-- There is one block for each statement of which something is understood. -/
  statements : blocks.map Prod.fst =
    ((Statement.split escapes script).filter (isRecognized read)).map Statement.index
  queries : (parseWith read escapes script).queries = blocks.flatMap Prod.snd
  shape : ∀ block ∈ blocks, IsStatementBlock block.1 block.2
  /-- The last query is the main one, and no other. -/
  main : ∀ position query, (parseWith read escapes script).queries[position]? = some query →
    (query.isMain = true ↔ position + 1 = (parseWith read escapes script).queries.length)
  /-- Queries are numbered alike for their scopes exactly if they are in the same block. -/
  numbers : ∀ position other source another, (blockIndices blocks)[position]? = some source →
    (blockIndices blocks)[other]? = some another →
      ((CteScopes.ofScript (parseWith read escapes script)).statementOf position =
        (CteScopes.ofScript (parseWith read escapes script)).statementOf other ↔ source = another)

section Script

variable (read : String → Option Sql.Query) (escapes : Script.QuoteEscapes) (script : String)

/-- The last of the queries that the statements contribute is a statement's own one. -/
theorem contributions_queries_cases :
    (contributions read escapes script).flatMap (fun contribution => contribution.2.queries) = [] ∨
      ∃ queries own, own.isStatementLevel = true ∧
        (contributions read escapes script).flatMap (fun contribution => contribution.2.queries) =
          queries ++ [own] := by
  rcases List.eq_nil_or_concat (contributions read escapes script) with none | ⟨earlier, last, split⟩
  · exact Or.inl (by rw [none, List.flatMap_nil])
  · have member : last ∈ contributions read escapes script := by simp [split]
    obtain ⟨inner, own, shape, _, level, _⟩ := isBlock_of_mem_contributions last member
    refine Or.inr ⟨earlier.flatMap (fun contribution => contribution.2.queries) ++ inner, own, level, ?_⟩
    rw [split, List.concat_eq_append, List.flatMap_append, List.flatMap_singleton, shape,
      List.append_assoc]

/-- The last query of a script is the main one, and no other. -/
theorem isMain_iff {position : Nat} {query : Query}
    (located : (parseWith read escapes script).queries[position]? = some query) :
    query.isMain = true ↔ position + 1 = (parseWith read escapes script).queries.length := by
  rw [queries_parseWith] at located ⊢
  rcases contributions_queries_cases read escapes script with none | ⟨queries, own, level, split⟩
  · rw [none] at located
    cases located
  · rw [split] at located ⊢
    exact isMain_iff_of_concat level located

/-- The blocks that the statements of a script contribute. -/
def contributedBlocks : List (Nat × List Query) :=
  (contributions read escapes script).map (Prod.map id StatementLineage.queries)

/-- The queries of a script can be cut into the blocks that its statements contribute. -/
theorem exists_cut_queries : ∃ blocks : List (Nat × List Query),
    (parseWith read escapes script).queries = blocks.flatMap Prod.snd ∧
      blocks.map (Prod.map id (List.map Query.unmarked)) =
        (contributedBlocks read escapes script).map (Prod.map id (List.map Query.unmarked)) := by
  apply exists_cut
  rw [map_unmarked_queries, contributedBlocks, List.flatMap_map]
  rfl

end Script

section Blocks

variable {read : String → Option Sql.Query} {escapes : Script.QuoteEscapes} {script : String}
  {blocks : List (Nat × List Query)}
  (pieces : blocks.map (Prod.map id (List.map Query.unmarked)) =
    (contributedBlocks read escapes script).map (Prod.map id (List.map Query.unmarked)))

include pieces

/-- Blocks that look like what the statements contribute number the queries as the statements do. -/
theorem blockIndices_eq : blockIndices blocks = sourceStatements read escapes script := by
  have unmarked : ∀ blocks : List (Nat × List Query),
      blockIndices blocks = blockIndices (blocks.map (Prod.map id (List.map Query.unmarked))) := by
    intro blocks
    simp [blockIndices, List.flatMap_map]
  rw [unmarked blocks, pieces, ← unmarked, blockIndices, contributedBlocks, List.flatMap_map]
  rfl

theorem map_fst_eq : blocks.map Prod.fst =
    ((Statement.split escapes script).filter (isRecognized read)).map Statement.index := by
  have indices := congrArg (List.map Prod.fst) pieces
  rw [← map_fst_contributions]
  simpa [contributedBlocks, Function.comp_def] using indices

theorem isStatementBlock_of_mem : ∀ block ∈ blocks, IsStatementBlock block.1 block.2 := by
  intro block member
  have listed := List.mem_map_of_mem (f := Prod.map id (List.map Query.unmarked)) member
  rw [pieces, contributedBlocks, List.map_map] at listed
  obtain ⟨contribution, isContribution, same⟩ := List.mem_map.mp listed
  obtain ⟨statement, _, contributes⟩ := List.mem_filterMap.mp isContribution
  obtain ⟨lineage, isLineage, rfl⟩ := Option.map_eq_some_iff.mp contributes
  obtain ⟨index, queries⟩ : statement.index = block.1 ∧ _ = _ := Prod.mk.inj same
  rw [← index]
  exact (isStatementBlock_of_contributes isLineage).of_unmarked queries.symm

end Blocks

section Numbers

variable {read : String → Option Sql.Query} {escapes : Script.QuoteEscapes} {script : String}

theorem statementOf_eq_iff {position other source another : Nat}
    (located : (sourceStatements read escapes script)[position]? = some source)
    (otherLocated : (sourceStatements read escapes script)[other]? = some another) :
    (CteScopes.ofScript (parseWith read escapes script)).statementOf position =
      (CteScopes.ofScript (parseWith read escapes script)).statementOf other ↔ source = another := by
  have bound := (List.getElem?_eq_some_iff.mp located).1
  have otherBound := (List.getElem?_eq_some_iff.mp otherLocated).1
  rw [Lineage.length_sourceStatements] at bound otherBound
  rw [CteScopes.statementOf_ofScript (List.getElem?_eq_getElem bound),
    CteScopes.statementOf_ofScript (List.getElem?_eq_getElem otherBound)]
  exact Lineage.sourceStatements_eq_iff located otherLocated

end Numbers

/-- The queries of a script come in blocks: one for each statement of which something is understood, in the
order of the statements, with the statement's own query behind those inside it. -/
theorem exists_comesInBlocks (read : String → Option Sql.Query) (escapes : Script.QuoteEscapes)
    (script : String) : ∃ blocks, ComesInBlocks read escapes script blocks := by
  obtain ⟨blocks, queries, pieces⟩ := exists_cut_queries read escapes script
  refine ⟨blocks, map_fst_eq pieces, queries, isStatementBlock_of_mem pieces, ?_, ?_⟩
  · exact fun position query located => isMain_iff _ _ _ located
  · rw [blockIndices_eq pieces]
    exact fun position other source another located otherLocated =>
      statementOf_eq_iff located otherLocated

/-- In every dialect the queries of a script come in blocks. -/
theorem exists_blocks (dialect : Sql.Dialect) (script : String) :
    ∃ blocks, ComesInBlocks (Sql.sourceQuery? dialect) (escapesOf dialect) script blocks :=
  exists_comesInBlocks (Sql.sourceQuery? dialect) (escapesOf dialect) script

end Flow

end SqlLineage
