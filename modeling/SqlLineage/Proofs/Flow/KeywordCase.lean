/-
Module: SqlLineage.Proofs.Flow.KeywordCase
Purpose: Scripts that differ in the letter case of their keywords alone have one graph, unless the case
  decides whether a join that a scan finds is on a key. The words `AND` and `USING` in the text of a join
  condition are such a case.
Main exports: ReadAlike, plainScript_parseWith_eq, FlowLayout.layout_eq_of_sameButCase,
  keyword_case_changes_role
-/
import SqlLineage.Proofs.Flow.ConditionCase
import SqlLineage.Proofs.Flow.Conditions
import SqlLineage.Proofs.Flow.WellFormed
import SqlLineage.Proofs.Script.KeywordCase

namespace SqlLineage.Flow

open Lineage (Query JoinClause StatementLineage ParsedScript)
open Script (QuoteEscapes RelationScan SameButCase Statement WordsEnd keywords seenJoin)

/-! ### Joins that are keyed alike -/

/-- A plain join is known from the join without its condition, and from whether it is on a key. -/
theorem map_plainJoin_eq {joins others : List JoinClause}
    (seen : joins.map (seenJoin fun _ => ()) = others.map (seenJoin fun _ => ()))
    (keyed : joins.map isKeyedJoin = others.map isKeyedJoin) :
    joins.map plainJoin = others.map plainJoin := by
  induction joins generalizing others with
  | nil =>
      obtain rfl := List.map_eq_nil_iff.mp seen.symm
      rfl
  | cons join rest ih =>
      obtain ⟨other, more, rfl, seenFirst, seenRest⟩ := List.map_eq_cons_iff.mp seen.symm
      obtain ⟨keyedFirst, keyedRest⟩ := List.cons.inj keyed
      obtain ⟨left, right, kind, _⟩ : other.left = join.left ∧ other.right = join.right ∧
          other.kind = join.kind ∧ () = () := by simpa [seenJoin] using seenFirst
      have first : plainJoin join = plainJoin other := by
        rw [plainJoin, plainJoin, keyedFirst, left, right, kind]
      rw [List.map_cons, List.map_cons, first, ih seenRest.symm keyedRest]

/-! ### Statements -/

/-- What a statement contributes, with plain joins. -/
def plainLineage (lineage : StatementLineage) : StatementLineage :=
  { lineage with queries := lineage.queries.map plainQuery }

/-- Whether two statements are read as the same query, or neither is in the grammar and the words `AND` and
`USING` are in the same case in both, or the joins that the scans find are keyed alike all the same. -/
structure ReadAlike (read : String → Option Sql.Query) (left right : Statement) : Prop where
  query : read left.normalized = read right.normalized
  keyed : read left.normalized = none →
    left.SameButCase looseKeywords right ∨
      left.relations.joins.map isKeyedJoin = right.relations.joins.map isKeyedJoin

/-- Scans that find the same but for the conditions of joins give a query the same relations and the same
plain joins. -/
theorem plainQuery_applyScan {scan other : RelationScan} (alike : scan.SeenAlike (fun _ => ()) other)
    (keyed : scan.joins.map isKeyedJoin = other.joins.map isKeyedJoin) (query : Query) :
    plainQuery (Lineage.applyScan scan query) = plainQuery (Lineage.applyScan other query) := by
  have joins := map_plainJoin_eq alike.joins.symm keyed
  simp only [plainQuery, Lineage.applyScan, List.map_append, joins, alike.tables]

/-- What is left of the query of a scanned statement unless it shows no relation. -/
def scannedLineage? (query : Query) : Option StatementLineage :=
  if query.tables.isEmpty && query.outputs.isEmpty then none else some { queries := [query] }

theorem map_plainLineage_scannedLineage? (query : Query) :
    (scannedLineage? query).map plainLineage = scannedLineage? (plainQuery query) := by
  unfold scannedLineage?
  have same : (query.tables.isEmpty && query.outputs.isEmpty) =
      ((plainQuery query).tables.isEmpty && (plainQuery query).outputs.isEmpty) := rfl
  rw [← same]
  split <;> rfl

variable {read : String → Option Sql.Query} {escapes : QuoteEscapes} {words : List String}

/-- Statements that are read alike contribute the same, but for the conditions of joins. -/
theorem map_plainLineage_eq {left right : Statement} (same : left.SameButCase words right)
    (leftEnds : WordsEnd left.significant) (rightEnds : WordsEnd right.significant)
    (alike : ReadAlike read left right) :
    (Lineage.statementLineage? read left).map plainLineage =
      (Lineage.statementLineage? read right).map plainLineage := by
  unfold Lineage.statementLineage?
  rw [same.kind?, same.index]
  cases right.kind? with
  | none => rfl
  | some kind =>
      cases query : read left.normalized with
      | some tree => simp [← alike.query, query]
      | none =>
          have keyed : left.relations.joins.map isKeyedJoin = right.relations.joins.map isKeyedJoin :=
            (alike.keyed query).elim (map_isKeyedJoin_eq · leftEnds rightEnds) id
          have scans := plainQuery_applyScan same.relations keyed (Lineage.rootQuery right.index kind)
          have scanned := congrArg scannedLineage? scans
          rw [← map_plainLineage_scannedLineage?, ← map_plainLineage_scannedLineage?] at scanned
          simp only [← alike.query, query]
          exact scanned

/-! ### Scripts -/

theorem markMain_map_plainQuery (queries : List Query) :
    Lineage.markMain (queries.map plainQuery) = (Lineage.markMain queries).map plainQuery := by
  have marked : Lineage.markMainFrom (queries.map plainQuery) =
      ((Lineage.markMainFrom queries).1.map plainQuery, (Lineage.markMainFrom queries).2) := by
    induction queries with
    | nil => rfl
    | cons query rest ih =>
        rw [List.map_cons, Lineage.markMainFrom, Lineage.markMainFrom, ih]
        rfl
  rw [Lineage.markMain, Lineage.markMain, marked]

theorem plainScript_ofStatements (statements : List StatementLineage) :
    plainScript (.ofStatements statements) = .ofStatements (statements.map plainLineage) := by
  simp only [plainScript, ParsedScript.ofStatements, ← markMain_map_plainQuery, List.map_flatMap,
    List.flatMap_map]
  rfl

theorem filterMap_eq_of_forall₂ {α β γ : Type} {f : α → Option γ} {g : β → Option γ} {xs : List α}
    {ys : List β} (related : List.Forall₂ (fun x y => f x = g y) xs ys) :
    xs.filterMap f = ys.filterMap g := by
  induction related with
  | nil => rfl
  | cons head tail ih => rw [List.filterMap_cons, List.filterMap_cons, head, ih]

/-- Scripts whose statements are read alike have the same lineage, but for the conditions of joins. -/
theorem plainScript_parseWith_eq {left right : String} (same : SameButCase words escapes left right)
    (alike : List.Forall₂ (ReadAlike read) (Statement.split escapes left)
      (Statement.split escapes right)) :
    plainScript (Lineage.parseWith read escapes left) =
      plainScript (Lineage.parseWith read escapes right) := by
  obtain ⟨length, statements⟩ := List.forall₂_iff_get.mp same.statements
  have readings := (List.forall₂_iff_get.mp alike).2
  have contributions : List.Forall₂ (fun statement other : Statement =>
      (Lineage.statementLineage? read statement).map plainLineage =
        (Lineage.statementLineage? read other).map plainLineage)
      (Statement.split escapes left) (Statement.split escapes right) := by
    refine List.forall₂_iff_get.mpr ⟨length, fun i inside insideToo => ?_⟩
    exact map_plainLineage_eq (statements i inside insideToo) (wordsEnd_significant (List.get_mem _ _))
      (wordsEnd_significant (List.get_mem _ _)) (readings i inside insideToo)
  simp only [Lineage.parseWith, plainScript_ofStatements, List.map_filterMap]
  congr 1
  exact filterMap_eq_of_forall₂ contributions

/-- Scripts with one lineage but for the conditions of joins have one graph. -/
theorem FlowLayout.layout_eq_of_plainScript (layout : FlowLayout) {script other : ParsedScript}
    (same : plainScript script = plainScript other) :
    ∃ graph, layout.layout script = .ok graph ∧ layout.layout other = .ok graph := by
  obtain ⟨graph, laidOut, _⟩ := layout.exists_graph script
  have drafts : layout.draft other = layout.draft script := by
    rw [← layout.draft_plainScript, ← same, layout.draft_plainScript]
  refine ⟨graph, laidOut, ?_⟩
  rw [FlowLayout.layout, drafts]
  exact laidOut

/-- Scripts that differ in the letter case of their keywords alone have the same graph, if their statements
are read alike: as the same query, or by scans of statements in which the words `AND` and `USING` are in the
same case, or whose joins are keyed alike all the same. -/
theorem FlowLayout.layout_eq_of_sameButCase (layout : FlowLayout) {left right : String}
    (same : SameButCase keywords escapes left right)
    (alike : List.Forall₂ (ReadAlike read) (Statement.split escapes left)
      (Statement.split escapes right)) :
    ∃ graph, layout.layout (Lineage.parseWith read escapes left) = .ok graph ∧
      layout.layout (Lineage.parseWith read escapes right) = .ok graph :=
  layout.layout_eq_of_plainScript (plainScript_parseWith_eq same alike)

/-- A script of two statements, the second of which is not in the grammar. -/
def smallScript : String := "SELECT 1 FROM c; select 1 1 from a join b USING (id)"

def capitalScript : String := "SELECT 1 FROM c; SELECT 1 1 FROM a JOIN b USING (id)"

theorem sameButCase_smallScript :
    SameButCase looseKeywords (Lineage.escapesOf .generic) smallScript capitalScript := by
  decide +kernel

theorem readAlike_smallScript :
    List.Forall₂ (ReadAlike (Sql.sourceQuery? .generic))
      (Statement.split (Lineage.escapesOf .generic) smallScript)
      (Statement.split (Lineage.escapesOf .generic) capitalScript) := by
  have texts : List.Forall₂ (fun left right : Statement =>
      left.normalized = right.normalized ∨
        Option.isNone (Sql.sourceQuery? .generic left.normalized) = true ∧
          Option.isNone (Sql.sourceQuery? .generic right.normalized) = true)
      (Statement.split (Lineage.escapesOf .generic) smallScript)
      (Statement.split (Lineage.escapesOf .generic) capitalScript) := by
    decide +kernel
  obtain ⟨length, statements⟩ := List.forall₂_iff_get.mp sameButCase_smallScript.statements
  refine List.forall₂_iff_get.mpr ⟨length, fun i inside insideToo =>
    ⟨?_, fun _ => .inl (statements i inside insideToo)⟩⟩
  rcases (List.forall₂_iff_get.mp texts).2 i inside insideToo with text | ⟨noQuery, noQueryToo⟩
  · rw [text]
  · rw [Option.isNone_iff_eq_none.mp noQuery, Option.isNone_iff_eq_none.mp noQueryToo]

theorem FlowLayout.layout_eq_smallScript :
    SameButCase keywords (Lineage.escapesOf .generic) smallScript capitalScript ∧
      ∃ graph,
        (ofOptions {} {}).layout (Lineage.parseScript .generic smallScript) = .ok graph ∧
          (ofOptions {} {}).layout (Lineage.parseScript .generic capitalScript) = .ok graph := by
  have same := sameButCase_smallScript.mono looseKeywords_subset
  exact ⟨same, (ofOptions {} {}).layout_eq_of_sameButCase same readAlike_smallScript⟩

/-! ### A word whose case tells -/

/-- A script with a join whose word `USING` is in capital letters, and the same in small letters. -/
def capitalUsing : String := "SELECT 1 1 FROM a JOIN b USING (id)"

def smallUsing : String := "SELECT 1 1 FROM a JOIN b using (id)"

/-- A relation that is joined on a key is a dimension in the one script and a plain source in the other. -/
theorem keyword_case_changes_role :
    SameButCase keywords (Lineage.escapesOf .generic) capitalUsing smallUsing ∧
      (∀ script ∈ [capitalUsing, smallUsing],
        ∀ statement ∈ Statement.split (Lineage.escapesOf .generic) script,
          Option.isNone (Sql.sourceQuery? .generic statement.normalized) = true) ∧
      ∃ graph other,
        (FlowLayout.ofOptions {} {}).layout (Lineage.parseScript .generic capitalUsing) = .ok graph ∧
          (FlowLayout.ofOptions {} {}).layout (Lineage.parseScript .generic smallUsing) = .ok other ∧
          "dimension:b" ∈ graph.nodes.map FlowNode.id ∧
          "dimension:b" ∉ other.nodes.map FlowNode.id := by
  obtain ⟨same, noQuery, listed, unlisted⟩ :
      SameButCase keywords (Lineage.escapesOf .generic) capitalUsing smallUsing ∧
      (∀ script ∈ [capitalUsing, smallUsing],
        ∀ statement ∈ Statement.split (Lineage.escapesOf .generic) script,
          Option.isNone (Sql.sourceQuery? .generic statement.normalized) = true) ∧
      "dimension:b" ∈ ((FlowLayout.ofOptions {} {}).draft
        (Lineage.parseScript .generic capitalUsing)).nodes.map NodeDraft.id ∧
      "dimension:b" ∉ ((FlowLayout.ofOptions {} {}).draft
        (Lineage.parseScript .generic smallUsing)).nodes.map NodeDraft.id := by
    decide +kernel
  obtain ⟨graph, _, placed, placing⟩ := exists_placing (FlowLayout.ofOptions {} {}).options
    ((FlowLayout.ofOptions {} {}).wellFormed_draft (Lineage.parseScript .generic capitalUsing))
  obtain ⟨other, _, placedToo, placingToo⟩ := exists_placing (FlowLayout.ofOptions {} {}).options
    ((FlowLayout.ofOptions {} {}).wellFormed_draft (Lineage.parseScript .generic smallUsing))
  exact ⟨same, noQuery, graph, other, placed, placedToo, placing.perm_ids.mem_iff.mpr listed,
    fun isNode => unlisted (placingToo.perm_ids.mem_iff.mp isNode)⟩

end SqlLineage.Flow
