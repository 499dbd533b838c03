/-
Module: SqlLineage.Proofs.Flow.CteReferences
Purpose: When a reference to a common table expression leaves its statement and stands for one that another
  statement declares. It does if the grammar does not read its statement, or if a made-up name coincides
  with a name in the script.
Main exports: CteReference, CteReference.Leaves, CteReference.Departs, CteReference.leaves_iff
-/
import SqlLineage.Proofs.Flow.CteNames
import SqlLineage.Proofs.Flow.Links

namespace SqlLineage.Flow

open Lineage (Query QueryId TableReference IsRead declarations mem_declarations_iff parseWith
  sourcedQueries getElem?_sourcedQueries)

section

variable (read : String → Option Sql.Query) (escapes : Script.QuoteEscapes) (script : String)

/-- A reference of a query of a script that is marked as one to a common table expression, with the
statement that the query comes from. -/
structure CteReference where
  position : Nat
  source : Nat
  query : Query
  table : TableReference
  located : (sourcedQueries read escapes script)[position]? = some (source, query)
  listed : table ∈ query.references
  isCte : table.isCte = true

end

namespace CteReference

variable {read : String → Option Sql.Query} {escapes : Script.QuoteEscapes} {script : String}
  (reference : CteReference read escapes script)

/-- The relation that the reference denotes. -/
def relation : RelationKey :=
  (CteScopes.ofScript (parseWith read escapes script)).keyFor reference.position reference.table

/-- Whether the reference denotes a common table expression that another statement defines. -/
def Leaves : Prop :=
  ∃ position other query, (sourcedQueries read escapes script)[position]? = some (other, query) ∧
    query.isCte = true ∧ other ≠ reference.source ∧ reference.relation =
      .cte ((CteScopes.ofScript (parseWith read escapes script)).declaration position query)

/-- How a reference comes to leave its statement. -/
inductive Departs : Prop where
  /-- Its statement is not read by the grammar, so that nothing is declared there, and another one
  declares its name. -/
  | unread {other : Nat} (unread : ¬ IsRead read escapes script reference.source)
      (declared : (other, reference.table.key) ∈ declarations read escapes script)
  /-- Its name is the one that is made up for a common table expression of another statement. -/
  | taken {other : Nat} {name : String} (elsewhere : other ≠ reference.source)
      (declared : (other, name) ∈ declarations read escapes script)
      (takes : Takes read escapes script reference.table.key reference.source other name)
  /-- The name that is made up for the common table expression of its own statement is the name of one of
  another statement. -/
  | madeUp {other : Nat} {name : String} (elsewhere : other ≠ reference.source)
      (declared : (other, name) ∈ declarations read escapes script)
      (own : (reference.source, reference.table.key) ∈ declarations read escapes script)
      (takes : Takes read escapes script name other reference.source reference.table.key)

theorem leaves_iff_declared : reference.Leaves ↔
    ∃ other name, (other, name) ∈ declarations read escapes script ∧ other ≠ reference.source ∧
      reference.relation = .cte (cteName read escapes script other name) := by
  constructor
  · rintro ⟨position, other, query, located, isCte, elsewhere, same⟩
    refine ⟨other, Text.lowercase query.name, ?_, elsewhere, ?_⟩
    · exact mem_declarations_iff.mpr ⟨query, List.mem_of_getElem? located, isCte, rfl⟩
    · rw [same, declaration_eq_cteName located isCte]
  · rintro ⟨other, name, declared, elsewhere, same⟩
    obtain ⟨position, query, located, isCte, rfl⟩ := exists_located declared
    refine ⟨position, other, query, located, isCte, elsewhere, ?_⟩
    rw [same, declaration_eq_cteName located isCte]

theorem mem_tables : reference.table ∈ reference.query.tables :=
  have member := List.mem_of_getElem? (getElem?_sourcedQueries.mp reference.located).2
  (Lineage.isCollected_of_mem_queries member).joins.mem_tables reference.listed

theorem leaves_iff_of_isRead (isRead : IsRead read escapes script reference.source) :
    reference.Leaves ↔ reference.Departs := by
  have own := Lineage.mem_declarations_of_isRead isRead (List.mem_of_getElem? reference.located)
    reference.mem_tables reference.isCte
  have denoted : reference.relation =
      .cte (cteName read escapes script reference.source reference.table.key) :=
    keyFor_eq_cteName reference.located reference.isCte own
  rw [leaves_iff_declared, denoted]
  constructor
  · rintro ⟨other, name, declared, elsewhere, same⟩
    rcases (cteName_eq_iff own declared).mp (RelationKey.cte.inj same) with ⟨here, _⟩ | taken | madeUp
    · exact absurd here.symm elsewhere
    · exact .taken elsewhere declared taken
    · exact .madeUp elsewhere declared own madeUp
  · intro departs
    cases departs with
    | unread unread _ => exact absurd isRead unread
    | taken elsewhere declared takes =>
        exact ⟨_, _, declared, elsewhere, congrArg _ takes.cteName_eq⟩
    | madeUp elsewhere declared _ takes =>
        exact ⟨_, _, declared, elsewhere, congrArg _ takes.cteName_eq.symm⟩

theorem leaves_iff_of_not_isRead (unread : ¬ IsRead read escapes script reference.source) :
    reference.Leaves ↔ reference.Departs := by
  have elsewhere : ∀ {other name}, (other, name) ∈ declarations read escapes script →
      other ≠ reference.source := by
    rintro other name declared rfl
    exact Lineage.not_mem_declarations_of_not_isRead unread declared
  rcases keyFor_cases read escapes script reference.isCte reference.position with
    ⟨other, declared, denoted⟩ | ⟨undeclared, denoted⟩
  · -- Some statement declares the name, and the reference is to what is declared there.
    constructor
    · intro _
      exact .unread unread declared
    · intro _
      exact reference.leaves_iff_declared.mpr ⟨other, _, declared, elsewhere declared, denoted⟩
  · have first : ¬ DeclaredBefore read escapes script reference.source reference.table.key := by
      rintro ⟨⟨other, _⟩, declared, _, rfl⟩
      exact undeclared other declared
    have relation : reference.relation = .cte reference.table.key := denoted
    rw [leaves_iff_declared, relation]
    constructor
    · rintro ⟨other, name, declared, _, same⟩
      have same := RelationKey.cte.inj same
      rw [cteName] at same
      split at same
      · next before => exact .taken (elsewhere declared) declared ⟨first, before, same⟩
      · rw [← same] at declared
        exact absurd declared (undeclared other)
    · intro departs
      cases departs with
      | unread _ declared => exact absurd declared (undeclared _)
      | taken elsewhere declared takes =>
          obtain ⟨_, before, made⟩ := takes
          refine ⟨_, _, declared, elsewhere, ?_⟩
          rw [cteName, if_pos before, ← made]
      | madeUp _ _ own _ => exact absurd own (undeclared _)

/-- A reference to a common table expression denotes one. It leaves its statement exactly if the grammar
does not read that statement and another one declares the name, or if a made-up name coincides with one
that is written. -/
theorem leaves_iff : reference.relation.isCte = true ∧ (reference.Leaves ↔ reference.Departs) := by
  constructor
  · rw [relation, CteScopes.keyFor_isCte, reference.isCte]
  · by_cases isRead : IsRead read escapes script reference.source
    · exact reference.leaves_iff_of_isRead isRead
    · exact reference.leaves_iff_of_not_isRead isRead

/-! ### A script with such a reference -/

/-- A script that declares `a` in both of its statements, of which the grammar does not read the second. -/
def unreadScript : String := "WITH a AS(SELECT 1)SELECT 1;WITH a AS(SELECT 1)SELECT 1 FROM a WHERE("

/-- The queries of the script, with their statements. -/
def unreadQueries : List (Nat × Query) := [
  (0, { id := "cte_0_a", name := "a", isCte := true,
        fields := [{ expression := "1", transformation := .expression }] }),
  (0, { id := "stmt_0", name := "final query",
        fields := [{ expression := "1", transformation := .expression }] }),
  (1, { id := "stmt_1", name := "final query", tables := [{ name := "a", isCte := true }],
        isMain := true, dependsOn := ["a"] })]

theorem sourcedQueries_unreadScript : sourcedQueries (Sql.sourceQuery? .generic)
    (Lineage.escapesOf .generic) unreadScript = unreadQueries := by
  decide +kernel

/-- The reference of the second statement is taken for one to what the first one declares. -/
theorem unread_reference_leaves : ∃ reference : CteReference (Sql.sourceQuery? .generic)
    (Lineage.escapesOf .generic) unreadScript, reference.Leaves := by
  have sourced := sourcedQueries_unreadScript
  have queries : (parseWith (Sql.sourceQuery? .generic) (Lineage.escapesOf .generic) unreadScript).queries =
      unreadQueries.map Prod.snd := by
    rw [← Lineage.map_snd_sourcedQueries, sourced]
  have denoted : ((unreadQueries.map Prod.snd).foldl CteScopes.Progress.add {}).scopes.keyFor 2
      { name := "a", isCte := true } = .cte "a" := by
    decide +kernel
  have declared : ((unreadQueries.map Prod.snd).foldl CteScopes.Progress.add {}).scopes.declaration 0
      { id := "cte_0_a", name := "a", isCte := true,
        fields := [{ expression := "1", transformation := .expression }] } = "a" := by
    decide +kernel
  let reference : CteReference (Sql.sourceQuery? .generic) (Lineage.escapesOf .generic) unreadScript := {
    position := 2
    source := 1
    query := _
    table := { name := "a", isCte := true }
    located := congrArg (·[2]?) sourced
    listed := List.mem_cons_self
    isCte := rfl }
  refine ⟨reference, 0, 0, _, congrArg (·[0]?) sourced, rfl, Nat.zero_ne_one, ?_⟩
  rw [relation, CteScopes.ofScript, queries, declared]
  exact denoted

end CteReference

end SqlLineage.Flow
