/-
Module: SqlLineage.Proofs.Flow.Scopes
Purpose: The scopes of common table expressions: queries are numbered by the statements that end before
  them, and a reference in the statement of a declaration denotes what is declared there.
Main exports: CteScopes.statementOf_ofScript, CteScopes.keyFor_of_declared
-/
import Mathlib.Data.List.Induction
import SqlLineage.Flow.Relation

namespace SqlLineage.Flow

open Lineage (Query TableReference ParsedScript)

namespace CteScopes

/-- The number of statements that end before a position. -/
def statementsBefore (queries : List Query) (position : Nat) : Nat :=
  (queries.take position).countP Query.isStatementLevel

theorem statementsBefore_append {queries : List Query} {position : Nat}
    (bound : position ≤ queries.length) (more : List Query) :
    statementsBefore (queries ++ more) position = statementsBefore queries position := by
  rw [statementsBefore, statementsBefore, List.take_append_of_le_length bound]

/-- What is known once these queries are taken in. -/
structure Progress.After (progress : Progress) (queries : List Query) : Prop where
  statement : progress.statement = statementsBefore queries queries.length
  statements : progress.scopes.statements =
    (List.range queries.length).map (statementsBefore queries)
  declared : ∀ position query, queries[position]? = some query → query.isCte = true →
    (progress.scopes.declared.lookup
      (statementsBefore queries position, Text.lowercase query.name)).isSome = true

theorem Progress.After.add {progress : Progress} {queries : List Query}
    (after : progress.After queries) (query : Query) :
    (progress.add query).After (queries ++ [query]) where
  statement := by
    have before := after.statement
    rw [statementsBefore, List.take_length] at before ⊢
    rw [List.countP_append, List.countP_singleton, ← before, Progress.add]
    cases query.isStatementLevel <;> rfl
  statements := by
    have earlier : (List.range queries.length).map (statementsBefore (queries ++ [query])) =
        (List.range queries.length).map (statementsBefore queries) := by
      rw [List.map_inj_left]
      intro position listed
      exact statementsBefore_append (Nat.le_of_lt (List.mem_range.mp listed)) [query]
    have here : statementsBefore (queries ++ [query]) queries.length = progress.statement := by
      rw [statementsBefore_append (Nat.le_refl _), after.statement]
    rw [List.length_append, List.length_singleton, List.range_succ, List.map_append, earlier,
      List.map_singleton, here, ← after.statements]
    rfl
  declared := by
    intro position other located isCte
    -- A later declaration is put behind the earlier ones, so what was found is still found.
    by_cases old : position < queries.length
    · rw [List.getElem?_append_left old] at located
      rw [statementsBefore_append (Nat.le_of_lt old)]
      have known := after.declared position other located isCte
      rw [Progress.add]
      simp only
      split
      · rw [List.lookup_append, Option.isSome_or, known, Bool.true_or]
      · exact known
    · have here : position = queries.length := by
        have bound := (List.getElem?_eq_some_iff.mp located).1
        rw [List.length_append, List.length_singleton] at bound
        omega
      subst here
      obtain rfl : query = other := by simpa using located
      rw [statementsBefore_append (Nat.le_refl _), ← after.statement, Progress.add]
      simp only [isCte, if_true]
      rw [List.lookup_append, List.lookup_cons_self, Option.isSome_or, Option.isSome_some, Bool.or_true]

theorem after_foldl_add (queries : List Query) : (queries.foldl Progress.add {}).After queries := by
  induction queries using List.reverseRecOn with
  | nil => exact ⟨rfl, rfl, fun _ _ located => nomatch located⟩
  | append_singleton queries query ih =>
      rw [List.foldl_append]
      exact ih.add query

variable {script : ParsedScript} {position other : Nat} {query reader : Query}

/-- The number of the statement of a query is that of the statements that end before it. -/
theorem statementOf_ofScript (located : script.queries[position]? = some query) :
    (ofScript script).statementOf position = statementsBefore script.queries position := by
  obtain ⟨bound, _⟩ := List.getElem?_eq_some_iff.mp located
  rw [statementOf, ofScript, (after_foldl_add script.queries).statements, List.getD_eq_getElem?_getD,
    List.getElem?_map, List.getElem?_range bound]
  rfl

theorem declaredUpTo_of_lookup {scopes : CteScopes} {name node : String} {statement : Nat}
    (found : scopes.declared.lookup (statement, name) = some node) :
    scopes.declaredUpTo name statement = some node := by
  cases statement with
  | zero => exact found
  | succ earlier => rw [declaredUpTo, found, Option.some_or]

/-- A reference that is marked as a common table expression denotes the one that is declared under its
case-folded name in the same statement. -/
theorem keyFor_of_declared (located : script.queries[position]? = some query)
    (isCte : query.isCte = true) (readerLocated : script.queries[other]? = some reader)
    (sameStatement : statementsBefore script.queries position = statementsBefore script.queries other)
    {table : TableReference} (marked : table.isCte = true)
    (named : table.key = Text.lowercase query.name) :
    (ofScript script).keyFor other table = .cte ((ofScript script).declaration position query) := by
  have known := (after_foldl_add script.queries).declared position query located isCte
  obtain ⟨node, found⟩ := Option.isSome_iff_exists.mp known
  have declared : (ofScript script).declared.lookup
      (statementsBefore script.queries position, Text.lowercase query.name) = some node := found
  have resolved : (ofScript script).declaredUpTo table.key ((ofScript script).statementOf other) =
      some node := by
    rw [statementOf_ofScript readerLocated, ← sameStatement, named]
    exact declaredUpTo_of_lookup declared
  rw [keyFor, if_pos marked, resolved, declaration, statementOf_ofScript located, declared]
  rfl

end CteScopes

end SqlLineage.Flow
