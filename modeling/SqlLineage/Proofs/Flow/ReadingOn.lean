/-
Module: SqlLineage.Proofs.Flow.ReadingOn
Purpose: What a script says does not depend on what follows it. Queries behind a finished statement belong
  to later statements, so no reference before them changes its relation and no definition its node.
Main exports: CteScopes.Finished, CteScopes.lookup_declared_eq, CteScopes.AgreeAt, CteScopes.agreeAt_of_onward
-/
import SqlLineage.Proofs.Flow.Declarations

namespace SqlLineage.Flow

open Lineage (Query TableReference ParsedScript)

namespace CteScopes

variable {queries : List Query} {position other statement : Nat} {query last : Query} {name : String}

/-! ### Statements -/

/-- Whether the queries end with a statement's own one, so that no statement is left open. -/
def Finished (queries : List Query) : Prop := ∃ last, queries.getLast? = some last ∧ last.isStatementLevel = true

theorem statementsBefore_mono (ordered : position ≤ other) :
    statementsBefore queries position ≤ statementsBefore queries other :=
  (List.take_sublist_take_left ordered).countP_le

/-- The own query of the last statement ends behind every query of a finished script. -/
theorem statementsBefore_lt (finished : Finished queries) (located : queries[position]? = some query) :
    statementsBefore queries position < statementsBefore queries queries.length := by
  obtain ⟨last, isLast, whole⟩ := finished
  obtain ⟨front, rfl⟩ := List.getLast?_eq_some_iff.mp isLast
  obtain ⟨bound, _⟩ := List.getElem?_eq_some_iff.mp located
  rw [List.length_append, List.length_singleton] at bound
  calc statementsBefore (front ++ [last]) position
      ≤ statementsBefore (front ++ [last]) front.length := statementsBefore_mono (by omega)
    _ = front.countP Query.isStatementLevel := by rw [statementsBefore, List.take_left]
    _ < (front ++ [last]).countP Query.isStatementLevel := by simp [whole]
    _ = statementsBefore (front ++ [last]) (front ++ [last]).length := by
        rw [statementsBefore, List.take_length]

/-! ### Declarations -/

variable {script longer : ParsedScript}

/-- Queries that follow declare nothing in the statements that are finished. -/
theorem firstDeclares_iff_of_onward (onward : script.queries <+: longer.queries)
    (past : statement < statementsBefore script.queries script.queries.length) :
    FirstDeclares longer.queries statement name position query ↔
      FirstDeclares script.queries statement name position query := by
  obtain ⟨more, behind⟩ := onward
  rw [← behind]
  constructor
  · intro declares
    have early : position < script.queries.length := by
      by_contra late
      have counted : statementsBefore script.queries script.queries.length ≤ statement := by
        rw [← statementsBefore_append (Nat.le_refl _) more, ← declares.here]
        exact statementsBefore_mono (Nat.le_of_not_lt late)
      exact absurd past (Nat.not_lt_of_le counted)
    exact (firstDeclares_append_iff early more).mp declares
  · intro declares
    exact (firstDeclares_append_iff declares.lt more).mpr declares

/-- What a finished statement declares under a name stays as it is, and it declares nothing new. -/
theorem lookup_declared_eq (onward : script.queries <+: longer.queries)
    (past : statement < statementsBefore script.queries script.queries.length) :
    (ofScript longer).declared.lookup (statement, name) =
      (ofScript script).declared.lookup (statement, name) := by
  ext node
  rw [lookup_declared_iff, lookup_declared_iff]
  have same : ∀ {position query}, FirstDeclares script.queries statement name position query →
      givenName longer.queries position query = givenName script.queries position query := by
    intro position query declares
    obtain ⟨more, behind⟩ := onward
    rw [← behind, givenName_append declares.lt]
  constructor
  · rintro ⟨position, query, declares, rfl⟩
    have declares := (firstDeclares_iff_of_onward onward past).mp declares
    exact ⟨position, query, declares, same declares⟩
  · rintro ⟨position, query, declares, rfl⟩
    exact ⟨position, query, (firstDeclares_iff_of_onward onward past).mpr declares, (same declares).symm⟩

/-- So does the search through the statements up to a finished one. -/
theorem declaredUpTo_eq (onward : script.queries <+: longer.queries)
    (past : statement < statementsBefore script.queries script.queries.length) :
    (ofScript longer).declaredUpTo name statement = (ofScript script).declaredUpTo name statement := by
  induction statement with
  | zero => exact lookup_declared_eq onward past
  | succ earlier ih =>
      rw [declaredUpTo, declaredUpTo, lookup_declared_eq onward past, ih (Nat.lt_of_succ_lt past)]

/-! ### Answers -/

/-- Whether two scopes say the same of the query at a position: which relation each of its references
denotes, and which node stands for what it defines. -/
structure AgreeAt (scopes others : CteScopes) (position : Nat) (query : Query) : Prop where
  keyFor : ∀ table, scopes.keyFor position table = others.keyFor position table
  declaration : scopes.declaration position query = others.declaration position query

/-- The scopes of a script whose last statement is finished stay as they are when it is read on: they say
the same of each of its queries, whatever follows. -/
theorem agreeAt_of_onward (finished : Finished script.queries) (onward : script.queries <+: longer.queries)
    (located : script.queries[position]? = some query) :
    (ofScript longer).AgreeAt (ofScript script) position query := by
  have bound := (List.getElem?_eq_some_iff.mp located).1
  have past := statementsBefore_lt finished located
  have statementOf : (ofScript longer).statementOf position = (ofScript script).statementOf position := by
    obtain ⟨more, behind⟩ := onward
    have locatedToo : longer.queries[position]? = some query := by
      rw [← behind, List.getElem?_append_left bound, located]
    rw [statementOf_ofScript located, statementOf_ofScript locatedToo, ← behind,
      statementsBefore_append (Nat.le_of_lt bound)]
  constructor
  · intro table
    rw [keyFor, keyFor, statementOf, statementOf_ofScript located, declaredUpTo_eq onward past]
  · rw [declaration, declaration, statementOf, statementOf_ofScript located,
      lookup_declared_eq onward past]

/-- A query that reads a common table expression `a`. -/
def readingQuery : Query := { name := "final query", tables := [.named "a" none true] }

/-- A statement that defines `a` and reads it. -/
def declaringScript : ParsedScript :=
  { queries := [{ id := "cte_0_a", name := "a", isCte := true }, readingQuery] }

/-- The same statement and one that defines another `a`. -/
def redeclaringScript : ParsedScript :=
  { queries := declaringScript.queries ++
      [{ id := "cte_1_a", name := "A", isCte := true }, readingQuery] }

/-- The first statement reads the first `a` still. -/
theorem agreeAt_redeclaringScript :
    Finished declaringScript.queries ∧ declaringScript.queries <+: redeclaringScript.queries ∧
      declaringScript.queries[1]? = some readingQuery ∧
      (ofScript redeclaringScript).AgreeAt (ofScript declaringScript) 1 readingQuery := by
  have finished : Finished declaringScript.queries := ⟨readingQuery, rfl, rfl⟩
  have onward : declaringScript.queries <+: redeclaringScript.queries := List.prefix_append _ _
  exact ⟨finished, onward, rfl, agreeAt_of_onward finished onward rfl⟩

end CteScopes

end SqlLineage.Flow
