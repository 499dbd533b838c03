/-
Module: SqlLineage.Proofs.Flow.CteNames
Purpose: Under which names the common table expressions of a parsed script go. The first statement that
  declares a name keeps it, and in a later one the name is that of the query; so a declaration and the
  references to it in its own statement go under one name.
Main exports: DeclaredBefore, cteName, declaration_eq_cteName, keyFor_eq_cteName,
  keyFor_cases
-/
import SqlLineage.Proofs.Flow.Declarations

namespace SqlLineage.Flow

open Lineage (Query TableReference QueryId Declares declarations mem_declarations_iff parseWith
  sourceStatements sourcedQueries getElem?_sourcedQueries)
open CteScopes (FirstDeclares givenName statementsBefore)

section

variable (read : String → Option Sql.Query) (escapes : Script.QuoteEscapes) (script : String)

/-- Whether a statement before this one declares a common table expression of this case-folded name. -/
def DeclaredBefore (source : Nat) (key : String) : Prop :=
  ∃ declaration ∈ declarations read escapes script, declaration.1 < source ∧ declaration.2 = key

instance (source : Nat) (key : String) : Decidable (DeclaredBefore read escapes script source key) :=
  inferInstanceAs (Decidable (∃ declaration ∈ declarations read escapes script, _ ∧ _))

/-- The name of the common table expression that a statement declares under this case-folded name. -/
def cteName (source : Nat) (key : String) : String :=
  if DeclaredBefore read escapes script source key then (QueryId.declared source key).text else key

end

variable {read : String → Option Sql.Query} {escapes : Script.QuoteEscapes} {script : String}
  {source position statement : Nat} {query : Query} {table : TableReference} {key : String}

/-- Before the first declaration of a statement only earlier statements declare the name. -/
theorem declares_take_iff
    (declares : FirstDeclares (parseWith read escapes script).queries statement key position query)
    (located : (sourceStatements read escapes script)[position]? = some source) :
    Declares ((parseWith read escapes script).queries.take position) key ↔
      DeclaredBefore read escapes script source key := by
  constructor
  · rintro ⟨other, member, isCte, named⟩
    obtain ⟨earlier, bound, found⟩ := List.mem_take_iff_getElem.mp member
    have lower : earlier < position := by omega
    have otherLocated : (parseWith read escapes script).queries[earlier]? = some other :=
      List.getElem?_eq_some_iff.mpr ⟨_, found⟩
    obtain ⟨another, sourced⟩ := Lineage.exists_getElem?_sourcedQueries otherLocated
    have otherSource := (getElem?_sourcedQueries.mp sourced).1
    refine ⟨(another, key), mem_declarations_iff.mpr ⟨other, List.mem_of_getElem? sourced, isCte, named⟩,
      ?_, rfl⟩
    have le := Lineage.sourceStatements_le (Nat.le_of_lt lower) otherSource located
    have ne : another ≠ source := by
      intro same
      have before := (Lineage.sourceStatements_eq_iff otherSource located).mpr same
      exact declares.first lower otherLocated isCte named (before.trans declares.here)
    exact Nat.lt_of_le_of_ne le ne
  · rintro ⟨⟨another, _⟩, listed, lower, rfl⟩
    obtain ⟨other, sourced, isCte, named⟩ := mem_declarations_iff.mp listed
    obtain ⟨earlier, found⟩ := List.mem_iff_getElem?.mp sourced
    obtain ⟨otherSource, otherLocated⟩ := getElem?_sourcedQueries.mp found
    have before : earlier < position := by
      apply Nat.lt_of_not_le
      intro le
      exact Nat.not_lt.mpr (Lineage.sourceStatements_le le located otherSource) lower
    refine ⟨other, ?_, isCte, named⟩
    obtain ⟨bound, rfl⟩ := List.getElem?_eq_some_iff.mp otherLocated
    exact List.mem_take_iff_getElem.mpr ⟨earlier, by omega, rfl⟩

theorem givenName_eq_cteName
    (declares : FirstDeclares (parseWith read escapes script).queries statement key position query)
    (located : (sourceStatements read escapes script)[position]? = some source) :
    givenName (parseWith read escapes script).queries position query =
      cteName read escapes script source key := by
  have sourced := getElem?_sourcedQueries.mpr ⟨located, declares.located⟩
  obtain ⟨id, bears⟩ := Lineage.exists_bears (List.mem_of_getElem? sourced)
  have isText : query.id = (QueryId.declared source key).text := by
    rw [bears.text, bears.eq_declared declares.isCte, declares.named]
  rw [givenName, cteName, declares.named, bears.lowercase_id, isText, QueryId.isEmpty_text]
  simp only [declares_take_iff declares located]
  rfl

/-- A query of a statement that defines a common table expression stands for the one that the statement
declares under that name. -/
theorem declaration_eq_cteName
    (located : (sourcedQueries read escapes script)[position]? = some (source, query))
    (isCte : query.isCte = true) :
    (CteScopes.ofScript (parseWith read escapes script)).declaration position query =
      cteName read escapes script source (Text.lowercase query.name) := by
  obtain ⟨isSource, isQuery⟩ := getElem?_sourcedQueries.mp located
  obtain ⟨first, declaring, declares, same⟩ := CteScopes.exists_firstDeclares isQuery isCte
  obtain ⟨another, sourced⟩ := Lineage.exists_getElem?_sourcedQueries declares.located
  obtain ⟨firstSource, _⟩ := getElem?_sourcedQueries.mp sourced
  have sameSource : another = source :=
    (Lineage.sourceStatements_eq_iff firstSource isSource).mp declares.here
  rw [same, givenName_eq_cteName declares firstSource, sameSource]

theorem exists_located (listed : (source, key) ∈ declarations read escapes script) :
    ∃ (position : Nat) (query : Query),
      (sourcedQueries read escapes script)[position]? = some (source, query) ∧ query.isCte = true ∧
        Text.lowercase query.name = key := by
  obtain ⟨query, sourced, isCte, named⟩ := mem_declarations_iff.mp listed
  obtain ⟨position, found⟩ := List.mem_iff_getElem?.mp sourced
  exact ⟨position, query, found, isCte, named⟩

/-- A reference to a common table expression that its own statement declares is to that one. -/
theorem keyFor_eq_cteName
    (located : (sourcedQueries read escapes script)[position]? = some (source, query))
    (isCte : table.isCte = true)
    (declared : (source, table.key) ∈ declarations read escapes script) :
    (CteScopes.ofScript (parseWith read escapes script)).keyFor position table =
      .cte (cteName read escapes script source table.key) := by
  obtain ⟨isSource, isQuery⟩ := getElem?_sourcedQueries.mp located
  obtain ⟨other, declaring, found, declaringIsCte, named⟩ := exists_located declared
  obtain ⟨sameSource, isDeclaring⟩ := getElem?_sourcedQueries.mp found
  have sameStatement := (Lineage.sourceStatements_eq_iff sameSource isSource).mpr rfl
  rw [CteScopes.keyFor_of_declared isDeclaring declaringIsCte isQuery sameStatement isCte named.symm,
    declaration_eq_cteName found declaringIsCte, named]

/-- The first statement that declares a name keeps it. -/
theorem exists_cteName_eq_self (listed : (source, key) ∈ declarations read escapes script) :
    ∃ first, (first, key) ∈ declarations read escapes script ∧
      cteName read escapes script first key = key := by
  induction source using Nat.strongRecOn with
  | ind source ih =>
      by_cases before : DeclaredBefore read escapes script source key
      · obtain ⟨⟨earlier, _⟩, earlierListed, lower, rfl⟩ := before
        exact ih earlier lower earlierListed
      · exact ⟨source, listed, if_neg before⟩

variable (read escapes script) in
/-- A reference to a common table expression is to one that some statement declares under its name, if
there is any. -/
theorem keyFor_cases (isCte : table.isCte = true) (position : Nat) :
    (∃ other, (other, table.key) ∈ declarations read escapes script ∧
      (CteScopes.ofScript (parseWith read escapes script)).keyFor position table =
        .cte (cteName read escapes script other table.key)) ∨
    (∀ other, (other, table.key) ∉ declarations read escapes script) ∧
      (CteScopes.ofScript (parseWith read escapes script)).keyFor position table = .cte table.key := by
  rw [CteScopes.keyFor, if_pos isCte]
  cases found : (CteScopes.ofScript (parseWith read escapes script)).declaredUpTo table.key
      ((CteScopes.ofScript (parseWith read escapes script)).statementOf position) with
  | some node =>
      left
      obtain ⟨_, first, declaring, declares, rfl⟩ := CteScopes.exists_of_declaredUpTo_eq_some found
      obtain ⟨other, sourced⟩ := Lineage.exists_getElem?_sourcedQueries declares.located
      refine ⟨other, mem_declarations_iff.mpr
        ⟨declaring, List.mem_of_getElem? sourced, declares.isCte, declares.named⟩, ?_⟩
      rw [givenName_eq_cteName declares (getElem?_sourcedQueries.mp sourced).1]
      rfl
  | none =>
      by_cases declared : ∃ other, (other, table.key) ∈ declarations read escapes script
      · left
        obtain ⟨other, listed⟩ := declared
        obtain ⟨first, firstListed, itself⟩ := exists_cteName_eq_self listed
        refine ⟨first, firstListed, ?_⟩
        rw [itself]
        rfl
      · right
        exact ⟨not_exists.mp declared, rfl⟩

/-! ### When two names agree -/

variable (read escapes script) in
/-- Whether the first common table expression of a case-folded name is declared under the very name that
is made up for another one, of which there is one before. -/
def Takes (key : String) (source other : Nat) (name : String) : Prop :=
  ¬ DeclaredBefore read escapes script source key ∧ DeclaredBefore read escapes script other name ∧
    key = (QueryId.declared other name).text

variable {other : Nat} {name : String}

theorem Takes.cteName_eq (takes : Takes read escapes script key source other name) :
    cteName read escapes script source key = cteName read escapes script other name := by
  obtain ⟨first, before, made⟩ := takes
  rw [cteName, cteName, if_neg first, if_pos before, made]

/-- Two common table expressions go under one name only if they are the same, or one of them takes the name
that is made up for the other. -/
theorem cteName_eq_iff (listed : (source, key) ∈ declarations read escapes script)
    (otherListed : (other, name) ∈ declarations read escapes script) :
    cteName read escapes script source key = cteName read escapes script other name ↔
      (source = other ∧ key = name) ∨ Takes read escapes script key source other name ∨
        Takes read escapes script name other source key := by
  constructor
  · intro same
    rw [cteName, cteName] at same
    split at same
    · next before =>
        split at same
        · exact .inl (QueryId.declared.inj (QueryId.text_inj.mp same))
        · next otherFirst => exact .inr (.inr ⟨otherFirst, before, same.symm⟩)
    · next first =>
        split at same
        · next otherBefore => exact .inr (.inl ⟨first, otherBefore, same⟩)
        · next otherFirst =>
            -- Both are the first of the name, so neither statement is before the other.
            refine .inl ⟨?_, same⟩
            rcases Nat.lt_trichotomy source other with lower | sameSource | lower
            · exact absurd ⟨_, listed, lower, same⟩ otherFirst
            · exact sameSource
            · exact absurd ⟨_, otherListed, lower, same.symm⟩ first
  · rintro (⟨rfl, rfl⟩ | takes | takes)
    · rfl
    · exact takes.cteName_eq
    · exact takes.cteName_eq.symm

end SqlLineage.Flow
