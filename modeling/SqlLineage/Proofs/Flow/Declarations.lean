/-
Module: SqlLineage.Proofs.Flow.Declarations
Purpose: Which node stands for a common table expression. Of the queries of a statement that define one of
  a name the first counts; it keeps its name unless some query before it has taken the name.
Main exports: CteScopes.FirstDeclares, CteScopes.givenName, CteScopes.exists_firstDeclares,
  CteScopes.exists_of_declaredUpTo_eq_some
-/
import SqlLineage.Proofs.Flow.Scopes
import SqlLineage.Proofs.Lineage.Declared

namespace SqlLineage.Flow

open Lineage (Query TableReference ParsedScript Declares)

namespace CteScopes

/-- Whether the query at this position is the first of its statement to define a common table expression
of this case-folded name. -/
structure FirstDeclares (queries : List Query) (statement : Nat) (name : String) (position : Nat)
    (query : Query) : Prop where
  located : queries[position]? = some query
  isCte : query.isCte = true
  named : Text.lowercase query.name = name
  here : statementsBefore queries position = statement
  first : ∀ {earlier other}, earlier < position → queries[earlier]? = some other →
    other.isCte = true → Text.lowercase other.name = name → statementsBefore queries earlier ≠ statement

/-- The node name of the common table expression that the query at this position defines: its own name,
or one that is made up if some query before it has that name. -/
def givenName (queries : List Query) (position : Nat) (query : Query) : String :=
  let name := Text.lowercase query.name
  if Declares (queries.take position) name then
    if query.id.isEmpty then name ++ "@" ++ toString (statementsBefore queries position)
    else Text.lowercase query.id
  else name

variable {queries : List Query} {statement position : Nat} {name node : String} {query : Query}

theorem FirstDeclares.lt (declares : FirstDeclares queries statement name position query) :
    position < queries.length :=
  (List.getElem?_eq_some_iff.mp declares.located).1

/-- More queries behind do not change which one is the first. -/
theorem firstDeclares_append_iff (bound : position < queries.length) (more : List Query) :
    FirstDeclares (queries ++ more) statement name position query ↔
      FirstDeclares queries statement name position query := by
  have located : ∀ {earlier}, earlier ≤ position → (queries ++ more)[earlier]? = queries[earlier]? :=
    fun le => List.getElem?_append_left (Nat.lt_of_le_of_lt le bound)
  have before : ∀ {earlier}, earlier ≤ position →
      statementsBefore (queries ++ more) earlier = statementsBefore queries earlier :=
    fun le => statementsBefore_append (Nat.le_of_lt (Nat.lt_of_le_of_lt le bound)) more
  constructor
  · intro declares
    refine ⟨?_, declares.isCte, declares.named, ?_, ?_⟩
    · rw [← located (Nat.le_refl _)]
      exact declares.located
    · rw [← before (Nat.le_refl _)]
      exact declares.here
    · intro earlier other lower found isCte named
      rw [← located (Nat.le_of_lt lower)] at found
      rw [← before (Nat.le_of_lt lower)]
      exact declares.first lower found isCte named
  · intro declares
    refine ⟨?_, declares.isCte, declares.named, ?_, ?_⟩
    · rw [located (Nat.le_refl _)]
      exact declares.located
    · rw [before (Nat.le_refl _)]
      exact declares.here
    · intro earlier other lower found isCte named
      rw [located (Nat.le_of_lt lower)] at found
      rw [before (Nat.le_of_lt lower)]
      exact declares.first lower found isCte named

theorem givenName_append (bound : position < queries.length) (more : List Query) (query : Query) :
    givenName (queries ++ more) position query = givenName queries position query := by
  rw [givenName, givenName, List.take_append_of_le_length (Nat.le_of_lt bound),
    statementsBefore_append (Nat.le_of_lt bound)]

/-- What is known of the names once these queries are taken in. -/
structure Progress.Names (progress : Progress) (queries : List Query) : Prop where
  claimed : ∀ name, name ∈ progress.claimed ↔ Declares queries name
  declared : ∀ statement name node,
    progress.scopes.declared.lookup (statement, name) = some node ↔
      ∃ position query, FirstDeclares queries statement name position query ∧
        node = givenName queries position query

/-- An entry that is there already stays the one that is found. -/
theorem Progress.lookup_add (progress : Progress) (query : Query) (entry : Nat × String) :
    (progress.add query).scopes.declared.lookup entry =
      (progress.scopes.declared.lookup entry).or
        (if query.isCte = true ∧ entry = (progress.statement, Text.lowercase query.name) then
          some (progress.nodeName query) else none) := by
  rw [Progress.add]
  cases query.isCte with
  | false => simp
  | true =>
      rw [if_pos rfl, List.lookup_append, List.lookup_cons, List.lookup_nil]
      by_cases same : entry = (progress.statement, Text.lowercase query.name)
      · simp [same]
      · simp [same, beq_false_of_ne same]

namespace Progress.Names

variable {progress : Progress} (after : progress.After queries) (names : progress.Names queries)

include after names

theorem nodeName_eq (query : Query) :
    progress.nodeName query = givenName (queries ++ [query]) queries.length query := by
  have here : progress.statement = statementsBefore (queries ++ [query]) queries.length := by
    rw [after.statement, statementsBefore_append (Nat.le_refl _)]
  have taken : progress.claimed.contains (Text.lowercase query.name) = true ↔
      Declares ((queries ++ [query]).take queries.length) (Text.lowercase query.name) := by
    rw [List.contains_iff_mem, names.claimed, List.take_left']
    rfl
  rw [Progress.nodeName, givenName, ← here]
  simp only [taken]

/-- The query that is taken in is the first to define its name if its statement has no such entry yet. -/
theorem firstDeclares_length_iff :
    FirstDeclares (queries ++ [query]) statement name queries.length query ↔
      progress.scopes.declared.lookup (statement, name) = none ∧ query.isCte = true ∧
        (statement, name) = (progress.statement, Text.lowercase query.name) := by
  have here : statementsBefore (queries ++ [query]) queries.length = progress.statement := by
    rw [after.statement, statementsBefore_append (Nat.le_refl _)]
  constructor
  · intro declares
    refine ⟨?_, declares.isCte, by rw [← declares.here, ← declares.named, here]⟩
    rw [Option.eq_none_iff_forall_ne_some]
    intro node known
    obtain ⟨position, other, declaresOld, _⟩ := (names.declared _ _ _).mp known
    have declaresToo := (firstDeclares_append_iff declaresOld.lt [query]).mpr declaresOld
    exact declares.first declaresOld.lt declaresToo.located declaresToo.isCte declaresToo.named
      declaresToo.here
  · rintro ⟨free, isCte, same⟩
    obtain ⟨rfl, rfl⟩ := Prod.mk.inj same
    refine ⟨by simp, isCte, rfl, here, ?_⟩
    intro earlier other lower found otherIsCte named sameStatement
    rw [List.getElem?_append_left lower] at found
    rw [statementsBefore_append (Nat.le_of_lt lower)] at sameStatement
    have known := after.declared earlier other found otherIsCte
    rw [sameStatement, named, free] at known
    cases known

theorem add (query : Query) : (progress.add query).Names (queries ++ [query]) := by
  constructor
  · intro name
    have old := names.claimed name
    rw [Lineage.declares_concat_iff, ← old, Progress.add]
    cases query.isCte with
    | false => simp
    | true => simp [or_comm, eq_comm]
  · intro statement name node
    rw [lookup_add, Option.or_eq_some_iff, names.declared]
    constructor
    · rintro (⟨position, other, declares, rfl⟩ | ⟨free, found⟩)
      · refine ⟨position, other, (firstDeclares_append_iff declares.lt _).mpr declares, ?_⟩
        rw [givenName_append declares.lt]
      · split at found
        · next entry =>
            have declares := (firstDeclares_length_iff after names).mpr ⟨free, entry⟩
            refine ⟨queries.length, query, declares, ?_⟩
            rw [← nodeName_eq after names, Option.some.inj found]
        · cases found
    · rintro ⟨position, other, declares, rfl⟩
      by_cases old : position < queries.length
      · left
        refine ⟨position, other, (firstDeclares_append_iff old _).mp declares, ?_⟩
        rw [givenName_append old]
      · right
        have length := declares.lt
        rw [List.length_append, List.length_singleton] at length
        obtain rfl : position = queries.length := by omega
        obtain rfl : query = other := by simpa using declares.located
        obtain ⟨free, entry⟩ := (firstDeclares_length_iff after names).mp declares
        rw [if_pos entry, nodeName_eq after names]
        exact ⟨free, rfl⟩

end Progress.Names

theorem names_foldl_add (queries : List Query) : (queries.foldl Progress.add {}).Names queries := by
  induction queries using List.reverseRecOn with
  | nil =>
      constructor
      · intro name
        simp [Declares]
      · intro statement name node
        constructor
        · intro found
          cases found
        · rintro ⟨position, query, declares, _⟩
          exact absurd declares.lt (Nat.not_lt_zero position)
  | append_singleton queries query ih =>
      rw [List.foldl_append]
      exact ih.add (after_foldl_add queries) query

/-! ### The scopes of a script -/

section Script

variable {script : ParsedScript}

theorem lookup_declared_iff : (ofScript script).declared.lookup (statement, name) = some node ↔
    ∃ position query, FirstDeclares script.queries statement name position query ∧
      node = givenName script.queries position query :=
  (names_foldl_add script.queries).declared statement name node

/-- A query that defines a common table expression stands for the first of its statement that defines one
of that name. -/
theorem exists_firstDeclares (located : script.queries[position]? = some query)
    (isCte : query.isCte = true) : ∃ first declaring,
      FirstDeclares script.queries (statementsBefore script.queries position)
        (Text.lowercase query.name) first declaring ∧
      (ofScript script).declaration position query = givenName script.queries first declaring := by
  have known := (after_foldl_add script.queries).declared position query located isCte
  obtain ⟨node, found⟩ := Option.isSome_iff_exists.mp known
  obtain ⟨first, declaring, declares, rfl⟩ := lookup_declared_iff.mp found
  refine ⟨first, declaring, declares, ?_⟩
  have found : (ofScript script).declared.lookup
      (statementsBefore script.queries position, Text.lowercase query.name) =
        some (givenName script.queries first declaring) := found
  rw [declaration, statementOf_ofScript located, found]
  rfl

theorem FirstDeclares.declaration_eq (declares : FirstDeclares script.queries statement name position query) :
    (ofScript script).declaration position query = givenName script.queries position query := by
  have found := lookup_declared_iff.mpr ⟨position, query, declares, rfl⟩
  rw [declaration, statementOf_ofScript declares.located, declares.here, declares.named, found]
  rfl

/-- What a name stands for up to a statement is declared in that one or an earlier one. -/
theorem exists_of_declaredUpTo_eq_some
    (found : (ofScript script).declaredUpTo name statement = some node) :
    ∃ earlier position query, FirstDeclares script.queries earlier name position query ∧
      node = givenName script.queries position query := by
  induction statement with
  | zero => exact ⟨0, lookup_declared_iff.mp found⟩
  | succ statement ih =>
      rw [declaredUpTo, Option.or_eq_some_iff] at found
      rcases found with here | ⟨_, earlier⟩
      · exact ⟨statement + 1, lookup_declared_iff.mp here⟩
      · exact ih earlier

end Script

end CteScopes

end SqlLineage.Flow
