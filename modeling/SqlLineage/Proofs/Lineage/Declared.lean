/-
Module: SqlLineage.Proofs.Lineage.Declared
Purpose: Where common table expressions are declared to which references are made. In a statement that the
  grammar reads they are declared in the statement itself; one whose tokens are scanned declares none.
Main exports: Declares, Walk.DeclaresAll, IsRead, mem_declarations_of_isRead,
  not_mem_declarations_of_not_isRead
-/
import SqlLineage.Proofs.Lineage.Naming

namespace SqlLineage.Lineage

/-- Whether one of these queries defines a common table expression of this case-folded name. -/
def Declares (queries : List Query) (key : String) : Prop :=
  ∃ query ∈ queries, query.isCte = true ∧ Text.lowercase query.name = key

instance (queries : List Query) (key : String) : Decidable (Declares queries key) :=
  inferInstanceAs (Decidable (∃ query ∈ queries, query.isCte = true ∧ Text.lowercase query.name = key))

theorem Declares.mono {queries more : List Query} {key : String} (subset : queries ⊆ more)
    (declares : Declares queries key) : Declares more key := by
  obtain ⟨query, member, isCte, named⟩ := declares
  exact ⟨query, subset member, isCte, named⟩

theorem declares_concat_iff {queries : List Query} {query : Query} {key : String} :
    Declares (queries ++ [query]) key ↔
      Declares queries key ∨ query.isCte = true ∧ Text.lowercase query.name = key := by
  simp [Declares, or_and_right, exists_or]

/-! ### A walk declares what it refers to -/

/-- Whether each of these references that is marked as one to a common table expression is to one in scope
or to one that these queries define. -/
def Resolved (scope : List String) (queries : List Query) (tables : List TableReference) : Prop :=
  ∀ table ∈ tables, table.isCte = true → table.key ∈ scope ∨ Declares queries table.key

namespace Resolved

variable {scope : List String} {queries more : List Query} {tables others : List TableReference}

theorem mono (resolved : Resolved scope queries tables) (subset : queries ⊆ more) :
    Resolved scope more tables :=
  fun table member isCte => (resolved table member isCte).imp_right (.mono subset)

theorem append (resolved : Resolved scope queries tables) (behind : Resolved scope queries others) :
    Resolved scope queries (tables ++ others) :=
  List.forall_mem_append.mpr ⟨resolved, behind⟩

/-- A name that is in scope only because these queries declare it need not be in scope. -/
theorem discharge {key : String} {inner : List String} (resolved : Resolved inner queries tables)
    (subset : inner ⊆ scope ++ [key]) (declares : Declares queries key) :
    Resolved scope queries tables := by
  intro table member isCte
  rcases resolved table member isCte with visible | found
  · rcases List.mem_append.mp (subset visible) with outer | here
    · exact .inl outer
    · rw [List.mem_singleton.mp here]
      exact .inr declares
  · exact .inr found

end Resolved

namespace Walk

/-- How a walk refers to common table expressions: to those in scope, and to those that it declares. -/
structure DeclaresAll (scope : List String) (walk later : Walk) : Prop where
  query : walk.query.SameKind later.query
  adds : ∃ inner own, later.queries = walk.queries ++ inner ∧
    later.query.tables = walk.query.tables ++ own ∧ Resolved scope inner own ∧
    ∀ query ∈ inner, Resolved scope inner query.tables

namespace DeclaresAll

variable {scope : List String} {walk later last : Walk}

/-- A walk that lists references to what is in scope, and completes no query. -/
theorem of_eq {own : List TableReference} (sameKind : walk.query.SameKind later.query)
    (queries : later.queries = walk.queries) (tables : later.query.tables = walk.query.tables ++ own)
    (resolved : Resolved scope [] own) : walk.DeclaresAll scope later := by
  refine ⟨sameKind, [], own, ?_, tables, resolved, List.forall_mem_nil _⟩
  rw [queries, List.append_nil]

theorem trans (first : walk.DeclaresAll scope later) (second : later.DeclaresAll scope last) :
    walk.DeclaresAll scope last := by
  obtain ⟨inner, own, queries, tables, resolved, resolvedInner⟩ := first.adds
  obtain ⟨others, more, queriesLast, tablesLast, resolvedLast, resolvedOthers⟩ := second.adds
  have early := List.subset_append_left inner others
  have late := List.subset_append_right inner others
  refine ⟨first.query.trans second.query, inner ++ others, own ++ more, ?_, ?_,
    (resolved.mono early).append (resolvedLast.mono late), ?_⟩
  · rw [queriesLast, queries, List.append_assoc]
  · rw [tablesLast, tables, List.append_assoc]
  · intro query member
    rcases List.mem_append.mp member with isEarly | isLate
    · exact (resolvedInner query isEarly).mono early
    · exact (resolvedOthers query isLate).mono late

section Fill

variable {fill : Walk → Walk}

/-- A nested query sees what is in scope around it. -/
theorem nested (fills : ∀ walk : Walk, walk.DeclaresAll scope (fill walk)) (index : Nat)
    (aliasName : Option String) (walk : Walk) :
    walk.DeclaresAll scope (walk.nested index aliasName fill) := by
  let start : Walk := { walk with
    nestedCount := walk.nestedCount + 1, query := emptyNested index walk.nestedCount aliasName }
  obtain ⟨inner, own, queries, tables, resolved, resolvedInner⟩ := (fills start).adds
  have listed : walk.query.SameKind (walk.nested index aliasName fill).query :=
    (Query.SameKind.addDependency _ walk.query).trans (.addTable _ _)
  have early := List.subset_append_left inner [(fill start).query]
  refine ⟨listed, inner ++ [(fill start).query],
    [.named (QueryId.nested index walk.nestedCount).text aliasName false], ?_, ?_, ?_, ?_⟩
  · show (fill start).queries ++ [(fill start).query] = _
    rw [queries, List.append_assoc]
  · show (Query.addTable _ (Query.addDependency _ walk.query)).tables = _
    rw [Query.tables_addTable, Query.tables_addDependency]
    rfl
  · intro table member isCte
    rw [List.mem_singleton.mp member] at isCte
    cases isCte
  · intro query member
    rcases List.mem_append.mp member with isInner | isFilled
    · exact (resolvedInner query isInner).mono early
    · have own : (fill start).query.tables = own := tables
      rw [List.mem_singleton.mp isFilled, own]
      exact resolved.mono early

/-- What is declared is in scope for the rest of the walk, and perhaps inside its definition. -/
theorem declared {index : Nat} {inner : List String} {name : String}
    (subset : inner ⊆ scope ++ [Text.lowercase name])
    (fills : ∀ walk : Walk, walk.DeclaresAll inner (fill walk))
    (behind : (walk.declared index name fill).DeclaresAll (scope ++ [Text.lowercase name]) last) :
    walk.DeclaresAll scope last := by
  let start : Walk := { walk with query := emptyDefinition index name }
  have filled := fills start
  obtain ⟨early, own, queries, tables, resolved, resolvedEarly⟩ := filled.adds
  obtain ⟨late, more, queriesLast, tablesLast, resolvedLast, resolvedLate⟩ := behind.adds
  have all : last.queries = walk.queries ++ (early ++ (fill start).query :: late) := by
    have declaredQueries : (walk.declared index name fill).queries =
        (fill start).queries ++ [(fill start).query] := rfl
    rw [queriesLast, declaredQueries, queries, List.append_assoc, List.append_assoc]
    rfl
  have isEarly : early ⊆ early ++ (fill start).query :: late := List.subset_append_left _ _
  have isLate : late ⊆ early ++ (fill start).query :: late :=
    fun _ member => List.mem_append_right _ (List.mem_cons_of_mem _ member)
  have declares : Declares (early ++ (fill start).query :: late) (Text.lowercase name) :=
    ⟨(fill start).query, List.mem_append_right _ List.mem_cons_self, filled.query.isCte,
      congrArg Text.lowercase filled.query.name⟩
  have definitionTables : (fill start).query.tables = own := tables
  refine ⟨behind.query, _, more, all, tablesLast, ?_, ?_⟩
  · exact (resolvedLast.mono isLate).discharge (List.Subset.refl _) declares
  · intro query member
    rcases List.mem_append.mp member with inEarly | behindThem
    · exact ((resolvedEarly query inEarly).mono isEarly).discharge subset declares
    · rcases List.mem_cons.mp behindThem with rfl | inLate
      · rw [definitionTables]
        exact (resolved.mono isEarly).discharge subset declares
      · exact ((resolvedLate query inLate).mono isLate).discharge (List.Subset.refl _) declares

end Fill

end DeclaresAll

/-- Each step of a walk refers to what is in scope or declared by then. -/
theorem declaresAll_steps (index : Nat) :
    Walk.Steps index fun _ scope walk _ later => walk.DeclaresAll scope later where
  append := .trans
  notes noted := .of_eq noted.query noted.queries (noted.tables.trans (List.append_nil _).symm)
    (List.forall_mem_nil _)
  table _ _ _ walk := by
    refine .of_eq (.addTable _ _) rfl (Query.tables_addTable _ _) ?_
    intro table member isCte
    rw [List.mem_singleton.mp member] at isCte ⊢
    exact .inl (List.contains_iff_mem.mp isCte)
  nested fills := .nested fills index
  declared {_ scope isRecursive _ name} _ _ fills _ _ _ behind := by
    have inScope : (if isRecursive then scope ++ [Text.lowercase name] else scope) ⊆
        scope ++ [Text.lowercase name] := by
      split
      · exact List.Subset.refl _
      · exact List.subset_append_left _ _
    exact .declared inScope fills behind
  body declares := declares

end Walk

/-! ### The queries of a statement -/

/-- In a statement that the grammar reads each reference to a common table expression is to one that the
statement declares. -/
theorem resolved_collectStatement (index : Nat) (tree : Sql.Query) {root : Query}
    (unread : root.tables = []) :
    ∀ query ∈ (collectStatement index tree root).queries, ∀ table ∈ query.tables,
      table.isCte = true → Declares (collectStatement index tree root).queries table.key := by
  obtain ⟨inner, own, queries, tables, resolved, resolvedInner⟩ :=
    ((Walk.declaresAll_steps index).onQuery isScope_nil tree { query := root }).adds
  have collected : (collectStatement index tree root).queries =
      inner ++ [(walkQuery index [] tree { query := root }).query] := by
    rw [queries_collectStatement, queries]
    rfl
  rw [collected]
  have early := List.subset_append_left inner [(walkQuery index [] tree { query := root }).query]
  have declares : ∀ {tables : List TableReference}, Resolved [] inner tables → ∀ table ∈ tables,
      table.isCte = true → Declares (inner ++ [(walkQuery index [] tree { query := root }).query])
        table.key := by
    intro tables resolved table listed isCte
    rcases resolved table listed isCte with visible | found
    · cases visible
    · exact found.mono early
  intro query member
  rcases List.mem_append.mp member with isInner | isOwn
  · exact declares (resolvedInner query isInner)
  · rw [List.mem_singleton.mp isOwn, tables, unread, List.nil_append]
    exact declares resolved

/-- A statement's own query lists nothing before it is filled. -/
theorem tables_rootQuery (index : Nat) (kind : Script.StatementKind) :
    (rootQuery index kind).tables = [] := by
  unfold rootQuery
  split
  · rfl
  · rfl

theorem dependsOn_rootQuery (index : Nat) (kind : Script.StatementKind) :
    (rootQuery index kind).dependsOn = [] := by
  unfold rootQuery
  split
  · rfl
  · rfl

section Statement

variable {read : String → Option Sql.Query} {statement : Script.Statement} {lineage : StatementLineage}
  (contributes : statementLineage? read statement = some lineage)

include contributes

theorem resolved_of_isSome (isRead : (read statement.normalized).isSome = true) :
    ∀ query ∈ lineage.queries, ∀ table ∈ query.tables, table.isCte = true →
      Declares lineage.queries table.key := by
  simp only [statementLineage?, Option.bind_eq_bind, Option.bind_eq_some_iff] at contributes
  obtain ⟨kind, _, contributes⟩ := contributes
  split at contributes
  · next tree _ =>
      obtain rfl := Option.some.inj contributes
      exact resolved_collectStatement statement.index tree (tables_rootQuery statement.index kind)
  · next unread =>
      rw [unread] at isRead
      cases isRead

/-- A statement whose tokens are scanned declares no common table expression. -/
theorem not_isCte_of_isNone (unread : (read statement.normalized).isSome = false) :
    ∀ query ∈ lineage.queries, query.isCte = false := by
  simp only [statementLineage?, Option.bind_eq_bind, Option.bind_eq_some_iff] at contributes
  obtain ⟨kind, _, contributes⟩ := contributes
  split at contributes
  · next tree isTree =>
      rw [isTree] at unread
      cases unread
  · split at contributes
    · cases contributes
    · obtain rfl := Option.some.inj contributes
      have scanned := sameKind_foldl_addTable statement.relations.tables (rootQuery statement.index kind)
      have own := (bears_rootQuery statement.index kind).not_isCte
      exact List.forall_mem_singleton.mpr (scanned.isCte.trans own)

end Statement

/-! ### The queries of a script -/

/-- Whether the grammar reads the statement with this index. -/
def IsRead (read : String → Option Sql.Query) (escapes : Script.QuoteEscapes) (script : String)
    (index : Nat) : Prop :=
  ∃ statement ∈ Script.Statement.split escapes script,
    statement.index = index ∧ (read statement.normalized).isSome = true

instance (read : String → Option Sql.Query) (escapes : Script.QuoteEscapes) (script : String)
    (index : Nat) : Decidable (IsRead read escapes script index) :=
  inferInstanceAs (Decidable (∃ statement ∈ Script.Statement.split escapes script, _ ∧ _))

section Script

variable {read : String → Option Sql.Query} {escapes : Script.QuoteEscapes} {script : String}
  {source : Nat} {query : Query} {key : String}

theorem mem_declarations_iff : (source, key) ∈ declarations read escapes script ↔
    ∃ query, (source, query) ∈ sourcedQueries read escapes script ∧ query.isCte = true ∧
      Text.lowercase query.name = key := by
  rw [declarations, List.mem_map]
  constructor
  · rintro ⟨⟨source, query⟩, listed, same⟩
    obtain ⟨sourced, isCte⟩ := List.mem_filter.mp listed
    obtain ⟨rfl, named⟩ := Prod.mk.inj same
    exact ⟨query, sourced, isCte, named⟩
  · rintro ⟨query, sourced, isCte, rfl⟩
    exact ⟨(source, query), List.mem_filter.mpr ⟨sourced, isCte⟩, rfl⟩

/-- The statement with an index is the only one. -/
theorem isRead_iff {statement : Script.Statement}
    (member : statement ∈ Script.Statement.split escapes script) :
    IsRead read escapes script statement.index ↔ (read statement.normalized).isSome = true := by
  constructor
  · rintro ⟨other, otherMember, sameIndex, isRead⟩
    have distinct : ((Script.Statement.split escapes script).map Script.Statement.index).Nodup := by
      rw [map_index_split]
      exact List.nodup_range
    rwa [List.inj_on_of_nodup_map distinct otherMember member sameIndex] at isRead
  · intro isRead
    exact ⟨statement, member, rfl, isRead⟩

theorem exists_statement {lineage : StatementLineage}
    (isContribution : (source, lineage) ∈ contributions read escapes script) :
    ∃ statement, statementLineage? read statement = some lineage ∧
      (IsRead read escapes script source ↔ (read statement.normalized).isSome = true) := by
  obtain ⟨statement, member, contributes⟩ := List.mem_filterMap.mp isContribution
  obtain ⟨lineage, isLineage, same⟩ := Option.map_eq_some_iff.mp contributes
  cases same
  exact ⟨statement, isLineage, isRead_iff member⟩

/-- In a statement that the grammar reads each reference to a common table expression is to one that the
statement declares. -/
theorem mem_declarations_of_isRead (isRead : IsRead read escapes script source)
    (sourced : (source, query) ∈ sourcedQueries read escapes script) {table : TableReference}
    (listed : table ∈ query.tables) (isCte : table.isCte = true) :
    (source, table.key) ∈ declarations read escapes script := by
  obtain ⟨lineage, isContribution, collected, member, same⟩ := exists_contribution sourced
  obtain ⟨statement, contributes, known⟩ := exists_statement isContribution
  have collectedListed : table ∈ collected.tables := by
    rw [tables_eq_of_unmarked_eq same]
    exact listed
  obtain ⟨definition, definitionMember, definitionIsCte, named⟩ :=
    resolved_of_isSome contributes (known.mp isRead) collected member table collectedListed isCte
  obtain ⟨found, foundSourced, foundSame⟩ := exists_sourced isContribution definitionMember
  have sameKind := sameKind_of_unmarked_eq foundSame.symm
  rw [mem_declarations_iff]
  exact ⟨found, foundSourced, sameKind.isCte.trans definitionIsCte,
    (congrArg Text.lowercase sameKind.name).trans named⟩

/-- A statement that the grammar does not read declares no common table expression. -/
theorem not_mem_declarations_of_not_isRead (unread : ¬ IsRead read escapes script source) :
    (source, key) ∉ declarations read escapes script := by
  intro listed
  obtain ⟨query, sourced, isCte, _⟩ := mem_declarations_iff.mp listed
  obtain ⟨lineage, isContribution, collected, member, same⟩ := exists_contribution sourced
  obtain ⟨statement, contributes, known⟩ := exists_statement isContribution
  rw [known, Bool.not_eq_true] at unread
  have notCte := not_isCte_of_isNone contributes unread collected member
  rw [(sameKind_of_unmarked_eq same).isCte, notCte] at isCte
  cases isCte

end Script

end SqlLineage.Lineage
