/-
Module: SqlLineage.Proofs.Lineage.Nesting
Purpose: The nested queries of a statement form a forest. They are numbered without a gap, and each is
  referred to once in the statement, by a query behind it.
Main exports: referredNames, Attached, Walk.Attaches, isUnnumbered, StatementLineage.IsForest, isForest
-/
import SqlLineage.Proofs.Lineage.Dependencies

namespace SqlLineage.Lineage

open Sql (Frame Mention Reading)

/-- The names that these queries refer to, each as often as it is referred to. -/
def referredNames (queries : List Query) : List String :=
  queries.flatMap fun query => query.tables.map TableReference.name

@[simp] theorem referredNames_cons (query : Query) (rest : List Query) :
    referredNames (query :: rest) = query.tables.map TableReference.name ++ referredNames rest := rfl

@[simp] theorem referredNames_append (first second : List Query) :
    referredNames (first ++ second) = referredNames first ++ referredNames second :=
  List.flatMap_append

theorem referredNames_eq_map (queries : List Query) :
    referredNames queries = (queries.flatMap Query.tables).map TableReference.name := by
  rw [List.map_flatMap]
  rfl

/-! ### Nested queries and what stands behind them -/

/-- Whether each nested query among these is referred to behind itself: by a query there, or in the end by
one of these names. -/
def Attached (names : List String) : List Query → Prop
  | [] => True
  | query :: rest =>
    (query.isSubQuery = true → query.id ∈ referredNames rest ++ names) ∧ Attached names rest

namespace Attached

variable {names more : List String} {first second : List Query} {query : Query}

theorem append_iff : Attached names (first ++ second) ↔
    Attached (referredNames second ++ names) first ∧ Attached names second := by
  induction first with
  | nil => simp [Attached]
  | cons query rest ih => simp only [List.cons_append, Attached, ih, referredNames_append,
      List.append_assoc, and_assoc]

theorem mono (attached : Attached names first) (subset : names ⊆ more) : Attached more first := by
  induction first with
  | nil => trivial
  | cons query rest ih =>
      refine ⟨fun isSubQuery => ?_, ih attached.2⟩
      rcases List.mem_append.mp (attached.1 isSubQuery) with behind | last
      · exact List.mem_append_left _ behind
      · exact List.mem_append_right _ (subset last)

/-- Behind a query that refers to them, nested queries stay attached. -/
theorem concat (attached : Attached (query.tables.map TableReference.name) first)
    (isAttached : query.isSubQuery = true → query.id ∈ names) : Attached names (first ++ [query]) := by
  rw [append_iff]
  constructor
  · apply attached.mono
    simp
  · exact ⟨isAttached, trivial⟩

end Attached

/-! ### A walk attaches the nested queries -/

namespace Walk

/-- Whether a walk refers to each nested query that it completes, behind it. -/
structure Attaches (walk later : Walk) : Prop where
  query : walk.query.SameKind later.query
  adds : ∃ inner own, later.queries = walk.queries ++ inner ∧
    later.query.tables = walk.query.tables ++ own ∧ Attached (own.map TableReference.name) inner

namespace Attaches

variable {walk later last : Walk}

theorem of_notes (noted : walk.Notes later) : walk.Attaches later := by
  refine ⟨noted.query, [], [], ?_, ?_, trivial⟩
  · rw [noted.queries, List.append_nil]
  · rw [noted.tables, List.append_nil]

theorem trans (first : walk.Attaches later) (second : later.Attaches last) : walk.Attaches last := by
  obtain ⟨inner, own, queries, tables, attached⟩ := first.adds
  obtain ⟨others, more, queriesLast, tablesLast, attachedLast⟩ := second.adds
  refine ⟨first.query.trans second.query, inner ++ others, own ++ more, ?_, ?_, ?_⟩
  · rw [queriesLast, queries, List.append_assoc]
  · rw [tablesLast, tables, List.append_assoc]
  · rw [Attached.append_iff, List.map_append]
    constructor
    · apply attached.mono
      exact List.Subset.trans (List.subset_append_left _ _) (List.subset_append_right _ _)
    · exact attachedLast.mono (List.subset_append_right _ _)

theorem addTable (table : TableReference) (walk : Walk) :
    walk.Attaches (walk.update (·.addTable table)) := by
  refine ⟨.addTable table walk.query, [], [table], ?_, ?_, trivial⟩
  · exact (List.append_nil _).symm
  · exact Query.tables_addTable table walk.query

section Fill

variable {fill : Walk → Walk} (fills : ∀ walk : Walk, walk.Attaches (fill walk))

include fills

/-- What a filled query refers to is attached in front of it. -/
theorem exists_filled (start : Walk) (unread : start.query.tables = []) :
    ∃ inner, (fill start).queries = start.queries ++ inner ∧
      Attached ((fill start).query.tables.map TableReference.name) inner := by
  obtain ⟨inner, own, queries, tables, attached⟩ := (fills start).adds
  rw [unread, List.nil_append] at tables
  exact ⟨inner, queries, tables ▸ attached⟩

/-- A nested query is complete when the query around it comes to refer to it. -/
theorem nested (index : Nat) (aliasName : Option String) (walk : Walk) :
    walk.Attaches (walk.nested index aliasName fill) := by
  let start : Walk := { walk with
    nestedCount := walk.nestedCount + 1, query := emptyNested index walk.nestedCount aliasName }
  obtain ⟨inner, queries, attached⟩ := exists_filled fills start rfl
  have listed : walk.query.SameKind (walk.nested index aliasName fill).query :=
    (Query.SameKind.addDependency _ walk.query).trans (.addTable _ _)
  let reference : TableReference := .named (emptyNested index walk.nestedCount aliasName).id aliasName false
  have sameId : (fill start).query.id = reference.name := (fills start).query.id
  refine ⟨listed, inner ++ [(fill start).query], [reference], ?_, ?_, ?_⟩
  · show (fill start).queries ++ [(fill start).query] = _
    rw [queries, List.append_assoc]
  · show (Query.addTable _ (Query.addDependency _ walk.query)).tables = _
    rw [Query.tables_addTable, Query.tables_addDependency]
    rfl
  · apply attached.concat
    intro _
    rw [sameId]
    exact List.mem_cons_self

theorem declared (index : Nat) (name : String) (walk : Walk) :
    walk.Attaches (walk.declared index name fill) := by
  let start : Walk := { walk with query := emptyDefinition index name }
  obtain ⟨inner, queries, attached⟩ := exists_filled fills start rfl
  have notNested : (fill start).query.isSubQuery = false := (fills start).query.isSubQuery
  refine ⟨.refl walk.query, inner ++ [(fill start).query], [], ?_, (List.append_nil _).symm, ?_⟩
  · show (fill start).queries ++ [(fill start).query] = _
    rw [queries, List.append_assoc]
  · apply attached.concat
    intro isSubQuery
    rw [notNested] at isSubQuery
    cases isSubQuery

end Fill

end Attaches

/-- Each step of a walk attaches the nested queries. -/
theorem attaches_steps (index : Nat) : Walk.Steps index fun _ _ walk _ later => walk.Attaches later where
  notes noted := .of_notes noted
  append := .trans
  table _ _ _ walk := .addTable _ walk
  nested fills := .nested fills index
  declared fills _ _ _ behind := (Attaches.declared fills index _ _).trans behind
  body attaches := attaches

end Walk

/-! ### The nested queries of a statement -/

/-- Whether no relation that a query mentions has the id of a nested query as its name. -/
def IsUnnumbered (tree : Sql.Query) : Prop :=
  ∀ mention ∈ (tree.reading []).mentions, ∀ name aliasName, mention.table? = some (name, aliasName) →
    ∀ index number, name ≠ (QueryId.nested index number).text

/-- Whether the nested queries of the statement with this index form a forest: they have the first numbers,
each once, and to each of them one query of the statement refers, once, which stands behind it. -/
structure StatementLineage.IsForest (index : Nat) (lineage : StatementLineage) : Prop where
  numbered : (nestedIds lineage.queries).Perm ((List.range (lineage.queries.countP Query.isSubQuery)).map
    fun number => (QueryId.nested index number).text)
  parent : ∀ before nested after, lineage.queries = before ++ nested :: after → nested.isSubQuery = true →
    ∃ between parent behind, after = between ++ parent :: behind ∧
      (parent.tables.map TableReference.name).count nested.id = 1 ∧
      nested.id ∉ referredNames (before ++ nested :: between) ∧ nested.id ∉ referredNames behind

theorem isUnnumbered_of_plain {tree : Sql.Query} (plain : ∀ mention ∈ (tree.reading []).mentions,
    ∀ table ∈ mention.table?, '_' ∉ table.1.toList) : IsUnnumbered tree := by
  intro mention listed name aliasName named index number isText
  apply plain mention listed (name, aliasName) named
  rw [isText]
  exact QueryId.mem_text _

theorem nestedIds_append (queries others : List Query) :
    nestedIds (queries ++ others) = nestedIds queries ++ nestedIds others := by
  rw [nestedIds, List.filter_append, List.map_append]
  rfl

theorem nestedIds_singleton {query : Query} (notNested : query.isSubQuery = false) :
    nestedIds [query] = [] := by
  rw [nestedIds, List.filter_cons_of_neg (by rw [notNested]; exact Bool.false_ne_true)]
  rfl

theorem length_nestedIds (queries : List Query) :
    (nestedIds queries).length = queries.countP Query.isSubQuery := by
  rw [nestedIds, List.length_map, List.countP_eq_length_filter]

/-- Inside a statement the nested queries are those whose ids are not made of names. -/
theorem numberedIds_eq_nestedIds {queries : List Query} (isInner : ∀ query ∈ queries, query.IsInner) :
    numberedIds queries = nestedIds queries := by
  rw [numberedIds, nestedIds]
  congr 1
  apply List.filter_congr
  intro query member
  rw [(isInner query member).kind, Bool.not_not]

theorem nodup_nestedTexts (index count : Nat) :
    ((List.range count).map fun number => (QueryId.nested index number).text).Nodup := by
  apply List.nodup_range.map
  intro number other same
  exact (QueryId.nested.inj (QueryId.text_inj.mp same)).2

/-- A name that is referred to behind a query, and only once at all, is so by one query there. -/
theorem exists_parent {name : String} {before after : List Query}
    (once : (referredNames (before ++ after)).count name = 1) (behind : name ∈ referredNames after) :
    ∃ between parent rest, after = between ++ parent :: rest ∧
      (parent.tables.map TableReference.name).count name = 1 ∧
      name ∉ referredNames (before ++ between) ∧ name ∉ referredNames rest := by
  obtain ⟨parent, member, refers⟩ := List.mem_flatMap.mp behind
  obtain ⟨between, rest, rfl⟩ := List.append_of_mem member
  have positive := List.count_pos_iff.mpr refers
  simp only [referredNames_append, referredNames_cons, List.count_append] at once
  refine ⟨between, parent, rest, rfl, by omega, ?_, ?_⟩
  · rw [referredNames_append, ← List.count_eq_zero, List.count_append]
    omega
  · rw [← List.count_eq_zero]
    omega

section Collected

variable (index : Nat) (tree : Sql.Query) {root : Query}

/-- The nested queries of a statement have the first numbers. -/
theorem perm_nestedIds (level : root.isSubQuery = false) :
    (nestedIds (collectStatement index tree root).queries).Perm
      ((List.range ((collectStatement index tree root).queries.countP Query.isSubQuery)).map
        fun number => (QueryId.nested index number).text) := by
  have names := (Walk.names_steps index).onQuery isScope_nil tree { query := root }
  obtain ⟨inner, queries, _, numbers⟩ := names.adds
  have isInner := (extends_walkQuery index [] tree { query := root }).queries (List.forall_mem_nil _)
  rw [queries, List.nil_append] at isInner
  have collected : (collectStatement index tree root).queries =
      inner ++ [(walkQuery index [] tree { query := root }).query] := by
    rw [queries_collectStatement, queries]
    rfl
  have nested : nestedIds (collectStatement index tree root).queries = numberedIds inner := by
    rw [collected, nestedIds_append, nestedIds_singleton (names.query.isSubQuery.trans level),
      List.append_nil, numberedIds_eq_nestedIds isInner]
  have count := numbers.length_eq
  rw [List.length_map, List.length_range', ← nested, length_nestedIds] at count
  rw [nested, count, List.range_eq_range']
  exact numbers

theorem attached_collectStatement (level : root.isSubQuery = false) :
    Attached [] (collectStatement index tree root).queries := by
  have attaches := (Walk.attaches_steps index).onQuery isScope_nil tree { query := root }
  obtain ⟨inner, own, queries, tables, attached⟩ := attaches.adds
  have collected : (collectStatement index tree root).queries =
      inner ++ [(walkQuery index [] tree { query := root }).query] := by
    rw [queries_collectStatement, queries]
    rfl
  rw [collected]
  apply Attached.concat
  · apply attached.mono
    rw [tables, List.map_append]
    exact List.subset_append_right _ _
  · intro isSubQuery
    rw [attaches.query.isSubQuery.trans level] at isSubQuery
    cases isSubQuery

/-- Where no relation has the id of a nested query as its name, each nested query is referred to once. -/
theorem count_referredNames (isUnnumbered : IsUnnumbered tree) (unread : root.tables = [])
    (level : root.isSubQuery = false) {nested : Query}
    (member : nested ∈ (collectStatement index tree root).queries) (isSubQuery : nested.isSubQuery = true) :
    (referredNames (collectStatement index tree root).queries).count nested.id = 1 := by
  have numbers := perm_nestedIds index tree level
  obtain ⟨byName, references, all, names, ids⟩ := (collectsAll index tree root).references
  have isListed : nested.id ∈ nestedIds (collectStatement index tree root).queries :=
    List.mem_map_of_mem (List.mem_filter.mpr ⟨member, isSubQuery⟩)
  have once : (nestedIds (collectStatement index tree root).queries).count nested.id = 1 :=
    List.count_eq_one_of_mem (numbers.symm.nodup (nodup_nestedTexts _ _)) isListed
  obtain ⟨number, _, isText⟩ := List.mem_map.mp (numbers.mem_iff.mp isListed)
  have notByName : nested.id ∉ byName.map TableReference.name := by
    intro named
    obtain ⟨reference, isReference, same⟩ := List.mem_map.mp named
    have mentioned := List.mem_map_of_mem (f := fun reference : TableReference =>
      (reference.name, reference.aliasName)) isReference
    rw [names] at mentioned
    obtain ⟨mention, isMention, isTable⟩ := List.mem_filterMap.mp mentioned
    exact isUnnumbered mention isMention _ _ isTable index number (same.trans isText.symm)
  have last : nestedIds (collectStatement index tree root).queries.dropLast =
      nestedIds (collectStatement index tree root).queries := by
    have kept := ((Walk.attaches_steps index).onQuery isScope_nil tree { query := root }).query
    rw [queries_collectStatement, List.dropLast_concat, nestedIds_append,
      nestedIds_singleton (kept.isSubQuery.trans level), List.append_nil]
  rw [unread, List.nil_append] at all
  rw [referredNames_eq_map, (all.map _).count_eq, List.map_append, List.count_append,
    List.count_eq_zero.mpr notByName, ids.count_eq, last, once]

end Collected

/-- What a scan finds has no nested query. -/
theorem isForest_scanned (scan : Script.RelationScan) {index : Nat} {root : Query}
    (level : root.isSubQuery = false) :
    StatementLineage.IsForest index { queries := [applyScan scan root] } := by
  have notNested : (applyScan scan root).isSubQuery = false :=
    (sameKind_foldl_addTable scan.tables root).isSubQuery.trans level
  constructor
  · rw [nestedIds_singleton notNested, List.countP_singleton, notNested]
    exact .refl _
  · intro before nested after split isSubQuery
    have member : nested ∈ before ++ nested :: after := List.mem_append_right _ List.mem_cons_self
    rw [← split] at member
    rw [List.mem_singleton.mp member, notNested] at isSubQuery
    cases isSubQuery

/-- The nested queries of a statement form a forest, unless one of its relations has such an id as its
name. -/
theorem isForest {read : String → Option Sql.Query} {statement : Script.Statement}
    {lineage : StatementLineage} (contributes : statementLineage? read statement = some lineage)
    (isUnnumbered : ∀ tree, read statement.normalized = some tree → IsUnnumbered tree) :
    lineage.IsForest statement.index := by
  have level : ∀ kind, (rootQuery statement.index kind).isSubQuery = false := by
    intro kind
    cases bears_rootQuery statement.index kind with
    | statement _ _ isSubQuery => exact isSubQuery
  cases contributes_of_statementLineage? contributes with
  | @scanned kind _ => exact isForest_scanned statement.relations (level kind)
  | @collected kind tree isTree =>
      constructor
      · exact perm_nestedIds statement.index tree (level kind)
      · intro before nested after split isSubQuery
        have attached := attached_collectStatement statement.index tree (level kind)
        rw [split, Attached.append_iff] at attached
        have behind := attached.2.1 isSubQuery
        rw [List.append_nil] at behind
        have once := count_referredNames statement.index tree (isUnnumbered tree isTree)
          (tables_rootQuery statement.index kind) (level kind)
          (split ▸ List.mem_append_right _ List.mem_cons_self) isSubQuery
        rw [split, List.append_cons] at once
        obtain ⟨between, parent, rest, rfl, refers, notEarlier, notLater⟩ := exists_parent once behind
        rw [List.append_assoc] at notEarlier
        exact ⟨between, parent, rest, rfl, refers, notEarlier, notLater⟩

/-- The numbers are given out from the outside in, and the queries are complete from the inside out. -/
theorem isForest_nested_twice :
    ∃ statement ∈ Script.Statement.split .doubled "SELECT 1 FROM a,(SELECT 1 FROM(SELECT 1 FROM b)y)x",
      ∃ lineage, statementLineage? (Sql.sourceQuery? .generic) statement = some lineage ∧
        lineage.queries.map (fun query => (query.id, query.tables.map TableReference.name)) =
          [("sub_0_1", ["b"]), ("sub_0_0", ["sub_0_1"]), ("stmt_0", ["a", "sub_0_0"])] ∧
        lineage.IsForest statement.index := by
  have read : ∃ statement ∈ Script.Statement.split .doubled
        "SELECT 1 FROM a,(SELECT 1 FROM(SELECT 1 FROM b)y)x",
      ∃ tree ∈ Sql.sourceQuery? .generic statement.normalized, statement.kind? = some .select ∧
        (collectStatement statement.index tree (rootQuery statement.index .select)).queries.map
          (fun query => (query.id, query.tables.map TableReference.name)) =
            [("sub_0_1", ["b"]), ("sub_0_0", ["sub_0_1"]), ("stmt_0", ["a", "sub_0_0"])] ∧
        ∀ mention ∈ (tree.reading []).mentions, ∀ table ∈ mention.table?, '_' ∉ table.1.toList := by
    decide +kernel
  obtain ⟨statement, member, tree, isTree, kind, queries, plain⟩ := read
  have contributes : statementLineage? (Sql.sourceQuery? .generic) statement =
      some (collectStatement statement.index tree (rootQuery statement.index .select)) := by
    rw [statementLineage?, kind, Option.mem_def.mp isTree]
    rfl
  refine ⟨statement, member, _, contributes, queries, ?_⟩
  apply isForest contributes
  intro other isOther
  rw [← Option.some.inj (isTree.symm.trans isOther)]
  exact isUnnumbered_of_plain plain

end SqlLineage.Lineage
