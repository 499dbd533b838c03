/-
Module: SqlLineage.Proofs.Lineage.Naming
Purpose: Which ids the queries of a script have. Statements' own queries and nested queries are numbered,
  so no two of them share an id; common table expressions are named, so they share one exactly if a
  statement declares a name twice, at whatever depth.
Main exports: Query.Bears, Walk.Names, pairwise_id_eq_iff, declarations, nodup_ids_iff
-/
import Mathlib.Data.List.Nodup
import Mathlib.Data.List.Perm.Basic
import SqlLineage.Proofs.Lineage.Sources
import SqlLineage.Proofs.Lineage.WalkSteps

namespace SqlLineage.Lineage

/-! ### Queries with their ids -/

/-- Whether an id is made of a name. -/
def QueryId.isDeclared : QueryId → Bool
  | declared _ _ => true
  | _ => false

/-- Whether a query of the statement with this index has this id, which fits what the query is. -/
inductive Query.Bears (index : Nat) (query : Query) : QueryId → Prop where
  | statement (id : query.id = (QueryId.statement index).text) (isCte : query.isCte = false)
      (isSubQuery : query.isSubQuery = false) : Bears index query (.statement index)
  | declared (id : query.id = (QueryId.declared index (Text.lowercase query.name)).text)
      (isCte : query.isCte = true) (isSubQuery : query.isSubQuery = false) :
      Bears index query (.declared index (Text.lowercase query.name))
  | nested {number : Nat} (id : query.id = (QueryId.nested index number).text)
      (isCte : query.isCte = false) (isSubQuery : query.isSubQuery = true) :
      Bears index query (.nested index number)

namespace Query.Bears

variable {index : Nat} {query later : Query} {id : QueryId}

theorem text (bears : query.Bears index id) : query.id = id.text := by
  cases bears with
  | statement isText _ _ => exact isText
  | declared isText _ _ => exact isText
  | nested isText _ _ => exact isText

theorem source (bears : query.Bears index id) : id.source = index := by
  cases bears with
  | statement => rfl
  | declared => rfl
  | nested => rfl

/-- The id of a query is its own lower-case form. -/
theorem lowercase_id (bears : query.Bears index id) : Text.lowercase query.id = query.id := by
  rw [bears.text]
  apply QueryId.lowercase_text
  cases bears with
  | statement => trivial
  | declared => exact Text.lowercase_lowercase query.name
  | nested => trivial

/-- An id tells whether the query is a common table expression. -/
theorem isDeclared (bears : query.Bears index id) : id.isDeclared = query.isCte := by
  cases bears with
  | statement _ isCte _ => exact isCte.symm
  | declared _ isCte _ => exact isCte.symm
  | nested _ isCte _ => exact isCte.symm

theorem not_isCte (bears : query.Bears index (.statement index)) : query.isCte = false :=
  bears.isDeclared.symm

theorem not_isCte_of_isSubQuery (bears : query.Bears index id) (isSubQuery : query.isSubQuery = true) :
    query.isCte = false := by
  cases bears with
  | statement _ notCte _ => exact notCte
  | declared _ _ notNested =>
      rw [notNested] at isSubQuery
      cases isSubQuery
  | nested _ notCte _ => exact notCte

/-- The id of a nested query is made of its number. -/
theorem exists_nested (bears : query.Bears index id) (isSubQuery : query.isSubQuery = true) :
    ∃ number, query.id = (QueryId.nested index number).text := by
  cases bears with
  | statement _ _ notNested =>
      rw [notNested] at isSubQuery
      cases isSubQuery
  | declared _ _ notNested =>
      rw [notNested] at isSubQuery
      cases isSubQuery
  | nested isText _ _ => exact ⟨_, isText⟩

/-- Only the id of a common table expression is made of a name. -/
theorem eq_declared (bears : query.Bears index id) (isCte : query.isCte = true) :
    id = .declared index (Text.lowercase query.name) := by
  cases bears with
  | statement _ notCte _ =>
      rw [notCte] at isCte
      cases isCte
  | declared => rfl
  | nested _ notCte _ =>
      rw [notCte] at isCte
      cases isCte

/-- A query keeps its id while it is filled. -/
theorem filled (bears : query.Bears index id) (sameKind : query.SameKind later) :
    later.Bears index id := by
  cases bears with
  | statement isText isCte isSubQuery =>
      exact .statement (sameKind.id.trans isText) (sameKind.isCte.trans isCte)
        (sameKind.isSubQuery.trans isSubQuery)
  | declared isText isCte isSubQuery =>
      rw [← sameKind.name]
      apply Bears.declared
      · rw [sameKind.id, sameKind.name, isText]
      · exact sameKind.isCte.trans isCte
      · exact sameKind.isSubQuery.trans isSubQuery
  | nested isText isCte isSubQuery =>
      exact .nested (sameKind.id.trans isText) (sameKind.isCte.trans isCte)
        (sameKind.isSubQuery.trans isSubQuery)

end Query.Bears

theorem bears_emptyDefinition (index : Nat) (name : String) :
    (emptyDefinition index name).Bears index (.declared index (Text.lowercase name)) :=
  .declared rfl rfl rfl

theorem bears_emptyNested (index number : Nat) (aliasName : Option String) :
    (emptyNested index number aliasName).Bears index (.nested index number) :=
  .nested rfl rfl rfl

/-- The ids of the queries that are not made of names. -/
def numberedIds (queries : List Query) : List String :=
  (queries.filter fun query => !query.isCte).map Query.id

theorem numberedIds_append (queries others : List Query) :
    numberedIds (queries ++ others) = numberedIds queries ++ numberedIds others := by
  rw [numberedIds, List.filter_append, List.map_append]
  rfl

theorem numberedIds_singleton {query : Query} (notCte : query.isCte = false) :
    numberedIds [query] = [query.id] := by
  rw [numberedIds, List.filter_cons_of_pos (by rw [notCte]; rfl)]
  rfl

theorem numberedIds_singleton_of_isCte {query : Query} (isCte : query.isCte = true) :
    numberedIds [query] = [] := by
  rw [numberedIds, List.filter_cons_of_neg (by rw [isCte]; exact Bool.false_ne_true)]
  rfl

/-! ### A walk numbers the nested queries -/

namespace Walk

/-- How a walk names the queries that it completes: common table expressions by their names, and nested
queries by the numbers that follow on. -/
structure Names (index : Nat) (walk later : Walk) : Prop where
  query : walk.query.SameKind later.query
  counted : walk.nestedCount ≤ later.nestedCount
  adds : ∃ inner, later.queries = walk.queries ++ inner ∧
    (∀ query ∈ inner, ∃ id, query.Bears index id) ∧
    (numberedIds inner).Perm
      ((List.range' walk.nestedCount (later.nestedCount - walk.nestedCount)).map fun number =>
        (QueryId.nested index number).text)

namespace Names

variable {index : Nat} {walk later last : Walk}

/-- A walk that completes no query names none. -/
theorem of_eq (sameKind : walk.query.SameKind later.query) (queries : later.queries = walk.queries)
    (nestedCount : later.nestedCount = walk.nestedCount) : walk.Names index later := by
  refine ⟨sameKind, Nat.le_of_eq nestedCount.symm, [], ?_, List.forall_mem_nil _, ?_⟩
  · rw [queries, List.append_nil]
  · rw [nestedCount, Nat.sub_self]
    exact .refl _

theorem trans (first : walk.Names index later) (second : later.Names index last) :
    walk.Names index last := by
  obtain ⟨inner, queries, bears, numbers⟩ := first.adds
  obtain ⟨others, queriesLast, bearsLast, numbersLast⟩ := second.adds
  have counted := first.counted
  have countedLast := second.counted
  refine ⟨first.query.trans second.query, Nat.le_trans counted countedLast, inner ++ others, ?_,
    List.forall_mem_append.mpr ⟨bears, bearsLast⟩, ?_⟩
  · rw [queriesLast, queries, List.append_assoc]
  · have range : List.range' walk.nestedCount (later.nestedCount - walk.nestedCount) ++
        List.range' later.nestedCount (last.nestedCount - later.nestedCount) =
        List.range' walk.nestedCount (last.nestedCount - walk.nestedCount) := by
      have start : later.nestedCount =
          walk.nestedCount + (later.nestedCount - walk.nestedCount) := by omega
      have total : last.nestedCount - walk.nestedCount =
          later.nestedCount - walk.nestedCount + (last.nestedCount - later.nestedCount) := by omega
      rw [total, ← List.range'_append_1, ← start]
    rw [numberedIds_append, ← range, List.map_append]
    exact numbers.append numbersLast

variable {fill : Walk → Walk} (fills : ∀ walk : Walk, walk.Names index (fill walk))

include fills

/-- A nested query takes the next number, before those that are nested in it. -/
theorem nested (aliasName : Option String) (walk : Walk) :
    walk.Names index (walk.nested index aliasName fill) := by
  let start : Walk := { walk with
    nestedCount := walk.nestedCount + 1, query := emptyNested index walk.nestedCount aliasName }
  have filled := fills start
  obtain ⟨inner, queries, bears, numbers⟩ := filled.adds
  have isNested : (fill start).query.Bears index (.nested index walk.nestedCount) :=
    (bears_emptyNested index walk.nestedCount aliasName).filled filled.query
  have counted : walk.nestedCount + 1 ≤ (fill start).nestedCount := filled.counted
  have listed : walk.query.SameKind (walk.nested index aliasName fill).query :=
    (Query.SameKind.addDependency _ walk.query).trans (.addTable _ _)
  refine ⟨listed, Nat.le_of_succ_le counted, inner ++ [(fill start).query], ?_, ?_, ?_⟩
  · show (fill start).queries ++ [(fill start).query] = _
    rw [queries, List.append_assoc]
  · exact List.forall_mem_append.mpr ⟨bears, List.forall_mem_singleton.mpr ⟨_, isNested⟩⟩
  · have range : List.range' walk.nestedCount ((fill start).nestedCount - walk.nestedCount) =
        walk.nestedCount ::
          List.range' start.nestedCount ((fill start).nestedCount - start.nestedCount) := by
      have total : (fill start).nestedCount - walk.nestedCount =
          (fill start).nestedCount - (walk.nestedCount + 1) + 1 := by omega
      rw [total, List.range'_succ]
    rw [numberedIds_append, numberedIds_singleton filled.query.isCte, isNested.text]
    exact (List.perm_append_singleton _ _).trans (range ▸ numbers.cons _)

theorem declared (name : String) (walk : Walk) :
    walk.Names index (walk.declared index name fill) := by
  let start : Walk := { walk with query := emptyDefinition index name }
  have filled := fills start
  obtain ⟨inner, queries, bears, numbers⟩ := filled.adds
  have isDeclared : (fill start).query.Bears index (.declared index (Text.lowercase name)) :=
    (bears_emptyDefinition index name).filled filled.query
  have counted : walk.nestedCount ≤ (fill start).nestedCount := filled.counted
  refine ⟨.refl walk.query, counted, inner ++ [(fill start).query], ?_, ?_, ?_⟩
  · show (fill start).queries ++ [(fill start).query] = _
    rw [queries, List.append_assoc]
  · exact List.forall_mem_append.mpr ⟨bears, List.forall_mem_singleton.mpr ⟨_, isDeclared⟩⟩
  · rw [numberedIds_append, numberedIds_singleton_of_isCte filled.query.isCte, List.append_nil]
    exact numbers

end Names

/-- Each step of a walk names the queries that it completes. -/
theorem names_steps (index : Nat) : Walk.Steps index fun _ _ walk _ later => walk.Names index later where
  notes noted := .of_eq noted.query noted.queries noted.nestedCount
  append := .trans
  table _ _ _ walk := .of_eq (.addTable _ walk.query) rfl rfl
  nested fills := .nested fills
  declared fills _ _ _ behind := (Names.declared fills _ _).trans behind
  body names := names

end Walk

/-! ### The queries of a statement -/

/-- Whether each query of the statement with this index has an id that fits it, and those that are not
made of names are distinct. -/
structure StatementLineage.IsNamed (index : Nat) (lineage : StatementLineage) : Prop where
  bears : ∀ query ∈ lineage.queries, ∃ id, query.Bears index id
  distinct : (numberedIds lineage.queries).Nodup

theorem bears_rootQuery (index : Nat) (kind : Script.StatementKind) :
    (rootQuery index kind).Bears index (.statement index) := by
  unfold rootQuery
  split
  · exact .statement rfl rfl rfl
  · exact .statement rfl rfl rfl

theorem isNamed_collectStatement {index : Nat} {root : Query} (tree : Sql.Query)
    (bears : root.Bears index (.statement index)) :
    (collectStatement index tree root).IsNamed index := by
  have names := (Walk.names_steps index).onQuery isScope_nil tree { query := root }
  obtain ⟨inner, queries, bearsInner, numbers⟩ := names.adds
  have own := bears.filled names.query
  have collected : (collectStatement index tree root).queries =
      inner ++ [(walkQuery index [] tree { query := root }).query] := by
    rw [queries_collectStatement, queries]
    rfl
  constructor
  · rw [collected]
    exact List.forall_mem_append.mpr ⟨bearsInner, List.forall_mem_singleton.mpr ⟨_, own⟩⟩
  · have numbered : (numberedIds inner).Nodup := by
      apply numbers.symm.nodup
      apply List.Nodup.map _ List.nodup_range'
      intro number other same
      exact (QueryId.nested.inj (QueryId.text_inj.mp same)).2
    have isNested : (QueryId.statement index).text ∉ numberedIds inner := by
      intro listed
      obtain ⟨_, _, same⟩ := List.mem_map.mp (numbers.mem_iff.mp listed)
      exact absurd (QueryId.text_inj.mp same) QueryId.noConfusion
    rw [collected, numberedIds_append, numberedIds_singleton own.not_isCte, own.text]
    exact (List.perm_append_singleton _ _).symm.nodup (List.nodup_cons.mpr ⟨isNested, numbered⟩)

theorem sameKind_foldl_addTable (tables : List TableReference) (query : Query) :
    query.SameKind (tables.foldl (fun query table => query.addTable table) query) := by
  induction tables generalizing query with
  | nil => exact .refl query
  | cons table rest ih => exact (Query.SameKind.addTable table query).trans (ih _)

theorem isNamed_of_statementLineage? {read : String → Option Sql.Query} {statement : Script.Statement}
    {lineage : StatementLineage} (contributes : statementLineage? read statement = some lineage) :
    lineage.IsNamed statement.index := by
  cases contributes_of_statementLineage? contributes with
  | @collected kind tree _ => exact isNamed_collectStatement tree (bears_rootQuery statement.index kind)
  | @scanned kind _ =>
      have scanned := sameKind_foldl_addTable statement.relations.tables (rootQuery statement.index kind)
      have own : (applyScan statement.relations (rootQuery statement.index kind)).Bears statement.index
          (.statement statement.index) :=
        (bears_rootQuery statement.index kind).filled
          ⟨scanned.id, scanned.name, scanned.isCte, scanned.isSubQuery⟩
      constructor
      · exact List.forall_mem_singleton.mpr ⟨_, own⟩
      · rw [numberedIds_singleton own.not_isCte]
        exact List.nodup_singleton _

/-! ### The queries of a script -/

section Script

variable {read : String → Option Sql.Query} {escapes : Script.QuoteEscapes} {script : String}

theorem sameKind_of_unmarked_eq {query later : Query} (same : query.unmarked = later.unmarked) :
    query.SameKind later where
  id := (congrArg Query.id same).symm
  name := (congrArg Query.name same).symm
  isCte := (congrArg Query.isCte same).symm
  isSubQuery := (congrArg Query.isSubQuery same).symm

theorem tables_eq_of_unmarked_eq {query later : Query} (same : query.unmarked = later.unmarked) :
    query.tables = later.tables := by
  have tables := congrArg Query.tables same
  exact tables

theorem isNamed_of_mem_contributions :
    ∀ contribution ∈ contributions read escapes script, contribution.2.IsNamed contribution.1 := by
  intro contribution member
  obtain ⟨statement, _, contributes⟩ := List.mem_filterMap.mp member
  obtain ⟨lineage, isLineage, rfl⟩ := Option.map_eq_some_iff.mp contributes
  exact isNamed_of_statementLineage? isLineage

/-- Each query of a script has an id that fits it. -/
theorem exists_bears {source : Nat} {query : Query}
    (sourced : (source, query) ∈ sourcedQueries read escapes script) : ∃ id, query.Bears source id := by
  obtain ⟨lineage, isContribution, collected, member, same⟩ := exists_contribution sourced
  obtain ⟨id, bears⟩ := (isNamed_of_mem_contributions _ isContribution).bears collected member
  exact ⟨id, bears.filled (sameKind_of_unmarked_eq same)⟩

/-- The ids of the queries of a script are in lower case. -/
theorem lowercase_id_of_mem_queries {query : Query} (member : query ∈ (parseWith read escapes script).queries) :
    Text.lowercase query.id = query.id := by
  rw [← map_snd_sourcedQueries] at member
  obtain ⟨⟨source, _⟩, sourced, rfl⟩ := List.mem_map.mp member
  obtain ⟨id, bears⟩ := exists_bears sourced
  exact bears.lowercase_id

variable (read escapes script) in
/-- Among the queries of a script no two have the same id that is not made of a name. -/
theorem nodup_numberedIds : (numberedIds (parseWith read escapes script).queries).Nodup := by
  have unmarked : ∀ queries : List Query,
      numberedIds (queries.map Query.unmarked) = numberedIds queries := by
    intro queries
    rw [numberedIds, List.filter_map, List.map_map]
    rfl
  rw [← unmarked, map_unmarked_queries, unmarked, numberedIds, List.filter_flatMap, List.map_flatMap,
    List.nodup_flatMap]
  constructor
  · intro contribution member
    exact (isNamed_of_mem_contributions contribution member).distinct
  · have nodup : ((contributions read escapes script).map Prod.fst).Nodup := nodup_contributions
    have distinct := List.pairwise_map.mp nodup
    refine distinct.imp_of_mem ?_
    intro earlier later member laterMember ne text listed laterListed
    obtain ⟨query, inBlock, rfl⟩ := List.mem_map.mp listed
    obtain ⟨other, inLater, same⟩ := List.mem_map.mp laterListed
    obtain ⟨id, bears⟩ :=
      (isNamed_of_mem_contributions earlier member).bears query (List.mem_of_mem_filter inBlock)
    obtain ⟨another, bearsOther⟩ :=
      (isNamed_of_mem_contributions later laterMember).bears other (List.mem_of_mem_filter inLater)
    rw [bears.text, bearsOther.text, QueryId.text_inj] at same
    have sameStatement : earlier.1 = later.1 := by rw [← bears.source, ← same, bearsOther.source]
    exact ne sameStatement

variable (read escapes script) in
/-- Two queries of a script have the same id, whatever its case, exactly if they are common table
expressions of the same name that one statement declares. -/
theorem pairwise_id_eq_iff : (sourcedQueries read escapes script).Pairwise fun earlier later =>
    (Text.lowercase earlier.2.id = Text.lowercase later.2.id ↔
      (earlier.2.isCte = true ∧ later.2.isCte = true) ∧ earlier.1 = later.1 ∧
        Text.lowercase earlier.2.name = Text.lowercase later.2.name) := by
  have numbered := nodup_numberedIds read escapes script
  rw [numberedIds, ← map_snd_sourcedQueries, List.nodup_iff_pairwise_ne, List.pairwise_map,
    List.pairwise_filter, List.pairwise_map] at numbered
  refine numbered.imp_of_mem ?_
  rintro ⟨source, query⟩ ⟨another, other⟩ sourced otherSourced distinct
  obtain ⟨id, bears⟩ := exists_bears sourced
  obtain ⟨otherId, otherBears⟩ := exists_bears otherSourced
  simp only [Bool.not_eq_true', ne_eq] at distinct ⊢
  rw [bears.text, otherBears.text, QueryId.text_inj] at distinct
  rw [bears.lowercase_id, otherBears.lowercase_id, bears.text, otherBears.text, QueryId.text_inj]
  constructor
  · rintro rfl
    have sameKind : other.isCte = query.isCte := otherBears.isDeclared.symm.trans bears.isDeclared
    have isCte : query.isCte = true := by
      cases known : query.isCte with
      | true => rfl
      | false => exact absurd rfl (distinct known (sameKind.trans known))
    have otherIsCte : other.isCte = true := sameKind.trans isCte
    obtain ⟨sameSource, sameName⟩ := QueryId.declared.inj
      ((bears.eq_declared isCte).symm.trans (otherBears.eq_declared otherIsCte))
    exact ⟨⟨isCte, otherIsCte⟩, sameSource, sameName⟩
  · rintro ⟨⟨isCte, otherIsCte⟩, sameSource, sameName⟩
    rw [bears.eq_declared isCte, otherBears.eq_declared otherIsCte, sameSource, sameName]

/-- A query that defines no common table expression is known by its id. -/
theorem position_eq_of_id_eq {position other source another : Nat} {query later : Query}
    (located : (sourcedQueries read escapes script)[position]? = some (source, query))
    (otherLocated : (sourcedQueries read escapes script)[other]? = some (another, later))
    (notCte : query.isCte = false) (same : query.id = later.id) : position = other := by
  have bothDeclared : ∀ {earlier later : Nat} {first second : Nat × Query}, earlier < later →
      (sourcedQueries read escapes script)[earlier]? = some first →
        (sourcedQueries read escapes script)[later]? = some second → first.2.id = second.2.id →
          first.2.isCte = true ∧ second.2.isCte = true := by
    intro earlier later first second lower firstLocated secondLocated sameId
    obtain ⟨bound, rfl⟩ := List.getElem?_eq_some_iff.mp firstLocated
    obtain ⟨laterBound, rfl⟩ := List.getElem?_eq_some_iff.mp secondLocated
    have clash := List.pairwise_iff_getElem.mp (pairwise_id_eq_iff read escapes script) earlier later
      bound laterBound lower
    exact (clash.mp (congrArg Text.lowercase sameId)).1
  rcases Nat.lt_trichotomy position other with lower | rfl | lower
  · exact absurd (bothDeclared lower located otherLocated same).1 (Bool.not_eq_true _ ▸ notCte)
  · rfl
  · exact absurd (bothDeclared lower otherLocated located same.symm).2 (Bool.not_eq_true _ ▸ notCte)

variable (read escapes script) in
/-- The common table expressions that a script declares: the statement and the case-folded name of each. -/
def declarations : List (Nat × String) :=
  ((sourcedQueries read escapes script).filter fun sourced => sourced.2.isCte).map fun sourced =>
    (sourced.1, Text.lowercase sourced.2.name)

variable (read escapes script) in
theorem nodup_lowercase_ids_iff :
    ((parseWith read escapes script).queries.map fun query => Text.lowercase query.id).Nodup ↔
      (declarations read escapes script).Nodup := by
  rw [← map_snd_sourcedQueries, List.map_map, declarations, List.nodup_iff_pairwise_ne,
    List.nodup_iff_pairwise_ne, List.pairwise_map, List.pairwise_map, List.pairwise_filter]
  have clashes := pairwise_id_eq_iff read escapes script
  constructor
  · intro distinct
    apply (clashes.and distinct).imp
    rintro earlier later ⟨clash, ne⟩ isCte laterIsCte same
    obtain ⟨source, name⟩ := Prod.mk.inj same
    exact ne (clash.mpr ⟨⟨isCte, laterIsCte⟩, source, name⟩)
  · intro distinct
    apply (clashes.and distinct).imp
    rintro earlier later ⟨clash, ne⟩ same
    obtain ⟨⟨isCte, laterIsCte⟩, source, name⟩ := clash.mp same
    exact ne isCte laterIsCte (Prod.ext source name)

end Script

/-- The ids of the queries of a script are distinct, whatever their case, exactly if no statement declares
a common table expression of the same name twice. -/
theorem nodup_ids_iff (dialect : Sql.Dialect) (script : String) :
    ((parseScript dialect script).queries.map fun query => Text.lowercase query.id).Nodup ↔
      (declarations (Sql.sourceQuery? dialect) (escapesOf dialect) script).Nodup :=
  nodup_lowercase_ids_iff (Sql.sourceQuery? dialect) (escapesOf dialect) script

/-- A query in parentheses that declares a name again gives its common table expression the id of the
other one. -/
theorem redeclared_ids_clash :
    ¬ ((parseScript .generic "WITH a AS(SELECT 1)(WITH a AS(SELECT 1)SELECT 1)").queries.map
      fun query => Text.lowercase query.id).Nodup := by
  decide +kernel

end SqlLineage.Lineage
