/-
Module: SqlLineage.Proofs.Flow.NameCapture
Purpose: When two references of a parsed script denote the same relation. Where a reference stands in its
  statement says what it is to: a nested query, a common table expression or a relation by name. Two of
  them denote one relation if they are to the same, or if a name that is written is one that is made up.
Main exports: Occurrence, Occurrence.Agrees, Occurrence.Captures, Occurrence.relation_eq_iff
-/
import SqlLineage.Proofs.Flow.CteNames
import SqlLineage.Proofs.Flow.Links
import SqlLineage.Proofs.Lineage.Mentions

namespace SqlLineage.Flow

open Lineage (Query QueryId TableReference IsRead Resolves KnownMentions parseWith sourcedQueries
  getElem?_sourcedQueries scriptMentions forall₂_mentions)

section

variable (read : String → Option Sql.Query) (escapes : Script.QuoteEscapes) (script : String)

/-- A reference of a query of a script, with the mention in the syntax tree of the statement that it stands
for. -/
structure Occurrence where
  position : Nat
  source : Nat
  query : Query
  mentions : List Sql.Mention
  mention : Sql.Mention
  table : TableReference
  located : (sourcedQueries read escapes script)[position]? = some (source, query)
  mentioned : (scriptMentions read escapes script)[position]? = some mentions
  paired : (mention, table) ∈ mentions.zip query.tables

end

namespace Occurrence

variable {read : String → Option Sql.Query} {escapes : Script.QuoteEscapes} {script : String}

/-! ### What a reference is to -/

section

variable (occurrence : Occurrence read escapes script)

/-- The relation that the reference denotes. -/
def relation : RelationKey :=
  (CteScopes.ofScript (parseWith read escapes script)).keyFor occurrence.position occurrence.table

/-- Whether the reference is to the query at this position, which is nested in the same statement. -/
def StandsFor (position : Nat) : Prop :=
  occurrence.mention.isQuery = true ∧ ∃ nested, nested.isSubQuery = true ∧
    (sourcedQueries read escapes script)[position]? = some (occurrence.source, nested) ∧
      nested.id = occurrence.table.name

theorem known :
    KnownMentions read escapes script occurrence.source occurrence.query occurrence.mentions :=
  Lineage.knownMentions_of_located occurrence.located occurrence.mentioned

/-- The grammar reads the statement of the reference. -/
theorem isRead : IsRead read escapes script occurrence.source := by
  by_contra unread
  have paired := occurrence.paired
  rw [occurrence.known.unread unread] at paired
  cases paired

theorem resolves : Resolves occurrence.mention occurrence.table :=
  List.forall₂_zip (occurrence.known.isRead occurrence.isRead).resolves occurrence.paired

theorem mem_tables : occurrence.table ∈ occurrence.query.tables :=
  (List.of_mem_zip occurrence.paired).2

/-- A nested query is never marked as a common table expression. -/
theorem not_isCte_of_isQuery (isQuery : occurrence.mention.isQuery = true) :
    occurrence.table.isCte = false := by
  have resolves := occurrence.resolves
  rw [Resolves] at resolves
  split at resolves
  · next isTable =>
      simp [Sql.Mention.isQuery, Sql.Mention.table?, isTable] at isQuery
  · exact resolves.2

theorem exists_standsFor (isQuery : occurrence.mention.isQuery = true) :
    ∃ position, occurrence.StandsFor position := by
  have named := (occurrence.known.isRead occurrence.isRead).named _ _ occurrence.paired isQuery
  obtain ⟨nested, sourced, isSubQuery, sameId⟩ := Lineage.mem_nestedIn_iff.mp named
  obtain ⟨position, located⟩ := List.mem_iff_getElem?.mp sourced
  exact ⟨position, isQuery, nested, isSubQuery, located, sameId⟩

/-! ### The relation that a reference denotes -/

/-- A common table expression is the one that the statement declares. -/
theorem relation_of_isCte (isCte : occurrence.table.isCte = true) :
    (occurrence.source, occurrence.table.key) ∈ Lineage.declarations read escapes script ∧
      occurrence.relation =
        .cte (cteName read escapes script occurrence.source occurrence.table.key) := by
  have declared := Lineage.mem_declarations_of_isRead occurrence.isRead
    (List.mem_of_getElem? occurrence.located) occurrence.mem_tables isCte
  exact ⟨declared, keyFor_eq_cteName occurrence.located isCte declared⟩

theorem relation_of_not_isCte (plain : occurrence.table.isCte = false) :
    occurrence.relation = .table occurrence.table.key :=
  CteScopes.keyFor_of_not_isCte _ _ plain

/-- The made-up name of a nested query is its own lower-case form. -/
theorem key_of_isQuery (isQuery : occurrence.mention.isQuery = true) :
    occurrence.table.key = occurrence.table.name := by
  obtain ⟨_, _, nested, _, located, sameId⟩ := occurrence.exists_standsFor isQuery
  obtain ⟨_, bears⟩ := Lineage.exists_bears (List.mem_of_getElem? located)
  rw [TableReference.key, ← sameId, bears.lowercase_id]

end

/-! ### References to one relation -/

/-- Whether two references are to the same: to one nested query, to the common table expression of one name
in one statement, or to relations of one name. -/
inductive Agrees (first second : Occurrence read escapes script) : Prop where
  | nested {position : Nat} (stands : first.StandsFor position) (standsToo : second.StandsFor position)
  | declared (isCte : first.table.isCte = true) (isCteToo : second.table.isCte = true)
      (sameSource : first.source = second.source) (sameKey : first.table.key = second.table.key)
  | table (byName : first.mention.isQuery = false) (byNameToo : second.mention.isQuery = false)
      (plain : first.table.isCte = false) (plainToo : second.table.isCte = false)
      (sameKey : first.table.key = second.table.key)

/-- Whether the name that one reference is written with is the one that is made up for what another
reference is to. -/
inductive Captures (first second : Occurrence read escapes script) : Prop where
  /-- A relation has the name that is made up for a nested query. -/
  | nested (byName : first.mention.isQuery = false) (plain : first.table.isCte = false)
      (isQuery : second.mention.isQuery = true) (taken : first.table.key = second.table.name)
  /-- A common table expression has the name that is made up for another one. -/
  | declared (isCte : first.table.isCte = true) (isCteToo : second.table.isCte = true)
      (takes : Takes read escapes script first.table.key first.source second.source second.table.key)

variable {first second : Occurrence read escapes script}

theorem Agrees.relation_eq (agrees : first.Agrees second) : first.relation = second.relation := by
  cases agrees with
  | nested stands standsToo =>
      have key := first.key_of_isQuery stands.1
      have keyToo := second.key_of_isQuery standsToo.1
      rw [first.relation_of_not_isCte (first.not_isCte_of_isQuery stands.1),
        second.relation_of_not_isCte (second.not_isCte_of_isQuery standsToo.1), key, keyToo]
      obtain ⟨_, _, _, located, sameId⟩ := stands
      obtain ⟨_, _, _, locatedToo, sameIdToo⟩ := standsToo
      obtain ⟨_, rfl⟩ := Prod.mk.inj (Option.some.inj (located.symm.trans locatedToo))
      rw [← sameId, ← sameIdToo]
  | declared isCte isCteToo sameSource sameKey =>
      rw [(first.relation_of_isCte isCte).2, (second.relation_of_isCte isCteToo).2, sameSource, sameKey]
  | table _ _ plain plainToo sameKey =>
      rw [first.relation_of_not_isCte plain, second.relation_of_not_isCte plainToo, sameKey]

theorem Captures.relation_eq (captures : first.Captures second) : first.relation = second.relation := by
  cases captures with
  | nested _ plain isQuery taken =>
      rw [first.relation_of_not_isCte plain,
        second.relation_of_not_isCte (second.not_isCte_of_isQuery isQuery), taken,
        second.key_of_isQuery isQuery]
  | declared isCte isCteToo takes =>
      rw [(first.relation_of_isCte isCte).2, (second.relation_of_isCte isCteToo).2, takes.cteName_eq]

theorem agrees_or_captures_of_isCte (isCte : first.table.isCte = true)
    (isCteToo : second.table.isCte = true) (same : first.relation = second.relation) :
    first.Agrees second ∨ first.Captures second ∨ second.Captures first := by
  obtain ⟨declared, relation⟩ := first.relation_of_isCte isCte
  obtain ⟨declaredToo, relationToo⟩ := second.relation_of_isCte isCteToo
  rw [relation, relationToo, RelationKey.cte.injEq, cteName_eq_iff declared declaredToo] at same
  rcases same with ⟨sameSource, sameKey⟩ | takes | takes
  · exact .inl (.declared isCte isCteToo sameSource sameKey)
  · exact .inr (.inl (.declared isCte isCteToo takes))
  · exact .inr (.inr (.declared isCteToo isCte takes))

/-- A nested query is known by its made-up name. -/
theorem agrees_of_isQuery (isQuery : first.mention.isQuery = true)
    (isQueryToo : second.mention.isQuery = true) (sameName : first.table.name = second.table.name) :
    first.Agrees second := by
  obtain ⟨position, stands⟩ := first.exists_standsFor isQuery
  obtain ⟨other, standsToo⟩ := second.exists_standsFor isQueryToo
  obtain ⟨_, nested, isSubQuery, located, sameId⟩ := id stands
  obtain ⟨_, _, _, locatedToo, sameIdToo⟩ := id standsToo
  obtain ⟨_, bears⟩ := Lineage.exists_bears (List.mem_of_getElem? located)
  have samePosition := Lineage.position_eq_of_id_eq located locatedToo
    (bears.not_isCte_of_isSubQuery isSubQuery) (sameId.trans (sameName.trans sameIdToo.symm))
  exact .nested stands (samePosition ▸ standsToo)

theorem agrees_or_captures_of_not_isCte (plain : first.table.isCte = false)
    (plainToo : second.table.isCte = false) (same : first.relation = second.relation) :
    first.Agrees second ∨ first.Captures second ∨ second.Captures first := by
  rw [first.relation_of_not_isCte plain, second.relation_of_not_isCte plainToo,
    RelationKey.table.injEq] at same
  -- Nested queries and relations by name share their names, so the mention alone tells them apart.
  cases isQuery : first.mention.isQuery with
  | true =>
      have key := first.key_of_isQuery isQuery
      cases isQueryToo : second.mention.isQuery with
      | true =>
          rw [key, second.key_of_isQuery isQueryToo] at same
          exact .inl (agrees_of_isQuery isQuery isQueryToo same)
      | false => exact .inr (.inr (.nested isQueryToo plainToo isQuery (same.symm.trans key)))
  | false =>
      cases isQueryToo : second.mention.isQuery with
      | true =>
          have key := second.key_of_isQuery isQueryToo
          exact .inr (.inl (.nested isQuery plain isQueryToo (same.trans key)))
      | false => exact .inl (.table isQuery isQueryToo plain plainToo same)

/-- References to one relation agree, or one of them captures the other. -/
theorem agrees_or_captures (same : first.relation = second.relation) :
    first.Agrees second ∨ first.Captures second ∨ second.Captures first := by
  have sameMark : first.table.isCte = second.table.isCte := by
    rw [← CteScopes.keyFor_isCte, ← CteScopes.keyFor_isCte]
    exact congrArg RelationKey.isCte same
  cases isCte : first.table.isCte with
  | true => exact agrees_or_captures_of_isCte isCte (sameMark.symm.trans isCte) same
  | false => exact agrees_or_captures_of_not_isCte isCte (sameMark.symm.trans isCte) same

/-- Each reference of a statement that the grammar reads stands for a mention. -/
theorem exists_occurrence {position source : Nat} {query : Query} {table : TableReference}
    (isRead : IsRead read escapes script source)
    (located : (sourcedQueries read escapes script)[position]? = some (source, query))
    (listed : table ∈ query.references) :
    ∃ occurrence : Occurrence read escapes script,
      occurrence.position = position ∧ occurrence.table = table := by
  have bound := (List.getElem?_eq_some_iff.mp located).1
  rw [(forall₂_mentions read escapes script).length_eq] at bound
  have mentioned := List.getElem?_eq_getElem bound
  have known := Lineage.knownMentions_of_located located mentioned
  have resolves := (known.isRead isRead).resolves
  have member := List.mem_of_getElem? (getElem?_sourcedQueries.mp located).2
  have isTable := (Lineage.isCollected_of_mem_queries member).joins.mem_tables listed
  obtain ⟨index, found⟩ := List.mem_iff_getElem?.mp isTable
  have within := resolves.length_eq ▸ (List.getElem?_eq_some_iff.mp found).1
  let mentions := (scriptMentions read escapes script)[position]
  have stands : (mentions.zip query.tables)[index]? = some (mentions[index], table) :=
    List.getElem?_zip_eq_some.mpr ⟨List.getElem?_eq_getElem within, found⟩
  exact ⟨⟨position, source, query, mentions, mentions[index], table, located, mentioned,
    List.mem_of_getElem? stands⟩, rfl, rfl⟩

/-- If the grammar reads all statements that contribute to a script, then every reference stands for a
mention; and two references denote one relation exactly if they are to the same, or if one is written with
the name that is made up for the other. -/
theorem relation_eq_iff
    (allRead : ∀ source ∈ Lineage.sourceStatements read escapes script, IsRead read escapes script source) :
    (∀ position source query, (sourcedQueries read escapes script)[position]? = some (source, query) →
      ∀ table ∈ query.references, ∃ occurrence : Occurrence read escapes script,
        occurrence.position = position ∧ occurrence.table = table) ∧
    ∀ first second : Occurrence read escapes script, first.relation = second.relation ↔
      first.Agrees second ∨ first.Captures second ∨ second.Captures first := by
  constructor
  · intro position source query located table listed
    have isSource := List.mem_of_getElem? (getElem?_sourcedQueries.mp located).1
    exact exists_occurrence (allRead source isSource) located listed
  · intro first second
    constructor
    · exact agrees_or_captures
    · rintro (agrees | captures | captures)
      · exact agrees.relation_eq
      · exact captures.relation_eq
      · exact captures.relation_eq.symm

/-! ### A script with a captured name -/

/-- A script whose second statement declares a common table expression under the name that is made up for
the other one there. -/
def captureScript : String :=
  "WITH a AS(SELECT 1)SELECT 1;WITH a AS(SELECT 1),cte_1_a AS(SELECT 1)SELECT 1 FROM a,cte_1_a"

/-- What the script reads last. -/
def captureQuery : Query :=
  { id := "stmt_1", name := "final query"
    tables := [{ name := "a", isCte := true }, { name := "cte_1_a", isCte := true }]
    fields := [{ expression := "1", transformation := .expression }]
    isMain := true, dependsOn := ["a", "cte_1_a"] }

/-- The queries of the script, with their statements. -/
def captureQueries : List (Nat × Query) :=
  let one (source : Nat) (id name : String) (isCte : Bool) : Nat × Query :=
    (source, { id, name, isCte, fields := [{ expression := "1", transformation := .expression }] })
  [one 0 "cte_0_a" "a" true, one 0 "stmt_0" "final query" false, one 1 "cte_1_a" "a" true,
    one 1 "cte_1_cte_1_a" "cte_1_a" true, (1, captureQuery)]

/-- What the last query mentions. -/
def captureMentions : List Sql.Mention :=
  [⟨[.body ["a", "cte_1_a"]], .table "a" none⟩, ⟨[.body ["a", "cte_1_a"]], .table "cte_1_a" none⟩]

/-- How the script is read. -/
theorem captureScript_spec :
    sourcedQueries (Sql.sourceQuery? .generic) (Lineage.escapesOf .generic) captureScript =
      captureQueries ∧
    scriptMentions (Sql.sourceQuery? .generic) (Lineage.escapesOf .generic) captureScript =
      [[], [], [], [], captureMentions] ∧
    ∀ source ∈ Lineage.sourceStatements (Sql.sourceQuery? .generic) (Lineage.escapesOf .generic)
      captureScript, IsRead (Sql.sourceQuery? .generic) (Lineage.escapesOf .generic) captureScript source := by
  decide +kernel

/-- The reference to the redeclared `a`. -/
def redeclared : Occurrence (Sql.sourceQuery? .generic) (Lineage.escapesOf .generic) captureScript where
  position := 4
  source := 1
  query := captureQuery
  mentions := captureMentions
  mention := ⟨[.body ["a", "cte_1_a"]], .table "a" none⟩
  table := { name := "a", isCte := true }
  located := congrArg (·[4]?) captureScript_spec.1
  mentioned := congrArg (·[4]?) captureScript_spec.2.1
  paired := List.mem_cons_self

/-- The reference to `cte_1_a`. -/
def written : Occurrence (Sql.sourceQuery? .generic) (Lineage.escapesOf .generic) captureScript where
  position := 4
  source := 1
  query := captureQuery
  mentions := captureMentions
  mention := ⟨[.body ["a", "cte_1_a"]], .table "cte_1_a" none⟩
  table := { name := "cte_1_a", isCte := true }
  located := congrArg (·[4]?) captureScript_spec.1
  mentioned := congrArg (·[4]?) captureScript_spec.2.1
  paired := List.mem_cons_of_mem _ List.mem_cons_self

/-- The grammar reads both statements of the script. -/
theorem relation_eq_iff_captureScript :
    (∀ source ∈ Lineage.sourceStatements (Sql.sourceQuery? .generic) (Lineage.escapesOf .generic)
      captureScript, IsRead (Sql.sourceQuery? .generic) (Lineage.escapesOf .generic) captureScript source) ∧
    (written.relation = redeclared.relation ↔
      written.Agrees redeclared ∨ written.Captures redeclared ∨ redeclared.Captures written) := by
  have allRead := captureScript_spec.2.2
  exact ⟨allRead, (relation_eq_iff allRead).2 written redeclared⟩

/-- References to two common table expressions of one statement denote the same relation. -/
theorem written_captures_redeclared :
    written.relation = redeclared.relation ∧ ¬ written.Agrees redeclared := by
  have queries : (parseWith (Sql.sourceQuery? .generic) (Lineage.escapesOf .generic) captureScript).queries =
      captureQueries.map Prod.snd := by
    rw [← Lineage.map_snd_sourcedQueries, captureScript_spec.1]
  constructor
  · rw [relation, relation, CteScopes.ofScript, queries]
    decide +kernel
  · intro agrees
    cases agrees with
    | nested stands _ => exact Bool.false_ne_true stands.1
    | declared _ _ _ sameKey => exact absurd sameKey (by decide +kernel)
    | table _ _ plain _ _ => exact Bool.false_ne_true plain.symm

end Occurrence

end SqlLineage.Flow
