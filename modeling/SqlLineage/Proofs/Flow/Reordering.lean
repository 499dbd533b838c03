/-
Module: SqlLineage.Proofs.Flow.Reordering
Purpose: The role of a relation does not depend on the order of a script. Where no reference is to a common
  table expression, the queries, and the relations and joins of each, can be listed in any order.
Main exports: Query.ReorderedAs, ParsedScript.ReorderedAs, TableProfile.RuledAs, Profiles.RoledAs,
  roledAs_of_reordered
-/
import SqlLineage.Proofs.Flow.JoinCounts

namespace SqlLineage.Lineage

/-- Whether a query is another one with its relations and its joins in another order. -/
structure Query.ReorderedAs (query other : Query) : Prop where
  tables : query.tables.Perm other.tables
  joins : query.joins.Perm other.joins
  rest : other = { query with tables := other.tables, joins := other.joins }

namespace ParsedScript

/-- Whether a script has the queries of another one in another order, each of them reordered. -/
def ReorderedAs (script other : ParsedScript) : Prop :=
  ∃ queries, List.Forall₂ Query.ReorderedAs script.queries queries ∧ queries.Perm other.queries

/-- Whether no reference of a script is to a common table expression. -/
structure Unflagged (script : ParsedScript) : Prop where
  tables : ∀ query ∈ script.queries, ∀ table ∈ query.tables, table.isCte = false
  joins : ∀ query ∈ script.queries, ∀ join ∈ query.joins, join.left.isCte = false ∧ join.right.isCte = false

variable {script other : ParsedScript} {β : Type}

/-- What a query has in any order, a script has in any order. -/
theorem ReorderedAs.perm_flatMap (reordered : script.ReorderedAs other) {f : Query → List β}
    (keeps : ∀ {query again : Query}, query.ReorderedAs again → (f query).Perm (f again)) :
    (script.queries.flatMap f).Perm (other.queries.flatMap f) := by
  obtain ⟨queries, pairs, perm⟩ := reordered
  refine List.Perm.trans ?_ (perm.flatMap_right f)
  generalize script.queries = own at pairs
  clear perm
  induction pairs with
  | nil => exact .refl _
  | cons same _ ih =>
      rw [List.flatMap_cons, List.flatMap_cons]
      exact (keeps same).append ih

/-- What is so of everything that the queries list is so in any order. -/
theorem ReorderedAs.forall_listed (reordered : script.ReorderedAs other) {f : Query → List β} {holds : β → Prop}
    (keeps : ∀ {query again : Query}, query.ReorderedAs again → (f query).Perm (f again))
    (all : ∀ query ∈ script.queries, ∀ item ∈ f query, holds item) :
    ∀ query ∈ other.queries, ∀ item ∈ f query, holds item := by
  intro query listed item member
  have among := (reordered.perm_flatMap keeps).mem_iff.mpr (List.mem_flatMap.mpr ⟨query, listed, member⟩)
  obtain ⟨own, ownListed, ownMember⟩ := List.mem_flatMap.mp among
  exact all own ownListed item ownMember

theorem ReorderedAs.unflagged (reordered : script.ReorderedAs other)
    (unflagged : script.Unflagged) : other.Unflagged where
  tables := reordered.forall_listed (fun same => same.tables) unflagged.tables
  joins := reordered.forall_listed (fun same => same.joins) unflagged.joins

end ParsedScript

end SqlLineage.Lineage

namespace SqlLineage.Flow

open Lineage (Query TableReference JoinClause ParsedScript)

variable {script other : ParsedScript}

/-! ### References and joins -/

/-- A list of queries with their positions says no more than the list, where the positions do not count. -/
theorem flatMap_zipIdx {α β : Type} {items : List α} {f : α × Nat → List β} {g : α → List β}
    (same : ∀ item ∈ items, ∀ index, f (item, index) = g item) :
    items.zipIdx.flatMap f = items.flatMap g := by
  have items_eq : items = items.zipIdx.map Prod.fst := (List.zipIdx_map_fst 0 items).symm
  conv_rhs => rw [items_eq, List.flatMap_map]
  apply List.flatMap_congr
  rintro ⟨item, index⟩ listed
  exact same item (List.fst_mem_of_mem_zipIdx listed) index

/-- The relation that a reference denotes if it is to no common table expression. -/
def plainKey (table : TableReference) : RelationKey := .table table.key

theorem references_of_unflagged (unflagged : script.Unflagged) (scopes : CteScopes) :
    references script scopes =
      script.queries.flatMap fun query => query.tables.map fun table => (plainKey table, table) := by
  apply flatMap_zipIdx
  intro query listed index
  apply List.map_congr_left
  intro table member
  rw [CteScopes.keyFor_of_not_isCte scopes index (unflagged.tables query listed table member)]
  rfl

theorem joinsOf_of_unflagged (unflagged : script.Unflagged) (scopes : CteScopes) :
    joinsOf script scopes = script.queries.flatMap fun query =>
      query.joins.map fun join => (plainKey join.left, plainKey join.right, join) := by
  apply flatMap_zipIdx
  intro query listed index
  apply List.map_congr_left
  intro join member
  obtain ⟨left, right⟩ := unflagged.joins query listed join member
  rw [CteScopes.keyFor_of_not_isCte scopes index left, CteScopes.keyFor_of_not_isCte scopes index right]
  rfl

/-- Scripts in another order have the same references. -/
theorem perm_references (unflagged : script.Unflagged) (otherUnflagged : other.Unflagged)
    (reordered : script.ReorderedAs other) (scopes others : CteScopes) :
    (references script scopes).Perm (references other others) := by
  rw [references_of_unflagged unflagged, references_of_unflagged otherUnflagged]
  exact reordered.perm_flatMap fun same => same.tables.map _

/-- Scripts in another order have the same joins. -/
theorem perm_joinsOf (unflagged : script.Unflagged) (otherUnflagged : other.Unflagged)
    (reordered : script.ReorderedAs other) (scopes others : CteScopes) :
    (joinsOf script scopes).Perm (joinsOf other others) := by
  rw [joinsOf_of_unflagged unflagged, joinsOf_of_unflagged otherUnflagged]
  exact reordered.perm_flatMap fun same => same.joins.map _

/-! ### What the rules see -/

/-- Whether the built-in rules cannot tell two profiles apart. -/
structure TableProfile.RuledAs (profile other : TableProfile) : Prop where
  isCte : profile.isCte = other.isCte
  isDerived : profile.isDerived = other.isDerived
  isWritten : profile.isWritten = other.isWritten
  base : profile.base = other.base
  primaryJoins : profile.primaryJoins = other.primaryJoins
  keyedJoins : profile.keyedJoins = other.keyedJoins
  partners : profile.partners.length = other.partners.length

/-- Each built-in rule gives such profiles the same role or none. -/
theorem Classifier.role?_eq_of_ruledAs {options : ClassificationOptions} {profile other : TableProfile}
    (same : profile.RuledAs other) {rule : RoleRule} (listed : rule ∈ (ofOptions options).rules) :
    rule.role? profile = rule.role? other := by
  simp only [ofOptions, List.mem_cons, List.not_mem_nil, or_false] at listed
  rcases listed with rfl | rfl | rfl | rfl | rfl | rfl | rfl
  · simp only [RoleRule.ofTest, same.isCte]
  · simp only [RoleRule.ofTest, same.isDerived]
  · simp only [RoleRule.naming, RoleRule.ofTest, same.base]
  · simp only [RoleRule.ofTest, same.isWritten]
  · simp only [RoleRule.naming, RoleRule.ofTest, same.base]
  · simp only [RoleRule.naming, RoleRule.ofTest, same.base]
  · simp only [RoleRule.fanOut, same.primaryJoins, same.keyedJoins, same.partners]

theorem Classifier.classify_eq_of_ruledAs (options : ClassificationOptions) {profile other : TableProfile}
    (same : profile.RuledAs other) :
    (ofOptions options).classify profile = (ofOptions options).classify other := by
  have congr : ∀ rules : List RoleRule, (∀ rule ∈ rules, rule.role? profile = rule.role? other) →
      rules.findSome? (·.role? profile) = rules.findSome? (·.role? other) := by
    intro rules
    induction rules with
    | nil => exact fun _ => rfl
    | cons rule rest ih =>
        intro agree
        obtain ⟨here, later⟩ := List.forall_mem_cons.mp agree
        rw [List.findSome?_cons, List.findSome?_cons, here, ih later]
  rw [classify, classify, congr _ fun rule listed => role?_eq_of_ruledAs same listed]

/-- Whether some query of a script is a subquery of this case-folded id. -/
theorem isSome_subqueryOf?_iff {name : String} : (subqueryOf? script name).isSome = true ↔
    name ∈ script.queries.flatMap fun query =>
      if query.isSubQuery then [Text.lowercase query.id] else [] := by
  rw [subqueryOf?, List.find?_isSome, List.mem_flatMap]
  refine exists_congr fun query => and_congr_right fun _ => ?_
  cases query.isSubQuery with
  | false => simp
  | true =>
      rw [Bool.true_and, beq_iff_eq, if_pos rfl, List.mem_singleton]
      exact eq_comm

theorem isWritten_iff {name : String} : isWritten script name = true ↔
    name ∈ script.queries.flatMap fun query => query.outputs.map Text.lowercase := by
  rw [isWritten, List.any_eq_true, List.mem_flatMap]
  refine exists_congr fun query => and_congr_right fun _ => ?_
  rw [List.any_eq_true, List.mem_map]
  exact exists_congr fun output => and_congr_right fun _ => beq_iff_eq

/-- The script itself makes and writes the same relations in any order. -/
theorem origins_of_reordered (reordered : script.ReorderedAs other) (name : String) :
    (subqueryOf? script name).isSome = (subqueryOf? other name).isSome ∧
      isWritten script name = isWritten other name := by
  constructor
  · rw [Bool.eq_iff_iff, isSome_subqueryOf?_iff, isSome_subqueryOf?_iff]
    refine (reordered.perm_flatMap ?_).mem_iff
    intro query again same
    rw [same.rest]
  · rw [Bool.eq_iff_iff, isWritten_iff, isWritten_iff]
    refine (reordered.perm_flatMap ?_).mem_iff
    intro query again same
    rw [same.rest]

/-- A profile is named for its relation. -/
theorem key_eq_of_noted (unflagged : script.Unflagged) {scopes : CteScopes}
    {entries : List KeyedEntry} {key : RelationKey} {profile : TableProfile}
    (noted : Noted script scopes entries key profile) : key = .table profile.key := by
  obtain ⟨table, isReference, named⟩ := noted.named
  rw [references_of_unflagged unflagged] at isReference
  simp only [List.mem_flatMap, List.mem_map, Prod.mk.injEq] at isReference
  obtain ⟨_, _, _, _, rfl, rfl⟩ := isReference
  rw [plainKey, TableProfile.key, named]
  rfl

/-- In another order a script has profiles of its relations that the built-in rules cannot tell from those
that it has. -/
theorem ruledAs_of_reordered (unflagged : script.Unflagged) (reordered : script.ReorderedAs other)
    {scopes others : CteScopes} {key : RelationKey} {profile again : TableProfile}
    (listed : (key, profile) ∈ profileTables script scopes)
    (listedAgain : (key, again) ∈ profileTables other others) : profile.RuledAs again := by
  have otherUnflagged := reordered.unflagged unflagged
  have noted := noted_of_mem_profileTables _ listed
  have notedAgain := noted_of_mem_profileTables _ listedAgain
  have described := described_of_mem_profileTables _ listed
  have describedAgain := described_of_mem_profileTables _ listedAgain
  have isTable := key_eq_of_noted unflagged noted
  have isTableAgain := key_eq_of_noted otherUnflagged notedAgain
  have joins := perm_joinsOf unflagged otherUnflagged reordered scopes others
  have origins := origins_of_reordered reordered profile.key
  refine ⟨?_, ?_, ?_, ?_, ?_, ?_, ?_⟩
  · rw [described.isCte, describedAgain.isCte]
  · rw [described.isDerived _ isTable, describedAgain.isDerived _ isTable, origins.1]
  · rw [described.isWritten _ isTable, describedAgain.isWritten _ isTable, origins.2]
  · have same : profile.key = again.key := RelationKey.table.inj (isTable.symm.trans isTableAgain)
    rw [TableProfile.base, TableProfile.base, same]
  · rw [noted.counted.primaryJoins, notedAgain.counted.primaryJoins, joins.countP_eq]
  · rw [noted.counted.keyedJoins, notedAgain.counted.keyedJoins, joins.countP_eq]
  · apply List.Perm.length_eq
    rw [List.perm_ext_iff_of_nodup noted.counted.nodup notedAgain.counted.nodup]
    intro partner
    rw [noted.counted.partners, notedAgain.counted.partners]
    exact exists_congr fun entry => and_congr_left fun _ => joins.mem_iff

/-! ### Roles -/

/-- Whether two lists of profiles are of the same relations, and the rules give each of them one role. -/
structure Profiles.RoledAs (classifier : Classifier) (profiles others : Profiles) : Prop where
  keys : ∀ key, key ∈ profiles.map (·.1) ↔ key ∈ others.map (·.1)
  roles : ∀ {key profile again}, (key, profile) ∈ profiles → (key, again) ∈ others →
    classifier.classify profile = classifier.classify again

/-- Where no reference is to a common table expression, a script has the same relations in any order, with
the same roles, and its relations are partners of one another mutually. -/
theorem roledAs_of_reordered (options : ClassificationOptions) (unflagged : script.Unflagged)
    (reordered : script.ReorderedAs other) :
    (profileTables script (.ofScript script)).RoledAs (.ofOptions options)
        (profileTables other (.ofScript other)) ∧
      (profileTables script (.ofScript script)).Mutual := by
  refine ⟨⟨?_, ?_⟩, mutual_profileTables script _⟩
  · intro key
    have references := perm_references unflagged (reordered.unflagged unflagged) reordered
      (.ofScript script) (.ofScript other)
    rw [keys_profileTables, keys_profileTables, mem_keys_readRelations_iff, mem_keys_readRelations_iff]
    exact exists_congr fun entry => and_congr_left fun _ => references.mem_iff
  · intro key profile again listed listedAgain
    exact Classifier.classify_eq_of_ruledAs options (ruledAs_of_reordered unflagged reordered listed listedAgain)

/-- A query in which orders look up customers and products by their keys. -/
def starQuery : Query :=
  { name := "final query"
    tables := [{ name := "orders" }, { name := "Customers" }, { name := "products" }]
    joins := [
      { left := { name := "orders" }, right := { name := "Customers" }, condition := some "USING (id)" },
      { left := { name := "orders" }, right := { name := "products" }, condition := some "USING (sku)" }] }

/-- The script of that query and of one that reads customers alone. -/
def starScript : ParsedScript :=
  { queries := [starQuery, { name := "c", tables := [{ name := "customers" }] }] }

/-- The script from back to front. -/
def turnedScript : ParsedScript :=
  { queries := [
      { name := "c", tables := [{ name := "customers" }] },
      { starQuery with tables := starQuery.tables.reverse, joins := starQuery.joins.reverse }] }

/-- Customers are a dimension in both, though they are first read under names in different letter case. -/
theorem roledAs_turnedScript :
    starScript.Unflagged ∧ starScript.ReorderedAs turnedScript ∧
      (profileTables starScript (.ofScript starScript)).RoledAs (.ofOptions {})
        (profileTables turnedScript (.ofScript turnedScript)) ∧
      (profileTables starScript (.ofScript starScript)).Mutual := by
  have unflagged : starScript.Unflagged := ⟨by decide, by decide⟩
  have reordered : starScript.ReorderedAs turnedScript := by
    refine ⟨turnedScript.queries.reverse, .cons ?_ (.cons ?_ .nil), List.reverse_perm _⟩
    · exact ⟨(List.reverse_perm _).symm, (List.reverse_perm _).symm, rfl⟩
    · exact ⟨.refl _, .refl _, rfl⟩
  exact ⟨unflagged, reordered, roledAs_of_reordered {} unflagged reordered⟩

end SqlLineage.Flow
