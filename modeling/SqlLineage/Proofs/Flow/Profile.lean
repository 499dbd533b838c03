/-
Module: SqlLineage.Proofs.Flow.Profile
Purpose: The relations of a script have a profile exactly if some query lists them, the profile shows what
  they are, and the built-in rules give a role that only relations have.
Main exports: Described, mem_keys_profileTables_iff, described_of_mem_profileTables, Classifier.Lawful,
  Classifier.lawful_ofOptions, Relations.role_cte, Relations.role_subquery, Relations.isRelational_role
-/
import Mathlib.Data.List.Basic
import SqlLineage.Flow.Layout

namespace SqlLineage.Flow

open Lineage (Query TableReference JoinClause ParsedScript)

/-! ### The relations with a profile -/

namespace Profiles

theorem contains_iff {profiles : Profiles} {key : RelationKey} :
    profiles.contains key = true ↔ key ∈ profiles.map (·.1) := by
  simp [contains, List.mem_map]

theorem mem_keys_insertNew_iff {profiles : Profiles} {key other : RelationKey}
    {profile : TableProfile} :
    key ∈ (profiles.insertNew other profile).map (·.1) ↔ key ∈ profiles.map (·.1) ∨ key = other := by
  unfold insertNew
  split
  · next present =>
      constructor
      · exact Or.inl
      · intro known
        rcases known with old | rfl
        · exact old
        · exact contains_iff.mp present
  · rw [List.map_append, List.mem_append, List.map_singleton, List.mem_singleton]

/-- Every relation that is found among others has an entry of its own. -/
theorem exists_lookup_of_mem_keys {V : Type} {entries : List (RelationKey × V)} {key : RelationKey}
    (listed : key ∈ entries.map (·.1)) :
    ∃ value, (key, value) ∈ entries ∧ entries.lookup key = some value := by
  have found : (entries.lookup key).isSome = true := by
    rw [List.lookup_isSome_iff]
    obtain ⟨entry, member, rfl⟩ := List.mem_map.mp listed
    exact ⟨entry, member, beq_self_eq_true entry.1⟩
  obtain ⟨value, isValue⟩ := Option.isSome_iff_exists.mp found
  refine ⟨value, ?_, isValue⟩
  obtain ⟨before, after, split, _⟩ := List.lookup_eq_some_iff.mp isValue
  rw [split]
  exact List.mem_append_right _ List.mem_cons_self

end Profiles

section Script

variable {script : ParsedScript} {scopes : CteScopes}

/-- The step that takes in one reference. -/
def noteRead (profiles : Profiles) (entry : RelationKey × TableReference) : Profiles :=
  profiles.insertNew entry.1
    { name := entry.2.name, label := entry.2.name, isCte := entry.1.isCte }

theorem readRelations_eq : readRelations script scopes = (references script scopes).foldl noteRead [] :=
  rfl

theorem mem_keys_readRelations_iff {key : RelationKey} :
    key ∈ (readRelations script scopes).map (·.1) ↔ ∃ entry ∈ references script scopes, entry.1 = key := by
  have fold : ∀ (entries : List (RelationKey × TableReference)) (profiles : Profiles),
      key ∈ (entries.foldl noteRead profiles).map (·.1) ↔
        key ∈ profiles.map (·.1) ∨ ∃ entry ∈ entries, entry.1 = key := by
    intro entries
    induction entries with
    | nil => simp
    | cons first rest ih =>
        intro profiles
        rw [List.foldl_cons, ih, noteRead, Profiles.mem_keys_insertNew_iff, List.exists_mem_cons_iff,
          or_assoc, eq_comm (a := key)]
  rw [readRelations_eq, fold, List.map_nil]
  exact or_iff_right List.not_mem_nil

theorem keys_countJoin (profiles : Profiles) (left right : RelationKey) (join : JoinClause) :
    (countJoin profiles left right join).map (·.1) = profiles.map (·.1) := by
  unfold countJoin
  split
  · rfl
  · rw [Profiles.keys_modify, Profiles.keys_modify]

/-- The step that takes in one join. -/
def noteJoin (profiles : Profiles) (entry : RelationKey × RelationKey × JoinClause) : Profiles :=
  countJoin profiles entry.1 entry.2.1 entry.2.2

theorem profileTables_eq :
    profileTables script scopes = (joinsOf script scopes).foldl noteJoin
      ((readRelations script scopes).map fun entry =>
        (entry.1, describeOrigin script entry.1 entry.2)) := rfl

theorem keys_profileTables :
    (profileTables script scopes).map (·.1) = (readRelations script scopes).map (·.1) := by
  rw [profileTables_eq]
  refine List.foldlRecOn (motive := fun profiles : Profiles =>
    profiles.map (·.1) = (readRelations script scopes).map (·.1)) (joinsOf script scopes) noteJoin ?_ ?_
  · rw [List.map_map]
    rfl
  · intro profiles same join _
    rw [noteJoin, keys_countJoin, same]

/-- The relations with a profile are those that some query lists. -/
theorem mem_keys_profileTables_iff {key : RelationKey} :
    key ∈ (profileTables script scopes).map (·.1) ↔
      ∃ index query, script.queries[index]? = some query ∧
        ∃ table ∈ query.tables, scopes.keyFor index table = key := by
  rw [keys_profileTables, mem_keys_readRelations_iff]
  simp only [references, List.mem_flatMap, List.mem_map, Prod.exists, List.mk_mem_zipIdx_iff_getElem?]
  constructor
  · intro known
    rcases known with ⟨_, _, ⟨query, index, located, table, listed, same⟩, rfl⟩
    obtain ⟨rfl, rfl⟩ := Prod.mk.inj same
    exact ⟨index, query, located, table, listed, rfl⟩
  · intro known
    rcases known with ⟨index, query, located, table, listed, rfl⟩
    exact ⟨_, _, ⟨query, index, located, table, listed, rfl⟩, rfl⟩

/-! ### What a profile shows -/

variable (script) in
/-- A profile shows whether the relation is a common table expression, a subquery of the script, or
written by the script. -/
structure Described (key : RelationKey) (profile : TableProfile) : Prop where
  isCte : profile.isCte = key.isCte
  isDerived : ∀ name, key = .table name → profile.isDerived = (subqueryOf? script name).isSome
  isWritten : ∀ name, key = .table name → profile.isWritten = isWritten script name

theorem described_describeOrigin {key : RelationKey} {profile : TableProfile}
    (marked : profile.isCte = key.isCte) (fresh : profile.isDerived = false) :
    Described script key (describeOrigin script key profile) := by
  cases key with
  | cte name =>
      refine ⟨marked, ?_, ?_⟩
      · intro _ given
        cases given
      · intro _ given
        cases given
  | table name =>
      cases found : subqueryOf? script name with
      | some query =>
          have shape : describeOrigin script (.table name) profile =
              { profile with
                isWritten := isWritten script name, isDerived := true, label := query.name } := by
            simp only [describeOrigin, found]
          rw [shape]
          refine ⟨marked, ?_, ?_⟩
          · intro _ given
            cases given
            rw [found]
            rfl
          · intro _ given
            cases given
            rfl
      | none =>
          have shape : describeOrigin script (.table name) profile =
              { profile with isWritten := isWritten script name } := by
            simp only [describeOrigin, found]
          rw [shape]
          refine ⟨marked, ?_, ?_⟩
          · intro _ given
            cases given
            rw [found]
            exact fresh
          · intro _ given
            cases given
            rfl

theorem described_addPartner {key partner : RelationKey} {profile : TableProfile}
    (described : Described script key profile) : Described script key (profile.addPartner partner) := by
  unfold TableProfile.addPartner
  split
  · exact described
  · exact ⟨described.isCte, described.isDerived, described.isWritten⟩

theorem described_modify {profiles : Profiles} {key : RelationKey}
    {change : TableProfile → TableProfile}
    (described : ∀ entry ∈ profiles, Described script entry.1 entry.2)
    (preserves : ∀ profile, Described script key profile → Described script key (change profile)) :
    ∀ entry ∈ profiles.modify key change, Described script entry.1 entry.2 := by
  intro entry listed
  obtain ⟨old, member, rfl⟩ := List.mem_map.mp listed
  have oldDescribed := described old member
  split
  · next same =>
      rw [same] at oldDescribed ⊢
      exact preserves old.2 oldDescribed
  · exact oldDescribed

theorem described_countJoin {profiles : Profiles} {left right : RelationKey} {join : JoinClause}
    (described : ∀ entry ∈ profiles, Described script entry.1 entry.2) :
    ∀ entry ∈ countJoin profiles left right join, Described script entry.1 entry.2 := by
  unfold countJoin
  split
  · exact described
  · refine described_modify (described_modify described ?_) ?_
    · intro profile isDescribed
      exact described_addPartner ⟨isDescribed.isCte, isDescribed.isDerived, isDescribed.isWritten⟩
    · intro profile isDescribed
      exact described_addPartner ⟨isDescribed.isCte, isDescribed.isDerived, isDescribed.isWritten⟩

theorem marked_of_mem_readRelations :
    ∀ entry ∈ readRelations script scopes,
      entry.2.isCte = entry.1.isCte ∧ entry.2.isDerived = false := by
  rw [readRelations_eq]
  refine List.foldlRecOn (motive := fun profiles : Profiles => ∀ entry ∈ profiles,
    entry.2.isCte = entry.1.isCte ∧ entry.2.isDerived = false) (references script scopes) noteRead ?_ ?_
  · intro entry listed
    cases listed
  · intro profiles marked reference _ entry listed
    unfold noteRead Profiles.insertNew at listed
    split at listed
    · exact marked entry listed
    · rcases List.mem_append.mp listed with old | new
      · exact marked entry old
      · rw [List.mem_singleton.mp new]
        exact ⟨rfl, rfl⟩

theorem described_of_mem_profileTables :
    ∀ entry ∈ profileTables script scopes, Described script entry.1 entry.2 := by
  rw [profileTables_eq]
  refine List.foldlRecOn (motive := fun profiles : Profiles => ∀ entry ∈ profiles,
    Described script entry.1 entry.2) (joinsOf script scopes) noteJoin ?_ ?_
  · intro entry listed
    obtain ⟨old, member, rfl⟩ := List.mem_map.mp listed
    have marked := marked_of_mem_readRelations old member
    exact described_describeOrigin marked.1 marked.2
  · intro profiles described join _
    exact described_countJoin described

end Script

/-! ### Roles -/

/-- The roles that a node for a relation may have. -/
def NodeRole.isRelational : NodeRole → Bool
  | sourceTable | factTable | dimensionTable | cte | tempTable => true
  | join | output => false

namespace Classifier

variable {options : ClassificationOptions} {profile : TableProfile}

theorem classify_derived (plain : profile.isCte = false) (isDerived : profile.isDerived = true) :
    (ofOptions options).classify profile = .tempTable := by
  simp [classify, ofOptions, RoleRule.ofTest, plain, isDerived]

/-- Each built-in rule gives relational roles alone. -/
theorem isRelational_of_mem_rules {rule : RoleRule} {role : NodeRole}
    (listed : rule ∈ (ofOptions options).rules) (claims : rule.role? profile = some role) :
    role.isRelational = true := by
  have ofTest : ∀ {name test} {result : NodeRole}, result.isRelational = true →
      (RoleRule.ofTest name result test).role? profile = some role → role.isRelational = true := by
    intro name test result relational claimed
    simp only [RoleRule.ofTest, Option.ite_none_right_eq_some, Option.some.injEq] at claimed
    exact claimed.2 ▸ relational
  simp only [ofOptions, List.mem_cons, List.not_mem_nil, or_false] at listed
  rcases listed with rfl | rfl | rfl | rfl | rfl | rfl | rfl
  · exact ofTest rfl claims
  · exact ofTest rfl claims
  · exact ofTest rfl claims
  · exact ofTest rfl claims
  · exact ofTest rfl claims
  · exact ofTest rfl claims
  · simp only [RoleRule.fanOut] at claims
    split at claims
    · cases claims
      rfl
    · split at claims
      · cases claims
        rfl
      · cases claims

theorem isRelational_classify (options : ClassificationOptions) (profile : TableProfile) :
    ((ofOptions options).classify profile).isRelational = true := by
  unfold classify
  cases found : (ofOptions options).rules.findSome? (·.role? profile) with
  | none => rfl
  | some role =>
      obtain ⟨rule, listed, claims⟩ := List.exists_of_findSome?_eq_some found
      exact isRelational_of_mem_rules listed claims

/-- What the graph of a script relies on: roles of relations alone, and fixed ones for what the script
declares itself. -/
structure Lawful (classifier : Classifier) : Prop where
  relational : ∀ profile, (classifier.classify profile).isRelational = true
  cte : ∀ profile, profile.isCte = true → classifier.classify profile = .cte
  derived : ∀ profile, profile.isCte = false → profile.isDerived = true →
    classifier.classify profile = .tempTable

theorem lawful_ofOptions (options : ClassificationOptions) : (ofOptions options).Lawful where
  relational := isRelational_classify options
  cte _ isCte := classify_cte options isCte
  derived _ plain isDerived := classify_derived plain isDerived

end Classifier

namespace Relations

variable {classifier : Classifier} {script : ParsedScript} {key : RelationKey}

/-- What a query lists has a profile. -/
theorem mem_keys_of_mem_tables {index : Nat} {query : Query}
    (located : script.queries[index]? = some query) {table : TableReference}
    (listed : table ∈ query.tables) : (ofScript classifier script).scopes.keyFor index table ∈
      (ofScript classifier script).profiles.map (·.1) :=
  mem_keys_profileTables_iff.mpr ⟨index, query, located, table, listed, rfl⟩

/-- A relation that some query lists has a profile, and the rules decide its role from it. -/
theorem exists_profile (profiled : key ∈ (ofScript classifier script).profiles.map (·.1)) :
    ∃ profile, Described script key profile ∧
      (ofScript classifier script).role key = classifier.classify profile := by
  have keys : (ofScript classifier script).roles.map (·.1) =
      (ofScript classifier script).profiles.map (·.1) := by
    simp only [ofScript, List.map_map]
    rfl
  rw [← keys] at profiled
  obtain ⟨role, listed, found⟩ := Profiles.exists_lookup_of_mem_keys profiled
  obtain ⟨entry, member, same⟩ := List.mem_map.mp listed
  obtain ⟨rfl, rfl⟩ := Prod.mk.inj same
  refine ⟨entry.2, described_of_mem_profileTables entry member, ?_⟩
  rw [Relations.role, found]
  rfl

theorem role_cte (lawful : classifier.Lawful)
    (profiled : key ∈ (ofScript classifier script).profiles.map (·.1)) (isCte : key.isCte = true) :
    (ofScript classifier script).role key = .cte := by
  obtain ⟨profile, described, role⟩ := exists_profile profiled
  rw [role]
  exact lawful.cte profile (described.isCte.trans isCte)

theorem role_subquery (lawful : classifier.Lawful) {name : String}
    (profiled : .table name ∈ (ofScript classifier script).profiles.map (·.1))
    (isSubquery : (subqueryOf? script name).isSome = true) :
    (ofScript classifier script).role (.table name) = .tempTable := by
  obtain ⟨profile, described, role⟩ := exists_profile profiled
  rw [role]
  exact lawful.derived profile described.isCte ((described.isDerived name rfl).trans isSubquery)

theorem isRelational_role (lawful : classifier.Lawful) (script : ParsedScript) (key : RelationKey) :
    ((ofScript classifier script).role key).isRelational = true := by
  by_cases profiled : key ∈ (ofScript classifier script).profiles.map (·.1)
  · obtain ⟨profile, _, role⟩ := exists_profile profiled
    rw [role]
    exact lawful.relational profile
  · have unlisted : (ofScript classifier script).roles.lookup key = none := by
      rw [List.lookup_eq_none_iff]
      intro entry listed
      obtain ⟨old, member, rfl⟩ := List.mem_map.mp listed
      rw [bne_iff_ne]
      rintro rfl
      exact profiled (List.mem_map_of_mem member)
    rw [Relations.role, unlisted]
    rfl

end Relations

end SqlLineage.Flow
