/-
Module: SqlLineage.Proofs.Flow.JoinCounts
Purpose: What a profile counts. However the joins of a script are taken in, a profile ends up with the number
  of joins that its relation drives, the number of those that look it up by a key, and the relations it is
  joined with.
Main exports: Counted, countJoin_eq_map, Noted, noted_of_mem_profileTables, Profiles.Mutual,
  mutual_profileTables
-/
import Mathlib.Data.List.Nodup
import SqlLineage.Proofs.Flow.Profile

namespace SqlLineage.Flow

open Lineage (Query TableReference JoinClause ParsedScript)

/-- A join with the relations that its sides denote. -/
abbrev KeyedEntry := RelationKey × RelationKey × JoinClause

variable {key partner left right : RelationKey} {profile : TableProfile} {profiles : Profiles}
  {entries : List KeyedEntry} {entry : KeyedEntry}

/-! ### One join -/

/-- Whether a relation is the left side of a join with another relation. -/
def drives (key : RelationKey) (entry : KeyedEntry) : Bool := entry.1 = key && entry.2.1 ≠ key

/-- Whether a relation is the right side of a join with another relation on a key. -/
def isLookedUpBy (key : RelationKey) (entry : KeyedEntry) : Bool :=
  entry.2.1 = key && entry.1 ≠ key && isKeyedJoin entry.2.2

/-- Whether a join has these two relations, which are different ones, for its sides. -/
def Joins (key partner : RelationKey) (entry : KeyedEntry) : Prop :=
  key ≠ partner ∧ (entry.1 = key ∧ entry.2.1 = partner ∨ entry.1 = partner ∧ entry.2.1 = key)

theorem Joins.symm (joins : Joins key partner entry) : Joins partner key entry :=
  ⟨joins.1.symm, joins.2.symm⟩

namespace TableProfile

/-- Counts a join that the relation drives. -/
def drive (right : RelationKey) (profile : TableProfile) : TableProfile :=
  { profile with primaryJoins := profile.primaryJoins + 1 }.addPartner right

/-- Counts a join that looks the relation up, if it does so by a key. -/
def lookUp (left : RelationKey) (join : JoinClause) (profile : TableProfile) : TableProfile :=
  { profile with
    keyedJoins := profile.keyedJoins + if isKeyedJoin join then 1 else 0 }.addPartner left

/-- Counts a join, whose sides denote these relations, for a relation. -/
def count (key left right : RelationKey) (join : JoinClause) (profile : TableProfile) : TableProfile :=
  if left = right then profile
  else if key = left then profile.drive right
  else if key = right then profile.lookUp left join
  else profile

theorem mem_partners_addPartner {added : RelationKey} :
    partner ∈ (profile.addPartner added).partners ↔ partner ∈ profile.partners ∨ partner = added := by
  unfold addPartner
  split_ifs with present
  · have listed := List.contains_iff_mem.mp present
    exact ⟨.inl, fun known => known.elim id fun same => same ▸ listed⟩
  · rw [List.mem_append, List.mem_singleton]

theorem nodup_partners_addPartner (nodup : profile.partners.Nodup) (added : RelationKey) :
    (profile.addPartner added).partners.Nodup := by
  unfold addPartner
  split_ifs with present
  · exact nodup
  · rw [List.contains_iff_mem] at present
    exact List.concat_eq_append ▸ nodup.concat present

@[simp] theorem name_addPartner (profile : TableProfile) (added : RelationKey) :
    (profile.addPartner added).name = profile.name := by
  unfold addPartner
  split <;> rfl

@[simp] theorem primaryJoins_addPartner (profile : TableProfile) (added : RelationKey) :
    (profile.addPartner added).primaryJoins = profile.primaryJoins := by
  unfold addPartner
  split <;> rfl

@[simp] theorem keyedJoins_addPartner (profile : TableProfile) (added : RelationKey) :
    (profile.addPartner added).keyedJoins = profile.keyedJoins := by
  unfold addPartner
  split <;> rfl

@[simp] theorem name_count (key left right : RelationKey) (join : JoinClause) (profile : TableProfile) :
    (profile.count key left right join).name = profile.name := by
  unfold count drive lookUp
  split
  · rfl
  · split
    · exact name_addPartner _ _
    · split
      · exact name_addPartner _ _
      · rfl

end TableProfile

/-- A join is counted profile by profile. -/
theorem countJoin_eq_map (profiles : Profiles) (left right : RelationKey) (join : JoinClause) :
    countJoin profiles left right join =
      profiles.map fun entry => (entry.1, entry.2.count entry.1 left right join) := by
  by_cases same : left = right
  · simp [countJoin, TableProfile.count, same]
  · rw [countJoin, if_neg same]
    simp only [Profiles.modify, List.map_map]
    apply List.map_congr_left
    intro entry _
    rw [TableProfile.count, if_neg same, Function.comp_apply]
    by_cases isLeft : entry.1 = left
    · have other : ¬ entry.1 = right := fun isRight => same (isLeft.symm.trans isRight)
      rw [if_pos isLeft, if_neg other, if_pos isLeft]
      rfl
    · rw [if_neg isLeft, if_neg isLeft]
      split <;> rfl

/-! ### All joins -/

/-- Whether a profile of this relation counts exactly these joins. -/
structure Counted (entries : List KeyedEntry) (key : RelationKey) (profile : TableProfile) : Prop where
  primaryJoins : profile.primaryJoins = entries.countP (drives key)
  keyedJoins : profile.keyedJoins = entries.countP (isLookedUpBy key)
  nodup : profile.partners.Nodup
  partners : ∀ {partner}, partner ∈ profile.partners ↔ ∃ entry ∈ entries, Joins key partner entry

namespace Counted

/-- A profile without counts counts no joins. -/
theorem of_fresh (noPrimary : profile.primaryJoins = 0) (noKeyed : profile.keyedJoins = 0)
    (noPartner : profile.partners = []) : Counted [] key profile where
  primaryJoins := noPrimary
  keyedJoins := noKeyed
  nodup := noPartner ▸ List.nodup_nil
  partners := by simp [noPartner]

/-- One more join is counted by what it adds. -/
theorem concat {later : TableProfile} (counted : Counted entries key profile)
    (primary : later.primaryJoins = profile.primaryJoins + if drives key entry then 1 else 0)
    (keyed : later.keyedJoins = profile.keyedJoins + if isLookedUpBy key entry then 1 else 0)
    (nodup : later.partners.Nodup)
    (partners : ∀ {partner}, partner ∈ later.partners ↔
      partner ∈ profile.partners ∨ Joins key partner entry) :
    Counted (entries ++ [entry]) key later where
  primaryJoins := by rw [primary, counted.primaryJoins, List.countP_append, List.countP_singleton]
  keyedJoins := by rw [keyed, counted.keyedJoins, List.countP_append, List.countP_singleton]
  nodup := nodup
  partners := by
    intro partner
    rw [partners, counted.partners]
    simp only [List.mem_append, List.mem_singleton, or_and_right, exists_or, exists_eq_left]

variable (counted : Counted entries key profile) {join : JoinClause}

include counted

/-- A join that does not join the relation with another one adds nothing. -/
theorem skip (apart : ∀ partner, ¬ Joins key partner entry) : Counted (entries ++ [entry]) key profile := by
  have noDrive : ¬ drives key entry = true := by
    simp only [drives, Bool.and_eq_true, decide_eq_true_eq]
    rintro ⟨isLeft, other⟩
    exact apart _ ⟨Ne.symm other, .inl ⟨isLeft, rfl⟩⟩
  have noLookUp : ¬ isLookedUpBy key entry = true := by
    simp only [isLookedUpBy, Bool.and_eq_true, decide_eq_true_eq]
    rintro ⟨⟨isRight, other⟩, _⟩
    exact apart _ ⟨Ne.symm other, .inr ⟨rfl, isRight⟩⟩
  refine counted.concat ?_ ?_ counted.nodup ?_
  · rw [if_neg noDrive, Nat.add_zero]
  · rw [if_neg noLookUp, Nat.add_zero]
  · intro partner
    rw [or_iff_left (apart partner)]

theorem drive (other : key ≠ right) :
    Counted (entries ++ [(key, right, join)]) key (profile.drive right) := by
  refine counted.concat ?_ ?_ (TableProfile.nodup_partners_addPartner ?_ right) ?_
  · simp [TableProfile.drive, drives, other.symm]
  · simp [TableProfile.drive, isLookedUpBy]
  · exact counted.nodup
  · intro partner
    rw [TableProfile.drive, TableProfile.mem_partners_addPartner]
    refine or_congr_right ⟨?_, ?_⟩
    · rintro rfl
      exact ⟨other, .inl ⟨rfl, rfl⟩⟩
    · rintro ⟨differ, ⟨_, isPartner⟩ | ⟨isPartner, _⟩⟩
      · exact isPartner.symm
      · exact absurd isPartner differ

theorem lookUp (other : key ≠ left) :
    Counted (entries ++ [(left, key, join)]) key (profile.lookUp left join) := by
  refine counted.concat ?_ ?_ (TableProfile.nodup_partners_addPartner ?_ left) ?_
  · simp [TableProfile.lookUp, drives]
  · simp [TableProfile.lookUp, isLookedUpBy, other.symm]
  · exact counted.nodup
  · intro partner
    rw [TableProfile.lookUp, TableProfile.mem_partners_addPartner]
    refine or_congr_right ⟨?_, ?_⟩
    · rintro rfl
      exact ⟨other, .inr ⟨rfl, rfl⟩⟩
    · rintro ⟨differ, ⟨_, isPartner⟩ | ⟨isPartner, _⟩⟩
      · exact absurd isPartner differ
      · exact isPartner.symm

/-- One more join is counted. -/
theorem count (left right : RelationKey) (join : JoinClause) :
    Counted (entries ++ [(left, right, join)]) key (profile.count key left right join) := by
  unfold TableProfile.count
  split
  · next same =>
      apply counted.skip
      rintro partner ⟨differ, ⟨isKey, isPartner⟩ | ⟨isPartner, isKey⟩⟩
      · exact differ (isKey.symm.trans (same.trans isPartner))
      · exact differ (isKey.symm.trans (same.symm.trans isPartner))
  · next differ =>
      split
      · next isLeft =>
          subst isLeft
          exact counted.drive differ
      · next notLeft =>
          split
          · next isRight =>
              subst isRight
              exact counted.lookUp notLeft
          · next notRight =>
              apply counted.skip
              rintro partner ⟨_, ⟨isKey, _⟩ | ⟨_, isKey⟩⟩
              · exact notLeft isKey.symm
              · exact notRight isKey.symm

end Counted

/-! ### Profiles of a script -/

section Script

variable {script : ParsedScript} {scopes : CteScopes}

/-- Before the joins are taken in, a profile shows the name of a reference to its relation. -/
theorem fresh_of_mem_readRelations : ∀ read ∈ readRelations script scopes,
    ∃ table, (read.1, table) ∈ references script scopes ∧
      read.2 = { name := table.name, label := table.name, isCte := read.1.isCte } := by
  rw [readRelations_eq]
  refine List.foldlRecOn (motive := fun profiles : Profiles => ∀ read ∈ profiles,
    ∃ table, (read.1, table) ∈ references script scopes ∧
      read.2 = { name := table.name, label := table.name, isCte := read.1.isCte })
    (references script scopes) noteRead ?_ ?_
  · intro read listed
    cases listed
  · intro profiles fresh reference isReference read listed
    unfold noteRead Profiles.insertNew at listed
    split at listed
    · exact fresh read listed
    · rcases List.mem_append.mp listed with old | new
      · exact fresh read old
      · rw [List.mem_singleton.mp new]
        exact ⟨reference.2, isReference, rfl⟩

/-- Where a relation comes from changes none of the counts of its profile. -/
theorem counted_describeOrigin {profile : TableProfile} (counted : Counted entries key profile) :
    Counted entries key (describeOrigin script key profile) := by
  unfold describeOrigin
  split
  · exact counted
  · dsimp only
    split <;> exact ⟨counted.primaryJoins, counted.keyedJoins, counted.nodup, counted.partners⟩

@[simp] theorem name_describeOrigin (script : ParsedScript) (key : RelationKey) (profile : TableProfile) :
    (describeOrigin script key profile).name = profile.name := by
  unfold describeOrigin
  split
  · rfl
  · dsimp only
    split <;> rfl

/-- What a profile says of its relation once these joins are taken in: the name of a reference to it, and
what the joins come to. -/
structure Noted (script : ParsedScript) (scopes : CteScopes) (entries : List KeyedEntry)
    (key : RelationKey) (profile : TableProfile) : Prop where
  named : ∃ table, (key, table) ∈ references script scopes ∧ profile.name = table.name
  counted : Counted entries key profile

/-- Every profile of a script is named for a reference to its relation and counts the joins of the
script. -/
theorem noted_of_mem_profileTables : ∀ read ∈ profileTables script scopes,
    Noted script scopes (joinsOf script scopes) read.1 read.2 := by
  have fold : ∀ (more entries : List KeyedEntry) (profiles : Profiles),
      (∀ read ∈ profiles, Noted script scopes entries read.1 read.2) →
        ∀ read ∈ more.foldl noteJoin profiles, Noted script scopes (entries ++ more) read.1 read.2 := by
    intro more
    induction more with
    | nil => simp
    | cons entry rest ih =>
        intro entries profiles noted
        rw [List.foldl_cons, List.append_cons]
        apply ih
        intro read listed
        rw [noteJoin, countJoin_eq_map] at listed
        obtain ⟨old, member, rfl⟩ := List.mem_map.mp listed
        obtain ⟨named, counted⟩ := noted old member
        exact ⟨by simpa using named, counted.count entry.1 entry.2.1 entry.2.2⟩
  rw [profileTables_eq]
  apply fold (joinsOf script scopes) []
  intro read listed
  obtain ⟨old, member, rfl⟩ := List.mem_map.mp listed
  obtain ⟨table, isReference, fresh⟩ := fresh_of_mem_readRelations old member
  refine ⟨⟨table, isReference, by simp [fresh]⟩, counted_describeOrigin (.of_fresh ?_ ?_ ?_)⟩
  all_goals rw [fresh]

end Script

/-! ### Partners -/

/-- Whether relations are joined with one another mutually, and none with itself. -/
structure Profiles.Mutual (profiles : Profiles) : Prop where
  irreflexive : ∀ {key profile}, (key, profile) ∈ profiles → key ∉ profile.partners
  symmetric : ∀ {key other profile otherProfile}, (key, profile) ∈ profiles →
    (other, otherProfile) ∈ profiles → other ∈ profile.partners → key ∈ otherProfile.partners

theorem mutual_profileTables (script : ParsedScript) (scopes : CteScopes) :
    (profileTables script scopes).Mutual where
  irreflexive := by
    intro key profile listed isPartner
    obtain ⟨_, _, joins⟩ := (noted_of_mem_profileTables _ listed).counted.partners.mp isPartner
    exact joins.1 rfl
  symmetric := by
    intro key other profile otherProfile listed otherListed isPartner
    obtain ⟨entry, isJoin, joins⟩ := (noted_of_mem_profileTables _ listed).counted.partners.mp isPartner
    exact (noted_of_mem_profileTables _ otherListed).counted.partners.mpr ⟨entry, isJoin, joins.symm⟩

end SqlLineage.Flow
