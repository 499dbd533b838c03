/-
Module: SqlLineage.Proofs.Json.Variants
Purpose: Documents that stand for the same value although they give less or more than what is written: a
  field with its default value may be left out, and members of unknown names are passed over.
Main exports: Variant, Member, StandsFor, RecordVariant, Restores, StandsFor.defaulted
-/
import Mathlib.Data.List.Forall2
import Mathlib.Data.List.Nodup
import SqlLineage.Json.Record

namespace SqlLineage.Json

/-- Which documents may stand for a written one. -/
abbrev Variant := Json → Json → Prop

/-- A field of a record as it is written. -/
structure Member where
  name : String
  /-- The document of the value that is taken if the field is not given. -/
  fallback : Json
  /-- What may stand for the value of the field; without more only the written value. -/
  variant : Variant := Eq

/-- Whether these members may stand for the written ones of a record: each field that is given is given once
and stands for the written value, and what is left out has the value that is then taken. Of members with
other names nothing is asked. -/
structure StandsFor (schema : List Member) (written members : List (String × Json)) : Prop where
  once : ((members.map Prod.fst).filter (schema.map Member.name).contains).Nodup
  given : ∀ member ∈ schema, ∀ value, (member.name, value) ∈ members →
    ∃ original, written.lookup member.name = some original ∧ member.variant original value
  missing : ∀ member ∈ schema, member.name ∉ members.map Prod.fst →
    ∀ original, written.lookup member.name = some original → original = member.fallback

/-- Objects whose members may stand for those of a written one. -/
inductive RecordVariant (schema : List Member) : Variant where
  | intro {written members : List (String × Json)} (stands : StandsFor schema written members) :
    RecordVariant schema (.obj written) (.obj members)

/-- Arrays with an item for each written one, which may stand for it. -/
inductive ListVariant (item : Variant) : Variant where
  | intro {written items : List Json} (stand : List.Forall₂ item written items) :
    ListVariant item (.arr written) (.arr items)

/-- Null for null, and what may stand for a value. -/
inductive OptionVariant (value : Variant) : Variant where
  | null : OptionVariant value .null .null
  | some {written document : Json} (stands : value written document) : OptionVariant value written document

/-- Whether whatever may stand for a value that is written is read as this value. -/
structure Restores {α : Type} (read : Json → Option α) (write : α → Json) (variant : Variant) : Prop where
  keeps : ∀ value, variant (write value) (write value)
  reads : ∀ value document, variant (write value) document → read document = some value

namespace Restores

variable {α : Type} {read : Json → Option α} {write : α → Json} {variant : Variant}

theorem read_write (restores : Restores read write variant) (value : α) : read (write value) = some value :=
  restores.reads value _ (restores.keeps value)

/-- What is written tells the value. -/
theorem injective (restores : Restores read write variant) {value other : α}
    (same : write value = write other) : value = other := by
  have both := restores.read_write value
  rw [same, restores.read_write other] at both
  exact (Option.some.inj both).symm

/-- Without variants it is enough that what is written is read. -/
theorem of_eq (readWrite : ∀ value, read (write value) = some value) : Restores read write Eq where
  keeps _ := rfl
  reads value _ same := same ▸ readWrite value

theorem mapM_read (restores : Restores read write variant) (values : List α) {items : List Json}
    (stand : List.Forall₂ variant (values.map write) items) : items.mapM read = some values := by
  induction values generalizing items with
  | nil =>
      obtain rfl := List.forall₂_nil_left_iff.mp stand
      rfl
  | cons value rest ih =>
      obtain ⟨item, others, stands, behind, rfl⟩ := List.forall₂_cons_left_iff.mp stand
      rw [List.mapM_cons, restores.reads value item stands, ih behind]
      rfl

theorem list (restores : Restores read write variant) :
    Restores (asList read) (fun values => .arr (values.map write)) (ListVariant variant) where
  keeps values := .intro (List.forall₂_map_left_iff.mpr (List.forall₂_map_right_iff.mpr
    (List.forall₂_same.mpr fun value _ => restores.keeps value)))
  reads values document stands := by
    obtain ⟨stand⟩ := stands
    exact restores.mapM_read values stand

/-- A value that is written as null is none. -/
theorem option (restores : Restores read write variant) (notNull : read .null = none)
    (unlikeNull : ∀ document, ¬ variant .null document) :
    Restores (asOption read) (fun value => (value.map write).getD .null) (OptionVariant variant) where
  keeps
    | none => .null
    | some value => .some (restores.keeps value)
  reads
    | none, _, .null => rfl
    | none, document, .some stands => absurd stands (unlikeNull document)
    | some value, document, stands => by
        have given : variant (write value) document := by
          rw [Option.map_some, Option.getD_some] at stands
          generalize isWritten : write value = written at stands
          cases stands with
          | null =>
              have readNull := restores.read_write value
              rw [isWritten, notNull] at readNull
              cases readNull
          | some stands => exact stands
        have isRead := restores.reads value document given
        have isGiven : asOption read document = (read document).map some := by
          cases document with
          | null => rw [notNull] at isRead; cases isRead
          | _ => rfl
        rw [isGiven, isRead]
        rfl

end Restores

theorem restores_text : Restores asString .str Eq := .of_eq asString_str

theorem restores_flag : Restores asBool .bool Eq := .of_eq asBool_bool

theorem restores_texts : Restores (asList asString) strings Eq :=
  .of_eq fun items => restores_text.list.read_write items

theorem restores_optionalText : Restores (asOption asString) optional Eq := by
  apply Restores.of_eq
  intro value
  cases value with
  | none => rfl
  | some s => rfl

/-! ### Fields of records -/

/-- An object gives exactly its members of known names. -/
theorem fieldsOfMembers_eq_some {names : List String} {members : List (String × Json)}
    (once : ((members.map Prod.fst).filter names.contains).Nodup) :
    fieldsOfMembers names members = some (members.filter fun member => names.contains member.1) := by
  induction members with
  | nil => rfl
  | cons member rest ih =>
      obtain ⟨name, value⟩ := member
      rw [List.map_cons, List.filter_cons] at once
      rw [fieldsOfMembers, List.filter_cons]
      by_cases known : names.contains name
      · rw [if_pos known, List.nodup_cons] at once
        have fresh : ((rest.filter fun member => names.contains member.1).any (·.1 == name)) = false := by
          rw [List.any_eq_false]
          intro other listed same
          obtain ⟨isMember, isKnown⟩ := List.mem_filter.mp listed
          rw [beq_iff_eq] at same
          exact once.1 (List.mem_filter.mpr ⟨List.mem_map.mpr ⟨other, isMember, same⟩, known⟩)
        simp only [ih once.2, Option.bind_eq_bind, Option.bind_some, known, fresh, if_true]
        rfl
      · rw [if_neg known] at once
        simp only [ih once, Option.bind_eq_bind, Option.bind_some, known]
        rfl

theorem lookup_filter_of_mem {names : List String} {name : String} (known : name ∈ names)
    (members : List (String × Json)) :
    (members.filter fun member => names.contains member.1).lookup name = members.lookup name := by
  induction members with
  | nil => rfl
  | cons member rest ih =>
      rw [List.filter_cons, List.lookup_cons]
      by_cases here : name = member.1
      · rw [if_pos (List.contains_iff_mem.mpr (here ▸ known)), List.lookup_cons, ih]
      · have other : (name == member.1) = false := beq_eq_false_iff_ne.mpr here
        split
        · rw [List.lookup_cons, other, ih]
        · rw [other, ih]

theorem lookup_eq_some_of_mem {members : List (String × Json)} (distinct : (members.map Prod.fst).Nodup)
    {name : String} {value : Json} (listed : (name, value) ∈ members) : members.lookup name = some value := by
  induction members with
  | nil => cases listed
  | cons member rest ih =>
      rw [List.map_cons, List.nodup_cons] at distinct
      rcases List.mem_cons.mp listed with rfl | later
      · exact List.lookup_cons_self
      · have other : (name == member.1) = false :=
          beq_eq_false_iff_ne.mpr fun same => distinct.1 (same ▸ List.mem_map_of_mem later)
        rw [List.lookup_cons, other]
        exact ih distinct.2 later

/-- The fields of a record that some members give. -/
def given (schema : List Member) (members : List (String × Json)) : Fields :=
  members.filter fun member => (schema.map Member.name).contains member.1

namespace StandsFor

variable {schema : List Member} {written members : List (String × Json)}

/-- Written members stand for themselves. -/
theorem refl (distinct : (written.map Prod.fst).Nodup)
    (keeps : ∀ member ∈ schema, ∀ value, written.lookup member.name = some value →
      member.variant value value) :
    StandsFor schema written written where
  once := distinct.filter _
  given member isMember value listed :=
    have found := lookup_eq_some_of_mem distinct listed
    ⟨value, found, keeps member isMember value found⟩
  missing member _ absent original found := by
    obtain ⟨before, behind, split, _⟩ := List.lookup_eq_some_iff.mp found
    exact absurd (List.mem_map.mpr ⟨(member.name, original), by simp [split], rfl⟩) absent

variable (stands : StandsFor schema written members)

include stands

/-- The fields that the members give. -/
theorem record_eq : record (schema.map Member.name) (.obj members) = some (Json.given schema members) :=
  fieldsOfMembers_eq_some stands.once

/-- A field with a default is read as the value that is written, or that is written by leaving it out. -/
theorem defaulted_eq {α : Type} {read : Json → Option α} {write : α → Json} {fallback value : α}
    {member : Member} (isMember : member ∈ schema) (restores : Restores read write member.variant)
    (isFallback : member.fallback = write fallback)
    (isWritten : written.lookup member.name = some (write value) ∨
      written.lookup member.name = none ∧ value = fallback) :
    defaulted read fallback member.name (Json.given schema members) = some value := by
  rw [defaulted, Json.given, lookup_filter_of_mem (List.mem_map_of_mem isMember)]
  cases found : members.lookup member.name with
  | none =>
      have absent : member.name ∉ members.map Prod.fst := by
        intro listed
        obtain ⟨other, isOther, same⟩ := List.mem_map.mp listed
        have unlike := List.lookup_eq_none_iff.mp found other isOther
        simp [same] at unlike
      rcases isWritten with here | ⟨_, rfl⟩
      · have same := stands.missing member isMember absent _ here
        rw [isFallback] at same
        exact congrArg some (restores.injective same).symm
      · rfl
  | some given =>
      obtain ⟨before, behind, split, _⟩ := List.lookup_eq_some_iff.mp found
      obtain ⟨original, here, isVariant⟩ := stands.given member isMember given (by simp [split])
      rcases isWritten with same | ⟨none, _⟩
      · rw [here] at same
        obtain rfl := Option.some.inj same
        exact restores.reads value given isVariant
      · rw [here] at none
        cases none

end StandsFor

/-! ### Record types -/

/-- A field of a record type with the way in which documents hold it. -/
structure RecordField (ρ : Type) where
  name : String
  Value : Type
  get : ρ → Value
  /-- The value that is taken if the field is not given. -/
  default : Value
  read : Json → Option Value
  write : Value → Json
  variant : Variant
  restores : Restores read write variant
  /-- Which values are written by leaving the field out. -/
  isOmitted : Value → Bool
  omitted : ∀ value, isOmitted value = true → value = default

namespace RecordField

section

variable {ρ α : Type} {read : Json → Option α} {write : α → Json} {variant : Variant}

/-- A field that is always written. -/
def of (name : String) (get : ρ → α) (default : α) (restores : Restores read write variant) : RecordField ρ :=
  { name, Value := α, get, default, read, write, variant, restores, isOmitted := fun _ => false,
    omitted := fun _ never => nomatch never }

abbrev text (name : String) (get : ρ → String) : RecordField ρ := of name get "" restores_text

abbrev flag (name : String) (get : ρ → Bool) : RecordField ρ := of name get false restores_flag

abbrev texts (name : String) (get : ρ → List String) : RecordField ρ := of name get [] restores_texts

abbrev list (name : String) (get : ρ → List α) (restores : Restores read write variant) : RecordField ρ :=
  of name get [] restores.list

/-- A text that is written as null if there is none. -/
abbrev nullableText (name : String) (get : ρ → Option String) : RecordField ρ :=
  of name get none restores_optionalText

/-- A field that is left out if there is no value. -/
def option {write : Option α → Json} (name : String) (get : ρ → Option α)
    (restores : Restores (asOption read) write variant) : RecordField ρ :=
  { name, Value := Option α, get, default := none, read := asOption read, write, variant, restores,
    isOmitted := Option.isNone, omitted := fun _ => Option.isNone_iff_eq_none.mp }

end

variable {ρ : Type}

def member (field : RecordField ρ) : Member :=
  { name := field.name, fallback := field.write field.default, variant := field.variant }

/-- What is written of a field. -/
def written (record : ρ) (field : RecordField ρ) : List (String × Json) :=
  if field.isOmitted (field.get record) then [] else [(field.name, field.write (field.get record))]

theorem sublist_written (record : ρ) (fields : List (RecordField ρ)) :
    ((fields.flatMap (written record)).map Prod.fst).Sublist (fields.map name) := by
  induction fields with
  | nil => exact List.Sublist.slnil
  | cons field rest ih =>
      rw [List.flatMap_cons, List.map_append, List.map_cons, written]
      split
      · exact ih.cons _
      · exact ih.cons_cons _

/-- A field of its own name is found with its value, or is left out for its default. -/
theorem lookup_written {record : ρ} {fields : List (RecordField ρ)} (distinct : (fields.map name).Nodup) :
    ∀ field ∈ fields,
      (fields.flatMap (written record)).lookup field.name = some (field.write (field.get record)) ∨
        (fields.flatMap (written record)).lookup field.name = none ∧ field.get record = field.default := by
  induction fields with
  | nil => exact List.forall_mem_nil _
  | cons first rest ih =>
      rw [List.map_cons, List.nodup_cons] at distinct
      intro field isField
      rw [List.flatMap_cons, List.lookup_append]
      rcases List.mem_cons.mp isField with rfl | later
      · rw [written]
        split
        · next isOmitted =>
            refine .inr ⟨List.lookup_eq_none_iff.mpr fun other listed => ?_, field.omitted _ isOmitted⟩
            have known := (sublist_written record rest).subset (List.mem_map_of_mem listed)
            exact bne_iff_ne.mpr fun same => distinct.1 (same ▸ known)
        · exact .inl (by rw [List.lookup_cons_self, Option.some_or])
      · have other : (field.name == first.name) = false :=
          beq_eq_false_iff_ne.mpr fun same => distinct.1 (same ▸ List.mem_map_of_mem later)
        have passed : (written record first).lookup field.name = none := by
          rw [written]
          split
          · rfl
          · rw [List.lookup_cons, other]; rfl
        rw [passed, Option.none_or]
        exact ih distinct.2 field later

/-- Whether this field of a record is read from the given ones. -/
def IsRead (record : ρ) (given : Fields) (field : RecordField ρ) : Prop :=
  defaulted field.read field.default field.name given = some (field.get record)

/-- A record that is written field by field is restored if it is read from its fields. -/
theorem restores_record {fields : List (RecordField ρ)} {ofJson? : Json → Option ρ} {toJson : ρ → Json}
    {ofFields? : Fields → Option ρ} (distinct : (fields.map name).Nodup)
    (writes : ∀ record, toJson record = .obj (fields.flatMap (written record)))
    (opens : ∀ document, ofJson? document =
      (Json.record ((fields.map member).map Member.name) document).bind ofFields?)
    (reads : ∀ record given, (∀ field ∈ fields, field.IsRead record given) →
      ofFields? given = some record) :
    Restores ofJson? toJson (RecordVariant (fields.map member)) where
  keeps record := by
    rw [writes]
    refine .intro (.refl ((sublist_written record fields).nodup distinct) ?_)
    intro member isMember value found
    obtain ⟨field, isField, rfl⟩ := List.mem_map.mp isMember
    rcases lookup_written distinct field isField with here | ⟨none, _⟩
    · obtain rfl := Option.some.inj (here.symm.trans found)
      exact field.restores.keeps _
    · cases none.symm.trans found
  reads record document stands := by
    rw [writes] at stands
    obtain ⟨stands⟩ := stands
    rw [opens, stands.record_eq, Option.bind_some]
    apply reads
    intro field isField
    exact stands.defaulted_eq (List.mem_map_of_mem isField) field.restores rfl
      (lookup_written distinct field isField)

section

variable {α : Type} {read : Json → Option α} {write : α → Json} {variant : Variant} {name : String}
  {record : ρ} {given : Fields}

@[simp] theorem member_of {get : ρ → α} {default : α} {restores : Restores read write variant} :
    (of name get default restores).member = { name, fallback := write default, variant } := rfl

@[simp] theorem member_option {write : Option α → Json} {get : ρ → Option α}
    {restores : Restores (asOption read) write variant} :
    (option name get restores).member = { name, fallback := write none, variant } := rfl

@[simp] theorem isRead_of {get : ρ → α} {default : α} {restores : Restores read write variant} :
    (of name get default restores).IsRead record given ↔
      defaulted read default name given = some (get record) := Iff.rfl

@[simp] theorem isRead_option {write : Option α → Json} {get : ρ → Option α}
    {restores : Restores (asOption read) write variant} : (option name get restores).IsRead record given ↔
      defaulted (asOption read) none name given = some (get record) := Iff.rfl

end

end RecordField

end SqlLineage.Json
