/-
Module: SqlLineage.Proofs.Lineage.QueryId
Purpose: The ids that are made up for the queries of a script. An id shows which statement the query is
  of, whether it is the statement's own one, declared in it or nested in it, and under which name or
  number; and it is its own lower-case form.
Main exports: QueryId, QueryId.text_inj, QueryId.lowercase_text
-/
import SqlLineage.Proofs.Text.Lowercase

namespace SqlLineage.Lineage

/-- What the id of a query tells of it: the index of its statement, and for a query inside that the
case-folded name that it is declared under or its number among the nested ones. -/
inductive QueryId where
  | statement (index : Nat)
  | declared (index : Nat) (key : String)
  | nested (index number : Nat)
deriving Repr, DecidableEq

namespace QueryId

/-- The id as it is written. -/
def text : QueryId → String
  | statement index => "stmt_" ++ toString index
  | declared index key => "cte_" ++ toString index ++ "_" ++ key
  | nested index number => "sub_" ++ toString index ++ "_" ++ toString number

/-- The index of the statement that the query is of. -/
def source : QueryId → Nat
  | statement index => index
  | declared index _ => index
  | nested index _ => index

/-! ### Reading an id -/

/-- What stands before the first underscore. -/
def label : QueryId → String
  | statement _ => "stmt"
  | declared _ _ => "cte"
  | nested _ _ => "sub"

/-- What stands behind the first underscore. -/
def tail : QueryId → String
  | statement index => toString index
  | declared index key => toString index ++ "_" ++ key
  | nested index number => toString index ++ "_" ++ toString number

theorem text_eq (id : QueryId) : id.text = id.label ++ "_" ++ id.tail := by
  cases id with
  | statement index => rfl
  | declared index key =>
      simp only [text, label, tail, ← String.append_assoc]
      rfl
  | nested index number =>
      simp only [text, label, tail, ← String.append_assoc]
      rfl

theorem mem_text (id : QueryId) : '_' ∈ id.text.toList := by
  rw [text_eq, String.toList_append, String.toList_append]
  exact List.mem_append_left _ (List.mem_append_right _ List.mem_cons_self)

theorem not_mem_label (id : QueryId) : '_' ∉ id.label.toList := by
  cases id with
  | statement _ => exact (by decide : '_' ∉ "stmt".toList)
  | declared _ _ => exact (by decide : '_' ∉ "cte".toList)
  | nested _ _ => exact (by decide : '_' ∉ "sub".toList)

theorem not_mem_toString (n : Nat) : '_' ∉ (toString n : String).toList := by
  intro listed
  exact absurd (Text.isDigit_of_mem_toString listed) (by decide)

/-- An index and what stands behind it can be told apart. -/
theorem indexed_inj {index other : Nat} {rest behind : String} :
    toString index ++ "_" ++ rest = toString other ++ "_" ++ behind ↔ index = other ∧ rest = behind := by
  rw [← Text.toString_inj (n := index)]
  exact Text.append_mark_inj (not_mem_toString index) (not_mem_toString other)

/-- Different ids are written differently. -/
theorem text_inj {id other : QueryId} : id.text = other.text ↔ id = other := by
  constructor
  · intro same
    rw [text_eq, text_eq] at same
    obtain ⟨sameLabel, sameTail⟩ :=
      (Text.append_mark_inj (not_mem_label id) (not_mem_label other)).mp same
    cases id with
    | statement index =>
        cases other with
        | statement _ => rw [Text.toString_inj.mp sameTail]
        | declared _ _ => simp [label] at sameLabel
        | nested _ _ => simp [label] at sameLabel
    | declared index key =>
        cases other with
        | statement _ => simp [label] at sameLabel
        | declared _ _ =>
            obtain ⟨rfl, rfl⟩ := indexed_inj.mp sameTail
            rfl
        | nested _ _ => simp [label] at sameLabel
    | nested index number =>
        cases other with
        | statement _ => simp [label] at sameLabel
        | declared _ _ => simp [label] at sameLabel
        | nested _ _ =>
            obtain ⟨rfl, sameNumber⟩ := indexed_inj.mp sameTail
            rw [Text.toString_inj.mp sameNumber]
  · intro same
    rw [same]

theorem isEmpty_text (id : QueryId) : id.text.isEmpty = false := by
  rw [text_eq]
  simp

/-! ### Lower-case forms -/

/-- Whether the name in an id, if there is one, is in lower case. -/
def IsFolded : QueryId → Prop
  | declared _ key => Text.lowercase key = key
  | _ => True

/-- An id is its own lower-case form if the name in it is. -/
theorem lowercase_text {id : QueryId} (folded : id.IsFolded) : Text.lowercase id.text = id.text := by
  have numbered : ∀ {prelude : String}, Text.IsLowerText prelude → ∀ n : Nat,
      Text.IsLowerText (prelude ++ toString n) :=
    fun isLower n => isLower.append (Text.isLowerText_toString n)
  have underscore : Text.IsLowerText "_" := .of_ascii (by decide)
  apply Text.IsLowerText.lowercase_eq
  cases id with
  | statement index =>
      have label : Text.IsLowerText "stmt_" := .of_ascii (by decide)
      exact numbered label index
  | declared index key =>
      have label : Text.IsLowerText "cte_" := .of_ascii (by decide)
      have isLower : Text.IsLowerText key := by
        rw [← show Text.lowercase key = key from folded]
        exact Text.isLowerText_lowercase key
      exact ((numbered label index).append underscore).append isLower
  | nested index number =>
      have label : Text.IsLowerText "sub_" := .of_ascii (by decide)
      exact numbered ((numbered label index).append underscore) number

end QueryId

end SqlLineage.Lineage
