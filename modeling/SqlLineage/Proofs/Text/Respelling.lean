/-
Module: SqlLineage.Proofs.Text.Respelling
Purpose: Texts that are the same but for the letter case of some words. They are cut at the same places,
  if the mark at which they are cut cannot be taken for a part of such a word.
Main exports: Respelt, StandsApart, Respelt.strip, Respelt.pieces
-/
import SqlLineage.Proofs.Text.LetterCase

namespace SqlLineage.Text

theorem capitals_append (cs ds : List Char) : capitals (cs ++ ds) = capitals cs ++ capitals ds :=
  List.map_append

theorem capitals_capitals (cs : List Char) : capitals (capitals cs) = capitals cs := by
  simp [capitals]

/-- Whether the second text is the first one with some of these words in it in capital letters. -/
inductive Respelt (words : List String) : List Char → List Char → Prop where
  | nil : Respelt words [] []
  | char (c : Char) {text again : List Char} (behind : Respelt words text again) :
      Respelt words (c :: text) (c :: again)
  | word {word : String} {spelt text again : List Char} (listed : word ∈ words)
      (same : capitals spelt = word.toList) (behind : Respelt words text again) :
      Respelt words (spelt ++ text) (word.toList ++ again)

/-- Whether no part of a mark can be taken for one of these words or the start of one, and no such word
holds the character at which the mark starts. -/
structure StandsApart (words : List String) (mark : List Char) : Prop where
  parts : ∀ word ∈ words, ∀ part ∈ mark.tails, part ≠ [] →
    ¬ word.toList <+: capitals part ∧ ¬ capitals part <+: word.toList
  lead : ∀ word ∈ words, ∀ c ∈ mark.head?, c.toUpper ∉ word.toList

instance (words : List String) (mark : List Char) : Decidable (StandsApart words mark) :=
  decidable_of_iff
    ((words.all fun word =>
      (mark.tails.all fun part => part.isEmpty ||
        !word.toList.isPrefixOf (capitals part) && !(capitals part).isPrefixOf word.toList) &&
      mark.head?.all fun c => !word.toList.contains c.toUpper) = true)
    (by
      simp only [List.all_eq_true, Option.all_eq_true, Bool.and_eq_true, Bool.or_eq_true,
        Bool.not_eq_true', List.isEmpty_iff, ← Bool.not_eq_true, List.isPrefixOf_iff_prefix,
        List.contains_iff_mem, or_iff_not_imp_left]
      exact ⟨fun checked => ⟨fun word listed => (checked word listed).1,
          fun word listed => (checked word listed).2⟩,
        fun apart word listed => ⟨apart.parts word listed, apart.lead word listed⟩⟩)

/-- No mark starts inside of a stretch without its first character. -/
theorem piecesAfter_append {mark spelt : List Char} (nonempty : mark ≠ [])
    (free : ∀ c ∈ mark.head?, c ∉ spelt) (before text : List Char) :
    piecesAfter mark before (spelt ++ text) = piecesAfter mark (spelt.reverse ++ before) text := by
  induction spelt generalizing before with
  | nil => rfl
  | cons c rest ih =>
      obtain ⟨first, more, rfl⟩ := List.exists_cons_of_ne_nil nonempty
      have isFree := free first rfl
      have found : stripStart? (first :: more) (c :: (rest ++ text)) = none := by
        have other : first ≠ c := by
          rintro rfl
          exact isFree List.mem_cons_self
        rw [stripStart?, if_neg other]
      rw [List.cons_append, piecesAfter_of_none fun _ => found,
        ih fun d isFirst listed => free d isFirst (List.mem_cons_of_mem c listed)]
      simp

namespace StandsApart

variable {words : List String} {mark spelt : List Char} {word : String}

theorem free (apart : StandsApart words mark) (listed : word ∈ words)
    (same : capitals spelt = word.toList) : ∀ c ∈ mark.head?, c ∉ spelt := by
  intro c isFirst inside
  apply apart.lead word listed c isFirst
  rw [← same]
  exact List.mem_map_of_mem inside

theorem ne_nil (apart : StandsApart words mark) (nonempty : mark ≠ []) (listed : word ∈ words)
    (same : capitals spelt = word.toList) : spelt ≠ [] := by
  rintro rfl
  apply (apart.parts word listed mark ((List.mem_tails mark mark).mpr (List.suffix_refl mark)) nonempty).1
  rw [← same]
  exact List.nil_prefix

end StandsApart

namespace Respelt

variable {words : List String} {text again mark : List Char}

theorem refl (words : List String) (text : List Char) : Respelt words text text := by
  induction text with
  | nil => exact .nil
  | cons c rest ih => exact .char c ih

theorem append {more moreAgain : List Char} (same : Respelt words text again)
    (behind : Respelt words more moreAgain) : Respelt words (text ++ more) (again ++ moreAgain) := by
  induction same with
  | nil => exact behind
  | char c _ ih => exact .char c ih
  | word listed same _ ih =>
      rw [List.append_assoc, List.append_assoc]
      exact .word listed same ih

/-- Both texts are the same in capital letters. -/
theorem capitals_eq (same : Respelt words text again) : capitals text = capitals again := by
  induction same with
  | nil => rfl
  | char c _ ih => exact congrArg (c.toUpper :: ·) ih
  | word _ same _ ih => rw [capitals_append, capitals_append, ih, ← same, capitals_capitals]

/-- A mark stands at the head of both texts or of neither. -/
theorem strip (same : Respelt words text again)
    (parts : ∀ word ∈ words, ∀ part ∈ mark.tails, part ≠ [] →
      ¬ word.toList <+: capitals part ∧ ¬ capitals part <+: word.toList) :
    Option.Rel (Respelt words) (stripStart? mark text) (stripStart? mark again) := by
  induction same generalizing mark with
  | nil =>
      cases mark with
      | nil => exact .some .nil
      | cons => exact .none
  | @char c text again behind ih =>
      cases mark with
      | nil => exact .some (.char c behind)
      | cons first mark =>
          rw [stripStart?, stripStart?]
          split
          · apply ih
            intro word listed part isPart
            exact parts word listed part (List.mem_cons_of_mem _ isPart)
          · exact .none
  | @word word spelt text again listed same behind ih =>
      cases mark with
      | nil => exact .some (.word listed same behind)
      | cons first mark =>
          have apart := parts word listed (first :: mark) List.mem_cons_self (List.cons_ne_nil _ _)
          have none : ∀ {spelt : List Char}, capitals spelt = word.toList → ∀ behind,
              stripStart? (first :: mark) (spelt ++ behind) = Option.none := by
            intro spelt same behind
            rw [Option.eq_none_iff_forall_ne_some]
            intro rest found
            have shape := stripStart?_eq_some_iff.mp found
            rcases List.prefix_or_prefix_of_prefix ⟨behind, rfl⟩ ⟨rest, shape.symm⟩ with inner | outer
            · exact apart.1 (same ▸ inner.map Char.toUpper)
            · exact apart.2 (same ▸ outer.map Char.toUpper)
          have again := congrArg capitals same
          rw [capitals_capitals, same] at again
          rw [none same, none again.symm]
          exact .none

/-! ### Pieces -/

theorem piecesAfter (same : Respelt words text again) (nonempty : mark ≠ [])
    (apart : StandsApart words mark) {before beforeAgain : List Char}
    (sameBefore : Respelt words before.reverse beforeAgain.reverse) :
    List.Forall₂ (Respelt words) (Text.piecesAfter mark before text)
      (Text.piecesAfter mark beforeAgain again) := by
  induction bound : text.length using Nat.strong_induction_on
    generalizing text again before beforeAgain with
  | h length ih =>
      subst bound
      have head := same.strip apart.parts
      cases same with
      | nil =>
          rw [Text.piecesAfter, Text.piecesAfter]
          exact .cons sameBefore .nil
      | @char c rest restAgain behind =>
          generalize found : stripStart? mark (c :: rest) = left at head
          generalize foundToo : stripStart? mark (c :: restAgain) = right at head
          cases head with
          | @some left right onward =>
              rw [piecesAfter_of_some nonempty found, piecesAfter_of_some nonempty foundToo]
              exact .cons sameBefore (ih _ (stripStart?_length found nonempty) onward .nil rfl)
          | none =>
              rw [piecesAfter_of_none fun _ => found, piecesAfter_of_none fun _ => foundToo]
              refine ih rest.length (Nat.lt_succ_self _) behind ?_ rfl
              simpa using sameBefore.append (.char c .nil)
      | @word word spelt rest restAgain listed sameWord behind =>
          have sameAgain : capitals word.toList = word.toList := by rw [← sameWord, capitals_capitals]
          rw [piecesAfter_append nonempty (apart.free listed sameWord),
            piecesAfter_append nonempty (apart.free listed sameAgain)]
          have shorter : rest.length < (spelt ++ rest).length := by
            have proper := List.length_pos_iff.mpr (apart.ne_nil nonempty listed sameWord)
            rw [List.length_append]
            omega
          refine ih rest.length shorter behind ?_ rfl
          simpa using sameBefore.append (.word listed sameWord .nil)

/-- Both texts are cut into such pieces. -/
theorem pieces (same : Respelt words text again) (nonempty : mark ≠ [])
    (apart : StandsApart words mark) :
    List.Forall₂ (Respelt words) (Text.pieces mark text) (Text.pieces mark again) :=
  same.piecesAfter nonempty apart .nil

end Respelt

end SqlLineage.Text
