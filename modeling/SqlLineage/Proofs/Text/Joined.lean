/-
Module: SqlLineage.Proofs.Text.Joined
Purpose: A text that is joined from parts is cut into these parts again, as long as no mark at which it is
  cut starts inside of a part.
Main exports: cutLast_append, Unbroken, Unbroken.append_word, pieces_joined, toList_joinWith, trimBy_padded
-/
import Mathlib.Data.List.Infix
import Mathlib.Data.List.TakeWhile
import SqlLineage.Proofs.Text.Cut
import SqlLineage.Text.Blank

namespace SqlLineage.Text

variable {mark text before tail : List Char} {c : Char}

/-! ### Single marks -/

theorem cutFirst_eq_none (free : c ∉ text) : cutFirst c text = none := by
  rw [Option.eq_none_iff_forall_ne_some]
  intro parts cut
  exact free (mem_of_cutFirst cut)

theorem cutLast_eq_none (free : c ∉ text) : cutLast c text = none := by
  rw [cutLast, cutFirst_eq_none (by rwa [List.mem_reverse]), Option.map_none]

/-- A text is cut for the last time in front of the part that is free of the mark. -/
theorem cutLast_append (before : List Char) {after : List Char} (free : c ∉ after) :
    cutLast c (before ++ c :: after) = some (before, after) := by
  have turned : (before ++ c :: after).reverse = after.reverse ++ c :: before.reverse := by simp
  rw [cutLast, turned, cutFirst_append (by rwa [List.mem_reverse])]
  simp

/-! ### Marks between parts -/

/-- Whether no occurrence of a mark starts inside of a text, not even one that ends in what stands behind
the text, which is nothing or starts like the mark. -/
def Unbroken (mark text : List Char) : Prop :=
  ∀ tail : List Char, tail = [] ∨ tail.head? = mark.head? →
    ∀ part, part ≠ [] → part <:+ text → stripStart? mark (part ++ tail) = none

/-- What does not start with the first character of a mark does not start with the mark. -/
theorem stripStart?_eq_none_of_head {d : Char} (other : c ≠ d) (word cs : List Char) :
    stripStart? (c :: word) (d :: cs) = none := by
  rw [stripStart?, if_neg other]

/-- No mark starts inside of a text without its first character. -/
theorem unbroken_of_not_mem {word : List Char} (free : c ∉ text) : Unbroken (c :: word) text := by
  intro tail _ part nonempty inside
  obtain ⟨first, more, rfl⟩ := List.exists_cons_of_ne_nil nonempty
  have other : c ≠ first := by
    rintro rfl
    exact free (inside.subset List.mem_cons_self)
  exact stripStart?_eq_none_of_head other word (more ++ tail)

/-- A word between spaces is not found where another word stands. -/
theorem stripStart?_word {word other : List Char} (free : ' ' ∉ word) (otherFree : ' ' ∉ other)
    (differs : other ≠ word) (shape : tail = [] ∨ tail.head? = some ' ') :
    stripStart? (' ' :: (word ++ [' '])) (' ' :: (other ++ tail)) = none := by
  rw [Option.eq_none_iff_forall_ne_some]
  intro rest found
  have same : other ++ tail = word ++ ' ' :: rest := by
    simpa [stripStart?_eq_some_iff] using found
  cases tail with
  | nil =>
      apply otherFree
      rw [← List.append_nil other, same]
      exact List.mem_append_right word List.mem_cons_self
  | cons d more =>
      obtain rfl : d = ' ' := by simpa using shape
      have cut := cutFirst_append otherFree more
      rw [same, cutFirst_append free] at cut
      exact differs (Prod.mk.inj (Option.some.inj cut)).1.symm

/-- Another word behind a space does not make a word appear between spaces. -/
theorem Unbroken.append_word {word other : List Char} (unbroken : Unbroken (' ' :: (word ++ [' '])) text)
    (free : ' ' ∉ word) (otherFree : ' ' ∉ other) (differs : other ≠ word) :
    Unbroken (' ' :: (word ++ [' '])) (text ++ ' ' :: other) := by
  intro tail shape part nonempty inside
  rcases List.suffix_or_suffix_of_suffix inside (List.suffix_append text (' ' :: other)) with late | early
  · rcases List.suffix_cons_iff.mp late with rfl | later
    · exact stripStart?_word free otherFree differs shape
    · exact unbroken_of_not_mem otherFree tail shape part nonempty later
  · obtain ⟨front, rfl⟩ := early
    have inFront : front <:+ text := by
      obtain ⟨lead, whole⟩ := inside
      rw [← List.append_assoc] at whole
      exact ⟨lead, List.append_cancel_right whole⟩
    cases front with
    | nil => exact stripStart?_word free otherFree differs shape
    | cons d more =>
        rw [List.append_assoc]
        exact unbroken (' ' :: other ++ tail) (.inr rfl) (d :: more) (List.cons_ne_nil d more) inFront

/-- Up to the end of such a text a piece goes on. -/
theorem Unbroken.piecesAfter_append (unbroken : Unbroken mark text)
    (shape : tail = [] ∨ tail.head? = mark.head?) (before : List Char) :
    piecesAfter mark before (text ++ tail) = piecesAfter mark (text.reverse ++ before) tail := by
  induction text generalizing before with
  | nil => rfl
  | cons d rest ih =>
      have here := unbroken tail shape (d :: rest) (List.cons_ne_nil d rest) (List.suffix_refl _)
      have later : Unbroken mark rest := fun tail shape part nonempty inside =>
        unbroken tail shape part nonempty (inside.trans (List.suffix_cons d rest))
      rw [List.cons_append] at here
      rw [List.cons_append, piecesAfter_of_none fun _ => here, ih later, List.reverse_cons,
        List.append_assoc, List.singleton_append]

/-- Parts with a mark in front of each of them are cut at these marks. -/
theorem piecesAfter_flatMap (nonempty : mark ≠ []) {parts : List (List Char)}
    (unbroken : ∀ part ∈ parts, Unbroken mark part) (before : List Char) :
    piecesAfter mark before (parts.flatMap (mark ++ ·)) = before.reverse :: parts := by
  induction parts generalizing before with
  | nil => rw [List.flatMap_nil, piecesAfter]
  | cons part rest ih =>
      obtain ⟨here, later⟩ := List.forall_mem_cons.mp unbroken
      have found : stripStart? mark (mark ++ (part ++ rest.flatMap (mark ++ ·))) =
          some (part ++ rest.flatMap (mark ++ ·)) := stripStart?_eq_some_iff.mpr rfl
      have shape : rest.flatMap (mark ++ ·) = [] ∨ (rest.flatMap (mark ++ ·)).head? = mark.head? := by
        cases rest with
        | nil => exact .inl rfl
        | cons next more =>
            right
            rw [List.flatMap_cons, List.append_assoc, List.head?_append_of_ne_nil _ nonempty]
      rw [List.flatMap_cons, List.append_assoc, piecesAfter_of_some nonempty found,
        here.piecesAfter_append shape, List.append_nil, ih later, List.reverse_reverse]

/-- A text that is joined from such parts is cut into them. -/
theorem pieces_joined (nonempty : mark ≠ []) {first : List Char} {rest : List (List Char)}
    (unbroken : ∀ part ∈ first :: rest, Unbroken mark part) :
    pieces mark (first ++ rest.flatMap (mark ++ ·)) = first :: rest := by
  have read := piecesAfter_flatMap nonempty unbroken []
  have found : stripStart? mark (mark ++ (first ++ rest.flatMap (mark ++ ·))) =
      some (first ++ rest.flatMap (mark ++ ·)) := stripStart?_eq_some_iff.mpr rfl
  rw [List.flatMap_cons, List.append_assoc, piecesAfter_of_some nonempty found] at read
  exact (List.cons.inj read).2

/-- A text without parts behind the first is one piece. -/
theorem pieces_of_unbroken (nonempty : mark ≠ []) (unbroken : Unbroken mark text) :
    pieces mark text = [text] := by
  have joined := pieces_joined nonempty (List.forall_mem_singleton.mpr unbroken)
  rwa [List.flatMap_nil, List.append_nil] at joined

theorem pieces_nil (mark : List Char) : pieces mark [] = [[]] := by
  rw [pieces, piecesAfter, List.reverse_nil]

theorem stripEnd?_append (text word : List Char) : stripEnd? word (text ++ word) = some text := by
  rw [stripEnd?, List.reverse_append, stripStart?_eq_some_iff.mpr rfl, Option.map_some,
    List.reverse_reverse]

/-- Joined texts are the first one and each later one behind a separator. -/
theorem toList_joinWith (separator first : String) (rest : List String) :
    (joinWith separator (first :: rest)).toList =
      first.toList ++ (rest.map String.toList).flatMap (separator.toList ++ ·) := by
  induction rest generalizing first with
  | nil => simp [joinWith]
  | cons next more ih =>
      rw [joinWith, String.toList_append, String.toList_append, ih, List.append_assoc, List.map_cons,
        List.flatMap_cons, List.append_assoc]

/-- A text behind several joined ones is joined to them by a separator. -/
theorem joinWith_concat (separator last : String) {parts : List String} (nonempty : parts ≠ []) :
    joinWith separator (parts ++ [last]) = joinWith separator parts ++ separator ++ last := by
  obtain ⟨first, rest, rfl⟩ := List.exists_cons_of_ne_nil nonempty
  rw [← String.toList_inj, List.cons_append, toList_joinWith, String.toList_append,
    String.toList_append, toList_joinWith]
  simp

/-! ### Ends -/

theorem dropWhile_padded {p : Char → Bool} {pad : List Char} (pads : ∀ c ∈ pad, p c = true)
    {d : Char} (kept : p d = false) (rest : List Char) :
    (pad ++ d :: rest).dropWhile p = d :: rest := by
  rw [List.dropWhile_append_of_pos pads, List.dropWhile_cons, kept, if_neg Bool.false_ne_true]

theorem dropWhile_of_not_mem (free : c ∉ text) : text.dropWhile (· = c) = text := by
  cases text with
  | nil => rfl
  | cons d rest =>
      rw [List.dropWhile_cons_of_neg]
      simpa using (List.ne_of_not_mem_cons free).symm

/-- What is put around a text is trimmed away again. -/
theorem trimBy_padded {p : Char → Bool} {front behind : List Char} (nonempty : text ≠ [])
    (frontPads : ∀ c ∈ front, p c = true) (behindPads : ∀ c ∈ behind, p c = true)
    (kept : ∀ c ∈ text, p c = false) : trimBy p (front ++ text ++ behind) = text := by
  obtain ⟨first, more, rfl⟩ := List.exists_cons_of_ne_nil nonempty
  obtain ⟨last, others, turned⟩ := List.exists_cons_of_ne_nil (List.reverse_ne_nil_iff.mpr nonempty)
  have isLast : last ∈ first :: more := List.mem_reverse.mp (turned ▸ List.mem_cons_self)
  rw [trimBy, List.append_assoc, List.cons_append, dropWhile_padded frontPads (kept _ List.mem_cons_self),
    ← List.cons_append, List.reverse_append, turned,
    dropWhile_padded (fun c listed => behindPads c (List.mem_reverse.mp listed)) (kept last isLast),
    ← turned, List.reverse_reverse]

/-- A text without anything to trim stays as it is. -/
theorem trimBy_of_kept {p : Char → Bool} (nonempty : text ≠ []) (kept : ∀ c ∈ text, p c = false) :
    trimBy p text = text := by
  simpa using trimBy_padded nonempty (List.forall_mem_nil _) (List.forall_mem_nil _) kept

/-- A space in front of a text without blanks is trimmed away. -/
theorem trimBy_space_cons (nonempty : text ≠ []) (kept : ∀ c ∈ text, isBlank c = false) :
    trimBy isBlank (' ' :: text) = text := by
  have pads : ∀ c ∈ [' '], isBlank c = true := List.forall_mem_singleton.mpr (by decide)
  simpa using trimBy_padded nonempty pads (List.forall_mem_nil _) kept

/-- A space behind a text without blanks is trimmed away. -/
theorem trimBy_append_space (nonempty : text ≠ []) (kept : ∀ c ∈ text, isBlank c = false) :
    trimBy isBlank (text ++ [' ']) = text := by
  have pads : ∀ c ∈ [' '], isBlank c = true := List.forall_mem_singleton.mpr (by decide)
  simpa using trimBy_padded nonempty (List.forall_mem_nil _) pads kept

end SqlLineage.Text
