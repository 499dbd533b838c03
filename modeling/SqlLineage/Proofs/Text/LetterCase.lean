/-
Module: SqlLineage.Proofs.Text.LetterCase
Purpose: What a text says in any case of its ASCII letters: the words it is compared with, its lower-case
  form, and where it is cut at marks that are no letters.
Main exports: sameIgnoringCase_upper, capitals, apply_toUpper, spares_toUpper, lowercase_capitals,
  trimBy_capitals
-/
import Mathlib
import SqlLineage.Proofs.Text.Lowercase
import SqlLineage.Text.Ascii
import SqlLineage.Text.Blank

namespace SqlLineage.Text

@[simp] theorem sameIgnoringCase_upper (text word : String) :
    sameIgnoringCase (upper text) word = sameIgnoringCase text word := by
  simp [sameIgnoringCase, upper, Function.comp_def]

/-- The characters with the ASCII letters among them in upper case. -/
def capitals (cs : List Char) : List Char := cs.map Char.toUpper

/-! ### Single characters -/

theorem code_of_isAlpha {c : Char} (letter : c.isAlpha = true) :
    65 ≤ c.toNat ∧ c.toNat ≤ 90 ∨ 97 ≤ c.toNat ∧ c.toNat ≤ 122 := by
  simpa [Char.isAlpha, Char.isUpper, Char.isLower, UInt32.le_iff_toNat_le] using letter

theorem ascii_of_isAlpha {c : Char} (letter : c.isAlpha = true) : c.val < 128 := by
  have code := code_of_isAlpha letter
  rw [UInt32.lt_iff_toNat_lt]
  show c.toNat < 128
  omega

theorem ne_of_isAlpha {c d : Char} (letter : c.isAlpha = true) (noLetter : d.isAlpha = false) : c ≠ d := by
  rintro rfl
  rw [letter] at noLetter
  cases noLetter

/-- What is the same for all letters does not depend on the case of a letter. -/
theorem apply_toUpper {β : Type} {f : Char → β} {value : β}
    (letters : ∀ {c : Char}, c.isAlpha = true → f c = value) (c : Char) : f c.toUpper = f c := by
  by_cases isLower : c.isLower = true
  · have letter : c.isAlpha = true := by rw [Char.isAlpha, isLower, Bool.or_true]
    have upper : c.toUpper.isAlpha = true := by rwa [Char.isAlpha_toUpper_eq_isAlpha]
    rw [letters letter, letters upper]
  · rw [Char.toUpper_eq_of_not_isLower isLower]

theorem isCased_of_isAlpha {c : Char} (letter : c.isAlpha = true) : isCased c = true := by
  rw [isCased, CodeRanges.holds_iff]
  rcases code_of_isAlpha letter with capital | small
  · exact ⟨(65, 90), List.mem_cons_self, capital⟩
  · exact ⟨(97, 122), List.mem_cons_of_mem _ List.mem_cons_self, small⟩

theorem isCased_toUpper (c : Char) : isCased c.toUpper = isCased c := apply_toUpper isCased_of_isAlpha c

/-- No letter is passed over when the next letter is looked for. -/
theorem isCaseIgnorable_of_isAlpha {c : Char} (letter : c.isAlpha = true) : isCaseIgnorable c = false := by
  have apart : (caseIgnorableRanges.all fun range =>
      Nat.blt range.2 65 || Nat.blt 90 range.1 && Nat.blt range.2 97 || Nat.blt 122 range.1) = true := by
    decide +kernel
  have code := code_of_isAlpha letter
  rw [← Bool.not_eq_true, isCaseIgnorable, CodeRanges.holds_iff]
  rintro ⟨range, listed, low, high⟩
  have here := List.all_eq_true.mp apart range listed
  simp only [Bool.or_eq_true, Bool.and_eq_true, Nat.blt_eq] at here
  omega

theorem isCaseIgnorable_toUpper (c : Char) : isCaseIgnorable c.toUpper = isCaseIgnorable c :=
  apply_toUpper isCaseIgnorable_of_isAlpha c

theorem lowercaseChar_toUpper (c : Char) : lowercaseChar c.toUpper = lowercaseChar c := by
  by_cases isLower : c.isLower = true
  · have letter : c.isAlpha = true := by rw [Char.isAlpha, isLower, Bool.or_true]
    have upper : c.toUpper.isAlpha = true := by rwa [Char.isAlpha_toUpper_eq_isAlpha]
    rw [lowercaseChar_of_ascii (ascii_of_isAlpha letter), lowercaseChar_of_ascii (ascii_of_isAlpha upper),
      Char.toLower_toUpper_eq_toLower]
  · rw [Char.toUpper_eq_of_not_isLower isLower]

theorem isBlank_of_isAlpha {c : Char} (letter : c.isAlpha = true) : isBlank c = false := by
  have code := code_of_isAlpha letter
  rw [← Bool.not_eq_true]
  intro blank
  simp only [isBlank, Bool.or_eq_true, Bool.and_eq_true, decide_eq_true_eq, beq_iff_eq] at blank
  omega

theorem isBlank_toUpper (c : Char) : isBlank c.toUpper = isBlank c := apply_toUpper isBlank_of_isAlpha c

/-- A mark that is no letter is found at the same places. -/
theorem spares_toUpper {mark : Char} (noLetter : mark.isAlpha = false) : Spares Char.toUpper mark := by
  intro c
  have unmoved : ∀ {d : Char}, d.isAlpha = false → d.toUpper = d := by
    intro d noAlpha
    apply Char.toUpper_eq_of_not_isLower
    intro isLower
    rw [Char.isAlpha, isLower, Bool.or_true] at noAlpha
    cases noAlpha
  constructor
  · rintro rfl
    rw [Char.isAlpha_toUpper_eq_isAlpha] at noLetter
    exact (unmoved noLetter).symm
  · rintro rfl
    exact unmoved noLetter

/-! ### Texts -/

theorem meetsCased_capitals (cs : List Char) : meetsCased (capitals cs) = meetsCased cs := by
  unfold meetsCased capitals
  rw [List.dropWhile_map, show isCaseIgnorable ∘ Char.toUpper = isCaseIgnorable from
    funext isCaseIgnorable_toUpper]
  cases cs.dropWhile isCaseIgnorable with
  | nil => rfl
  | cons c rest => exact isCased_toUpper c

theorem lowercaseAfter_capitals (before cs : List Char) :
    lowercaseAfter (capitals before) (capitals cs) = lowercaseAfter before cs := by
  induction cs generalizing before with
  | nil => rfl
  | cons c rest ih =>
      have sigma : c.toUpper = '\u03a3' ↔ c = '\u03a3' := spares_toUpper (by decide) c
      have behind : lowercaseAfter (c.toUpper :: capitals before) (rest.map Char.toUpper) =
          lowercaseAfter (c :: before) rest := ih (c :: before)
      have ends : sigmaEndsWord (capitals before) (rest.map Char.toUpper) = sigmaEndsWord before rest := by
        rw [sigmaEndsWord, sigmaEndsWord, meetsCased_capitals, ← capitals, meetsCased_capitals]
      show lowercaseAfter (capitals before) (c.toUpper :: rest.map Char.toUpper) = _
      rw [lowercaseAfter, lowercaseAfter, behind, ends]
      simp only [sigma, lowercaseChar_toUpper]

/-- The lower-case form does not depend on the case of ASCII letters. -/
theorem lowercase_capitals (cs : List Char) :
    lowercase (String.ofList (capitals cs)) = lowercase (String.ofList cs) := by
  rw [lowercase, lowercase, String.toList_ofList, String.toList_ofList]
  exact congrArg String.ofList (lowercaseAfter_capitals [] cs)

theorem dropWhile_capitals {p : Char → Bool} (keeps : ∀ c, p c.toUpper = p c) (cs : List Char) :
    (capitals cs).dropWhile p = capitals (cs.dropWhile p) := by
  have same : p ∘ Char.toUpper = p := funext keeps
  rw [capitals, capitals, List.dropWhile_map, same]

theorem dropWhile_mark_capitals {mark : Char} (noLetter : mark.isAlpha = false) (cs : List Char) :
    (capitals cs).dropWhile (· = mark) = capitals (cs.dropWhile (· = mark)) :=
  dropWhile_capitals (p := fun c => c = mark) (fun c => decide_eq_decide.mpr (spares_toUpper noLetter c)) cs

theorem reverse_capitals (cs : List Char) : (capitals cs).reverse = capitals cs.reverse :=
  List.map_reverse.symm

theorem trimBy_capitals {p : Char → Bool} (keeps : ∀ c, p c.toUpper = p c) (cs : List Char) :
    trimBy p (capitals cs) = capitals (trimBy p cs) := by
  rw [trimBy, trimBy, dropWhile_capitals keeps, reverse_capitals, dropWhile_capitals keeps,
    reverse_capitals]

end SqlLineage.Text
