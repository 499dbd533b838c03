/-
Module: SqlLineage.Proofs.Text.Blank
Purpose: White space has no case, so a text holds nothing else exactly if its lower-case form does.
Main exports: isLower_of_isBlank, isBlankText_lowercase, not_isBlankText_of_mem
-/
import SqlLineage.Proofs.Text.Lowercase
import SqlLineage.Text.Blank

namespace SqlLineage.Text

/-- The code points of white space. -/
def blankCodes : List Nat :=
  [9, 10, 11, 12, 13, 32, 0x85, 0xA0, 0x1680, 0x2000, 0x2001, 0x2002, 0x2003, 0x2004, 0x2005, 0x2006,
    0x2007, 0x2008, 0x2009, 0x200A, 0x2028, 0x2029, 0x202F, 0x205F, 0x3000]

theorem mem_blankCodes {c : Char} (blank : isBlank c = true) : c.toNat ∈ blankCodes := by
  simp only [isBlank, Bool.or_eq_true, Bool.and_eq_true, decide_eq_true_eq, beq_iff_eq] at blank
  simp only [blankCodes, List.mem_cons, List.not_mem_nil, or_false]
  omega

/-- White space is its own lower-case form. -/
theorem isLower_of_isBlank {c : Char} (blank : isBlank c = true) : IsLower c := by
  have all : ∀ code ∈ blankCodes, IsLower (Char.ofNat code) := by decide +kernel
  have isLower := all c.toNat (mem_blankCodes blank)
  rwa [Char.ofNat_toNat] at isLower

/-- No capital letter has white space for its lower-case form. -/
theorem CapitalRun.not_isBlank {run : CapitalRun} {code lower : Nat} (listed : run ∈ capitalRuns)
    (found : run.lower? code = some lower) : isBlank (Char.ofNat lower) = false := by
  have apart : (capitalRuns.all fun run => blankCodes.all fun blank =>
      Nat.blt blank run.lowerOfFirst || Nat.blt run.lowerOfLast blank) = true := by
    decide +kernel
  have bounds := bounds_of_lower? found
  rw [Bool.eq_false_iff]
  intro blank
  have isCode := mem_blankCodes blank
  rw [toNat_of_lower? listed found] at isCode
  have outside := List.all_eq_true.mp (List.all_eq_true.mp apart run listed) lower isCode
  simp only [Bool.or_eq_true, Nat.blt_eq] at outside
  omega

/-- A character whose lower-case form is white space is white space itself. -/
theorem isBlank_of_lowercaseChar {c : Char} (blank : (lowercaseChar c).all isBlank = true) :
    isBlank c = true := by
  by_cases ascii : c.val < 128
  · rw [lowercaseChar_of_ascii ascii, List.all_cons, List.all_nil, Bool.and_true] at blank
    exact forall_ascii (P := fun c => isBlank c.toLower = true → isBlank c = true) (by decide +kernel)
      ascii blank
  · by_cases dotted : c = '\u0130'
    · rw [lowercaseChar, if_neg ascii, if_pos dotted] at blank
      exact absurd blank (by decide)
    · cases found : capitalRuns.findSome? (·.lower? c.toNat) with
      | some lower =>
          obtain ⟨run, listed, isCapital⟩ := List.exists_of_findSome?_eq_some found
          rw [lowercaseChar, if_neg ascii, if_neg dotted, found, List.all_cons,
            CapitalRun.not_isBlank listed isCapital] at blank
          cases blank
      | none =>
          rw [lowercaseChar, if_neg ascii, if_neg dotted, found, List.all_cons, List.all_nil,
            Bool.and_true] at blank
          exact blank

theorem all_isBlank_of_lowercaseAfter {before cs : List Char}
    (blank : (lowercaseAfter before cs).all isBlank = true) : cs.all isBlank = true := by
  induction cs generalizing before with
  | nil => rfl
  | cons c rest ih =>
      rw [lowercaseAfter, List.all_append, Bool.and_eq_true] at blank
      obtain ⟨here, later⟩ := blank
      rw [List.all_cons, ih later, Bool.and_true]
      split at here
      · split at here
        · exact absurd here (by decide)
        · exact absurd here (by decide)
      · exact isBlank_of_lowercaseChar here

/-- A text holds white space alone exactly if its lower-case form does. -/
@[simp] theorem isBlankText_lowercase (s : String) : isBlankText (lowercase s) = isBlankText s := by
  rw [Bool.eq_iff_iff, isBlankText, isBlankText, lowercase, String.toList_ofList]
  constructor
  · exact all_isBlank_of_lowercaseAfter
  · intro blank
    have isLower : ∀ c ∈ s.toList, IsLower c :=
      fun c listed => isLower_of_isBlank (List.all_eq_true.mp blank c listed)
    rw [lowercaseAfter_of_isLower isLower, blank]

/-- A text with a visible character holds more than white space. -/
theorem not_isBlankText_of_mem {s : String} {c : Char} (listed : c ∈ s.toList)
    (visible : isBlank c = false) : isBlankText s = false := by
  rw [isBlankText, List.all_eq_false]
  exact ⟨c, listed, by rw [visible]; exact Bool.false_ne_true⟩

end SqlLineage.Text
