/-
Module: SqlLineage.Proofs.Text.FinalSigma
Purpose: The lower-case form of a part of a text. It is that of the part by itself, but for a capital sigma
  that becomes the final form only because the word it ends starts before the part.
Main exports: lowercaseBehind, LosesSigma, lowercaseBehind_eq_iff, exists_lowercaseAfter_append,
  not_mem_lowercaseAfter
-/
import SqlLineage.Proofs.Text.Lowercase

namespace SqlLineage.Text

variable {before other cs : List Char}

/-! ### What stands before -/

theorem meetsCased_cons (c : Char) (cs : List Char) :
    meetsCased (c :: cs) = if isCaseIgnorable c then meetsCased cs else isCased c := by
  by_cases ignored : isCaseIgnorable c = true
  · rw [if_pos ignored, meetsCased, List.dropWhile_cons_of_pos ignored]
    rfl
  · rw [if_neg ignored, meetsCased, List.dropWhile_cons_of_neg ignored]

/-- Of what stands before a text its lower-case form shows only whether a letter is met there. -/
theorem lowercaseAfter_congr (same : meetsCased before = meetsCased other) :
    lowercaseAfter before cs = lowercaseAfter other cs := by
  induction cs generalizing before other with
  | nil => rfl
  | cons c rest ih =>
      have behind : lowercaseAfter (c :: before) rest = lowercaseAfter (c :: other) rest := by
        apply ih
        rw [meetsCased_cons, meetsCased_cons, same]
      rw [lowercaseAfter, lowercaseAfter, behind, sigmaEndsWord, sigmaEndsWord, same]

/-- Whether the first character of a text that is not passed over is a capital sigma at the end of a word. -/
def leadsWithFinalSigma (cs : List Char) : Bool :=
  match cs.dropWhile isCaseIgnorable with
  | [] => false
  | c :: rest => c = '\u03a3' && !meetsCased rest

theorem isCaseIgnorable_sigma : isCaseIgnorable '\u03a3' = false := by decide +kernel

/-- A text has its own lower-case form behind another one, unless a letter before it makes a sigma at its
start the end of a word. -/
theorem lowercaseAfter_eq_iff :
    lowercaseAfter before cs = lowercaseAfter [] cs ↔
      ¬ (meetsCased before = true ∧ leadsWithFinalSigma cs = true) := by
  induction cs generalizing before with
  | nil => simp [lowercaseAfter, leadsWithFinalSigma]
  | cons c rest ih =>
      by_cases sigma : c = '\u03a3'
      · subst sigma
        have behind : lowercaseAfter ('\u03a3' :: before) rest = lowercaseAfter ['\u03a3'] rest := by
          apply lowercaseAfter_congr
          rw [meetsCased_cons, meetsCased_cons, isCaseIgnorable_sigma]
          rfl
        have leads : leadsWithFinalSigma ('\u03a3' :: rest) = !meetsCased rest := by
          rw [leadsWithFinalSigma, List.dropWhile_cons, isCaseIgnorable_sigma, if_neg Bool.false_ne_true]
          simp
        rw [lowercaseAfter, lowercaseAfter, behind, List.append_left_inj, leads]
        cases meets : meetsCased before <;> cases more : meetsCased rest <;>
          simp [sigmaEndsWord, meets, more] <;> decide
      · have heads : lowercaseAfter before (c :: rest) = lowercaseAfter [] (c :: rest) ↔
            lowercaseAfter (c :: before) rest = lowercaseAfter [c] rest := by
          rw [lowercaseAfter, lowercaseAfter, if_neg sigma, if_neg sigma, List.append_right_inj]
        rw [heads]
        by_cases ignored : isCaseIgnorable c = true
        · have here : lowercaseAfter (c :: before) rest = lowercaseAfter before rest := by
            apply lowercaseAfter_congr
            rw [meetsCased_cons, if_pos ignored]
          have alone : lowercaseAfter [c] rest = lowercaseAfter [] rest := by
            apply lowercaseAfter_congr
            rw [meetsCased_cons, if_pos ignored]
          have leads : leadsWithFinalSigma (c :: rest) = leadsWithFinalSigma rest := by
            rw [leadsWithFinalSigma, List.dropWhile_cons_of_pos ignored]
            rfl
          rw [here, alone, leads]
          exact ih
        · have same : lowercaseAfter (c :: before) rest = lowercaseAfter [c] rest := by
            apply lowercaseAfter_congr
            rw [meetsCased_cons, meetsCased_cons, if_neg ignored, if_neg ignored]
          have leads : leadsWithFinalSigma (c :: rest) = false := by
            rw [leadsWithFinalSigma, List.dropWhile_cons_of_neg ignored]
            simp [sigma]
          simp [same, leads]

/-! ### Parts of a text -/

/-- The lower-case form that a text has behind another one. -/
def lowercaseBehind (front s : String) : String :=
  String.ofList (lowercaseAfter front.toList.reverse s.toList)

/-- Whether a capital sigma in a text becomes the final form behind another text, and not by itself. -/
def LosesSigma (front s : String) : Prop :=
  meetsCased front.toList.reverse = true ∧ leadsWithFinalSigma s.toList = true

instance (front s : String) : Decidable (LosesSigma front s) := inferInstanceAs (Decidable (_ ∧ _))

theorem lowercaseBehind_eq_iff {front s : String} :
    lowercaseBehind front s = lowercase s ↔ ¬ LosesSigma front s := by
  rw [lowercaseBehind, lowercase, String.ofList_inj]
  exact lowercaseAfter_eq_iff

theorem lowercase_lowercaseBehind (front s : String) :
    lowercase (lowercaseBehind front s) = lowercaseBehind front s := by
  apply IsLowerText.lowercase_eq
  intro c listed
  rw [lowercaseBehind, String.toList_ofList] at listed
  exact isLower_of_mem_lowercaseAfter listed

/-- The end of a text has, in the lower-case form of the text, the form that it has behind the rest. -/
theorem exists_lowercaseAfter_append (before cs rest : List Char) :
    ∃ front, lowercaseAfter before (cs ++ rest) = front ++ lowercaseAfter (cs.reverse ++ before) rest := by
  induction cs generalizing before with
  | nil => exact ⟨[], rfl⟩
  | cons c more ih =>
      obtain ⟨front, shape⟩ := ih (c :: before)
      obtain ⟨head, step⟩ : ∃ head, lowercaseAfter before (c :: (more ++ rest)) =
          head ++ lowercaseAfter (c :: before) (more ++ rest) := ⟨_, rfl⟩
      refine ⟨head ++ front, ?_⟩
      rw [List.cons_append, step, shape, List.reverse_cons, List.append_assoc, List.append_assoc,
        List.singleton_append]

/-! ### Marks -/

/-- No other character has one from below the letters in its lower-case form. -/
theorem eq_of_mem_lowercaseChar {c d : Char} (low : d.toNat < 65) (listed : d ∈ lowercaseChar c) :
    d = c := by
  by_cases ascii : c.val < 128
  · rw [lowercaseChar_of_ascii ascii, List.mem_singleton] at listed
    subst listed
    exact forall_ascii (P := fun c => c.toLower.toNat < 65 → c.toLower = c) (by decide +kernel) ascii low
  · by_cases dotted : c = '\u0130'
    · rw [lowercaseChar, if_neg ascii, if_pos dotted, List.mem_cons, List.mem_singleton] at listed
      rcases listed with rfl | rfl
      · exact absurd low (by decide)
      · exact absurd low (by decide)
    · cases found : capitalRuns.findSome? (·.lower? c.toNat) with
      | some lower =>
          obtain ⟨run, isRun, isCapital⟩ := List.exists_of_findSome?_eq_some found
          have isPlain := CapitalRun.plain_of_mem isRun
          have bounds := CapitalRun.bounds_of_lower? isCapital
          rw [lowercaseChar, if_neg ascii, if_neg dotted, found, List.mem_singleton] at listed
          rw [listed, CapitalRun.toNat_of_lower? isRun isCapital] at low
          simp only [CapitalRun.plain, Bool.and_eq_true, Nat.blt_eq] at isPlain
          omega
      | none =>
          rw [lowercaseChar, if_neg ascii, if_neg dotted, found, List.mem_singleton] at listed
          exact listed

theorem not_mem_lowercaseAfter {d : Char} (low : d.toNat < 65) (free : d ∉ cs) :
    d ∉ lowercaseAfter before cs := by
  induction cs generalizing before with
  | nil => exact List.not_mem_nil
  | cons c rest ih =>
      obtain ⟨here, later⟩ := List.ne_and_not_mem_of_not_mem_cons free
      rw [lowercaseAfter, List.mem_append, not_or]
      refine ⟨?_, ih later⟩
      split
      · rw [List.mem_singleton]
        rintro rfl
        split at low
        · exact absurd low (by decide)
        · exact absurd low (by decide)
      · exact fun listed => here (eq_of_mem_lowercaseChar low listed)

end SqlLineage.Text
