/-
Module: SqlLineage.Proofs.Text.Lowercase
Purpose: Lower-case forms are their own lower-case forms, and a number behind a hash sign stays as it is.
  Hence names can be compared by their lower-case forms, and a numbered name shows both of its parts.
Main exports: lowercase_lowercase, IsLowerText, lowercase_numbered, numbered_inj
-/
import SqlLineage.Proofs.Text.Cut
import SqlLineage.Text.Lowercase

namespace SqlLineage.Text

/-! ### Lower-case letters -/

/-- A character that is its own lower-case form wherever it stands. -/
def IsLower (c : Char) : Prop := c ≠ '\u03a3' ∧ lowercaseChar c = [c]

instance (c : Char) : Decidable (IsLower c) := inferInstanceAs (Decidable (_ ∧ _))

theorem lowercaseAfter_of_isLower {before cs : List Char} (lower : ∀ c ∈ cs, IsLower c) :
    lowercaseAfter before cs = cs := by
  induction cs generalizing before with
  | nil => rfl
  | cons c rest ih =>
      obtain ⟨notSigma, itself⟩ := lower c List.mem_cons_self
      have restLower : lowercaseAfter (c :: before) rest = rest :=
        ih fun d listed => lower d (List.mem_cons_of_mem c listed)
      rw [lowercaseAfter, if_neg notSigma, itself, restLower, List.singleton_append]

/-! ### Single characters -/

/-- A property of all ASCII characters can be decided. -/
theorem forall_ascii {P : Char → Prop} (all : ∀ n : Fin 128, P (Char.ofNat n)) {c : Char}
    (ascii : c.toNat < 128) : P c := by
  have this := all ⟨c.toNat, ascii⟩
  rwa [Char.ofNat_toNat] at this

theorem isLower_toLower {c : Char} (ascii : c.toNat < 128) : IsLower c.toLower :=
  forall_ascii (P := fun c => IsLower c.toLower) (by decide +kernel) ascii

/-- The ASCII characters that are no capital letters are their own lower-case forms. -/
theorem isLower_of_ascii {c : Char} (ascii : c.toNat < 128) (noCapital : c.toNat < 65 ∨ 90 < c.toNat) :
    IsLower c := by
  have itself : c.toLower = c := by
    have outside : ¬ (c.val ≥ 'A'.val ∧ c.val ≤ 'Z'.val) := by
      rw [ge_iff_le, UInt32.le_iff_toNat_le, UInt32.le_iff_toNat_le]
      show ¬ (65 ≤ c.toNat ∧ c.toNat ≤ 90)
      omega
    exact dif_neg outside
  rw [← itself]
  exact isLower_toLower ascii

theorem isLower_of_isDigit {c : Char} (isDigit : c.isDigit = true) : IsLower c := by
  simp only [Char.isDigit, Bool.and_eq_true, decide_eq_true_eq] at isDigit
  have atMost : c.toNat ≤ 57 := isDigit.2
  exact isLower_of_ascii (by omega) (by omega)

/-- The letters that are written for a capital letter by a rule of its own are their own lower-case
forms. -/
theorem isLower_of_mem_ruled {c : Char} (ruled : c ∈ ['i', '\u0307', '\u03c2', '\u03c3']) : IsLower c := by
  simp only [List.mem_cons, List.not_mem_nil, or_false] at ruled
  rcases ruled with rfl | rfl | rfl | rfl
  all_goals decide +kernel

/-! ### The table of capital letters -/

namespace CapitalRun

/-- The lower-case code point of the last letter of the run. -/
def lowerOfLast (run : CapitalRun) : Nat := run.lowerOfFirst + (run.last - run.first)

/-- Whether no lower-case letter of the run is a capital letter of the other one: they lie apart, or
alternate. -/
def apart (run other : CapitalRun) : Bool :=
  Nat.blt run.lowerOfLast other.first || Nat.blt other.last run.lowerOfFirst ||
    (run.lowerOfFirst % 2 != other.first % 2 && other.step == 2 &&
      (run.first == run.last || run.step == 2))

/-- Whether the lower-case letters of the run are characters, none of them a capital letter outside of
all runs. -/
def plain (run : CapitalRun) : Bool :=
  (Nat.blt run.lowerOfLast 55296 || Nat.blt 57343 run.lowerOfFirst && Nat.blt run.lowerOfLast 1114112)
    && (Nat.blt run.lowerOfLast 304 || Nat.blt 304 run.lowerOfFirst)
    && (Nat.blt run.lowerOfLast 931 || Nat.blt 931 run.lowerOfFirst)
    && Nat.blt 90 run.lowerOfFirst

variable {run other : CapitalRun} {code lower : Nat}

theorem lower?_eq_some_iff :
    run.lower? code = some lower ↔
      run.first ≤ code ∧ code ≤ run.last ∧ (code - run.first) % run.step = 0 ∧
        run.lowerOfFirst + (code - run.first) = lower := by
  simp [lower?, and_assoc]

theorem bounds_of_lower? (found : run.lower? code = some lower) :
    run.lowerOfFirst ≤ lower ∧ lower ≤ run.lowerOfLast := by
  obtain ⟨low, high, _, rfl⟩ := lower?_eq_some_iff.mp found
  unfold lowerOfLast
  omega

theorem lower?_eq_none_of_apart (isApart : apart run other = true)
    (found : run.lower? code = some lower) : other.lower? lower = none := by
  have bounds := bounds_of_lower? found
  obtain ⟨low, high, onStep, rfl⟩ := lower?_eq_some_iff.mp found
  rw [← Option.not_isSome_iff_eq_none, Option.isSome_iff_exists]
  intro known
  rcases known with ⟨again, foundAgain⟩
  obtain ⟨otherLow, otherHigh, otherStep, _⟩ := lower?_eq_some_iff.mp foundAgain
  simp only [apart, Bool.or_eq_true, Bool.and_eq_true, Nat.blt_eq, bne_iff_ne, beq_iff_eq] at isApart
  rcases isApart with (below | above) | ⟨⟨parity, alternates⟩, single | steps⟩
  · omega
  · omega
  · rw [alternates] at otherStep
    omega
  · rw [alternates] at otherStep
    rw [steps] at onStep
    omega

theorem plain_of_mem {run : CapitalRun} (listed : run ∈ capitalRuns) : plain run = true := by
  have all : capitalRuns.all plain = true := by decide +kernel
  exact List.all_eq_true.mp all run listed

/-- The lower-case letters of a run are none of its capital letters, nor of another run. -/
theorem apart_of_mem {run other : CapitalRun} (listed : run ∈ capitalRuns)
    (otherListed : other ∈ capitalRuns) : apart run other = true := by
  have all : (capitalRuns.all fun run => capitalRuns.all fun other => apart run other) = true := by
    decide +kernel
  exact List.all_eq_true.mp (List.all_eq_true.mp all run listed) other otherListed

/-- The lower-case letters of a run are characters. -/
theorem toNat_of_lower? (listed : run ∈ capitalRuns) (found : run.lower? code = some lower) :
    (Char.ofNat lower).toNat = lower := by
  have bounds := bounds_of_lower? found
  have isPlain := plain_of_mem listed
  simp only [plain, Bool.or_eq_true, Bool.and_eq_true, Nat.blt_eq] at isPlain
  have valid : lower.isValidChar := by
    simp only [Nat.isValidChar]
    omega
  rw [Char.ofNat, dif_pos valid]
  rfl

end CapitalRun

/-! ### Lower-case forms of characters -/

theorem isLower_of_lower? {run : CapitalRun} {code lower : Nat} (listed : run ∈ capitalRuns)
    (found : run.lower? code = some lower) : IsLower (Char.ofNat lower) := by
  have bounds := CapitalRun.bounds_of_lower? found
  have isPlain := CapitalRun.plain_of_mem listed
  simp only [CapitalRun.plain, Bool.or_eq_true, Bool.and_eq_true, Nat.blt_eq] at isPlain
  have code := CapitalRun.toNat_of_lower? listed found
  have ne : ∀ d : Char, d.toNat ≠ lower → Char.ofNat lower ≠ d := by
    rintro d differs rfl
    exact differs code
  refine ⟨ne _ ?_, ?_⟩
  · show 931 ≠ lower
    omega
  · by_cases ascii : (Char.ofNat lower).val < 128
    · have noCapital : 90 < (Char.ofNat lower).toNat := by omega
      exact (isLower_of_ascii ascii (.inr noCapital)).2
    · have notDotted : Char.ofNat lower ≠ '\u0130' := by
        apply ne _
        show 304 ≠ lower
        omega
      have unlisted : capitalRuns.findSome? (·.lower? (Char.ofNat lower).toNat) = none := by
        rw [List.findSome?_eq_none_iff, code]
        intro other otherListed
        exact CapitalRun.lower?_eq_none_of_apart (CapitalRun.apart_of_mem listed otherListed) found
      rw [lowercaseChar, if_neg ascii, if_neg notDotted, unlisted]

theorem isLower_of_mem_lowercaseChar {c d : Char} (notSigma : c ≠ '\u03a3')
    (listed : d ∈ lowercaseChar c) : IsLower d := by
  by_cases ascii : c.val < 128
  · rw [lowercaseChar_of_ascii ascii, List.mem_singleton] at listed
    rw [listed]
    exact isLower_toLower ascii
  · by_cases dotted : c = '\u0130'
    · have parts : lowercaseChar c = ['i', '\u0307'] := by
        rw [lowercaseChar, if_neg ascii, if_pos dotted]
      rw [parts, List.mem_cons, List.mem_singleton] at listed
      rcases listed with rfl | rfl
      · exact isLower_of_mem_ruled (by simp)
      · exact isLower_of_mem_ruled (by simp)
    · cases found : capitalRuns.findSome? (·.lower? c.toNat) with
      | some lower =>
          have isLetter : lowercaseChar c = [Char.ofNat lower] := by
            rw [lowercaseChar, if_neg ascii, if_neg dotted, found]
          rw [isLetter, List.mem_singleton] at listed
          obtain ⟨run, runListed, isCapital⟩ := List.exists_of_findSome?_eq_some found
          rw [listed]
          exact isLower_of_lower? runListed isCapital
      | none =>
          have itself : lowercaseChar c = [c] := by
            rw [lowercaseChar, if_neg ascii, if_neg dotted, found]
          rw [itself, List.mem_singleton] at listed
          rw [listed]
          exact ⟨notSigma, itself⟩

theorem isLower_of_mem_lowercaseAfter {before cs : List Char} {d : Char}
    (listed : d ∈ lowercaseAfter before cs) : IsLower d := by
  induction cs generalizing before with
  | nil => cases listed
  | cons c rest ih =>
      rw [lowercaseAfter, List.mem_append] at listed
      rcases listed with here | later
      · split at here
        · split at here
          · rw [List.mem_singleton.mp here]
            exact isLower_of_mem_ruled (by simp)
          · rw [List.mem_singleton.mp here]
            exact isLower_of_mem_ruled (by simp)
        · next notSigma => exact isLower_of_mem_lowercaseChar notSigma here
      · exact ih later

/-- A lower-case form is its own lower-case form. -/
@[simp] theorem lowercase_lowercase (s : String) : lowercase (lowercase s) = lowercase s := by
  have itself : lowercaseAfter [] (lowercaseAfter [] s.toList) = lowercaseAfter [] s.toList :=
    lowercaseAfter_of_isLower fun _ => isLower_of_mem_lowercaseAfter
  rw [lowercase, lowercase, String.toList_ofList, itself]

theorem lowercaseChar_ne_nil (c : Char) : lowercaseChar c ≠ [] := by
  unfold lowercaseChar
  split
  · exact List.cons_ne_nil _ _
  · split
    · exact List.cons_ne_nil _ _
    · split <;> exact List.cons_ne_nil _ _

/-- A text is empty exactly if its lower-case form is. -/
@[simp] theorem isEmpty_lowercase (s : String) : (lowercase s).isEmpty = s.isEmpty := by
  rw [Bool.eq_iff_iff, String.isEmpty_iff, String.isEmpty_iff, ← String.toList_eq_nil_iff,
    ← String.toList_eq_nil_iff, lowercase, String.toList_ofList]
  constructor
  · intro empty
    cases cs : s.toList with
    | nil => rfl
    | cons c rest =>
        rw [cs, lowercaseAfter, List.append_eq_nil_iff] at empty
        obtain ⟨here, _⟩ := empty
        split at here
        · cases here
        · exact absurd here (lowercaseChar_ne_nil c)
  · intro empty
    rw [empty]
    rfl

/-- Whether a text consists of characters that are their own lower-case forms. -/
def IsLowerText (s : String) : Prop := ∀ c ∈ s.toList, IsLower c

namespace IsLowerText

theorem of_ascii {s : String}
    (ascii : (s.toList.all fun c => c.toNat < 128 && 90 < c.toNat) = true) : IsLowerText s := by
  intro c listed
  have here := List.all_eq_true.mp ascii c listed
  rw [Bool.and_eq_true, decide_eq_true_iff, decide_eq_true_iff] at here
  exact isLower_of_ascii here.1 (.inr here.2)

theorem append {s t : String} (first : IsLowerText s) (second : IsLowerText t) :
    IsLowerText (s ++ t) := by
  intro c listed
  rw [String.toList_append, List.mem_append] at listed
  rcases listed with early | late
  · exact first c early
  · exact second c late

/-- Such a text is its own lower-case form. -/
theorem lowercase_eq {s : String} (lower : IsLowerText s) : lowercase s = s := by
  rw [lowercase, lowercaseAfter_of_isLower lower, String.ofList_toList]

end IsLowerText

theorem isLowerText_lowercase (s : String) : IsLowerText (lowercase s) := by
  intro c listed
  rw [lowercase, String.toList_ofList] at listed
  exact isLower_of_mem_lowercaseAfter listed

/-! ### Numbered names -/

theorem meetsCased_append {c : Char} (notIgnored : isCaseIgnorable c = false)
    (notCased : isCased c = false) (cs rest : List Char) :
    meetsCased (cs ++ c :: rest) = meetsCased cs := by
  induction cs with
  | nil => simp [meetsCased, notIgnored, notCased]
  | cons d cs ih =>
      unfold meetsCased at ih ⊢
      by_cases ignored : isCaseIgnorable d = true
      · rw [List.cons_append, List.dropWhile_cons_of_pos ignored, List.dropWhile_cons_of_pos ignored]
        exact ih
      · rw [List.cons_append, List.dropWhile_cons_of_neg ignored, List.dropWhile_cons_of_neg ignored]

/-- What stands behind a mark that is no part of a word does not change the lower-case form of what
stands before it. -/
theorem lowercaseAfter_append {c : Char} (notIgnored : isCaseIgnorable c = false)
    (notCased : isCased c = false) (before cs rest : List Char) :
    lowercaseAfter before (cs ++ c :: rest) =
      lowercaseAfter before cs ++ lowercaseAfter (cs.reverse ++ before) (c :: rest) := by
  induction cs generalizing before with
  | nil => rfl
  | cons d cs ih =>
      rw [List.cons_append, lowercaseAfter, lowercaseAfter, ih, List.append_assoc, List.reverse_cons,
        List.append_assoc, List.singleton_append, sigmaEndsWord, sigmaEndsWord,
        meetsCased_append notIgnored notCased]

theorem isDigit_of_mem_toString {n : Nat} {c : Char} (listed : c ∈ (toString n : String).toList) :
    c.isDigit = true := by
  rw [Nat.toString_eq_ofList_toDigits, String.toList_ofList] at listed
  exact Nat.isDigit_of_mem_toDigits (by decide) (by decide) listed

theorem isLowerText_toString (n : Nat) : IsLowerText (toString n) :=
  fun _ listed => isLower_of_isDigit (isDigit_of_mem_toString listed)

theorem toString_inj {n m : Nat} : (toString n : String) = toString m ↔ n = m := by
  constructor
  · intro same
    have read := congrArg (fun text => Nat.ofDigitChars 10 text.toList 0) same
    simpa [Nat.toString_eq_ofList_toDigits] using read
  · intro same
    rw [same]

/-- The lower-case form of a numbered name is the numbered lower-case form of the name. -/
theorem lowercase_numbered (name : String) (n : Nat) :
    lowercase (name ++ "#" ++ toString n) = lowercase name ++ "#" ++ toString n := by
  have number : (toString n : String).toList = Nat.toDigits 10 n := by
    rw [Nat.toString_eq_ofList_toDigits, String.toList_ofList]
  have tailLower : ∀ c ∈ '#' :: Nat.toDigits 10 n, IsLower c := by
    intro c listed
    rcases List.mem_cons.mp listed with rfl | digit
    · exact isLower_of_ascii (by decide) (by decide)
    · exact isLower_of_isDigit (Nat.isDigit_of_mem_toDigits (by decide) (by decide) digit)
  have cut : (name ++ "#" ++ toString n).toList = name.toList ++ '#' :: Nat.toDigits 10 n := by
    simp
  rw [lowercase, cut, lowercaseAfter_append (by decide +kernel) (by decide +kernel),
    lowercaseAfter_of_isLower tailLower, ← number]
  simp [lowercase, ← String.toList_inj]

/-- Two numbered names agree only if the names and the numbers do. -/
theorem numbered_inj {name other : String} {n m : Nat} :
    name ++ "#" ++ toString n = other ++ "#" ++ toString m ↔ name = other ∧ n = m := by
  constructor
  · intro same
    have free : ∀ k, '#' ∉ (Nat.toDigits 10 k).reverse := by
      intro k listed
      have digit := Nat.isDigit_of_mem_toDigits (by decide) (by decide) (List.mem_reverse.mp listed)
      exact absurd digit (by decide)
    have turned : ∀ (s : String) (k : Nat), cutFirst '#' (s ++ "#" ++ toString k).toList.reverse =
        some ((Nat.toDigits 10 k).reverse, s.toList.reverse) := by
      intro s k
      have shape : (s ++ "#" ++ toString k).toList.reverse =
          (Nat.toDigits 10 k).reverse ++ '#' :: s.toList.reverse := by
        rw [Nat.toString_eq_ofList_toDigits]
        simp
      rw [shape]
      exact cutFirst_append (free k) _
    have cut := turned name n
    rw [same, turned other m] at cut
    simp only [Option.some.injEq, Prod.mk.injEq, List.reverse_inj, String.toList_inj] at cut
    refine ⟨cut.2.symm, ?_⟩
    rw [← Nat.ofDigitChars_toDigits (b := 10) (n := n) (by decide) (by decide),
      ← cut.1, Nat.ofDigitChars_toDigits (by decide) (by decide)]
  · intro known
    rcases known with ⟨rfl, rfl⟩
    rfl

end SqlLineage.Text
