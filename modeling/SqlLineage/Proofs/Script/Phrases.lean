/-
Module: SqlLineage.Proofs.Script.Phrases
Purpose: The phrases that statements are made of, as relations on tokens: keywords one after the other,
  dotted names, and stretches with balanced parentheses. A reader takes its phrase whole and leaves what is
  behind it.
Main exports: SpellsWords, SpellsName, Balanced, SpellsName.readObjectName_append,
  Balanced.afterTopLevel?_append, Balanced.readCondition_append
-/
import Mathlib.Data.List.Forall2
import SqlLineage.Proofs.Script.ScanSteps

namespace SqlLineage.Script

/-! ### What one token tells of others -/

namespace Token

variable {token : Token} {word mark : String}

theorem kind_of_isKeyword (isWord : token.isKeyword word = true) : token.kind = .keyword := by
  simp only [isKeyword, Bool.and_eq_true, decide_eq_true_eq] at isWord
  exact isWord.1

theorem kind_of_isMark (isMark : token.isMark mark = true) : token.kind = .punctuation := by
  simp only [Token.isMark, Bool.and_eq_true, decide_eq_true_eq] at isMark
  exact isMark.1

theorem isKeyword_of_kind (kind : token.kind ≠ .keyword) (word : String) :
    token.isKeyword word = false := by
  simp [isKeyword, kind]

theorem isAnyKeyword_of_kind (kind : token.kind ≠ .keyword) (words : List String) :
    token.isAnyKeyword words = false := by
  simp [isAnyKeyword, isKeyword_of_kind kind]

theorem isMark_of_kind (kind : token.kind ≠ .punctuation) (mark : String) :
    token.isMark mark = false := by
  simp [isMark, kind]

theorem isPlain_of_kind (kind : token.kind ≠ .punctuation) : token.IsPlain := by
  simp [IsPlain, isMark_of_kind kind]

/-- A keyword is no other word. -/
theorem isWord_eq_of_isKeyword (isWord : token.isKeyword word = true) (other : String) :
    token.isWord other = Text.sameIgnoringCase word other := by
  simp only [isKeyword, Bool.and_eq_true] at isWord
  have spelt := (Text.sameIgnoringCase_iff _ _).mp isWord.2
  rw [Token.isWord, Text.sameIgnoringCase, Text.sameIgnoringCase, spelt]

theorem isKeyword_eq_of_isKeyword (isWord : token.isKeyword word = true) (other : String) :
    token.isKeyword other = Text.sameIgnoringCase word other := by
  have same := isWord_eq_of_isKeyword isWord other
  rw [Token.isWord] at same
  simp [isKeyword, kind_of_isKeyword isWord, same]

theorem isAnyKeyword_eq_of_isKeyword (isWord : token.isKeyword word = true) (others : List String) :
    token.isAnyKeyword others = others.any (Text.sameIgnoringCase word) := by
  simp only [isAnyKeyword, isKeyword_eq_of_isKeyword isWord]

section Several

variable {words others : List String}

theorem exists_of_isAnyKeyword (isAny : token.isAnyKeyword words = true) :
    ∃ word ∈ words, token.isKeyword word = true :=
  List.any_eq_true.mp isAny

theorem isAnyKeyword_of_mem {word : String} (isWord : token.isKeyword word = true) (listed : word ∈ words) :
    token.isAnyKeyword words = true :=
  List.any_eq_true.mpr ⟨word, listed, isWord⟩

theorem kind_of_isAnyKeyword (isAny : token.isAnyKeyword words = true) : token.kind = .keyword := by
  obtain ⟨word, _, isWord⟩ := exists_of_isAnyKeyword isAny
  exact kind_of_isKeyword isWord

theorem isAnyKeyword_of_subset (isAny : token.isAnyKeyword words = true) (among : words ⊆ others) :
    token.isAnyKeyword others = true := by
  obtain ⟨word, listed, isWord⟩ := exists_of_isAnyKeyword isAny
  exact isAnyKeyword_of_mem isWord (among listed)

theorem isKeyword_of_isAnyKeyword (isAny : token.isAnyKeyword words = true) {other : String}
    (apart : ∀ word ∈ words, Text.sameIgnoringCase word other = false) :
    token.isKeyword other = false := by
  obtain ⟨word, listed, isWord⟩ := exists_of_isAnyKeyword isAny
  rw [isKeyword_eq_of_isKeyword isWord, apart word listed]

theorem isAnyKeyword_of_apart (isAny : token.isAnyKeyword words = true)
    (apart : ∀ word ∈ words, others.any (Text.sameIgnoringCase word) = false) :
    token.isAnyKeyword others = false := by
  obtain ⟨word, listed, isWord⟩ := exists_of_isAnyKeyword isAny
  rw [isAnyKeyword_eq_of_isKeyword isWord, apart word listed]

theorem isMark_of_isAnyKeyword (isAny : token.isAnyKeyword words = true) (mark : String) :
    token.isMark mark = false :=
  isMark_of_kind (by simp [kind_of_isAnyKeyword isAny]) mark

theorem isPlain_of_isAnyKeyword (isAny : token.isAnyKeyword words = true) : token.IsPlain :=
  isPlain_of_kind (by simp [kind_of_isAnyKeyword isAny])

end Several

theorem isMark_of_isKeyword (isWord : token.isKeyword word = true) (mark : String) :
    token.isMark mark = false :=
  isMark_of_kind (by simp [kind_of_isKeyword isWord]) mark

theorem isName_of_isKeyword (isWord : token.isKeyword word = true) : token.isName = false := by
  simp [isName, kind_of_isKeyword isWord]

theorem isPlain_of_isKeyword (isWord : token.isKeyword word = true) : token.IsPlain :=
  isPlain_of_kind (by simp [kind_of_isKeyword isWord])

/-- A mark is no other one. -/
theorem isMark_eq_of_isMark (isMark : token.isMark mark = true) (other : String) :
    token.isMark other = (mark == other) := by
  simp only [Token.isMark, Bool.and_eq_true, decide_eq_true_eq, beq_iff_eq] at isMark
  simp [Token.isMark, isMark]

/-- A mark is no keyword. -/
theorem isAnyKeyword_of_isMark (isMark : token.isMark mark = true) (words : List String) :
    token.isAnyKeyword words = false :=
  isAnyKeyword_of_kind (by simp [kind_of_isMark isMark]) words

theorem kind_of_isName (isName : token.isName = true) :
    token.kind ≠ .keyword ∧ token.kind ≠ .punctuation := by
  constructor
  · intro kind
    simp [Token.isName, kind] at isName
  · intro kind
    simp [Token.isName, kind] at isName

theorem isKeyword_of_isName (isName : token.isName = true) (word : String) :
    token.isKeyword word = false :=
  isKeyword_of_kind (kind_of_isName isName).1 word

theorem isAnyKeyword_of_isName (isName : token.isName = true) (words : List String) :
    token.isAnyKeyword words = false :=
  isAnyKeyword_of_kind (kind_of_isName isName).1 words

theorem isMark_of_isName (isName : token.isName = true) (mark : String) : token.isMark mark = false :=
  isMark_of_kind (kind_of_isName isName).2 mark

theorem isPlain_of_isName (isName : token.isName = true) : token.IsPlain :=
  isPlain_of_kind (kind_of_isName isName).2

end Token

/-! ### Keywords -/

/-- Whether tokens are these keywords, one after the other. -/
def SpellsWords (words : List String) (tokens : List Token) : Prop :=
  List.Forall₂ (fun word token => token.isKeyword word = true) words tokens

/-- Whether tokens are the keywords of one of these phrases. -/
def SpellsOneOf (phrases : List (List String)) (tokens : List Token) : Prop :=
  ∃ words ∈ phrases, SpellsWords words tokens

theorem spellsWords_nil {tokens : List Token} : SpellsWords [] tokens ↔ tokens = [] := by
  simp [SpellsWords]

theorem spellsWords_cons {word : String} {words : List String} {tokens : List Token} :
    SpellsWords (word :: words) tokens ↔
      ∃ token rest, token.isKeyword word = true ∧ SpellsWords words rest ∧ tokens = token :: rest := by
  simp [SpellsWords, List.forall₂_cons_left_iff]

theorem SpellsWords.isAnyKeyword {words others : List String} {tokens : List Token}
    (spells : SpellsWords words tokens) (among : words ⊆ others) :
    ∀ token ∈ tokens, token.isAnyKeyword others = true := by
  induction spells with
  | nil => exact List.forall_mem_nil _
  | @cons word token words tokens isWord _ ih =>
      obtain ⟨first, later⟩ := List.cons_subset.mp among
      exact List.forall_mem_cons.mpr ⟨Token.isAnyKeyword_of_mem isWord first, ih later⟩

section Readers

variable {word : String} {token : Token} {tokens rest : List Token}

theorem afterKeyword?_of_isKeyword (isWord : token.isKeyword word = true) :
    afterKeyword? word (token :: rest) = some rest := by
  simp [afterKeyword?, isWord]

theorem afterKeyword?_of_not (other : token.isKeyword word = false) :
    afterKeyword? word (token :: rest) = none := by
  simp [afterKeyword?, other]

theorem skipKeyword_of_isKeyword (isWord : token.isKeyword word = true) :
    skipKeyword word (token :: rest) = rest := by
  simp [skipKeyword, isWord]

theorem skipKeyword_of_not (other : token.isKeyword word = false) :
    skipKeyword word (token :: rest) = token :: rest := by
  simp [skipKeyword, other]

end Readers

/-! ### Dotted names -/

/-- Whether tokens are the parts of a dotted name, quoted or not, which spell these names. -/
inductive SpellsName : List Token → List String → Prop where
  | last {part : Token} (isName : part.isName = true) : SpellsName [part] [part.unquoted]
  | dotted {part dot : Token} {tokens : List Token} {names : List String}
      (isName : part.isName = true) (mark : dot.isMark "." = true) (onward : SpellsName tokens names) :
      SpellsName (part :: dot :: tokens) (part.unquoted :: names)

/-- Whether tokens do not go on with a dotted name that stands in front of them. -/
def EndsName (rest : List Token) : Prop :=
  ∀ dot next more, rest = dot :: next :: more → dot.isMark "." = true → next.isName = false

theorem endsName_of_head {rest : List Token}
    (head : ∀ token ∈ rest.head?, token.isMark "." = false) : EndsName rest := by
  rintro dot next more rfl isDot
  rw [head dot rfl] at isDot
  cases isDot

namespace SpellsName

variable {tokens rest : List Token} {names : List String}

/-- A dotted name starts with a name. -/
theorem exists_head (spells : SpellsName tokens names) :
    ∃ part more, tokens = part :: more ∧ part.isName = true := by
  cases spells with
  | last isName => exact ⟨_, _, rfl, isName⟩
  | dotted isName mark onward => exact ⟨_, _, rfl, isName⟩

/-- A dotted name ends with a name. -/
theorem exists_last (spells : SpellsName tokens names) :
    ∃ front part, tokens = front ++ [part] ∧ part.isName = true := by
  induction spells with
  | last isName => exact ⟨[], _, rfl, isName⟩
  | @dotted first dot tokens names isName mark onward ih =>
      obtain ⟨front, part, rfl, last⟩ := ih
      exact ⟨first :: dot :: front, part, rfl, last⟩

theorem ne_nil (spells : SpellsName tokens names) : names ≠ [] := by
  cases spells with
  | last isName => simp
  | dotted isName mark onward => simp

theorem readNameParts_append (spells : SpellsName tokens names) (ends : EndsName rest) :
    readNameParts (tokens ++ rest) = (names, rest) := by
  induction spells with
  | @last part isName =>
      rcases rest with _ | ⟨dot, _ | ⟨next, more⟩⟩
      · simp [readNameParts, isName]
      · simp [readNameParts, isName]
      · have apart : ¬ (dot.isMark "." && next.isName) = true := by
          rw [Bool.and_eq_true]
          rintro ⟨isDot, isNext⟩
          rw [ends dot next more rfl isDot] at isNext
          cases isNext
        rw [List.singleton_append, readNameParts, if_pos isName, if_neg apart]
  | @dotted part dot tokens names isName mark onward ih =>
      obtain ⟨next, more, rfl, isNext⟩ := onward.exists_head
      rw [List.cons_append] at ih
      rw [List.cons_append, List.cons_append, List.cons_append, readNameParts, if_pos isName,
        if_pos (by simp [mark, isNext]), ih]

/-- A dotted name is read up to where it ends. -/
theorem readObjectName_append (spells : SpellsName tokens names) (ends : EndsName rest) :
    readObjectName (tokens ++ rest) = some (Text.joinWith "." names, rest) := by
  have parts := spells.readNameParts_append ends
  obtain ⟨name, more, rfl⟩ := List.exists_cons_of_ne_nil spells.ne_nil
  rw [readObjectName, parts]

/-- A name is no keyword. -/
theorem afterKeyword?_append (spells : SpellsName tokens names) (word : String) (rest : List Token) :
    afterKeyword? word (tokens ++ rest) = none := by
  obtain ⟨part, more, rfl, isName⟩ := spells.exists_head
  exact afterKeyword?_of_not (Token.isKeyword_of_isName isName word)

theorem skipKeyword_append (spells : SpellsName tokens names) (word : String) (rest : List Token) :
    skipKeyword word (tokens ++ rest) = tokens ++ rest := by
  obtain ⟨part, more, rfl, isName⟩ := spells.exists_head
  exact skipKeyword_of_not (Token.isKeyword_of_isName isName word)

end SpellsName

/-! ### Parentheses -/

/-- Whether the parentheses of tokens are balanced, and what stands outside them is allowed. What stands
inside is not looked at, apart from its own parentheses. -/
inductive Balanced : (Token → Prop) → List Token → Prop where
  | nil {allowed : Token → Prop} : Balanced allowed []
  | plain {allowed : Token → Prop} {token : Token} {rest : List Token} (isPlain : token.IsPlain)
      (outside : allowed token) (onward : Balanced allowed rest) : Balanced allowed (token :: rest)
  | group {allowed : Token → Prop} {opening closing : Token} {inner rest : List Token}
      (opens : opening.isMark "(" = true) (inside : Balanced (fun _ => True) inner)
      (closes : closing.isMark ")" = true) (onward : Balanced allowed rest) :
      Balanced allowed (opening :: (inner ++ closing :: rest))

namespace Balanced

variable {allowed : Token → Prop} {tokens : List Token}

/-- Balanced tokens end with a closing parenthesis or with a token outside all of them. -/
theorem exists_last (balanced : Balanced allowed tokens) (nonempty : tokens ≠ []) :
    ∃ front final, tokens = front ++ [final] ∧ (final.isMark ")" = true ∨ allowed final) := by
  induction balanced with
  | nil => exact absurd rfl nonempty
  | @plain allowed token rest isPlain outside onward ih =>
      cases rest with
      | nil => exact ⟨[], token, rfl, .inr outside⟩
      | cons next more =>
          obtain ⟨front, final, shape, ends⟩ := ih (List.cons_ne_nil next more)
          exact ⟨token :: front, final, by rw [shape, List.cons_append], ends⟩
  | @group allowed opening closing inner rest opens inside closes onward _ ih =>
      cases rest with
      | nil => exact ⟨opening :: inner, closing, rfl, .inl closes⟩
      | cons next more =>
          obtain ⟨front, final, shape, ends⟩ := ih (List.cons_ne_nil next more)
          exact ⟨opening :: (inner ++ closing :: front), final, by simp [shape], ends⟩

/-- A keyword is looked for behind balanced tokens if it does not stand outside their parentheses. -/
theorem afterTopLevel?_append {word : String} {depth : Nat} (balanced : Balanced allowed tokens)
    (absent : depth = 0 → ∀ token, allowed token → token.isKeyword word = false) (rest : List Token) :
    afterTopLevel? word depth (tokens ++ rest) = afterTopLevel? word depth rest := by
  induction balanced generalizing depth rest with
  | nil => rfl
  | @plain allowed token tokens isPlain outside onward ih =>
      have passed : ¬ (depth = 0 && token.isKeyword word) = true := by
        rw [Bool.and_eq_true, decide_eq_true_eq]
        rintro ⟨top, isWord⟩
        rw [absent top token outside] at isWord
        cases isWord
      rw [List.cons_append, afterTopLevel?, if_neg isPlain.1, if_neg isPlain.2, if_neg passed,
        ih absent]
  | @group allowed opening closing inner tokens opens inside closes onward ihInside ih =>
      have noOpen : ¬ closing.isMark "(" = true := by simp [Token.isMark_eq_of_isMark closes]
      rw [List.cons_append, List.append_assoc, List.cons_append, afterTopLevel?, if_pos opens,
        ihInside (fun below => absurd below (Nat.succ_ne_zero depth)), afterTopLevel?, if_neg noOpen,
        if_pos closes, Nat.succ_sub_one, ih absent]

/-- A join condition goes on over balanced tokens if none of those outside their parentheses ends it. -/
theorem readCondition_append {depth : Nat} (balanced : Balanced allowed tokens)
    (inside : depth = 0 → ∀ token, allowed token → token.endsCondition = false) (rest : List Token) :
    readCondition depth (tokens ++ rest) =
      (tokens ++ (readCondition depth rest).1, (readCondition depth rest).2) := by
  induction balanced generalizing depth rest with
  | nil => rfl
  | @plain allowed token tokens isPlain outside onward ih =>
      rw [List.cons_append, readCondition_inside isPlain fun top => inside top token outside, ih inside]
      rfl
  | @group allowed opening closing inner tokens opens balancedInner closes onward ihInner ih =>
      have noOpen : ¬ closing.isMark "(" = true := by simp [Token.isMark_eq_of_isMark closes]
      rw [List.cons_append, List.append_assoc, List.cons_append, readCondition_open opens,
        ihInner (fun below => absurd below (Nat.succ_ne_zero depth)), readCondition_close noOpen closes,
        ih inside]
      simp

end Balanced

end SqlLineage.Script
