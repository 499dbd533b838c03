/-
Module: SqlLineage.Proofs.Script.WordEnds
Purpose: Words are cut off a script at full length: behind a word that the next token touches stands no
  character that a name could go on with. So a text is found at the head of tokens that are written out
  only where it is the text of the first of them.
Main exports: WordsEnd, wordsEnd_tokensFrom, WordsEnd.endsBefore, EndsBefore.stripStart?_append
-/
import Mathlib.Data.List.TakeWhile
import SqlLineage.Proofs.Script.Lookahead
import SqlLineage.Proofs.Script.Positions

namespace SqlLineage.Script

/-- Whether a word can start with this character. -/
def startsWord (c : Char) : Bool := isNameStart c && !c.isDigit

theorem isNamePart_of_startsWord {c : Char} (starts : startsWord c = true) : isNamePart c = true := by
  simp only [startsWord, isNameStart, Bool.and_eq_true, Bool.or_eq_true] at starts
  simp only [isNamePart, Text.isAlphanumeric, Bool.or_eq_true]
  tauto

/-- A lexeme that starts like a word is one. -/
theorem Lexeme.scan_of_startsWord {c : Char} (starts : startsWord c = true) (escapes : QuoteEscapes)
    (rest : List Char) : scan escapes c rest = word c rest := by
  have unlike : ∀ d, startsWord d = false → c ≠ d := by
    rintro d noStart rfl
    rw [starts] at noStart
    cases noStart
  obtain ⟨name, noDigit⟩ : isNameStart c = true ∧ c.isDigit = false := by
    simpa [startsWord] using starts
  simp [scan, unlike '-' (by decide), unlike '/' (by decide), unlike '\x27' (by decide),
    unlike '\x22' (by decide), unlike '\x60' (by decide), noDigit, name]

/-! ### Texts that end where a name does -/

/-- Whether a text that starts like a word is all of the name at the head of the text and what is behind
it. -/
def EndsBefore (text behind : List Char) : Prop :=
  ∀ c ∈ text.head?, startsWord c = true →
    (∀ d ∈ text, isNamePart d = true) ∧ Barred isNamePart behind

theorem takeWhile_append_of_barred {p : Char → Bool} {text behind : List Char}
    (all : ∀ c ∈ text, p c = true) (barred : Barred p behind) : (text ++ behind).takeWhile p = text := by
  have whole : text.takeWhile p = text := List.takeWhile_eq_self_iff.mpr all
  have span := (barred.span_append text).1
  rwa [whole] at span

/-- A word and the mark behind it stand at the head of a text only if the word is all of the name there. -/
theorem EndsBefore.stripStart?_append {text behind word mark : List Char} (ends : EndsBefore text behind)
    (nonempty : text ≠ []) (starts : ∃ c ∈ word.head?, startsWord c = true)
    (isName : ∀ c ∈ word, isNamePart c = true) (barred : ∀ rest, Barred isNamePart (mark ++ rest)) :
    Text.stripStart? (word ++ mark) (text ++ behind) =
      if text = word then Text.stripStart? mark behind else none := by
  by_cases same : text = word
  · subst same
    rw [if_pos rfl]
    apply Option.ext
    intro rest
    rw [Text.stripStart?_eq_some_iff, Text.stripStart?_eq_some_iff, List.append_assoc,
      List.append_cancel_left_eq]
  · rw [if_neg same, Option.eq_none_iff_forall_ne_some]
    intro rest found
    have shape : text ++ behind = word ++ (mark ++ rest) := by
      simpa using Text.stripStart?_eq_some_iff.mp found
    obtain ⟨first, isFirst, startsToo⟩ := starts
    have head : first ∈ text.head? := by
      have heads := congrArg List.head? shape
      rwa [List.head?_append_of_ne_nil _ nonempty, List.head?_append, Option.mem_def.mp isFirst,
        Option.some_or] at heads
    obtain ⟨whole, stops⟩ := ends first head startsToo
    apply same
    have names := congrArg (List.takeWhile isNamePart) shape
    rwa [takeWhile_append_of_barred whole stops, takeWhile_append_of_barred isName (barred rest)] at names

/-! ### Tokens -/

/-- Whether the token starts like a word. -/
def Token.startsWord (token : Token) : Bool := token.text.toList.head?.any Script.startsWord

/-- Whether the words among the tokens are whole: they hold name parts only, and a token that a word
touches does not go on with one. -/
structure WordsEnd (tokens : List Token) : Prop where
  nonempty : ∀ token ∈ tokens, token.text.toList ≠ []
  whole : ∀ token ∈ tokens, token.startsWord = true → ∀ c ∈ token.text.toList, isNamePart c = true
  apart : tokens.Pairwise fun left right =>
    left.startsWord = true → left.stop < right.offset ∨ Barred isNamePart right.text.toList

theorem WordsEnd.sublist {tokens kept : List Token} (ends : WordsEnd tokens) (among : kept.Sublist tokens) :
    WordsEnd kept where
  nonempty token listed := ends.nonempty token (among.subset listed)
  whole token listed := ends.whole token (among.subset listed)
  apart := ends.apart.sublist among

variable {escapes : QuoteEscapes} {offset : Nat} {cs : List Char}

/-- Where the text is barred, a token that touches its start is barred too. -/
theorem barred_of_mem_tokensFrom {p : Char → Bool} (barred : Barred p cs) {token : Token}
    (member : token ∈ tokensFrom escapes offset cs) :
    offset < token.offset ∨ Barred p token.text.toList := by
  rcases cs with _ | ⟨c, rest⟩
  · rw [tokensFrom_nil] at member
    cases member
  · by_cases blank : Text.isBlank c = true
    · rw [tokensFrom_blank blank] at member
      have place := (bounds_of_mem_tokensFrom member).1
      have advance := c.utf8Size_pos
      exact .inl (by omega)
    · rw [tokensFrom_lexeme blank] at member
      rcases List.mem_cons.mp member with rfl | later
      · right
        obtain ⟨more, head⟩ := Lexeme.scan_head escapes c rest
        have first := barred c rest rfl
        intro d others shape
        rw [Lexeme.toToken, String.toList_ofList, head] at shape
        obtain ⟨rfl, _⟩ := List.cons.inj shape
        exact first
      · have place := (bounds_of_mem_tokensFrom later).1
        have advance := offset_lt_stop_scan escapes offset c rest
        exact .inl (by omega)

/-- The tokens of a text end where words do. -/
theorem wordsEnd_tokensFrom (escapes : QuoteEscapes) (offset : Nat) (cs : List Char) :
    WordsEnd (tokensFrom escapes offset cs) := by
  induction offset, cs using lexing_induction escapes with
  | done offset =>
      rw [tokensFrom_nil]
      exact ⟨List.forall_mem_nil _, List.forall_mem_nil _, .nil⟩
  | blank offset c rest isBlank ih =>
      rw [tokensFrom_blank isBlank]
      exact ih
  | token offset c rest visible ih =>
      obtain ⟨more, head⟩ := Lexeme.scan_head escapes c rest
      have text : ((Lexeme.scan escapes c rest).toToken offset).text.toList = c :: more := by
        rw [Lexeme.toToken, String.toList_ofList, head]
      have isWord : ((Lexeme.scan escapes c rest).toToken offset).startsWord = true →
          Lexeme.scan escapes c rest = Lexeme.word c rest := by
        intro starts
        rw [Token.startsWord, text] at starts
        exact Lexeme.scan_of_startsWord starts escapes rest
      rw [tokensFrom_lexeme visible]
      refine ⟨List.forall_mem_cons.mpr ⟨by simp [text], ih.nonempty⟩,
        List.forall_mem_cons.mpr ⟨fun starts => ?_, ih.whole⟩,
        List.pairwise_cons.mpr ⟨fun later member starts => ?_, ih.apart⟩⟩
      · rw [Token.startsWord, text] at starts
        rw [Lexeme.toToken, String.toList_ofList, Lexeme.scan_of_startsWord starts]
        exact List.forall_mem_cons.mpr ⟨isNamePart_of_startsWord starts,
          fun d listed => List.all_eq_true.mp List.all_takeWhile d listed⟩
      · refine barred_of_mem_tokensFrom ?_ member
        rw [isWord starts]
        exact barred_dropWhile isNamePart rest

/-- Tokens that are written out behind a word do not go on with it. -/
theorem WordsEnd.endsBefore {token : Token} {rest : List Token} (ends : WordsEnd (token :: rest)) :
    EndsBefore token.text.toList (renderAfter token.stop rest).toList := by
  intro c isFirst starts
  have word : token.startsWord = true := by
    rw [Token.startsWord, Option.mem_def.mp isFirst]
    exact starts
  refine ⟨ends.whole token List.mem_cons_self word, ?_⟩
  rcases rest with _ | ⟨next, rest⟩
  · exact fun d others shape => nomatch shape
  · rw [renderAfter]
    by_cases gap : next.offset > token.stop
    · rw [if_pos gap]
      intro d others shape
      have space : ' ' :: (next.text ++ renderAfter next.stop rest).toList = d :: others := by
        simpa using shape
      obtain ⟨rfl, _⟩ := List.cons.inj space
      decide
    · have barred : Barred isNamePart next.text.toList :=
        ((List.pairwise_cons.mp ends.apart).1 next List.mem_cons_self word).resolve_left gap
      rw [if_neg gap]
      obtain ⟨first, more, text⟩ := List.exists_cons_of_ne_nil
        (ends.nonempty next (List.mem_cons_of_mem token List.mem_cons_self))
      intro d others shape
      have start : first :: (more ++ (renderAfter next.stop rest).toList) = d :: others := by
        simpa [text] using shape
      obtain ⟨rfl, _⟩ := List.cons.inj start
      exact barred first more text

end SqlLineage.Script
