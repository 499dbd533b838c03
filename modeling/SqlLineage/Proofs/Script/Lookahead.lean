/-
Module: SqlLineage.Proofs.Script.Lookahead
Purpose: How far the lexer looks ahead. A lexeme is read again, whole and no longer, if the text behind it
  is cut short somewhere and ends there or goes on with a space or a semicolon.
Main exports: CutShort, Lexeme.Rereads, Lexeme.scan_of_cutShort
-/
import SqlLineage.Script.Lexer

namespace SqlLineage.Script

/-! ### Texts that are cut short -/

/-- The characters with which a text may go on where it is cut: neither belongs to the middle of a token
that is not quoted. -/
def isSeparator (c : Char) : Bool := c = ' ' || c = ';'

/-- Whether the second text is the first one cut short: they agree up to some place, where the second one
ends or goes on with a separator. A text that has come to its end is not cut any more. -/
inductive CutShort : List Char → List Char → Prop where
  | whole : CutShort [] []
  | ended (c : Char) (rest : List Char) : CutShort (c :: rest) []
  | separated (c : Char) (rest : List Char) {d : Char} (more : List Char)
      (separator : isSeparator d = true) : CutShort (c :: rest) (d :: more)
  | same (c : Char) {rest more : List Char} (onward : CutShort rest more) :
      CutShort (c :: rest) (c :: more)

/-- Whether a text does not start with a character that satisfies the test. -/
def Barred (p : Char → Bool) (text : List Char) : Prop := ∀ c rest, text = c :: rest → p c = false

theorem barred_dropWhile (p : Char → Bool) (text : List Char) : Barred p (text.dropWhile p) := by
  intro c rest shape
  have first := List.head?_dropWhile_not p text
  rwa [shape] at first

/-- A run of characters ends where the text behind it is barred. -/
theorem Barred.span_append {p : Char → Bool} {rest : List Char} (barred : Barred p rest)
    (text : List Char) :
    (text.takeWhile p ++ rest).takeWhile p = text.takeWhile p ∧
      (text.takeWhile p ++ rest).dropWhile p = rest := by
  have run : ∀ c ∈ text.takeWhile p, p c = true :=
    fun c member => List.all_eq_true.mp List.all_takeWhile c member
  rw [List.takeWhile_append_of_pos run, List.dropWhile_append_of_pos run]
  cases rest with
  | nil => simp
  | cons c more => simp [barred c more rfl]

namespace CutShort

variable {text short : List Char}

theorem append (word : List Char) (cut : CutShort text short) :
    CutShort (word ++ text) (word ++ short) := by
  induction word with
  | nil => exact cut
  | cons c word ih => exact .same c ih

theorem eq_nil (cut : CutShort [] short) : short = [] := by
  cases cut
  rfl

/-- Cutting a text short does not let a run of characters go on. -/
theorem barred {p : Char → Bool} (apart : ∀ c, isSeparator c = true → p c = false)
    (cut : CutShort text short) (barred : Barred p text) : Barred p short := by
  intro c rest shape
  subst shape
  cases cut with
  | separated first others _ separator => exact apart c separator
  | same _ onward => exact barred c _ rfl

/-- A run of characters is read again up to its last one where the text behind it is cut short. -/
theorem span {p : Char → Bool} (apart : ∀ c, isSeparator c = true → p c = false)
    (cut : CutShort (text.dropWhile p) short) :
    (text.takeWhile p ++ short).takeWhile p = text.takeWhile p ∧
      (text.takeWhile p ++ short).dropWhile p = short :=
  (cut.barred apart (barred_dropWhile p text)).span_append text

end CutShort

theorem isSeparator_iff (c : Char) : isSeparator c = true ↔ c = ' ' ∨ c = ';' := by
  simp [isSeparator]

/-- A test that neither a space nor a semicolon satisfies is satisfied by no separator. -/
theorem apart_of_separators {p : Char → Bool} (space : p ' ' = false) (semicolon : p ';' = false) :
    ∀ c, isSeparator c = true → p c = false := by
  intro c separator
  rcases (isSeparator_iff c).mp separator with rfl | rfl
  · exact space
  · exact semicolon

/-! ### Readers -/

/-- A character that neither escapes the next one nor is the quote is passed over. -/
theorem readQuoted_cons {quote c : Char} {backslash : Bool}
    (plain : ¬ (c = '\\' && backslash) = true) (inside : c ≠ quote) (cs : List Char) :
    readQuoted quote backslash (c :: cs) =
      (c :: (readQuoted quote backslash cs).1, (readQuoted quote backslash cs).2) := by
  cases cs with
  | nil => rfl
  | cons d rest => simp_all [readQuoted]

/-- A quoted run that was closed is closed at the same quote again, and one that was not closed has
nothing behind it. -/
theorem readQuoted_of_cutShort {quote : Char} (backslash : Bool) (apart : isSeparator quote = false)
    (cs : List Char) {short : List Char} (cut : CutShort (readQuoted quote backslash cs).2 short) :
    readQuoted quote backslash ((readQuoted quote backslash cs).1 ++ short) =
      ((readQuoted quote backslash cs).1, short) := by
  fun_induction readQuoted quote backslash cs with
  | case1 =>
      rw [cut.eq_nil]
      rfl
  | case2 c =>
      rw [cut.eq_nil]
      rfl
  | case3 c d rest escaped tail ih => simp [readQuoted, escaped, tail, ih cut]
  | case4 d rest unescaped =>
      cases short with
      | nil => rfl
      | cons e more =>
          -- The quote is not doubled now, for what stands behind it is a separator or what stood there.
          have single : e ≠ quote := by
            rintro rfl
            cases cut with
            | separated _ _ _ separator => simp [apart] at separator
            | same _ _ => simp at unescaped
          simp_all [readQuoted]
  | case5 c d rest unescaped inside tail ih =>
      have plain : ¬ (c = '\\' && backslash) = true := by
        intro escape
        simp [escape] at unescaped
      rw [List.cons_append, readQuoted_cons plain inside, ih cut]

/-- An exponent that could not start where the text was not cut cannot start where it is. -/
theorem readExponent_of_cutShort_of_none {cs short : List Char} (none : (readExponent cs).1 = [])
    (cut : CutShort cs short) : readExponent short = ([], short) := by
  match cut with
  | .whole => rfl
  | .ended _ _ => rfl
  | .separated _ _ [] separator => rfl
  | .separated _ _ (sign :: more) separator =>
      rcases (isSeparator_iff _).mp separator with rfl | rfl <;> rfl
  | .same e .whole => rfl
  | .same e (.ended _ _) => rfl
  | .same e (.separated sign _ more separator) =>
      rcases (isSeparator_iff _).mp separator with rfl | rfl <;> simp [readExponent]
  | .same e (.same sign onward) =>
      simp only [readExponent] at none ⊢
      split at none
      · simp at none
      · next noExponent => simp [noExponent]

/-- An exponent is read again up to its last digit. -/
theorem readExponent_of_cutShort (cs : List Char) {short : List Char}
    (cut : CutShort (readExponent cs).2 short) :
    readExponent ((readExponent cs).1 ++ short) = ((readExponent cs).1, short) := by
  by_cases none : (readExponent cs).1 = []
  · have whole : (readExponent cs).2 = cs := by simpa [none] using readExponent_append cs
    rw [none, List.nil_append]
    exact readExponent_of_cutShort_of_none none (whole ▸ cut)
  · fun_cases readExponent cs with
    | case1 e sign rest starts =>
        simp only [readExponent, starts, if_true] at cut ⊢
        obtain ⟨first, second⟩ := cut.span (apart_of_separators (by decide) (by decide))
        simp [starts, first, second]
    | case2 e sign rest starts => simp [readExponent, starts] at none
    | case3 cs short => simp [readExponent] at none

/-- A number is read again up to its last character. -/
theorem readNumber_of_cutShort (cs : List Char) {short : List Char}
    (cut : CutShort (readNumber cs).2 short) :
    readNumber ((readNumber cs).1 ++ short) = ((readNumber cs).1, short) := by
  have cutBehind : CutShort (cs.dropWhile isNumberPart)
      ((readExponent (cs.dropWhile isNumberPart)).1 ++ short) := by
    have onward := cut.append (readExponent (cs.dropWhile isNumberPart)).1
    rwa [readNumber, readExponent_append] at onward
  obtain ⟨first, second⟩ := cutBehind.span (apart_of_separators (by decide) (by decide))
  have exponent := readExponent_of_cutShort _ cut
  simp only [readNumber, List.append_assoc, first, second, exponent]

/-! ### Lexemes -/

namespace Lexeme

/-- Whether a way to cut a lexeme off a text finds the same one again where the text behind it is cut
short. The first character is given with the way to cut. -/
def Rereads (cutOff : List Char → Lexeme) : Prop :=
  ∀ rest short, CutShort (cutOff rest).rest short →
    cutOff ((cutOff rest).text.tail ++ short) = { cutOff rest with rest := short }

theorem rereads_single (kind : TokenKind) (c : Char) : Rereads (single kind c) :=
  fun _ _ _ => rfl

theorem rereads_run (kind : TokenKind) (p : Char → Bool) (c : Char) (space : p ' ' = false)
    (semicolon : p ';' = false) : Rereads (run kind p c) := by
  intro rest short cut
  obtain ⟨first, second⟩ := CutShort.span (apart_of_separators space semicolon) cut
  simp only [run, List.tail_cons, first, second]

theorem rereads_quoted (kind : TokenKind) {quote : Char} (backslash : Bool)
    (apart : isSeparator quote = false) : Rereads (quoted kind quote backslash) := by
  intro rest short cut
  simp only [quoted, List.tail_cons, readQuoted_of_cutShort backslash apart rest cut]

theorem rereads_word (c : Char) : Rereads (word c) := by
  intro rest short cut
  obtain ⟨first, second⟩ := CutShort.span (apart_of_separators (by decide) (by decide)) cut
  simp only [word, List.tail_cons, first, second]

theorem rereads_number (c : Char) : Rereads (number c) := by
  intro rest short cut
  simp only [number, List.tail_cons, readNumber_of_cutShort rest cut]

/-- Whether a lexeme is a comment. -/
def isComment (lexeme : Lexeme) : Bool :=
  lexeme.kind = .lineComment || lexeme.kind = .blockComment

/-- Whether the two characters open a comment. -/
def opensComment (c d : Char) : Bool := (c = '-' && d = '-') || (c = '/' && d = '*')

theorem dashOrSlash_of_barred {c : Char} {rest : List Char} (barred : Barred (opensComment c) rest) :
    dashOrSlash c rest = single .operator c rest := by
  unfold dashOrSlash
  split
  · next more =>
      have apart : c ≠ '-' := by simpa [opensComment] using barred '-' more rfl
      simp [apart]
  · next more =>
      have apart : c ≠ '/' := by simpa [opensComment] using barred '*' more rfl
      simp [apart]
  · rfl

theorem barred_of_not_isComment {c : Char} {rest : List Char}
    (operator : (dashOrSlash c rest).isComment = false) : Barred (opensComment c) rest := by
  rintro d more rfl
  cases opens : opensComment c d with
  | false => rfl
  | true =>
      simp only [opensComment, Bool.or_eq_true, Bool.and_eq_true, decide_eq_true_eq] at opens
      rcases opens with ⟨rfl, rfl⟩ | ⟨rfl, rfl⟩
      · simp [dashOrSlash, run, isComment] at operator
      · simp [dashOrSlash, isComment] at operator

/-- The lexer finds a lexeme again if the way to cut it off does that the lexer chooses. -/
theorem Rereads.scan {cutOff : List Char → Lexeme} (rereads : Rereads cutOff) {escapes : QuoteEscapes}
    {c : Char} (chosen : ∀ rest, Lexeme.scan escapes c rest = cutOff rest) :
    Rereads (Lexeme.scan escapes c) := by
  intro rest short cut
  rw [chosen] at cut ⊢
  rw [chosen]
  exact rereads rest short cut

/-- Where no comment can start, the lexer finds its lexemes again. -/
theorem rereads_scan (escapes : QuoteEscapes) {c : Char} (noDash : ¬ (c = '-' || c = '/') = true) :
    Rereads (scan escapes c) := by
  by_cases single : c = '\x27'
  · have apart : isSeparator c = false := by simp [isSeparator, single]
    exact (rereads_quoted .stringLiteral (escapes = .backslash) apart).scan
      fun rest => by simp [scan, single]
  by_cases double : c = '\x22'
  · have apart : isSeparator c = false := by simp [isSeparator, double]
    exact (rereads_quoted .quotedIdentifier (escapes = .backslash) apart).scan
      fun rest => by simp [scan, double]
  by_cases back : c = '\x60'
  · have apart : isSeparator c = false := by simp [isSeparator, back]
    exact (rereads_quoted .quotedIdentifier false apart).scan fun rest => by simp [scan, back]
  have plain : ∀ rest, scan escapes c rest =
      if c.isDigit then number c rest
      else if isNameStart c then word c rest
      else if isPunctuation c then Lexeme.single .punctuation c rest
      else if isOperatorRun c then run .operator isOperatorRun c rest
      else if isSingleOperator c then Lexeme.single .operator c rest
      else Lexeme.single .unknown c rest := by
    intro rest
    rw [scan, if_neg noDash, if_neg single, if_neg double, if_neg back]
  by_cases digit : c.isDigit
  · exact (rereads_number c).scan fun rest => by rw [plain, if_pos digit]
  by_cases name : isNameStart c
  · exact (rereads_word c).scan fun rest => by rw [plain, if_neg digit, if_pos name]
  by_cases mark : isPunctuation c
  · exact (rereads_single .punctuation c).scan fun rest => by
      rw [plain, if_neg digit, if_neg name, if_pos mark]
  by_cases operator : isOperatorRun c
  · exact (rereads_run .operator isOperatorRun c (by decide) (by decide)).scan fun rest => by
      rw [plain, if_neg digit, if_neg name, if_neg mark, if_pos operator]
  by_cases lone : isSingleOperator c
  · exact (rereads_single .operator c).scan fun rest => by
      rw [plain, if_neg digit, if_neg name, if_neg mark, if_neg operator, if_pos lone]
  · exact (rereads_single .unknown c).scan fun rest => by
      rw [plain, if_neg digit, if_neg name, if_neg mark, if_neg operator, if_neg lone]

/-- A lexeme that is no comment is found again where the text behind it is cut short. -/
theorem scan_of_cutShort {escapes : QuoteEscapes} {c : Char} {rest short : List Char}
    (significant : (scan escapes c rest).isComment = false)
    (cut : CutShort (scan escapes c rest).rest short) :
    scan escapes c ((scan escapes c rest).text.tail ++ short) =
      { scan escapes c rest with rest := short } := by
  by_cases dash : (c = '-' || c = '/') = true
  · have chosen : ∀ more, scan escapes c more = dashOrSlash c more := by
      intro more
      rw [scan, if_pos dash]
    rw [chosen] at significant cut
    have barred := barred_of_not_isComment significant
    have apart : ∀ d, isSeparator d = true → opensComment c d = false :=
      apart_of_separators (by simp [opensComment]) (by simp [opensComment])
    rw [chosen, chosen, dashOrSlash_of_barred barred]
    rw [dashOrSlash_of_barred barred] at cut
    exact dashOrSlash_of_barred (cut.barred apart barred)
  · exact rereads_scan escapes dash rest short cut

end Lexeme

end SqlLineage.Script
