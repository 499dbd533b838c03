/-
Module: SqlLineage.Proofs.Script.LetterCase
Purpose: A script in capital letters is cut at the same places. Its tokens are those of the script in capital
  letters, and so are its statements.
Main exports: Lexeme.inCapitals, Token.inCapitals, Statement.inCapitals, tokenize_upper,
  Statement.split_upper
-/
import SqlLineage.Proofs.Script.Groups
import SqlLineage.Proofs.Script.Positions
import SqlLineage.Proofs.Script.WordEnds
import SqlLineage.Proofs.Text.Respelling

namespace SqlLineage.Script

open Text (capitals)

/-! ### Characters -/

theorem startsWord_of_isAlpha {c : Char} (letter : c.isAlpha = true) : startsWord c = true := by
  have code := Text.code_of_isAlpha letter
  have name : isNameStart c = true := by
    rw [isNameStart, Text.isAlphabetic_of_ascii (Text.ascii_of_isAlpha letter), letter]
    rfl
  have noDigit : c.isDigit = false := by
    rw [← Bool.not_eq_true]
    intro isDigit
    simp only [Char.isDigit, Bool.and_eq_true, decide_eq_true_eq] at isDigit
    have atMost : c.toNat ≤ 57 := isDigit.2
    omega
  rw [startsWord, name, noDigit]
  rfl

theorem startsWord_toUpper (c : Char) : startsWord c.toUpper = startsWord c :=
  Text.apply_toUpper startsWord_of_isAlpha c

theorem isNameStart_of_isAlpha {c : Char} (letter : c.isAlpha = true) : isNameStart c = true :=
  (Bool.and_eq_true_iff.mp (startsWord_of_isAlpha letter)).1

theorem isDigit_of_isAlpha {c : Char} (letter : c.isAlpha = true) : c.isDigit = false := by
  have starts := (Bool.and_eq_true_iff.mp (startsWord_of_isAlpha letter)).2
  rwa [Bool.not_eq_true'] at starts

theorem isNameStart_toUpper (c : Char) : isNameStart c.toUpper = isNameStart c :=
  Text.apply_toUpper isNameStart_of_isAlpha c

theorem isNamePart_toUpper (c : Char) : isNamePart c.toUpper = isNamePart c :=
  Text.apply_toUpper (fun letter => isNamePart_of_startsWord (startsWord_of_isAlpha letter)) c

theorem isDigit_toUpper (c : Char) : c.toUpper.isDigit = c.isDigit :=
  Text.apply_toUpper isDigit_of_isAlpha c

/-- A character is compared with a mark that is no letter in the same way in either case. -/
theorem toUpper_eq_mark (mark : Char) (noLetter : mark.isAlpha = false) (c : Char) :
    (c.toUpper = mark) = (c = mark) :=
  propext (Text.spares_toUpper noLetter c)

/-- An exponent may be marked with a small letter or a capital one. -/
theorem marksExponent_toUpper (c : Char) :
    (c.toUpper = 'e' ∨ c.toUpper = 'E') = (c = 'e' ∨ c = 'E') := by
  apply propext
  constructor
  · rintro (isSmall | isCapital)
    · have small := congrArg Char.isLower isSmall
      rw [Char.isLower_toUpper_eq_false] at small
      cases small
    · by_cases isLower : c.isLower = true
      · have lower : c.toLower = 'e' := by
          rw [← Char.toLower_toUpper_eq_toLower, isCapital]
          rfl
        have noCapital : ¬ c.isUpper = true := by
          intro isUpper
          simp only [Char.isUpper, Char.isLower, Bool.and_eq_true, decide_eq_true_eq,
            UInt32.le_iff_toNat_le] at isUpper isLower
          exact absurd (Nat.le_trans isLower.1 isUpper.2) (by decide)
        rw [← lower, Char.toLower_eq_of_not_isUpper noCapital]
        exact .inl rfl
      · rw [← isCapital, Char.toUpper_eq_of_not_isLower isLower]
        exact .inr rfl
  · rintro (rfl | rfl) <;> exact .inr rfl

theorem isNumberPart_toUpper (c : Char) : isNumberPart c.toUpper = isNumberPart c := by
  simp only [isNumberPart, isDigit_toUpper, toUpper_eq_mark '.' rfl]

theorem isPunctuation_toUpper (c : Char) : isPunctuation c.toUpper = isPunctuation c := by
  simp only [isPunctuation, toUpper_eq_mark '(' rfl, toUpper_eq_mark ')' rfl,
    toUpper_eq_mark ',' rfl, toUpper_eq_mark ';' rfl,
    toUpper_eq_mark '.' rfl, toUpper_eq_mark '[' rfl,
    toUpper_eq_mark ']' rfl]

theorem isOperatorRun_toUpper (c : Char) : isOperatorRun c.toUpper = isOperatorRun c := by
  simp only [isOperatorRun, toUpper_eq_mark '<' rfl, toUpper_eq_mark '>' rfl,
    toUpper_eq_mark '=' rfl, toUpper_eq_mark '!' rfl,
    toUpper_eq_mark '|' rfl, toUpper_eq_mark '&' rfl,
    toUpper_eq_mark ':' rfl]

theorem isSingleOperator_toUpper (c : Char) : isSingleOperator c.toUpper = isSingleOperator c := by
  simp only [isSingleOperator, toUpper_eq_mark '+' rfl, toUpper_eq_mark '-' rfl,
    toUpper_eq_mark '*' rfl, toUpper_eq_mark '/' rfl,
    toUpper_eq_mark '%' rfl, toUpper_eq_mark '^' rfl,
    toUpper_eq_mark '~' rfl]

/-! ### Readers of the lexer -/

theorem takeWhile_capitals {p : Char → Bool} (keeps : ∀ c : Char, p c.toUpper = p c) (cs : List Char) :
    (capitals cs).takeWhile p = capitals (cs.takeWhile p) := by
  have same : p ∘ Char.toUpper = p := funext keeps
  rw [capitals, capitals, List.takeWhile_map, same]

theorem readBlockComment_capitals (cs : List Char) :
    readBlockComment (capitals cs) = Prod.map capitals capitals (readBlockComment cs) := by
  fun_induction readBlockComment cs with
  | case1 => rfl
  | case2 rest => rfl
  | case3 c rest unclosed tail ih =>
      have unclosedToo : ∀ more, c.toUpper = '*' → capitals rest = '/' :: more → False := by
        intro more isStar shape
        obtain ⟨slash, others, rfl, isSlash, _⟩ := List.map_eq_cons_iff.mp shape
        rw [toUpper_eq_mark _ rfl] at isStar isSlash
        exact unclosed others isStar (by rw [isSlash])
      show readBlockComment (c.toUpper :: capitals rest) = _
      rw [readBlockComment, ih]
      · rfl
      · exact unclosedToo

theorem readQuoted_capitals {quote : Char} (noLetter : quote.isAlpha = false) (backslash : Bool)
    (cs : List Char) :
    readQuoted quote backslash (capitals cs) =
      Prod.map capitals capitals (readQuoted quote backslash cs) := by
  -- Whether two characters are taken together is seen in either case.
  have paired : ∀ c d : Char,
      ((c.toUpper = '\\' && backslash) || (c.toUpper = quote && d.toUpper = quote) : Bool) =
        ((c = '\\' && backslash) || (c = quote && d = quote) : Bool) := by
    intro c d
    simp only [toUpper_eq_mark '\\' rfl, toUpper_eq_mark _ noLetter]
  fun_induction readQuoted quote backslash cs with
  | case1 => rfl
  | case2 c => rfl
  | case3 c d rest pair tail ih =>
      show readQuoted quote backslash (c.toUpper :: d.toUpper :: capitals rest) = _
      rw [readQuoted, paired, if_pos pair, ih]
      rfl
  | case4 d rest pair =>
      show readQuoted quote backslash (quote.toUpper :: d.toUpper :: capitals rest) = _
      rw [readQuoted, paired, if_neg pair, if_pos ((Text.spares_toUpper noLetter quote).mpr rfl)]
      rfl
  | case5 c d rest pair inside tail ih =>
      show readQuoted quote backslash (c.toUpper :: capitals (d :: rest)) = _
      have insideToo : ¬ c.toUpper = quote := by rwa [toUpper_eq_mark _ noLetter]
      show readQuoted quote backslash (c.toUpper :: d.toUpper :: capitals rest) = _
      rw [readQuoted, paired, if_neg pair, if_neg insideToo]
      show (c.toUpper :: (readQuoted quote backslash (capitals (d :: rest))).1,
        (readQuoted quote backslash (capitals (d :: rest))).2) = _
      rw [ih]
      rfl

theorem readExponent_capitals (cs : List Char) :
    readExponent (capitals cs) = Prod.map capitals capitals (readExponent cs) := by
  have isMarked : ∀ c : Char, (c.toUpper = 'e' || c.toUpper = 'E' : Bool) = (c = 'e' || c = 'E' : Bool) := by
    intro c
    rw [← Bool.decide_or, ← Bool.decide_or, decide_eq_decide, marksExponent_toUpper]
  rcases cs with _ | ⟨e, _ | ⟨sign, rest⟩⟩
  · rfl
  · rfl
  · show readExponent (e.toUpper :: sign.toUpper :: capitals rest) = _
    rw [readExponent, readExponent]
    simp only [isMarked, isDigit_toUpper, toUpper_eq_mark '-' rfl,
      toUpper_eq_mark '+' rfl, takeWhile_capitals isDigit_toUpper,
      Text.dropWhile_capitals isDigit_toUpper]
    split
    · rfl
    · rfl

theorem readNumber_capitals (cs : List Char) :
    readNumber (capitals cs) = Prod.map capitals capitals (readNumber cs) := by
  rw [readNumber, readNumber, Text.dropWhile_capitals isNumberPart_toUpper,
    takeWhile_capitals isNumberPart_toUpper, readExponent_capitals]
  simp [Text.capitals_append]

/-! ### Lexemes -/

/-- The lexeme in capital letters, with what follows it. -/
def Lexeme.inCapitals (lexeme : Lexeme) : Lexeme :=
  ⟨lexeme.kind, capitals lexeme.text, capitals lexeme.rest⟩

namespace Lexeme

theorem run_capitals (kind : TokenKind) {p : Char → Bool} (keeps : ∀ c : Char, p c.toUpper = p c) (c : Char)
    (rest : List Char) : run kind p c.toUpper (capitals rest) = (run kind p c rest).inCapitals := by
  rw [run, takeWhile_capitals keeps, Text.dropWhile_capitals keeps]
  rfl

theorem quoted_capitals (kind : TokenKind) {quote : Char} (noLetter : quote.isAlpha = false)
    (backslash : Bool) (rest : List Char) :
    quoted kind quote.toUpper backslash (capitals rest) = (quoted kind quote backslash rest).inCapitals := by
  have unmoved : quote.toUpper = quote := (Text.spares_toUpper noLetter quote).mpr rfl
  rw [unmoved, quoted, readQuoted_capitals noLetter, quoted, inCapitals]
  show _ = Lexeme.mk kind (quote.toUpper :: _) _
  rw [unmoved]
  rfl

/-- A word is a keyword in any case or in none. -/
theorem wordKind_capitals (cs : List Char) :
    wordKind (String.ofList (capitals cs)) = wordKind (String.ofList cs) := by
  have same : Text.upper (String.ofList (capitals cs)) = Text.upper (String.ofList cs) := by
    simp [Text.upper, capitals, Function.comp_def]
  rw [wordKind, wordKind, same]

theorem word_capitals (c : Char) (rest : List Char) :
    word c.toUpper (capitals rest) = (word c rest).inCapitals := by
  have sameKind := wordKind_capitals (c :: rest.takeWhile isNamePart)
  simp only [word, inCapitals, takeWhile_capitals isNamePart_toUpper,
    Text.dropWhile_capitals isNamePart_toUpper, mk.injEq]
  exact ⟨sameKind, rfl, trivial⟩

theorem number_capitals (c : Char) (rest : List Char) :
    number c.toUpper (capitals rest) = (number c rest).inCapitals := by
  rw [number, readNumber_capitals]
  rfl

theorem dashOrSlash_capitals (c : Char) (rest : List Char) :
    dashOrSlash c.toUpper (capitals rest) = (dashOrSlash c rest).inCapitals := by
  rcases rest with _ | ⟨d, rest⟩
  · rfl
  · show dashOrSlash c.toUpper (d.toUpper :: capitals rest) = _
    by_cases isDash : d = '-'
    · subst isDash
      show (if c.toUpper = '-' then run .lineComment (· ≠ '\n') c.toUpper (capitals ('-' :: rest))
        else single .operator c.toUpper (capitals ('-' :: rest))) = _
      rw [dashOrSlash]
      simp only [toUpper_eq_mark '-' rfl]
      split
      · exact run_capitals _ (fun d => by simp only [ne_eq, toUpper_eq_mark '\n' rfl]) c _
      · rfl
    · by_cases isStar : d = '*'
      · subst isStar
        show (if c.toUpper = '/' then
            ⟨.blockComment, c.toUpper :: '*' :: (readBlockComment (capitals rest)).1,
              (readBlockComment (capitals rest)).2⟩
          else single .operator c.toUpper (capitals ('*' :: rest))) = _
        rw [dashOrSlash, readBlockComment_capitals]
        simp only [toUpper_eq_mark '/' rfl]
        split
        · rfl
        · rfl
      · have plain : ∀ (c d : Char) (rest : List Char), d ≠ '-' → d ≠ '*' →
            dashOrSlash c (d :: rest) = single .operator c (d :: rest) := by
          intro c d rest noDash noStar
          rw [dashOrSlash]
          · intro rest shape
            exact noDash (List.cons.inj shape).1
          · intro rest shape
            exact noStar (List.cons.inj shape).1
        rw [plain c d rest isDash isStar, plain _ _ _ (by rwa [ne_eq, toUpper_eq_mark _ rfl])
          (by rwa [ne_eq, toUpper_eq_mark _ rfl])]
        rfl

theorem scan_capitals (escapes : QuoteEscapes) (c : Char) (rest : List Char) :
    scan escapes c.toUpper (capitals rest) = (scan escapes c rest).inCapitals := by
  unfold scan
  simp only [toUpper_eq_mark '-' rfl, toUpper_eq_mark '/' rfl,
    toUpper_eq_mark '\x27' rfl, toUpper_eq_mark '\x22' rfl,
    toUpper_eq_mark '\x60' rfl, isDigit_toUpper, isNameStart_toUpper, isPunctuation_toUpper,
    isOperatorRun_toUpper, isSingleOperator_toUpper]
  by_cases comment : (c = '-' || c = '/') = true
  · rw [if_pos comment, if_pos comment]
    exact dashOrSlash_capitals c rest
  rw [if_neg comment, if_neg comment]
  by_cases string : c = '\x27'
  · rw [if_pos string, if_pos string]
    exact quoted_capitals _ (string ▸ rfl) _ rest
  rw [if_neg string, if_neg string]
  by_cases name : c = '\x22'
  · rw [if_pos name, if_pos name]
    exact quoted_capitals _ (name ▸ rfl) _ rest
  rw [if_neg name, if_neg name]
  by_cases backquoted : c = '\x60'
  · rw [if_pos backquoted, if_pos backquoted]
    exact quoted_capitals _ (backquoted ▸ rfl) _ rest
  rw [if_neg backquoted, if_neg backquoted]
  by_cases digit : c.isDigit = true
  · rw [if_pos digit, if_pos digit]
    exact number_capitals c rest
  rw [if_neg digit, if_neg digit]
  by_cases starts : isNameStart c = true
  · rw [if_pos starts, if_pos starts]
    exact word_capitals c rest
  rw [if_neg starts, if_neg starts]
  by_cases mark : isPunctuation c = true
  · rw [if_pos mark, if_pos mark]
    rfl
  rw [if_neg mark, if_neg mark]
  by_cases operator : isOperatorRun c = true
  · rw [if_pos operator, if_pos operator]
    exact run_capitals _ isOperatorRun_toUpper c rest
  rw [if_neg operator, if_neg operator]
  by_cases single : isSingleOperator c = true
  · rw [if_pos single, if_pos single]
    rfl
  · rw [if_neg single, if_neg single]
    rfl

end Lexeme

/-! ### Tokens -/

theorem utf8Size_of_isAlpha {c : Char} (letter : c.isAlpha = true) : c.utf8Size = 1 := by
  have code := Text.code_of_isAlpha letter
  rw [Char.utf8Size, if_pos]
  rw [UInt32.le_iff_toNat_le]
  show c.toNat ≤ 127
  omega

theorem utf8Size_toUpper (c : Char) : c.toUpper.utf8Size = c.utf8Size :=
  Text.apply_toUpper utf8Size_of_isAlpha c

theorem byteLength_capitals (cs : List Char) : byteLength (capitals cs) = byteLength cs := by
  induction cs with
  | nil => rfl
  | cons c rest ih =>
      show byteLength (c.toUpper :: capitals rest) = _
      rw [byteLength_cons, byteLength_cons, ih, utf8Size_toUpper]

theorem utf8ByteSize_upper (text : String) : (Text.upper text).utf8ByteSize = text.utf8ByteSize := by
  rw [← byteLength_toList text, ← byteLength_capitals]
  rfl

/-- Capital letters make no text a mark that has none, and change no such mark. -/
theorem capitals_eq_iff {mark : List Char} (noLetters : ∀ c ∈ mark, c.isAlpha = false) (cs : List Char) :
    capitals cs = mark ↔ cs = mark := by
  induction mark generalizing cs with
  | nil => exact List.map_eq_nil_iff
  | cons first rest ih =>
      obtain ⟨noLetter, behind⟩ := List.forall_mem_cons.mp noLetters
      cases cs with
      | nil => exact ⟨fun shape => (nomatch shape), fun shape => (nomatch shape)⟩
      | cons c cs =>
          show c.toUpper :: capitals cs = first :: rest ↔ _
          rw [List.cons.injEq, List.cons.injEq, toUpper_eq_mark _ noLetter, ih behind]

/-- The token in capital letters. -/
def Token.inCapitals (token : Token) : Token := { token with text := Text.upper token.text }

namespace Token

/-- A token in capital letters takes as much room. -/
@[simp] theorem stop_inCapitals (token : Token) : token.inCapitals.stop = token.stop := by
  rw [stop, stop, inCapitals, utf8ByteSize_upper]

theorem isWord_inCapitals (word : String) (token : Token) :
    token.inCapitals.isWord word = token.isWord word :=
  Text.sameIgnoringCase_upper token.text word

@[simp] theorem isComment_inCapitals (token : Token) : token.inCapitals.isComment = token.isComment := rfl

theorem isMark_inCapitals {mark : String} (noLetters : ∀ c ∈ mark.toList, c.isAlpha = false)
    (token : Token) : token.inCapitals.isMark mark = token.isMark mark := by
  have same : Text.upper token.text = mark ↔ token.text = mark := by
    rw [← String.toList_inj, ← String.toList_inj, Text.upper, String.toList_ofList]
    exact capitals_eq_iff noLetters _
  rw [isMark, isMark]
  congr 1
  rw [Bool.eq_iff_iff, beq_iff_eq, beq_iff_eq]
  exact same

end Token

/-! ### Names -/

/-- Whether a token that is a quoted name opens with a mark, not with a letter. -/
def Token.OpensWithMark (token : Token) : Prop :=
  token.kind = .quotedIdentifier → ∀ c ∈ token.text.toList.head?, c.isAlpha = false

theorem wordKind_ne_quotedIdentifier (word : String) : wordKind word ≠ .quotedIdentifier := by
  unfold wordKind
  split <;> exact nofun

/-- A quoted name opens with a quote. -/
theorem Lexeme.isAlpha_of_quotedIdentifier {escapes : QuoteEscapes} {c : Char} {rest : List Char}
    (isQuoted : (scan escapes c rest).kind = .quotedIdentifier) : c.isAlpha = false := by
  rw [← Bool.not_eq_true]
  intro letter
  have apart (mark : Char) (noLetter : mark.isAlpha = false) : c ≠ mark := Text.ne_of_isAlpha letter noLetter
  have isWord : scan escapes c rest = word c rest := by
    simp [scan, apart, isDigit_of_isAlpha letter, isNameStart_of_isAlpha letter]
  simp only [isWord, word] at isQuoted
  exact wordKind_ne_quotedIdentifier _ isQuoted

theorem opensWithMark_of_mem_tokensFrom {escapes : QuoteEscapes} {offset : Nat} {cs : List Char}
    {token : Token} (member : token ∈ tokensFrom escapes offset cs) : token.OpensWithMark := by
  induction offset, cs using lexing_induction escapes with
  | done offset =>
      rw [tokensFrom_nil] at member
      cases member
  | blank offset c rest isBlank ih =>
      rw [tokensFrom_blank isBlank] at member
      exact ih member
  | token offset c rest visible ih =>
      rw [tokensFrom_lexeme visible] at member
      rcases List.mem_cons.mp member with rfl | later
      · intro isQuoted d first
        obtain ⟨more, head⟩ := Lexeme.scan_head escapes c rest
        rw [Lexeme.toToken, String.toList_ofList, head] at first
        cases first
        exact Lexeme.isAlpha_of_quotedIdentifier isQuoted
      · exact ih later

theorem capitals_intercalate (separator : List Char) (parts : List (List Char)) :
    capitals (List.intercalate separator parts) =
      List.intercalate (capitals separator) (parts.map capitals) := by
  induction parts with
  | nil => rfl
  | cons part rest ih =>
      by_cases none : rest = []
      · subst none
        simp
      · have someToo : rest.map capitals ≠ [] := by simpa using none
        rw [List.map_cons, List.intercalate_cons_of_ne_nil none, List.intercalate_cons_of_ne_nil someToo,
          Text.capitals_append, Text.capitals_append, ih]

theorem unquote_capitals {quote : Char} (noLetter : quote.isAlpha = false) (inner : List Char) :
    Token.unquote quote (capitals inner) = capitals (Token.unquote quote inner) := by
  have spares : ∀ mark ∈ [quote], Text.Spares Char.toUpper mark := by
    intro mark member
    rw [List.mem_singleton.mp member]
    exact Text.spares_toUpper noLetter
  have sparesBoth : ∀ mark ∈ [quote, quote], Text.Spares Char.toUpper mark := by
    intro mark member
    exact spares mark (by simpa using member)
  have stripped : (Text.stripEnd? [quote] (capitals inner)).getD (capitals inner) =
      capitals ((Text.stripEnd? [quote] inner).getD inner) := by
    rw [capitals, Text.stripEnd?_map spares]
    cases Text.stripEnd? [quote] inner <;> rfl
  have unmoved : capitals [quote] = [quote] := by
    show [quote.toUpper] = [quote]
    rw [(Text.spares_toUpper noLetter quote).mpr rfl]
  rw [Token.unquote, stripped, Token.unquote, Text.replaceAll, Text.replaceAll, capitals_intercalate,
    unmoved]
  exact congrArg _ (Text.pieces_map sparesBoth _)

/-- A token in capital letters spells its name in capital letters. -/
theorem Token.unquoted_inCapitals {token : Token} (opens : token.OpensWithMark) :
    token.inCapitals.unquoted = Text.upper token.unquoted := by
  by_cases isQuoted : token.kind = .quotedIdentifier
  · have marked := opens isQuoted
    rw [unquoted, unquoted, if_pos isQuoted, if_pos (show token.inCapitals.kind = _ from isQuoted)]
    have written : token.inCapitals.text.toList = capitals token.text.toList := by
      rw [inCapitals, Text.upper, String.toList_ofList]
      rfl
    rw [written]
    rcases shape : token.text.toList with _ | ⟨quote, _ | ⟨c, rest⟩⟩
    · rfl
    · rfl
    · have noLetter : quote.isAlpha = false := marked quote (by rw [shape]; rfl)
      have unmoved : quote.toUpper = quote := (Text.spares_toUpper noLetter quote).mpr rfl
      show String.ofList (unquote quote.toUpper (capitals (c :: rest))) = _
      rw [unmoved, unquote_capitals noLetter, Text.upper, String.toList_ofList]
      rfl
  · rw [unquoted, unquoted, if_neg isQuoted, if_neg (show ¬ token.inCapitals.kind = _ from isQuoted)]
    rfl

/-- The tokens of a text in capital letters stand where those of the text do. -/
theorem tokensFrom_capitals (escapes : QuoteEscapes) (offset : Nat) (cs : List Char) :
    tokensFrom escapes offset (capitals cs) =
      (tokensFrom escapes offset cs).map Token.inCapitals := by
  induction offset, cs using lexing_induction escapes with
  | done offset =>
      rw [tokensFrom_nil]
      exact tokensFrom_nil
  | blank offset c rest isBlank ih =>
      have blankToo : Text.isBlank c.toUpper = true := (Text.isBlank_toUpper c).trans isBlank
      rw [tokensFrom_blank isBlank, ← ih]
      refine (tokensFrom_blank blankToo (capitals rest)).trans ?_
      rw [utf8Size_toUpper]
  | token offset c rest visible ih =>
      have visibleToo : ¬ Text.isBlank c.toUpper = true := by rwa [Text.isBlank_toUpper]
      have sameToken : (Lexeme.scan escapes c rest).inCapitals.toToken offset =
          ((Lexeme.scan escapes c rest).toToken offset).inCapitals := by
        simp only [Lexeme.toToken, Lexeme.inCapitals, Token.inCapitals, Text.upper, String.toList_ofList]
        rfl
      rw [tokensFrom_lexeme visible, List.map_cons, ← ih]
      refine (tokensFrom_lexeme visibleToo (capitals rest)).trans ?_
      rw [Lexeme.scan_capitals, sameToken, Token.stop_inCapitals]
      rfl

/-- The tokens of a script in capital letters are those of the script in capital letters. -/
theorem tokenize_upper (escapes : QuoteEscapes) (script : String) :
    tokenize escapes (Text.upper script) = (tokenize escapes script).map Token.inCapitals := by
  rw [tokenize, Text.upper, String.toList_ofList]
  exact tokensFrom_capitals escapes 0 script.toList

/-! ### Statements -/

/-- The group with its tokens in capital letters. -/
def TokenGroup.inCapitals (group : TokenGroup) : TokenGroup :=
  { group with tokens := group.tokens.map Token.inCapitals }

/-- The statement with its tokens in capital letters. -/
def Statement.inCapitals (statement : Statement) : Statement :=
  { statement with tokens := statement.tokens.map Token.inCapitals }

theorem TokenGroup.split_inCapitals (scriptEnd : Nat) (tokens : List Token) :
    split scriptEnd (tokens.map Token.inCapitals) = (split scriptEnd tokens).map inCapitals := by
  have sameMark : ∀ token : Token, token.inCapitals.isMark ";" = token.isMark ";" :=
    Token.isMark_inCapitals (by simp)
  induction tokens using split_induction scriptEnd with
  | done => rfl
  | mark token rest groups isMark ih =>
      rw [List.map_cons, split_cons_of_mark ((sameMark token).trans isMark), ih]
      rfl
  | other token rest group later noMark ih =>
      have noMarkToo : ¬ token.inCapitals.isMark ";" = true := by rwa [sameMark]
      obtain ⟨first, others, groups, shape⟩ :=
        exists_split_cons scriptEnd (rest.map Token.inCapitals) noMarkToo
      rw [ih, List.map_cons] at groups
      obtain ⟨rfl, rfl⟩ := List.cons.inj groups
      rw [List.map_cons, shape]
      rfl

theorem TokenGroup.isStatement_inCapitals (group : TokenGroup) :
    group.inCapitals.isStatement = group.isStatement := by
  simp [isStatement, inCapitals, Function.comp_def]

/-- The statements of a script in capital letters are those of the script in capital letters. -/
theorem Statement.split_upper (escapes : QuoteEscapes) (script : String) :
    split escapes (Text.upper script) = (split escapes script).map inCapitals := by
  have sameKept : TokenGroup.isStatement ∘ TokenGroup.inCapitals = TokenGroup.isStatement :=
    funext TokenGroup.isStatement_inCapitals
  have sameStatement (index : Nat) (group : TokenGroup) :
      group.inCapitals.toStatement index = (group.toStatement index).inCapitals := by
    cases group with
    | mk tokens stop => cases tokens <;> rfl
  rw [split, split, tokenize_upper, utf8ByteSize_upper, TokenGroup.split_inCapitals, List.filter_map,
    sameKept]
  apply List.ext_getElem
  · simp
  · intro index _ _
    simp [sameStatement]

theorem Statement.significant_inCapitals (statement : Statement) :
    statement.inCapitals.significant = statement.significant.map Token.inCapitals := by
  rw [significant, significant, inCapitals, List.filter_map]
  rfl

end SqlLineage.Script
