/-
Module: SqlLineage.Proofs.Script.LineBreaks
Purpose: Reading a text line by line. No token but a quoted run or a block comment goes on behind a line
  break, so a text and another one behind a line break are read as each of them is, unless the first one
  leaves a delimiter open.
Main exports: Lexeme.followedBy, Lexeme.scan_append_lineBreak, tokensFrom_append_lineBreak,
  tokenize_lineBreak_iff
-/
import SqlLineage.Proofs.Script.Partition

namespace SqlLineage.Script

/-! ### Readers in front of a line break -/

/-- A run of characters that no line break belongs to ends in front of one. -/
theorem span_append_lineBreak {p : Char → Bool} (apart : p '\n' = false) (cs behind : List Char) :
    (cs ++ '\n' :: behind).takeWhile p = cs.takeWhile p ∧
      (cs ++ '\n' :: behind).dropWhile p = cs.dropWhile p ++ '\n' :: behind := by
  induction cs with
  | nil => simp [apart]
  | cons c cs ih =>
      by_cases more : p c = true
      · simp [more, ih]
      · simp [more]

/-- An exponent does not start at the end of a line, and its digits end there. -/
theorem readExponent_append_lineBreak (cs behind : List Char) :
    readExponent (cs ++ '\n' :: behind) =
      ((readExponent cs).1, (readExponent cs).2 ++ '\n' :: behind) := by
  match cs with
  | [] =>
      cases behind with
      | nil => rfl
      | cons d more => simp [readExponent]
  | [e] => simp [readExponent]
  | e :: sign :: rest =>
      obtain ⟨digits, onward⟩ :=
        span_append_lineBreak (p := Char.isDigit) (by decide) rest behind
      simp only [List.cons_append, readExponent, digits, onward]
      split_ifs
      · rfl
      · rfl

theorem readNumber_append_lineBreak (cs behind : List Char) :
    readNumber (cs ++ '\n' :: behind) = ((readNumber cs).1, (readNumber cs).2 ++ '\n' :: behind) := by
  obtain ⟨front, onward⟩ := span_append_lineBreak (p := isNumberPart) (by decide) cs behind
  rw [readNumber, readNumber, front, onward, readExponent_append_lineBreak]

/-- A quoted run that is closed is closed at the same quote in a longer text. -/
theorem readQuoted_append_lineBreak {quote : Char} {backslash : Bool} {cs : List Char}
    (noEscape : quote ≠ '\\') (noBreak : quote ≠ '\n')
    (closed : QuotedBody quote backslash (readQuoted quote backslash cs).1) (behind : List Char) :
    readQuoted quote backslash (cs ++ '\n' :: behind) =
      ((readQuoted quote backslash cs).1, (readQuoted quote backslash cs).2 ++ '\n' :: behind) := by
  have single : ((readQuoted quote backslash cs).2 ++ '\n' :: behind).head? ≠ some quote := by
    cases left : (readQuoted quote backslash cs).2 with
    | nil => simpa using noBreak.symm
    | cons d more =>
        have other := head?_readQuoted quote backslash cs
        rw [left] at other
        simpa using other
  have again := closed.readQuoted_append noEscape single
  rwa [← List.append_assoc, readQuoted_append] at again

/-- A block comment that is closed is closed at the same place in a longer text. -/
theorem readBlockComment_append_lineBreak {cs : List Char} (closed : CommentBody (readBlockComment cs).1)
    (behind : List Char) :
    readBlockComment (cs ++ '\n' :: behind) =
      ((readBlockComment cs).1, (readBlockComment cs).2 ++ '\n' :: behind) := by
  have again := closed.readBlockComment_append ((readBlockComment cs).2 ++ '\n' :: behind)
  rwa [← List.append_assoc, readBlockComment_append] at again

/-! ### Lexemes in front of a line break -/

namespace Lexeme

/-- The lexeme as it is cut off a text that goes on for longer. -/
def followedBy (more : List Char) (lexeme : Lexeme) : Lexeme :=
  { lexeme with rest := lexeme.rest ++ more }

variable {escapes : QuoteEscapes} {offset : Nat} {c : Char} {rest behind : List Char}

theorem run_append_lineBreak (kind : TokenKind) {p : Char → Bool} (apart : p '\n' = false) (c : Char)
    (rest behind : List Char) :
    run kind p c (rest ++ '\n' :: behind) = (run kind p c rest).followedBy ('\n' :: behind) := by
  obtain ⟨front, onward⟩ := span_append_lineBreak apart rest behind
  rw [run, run, front, onward]
  rfl

theorem word_append_lineBreak (c : Char) (rest behind : List Char) :
    word c (rest ++ '\n' :: behind) = (word c rest).followedBy ('\n' :: behind) := by
  obtain ⟨front, onward⟩ := span_append_lineBreak (p := isNamePart) (by decide) rest behind
  simp only [word, followedBy, front, onward]

theorem number_append_lineBreak (c : Char) (rest behind : List Char) :
    number c (rest ++ '\n' :: behind) = (number c rest).followedBy ('\n' :: behind) := by
  rw [number, number, readNumber_append_lineBreak]
  rfl

theorem quoted_append_lineBreak {kind : TokenKind} {quote : Char} {backslash : Bool}
    (noEscape : quote ≠ '\\') (noBreak : quote ≠ '\n') {body : List Char}
    (written : ((quoted kind quote backslash rest).toToken offset).text.toList = quote :: body)
    (closed : QuotedBody quote backslash body) (behind : List Char) :
    quoted kind quote backslash (rest ++ '\n' :: behind) =
      (quoted kind quote backslash rest).followedBy ('\n' :: behind) := by
  have same : (readQuoted quote backslash rest).1 = body := by
    simpa [toToken, quoted] using written
  rw [quoted, quoted, readQuoted_append_lineBreak noEscape noBreak (same ▸ closed)]
  rfl

/-- A comment or an operator that a comment could start with. A single dash or slash at the end of a line
opens no comment on the next one. -/
theorem dashOrSlash_append_lineBreak
    (closed : ((dashOrSlash c rest).toToken offset).IsClosed escapes) (behind : List Char) :
    dashOrSlash c (rest ++ '\n' :: behind) = (dashOrSlash c rest).followedBy ('\n' :: behind) := by
  revert closed
  fun_cases dashOrSlash c rest with
  | case1 rest dash =>
      intro _
      have onward := run_append_lineBreak .lineComment (p := (· ≠ '\n')) (by decide) c ('-' :: rest) behind
      simpa [dashOrSlash, dash] using onward
  | case2 rest noDash =>
      intro _
      simp [dashOrSlash, noDash, single, followedBy]
  | case3 rest slash body =>
      intro closed
      obtain ⟨inner, written, comment⟩ := closed.comment rfl
      have same : body.1 = inner := by simpa [toToken, slash] using written
      have onward := readBlockComment_append_lineBreak (same ▸ comment) behind
      simp [dashOrSlash, slash, onward, followedBy, body]
  | case4 rest noSlash =>
      intro _
      simp [dashOrSlash, noSlash, single, followedBy]
  | case5 rest noDash noStar =>
      intro _
      cases rest with
      | nil => simp [dashOrSlash, single, followedBy]
      | cons d more =>
          rw [List.cons_append, dashOrSlash]
          · rfl
          · rintro others ⟨rfl, _⟩
            exact noDash more rfl
          · rintro others ⟨rfl, _⟩
            exact noStar more rfl

/-- A lexeme is the same where its text goes on behind a line break, if it has the delimiter that closes
it. -/
theorem scan_append_lineBreak (closed : ((scan escapes c rest).toToken offset).IsClosed escapes)
    (behind : List Char) :
    scan escapes c (rest ++ '\n' :: behind) = (scan escapes c rest).followedBy ('\n' :: behind) := by
  revert closed
  unfold scan
  split_ifs with dash string double back digit name mark operator lone
  · exact fun closed => dashOrSlash_append_lineBreak closed behind
  · subst string
    intro closed
    obtain ⟨body, written, inside⟩ := closed.string rfl
    exact quoted_append_lineBreak (by decide) (by decide) written inside behind
  · subst double
    intro closed
    obtain ⟨body, ⟨written, inside⟩ | ⟨written, _⟩⟩ := closed.name rfl
    · exact quoted_append_lineBreak (by decide) (by decide) written inside behind
    · simp [toToken, quoted] at written
  · subst back
    intro closed
    obtain ⟨body, ⟨written, _⟩ | ⟨written, inside⟩⟩ := closed.name rfl
    · simp [toToken, quoted] at written
    · exact quoted_append_lineBreak (by decide) (by decide) written inside behind
  · exact fun _ => number_append_lineBreak c rest behind
  · exact fun _ => word_append_lineBreak c rest behind
  · exact fun _ => rfl
  · exact fun _ => run_append_lineBreak .operator (by decide) c rest behind
  · exact fun _ => rfl
  · exact fun _ => rfl

end Lexeme

/-! ### Texts in front of a line break -/

variable {escapes : QuoteEscapes} {offset : Nat} {cs : List Char}

/-- Behind a text that leaves no delimiter open a line break is white space. -/
theorem tokensFrom_append_lineBreak (closed : ∀ token ∈ tokensFrom escapes offset cs, token.IsClosed escapes)
    (behind : List Char) :
    tokensFrom escapes offset (cs ++ '\n' :: behind) =
      tokensFrom escapes offset cs ++ tokensFrom escapes (offset + byteLength cs + 1) behind := by
  induction offset, cs using lexing_induction escapes with
  | done offset =>
      rw [List.nil_append, tokensFrom_blank (by decide), tokensFrom_nil, List.nil_append]
      rfl
  | blank offset c rest isBlank ih =>
      rw [tokensFrom_blank isBlank] at closed ⊢
      rw [List.cons_append, tokensFrom_blank isBlank, ih closed, byteLength_cons, Nat.add_assoc offset]
  | token offset c rest visible ih =>
      rw [tokensFrom_lexeme visible] at closed ⊢
      obtain ⟨first, later⟩ := List.forall_mem_cons.mp closed
      have whole := congrArg byteLength (Lexeme.scan_append escapes c rest)
      have place : ((Lexeme.scan escapes c rest).toToken offset).stop +
          byteLength (Lexeme.scan escapes c rest).rest = offset + byteLength (c :: rest) := by
        rw [← whole, byteLength_append, ← Nat.add_assoc]
        rfl
      rw [List.cons_append, tokensFrom_lexeme visible, Lexeme.scan_append_lineBreak first]
      show _ :: tokensFrom escapes ((Lexeme.scan escapes c rest).toToken offset).stop
        ((Lexeme.scan escapes c rest).rest ++ '\n' :: behind) = _
      rw [ih later, place]
      rfl

/-- A token that stops before the text does has the delimiter that closes it. -/
theorem isClosed_of_stop_lt {token : Token} (member : token ∈ tokensFrom escapes offset cs)
    (inside : token.stop < offset + byteLength cs) : token.IsClosed escapes := by
  induction offset, cs using lexing_induction escapes with
  | done offset =>
      rw [tokensFrom_nil] at member
      cases member
  | blank offset c rest isBlank ih =>
      rw [tokensFrom_blank isBlank] at member
      rw [byteLength_cons, ← Nat.add_assoc] at inside
      exact ih member inside
  | token offset c rest visible ih =>
      have whole := congrArg byteLength (Lexeme.scan_append escapes c rest)
      rw [byteLength_append] at whole
      rw [← whole, ← Nat.add_assoc] at inside
      rw [tokensFrom_lexeme visible] at member
      rcases List.mem_cons.mp member with rfl | later
      · refine isClosed_scan fun ended => ?_
        rw [ended] at inside
        exact Nat.lt_irrefl _ inside
      · exact ih later inside

/-- A text, a line break and another text are read as the tokens of the first text and then those of the
second, which stand as much further on as the first text and the line break take, exactly if each token of
the first has the delimiter that closes it. -/
theorem tokenize_lineBreak_iff (escapes : QuoteEscapes) (before behind : String) :
    tokenize escapes (before ++ "\n" ++ behind) =
        tokenize escapes before ++
          (tokenize escapes behind).map (Token.moved (before.utf8ByteSize + 1 + ·)) ↔
      ∀ token ∈ tokenize escapes before, token.IsClosed escapes := by
  have text : (before ++ "\n" ++ behind).toList = before.toList ++ '\n' :: behind.toList := by simp
  constructor
  · intro apart token member
    have inWhole : token ∈ tokenize escapes (before ++ "\n" ++ behind) := by
      rw [apart]
      exact List.mem_append_left _ member
    have inside := (placed_tokenize escapes before).inside token member
    refine isClosed_of_stop_lt inWhole ?_
    simp only [byteLength_toList, String.utf8ByteSize_append]
    rw [show "\n".utf8ByteSize = 1 from rfl]
    omega
  · intro closed
    have onward := tokensFrom_add (before.utf8ByteSize + 1) escapes 0 behind.toList
    rw [tokenize, text, tokensFrom_append_lineBreak closed, byteLength_toList, Nat.zero_add]
    rw [Nat.add_zero] at onward
    rw [onward]
    rfl

end SqlLineage.Script
