/-
Module: SqlLineage.Proofs.Script.Slices
Purpose: Reading a part of a script. What is cut out of a script in front of one of its tokens, and in front
  of another one further on, is read as the tokens between, which only stand elsewhere.
Main exports: Lexeme.scan_of_append, tokensFrom_add, exists_tokensFrom_before, exists_slice_tokenize
-/
import SqlLineage.Proofs.Script.Coverage
import SqlLineage.Proofs.Script.Lookahead
import SqlLineage.Proofs.Script.Placement

namespace SqlLineage.Script

/-! ### Lexemes at the end of a text -/

/-- A comment is read up to where it is closed, whatever stands behind it. -/
theorem CommentBody.readBlockComment_append {body : List Char} (comment : CommentBody body)
    (behind : List Char) : readBlockComment (body ++ behind) = (body, behind) := by
  induction comment with
  | closing => rfl
  | @plain c body inside onward ih =>
      rw [List.cons_append, readBlockComment, ih]
      -- The two characters that close a comment do not stand here.
      rintro more rfl shape
      refine inside rfl ?_
      cases onward <;> simp_all

/-- A quoted run is read up to the quote that closes it, unless what stands behind doubles that one. -/
theorem QuotedBody.readQuoted_append {quote : Char} {backslash : Bool} {body behind : List Char}
    (closed : QuotedBody quote backslash body) (noEscape : quote ≠ '\\')
    (single : behind.head? ≠ some quote) :
    readQuoted quote backslash (body ++ behind) = (body, behind) := by
  induction closed with
  | closing =>
      cases behind with
      | nil => rfl
      | cons d more =>
          have other : d ≠ quote := by simpa using single
          simp [readQuoted, noEscape, other]
  | doubled onward ih => simp [readQuoted, ih]
  | escaped c counts onward ih =>
      subst counts
      simp [readQuoted, ih]
  | @plain c body inside literal onward ih =>
      have plain : ¬ (c = '\\' && backslash) = true := by
        rw [Bool.and_eq_true, decide_eq_true_eq]
        rintro ⟨escape, counts⟩
        rw [literal escape] at counts
        cases counts
      rw [List.cons_append, readQuoted_cons plain inside, ih]

namespace Lexeme

/-- A text that is cut off before its end, with nothing put there, is cut short. -/
theorem cutShort_of_append (short : List Char) (d : Char) (more : List Char) :
    CutShort (short ++ d :: more) short := by
  simpa using (CutShort.ended d more).append short

/-- A comment is found again where the text is cut off behind it. -/
theorem dashOrSlash_of_append {c d : Char} {rest short more : List Char}
    (comment : ¬ (dashOrSlash c rest).isComment = false)
    (behind : (dashOrSlash c rest).rest = short ++ d :: more) :
    dashOrSlash c ((dashOrSlash c rest).text.tail ++ short) =
      { dashOrSlash c rest with rest := short } := by
  revert comment behind
  fun_cases dashOrSlash c rest with
  | case1 rest dash =>
      intro _ behind
      subst dash
      have barred : Barred (· ≠ '\n') short := by
        rintro e others rfl
        exact barred_dropWhile (· ≠ '\n') ('-' :: rest) e (others ++ d :: more) behind
      obtain ⟨first, second⟩ := barred.span_append ('-' :: rest)
      simp_all [run, dashOrSlash]
  | case3 rest slash body =>
      intro _ behind
      subst slash
      have comment : CommentBody body.1 := by
        refine commentBody_readBlockComment rest ?_
        intro ended
        simp [ended, body] at behind
      simp [dashOrSlash, comment.readBlockComment_append short]
  | case2 | case4 | case5 => exact fun comment => absurd rfl comment

/-- A lexeme is found again where the text is cut off behind it. -/
theorem scan_of_append {escapes : QuoteEscapes} {c d : Char} {rest short more : List Char}
    (behind : (scan escapes c rest).rest = short ++ d :: more) :
    scan escapes c ((scan escapes c rest).text.tail ++ short) =
      { scan escapes c rest with rest := short } := by
  have cut : CutShort (scan escapes c rest).rest short := by
    rw [behind]
    exact cutShort_of_append short d more
  by_cases significant : (scan escapes c rest).isComment = false
  · exact scan_of_cutShort significant cut
  by_cases dash : (c = '-' || c = '/') = true
  · have chosen : ∀ text, scan escapes c text = dashOrSlash c text := by
      intro text
      rw [scan, if_pos dash]
    rw [chosen] at significant behind
    rw [chosen, chosen]
    exact dashOrSlash_of_append significant behind
  · exact rereads_scan escapes dash rest short cut

end Lexeme

variable {escapes : QuoteEscapes} {offset : Nat} {cs : List Char}

/-! ### Places -/

/-- A text that stands further on is read as the same tokens further on. -/
theorem tokensFrom_add (base : Nat) (escapes : QuoteEscapes) (offset : Nat) (cs : List Char) :
    tokensFrom escapes (base + offset) cs =
      (tokensFrom escapes offset cs).map (Token.moved (base + ·)) := by
  induction offset, cs using lexing_induction escapes with
  | done offset => simp [tokensFrom_nil]
  | blank offset c rest isBlank ih =>
      rw [tokensFrom_blank isBlank, tokensFrom_blank isBlank, Nat.add_assoc, ih]
  | token offset c rest visible ih =>
      have onward : ((Lexeme.scan escapes c rest).toToken (base + offset)).stop =
          base + ((Lexeme.scan escapes c rest).toToken offset).stop := by
        simp [Token.stop, Lexeme.toToken, Nat.add_assoc]
      rw [tokensFrom_lexeme visible, tokensFrom_lexeme visible, onward, ih]
      rfl

/-! ### Cuts -/

/-- In front of each of its tokens a text can be cut: what stands up to there is read as the tokens up to
that one. -/
theorem exists_tokensFrom_before {before after : List Token} {token : Token}
    (tokens : tokensFrom escapes offset cs = before ++ token :: after) :
    ∃ body d more, cs = body ++ d :: more ∧ token.offset = offset + byteLength body ∧
      tokensFrom escapes offset body = before := by
  induction offset, cs using lexing_induction escapes generalizing before with
  | done offset => simp [tokensFrom_nil] at tokens
  | blank offset c rest isBlank ih =>
      rw [tokensFrom_blank isBlank] at tokens
      obtain ⟨body, d, more, rfl, place, upTo⟩ := ih tokens
      refine ⟨c :: body, d, more, rfl, by simp [place, Nat.add_assoc], ?_⟩
      rw [tokensFrom_blank isBlank, upTo]
  | token offset c rest visible ih =>
      rw [tokensFrom_lexeme visible] at tokens
      cases before with
      | nil =>
          obtain ⟨rfl, _⟩ := List.cons.inj tokens
          exact ⟨[], c, rest, rfl, rfl, tokensFrom_nil⟩
      | cons first before =>
          obtain ⟨rfl, later⟩ := List.cons.inj tokens
          obtain ⟨body, d, more, shape, place, upTo⟩ := ih later
          have again := Lexeme.scan_of_append shape
          obtain ⟨tail, head⟩ := Lexeme.scan_head escapes c rest
          refine ⟨(Lexeme.scan escapes c rest).text ++ body, d, more, ?_, ?_, ?_⟩
          · rw [List.append_assoc, ← shape, Lexeme.scan_append]
          · rw [place, byteLength_append, ← Nat.add_assoc]
            rfl
          · rw [head, List.tail_cons] at again
            rw [head, List.cons_append, tokensFrom_lexeme visible, again, ← upTo]
            rfl

/-! ### Slices -/

/-- What a script has from one of its tokens up to another, or up to the end, is read as the tokens
between them. -/
theorem exists_slice_tokenize {script : String} {before between after : List Token} {first : Token}
    {stop : Nat} (tokens : tokenize escapes script = before ++ (first :: between) ++ after)
    (upTo : (after = [] ∧ stop = script.utf8ByteSize) ∨
      ∃ token later, after = token :: later ∧ stop = token.offset) :
    ∃ slice, IsSlice script first.offset stop slice ∧
      first :: between = (tokenize escapes slice).map (Token.moved (first.offset + ·)) := by
  rw [List.append_assoc, List.cons_append] at tokens
  obtain ⟨lead, rest, shape, place, onward⟩ := exists_tokensFrom_from tokens
  have whole : script = String.ofList lead ++ String.ofList rest := by
    rw [← String.ofList_append, ← shape, String.ofList_toList]
  rw [Nat.zero_add] at place
  rcases upTo with ⟨rfl, rfl⟩ | ⟨token, later, rfl, rfl⟩
  · refine ⟨String.ofList rest, ⟨String.ofList lead, "", by simpa using whole, place.symm, ?_⟩, ?_⟩
    · rw [whole, String.utf8ByteSize_append, place]
      rfl
    · have read := tokensFrom_add first.offset escapes 0 rest
      rw [Nat.add_zero, onward, List.append_nil] at read
      rw [read, tokenize, String.toList_ofList]
  · have parted : tokensFrom escapes first.offset rest = (first :: between) ++ token :: later := onward
    obtain ⟨body, d, more, cut, stop, upTo⟩ := exists_tokensFrom_before parted
    refine ⟨String.ofList body,
      ⟨String.ofList lead, String.ofList (d :: more), ?_, place.symm, stop⟩, ?_⟩
    · rw [whole, cut, String.ofList_append, String.append_assoc]
    · have read := tokensFrom_add first.offset escapes 0 body
      rw [Nat.add_zero, upTo] at read
      rw [read, tokenize, String.toList_ofList]

end SqlLineage.Script
