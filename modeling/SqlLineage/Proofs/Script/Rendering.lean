/-
Module: SqlLineage.Proofs.Script.Rendering
Purpose: Tokens that are written out and read again. Of each statement of a script the tokens that carry
  meaning come back as they were, at new places, and so do those of statements that are joined by
  semicolons.
Main exports: settleFrom, ReadsBack, readsBack_split
-/
import SqlLineage.Proofs.Script.Groups
import SqlLineage.Proofs.Script.Lookahead
import SqlLineage.Proofs.Script.Positions

namespace SqlLineage.Script

/-! ### Tokens at new places -/

/-- The tokens at the places where they stand when they are written out from `start` on, behind a token
that stopped at `last`: a gap in front of a token is now one byte wide. -/
def settleFrom (last start : Nat) : List Token → List Token
  | [] => []
  | token :: rest =>
    let offset := if token.offset > last then start + 1 else start
    { token with offset } :: settleFrom token.stop (offset + token.text.utf8ByteSize) rest

/-- Whether a text goes on with the tokens where it is written out, and with the suffix behind them. -/
def ReadsBack (escapes : QuoteEscapes) (suffix : List Char) (tokens : List Token) : Prop :=
  ∀ last start, tokensFrom escapes start ((renderAfter last tokens).toList ++ suffix) =
    settleFrom last start tokens ++
      tokensFrom escapes (start + (renderAfter last tokens).utf8ByteSize) suffix

variable {escapes : QuoteEscapes} {suffix : List Char}

theorem readsBack_nil : ReadsBack escapes suffix [] :=
  fun _ _ => rfl

/-- A lexeme that is no comment is read again where it is written out. -/
theorem tokensFrom_text (offset : Nat) {c : Char} {rest short : List Char}
    (visible : ¬ Text.isBlank c = true) (significant : (Lexeme.scan escapes c rest).isComment = false)
    (cut : CutShort (Lexeme.scan escapes c rest).rest short) (start : Nat) :
    tokensFrom escapes start (((Lexeme.scan escapes c rest).toToken offset).text.toList ++ short) =
      { (Lexeme.scan escapes c rest).toToken offset with offset := start } ::
        tokensFrom escapes
          (start + ((Lexeme.scan escapes c rest).toToken offset).text.utf8ByteSize) short := by
  obtain ⟨more, head⟩ := Lexeme.scan_head escapes c rest
  have again := Lexeme.scan_of_cutShort significant cut
  rw [head, List.tail_cons] at again
  have shape : ((Lexeme.scan escapes c rest).toToken offset).text.toList ++ short =
      c :: (more ++ short) := by
    simp [Lexeme.toToken, head]
  rw [shape, tokensFrom_lexeme visible, again]
  rfl

/-- A lexeme in front of tokens that are read again is read again, if what it stands before now is cut
short. -/
theorem readsBack_cons {offset : Nat} {c : Char} {rest : List Char} {tokens : List Token}
    (visible : ¬ Text.isBlank c = true) (significant : (Lexeme.scan escapes c rest).isComment = false)
    (cut : CutShort (Lexeme.scan escapes c rest).rest
      ((renderAfter ((Lexeme.scan escapes c rest).toToken offset).stop tokens).toList ++ suffix))
    (back : ReadsBack escapes suffix tokens) :
    ReadsBack escapes suffix ((Lexeme.scan escapes c rest).toToken offset :: tokens) := by
  intro last start
  have text := tokensFrom_text offset visible significant cut
  generalize (Lexeme.scan escapes c rest).toToken offset = token at cut text ⊢
  rw [renderAfter, settleFrom]
  -- The gap in front of the token is passed over; the token stands behind it.
  by_cases gap : token.offset > last
  · have space : Text.isBlank ' ' = true := by decide
    have behind := text (start + 1)
    rw [back] at behind
    simp only [if_pos gap, String.toList_append, List.append_assoc, String.utf8ByteSize_append]
    rw [show " ".toList = [' '] from rfl, List.singleton_append, tokensFrom_blank space,
      show ' '.utf8Size = 1 from rfl, behind, show " ".utf8ByteSize = 1 from rfl]
    simp only [List.cons_append, Nat.add_assoc]
  · have behind := text start
    rw [back] at behind
    simp only [if_neg gap, String.toList_append, List.append_assoc, String.utf8ByteSize_append]
    rw [show "".toList = [] from rfl, List.nil_append, behind, show "".utf8ByteSize = 0 from rfl]
    simp only [List.cons_append, Nat.add_assoc, Nat.zero_add]

/-! ### The groups of a script -/

/-- Whether the tokens of a group may be followed by this suffix where they are written out: by nothing or,
if other groups follow, by a semicolon. -/
def MayFollow (later : List TokenGroup) (suffix : List Char) : Prop :=
  suffix = [] ∨ later ≠ [] ∧ ∃ more, suffix = ';' :: more

/-- Whether the tokens of each group are read again with what may follow them. -/
def GroupsReadBack (escapes : QuoteEscapes) : List TokenGroup → Prop
  | [] => True
  | group :: later =>
    (∀ suffix, MayFollow later suffix → ReadsBack escapes suffix group.significant) ∧
      GroupsReadBack escapes later

/-- What may follow a group cuts a text short that has not come to its end. -/
theorem MayFollow.cutShort {later : List TokenGroup} (follows : MayFollow later suffix) (c : Char)
    (rest : List Char) : CutShort (c :: rest) suffix := by
  rcases follows with rfl | ⟨_, more, rfl⟩
  · exact .ended c rest
  · exact .separated c rest more rfl

/-- Tokens that stand behind a gap cut a text short that has not come to its end. -/
theorem cutShort_renderAfter {offset : Nat} {tokens : List Token} {later : List TokenGroup}
    (follows : MayFollow later suffix) (gap : ∀ token ∈ tokens, offset < token.offset) (c : Char)
    (rest : List Char) : CutShort (c :: rest) ((renderAfter offset tokens).toList ++ suffix) := by
  cases tokens with
  | nil => exact follows.cutShort c rest
  | cons token tokens =>
      rw [renderAfter, if_pos (gap token List.mem_cons_self)]
      simp only [String.toList_append, List.append_assoc]
      exact .separated c rest _ rfl

/-- No token of the first group of a text stands before the place where the text starts. -/
theorem offset_le_of_mem_significant {scriptEnd offset : Nat} {cs : List Char} {group : TokenGroup}
    {later : List TokenGroup}
    (groups : TokenGroup.split scriptEnd (tokensFrom escapes offset cs) = group :: later) :
    ∀ token ∈ group.significant, offset ≤ token.offset := by
  intro token member
  have inText := (TokenGroup.prefix_of_split_eq_cons groups).subset
    (TokenGroup.mem_significant_iff.mp member).1
  exact (bounds_of_mem_tokensFrom inText).1

/-- The groups of a text read back, and the text is cut short by the first of them. -/
theorem readsBack_split (scriptEnd offset : Nat) (cs : List Char) {group : TokenGroup}
    {later : List TokenGroup}
    (groups : TokenGroup.split scriptEnd (tokensFrom escapes offset cs) = group :: later) :
    (∀ suffix, MayFollow later suffix →
      CutShort cs ((renderAfter offset group.significant).toList ++ suffix)) ∧
    GroupsReadBack escapes (group :: later) := by
  induction offset, cs using lexing_induction escapes generalizing group later with
  | done offset =>
      rw [tokensFrom_nil] at groups
      obtain ⟨rfl, rfl⟩ := List.cons.inj groups
      refine ⟨?_, fun _ _ => readsBack_nil, trivial⟩
      rintro suffix (rfl | ⟨more, _⟩)
      · exact .whole
      · exact absurd rfl more
  | blank offset c rest isBlank ih =>
      rw [tokensFrom_blank isBlank] at groups
      have behind : ∀ token ∈ group.significant, offset < token.offset := by
        intro token member
        have := offset_le_of_mem_significant groups token member
        have := c.utf8Size_pos
        omega
      exact ⟨fun suffix follows => cutShort_renderAfter follows behind c rest, (ih groups).2⟩
  | token offset c rest visible ih =>
      have advance := offset_lt_stop_scan escapes offset c rest
      rw [tokensFrom_lexeme visible] at groups
      by_cases mark : ((Lexeme.scan escapes c rest).toToken offset).isMark ";" = true
      · -- The semicolon ends a group without tokens.
        rw [TokenGroup.split_cons_of_mark mark] at groups
        obtain ⟨rfl, rfl⟩ := List.cons.inj groups
        obtain ⟨next, others, behind⟩ :=
          List.exists_cons_of_ne_nil (TokenGroup.split_ne_nil scriptEnd (tokensFrom escapes
            ((Lexeme.scan escapes c rest).toToken offset).stop (Lexeme.scan escapes c rest).rest))
        refine ⟨fun suffix follows => follows.cutShort c rest, fun _ _ => readsBack_nil, ?_⟩
        rw [behind]
        exact (ih behind).2
      · obtain ⟨next, others, behind, shape⟩ := TokenGroup.exists_split_cons scriptEnd
          (tokensFrom escapes ((Lexeme.scan escapes c rest).toToken offset).stop
            (Lexeme.scan escapes c rest).rest) mark
        rw [shape] at groups
        obtain ⟨rfl, rfl⟩ := List.cons.inj groups
        obtain ⟨cut, back, backLater⟩ := ih behind
        cases comment : ((Lexeme.scan escapes c rest).toToken offset).isComment with
        | true =>
            rw [GroupsReadBack, TokenGroup.significant_cons_of_isComment comment]
            refine ⟨fun suffix follows => cutShort_renderAfter follows ?_ c rest, back, backLater⟩
            intro token member
            exact Nat.lt_of_lt_of_le advance (offset_le_of_mem_significant behind token member)
        | false =>
            rw [GroupsReadBack, TokenGroup.significant_cons comment]
            refine ⟨fun suffix follows => ?_, fun suffix follows =>
              readsBack_cons visible comment (cut suffix follows) (back suffix follows), backLater⟩
            have whole := Lexeme.scan_append escapes c rest
            have onward := (cut suffix follows).append (Lexeme.scan escapes c rest).text
            rw [whole] at onward
            simpa [renderAfter, Lexeme.toToken] using onward

end SqlLineage.Script
