/-
Module: SqlLineage.Proofs.Script.Positions
Purpose: Where the tokens of a text stand. They follow one another in order, and what stands between two
  of them is white space.
Main exports: pairwise_tokensFrom, exists_tokensFrom_from, tokensFrom_eq_append_cons, exists_blank_of_gap
-/
import Mathlib.Data.List.Basic
import SqlLineage.Script.Statement

namespace SqlLineage.Script

/-- The number of bytes that characters take. -/
def byteLength (cs : List Char) : Nat := (String.ofList cs).utf8ByteSize

@[simp] theorem byteLength_cons (c : Char) (cs : List Char) :
    byteLength (c :: cs) = c.utf8Size + byteLength cs := by
  simp [byteLength, String.ofList_cons]

@[simp] theorem byteLength_append (cs ds : List Char) :
    byteLength (cs ++ ds) = byteLength cs + byteLength ds := by
  simp [byteLength, String.ofList_append]

@[simp] theorem byteLength_toList (s : String) : byteLength s.toList = s.utf8ByteSize := by
  simp [byteLength]

variable {escapes : QuoteEscapes} {offset : Nat} {cs : List Char}

/-! ### One step of the lexer -/

theorem tokensFrom_nil : tokensFrom escapes offset [] = [] := by
  rw [tokensFrom.eq_def]

theorem tokensFrom_blank {c : Char} (blank : Text.isBlank c = true) (rest : List Char) :
    tokensFrom escapes offset (c :: rest) = tokensFrom escapes (offset + c.utf8Size) rest := by
  rw [tokensFrom.eq_def]
  exact if_pos blank

/-- The token that starts at a place. -/
def Lexeme.toToken (offset : Nat) (lexeme : Lexeme) : Token :=
  ⟨lexeme.kind, String.ofList lexeme.text, offset⟩

theorem tokensFrom_lexeme {c : Char} (visible : ¬ Text.isBlank c = true) (rest : List Char) :
    tokensFrom escapes offset (c :: rest) =
      (Lexeme.scan escapes c rest).toToken offset ::
        tokensFrom escapes ((Lexeme.scan escapes c rest).toToken offset).stop
          (Lexeme.scan escapes c rest).rest := by
  rw [tokensFrom.eq_def]
  exact if_neg visible

/-- What holds of the end of a text, and of each text if it holds of what the lexer goes on with, holds of
every text. -/
@[elab_as_elim]
theorem lexing_induction (escapes : QuoteEscapes) {motive : Nat → List Char → Prop}
    (done : ∀ offset, motive offset [])
    (blank : ∀ offset c rest, Text.isBlank c = true → motive (offset + c.utf8Size) rest →
      motive offset (c :: rest))
    (token : ∀ offset c rest, ¬ Text.isBlank c = true →
      motive ((Lexeme.scan escapes c rest).toToken offset).stop (Lexeme.scan escapes c rest).rest →
        motive offset (c :: rest))
    (offset : Nat) (cs : List Char) : motive offset cs := by
  fun_induction tokensFrom escapes offset cs with
  | case1 offset => exact done offset
  | case2 offset c rest isBlank ih => exact blank offset c rest isBlank ih
  | case3 offset c rest visible lexeme text ih => exact token offset c rest visible ih

/-- A token takes at least one byte. -/
theorem offset_lt_stop_scan (escapes : QuoteEscapes) (offset : Nat) (c : Char) (rest : List Char) :
    offset < ((Lexeme.scan escapes c rest).toToken offset).stop := by
  obtain ⟨more, head⟩ := Lexeme.scan_head escapes c rest
  have positive := c.utf8Size_pos
  show offset < offset + byteLength (Lexeme.scan escapes c rest).text
  rw [head, byteLength_cons]
  omega

/-! ### Order -/

/-- No token stands before the place where the text starts, and each takes at least one byte. -/
theorem bounds_of_mem_tokensFrom {token : Token} (member : token ∈ tokensFrom escapes offset cs) :
    offset ≤ token.offset ∧ token.offset < token.stop := by
  induction offset, cs using lexing_induction escapes with
  | done offset =>
      rw [tokensFrom_nil] at member
      cases member
  | blank offset c rest isBlank ih =>
      rw [tokensFrom_blank isBlank] at member
      have := ih member
      omega
  | token offset c rest visible ih =>
      have advance := offset_lt_stop_scan escapes offset c rest
      rw [tokensFrom_lexeme visible] at member
      rcases List.mem_cons.mp member with rfl | later
      · exact ⟨Nat.le_refl _, advance⟩
      · have := ih later
        omega

/-- Each token ends before the next one starts. -/
theorem pairwise_tokensFrom (escapes : QuoteEscapes) (offset : Nat) (cs : List Char) :
    (tokensFrom escapes offset cs).Pairwise fun left right => left.stop ≤ right.offset := by
  induction offset, cs using lexing_induction escapes with
  | done offset =>
      rw [tokensFrom_nil]
      exact List.Pairwise.nil
  | blank offset c rest isBlank ih =>
      rw [tokensFrom_blank isBlank]
      exact ih
  | token offset c rest visible ih =>
      rw [tokensFrom_lexeme visible]
      exact List.Pairwise.cons (fun token member => (bounds_of_mem_tokensFrom member).1) ih

/-! ### Gaps -/

/-- In front of each of its tokens a text can be cut: what stands from there on is read on its own. -/
theorem exists_tokensFrom_from {before after : List Token} {token : Token}
    (tokens : tokensFrom escapes offset cs = before ++ token :: after) :
    ∃ lead rest, cs = lead ++ rest ∧ token.offset = offset + byteLength lead ∧
      tokensFrom escapes token.offset rest = token :: after := by
  induction offset, cs using lexing_induction escapes generalizing before with
  | done offset => simp [tokensFrom_nil] at tokens
  | blank offset c rest isBlank ih =>
      rw [tokensFrom_blank isBlank] at tokens
      obtain ⟨lead, behind, rfl, place, onward⟩ := ih tokens
      exact ⟨c :: lead, behind, rfl, by simp [place, Nat.add_assoc], onward⟩
  | token offset c rest visible ih =>
      cases before with
      | nil =>
          have first := tokens
          rw [tokensFrom_lexeme visible] at first
          obtain ⟨rfl, _⟩ := List.cons.inj first
          exact ⟨[], c :: rest, rfl, rfl, tokens⟩
      | cons first before =>
          rw [tokensFrom_lexeme visible] at tokens
          obtain ⟨_, later⟩ := List.cons.inj tokens
          obtain ⟨lead, behind, shape, place, onward⟩ := ih later
          refine ⟨(Lexeme.scan escapes c rest).text ++ lead, behind, ?_, ?_, onward⟩
          · rw [List.append_assoc, ← shape, Lexeme.scan_append]
          · rw [place, byteLength_append, ← Nat.add_assoc]
            rfl

/-- At each of its tokens a text can be cut: what stands behind the token is read on its own. -/
theorem tokensFrom_eq_append_cons {before after : List Token} {token : Token}
    (tokens : tokensFrom escapes offset cs = before ++ token :: after) :
    ∃ lead rest, cs = lead ++ token.text.toList ++ rest ∧ token.offset = offset + byteLength lead ∧
      after = tokensFrom escapes token.stop rest := by
  obtain ⟨lead, behind, shape, place, onward⟩ := exists_tokensFrom_from tokens
  cases behind with
  | nil => simp [tokensFrom_nil] at onward
  | cons c rest =>
      by_cases isBlank : Text.isBlank c = true
      · -- The token would start behind the white space.
        rw [tokensFrom_blank isBlank] at onward
        have bounds := bounds_of_mem_tokensFrom (onward ▸ List.mem_cons_self)
        have positive := c.utf8Size_pos
        omega
      · rw [tokensFrom_lexeme isBlank] at onward
        obtain ⟨same, later⟩ := List.cons.inj onward
        rw [same] at later
        have text : token.text.toList = (Lexeme.scan escapes c rest).text := by
          rw [← same, Lexeme.toToken, String.toList_ofList]
        refine ⟨lead, (Lexeme.scan escapes c rest).rest, ?_, place, later.symm⟩
        rw [shape, text, List.append_assoc, Lexeme.scan_append]

/-- Behind a token that the next one does not touch stands white space. -/
theorem exists_blank_of_gap {before after : List Token} {left right : Token}
    (tokens : tokensFrom escapes offset cs = before ++ left :: right :: after)
    (gap : left.stop < right.offset) :
    ∃ lead c rest, cs = lead ++ c :: rest ∧ Text.isBlank c = true ∧
      left.stop = offset + byteLength lead := by
  obtain ⟨lead, behind, shape, place, later⟩ := tokensFrom_eq_append_cons tokens
  cases behind with
  | nil => simp [tokensFrom_nil] at later
  | cons c rest =>
      refine ⟨lead ++ left.text.toList, c, rest, shape, ?_, ?_⟩
      · apply Classical.byContradiction
        intro visible
        rw [tokensFrom_lexeme visible] at later
        obtain ⟨rfl, _⟩ := List.cons.inj later
        exact Nat.lt_irrefl _ gap
      · simp [Token.stop, place, Nat.add_assoc]

end SqlLineage.Script
