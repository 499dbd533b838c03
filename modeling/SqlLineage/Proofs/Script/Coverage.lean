/-
Module: SqlLineage.Proofs.Script.Coverage
Purpose: The tokens of a script keep all of it. Each token is the stretch of the script between its two
  offsets, and what no token covers is white space.
Main exports: IsSlice, Token.Covers, Interleaved, KeepsScript, keepsScript_tokenize
-/
import SqlLineage.Proofs.Script.Delimiters

namespace SqlLineage.Script

/-- Whether a text is what stands in a script from the byte `start` up to the byte `stop`. -/
def IsSlice (script : String) (start stop : Nat) (text : String) : Prop :=
  ∃ lead trail, script = lead ++ text ++ trail ∧ lead.utf8ByteSize = start ∧
    stop = start + text.utf8ByteSize

/-- Whether a byte of the script belongs to the token. -/
def Token.Covers (token : Token) (place : Nat) : Prop := token.offset ≤ place ∧ place < token.stop

/-- A text made of gaps and tokens by turns, with a gap at either end. The number is the byte at which
the first gap starts, and it stops at the byte at which the first token starts. -/
inductive Interleaved : Nat → List String → List Token → String → Prop where
  | last (start : Nat) (gap : String) : Interleaved start [gap] [] gap
  | token {start : Nat} {gap : String} {token : Token} {gaps : List String} {tokens : List Token}
      {text : String} (place : token.offset = start + gap.utf8ByteSize)
      (onward : Interleaved token.stop gaps tokens text) :
      Interleaved start (gap :: gaps) (token :: tokens) (gap ++ token.text ++ text)

/-! ### White space -/

/-- A character that no token covers is white space. -/
theorem isBlank_of_not_covers {escapes : QuoteEscapes} {offset : Nat} {cs lead trail : List Char}
    {c : Char} (shape : cs = lead ++ c :: trail)
    (bare : ∀ token ∈ tokensFrom escapes offset cs, ¬ token.Covers (offset + byteLength lead)) :
    Text.isBlank c = true := by
  induction offset, cs using lexing_induction escapes generalizing lead with
  | done offset => simp at shape
  | blank offset first rest isBlank ih =>
      rw [tokensFrom_blank isBlank] at bare
      cases lead with
      | nil =>
          obtain ⟨rfl, _⟩ := List.cons.inj shape
          exact isBlank
      | cons _ lead =>
          obtain ⟨rfl, onward⟩ := List.cons.inj shape
          exact ih onward (by simpa [Nat.add_assoc] using bare)
  | token offset first rest visible ih =>
      rw [tokensFrom_lexeme visible] at bare
      have whole := Lexeme.scan_append escapes first rest
      rw [shape] at whole
      rcases List.append_eq_append_iff.mp whole with ⟨skipped, rfl, behind⟩ | ⟨kept, inside, behind⟩
      · -- The character stands behind the first token.
        refine ih behind fun token member => ?_
        have uncovered := bare token (List.mem_cons_of_mem _ member)
        rwa [byteLength_append, ← Nat.add_assoc] at uncovered
      · cases kept with
        | nil =>
            have next : (Lexeme.scan escapes first rest).rest = [] ++ c :: trail := behind.symm
            refine ih next fun token member => ?_
            have uncovered := bare token (List.mem_cons_of_mem _ member)
            rw [List.append_nil] at inside
            rwa [← inside] at uncovered
        | cons d kept =>
            -- The character stands inside the first token, which covers it.
            have covered := bare _ List.mem_cons_self
            have length : byteLength (Lexeme.scan escapes first rest).text =
                byteLength lead + (d.utf8Size + byteLength kept) := by
              rw [inside, byteLength_append, byteLength_cons]
            have positive := d.utf8Size_pos
            refine absurd ⟨Nat.le_add_right offset _, ?_⟩ covered
            show offset + byteLength lead < offset + byteLength (Lexeme.scan escapes first rest).text
            omega

/-- White space in front of a text belongs to the first gap. -/
theorem Interleaved.blank_append {start : Nat} {gaps : List String} {tokens : List Token}
    {text : String} {c : Char} (interleaved : Interleaved (start + c.utf8Size) gaps tokens text)
    (blank : ∀ gap ∈ gaps, Text.isBlankText gap = true) (isBlank : Text.isBlank c = true) :
    ∃ wider, (∀ gap ∈ wider, Text.isBlankText gap = true) ∧
      Interleaved start wider tokens (String.singleton c ++ text) := by
  cases interleaved with
  | last =>
      refine ⟨_, ?_, .last start _⟩
      simpa [Text.isBlankText, isBlank] using blank
  | token place onward =>
      rw [← String.append_assoc, ← String.append_assoc]
      refine ⟨_, ?_, .token ?_ onward⟩
      · simpa [Text.isBlankText, isBlank] using blank
      · simpa [Nat.add_assoc] using place

/-- A text is its tokens with white space in front of each, and white space behind the last. -/
theorem exists_interleaved (escapes : QuoteEscapes) (offset : Nat) (cs : List Char) :
    ∃ gaps, (∀ gap ∈ gaps, Text.isBlankText gap = true) ∧
      Interleaved offset gaps (tokensFrom escapes offset cs) (String.ofList cs) := by
  induction offset, cs using lexing_induction escapes with
  | done offset =>
      refine ⟨[""], ?_, ?_⟩
      · simp [Text.isBlankText]
      · rw [tokensFrom_nil]
        exact .last offset ""
  | blank offset c rest isBlank ih =>
      obtain ⟨gaps, blank, interleaved⟩ := ih
      rw [tokensFrom_blank isBlank, String.ofList_cons]
      exact interleaved.blank_append blank isBlank
  | token offset c rest visible ih =>
      obtain ⟨gaps, blank, interleaved⟩ := ih
      refine ⟨"" :: gaps, ?_, ?_⟩
      · rintro gap (_ | ⟨_, later⟩)
        · rfl
        · exact blank gap later
      · have whole := Lexeme.scan_append escapes c rest
        rw [tokensFrom_lexeme visible, ← whole, String.ofList_append]
        exact @Interleaved.token offset "" ((Lexeme.scan escapes c rest).toToken offset) _ _ _ rfl
          interleaved

/-! ### Scripts -/

/-- The tokens keep the script they were read from. -/
structure KeepsScript (escapes : QuoteEscapes) (script : String) (tokens : List Token) : Prop where
  /-- Every token has a text. -/
  nonempty : ∀ token ∈ tokens, token.text ≠ ""
  /-- The text of a token is what the script has between the token's two offsets. -/
  slices : ∀ token ∈ tokens, IsSlice script token.offset token.stop token.text
  /-- Each token stops before the next one starts, or where it starts. -/
  ordered : tokens.Pairwise fun left right => left.stop ≤ right.offset
  /-- Every character that belongs to no token is white space. -/
  blank : ∀ lead c trail, script = String.ofList (lead ++ c :: trail) →
    (∀ token ∈ tokens, ¬ token.Covers (byteLength lead)) → Text.isBlank c = true
  /-- The script is the texts of the tokens with gaps of white space around and between them. -/
  restored : ∃ gaps, (∀ gap ∈ gaps, Text.isBlankText gap = true) ∧ Interleaved 0 gaps tokens script
  /-- Only the last token can lack the delimiter that closes it. -/
  closed : ∀ token ∈ tokens.dropLast, token.IsClosed escapes

/-- Reading a script into tokens loses nothing of it. -/
theorem keepsScript_tokenize (escapes : QuoteEscapes) (script : String) :
    KeepsScript escapes script (tokenize escapes script) where
  nonempty := by
    intro token member empty
    have bounds := bounds_of_mem_tokensFrom member
    rw [Token.stop, empty] at bounds
    exact Nat.lt_irrefl _ bounds.2
  slices := by
    intro token member
    obtain ⟨before, after, tokens⟩ := List.append_of_mem member
    obtain ⟨lead, rest, shape, place, _⟩ := tokensFrom_eq_append_cons tokens
    refine ⟨String.ofList lead, String.ofList rest, ?_, ?_, rfl⟩
    · rw [← String.ofList_toList (s := script), shape, String.ofList_append, String.ofList_append,
        String.ofList_toList]
    · rw [place, Nat.zero_add]
      rfl
  ordered := pairwise_tokensFrom escapes 0 script.toList
  blank := by
    intro lead c trail shape bare
    have characters : script.toList = lead ++ c :: trail := by rw [shape, String.toList_ofList]
    have uncovered : ∀ token ∈ tokensFrom escapes 0 script.toList,
        ¬ token.Covers (0 + byteLength lead) := by
      rw [Nat.zero_add]
      exact bare
    exact isBlank_of_not_covers characters uncovered
  restored := by simpa [tokenize] using exists_interleaved escapes 0 script.toList
  closed := fun token member => isClosed_of_mem_dropLast member

end SqlLineage.Script
