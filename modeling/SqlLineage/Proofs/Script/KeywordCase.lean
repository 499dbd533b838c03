/-
Module: SqlLineage.Proofs.Script.KeywordCase
Purpose: Scripts that differ in the letter case of keywords alone are cut into statements of the same
  kinds, whose scans find the same relations and the same joins but for the texts of their conditions.
Main exports: Token.capitalized, SameButCase, Statement.SameButCase, SameButCase.statements,
  Statement.SameButCase.relations
-/
import SqlLineage.Proofs.Script.LetterCase
import SqlLineage.Proofs.Script.Readers

namespace SqlLineage.Script

/-- The token in capital letters if it is one of these keywords, and as it stands otherwise. -/
def Token.capitalized (words : List String) (token : Token) : Token :=
  if token.isAnyKeyword words then { token with text := Text.upper token.text } else token

/-- Whether two scripts have the same tokens at the same places once these keywords are in capital
letters. -/
def SameButCase (words : List String) (escapes : QuoteEscapes) (left right : String) : Prop :=
  (tokenize escapes left).map (Token.capitalized words) =
    (tokenize escapes right).map (Token.capitalized words)

instance (words : List String) (escapes : QuoteEscapes) (left right : String) :
    Decidable (SameButCase words escapes left right) :=
  inferInstanceAs (Decidable (_ = _))

variable {words : List String}

/-- A keyword is read in the same way in any letter case. -/
theorem keepsReading_capitalized (words : List String) : KeepsReading (Token.capitalized words) where
  kind token := by
    unfold Token.capitalized
    split <;> rfl
  isWord word token := by
    unfold Token.capitalized Token.isWord
    split
    · exact Text.sameIgnoringCase_upper token.text word
    · rfl
  text token noKeyword := by
    have unlisted : ¬ token.isAnyKeyword words = true := by
      simp [Token.isAnyKeyword, Token.isKeyword, noKeyword]
    rw [Token.capitalized, if_neg unlisted]

/-- Once more keywords are in capital letters, it does not show which of them were before. -/
theorem Token.capitalized_capitalized {more : List String} (among : words ⊆ more) (token : Token) :
    (token.capitalized words).capitalized more = token.capitalized more := by
  rw [capitalized.eq_def more, capitalized.eq_def more, (keepsReading_capitalized words).isAnyKeyword]
  by_cases listed : token.isAnyKeyword more = true
  · rw [if_pos listed, if_pos listed]
    unfold Token.capitalized
    split
    · simp [Text.upper, Function.comp_def]
    · rfl
  · have unlisted : ¬ token.isAnyKeyword words = true := by
      intro isListed
      obtain ⟨word, member, isWord⟩ := List.any_eq_true.mp isListed
      exact listed (List.any_eq_true.mpr ⟨word, among member, isWord⟩)
    rw [if_neg listed, if_neg listed, capitalized, if_neg unlisted]

/-- Scripts that are the same but for the case of some keywords are so but for that of more. -/
theorem SameButCase.mono {more : List String} {escapes : QuoteEscapes} {left right : String}
    (same : SameButCase words escapes left right) (among : words ⊆ more) :
    SameButCase more escapes left right := by
  have again := congrArg (List.map (Token.capitalized more)) same
  simp only [List.map_map, Function.comp_def, Token.capitalized_capitalized among] at again
  exact again

/-! ### Texts -/

@[simp] theorem Token.offset_capitalized (words : List String) (token : Token) :
    (token.capitalized words).offset = token.offset := by
  unfold Token.capitalized
  split <;> rfl

/-- A token in capital letters takes as much room. -/
@[simp] theorem Token.stop_capitalized (words : List String) (token : Token) :
    (token.capitalized words).stop = token.stop := by
  have size : (token.capitalized words).text.utf8ByteSize = token.text.utf8ByteSize := by
    unfold Token.capitalized
    split
    · exact utf8ByteSize_upper token.text
    · rfl
  rw [Token.stop, Token.stop, size, Token.offset_capitalized]

/-- A token in capital letters spells one of the words, and any other is as it was. -/
theorem capitalized_cases (capital : ∀ word ∈ words, Text.upper word = word) (token : Token) :
    (∃ word ∈ words, Text.capitals token.text.toList = word.toList ∧
      (token.capitalized words).text = word) ∨ token.capitalized words = token := by
  unfold Token.capitalized
  split
  · next listed =>
      obtain ⟨word, member, isWord⟩ := List.any_eq_true.mp listed
      have spelt := (Text.sameIgnoringCase_iff _ _).mp (Bool.and_eq_true_iff.mp isWord).2
      have stays := congrArg String.toList (capital word member)
      rw [Text.upper, String.toList_ofList] at stays
      have same : Text.capitals token.text.toList = word.toList := spelt.trans stays
      refine .inl ⟨word, member, same, ?_⟩
      rw [← String.toList_inj, Text.upper, String.toList_ofList]
      exact same
  · exact .inr rfl

theorem respelt_capitalized (capital : ∀ word ∈ words, Text.upper word = word) (token : Token) :
    Text.Respelt words token.text.toList (token.capitalized words).text.toList := by
  rcases capitalized_cases capital token with ⟨word, member, same, spelt⟩ | unchanged
  · rw [spelt]
    simpa using Text.Respelt.word member same .nil
  · rw [unchanged]
    exact .refl words _

theorem respelt_renderAfter (capital : ∀ word ∈ words, Text.upper word = word) (last : Nat)
    (tokens : List Token) :
    Text.Respelt words (renderAfter last tokens).toList
      (renderAfter last (tokens.map (Token.capitalized words))).toList := by
  induction tokens generalizing last with
  | nil => exact .nil
  | cons token rest ih =>
      rw [List.map_cons, renderAfter, renderAfter, Token.offset_capitalized, Token.stop_capitalized]
      simp only [String.toList_append]
      exact ((Text.Respelt.refl words _).append (respelt_capitalized capital token)).append (ih token.stop)

/-- Where tokens are written out, the keywords among them are in capital letters, and all else is as it
was. -/
theorem respelt_render (capital : ∀ word ∈ words, Text.upper word = word) (tokens : List Token) :
    Text.Respelt words (render tokens).toList
      (render (tokens.map (Token.capitalized words))).toList := by
  cases tokens with
  | nil => exact .nil
  | cons token rest =>
      rw [List.map_cons, render, render, Token.stop_capitalized, String.toList_append,
        String.toList_append]
      exact (respelt_capitalized capital token).append (respelt_renderAfter capital token.stop rest)

/-! ### Statements -/

/-- Whether two statements stand at the same position of their scripts, and their tokens are the same but
for the letter case of these keywords. -/
structure Statement.SameButCase (words : List String) (left right : Statement) : Prop where
  index : left.index = right.index
  tokens : left.tokens.map (Token.capitalized words) = right.tokens.map (Token.capitalized words)

/-- Semicolons cut both lists of tokens at the same places. -/
theorem TokenGroup.forall₂_split {left right : List Token}
    (same : left.map (Token.capitalized words) = right.map (Token.capitalized words)) (leftEnd rightEnd : Nat) :
    List.Forall₂ (fun group other : TokenGroup =>
        group.tokens.map (Token.capitalized words) = other.tokens.map (Token.capitalized words))
      (split leftEnd left) (split rightEnd right) := by
  induction left generalizing right with
  | nil =>
      obtain rfl := List.map_eq_nil_iff.mp same.symm
      exact .cons rfl .nil
  | cons token rest ih =>
      obtain ⟨other, more, rfl, head, tail⟩ := List.map_eq_cons_iff.mp same.symm
      have marks : other.isMark ";" = token.isMark ";" := by
        rw [← (keepsReading_capitalized words).isMark, head, (keepsReading_capitalized words).isMark]
      have behind := ih tail.symm
      by_cases mark : token.isMark ";" = true
      · rw [split_cons_of_mark mark, split_cons_of_mark (marks.trans mark)]
        exact .cons rfl behind
      · have otherMark : ¬ other.isMark ";" = true := by rwa [marks]
        obtain ⟨group, later, groups, shape⟩ := exists_split_cons leftEnd rest mark
        obtain ⟨again, laterToo, groupsToo, shapeToo⟩ := exists_split_cons rightEnd more otherMark
        rw [groups, groupsToo] at behind
        obtain ⟨first, onward⟩ := List.forall₂_cons.mp behind
        rw [shape, shapeToo]
        exact .cons (by simp [head, first]) onward

theorem TokenGroup.isStatement_iff_of_same {group other : TokenGroup}
    (same : group.tokens.map (Token.capitalized words) = other.tokens.map (Token.capitalized words)) :
    group.isStatement = true ↔ other.isStatement = true := by
  have counted : ∀ group : TokenGroup, group.isStatement =
      (group.tokens.map (Token.capitalized words)).any (!·.isComment) := by
    intro group
    simp [TokenGroup.isStatement, Function.comp_def, (keepsReading_capitalized words).isComment]
  rw [counted, counted, same]

/-- Scripts that are the same but for the case of keywords have such statements. -/
theorem SameButCase.statements {escapes : QuoteEscapes} {left right : String}
    (same : SameButCase words escapes left right) :
    List.Forall₂ (Statement.SameButCase words) (Statement.split escapes left)
      (Statement.split escapes right) := by
  have groups := TokenGroup.forall₂_split same left.utf8ByteSize right.utf8ByteSize
  have kept := List.rel_filter (p := TokenGroup.isStatement) (q := TokenGroup.isStatement)
    (fun _ _ => TokenGroup.isStatement_iff_of_same) groups
  exact forall₂_mapIdx kept fun _ _ _ tokens => ⟨rfl, tokens⟩

namespace Statement.SameButCase

variable {left right : Statement} (same : left.SameButCase words right)

include same

theorem significant :
    left.significant.map (Token.capitalized words) = right.significant.map (Token.capitalized words) := by
  have filtered : ∀ tokens : List Token, (tokens.filter (!·.isComment)).map (Token.capitalized words) =
      (tokens.map (Token.capitalized words)).filter (!·.isComment) := by
    intro tokens
    rw [List.filter_map]
    simp only [Function.comp_def, (keepsReading_capitalized words).isComment]
  rw [Statement.significant, Statement.significant, filtered, filtered, same.tokens]

theorem kind? : left.kind? = right.kind? := by
  rw [Statement.kind?, Statement.kind?, ← (keepsReading_capitalized words).ofTokens?_map, same.significant,
    (keepsReading_capitalized words).ofTokens?_map]

/-- The scans find the same relations, and the same joins but for the texts of their conditions. -/
theorem relations : left.relations.SeenAlike (fun _ => ()) right.relations := by
  have capitals : ∀ statement : Statement, statement.relations.SeenAlike (fun _ => ())
      (scanRelations (statement.significant.map (Token.capitalized words))) :=
    fun statement => (keepsReading_capitalized words).scanRelations_map fun _ _ => rfl
  have ofLeft := capitals left
  rw [same.significant] at ofLeft
  exact ofLeft.trans (capitals right).symm

end Statement.SameButCase

end SqlLineage.Script
