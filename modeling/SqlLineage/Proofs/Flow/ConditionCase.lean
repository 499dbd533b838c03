/-
Module: SqlLineage.Proofs.Flow.ConditionCase
Purpose: The letter case of a keyword other than `AND` and `USING` does not decide whether a join is on a
  key, for no other keyword is looked for in the text of a condition.
Main exports: looseKeywords, isKeyedCondition_render, map_isKeyedJoin_eq
-/
import SqlLineage.Proofs.Flow.KeyedJoin
import SqlLineage.Proofs.Script.KeywordCase
import SqlLineage.Proofs.Script.WordEnds

namespace SqlLineage.Flow

open Lineage (TableReference JoinClause)
open Script (EndsBefore KeepsConditions QuoteEscapes SameButCase Statement Token WordsEnd conditionText
  isNamePart isNamePart_toUpper keywords render renderAfter seenJoin startsWord_of_isAlpha startsWord_toUpper)
open Text (Respelt StandsApart capitals)

/-- The keywords that are not looked for in the text of a condition: all but `AND` and `USING`. -/
def looseKeywords : List String := keywords.filter fun word => word != "AND" && word != "USING"

theorem looseKeywords_subset : looseKeywords ⊆ keywords := List.filter_subset_self _

/-- Keywords are listed in capital letters. -/
theorem upper_looseKeywords {word : String} (listed : word ∈ looseKeywords) : Text.upper word = word := by
  have all : ∀ word ∈ keywords, Text.upper word = word := by decide +kernel
  exact all word (looseKeywords_subset listed)

/-! ### Marks in the text of a condition -/

/-- No mark that is looked for in a condition can be taken for a part of a loose keyword. -/
theorem standsApart_of_mem (mark : String) (listed : mark ∈ [" AND ", " and ", " ("]) :
    StandsApart looseKeywords mark.toList := by
  have all : ∀ mark ∈ [" AND ", " and ", " ("], StandsApart looseKeywords mark.toList := by
    decide +kernel
  exact all mark listed

/-! ### The opening of `USING` -/

theorem barred_capitals_iff {behind : List Char} :
    Script.Barred isNamePart (capitals behind) ↔ Script.Barred isNamePart behind := by
  cases behind with
  | nil => rfl
  | cons c rest => simp [Script.Barred, capitals, isNamePart_toUpper]

/-- Whether a text ends where a name does is seen in any case of the letters. -/
theorem endsBefore_capitals_iff {text behind : List Char} :
    EndsBefore (capitals text) (capitals behind) ↔ EndsBefore text behind := by
  unfold EndsBefore
  rw [barred_capitals_iff]
  simp [capitals, startsWord_toUpper, isNamePart_toUpper]

/-- A clause is opened by the word and a space and a parenthesis behind it. -/
theorem stripStart?_using {text behind : List Char} (ends : EndsBefore text behind)
    (nonempty : text ≠ []) :
    Text.stripStart? "USING (".toList (text ++ behind) =
      if text = "USING".toList then Text.stripStart? " (".toList behind else none := by
  have mark : "USING (".toList = "USING".toList ++ " (".toList := by simp
  have isName : ∀ c ∈ "USING".toList, isNamePart c = true := by
    intro c listed
    have letters : ∀ c ∈ "USING".toList, c.isAlpha = true := List.all_eq_true.mp rfl
    exact Script.isNamePart_of_startsWord (startsWord_of_isAlpha (letters c listed))
  have barred : ∀ rest, Script.Barred isNamePart (" (".toList ++ rest) := by
    intro rest c more shape
    obtain ⟨rfl, _⟩ := List.cons.inj (shape : ' ' :: ('(' :: rest) = c :: more)
    decide
  rw [mark]
  exact ends.stripStart?_append nonempty ⟨'U', rfl, by decide⟩ isName barred

theorem map_capitals_eq {words : List String} {rest other : Option (List Char)}
    (same : Option.Rel (Respelt words) rest other) : rest.map capitals = other.map capitals := by
  cases same with
  | none => rfl
  | some respelt => exact congrArg some respelt.capitals_eq

theorem spells_using_iff (token : Token) :
    (token.capitalized looseKeywords).text.toList = "USING".toList ↔
      token.text.toList = "USING".toList := by
  rcases Script.capitalized_cases (fun _ => upper_looseKeywords) token with
    ⟨word, member, same, spelt⟩ | unchanged
  · have other : word.toList ≠ "USING".toList := by
      rw [ne_eq, String.toList_inj]
      rintro rfl
      simp [looseKeywords] at member
    constructor
    · intro upper
      rw [spelt] at upper
      exact absurd upper other
    · intro text
      rw [text] at same
      exact absurd same.symm other
  · rw [unchanged]

/-- Both conditions open a `USING` clause or neither does. -/
theorem opening_capitalized {token : Token} {rest : List Token} (ends : WordsEnd (token :: rest)) :
    (Text.stripStart? "USING (".toList (render (token :: rest)).toList).map capitals =
      (Text.stripStart? "USING (".toList
        (render ((token :: rest).map (Token.capitalized looseKeywords))).toList).map capitals := by
  have text := Script.respelt_capitalized (fun _ => upper_looseKeywords) token
  have behind := Script.respelt_renderAfter (fun _ => upper_looseKeywords) token.stop rest
  have endsToo : EndsBefore (token.capitalized looseKeywords).text.toList
      (renderAfter token.stop (rest.map (Token.capitalized looseKeywords))).toList := by
    rw [← endsBefore_capitals_iff, ← text.capitals_eq, ← behind.capitals_eq, endsBefore_capitals_iff]
    exact ends.endsBefore
  have nonempty := ends.nonempty token List.mem_cons_self
  have nonemptyToo : (token.capitalized looseKeywords).text.toList ≠ [] := by
    have same := text.capitals_eq
    intro empty
    rw [empty] at same
    exact nonempty (List.map_eq_nil_iff.mp same)
  rw [List.map_cons, render, render, Token.stop_capitalized, String.toList_append, String.toList_append,
    stripStart?_using ends.endsBefore nonempty, stripStart?_using endsToo nonemptyToo]
  by_cases spells : token.text.toList = "USING".toList
  · have onward := behind.strip (standsApart_of_mem " (" (by simp)).parts
    rw [if_pos spells, if_pos ((spells_using_iff token).mpr spells)]
    exact map_capitals_eq onward
  · rw [if_neg spells, if_neg fun same => spells ((spells_using_iff token).mp same)]

/-! ### Conjuncts -/

/-- Texts that differ in loose keywords alone have the same conjuncts in capital letters. -/
theorem conjuncts_respelt {condition other : List Char} (same : Respelt looseKeywords condition other) :
    (conjuncts condition).map capitals = (conjuncts other).map capitals := by
  have pieces : List.Forall₂ (Respelt looseKeywords) (conjuncts condition) (conjuncts other) :=
    List.rel_flatMap (same.pieces (by decide) (standsApart_of_mem " AND " (by simp))) fun _ _ piece =>
      piece.pieces (by decide) (standsApart_of_mem " and " (by simp))
  rw [← List.forall₂_eq_eq_eq, List.forall₂_map_left_iff, List.forall₂_map_right_iff]
  exact pieces.imp fun _ _ => Respelt.capitals_eq

/-! ### Joins of a scan -/

/-- A condition that is written out is on a key in any case of its loose keywords. -/
theorem isKeyedCondition_render (right : TableReference) {tokens : List Token} (ends : WordsEnd tokens) :
    isKeyedCondition right (render (tokens.map (Token.capitalized looseKeywords))).toList =
      isKeyedCondition right (render tokens).toList := by
  cases tokens with
  | nil => rfl
  | cons token rest =>
      exact (isKeyedCondition_congr right (usingColumns?_congr (opening_capitalized ends))
        (conjuncts_respelt (Script.respelt_render (fun _ => upper_looseKeywords) (token :: rest)))).symm

theorem isKeyedCondition_nil (right : TableReference) : isKeyedCondition right [] = false := by
  have columns : usingColumns? [] = none := by simp [usingColumns?, Text.stripStart?]
  have pieces : conjuncts [] = [[]] := by simp [conjuncts, Text.pieces, Text.piecesAfter]
  rw [isKeyedCondition_eq, columns, pieces]
  rfl

/-- Whether the condition of a join is on a key, for each relation that may be joined. -/
def keyedText (condition : Option String) (right : TableReference) : Bool :=
  match condition with
  | some text => isKeyedCondition right text.toList
  | none => false

theorem keyedText_conditionText (tokens : List Token) (right : TableReference) :
    keyedText (conditionText tokens) right = isKeyedCondition right (render tokens).toList := by
  unfold conditionText
  split
  · next empty =>
      rw [String.isEmpty_iff.mp empty]
      exact (isKeyedCondition_nil right).symm
  · rfl

theorem isKeyedJoin_comp_eq : isKeyedJoin =
    (fun (_, right, kind, keyed) => kind != .cross && keyed right) ∘ seenJoin keyedText := rfl

theorem keepsConditions_capitalized {tokens : List Token} (ends : WordsEnd tokens) :
    KeepsConditions keyedText (Token.capitalized looseKeywords) tokens := by
  intro stretch inside
  funext right
  rw [keyedText_conditionText, keyedText_conditionText,
    isKeyedCondition_render right (ends.sublist inside.sublist)]

variable {escapes : QuoteEscapes}

/-- The words among the tokens of a statement are whole. -/
theorem wordsEnd_significant {script : String} {statement : Statement}
    (member : statement ∈ Statement.split escapes script) : WordsEnd statement.significant := by
  obtain ⟨group, isGroup, _, tokens⟩ := Script.exists_group_of_mem_split member
  have among : statement.significant.Sublist (Script.tokenize escapes script) := by
    rw [Statement.significant, tokens]
    exact List.filter_sublist.trans (Script.TokenGroup.infix_of_mem_split isGroup).sublist
  exact (Script.wordsEnd_tokensFrom escapes 0 script.toList).sublist among

/-- Statements that differ in the case of loose keywords alone have joins that are keyed alike. -/
theorem map_isKeyedJoin_eq {left right : Statement} (same : left.SameButCase looseKeywords right)
    (leftEnds : WordsEnd left.significant) (rightEnds : WordsEnd right.significant) :
    left.relations.joins.map isKeyedJoin = right.relations.joins.map isKeyedJoin := by
  have reads := Script.keepsReading_capitalized looseKeywords
  have ofLeft := reads.scanRelations_map (keepsConditions_capitalized leftEnds)
  have ofRight := reads.scanRelations_map (keepsConditions_capitalized rightEnds)
  rw [same.significant] at ofLeft
  have seen := (ofLeft.trans ofRight.symm).joins
  rw [isKeyedJoin_comp_eq, ← List.map_map, ← List.map_map]
  exact congrArg _ seen.symm

end SqlLineage.Flow
