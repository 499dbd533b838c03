/-
Module: SqlLineage.Proofs.Lineage.Normalization
Purpose: The text of a statement without its comments keeps the statement: it is read as the same tokens,
  one space stands where something stood between two of them, and it is its own such text. So the lineage
  of a script does not depend on how the script is laid out.
Main exports: Apart, Spelled, Statement.IsKept, parse_normalized
-/
import SqlLineage.Lineage.Script
import SqlLineage.Proofs.Script.Settling

namespace SqlLineage

namespace Script

/-! ### What stands between two tokens -/

/-- Whether white space of the script or a comment among the tokens of a statement stands between two
other tokens. -/
inductive Apart (script : String) (tokens : List Token) (left right : Token) : Prop where
  | blank (lead rest : List Char) (c : Char) (text : script.toList = lead ++ c :: rest)
      (isBlank : Text.isBlank c = true) (behind : left.stop ≤ byteLength lead)
      (before : byteLength lead < right.offset)
  | comment (token : Token) (member : token ∈ tokens) (isComment : token.isComment = true)
      (behind : left.stop ≤ token.offset) (before : token.stop ≤ right.offset)

/-- Whether a text spells tokens one after another, with a single space between those that are apart and
nothing between the others. -/
inductive Spelled (apart : Token → Token → Prop) : List Token → String → Prop where
  | single (token : Token) : Spelled apart [token] token.text
  | glued {left right : Token} {rest : List Token} {text : String} (touch : ¬ apart left right)
      (behind : Spelled apart (right :: rest) text) :
      Spelled apart (left :: right :: rest) (left.text ++ text)
  | spaced {left right : Token} {rest : List Token} {text : String} (isApart : apart left right)
      (behind : Spelled apart (right :: rest) text) :
      Spelled apart (left :: right :: rest) (left.text ++ " " ++ text)

/-- Tokens are spelled with a space in each gap. -/
theorem spelled_render {apart : Token → Token → Prop} {tokens : List Token} (nonempty : tokens ≠ [])
    (gaps : tokens.IsChain fun left right => apart left right ↔ left.stop < right.offset) :
    Spelled apart tokens (render tokens) := by
  induction tokens with
  | nil => exact absurd rfl nonempty
  | cons left rest ih =>
      cases rest with
      | nil =>
          rw [render_singleton]
          exact .single left
      | cons right rest =>
          obtain ⟨gap, gapsRest⟩ := List.isChain_cons_cons.mp gaps
          have behind := ih (List.cons_ne_nil right rest) gapsRest
          have text : render (left :: right :: rest) =
              left.text ++ (if right.offset > left.stop then " " else "") ++
                render (right :: rest) := by
            simp [render, renderAfter, String.append_assoc]
          rw [text]
          by_cases isGap : left.stop < right.offset
          · rw [if_pos isGap]
            exact .spaced (gap.mpr isGap) behind
          · rw [if_neg isGap, String.append_empty]
            exact .glued (isGap ∘ gap.mp) behind

/-- Two tokens of a statement that only comments stand between are apart exactly if there is a gap. -/
theorem apart_iff_gap {escapes : QuoteEscapes} {script : String} {tokens : List Token} {left right : Token}
    (before between after : List Token) (stretch : tokens <:+: tokenize escapes script)
    (shape : tokens = before ++ left :: (between ++ right :: after))
    (comments : ∀ token ∈ between, token.isComment = true) :
    Apart script tokens left right ↔ left.stop < right.offset := by
  have ordered := (pairwise_tokensFrom escapes 0 script.toList).sublist stretch.sublist
  constructor
  · rintro (⟨lead, rest, c, _, _, behind, before⟩ | ⟨token, member, _, behind, before⟩)
    · exact Nat.lt_of_le_of_lt behind before
    · have := (bounds_of_mem_tokensFrom (stretch.subset member)).2
      omega
  · intro gap
    rw [shape] at ordered
    have orderedBehind := (List.pairwise_append.mp ordered).2.1
    cases between with
    | nil =>
        obtain ⟨front, back, whole⟩ := stretch
        have adjacent : tokensFrom escapes 0 script.toList =
            (front ++ before) ++ left :: right :: (after ++ back) := by
          rw [← show _ = tokensFrom escapes 0 script.toList from whole, shape]
          simp
        obtain ⟨lead, c, rest, text, isBlank, place⟩ := exists_blank_of_gap adjacent gap
        rw [Nat.zero_add] at place
        exact .blank lead rest c text isBlank (Nat.le_of_eq place) (place ▸ gap)
    | cons comment between =>
        obtain ⟨fromLeft, fromComment⟩ := List.pairwise_cons.mp orderedBehind
        refine .comment comment ?_ (comments comment List.mem_cons_self)
          (fromLeft comment List.mem_cons_self)
          ((List.pairwise_cons.mp fromComment).1 right (by simp))
        rw [shape]
        simp

/-- The tokens of a statement that carry meaning are spelled in its text. -/
theorem spelled_normalized {escapes : QuoteEscapes} {script : String} {statement : Statement}
    (member : statement ∈ Statement.split escapes script) :
    Spelled (Apart script statement.tokens) statement.significant statement.normalized := by
  obtain ⟨group, inScript, isStatement, sameTokens⟩ := exists_group_of_mem_split member
  have stretch : statement.tokens <:+: tokenize escapes script :=
    sameTokens ▸ TokenGroup.infix_of_mem_split inScript
  have nonempty : statement.significant ≠ [] := by
    rw [Statement.significant, sameTokens]
    exact TokenGroup.isStatement_iff.mp isStatement
  refine spelled_render nonempty (List.isChain_iff_forall_rel_of_append_cons_cons.mpr ?_)
  intro left right front back adjacent
  obtain ⟨lead, rest, shape, _, behind⟩ := List.filter_eq_append_iff.mp adjacent
  obtain ⟨skipped, later, shapeLeft, _, _, behindLeft⟩ := List.filter_eq_cons_iff.mp behind
  obtain ⟨between, after, shapeRight, comments, _, _⟩ := List.filter_eq_cons_iff.mp behindLeft
  refine apart_iff_gap (lead ++ skipped) between after stretch ?_ ?_
  · rw [shape, shapeLeft, shapeRight]
    simp
  · simpa using comments

/-- What the text of a statement keeps of the statement: it is read as the tokens that carry meaning and no
others, it spells them with a space exactly where something stood between two of them, and it is cut into
one statement, whose text it is. -/
structure Statement.IsKept (escapes : QuoteEscapes) (script : String) (statement : Statement) : Prop where
  lexemes : (tokenize escapes statement.normalized).map (fun token => (token.kind, token.text)) =
    statement.significant.map fun token => (token.kind, token.text)
  noComment : ∀ token ∈ tokenize escapes statement.normalized, token.isComment = false
  spelled : Spelled (Apart script statement.tokens) statement.significant statement.normalized
  again : ∃ again, Statement.split escapes statement.normalized = [again] ∧
    again.normalized = statement.normalized

theorem isKept_of_mem_split {escapes : QuoteEscapes} {script : String} {statement : Statement}
    (member : statement ∈ Statement.split escapes script) : statement.IsKept escapes script where
  lexemes := by
    obtain ⟨place, shape, _⟩ := settlesAs_tokenize_normalized member
    rw [shape, List.map_map]
    rfl
  noComment := by
    have kept := (settlesAs_tokenize_normalized member).filter
    simpa using List.filter_eq_self.mp kept
  spelled := spelled_normalized member
  again := by
    obtain ⟨again, cut, _, text⟩ := exists_split_normalized member
    exact ⟨again, cut, text⟩

/-- The texts of the statements of a script, joined by semicolons. -/
def normalizedScript (escapes : QuoteEscapes) (script : String) : String :=
  Text.joinWith ";" ((Statement.split escapes script).map Statement.normalized)

end Script

namespace Lineage

open Script (QuoteEscapes Statement normalizedScript)

/-- What a statement contributes does not depend on where its tokens stand. -/
theorem statementLineage?_of_settlesAs {read : String → Option Sql.Query} {statement again : Statement}
    (settles : statement.SettlesAs again) :
    statementLineage? read again = statementLineage? read statement := by
  simp only [statementLineage?, settles.kind?, settles.index, settles.normalized, settles.relations]

theorem parseWith_normalizedScript (read : String → Option Sql.Query) (escapes : QuoteEscapes)
    (script : String) :
    parseWith read escapes (normalizedScript escapes script) = parseWith read escapes script := by
  have contributed : ∀ {statements again : List Statement},
      List.Forall₂ Statement.SettlesAs statements again →
        again.filterMap (statementLineage? read) = statements.filterMap (statementLineage? read) := by
    intro statements again settled
    induction settled with
    | nil => rfl
    | cons first _ ih => simp only [List.filterMap_cons, statementLineage?_of_settlesAs first, ih]
  exact congrArg ParsedScript.ofStatements
    (contributed (Script.forall₂_split_normalized escapes script))

/-- Whether the texts of the statements of a script keep the statements, and the lineage of the script is
that of these texts joined by semicolons, whatever reads the statements. -/
structure IsLayoutFree (script : String) : Prop where
  statements : ∀ escapes, ∀ statement ∈ Statement.split escapes script, statement.IsKept escapes script
  parse : ∀ read escapes,
    parseWith read escapes (normalizedScript escapes script) = parseWith read escapes script
  dialects : ∀ dialect,
    parseScript dialect (normalizedScript (escapesOf dialect) script) = parseScript dialect script

/-- The lineage of a script does not depend on its comments and white space. -/
theorem isLayoutFree (script : String) : IsLayoutFree script where
  statements _ _ member := Script.isKept_of_mem_split member
  parse read escapes := parseWith_normalizedScript read escapes script
  dialects dialect := parseWith_normalizedScript (Sql.sourceQuery? dialect) (escapesOf dialect) script

end Lineage

end SqlLineage
