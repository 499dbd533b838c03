/-
Module: SqlLineage.Proofs.Script.ScanSteps
Purpose: The scan of a statement step by step: what each reader does with the tokens at its head, and
  that what it leaves is a rest of them.
Main exports: readRelations_of_some, scanFrom_from, scanFrom_join, readRelation_suffix,
  readJoinCondition_suffix
-/
import Mathlib.Data.List.Infix
import SqlLineage.Script.RelationScan

namespace SqlLineage.Script

open Lineage (TableReference)

variable {cteNames : List String} {tokens rest more before : List Token} {token : Token}
  {table right : TableReference} {state : ScanState}

/-- Whether a token is no parenthesis. -/
def Token.IsPlain (token : Token) : Prop := ¬ token.isMark "(" = true ∧ ¬ token.isMark ")" = true

instance : DecidablePred Token.IsPlain := fun _ => inferInstanceAs (Decidable (_ ∧ _))

/-! ### Lists of relations -/

theorem readRelations_of_none (found : readRelation cteNames tokens = none) :
    readRelations cteNames tokens = ([], tokens) := by
  rw [readRelations.eq_def]
  split
  · rfl
  · next other => rw [found] at other; cases other

theorem readRelations_of_end (found : readRelation cteNames tokens = some (table, [])) :
    readRelations cteNames tokens = ([table], []) := by
  rw [readRelations.eq_def]
  split
  · next other => rw [found] at other; cases other
  · next other =>
      rw [found] at other
      cases other
      rfl

/-- A comma goes on with the list, any other token ends it. -/
theorem readRelations_of_some (found : readRelation cteNames tokens = some (table, token :: more)) :
    readRelations cteNames tokens =
      if token.isMark "," then
        (table :: (readRelations cteNames more).1, (readRelations cteNames more).2)
      else ([table], token :: more) := by
  rw [readRelations.eq_def]
  split
  · next other => rw [found] at other; cases other
  · next other =>
      rw [found] at other
      cases other
      rfl

/-! ### Join conditions -/

section Conditions

variable {depth : Nat}

theorem readCondition_open (opens : token.isMark "(" = true) :
    readCondition depth (token :: rest) =
      (token :: (readCondition (depth + 1) rest).1, (readCondition (depth + 1) rest).2) := by
  rw [readCondition.eq_def]
  simp [opens]

theorem readCondition_close (noOpen : ¬ token.isMark "(" = true) (closes : token.isMark ")" = true) :
    readCondition (depth + 1) (token :: rest) =
      (token :: (readCondition depth rest).1, (readCondition depth rest).2) := by
  rw [readCondition.eq_def]
  simp [noOpen, closes]

/-- Whether a token ends a join condition that it stands in outside all parentheses. -/
def Token.endsCondition (token : Token) : Bool :=
  token.isAnyKeyword clauseBoundaries || token.isMark ","

theorem readCondition_inside (plain : token.IsPlain)
    (inside : depth = 0 → token.endsCondition = false) :
    readCondition depth (token :: rest) =
      (token :: (readCondition depth rest).1, (readCondition depth rest).2) := by
  rw [readCondition.eq_def]
  cases depth with
  | zero =>
      have noEnd := inside rfl
      rw [Token.endsCondition] at noEnd
      simp [plain.1, plain.2, noEnd]
  | succ outer => simp [plain.1, plain.2]

theorem readCondition_end (plain : token.IsPlain) (ends : token.endsCondition = true) :
    readCondition 0 (token :: rest) = ([], token :: rest) := by
  rw [Token.endsCondition] at ends
  rw [readCondition.eq_def]
  simp [plain.1, plain.2, ends]

end Conditions

/-! ### Steps of the scan -/

theorem readBetween_append (consumed rest : List Token) :
    readBetween (consumed ++ rest) rest = consumed.reverse := by
  simp [readBetween]

theorem scanFrom_nil : scanFrom state before [] = state := by
  rw [scanFrom]

theorem scanFrom_open (opens : token.isMark "(" = true) :
    scanFrom state before (token :: rest) = scanFrom state.openScope (token :: before) rest := by
  rw [scanFrom, if_pos opens]

theorem scanFrom_close (noOpen : ¬ token.isMark "(" = true) (closes : token.isMark ")" = true) :
    scanFrom state before (token :: rest) = scanFrom state.closeScope (token :: before) rest := by
  rw [scanFrom, if_neg noOpen, if_pos closes]

theorem scanFrom_cte (plain : token.IsPlain) (introduces : introducesCte before (token :: rest) = true) :
    scanFrom state before (token :: rest) =
      scanFrom (state.addCte token.unquoted) (token :: before) rest := by
  rw [scanFrom, if_neg plain.1, if_neg plain.2, if_pos introduces]

theorem scanFrom_from (plain : token.IsPlain)
    (noCte : ¬ introducesCte before (token :: rest) = true) (word : token.isKeyword "FROM" = true) :
    scanFrom state before (token :: rest) =
      scanFrom (state.addTables (readRelations state.found.cteNames rest).1)
        (readBetween (token :: rest) (readRelations state.found.cteNames rest).2 ++ before)
        (readRelations state.found.cteNames rest).2 := by
  rw [scanFrom, if_neg plain.1, if_neg plain.2, if_neg noCte, if_pos word]

theorem scanFrom_join (plain : token.IsPlain)
    (noCte : ¬ introducesCte before (token :: rest) = true) (noFrom : ¬ token.isKeyword "FROM" = true)
    (word : token.isKeyword "JOIN" = true)
    (found : readRelation state.found.cteNames rest = some (right, more)) :
    scanFrom state before (token :: rest) =
      scanFrom (state.addJoin (joinKindBefore before) right (readJoinCondition more).1)
        (readBetween (token :: rest) (readJoinCondition more).2 ++ before)
        (readJoinCondition more).2 := by
  rw [scanFrom, if_neg plain.1, if_neg plain.2, if_neg noCte, if_neg noFrom, if_pos word]
  split
  · next other => rw [found] at other; cases other
  · next other =>
      rw [found] at other
      cases other
      rfl

/-- A word `JOIN` without a relation behind it is passed over. -/
theorem scanFrom_join_of_none (plain : token.IsPlain)
    (noCte : ¬ introducesCte before (token :: rest) = true) (noFrom : ¬ token.isKeyword "FROM" = true)
    (word : token.isKeyword "JOIN" = true) (found : readRelation state.found.cteNames rest = none) :
    scanFrom state before (token :: rest) = scanFrom state (token :: before) rest := by
  rw [scanFrom, if_neg plain.1, if_neg plain.2, if_neg noCte, if_neg noFrom, if_pos word]
  split
  · rfl
  · next other => rw [found] at other; cases other

theorem scanFrom_other (plain : token.IsPlain)
    (noCte : ¬ introducesCte before (token :: rest) = true) (noFrom : ¬ token.isKeyword "FROM" = true)
    (noJoin : ¬ token.isKeyword "JOIN" = true) :
    scanFrom state before (token :: rest) = scanFrom state (token :: before) rest := by
  rw [scanFrom, if_neg plain.1, if_neg plain.2, if_neg noCte, if_neg noFrom, if_neg noJoin]

/-! ### What a reader leaves -/

theorem readNameParts_suffix (tokens : List Token) : (readNameParts tokens).2 <:+ tokens := by
  fun_induction readNameParts tokens with
  | case1 => exact List.suffix_refl _
  | case2 token name dot next more continues tail ih =>
      exact ih.trans ((List.suffix_cons dot _).trans (List.suffix_cons token _))
  | case3 token name dot next more ends => exact List.suffix_cons token _
  | case4 token name rest short => exact List.suffix_cons token _
  | case5 token rest noName => exact List.suffix_refl _

theorem readObjectName_suffix {name : String}
    (found : readObjectName tokens = some (name, rest)) : rest <:+ tokens := by
  have left := readNameParts_suffix tokens
  unfold readObjectName at found
  split at found
  · cases found
  · next shape =>
      cases found
      rwa [shape] at left

theorem skipKeyword_suffix (word : String) (tokens : List Token) :
    skipKeyword word tokens <:+ tokens := by
  fun_cases skipKeyword word tokens with
  | case1 => exact List.suffix_refl _
  | case2 token rest skipped => exact List.suffix_cons token rest
  | case3 token rest kept => exact List.suffix_refl _

theorem readAlias_suffix (tokens : List Token) : (readAlias tokens).2 <:+ tokens := by
  have skipped := skipKeyword_suffix "AS" tokens
  unfold readAlias
  split
  · exact List.nil_suffix
  · next token rest shape =>
      rw [shape] at skipped
      split
      · exact (List.suffix_cons token rest).trans skipped
      · exact skipped

theorem readRelation_suffix (found : readRelation cteNames tokens = some (table, rest)) :
    rest <:+ tokens := by
  unfold readRelation at found
  split at found
  · cases found
  · next shape =>
      cases found
      exact (readAlias_suffix _).trans (readObjectName_suffix shape)

theorem readRelations_suffix (cteNames : List String) (tokens : List Token) :
    (readRelations cteNames tokens).2 <:+ tokens := by
  fun_induction readRelations cteNames tokens with
  | case1 => exact List.suffix_refl _
  | case2 => exact List.nil_suffix
  | case3 tokens table token more found mark shorter tail _ ih =>
      exact ih.trans ((List.suffix_cons token more).trans (readRelation_suffix found))
  | case4 tokens table token more found => exact readRelation_suffix found

theorem readJoinCondition_suffix (tokens : List Token) : (readJoinCondition tokens).2 <:+ tokens := by
  fun_cases readJoinCondition tokens with
  | case1 => exact List.suffix_refl _
  | case2 first rest starts split text =>
      have left : split.2 <:+ if first.isKeyword "ON" then rest else first :: rest :=
        ⟨_, readCondition_append 0 _⟩
      apply left.trans
      split_ifs
      · exact List.suffix_cons first rest
      · exact List.suffix_refl _
  | case3 => exact List.suffix_refl _

theorem afterKeyword?_suffix {word : String} (found : afterKeyword? word tokens = some rest) :
    rest <:+ tokens := by
  unfold afterKeyword? at found
  split at found
  · cases found
  · next token more =>
      split at found
      · cases found
        exact List.suffix_cons token _
      · cases found

theorem afterTopLevel?_suffix {word : String} {depth : Nat}
    (found : afterTopLevel? word depth tokens = some rest) : rest <:+ tokens := by
  fun_induction afterTopLevel? word depth tokens with
  | case1 => cases found
  | case2 depth token more opens ih => exact (ih found).trans (List.suffix_cons token more)
  | case3 depth token more noOpen closes ih => exact (ih found).trans (List.suffix_cons token more)
  | case4 depth token more noOpen noClose here =>
      cases found
      exact List.suffix_cons token _
  | case5 depth token more noOpen noClose other ih => exact (ih found).trans (List.suffix_cons token more)

theorem readModifiers_suffix (tokens : List Token) :
    (StatementKind.readModifiers tokens).2 <:+ tokens := by
  induction tokens with
  | nil => exact List.suffix_refl _
  | cons token rest ih =>
      rw [StatementKind.readModifiers]
      split
      · exact ih.trans (List.suffix_cons token rest)
      · exact List.suffix_refl _

theorem skipIfNotExists_suffix (tokens : List Token) :
    StatementKind.skipIfNotExists tokens <:+ tokens := by
  unfold StatementKind.skipIfNotExists
  split
  · next rest found =>
      exact ((skipKeyword_suffix _ _).trans (skipKeyword_suffix _ _)).trans (afterKeyword?_suffix found)
  · exact List.suffix_refl _

end SqlLineage.Script
