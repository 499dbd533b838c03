/-
Module: SqlLineage.Proofs.Script.Groups
Purpose: The groups into which semicolons cut the tokens of a script. Each group is a stretch of the
  tokens without a semicolon; the statements are the groups that hold more than comments.
Main exports: TokenGroup.significant, infix_of_mem_split, split_append_mark, exists_group_of_mem_split
-/
import Mathlib.Data.List.Forall2
import Mathlib.Data.List.Infix
import SqlLineage.Script.Statement

namespace SqlLineage.Script

namespace TokenGroup

/-- The tokens of the group that carry meaning. -/
def significant (group : TokenGroup) : List Token := group.tokens.filter (!·.isComment)

theorem mem_significant_iff {group : TokenGroup} {token : Token} :
    token ∈ group.significant ↔ token ∈ group.tokens ∧ token.isComment = false := by
  simp [significant]

theorem significant_cons_of_isComment {token : Token} (comment : token.isComment = true)
    (group : TokenGroup) :
    significant ⟨token :: group.tokens, group.stop⟩ = group.significant := by
  simp [significant, comment]

theorem significant_cons {token : Token} (noComment : token.isComment = false) (group : TokenGroup) :
    significant ⟨token :: group.tokens, group.stop⟩ = token :: group.significant := by
  simp [significant, noComment]

/-- A group is a statement exactly if some of its tokens carry meaning. -/
theorem isStatement_iff {group : TokenGroup} :
    group.isStatement = true ↔ group.significant ≠ [] := by
  simp [isStatement, significant, List.filter_eq_nil_iff]

/-! ### Cutting at semicolons -/

variable {scriptEnd : Nat} {token : Token} {rest : List Token}

theorem split_cons_of_mark (mark : token.isMark ";" = true) :
    split scriptEnd (token :: rest) = ⟨[], token.offset⟩ :: split scriptEnd rest := by
  simp [split, mark]

/-- A token that is no semicolon belongs to the first of the groups behind it. -/
theorem exists_split_cons (scriptEnd : Nat) (rest : List Token)
    (noMark : ¬ token.isMark ";" = true) :
    ∃ group later, split scriptEnd rest = group :: later ∧
      split scriptEnd (token :: rest) = ⟨token :: group.tokens, group.stop⟩ :: later := by
  cases groups : split scriptEnd rest with
  | nil => exact absurd groups (split_ne_nil scriptEnd rest)
  | cons group later => exact ⟨group, later, rfl, by simp [split, noMark, groups]⟩

theorem split_of_noMark {tokens : List Token} (noMark : ∀ token ∈ tokens, ¬ token.isMark ";" = true) :
    split scriptEnd tokens = [⟨tokens, scriptEnd⟩] := by
  induction tokens with
  | nil => rfl
  | cons token rest ih =>
      have behind := ih fun other member => noMark other (List.mem_cons_of_mem token member)
      simp [split, noMark token List.mem_cons_self, behind]

/-- The tokens up to a semicolon are a group of their own. -/
theorem split_append_mark {tokens : List Token} (noMark : ∀ token ∈ tokens, ¬ token.isMark ";" = true)
    (mark : token.isMark ";" = true) :
    split scriptEnd (tokens ++ token :: rest) =
      ⟨tokens, token.offset⟩ :: split scriptEnd rest := by
  induction tokens with
  | nil => exact split_cons_of_mark mark
  | cons first tokens ih =>
      have behind := ih fun other member => noMark other (List.mem_cons_of_mem first member)
      rw [List.cons_append, split, if_neg (noMark first List.mem_cons_self), behind]

/-- What holds of no tokens, and goes on to hold with a semicolon or another token in front, holds of all
tokens and their groups. -/
theorem split_induction {motive : List Token → List TokenGroup → Prop} (scriptEnd : Nat)
    (done : motive [] [⟨[], scriptEnd⟩])
    (mark : ∀ token rest groups, token.isMark ";" = true → motive rest groups →
      motive (token :: rest) (⟨[], token.offset⟩ :: groups))
    (other : ∀ token rest group later, ¬ token.isMark ";" = true → motive rest (group :: later) →
      motive (token :: rest) (⟨token :: group.tokens, group.stop⟩ :: later))
    (tokens : List Token) : motive tokens (split scriptEnd tokens) := by
  induction tokens with
  | nil => exact done
  | cons token rest ih =>
      by_cases isMark : token.isMark ";" = true
      · rw [split_cons_of_mark isMark]
        exact mark token rest _ isMark ih
      · obtain ⟨group, later, behind, shape⟩ := exists_split_cons scriptEnd rest isMark
        rw [shape]
        exact other token rest group later isMark (behind ▸ ih)

/-! ### Groups as stretches of the tokens -/

/-- The first group starts with the tokens, and each other one is a stretch of them. -/
theorem stretches_split (scriptEnd : Nat) (tokens : List Token) :
    (∀ group ∈ (split scriptEnd tokens).head?, group.tokens <+: tokens) ∧
      ∀ group ∈ split scriptEnd tokens, group.tokens <:+: tokens := by
  induction tokens using split_induction scriptEnd with
  | done => simp
  | mark token rest groups isMark ih =>
      refine ⟨by simp, List.forall_mem_cons.mpr ⟨List.nil_infix, fun group member => ?_⟩⟩
      exact (ih.2 group member).trans (List.suffix_cons token rest).isInfix
  | other token rest group later noMark ih =>
      have first : (token :: group.tokens) <+: token :: rest :=
        List.cons_prefix_cons.mpr ⟨rfl, ih.1 group rfl⟩
      refine ⟨by simpa using first, List.forall_mem_cons.mpr ⟨first.isInfix, fun other member => ?_⟩⟩
      exact (ih.2 other (List.mem_cons_of_mem group member)).trans (List.suffix_cons token rest).isInfix

theorem prefix_of_split_eq_cons {tokens : List Token} {group : TokenGroup} {later : List TokenGroup}
    (groups : split scriptEnd tokens = group :: later) : group.tokens <+: tokens :=
  (stretches_split scriptEnd tokens).1 group (by rw [groups]; rfl)

/-- Each group is a stretch of the tokens. -/
theorem infix_of_mem_split {tokens : List Token} {group : TokenGroup}
    (member : group ∈ split scriptEnd tokens) : group.tokens <:+: tokens :=
  (stretches_split scriptEnd tokens).2 group member

/-- No group holds a semicolon. -/
theorem noMark_of_mem_split {tokens : List Token} {group : TokenGroup}
    (member : group ∈ split scriptEnd tokens) :
    ∀ token ∈ group.tokens, ¬ token.isMark ";" = true := by
  induction tokens using split_induction scriptEnd generalizing group with
  | done => simp_all
  | mark token rest groups isMark ih =>
      rcases List.mem_cons.mp member with rfl | later
      · exact List.forall_mem_nil _
      · exact ih later
  | other token rest first later noMark ih =>
      rcases List.mem_cons.mp member with rfl | behind
      · exact List.forall_mem_cons.mpr ⟨noMark, ih List.mem_cons_self⟩
      · exact ih (List.mem_cons_of_mem first behind)

end TokenGroup

/-! ### Statements -/

theorem forall₂_mapIdx {α β γ δ : Type} {R : α → β → Prop} {S : γ → δ → Prop} {f : Nat → α → γ}
    {g : Nat → β → δ} {xs : List α} {ys : List β} (related : List.Forall₂ R xs ys)
    (step : ∀ i x y, R x y → S (f i x) (g i y)) : List.Forall₂ S (xs.mapIdx f) (ys.mapIdx g) := by
  induction related generalizing f g with
  | nil => exact .nil
  | cons first _ ih =>
      rw [List.mapIdx_cons, List.mapIdx_cons]
      exact .cons (step 0 _ _ first) (ih fun i => step (i + 1))

/-- Each statement stands for a group that holds more than comments. -/
theorem exists_group_of_mem_split {escapes : QuoteEscapes} {script : String} {statement : Statement}
    (member : statement ∈ Statement.split escapes script) :
    ∃ group ∈ TokenGroup.split script.utf8ByteSize (tokenize escapes script),
      group.isStatement = true ∧ statement.tokens = group.tokens := by
  obtain ⟨index, inside, rfl⟩ := List.mem_mapIdx.mp member
  obtain ⟨isGroup, isStatement⟩ := List.mem_filter.mp (List.getElem_mem inside)
  exact ⟨_, isGroup, isStatement, rfl⟩

end SqlLineage.Script
