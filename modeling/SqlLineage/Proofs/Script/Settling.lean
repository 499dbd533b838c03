/-
Module: SqlLineage.Proofs.Script.Settling
Purpose: The statements of a script, written out and joined by semicolons, are cut into the same
  statements again. Their tokens stand at new places, where the same ones touch, so that each statement is
  of the same kind, reads as the same text and shows the same relations.
Main exports: settle, Statement.SettlesAs, SettlesAs.normalized, forall₂_split_joined
-/
import Mathlib.Logic.Function.Basic
import SqlLineage.Proofs.Script.Placement
import SqlLineage.Proofs.Script.Rendering

namespace SqlLineage.Script

variable {escapes : QuoteEscapes} {suffix : List Char}

/-! ### Tokens that are written out from some place on -/

/-- The tokens at the places where they stand when they are written out from `start` on. -/
def settle (start : Nat) : List Token → List Token
  | [] => []
  | token :: rest => settleFrom token.offset start (token :: rest)

theorem KeepsGaps.congr {place other : Nat → Nat} {tokens : List Token} (keeps : KeepsGaps place tokens)
    (same : ∀ token ∈ tokens, other token.offset = place token.offset) : KeepsGaps other tokens := by
  have moved : ∀ token ∈ tokens, token.moved other = token.moved place := by
    intro token member
    simp [Token.moved, same token member]
  refine keeps.imp_of_mem_imp fun left right isLeft isRight gap => ?_
  rw [moved left isLeft, moved right isRight]
  exact gap

/-- Tokens that stand in order are moved where they are written out, and the same ones touch there. -/
theorem exists_place_settleFrom {tokens : List Token}
    (ordered : tokens.Pairwise fun left right => left.offset < right.offset) (last start : Nat) :
    ∃ place, settleFrom last start tokens = tokens.map (Token.moved place) ∧
      KeepsGaps place tokens := by
  induction tokens generalizing last start with
  | nil => exact ⟨id, rfl, List.isChain_nil⟩
  | cons token rest ih =>
      obtain ⟨after, orderedRest⟩ := List.pairwise_cons.mp ordered
      generalize atOffset : (if token.offset > last then start + 1 else start) = offset
      obtain ⟨place, settled, keeps⟩ :=
        ih orderedRest token.stop (offset + token.text.utf8ByteSize)
      have same : ∀ other ∈ rest, Function.update place token.offset offset other.offset =
          place other.offset := fun other member =>
        Function.update_of_ne (Nat.ne_of_gt (after other member)) offset place
      have moved : rest.map (Token.moved (Function.update place token.offset offset)) =
          rest.map (Token.moved place) :=
        List.map_congr_left fun other member => by simp [Token.moved, same other member]
      have first : token.moved (Function.update place token.offset offset) = { token with offset } := by
        simp [Token.moved]
      refine ⟨Function.update place token.offset offset, ?_, ?_⟩
      · rw [settleFrom, atOffset, settled, List.map_cons, moved, first]
      · cases rest with
        | nil => exact List.isChain_singleton token
        | cons next rest =>
            refine List.isChain_cons_cons.mpr ⟨?_, keeps.congr same⟩
            -- The next token stands right behind this one, or one byte further if there is a gap.
            have place_next : (if next.offset > token.stop then offset + token.text.utf8ByteSize + 1
                else offset + token.text.utf8ByteSize) = place next.offset :=
              congrArg Token.offset (List.cons.inj settled).1
            rw [first]
            show token.stop < next.offset ↔ offset + token.text.utf8ByteSize < _
            rw [Token.moved, same next List.mem_cons_self, ← place_next]
            by_cases gap : next.offset > token.stop
            · simp [gap]
            · simp [gap]

theorem exists_place_settle {tokens : List Token}
    (ordered : tokens.Pairwise fun left right => left.offset < right.offset) (start : Nat) :
    ∃ place, settle start tokens = tokens.map (Token.moved place) ∧ KeepsGaps place tokens := by
  cases tokens with
  | nil => exact ⟨id, rfl, List.isChain_nil⟩
  | cons token rest => exact exists_place_settleFrom ordered token.offset start

theorem ReadsBack.tokensFrom_render {tokens : List Token} (back : ReadsBack escapes suffix tokens)
    (start : Nat) : tokensFrom escapes start ((render tokens).toList ++ suffix) =
      settle start tokens ++ tokensFrom escapes (start + (render tokens).utf8ByteSize) suffix := by
  cases tokens with
  | nil => rfl
  | cons token rest =>
      have written : render (token :: rest) = renderAfter token.offset (token :: rest) := by
        simp [render, renderAfter]
      rw [written]
      exact back token.offset start

/-! ### Groups that are joined by semicolons -/

theorem GroupsReadBack.sublist {some all : List TokenGroup} (part : some.Sublist all)
    (back : GroupsReadBack escapes all) : GroupsReadBack escapes some := by
  induction part with
  | slnil => exact trivial
  | cons group part ih => exact ih back.2
  | @cons_cons some all group part ih =>
      refine ⟨fun suffix follows => back.1 suffix ?_, ih back.2⟩
      rcases follows with ended | ⟨later, mark⟩
      · exact .inl ended
      · refine .inr ⟨fun none => later ?_, mark⟩
        rw [none] at part
        exact List.sublist_nil.mp part

/-- A semicolon is a token of its own. -/
theorem tokensFrom_semicolon (start : Nat) (rest : List Char) :
    tokensFrom escapes start (';' :: rest) =
      ⟨.punctuation, ";", start⟩ :: tokensFrom escapes (start + 1) rest :=
  tokensFrom_lexeme (by decide) rest

/-- The text of a group without its comments. -/
def TokenGroup.written (group : TokenGroup) : String := render group.significant

/-- Whether tokens are those of a stretch that carry meaning, at places where the same ones touch. -/
def SettlesAs (tokens again : List Token) : Prop :=
  ∃ place, again = (tokens.filter (!·.isComment)).map (Token.moved place) ∧
    KeepsGaps place (tokens.filter (!·.isComment))

theorem settlesAs_settle {group : TokenGroup}
    (ordered : group.tokens.Pairwise fun left right => left.offset < right.offset) (start : Nat) :
    SettlesAs group.tokens (settle start group.significant) :=
  exists_place_settle (ordered.sublist List.filter_sublist) start

theorem SettlesAs.noMark {tokens again : List Token} (settles : SettlesAs tokens again)
    (noMark : ∀ token ∈ tokens, ¬ token.isMark ";" = true) :
    ∀ token ∈ again, ¬ token.isMark ";" = true := by
  obtain ⟨place, rfl, _⟩ := settles
  intro token member
  obtain ⟨old, kept, rfl⟩ := List.mem_map.mp member
  rw [(keepsReading_moved place).isMark]
  exact noMark old (List.mem_filter.mp kept).1

/-- No comment is left among the tokens. -/
theorem SettlesAs.filter {tokens again : List Token} (settles : SettlesAs tokens again) :
    again.filter (!·.isComment) = again := by
  obtain ⟨place, rfl, _⟩ := settles
  rw [List.filter_eq_self]
  intro token member
  obtain ⟨old, kept, rfl⟩ := List.mem_map.mp member
  exact (List.mem_filter.mp kept).2

/-- Groups that are joined by semicolons are cut into the same groups. -/
theorem forall₂_split_joinWith {groups : List TokenGroup} (nonempty : groups ≠ [])
    (back : GroupsReadBack escapes groups)
    (noMark : ∀ group ∈ groups, ∀ token ∈ group.tokens, ¬ token.isMark ";" = true)
    (ordered : ∀ group ∈ groups,
      group.tokens.Pairwise fun left right => left.offset < right.offset)
    (scriptEnd start : Nat) :
    List.Forall₂ (fun group again => SettlesAs group.tokens again.tokens) groups
      (TokenGroup.split scriptEnd
        (tokensFrom escapes start (Text.joinWith ";" (groups.map TokenGroup.written)).toList)) := by
  induction groups generalizing start with
  | nil => exact absurd rfl nonempty
  | cons group later ih =>
      obtain ⟨orderedFirst, orderedLater⟩ := List.forall_mem_cons.mp ordered
      obtain ⟨noMarkFirst, noMarkLater⟩ := List.forall_mem_cons.mp noMark
      have settles := settlesAs_settle orderedFirst start
      cases later with
      | nil =>
          have text := (back.1 [] (.inl rfl)).tokensFrom_render start
          rw [List.append_nil, tokensFrom_nil, List.append_nil] at text
          rw [List.map_singleton, Text.joinWith, TokenGroup.written, text,
            TokenGroup.split_of_noMark (settles.noMark noMarkFirst)]
          exact .cons settles .nil
      | cons next later =>
          have follows : MayFollow (next :: later)
              (';' :: (Text.joinWith ";" ((next :: later).map TokenGroup.written)).toList) :=
            .inr ⟨List.cons_ne_nil next later, _, rfl⟩
          have text := (back.1 _ follows).tokensFrom_render start
          rw [tokensFrom_semicolon] at text
          have joined : (Text.joinWith ";" ((group :: next :: later).map TokenGroup.written)).toList =
              (render group.significant).toList ++
                ';' :: (Text.joinWith ";" ((next :: later).map TokenGroup.written)).toList := by
            simp [Text.joinWith, TokenGroup.written]
          rw [joined, text, TokenGroup.split_append_mark (settles.noMark noMarkFirst) rfl]
          exact .cons settles
            (ih (List.cons_ne_nil next later) back.2 noMarkLater orderedLater _)

/-! ### Statements that are joined by semicolons -/

/-- Whether a statement has the tokens of another that carry meaning, at places where the same ones
touch, and the same position in its script. -/
structure Statement.SettlesAs (statement again : Statement) : Prop where
  index : again.index = statement.index
  tokens : Script.SettlesAs statement.tokens again.tokens

namespace Statement.SettlesAs

variable {statement again : Statement} (settles : statement.SettlesAs again)

include settles

theorem significant : ∃ place,
    again.significant = statement.significant.map (Token.moved place) ∧
      KeepsGaps place statement.significant := by
  obtain ⟨place, shape, keeps⟩ := settles.tokens
  exact ⟨place, settles.tokens.filter.trans shape, keeps⟩

theorem kind? : again.kind? = statement.kind? := by
  obtain ⟨place, shape, _⟩ := settles.significant
  rw [Statement.kind?, Statement.kind?, shape, (keepsReading_moved place).ofTokens?_map]

theorem normalized : again.normalized = statement.normalized := by
  obtain ⟨place, shape, keeps⟩ := settles.significant
  rw [Statement.normalized, Statement.normalized, shape, render_moved keeps]

theorem relations : again.relations = statement.relations := by
  obtain ⟨place, shape, keeps⟩ := settles.significant
  rw [Statement.relations, Statement.relations, shape, scanRelations_moved keeps]

end Statement.SettlesAs

/-- The groups of a script that are statements. -/
def contributing (escapes : QuoteEscapes) (script : String) : List TokenGroup :=
  (TokenGroup.split script.utf8ByteSize (tokenize escapes script)).filter TokenGroup.isStatement

/-- The group of tokens that a statement stands for. -/
def Statement.group (statement : Statement) : TokenGroup := ⟨statement.tokens, statement.stop⟩

theorem map_group_split (escapes : QuoteEscapes) (script : String) :
    (Statement.split escapes script).map Statement.group = contributing escapes script := by
  refine List.ext_getElem (by simp [Statement.split, contributing]) fun index _ _ => ?_
  simp only [Statement.split, contributing, List.getElem_map, List.getElem_mapIdx]
  rfl

theorem groupsReadBack_split (scriptEnd offset : Nat) (cs : List Char) :
    GroupsReadBack escapes (TokenGroup.split scriptEnd (tokensFrom escapes offset cs)) := by
  obtain ⟨group, later, groups⟩ :=
    List.exists_cons_of_ne_nil (TokenGroup.split_ne_nil scriptEnd (tokensFrom escapes offset cs))
  rw [groups]
  exact (readsBack_split scriptEnd offset cs groups).2

/-- The tokens of each group stand in order. -/
theorem ordered_of_mem_split {scriptEnd : Nat} {script : String} {group : TokenGroup}
    (member : group ∈ TokenGroup.split scriptEnd (tokenize escapes script)) :
    group.tokens.Pairwise fun left right => left.offset < right.offset := by
  have inText := TokenGroup.infix_of_mem_split member
  refine ((pairwise_tokensFrom escapes 0 script.toList).sublist inText.sublist).imp_of_mem ?_
  intro left right isLeft _ apart
  exact Nat.lt_of_lt_of_le (bounds_of_mem_tokensFrom (inText.subset isLeft)).2 apart

theorem isStatement_iff_of_settlesAs {group again : TokenGroup}
    (settles : SettlesAs group.tokens again.tokens) :
    again.isStatement = true ↔ group.isStatement = true := by
  have kept := settles.filter
  obtain ⟨place, shape, _⟩ := settles
  rw [TokenGroup.isStatement_iff, TokenGroup.isStatement_iff,
    TokenGroup.significant, kept, shape, Ne, List.map_eq_nil_iff, TokenGroup.significant]

/-- Some of the groups of a script, joined by semicolons, are cut into statements of the same tokens. -/
theorem forall₂_split_written {script : String} {groups : List TokenGroup}
    (part : groups.Sublist (contributing escapes script)) :
    List.Forall₂ Statement.SettlesAs (groups.mapIdx TokenGroup.toStatement)
      (Statement.split escapes (Text.joinWith ";" (groups.map TokenGroup.written))) := by
  cases groups with
  | nil =>
      have none : Statement.split escapes "" = [] := by
        simp [Statement.split, tokenize, tokensFrom_nil, TokenGroup.split, TokenGroup.isStatement]
      rw [List.map_nil, Text.joinWith, none]
      exact .nil
  | cons first later =>
      have inScript := part.trans List.filter_sublist
      have settled := forall₂_split_joinWith (List.cons_ne_nil first later)
        ((groupsReadBack_split _ 0 script.toList).sublist inScript)
        (fun group member => TokenGroup.noMark_of_mem_split (inScript.subset member))
        (fun group member => ordered_of_mem_split (inScript.subset member))
        (Text.joinWith ";" ((first :: later).map TokenGroup.written)).utf8ByteSize 0
      have kept := List.rel_filter (p := TokenGroup.isStatement) (q := TokenGroup.isStatement)
        (fun group again settles => (isStatement_iff_of_settlesAs settles).symm) settled
      rw [List.filter_eq_self.mpr fun group member => (List.mem_filter.mp (part.subset member)).2] at kept
      exact forall₂_mapIdx kept fun index group again settles => ⟨rfl, settles⟩

/-- The statements of a script, joined by semicolons, are cut into the same statements. -/
theorem forall₂_split_normalized (escapes : QuoteEscapes) (script : String) :
    List.Forall₂ Statement.SettlesAs (Statement.split escapes script)
      (Statement.split escapes
        (Text.joinWith ";" ((Statement.split escapes script).map Statement.normalized))) := by
  have texts : (Statement.split escapes script).map Statement.normalized =
      (contributing escapes script).map TokenGroup.written := by
    rw [← map_group_split, List.map_map]
    rfl
  rw [texts]
  exact forall₂_split_written (List.Sublist.refl _)

/-- The text of a statement is read as its tokens that carry meaning, at places where the same ones
touch. -/
theorem settlesAs_tokenize_normalized {script : String} {statement : Statement}
    (member : statement ∈ Statement.split escapes script) :
    SettlesAs statement.tokens (tokenize escapes statement.normalized) := by
  obtain ⟨group, inScript, _, sameTokens⟩ := exists_group_of_mem_split member
  have back := (groupsReadBack_split _ 0 script.toList).sublist
    (List.singleton_sublist.mpr inScript)
  have text := (back.1 [] (.inl rfl)).tokensFrom_render 0
  rw [List.append_nil, tokensFrom_nil, List.append_nil] at text
  have written : statement.normalized = render group.significant := by
    rw [Statement.normalized, Statement.significant, sameTokens, TokenGroup.significant]
  rw [sameTokens, written, tokenize, text]
  exact settlesAs_settle (ordered_of_mem_split inScript) 0

/-- The text of a statement is cut into one statement, of the same tokens and text. -/
theorem exists_split_normalized {script : String} {statement : Statement}
    (member : statement ∈ Statement.split escapes script) :
    ∃ again, Statement.split escapes statement.normalized = [again] ∧
      SettlesAs statement.tokens again.tokens ∧ again.normalized = statement.normalized := by
  obtain ⟨index, inside, rfl⟩ := List.mem_mapIdx.mp member
  have group := List.getElem_mem inside
  obtain ⟨again, others, settles, none, shape⟩ := List.forall₂_cons_left_iff.mp
    (forall₂_split_written (List.singleton_sublist.mpr group))
  rw [List.forall₂_nil_left_iff.mp none] at shape
  exact ⟨again, shape, settles.tokens, settles.normalized⟩

end SqlLineage.Script
