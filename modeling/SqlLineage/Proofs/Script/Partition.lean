/-
Module: SqlLineage.Proofs.Script.Partition
Purpose: The statements of a script as a partition of its tokens. Each is what stands between two semicolons
  and holds more than comments, and what the script has at its place is read as its tokens.
Main exports: TokenGroup.Delimited, Placed, Cut, IsPartition, isPartition_split
-/
import SqlLineage.Proofs.Lineage.Script
import SqlLineage.Proofs.Script.Settling
import SqlLineage.Proofs.Script.Slices

namespace SqlLineage.Script

/-- Whether tokens stand in order in a script of this length, and each of them takes some of it. -/
structure Placed (scriptEnd : Nat) (tokens : List Token) : Prop where
  ordered : tokens.Pairwise fun left right => left.stop ≤ right.offset
  room : ∀ token ∈ tokens, token.offset < token.stop
  inside : ∀ token ∈ tokens, token.stop ≤ scriptEnd

theorem placed_tokenize (escapes : QuoteEscapes) (script : String) :
    Placed script.utf8ByteSize (tokenize escapes script) where
  ordered := pairwise_tokensFrom escapes 0 script.toList
  room := fun token member => (bounds_of_mem_tokensFrom member).2
  inside := by
    intro token member
    obtain ⟨before, after, tokens⟩ := List.append_of_mem member
    obtain ⟨lead, rest, shape, place, _⟩ := tokensFrom_eq_append_cons tokens
    have length := congrArg byteLength shape
    simp only [byteLength_append, byteLength_toList] at length
    rw [Token.stop]
    omega

theorem Placed.sublist {scriptEnd : Nat} {tokens some : List Token} (placed : Placed scriptEnd tokens)
    (among : some.Sublist tokens) : Placed scriptEnd some where
  ordered := placed.ordered.sublist among
  room := fun token member => placed.room token (among.subset member)
  inside := fun token member => placed.inside token (among.subset member)

/-- A token stops before one further on starts, or where it starts. -/
theorem Placed.stop_le {scriptEnd : Nat} {front back : List Token} (placed : Placed scriptEnd (front ++ back))
    {left right : Token} (isLeft : left ∈ front) (isRight : right ∈ back) : left.stop ≤ right.offset :=
  (List.pairwise_append.mp placed.ordered).2.2 left isLeft right isRight

namespace TokenGroup

/-! ### What stands between two semicolons -/

/-- Whether a group is what stands between two semicolons. Both ends of the script count as one. -/
structure Delimited (scriptEnd : Nat) (tokens : List Token) (group : TokenGroup) : Prop where
  /-- No semicolon is among the tokens of the group. -/
  noMark : ∀ token ∈ group.tokens, ¬ token.isMark ";" = true
  /-- The tokens stand together. The one in front of them is a semicolon, and so is the one behind them,
  at which the group stops. -/
  around : ∃ before after, tokens = before ++ group.tokens ++ after ∧
    (∀ token ∈ before.getLast?, token.isMark ";" = true) ∧
    ((after = [] ∧ group.stop = scriptEnd) ∨
      ∃ mark later, after = mark :: later ∧ mark.isMark ";" = true ∧ group.stop = mark.offset)

/-- Tokens and the groups into which semicolons cut them. -/
inductive Cut (scriptEnd : Nat) : List Token → List TokenGroup → Prop where
  | last {tokens : List Token} (noMark : ∀ token ∈ tokens, ¬ token.isMark ";" = true) :
      Cut scriptEnd tokens [⟨tokens, scriptEnd⟩]
  | mark {tokens rest : List Token} {mark : Token} {groups : List TokenGroup}
      (noMark : ∀ token ∈ tokens, ¬ token.isMark ";" = true) (isMark : mark.isMark ";" = true)
      (onward : Cut scriptEnd rest groups) :
      Cut scriptEnd (tokens ++ mark :: rest) (⟨tokens, mark.offset⟩ :: groups)

variable {scriptEnd : Nat} {tokens : List Token}

theorem Delimited.subset {group : TokenGroup} (delimited : group.Delimited scriptEnd tokens) :
    group.tokens ⊆ tokens := by
  obtain ⟨_, before, after, rfl, _⟩ := delimited
  intro token member
  exact List.mem_append_left _ (List.mem_append_right _ member)

theorem cut_split (scriptEnd : Nat) (tokens : List Token) :
    Cut scriptEnd tokens (split scriptEnd tokens) := by
  induction tokens using split_induction scriptEnd with
  | done => exact .last (List.forall_mem_nil _)
  | mark token rest groups isMark ih => exact .mark (List.forall_mem_nil _) isMark ih
  | other token rest group later noMark ih =>
      cases ih with
      | last others => exact .last (List.forall_mem_cons.mpr ⟨noMark, others⟩)
      | mark others isMark onward =>
          exact .mark (List.forall_mem_cons.mpr ⟨noMark, others⟩) isMark onward

namespace Cut

variable {groups : List TokenGroup}

theorem delimited (cut : Cut scriptEnd tokens groups) :
    ∀ group ∈ groups, group.Delimited scriptEnd tokens := by
  induction cut with
  | last noMark =>
      refine List.forall_mem_singleton.mpr ⟨noMark, [], [], ?_, ?_, .inl ⟨rfl, rfl⟩⟩
      · simp
      · simp
  | @mark tokens rest mark groups noMark isMark onward ih =>
      refine List.forall_mem_cons.mpr ⟨⟨noMark, [], mark :: rest, rfl, ?_, ?_⟩, ?_⟩
      · simp
      · exact .inr ⟨mark, rest, rfl, isMark, rfl⟩
      · intro group member
        obtain ⟨noMark, before, after, rfl, front, behind⟩ := ih group member
        refine ⟨noMark, tokens ++ mark :: before, after, by simp, ?_, behind⟩
        -- The token in front of the group is the semicolon if no other stands between.
        cases before with
        | nil => simpa using isMark
        | cons first others => simpa using front

/-- Each token that is no semicolon belongs to a group. -/
theorem exists_group (cut : Cut scriptEnd tokens groups) {token : Token} (member : token ∈ tokens)
    (noMark : ¬ token.isMark ";" = true) : ∃ group ∈ groups, token ∈ group.tokens := by
  induction cut with
  | last => exact ⟨_, List.mem_singleton_self _, member⟩
  | mark _ isMark _ ih =>
      rcases List.mem_append.mp member with inside | behind
      · exact ⟨_, List.mem_cons_self, inside⟩
      · rcases List.mem_cons.mp behind with rfl | later
        · exact absurd isMark noMark
        · obtain ⟨group, isGroup, inside⟩ := ih later
          exact ⟨group, List.mem_cons_of_mem _ isGroup, inside⟩

/-- Each group stops before the tokens of the later ones. -/
theorem ordered (cut : Cut scriptEnd tokens groups) (placed : Placed scriptEnd tokens) :
    groups.Pairwise fun left right => ∀ token ∈ right.tokens, left.stop < token.offset := by
  induction cut with
  | last => exact List.pairwise_singleton _ _
  | @mark tokens rest mark groups _ _ onward ih =>
      have behind : Placed scriptEnd ([mark] ++ rest) := placed.sublist (List.sublist_append_right _ _)
      refine List.Pairwise.cons ?_ (ih (behind.sublist (List.sublist_append_right _ _)))
      intro group isGroup token member
      have later := (onward.delimited group isGroup).subset member
      have room := behind.room mark List.mem_cons_self
      have apart := behind.stop_le (List.mem_singleton_self mark) later
      exact Nat.lt_of_lt_of_le room apart

end Cut

section Bounds

variable {group : TokenGroup} (delimited : group.Delimited scriptEnd tokens)
  (placed : Placed scriptEnd tokens) {first token : Token} {between : List Token}
  (shape : group.tokens = first :: between)

include delimited placed shape

/-- The tokens of a group stand inside it. -/
theorem Delimited.bounds_of_mem (own : token ∈ group.tokens) :
    first.offset ≤ token.offset ∧ token.stop ≤ group.stop := by
  obtain ⟨_, before, after, rfl, _, behind⟩ := delimited
  constructor
  · rw [shape] at placed own
    rcases List.mem_cons.mp own with rfl | later
    · exact Nat.le_refl _
    · have onward : Placed scriptEnd ([first] ++ between) :=
        placed.sublist ((List.sublist_append_right before _).trans (List.sublist_append_left _ after))
      have room := onward.room first List.mem_cons_self
      have apart := onward.stop_le (List.mem_singleton_self first) later
      exact Nat.le_trans (Nat.le_of_lt room) apart
  · rcases behind with ⟨_, stop⟩ | ⟨mark, later, rfl, _, stop⟩
    · rw [stop]
      apply placed.inside
      exact List.mem_append_left _ (List.mem_append_right _ own)
    · rw [stop]
      exact placed.stop_le (List.mem_append_right _ own) List.mem_cons_self

/-- No other tokens stand inside a group. -/
theorem Delimited.mem_of_bounds (member : token ∈ tokens) (start : first.offset ≤ token.offset)
    (stop : token.stop ≤ group.stop) : token ∈ group.tokens := by
  have room := placed.room token member
  obtain ⟨_, before, after, rfl, _, behind⟩ := delimited
  rcases List.mem_append.mp member with upToStop | beyond
  · rcases List.mem_append.mp upToStop with earlier | own
    · have upTo : Placed scriptEnd (before ++ group.tokens) := placed.sublist (List.sublist_append_left _ after)
      have apart := upTo.stop_le earlier (shape ▸ List.mem_cons_self)
      omega
    · exact own
  · rcases behind with ⟨rfl, _⟩ | ⟨mark, later, rfl, _, atMark⟩
    · cases beyond
    · have onward : Placed scriptEnd ([mark] ++ later) := placed.sublist (List.sublist_append_right _ _)
      have markRoom := onward.room mark List.mem_cons_self
      rcases List.mem_cons.mp beyond with rfl | isLater
      · omega
      · have apart := onward.stop_le (List.mem_singleton_self mark) isLater
        omega

end Bounds

end TokenGroup

/-! ### Statements -/

variable {escapes : QuoteEscapes} {script : String} {statement : Statement}

/-- A group that holds more than comments has a first token. -/
theorem TokenGroup.exists_first {group : TokenGroup} (isStatement : group.isStatement = true) (index : Nat) :
    ∃ first between, group.tokens = first :: between ∧ (group.toStatement index).start = first.offset := by
  cases tokens : group.tokens with
  | nil => simp [isStatement_iff, significant, tokens] at isStatement
  | cons first between => exact ⟨first, between, rfl, by simp [toStatement, tokens]⟩

/-- A statement is a group of the script that holds more than comments, and it starts where its tokens
do. -/
theorem exists_first_of_mem_split (member : statement ∈ Statement.split escapes script) :
    statement.group ∈ contributing escapes script ∧
      ∃ first between, statement.tokens = first :: between ∧ statement.start = first.offset := by
  obtain ⟨index, inside, rfl⟩ := List.mem_mapIdx.mp member
  have isGroup := List.getElem_mem inside
  exact ⟨isGroup, TokenGroup.exists_first (List.mem_filter.mp isGroup).2 index⟩

theorem delimited_of_mem_contributing {group : TokenGroup} (member : group ∈ contributing escapes script) :
    group.Delimited script.utf8ByteSize (tokenize escapes script) :=
  (TokenGroup.cut_split _ _).delimited group (List.mem_filter.mp member).1

/-- A statement stops before the next one starts. -/
theorem ordered_split (escapes : QuoteEscapes) (script : String) :
    (Statement.split escapes script).Pairwise fun left right => left.stop < right.start := by
  have groups := (TokenGroup.cut_split script.utf8ByteSize (tokenize escapes script)).ordered
    (placed_tokenize escapes script)
  have apart : ((Statement.split escapes script).map Statement.group).Pairwise
      fun left right => ∀ token ∈ right.tokens, left.stop < token.offset := by
    rw [map_group_split]
    exact groups.sublist List.filter_sublist
  refine (List.pairwise_map.mp apart).imp_of_mem fun {left right} _ isStatement before => ?_
  obtain ⟨_, first, between, shape, start⟩ := exists_first_of_mem_split isStatement
  rw [start]
  refine before first ?_
  rw [Statement.group, shape]
  exact List.mem_cons_self

/-- The tokens of a statement are those of the script that stand inside it. -/
theorem mem_tokens_iff (isStatement : statement ∈ Statement.split escapes script) {token : Token}
    (member : token ∈ tokenize escapes script) :
    token ∈ statement.tokens ↔ statement.start ≤ token.offset ∧ token.stop ≤ statement.stop := by
  obtain ⟨isGroup, first, between, shape, start⟩ := exists_first_of_mem_split isStatement
  have delimited := delimited_of_mem_contributing isGroup
  have placed := placed_tokenize escapes script
  rw [start]
  constructor
  · exact fun own => delimited.bounds_of_mem placed shape own
  · exact fun bounds => delimited.mem_of_bounds placed shape member bounds.1 bounds.2

/-- No token belongs to two statements. -/
theorem eq_of_mem_tokens {other : Statement} (isStatement : statement ∈ Statement.split escapes script)
    (isOther : other ∈ Statement.split escapes script) {token : Token}
    (member : token ∈ tokenize escapes script) (own : token ∈ statement.tokens)
    (shared : token ∈ other.tokens) : statement = other := by
  have room := (placed_tokenize escapes script).room token member
  have inside := (mem_tokens_iff isStatement member).mp own
  have within := (mem_tokens_iff isOther member).mp shared
  have symmetric : Std.Symm fun left right : Statement => left.stop < right.start ∨ right.stop < left.start :=
    ⟨fun _ _ => Or.symm⟩
  have apart : (Statement.split escapes script).Pairwise
      fun left right => left.stop < right.start ∨ right.stop < left.start :=
    (ordered_split escapes script).imp Or.inl
  by_contra different
  rcases apart.forall isStatement isOther different with before | before <;> omega

/-- A token that is no semicolon belongs to a group, and the statements are the groups that hold more than
comments. -/
theorem exists_group_of_mem_tokenize {token : Token} (member : token ∈ tokenize escapes script)
    (noMark : ¬ token.isMark ";" = true) :
    ∃ group : TokenGroup, group.Delimited script.utf8ByteSize (tokenize escapes script) ∧
      token ∈ group.tokens ∧
        (group.isStatement = true → ∃ statement ∈ Statement.split escapes script, statement.group = group) := by
  have cut := TokenGroup.cut_split script.utf8ByteSize (tokenize escapes script)
  obtain ⟨group, isGroup, own⟩ := cut.exists_group member noMark
  refine ⟨group, cut.delimited group isGroup, own, fun isStatement => ?_⟩
  have contributes : group ∈ contributing escapes script := List.mem_filter.mpr ⟨isGroup, isStatement⟩
  rw [← map_group_split] at contributes
  exact List.mem_map.mp contributes

/-- What makes the statements of a script a partition of its tokens. Left out are the semicolons, and
comments that have no other tokens with them between two semicolons. -/
structure IsPartition (escapes : QuoteEscapes) (script : String) : Prop where
  /-- The statements are numbered in order. -/
  indices : (Statement.split escapes script).map Statement.index =
    List.range (Statement.split escapes script).length
  /-- A statement stops before the next one starts. -/
  ordered : (Statement.split escapes script).Pairwise fun left right => left.stop < right.start
  /-- A statement starts where the first of its tokens does. -/
  start : ∀ statement ∈ Statement.split escapes script,
    ∃ first, statement.tokens.head? = some first ∧ statement.start = first.offset
  /-- A statement holds no semicolon, and it stops at the one behind it or at the end of the script. -/
  delimited : ∀ statement ∈ Statement.split escapes script,
    statement.group.Delimited script.utf8ByteSize (tokenize escapes script)
  /-- A statement holds more than comments. -/
  significant : ∀ statement ∈ Statement.split escapes script,
    ∃ token ∈ statement.tokens, token.isComment = false
  /-- The tokens of a statement are those of the script that stand inside it. -/
  within : ∀ statement ∈ Statement.split escapes script, ∀ token ∈ tokenize escapes script,
    token ∈ statement.tokens ↔ statement.start ≤ token.offset ∧ token.stop ≤ statement.stop
  /-- A token that is no semicolon belongs to one statement, or else to no statement and to comments that
  stand alone between two semicolons. -/
  covered : ∀ token ∈ tokenize escapes script, ¬ token.isMark ";" = true →
    (∃! statement, statement ∈ Statement.split escapes script ∧ token ∈ statement.tokens) ∨
      (∀ statement ∈ Statement.split escapes script, token ∉ statement.tokens) ∧
        ∃ group : TokenGroup, group.Delimited script.utf8ByteSize (tokenize escapes script) ∧
          token ∈ group.tokens ∧ ∀ comment ∈ group.tokens, comment.isComment = true
  /-- What the script has from the start of a statement up to its stop is read as its tokens, counted from
  there. -/
  alone : ∀ statement ∈ Statement.split escapes script,
    ∃ slice, IsSlice script statement.start statement.stop slice ∧
      statement.tokens = (tokenize escapes slice).map (Token.moved (statement.start + ·))

/-- Splitting a script partitions it, and each statement can be read on its own. -/
theorem isPartition_split (escapes : QuoteEscapes) (script : String) : IsPartition escapes script where
  indices := Lineage.map_index_split escapes script
  ordered := ordered_split escapes script
  start := by
    intro statement isStatement
    obtain ⟨_, first, between, shape, start⟩ := exists_first_of_mem_split isStatement
    exact ⟨first, by rw [shape]; rfl, start⟩
  delimited := fun statement isStatement =>
    delimited_of_mem_contributing (exists_first_of_mem_split isStatement).1
  significant := by
    intro statement isStatement
    have isGroup := (List.mem_filter.mp (exists_first_of_mem_split isStatement).1).2
    obtain ⟨token, own, significant⟩ := List.any_eq_true.mp isGroup
    exact ⟨token, own, by simpa using significant⟩
  within := fun statement isStatement token member => mem_tokens_iff isStatement member
  covered := by
    intro token member noMark
    obtain ⟨group, delimited, own, contributes⟩ := exists_group_of_mem_tokenize member noMark
    by_cases owned : ∃ statement ∈ Statement.split escapes script, token ∈ statement.tokens
    · left
      obtain ⟨statement, isStatement, inside⟩ := owned
      refine ⟨statement, ⟨isStatement, inside⟩, fun other isOther => ?_⟩
      exact eq_of_mem_tokens isOther.1 isStatement member isOther.2 inside
    · right
      refine ⟨fun statement isStatement inside => owned ⟨statement, isStatement, inside⟩,
        group, delimited, own, fun comment isComment => ?_⟩
      by_contra significant
      -- The group would be a statement, and the token would belong to it.
      have more : group.isStatement = true :=
        List.any_eq_true.mpr ⟨comment, isComment, by simpa using significant⟩
      obtain ⟨statement, isStatement, rfl⟩ := contributes more
      exact owned ⟨statement, isStatement, own⟩
  alone := by
    intro statement isStatement
    obtain ⟨isGroup, first, between, shape, start⟩ := exists_first_of_mem_split isStatement
    obtain ⟨_, before, after, tokens, _, behind⟩ := delimited_of_mem_contributing isGroup
    have parted : tokenize escapes script = before ++ (first :: between) ++ after := by
      rw [tokens, Statement.group, shape]
    rw [start, shape]
    refine exists_slice_tokenize parted (behind.imp id ?_)
    rintro ⟨mark, later, front, _, stop⟩
    exact ⟨mark, later, front, stop⟩

end SqlLineage.Script
