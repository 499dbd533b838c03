/-
Module: SqlLineage.Proofs.Script.IndexedReaders
Purpose: The readers of names, relations and join conditions once more, going by positions in the tokens of a
  statement. They never ask for a token or a stretch that is not there, they come to an end, and they read
  what the readers of lists read.
Main exports: positionOf, objectNameAt, relationAt, joinKindAt, joinConditionAt, objectNameAt_positionOf,
  relationAt_positionOf, joinKindAt_length, joinConditionAt_positionOf
-/
import SqlLineage.Proofs.Script.CheckedRun
import SqlLineage.Proofs.Script.ScanSteps

namespace SqlLineage.Script

open Lineage (TableReference JoinKind)
open Run (returns loop loop_next loop_done elementAt slice decrement)

variable {tokens rest left more before : List Token} {token : Token} {position depth : Nat}

/-! ### Positions -/

/-- The position at which an end of the tokens starts. -/
def positionOf (tokens rest : List Token) : Nat := tokens.length - rest.length

/-- Whether there is such a token at a position. -/
def isAt (tokens : List Token) (position : Nat) (matching : Token → Bool) : Bool :=
  tokens[position]?.any matching

theorem positionOf_append (before rest : List Token) : positionOf (before ++ rest) rest = before.length := by
  simp [positionOf]

theorem positionOf_self (tokens : List Token) : positionOf tokens tokens = 0 := Nat.sub_self _

theorem positionOf_cons (inside : token :: rest <:+ tokens) :
    positionOf tokens (token :: rest) + 1 = positionOf tokens rest := by
  obtain ⟨before, rfl⟩ := inside
  simp [positionOf]
  omega

theorem positionOf_mono (shorter : left <:+ rest) : positionOf tokens rest ≤ positionOf tokens left :=
  Nat.sub_le_sub_left shorter.length_le _

/-- Behind a token the positions are higher. -/
theorem positionOf_lt (inside : token :: rest <:+ tokens) (shorter : left <:+ rest) :
    positionOf tokens (token :: rest) < positionOf tokens left :=
  Nat.lt_of_succ_le ((positionOf_cons inside).trans_le (positionOf_mono shorter))

theorem suffix_of_cons (inside : token :: rest <:+ tokens) : rest <:+ tokens :=
  (List.suffix_cons token rest).trans inside

/-- The tokens from a position on are those that an end of the tokens has. -/
theorem getElem?_positionOf (inside : rest <:+ tokens) (ahead : Nat) :
    tokens[positionOf tokens rest + ahead]? = rest[ahead]? := by
  obtain ⟨before, rfl⟩ := inside
  rw [positionOf_append, List.getElem?_append_right (Nat.le_add_right _ _), Nat.add_sub_cancel_left]

theorem getElem?_positionOf_cons (inside : token :: rest <:+ tokens) :
    tokens[positionOf tokens (token :: rest)]? = some token := getElem?_positionOf inside 0

theorem getElem?_positionOf_nil : tokens[positionOf tokens []]? = none := by
  simp [positionOf]

theorem isAt_positionOf (inside : rest <:+ tokens) (matching : Token → Bool) :
    isAt tokens (positionOf tokens rest) matching = rest[0]?.any matching := by
  rw [isAt, ← getElem?_positionOf inside, Nat.add_zero]

theorem isAt_positionOf_succ (inside : rest <:+ tokens) (matching : Token → Bool) :
    isAt tokens (positionOf tokens rest + 1) matching = rest[1]?.any matching := by
  rw [isAt, getElem?_positionOf inside]

/-- The tokens between two positions. -/
theorem slice_positionOf {middle : List Token} (inside : middle ++ rest <:+ tokens) :
    slice tokens (positionOf tokens (middle ++ rest)) (positionOf tokens rest) = returns middle := by
  obtain ⟨before, rfl⟩ := inside
  have stop : positionOf (before ++ (middle ++ rest)) rest = before.length + middle.length := by
    rw [← List.append_assoc, positionOf_append, List.length_append]
  rw [positionOf_append, stop]
  exact Run.slice_append before middle rest

/-! ### Names -/

/-- One turn of the loop that reads a dotted name: the position and the parts so far go in, and what comes
out at the end is nothing if there is no name. -/
def nameTurn (tokens : List Token) :
    Nat × List String → Run (Turn (Nat × List String) (Option (Nat × List String)))
  | (position, parts) =>
    match tokens[position]? with
    | none => returns (.done none)
    | some token =>
      if token.isName then
        let behind := position + 1
        let parts := parts ++ [token.unquoted]
        if isAt tokens behind (·.isMark ".") && isAt tokens (behind + 1) Token.isName then
          returns (.goOn (behind + 1, parts))
        else
          returns (.done (some (behind, parts)))
      else
        returns (.done none)

/-- The dotted name at a position, and the position behind it. -/
def objectNameAt (tokens : List Token) (position : Nat) : Run (Option (String × Nat)) := do
  match ← loop (nameTurn tokens) (position, []) with
  | none => returns none
  | some (behind, parts) => returns (some (Text.joinWith "." parts, behind))

/-- Whether another part of a name follows. -/
def continuesName (rest : List Token) : Bool := rest[0]?.any (·.isMark ".") && rest[1]?.any Token.isName

theorem nameTurn_positionOf (inside : token :: rest <:+ tokens) (named : token.isName = true)
    (parts : List String) : nameTurn tokens (positionOf tokens (token :: rest), parts) =
      if continuesName rest then
        returns (.goOn (positionOf tokens rest + 1, parts ++ [token.unquoted]))
      else
        returns (.done (some (positionOf tokens rest, parts ++ [token.unquoted]))) := by
  have later := suffix_of_cons inside
  rw [nameTurn, getElem?_positionOf_cons inside]
  simp only [named, if_true, positionOf_cons inside, isAt_positionOf later, isAt_positionOf_succ later]
  rfl

/-- Where no name stands nothing is read. -/
theorem nameTurn_of_unnamed (inside : rest <:+ tokens) (unnamed : ¬ rest[0]?.any Token.isName = true)
    (parts : List String) : nameTurn tokens (positionOf tokens rest, parts) = returns (.done none) := by
  cases rest with
  | nil => rw [nameTurn, getElem?_positionOf_nil]
  | cons token rest =>
      have noName : ¬ token.isName = true := unnamed
      rw [nameTurn, getElem?_positionOf_cons inside]
      exact if_neg noName

/-- Where a name stands the loop reads its parts. -/
theorem loop_nameTurn (inside : rest <:+ tokens) (named : rest[0]?.any Token.isName = true)
    (parts : List String) : loop (nameTurn tokens) (positionOf tokens rest, parts) =
      returns (some (positionOf tokens (readNameParts rest).2, parts ++ (readNameParts rest).1)) := by
  fun_induction readNameParts rest generalizing parts with
  | case1 => cases named
  | case2 token name dot next more continues tail ih =>
      have goesOn : continuesName (dot :: next :: more) = true := continues
      have further : (next :: more)[0]?.any Token.isName = true := (Bool.and_eq_true _ _ ▸ continues).2
      have later := suffix_of_cons inside
      have step := nameTurn_positionOf inside name parts
      rw [if_pos goesOn, positionOf_cons later] at step
      rw [loop_next step, ih (suffix_of_cons later) further, List.append_assoc]
      rfl
  | case3 token name dot next more ends =>
      have noMore : ¬ continuesName (dot :: next :: more) = true := ends
      have step := nameTurn_positionOf inside name parts
      rw [if_neg noMore] at step
      exact loop_done step
  | case4 token name rest short =>
      have ends : ¬ continuesName rest = true := by
        rcases rest with - | ⟨dot, - | ⟨next, more⟩⟩
        · exact Bool.false_ne_true
        · simp [continuesName]
        · exact absurd rfl (short dot next more)
      have step := nameTurn_positionOf inside name parts
      rw [if_neg ends] at step
      exact loop_done step
  | case5 token rest noName => exact absurd named noName

theorem readNameParts_of_unnamed (unnamed : ¬ rest[0]?.any Token.isName = true) :
    readNameParts rest = ([], rest) := by
  cases rest with
  | nil => rw [readNameParts]
  | cons token rest => 
      have noName : ¬ token.isName = true := unnamed
      rw [readNameParts.eq_def]
      simp [noName]

theorem readNameParts_ne_nil (named : rest[0]?.any Token.isName = true) : (readNameParts rest).1 ≠ [] := by
  fun_cases readNameParts rest with
  | case1 => cases named
  | case2 => exact List.cons_ne_nil _ _
  | case3 => exact List.cons_ne_nil _ _
  | case4 => exact List.cons_ne_nil _ _
  | case5 token rest noName => exact absurd named noName

/-- The name that is read at a position is the one at the head of the tokens there. -/
theorem objectNameAt_positionOf (inside : rest <:+ tokens) :
    objectNameAt tokens (positionOf tokens rest) =
      returns ((readObjectName rest).map fun (name, left) => (name, positionOf tokens left)) := by
  by_cases named : rest[0]?.any Token.isName = true
  · have nonempty := readNameParts_ne_nil named
    rw [objectNameAt, loop_nameTurn inside named, Run.returns_bind, readObjectName]
    cases found : readNameParts rest with
    | mk parts left =>
        rw [found] at nonempty
        cases parts with
        | nil => exact absurd rfl nonempty
        | cons => rfl
  · rw [objectNameAt, loop_done (nameTurn_of_unnamed inside named []), Run.returns_bind, readObjectName,
      readNameParts_of_unnamed named]
    rfl

/-! ### Relations -/

/-- The position behind a keyword, or the same one if it is not there. -/
def skipKeywordAt (tokens : List Token) (word : String) (position : Nat) : Nat :=
  if isAt tokens position (·.isKeyword word) then position + 1 else position

theorem skipKeywordAt_positionOf (inside : rest <:+ tokens) (word : String) :
    skipKeywordAt tokens word (positionOf tokens rest) = positionOf tokens (skipKeyword word rest) := by
  rw [skipKeywordAt, isAt_positionOf inside]
  fun_cases skipKeyword word rest with
  | case1 => rfl
  | case2 token rest skipped => exact (if_pos skipped).trans (positionOf_cons inside)
  | case3 token rest kept => exact if_neg kept

/-- The alias at a position, behind an optional `AS`, and the position behind it. -/
def aliasAt (tokens : List Token) (position : Nat) : Option String × Nat :=
  let position := skipKeywordAt tokens "AS" position
  match tokens[position]? with
  | none => (none, position)
  | some token => if token.isName then (some token.unquoted, position + 1) else (none, position)

/-- The relation at a position, with its alias, and the position behind it. -/
def relationAt (tokens : List Token) (position : Nat) (cteNames : List String) :
    Run (Option (TableReference × Nat)) := do
  match ← objectNameAt tokens position with
  | none => returns none
  | some (name, behind) =>
    let aliased := aliasAt tokens behind
    let isCte := cteNames.contains (Text.lowercase name)
    returns (some (TableReference.named name aliased.1 isCte, aliased.2))

theorem aliasAt_positionOf (inside : rest <:+ tokens) : aliasAt tokens (positionOf tokens rest) =
    ((readAlias rest).1, positionOf tokens (readAlias rest).2) := by
  have later := (skipKeyword_suffix "AS" rest).trans inside
  rw [aliasAt, skipKeywordAt_positionOf inside, readAlias]
  cases skipped : skipKeyword "AS" rest with
  | nil => rw [getElem?_positionOf_nil]
  | cons token more =>
      rw [skipped] at later
      rw [getElem?_positionOf_cons later]
      by_cases name : token.isName = true
      · simp [name, positionOf_cons later]
      · simp [name]

theorem relationAt_positionOf (inside : rest <:+ tokens) (cteNames : List String) :
    relationAt tokens (positionOf tokens rest) cteNames =
      returns ((readRelation cteNames rest).map fun (table, left) => (table, positionOf tokens left)) := by
  rw [relationAt, objectNameAt_positionOf inside, Run.returns_bind, readRelation]
  cases found : readObjectName rest with
  | none => rfl
  | some read =>
      have later := (readObjectName_suffix found).trans inside
      simp [aliasAt_positionOf later]

/-! ### Kinds of joins -/

/-- The kind of a join that a token in front of it tells. -/
def joinKindOf (token : Token) : JoinKind :=
  if token.isKeyword "LEFT" then .left
  else if token.isKeyword "RIGHT" then .right
  else if token.isKeyword "FULL" then .full
  else if token.isKeyword "CROSS" then .cross
  else .inner

/-- One turn of the loop that looks for the kind of a join in front of a position. -/
def joinKindTurn (tokens : List Token) (position : Nat) : Run (Turn Nat JoinKind) :=
  if 0 < position then do
    let position ← decrement position
    let token ← elementAt tokens position
    if token.isAnyKeyword ["OUTER", "NATURAL"] then returns (.goOn position)
    else returns (.done (joinKindOf token))
  else
    returns (.done .inner)

def joinKindAt (tokens : List Token) (position : Nat) : Run JoinKind := loop (joinKindTurn tokens) position

/-- The token in front of a position is the nearest of those there. -/
theorem elementAt_nearest (token : Token) (before rest : List Token) :
    elementAt ((token :: before).reverse ++ rest) before.length = returns token := by
  have found := Run.elementAt_append before.reverse token rest
  rw [List.length_reverse] at found
  rwa [List.reverse_cons, List.append_assoc, List.singleton_append]

/-- The kind that is read in front of a position is told by the tokens there, nearest first. -/
theorem joinKindAt_length (before rest : List Token) :
    joinKindAt (before.reverse ++ rest) before.length = returns (joinKindBefore before) := by
  induction before generalizing rest with
  | nil => exact loop_done rfl
  | cons token more ih =>
      have turn : joinKindTurn ((token :: more).reverse ++ rest) (more.length + 1) =
          if token.isAnyKeyword ["OUTER", "NATURAL"] then returns (.goOn more.length)
          else returns (.done (joinKindOf token)) := by
        rw [joinKindTurn, if_pos (Nat.succ_pos _), decrement, Run.returns_bind, elementAt_nearest,
          Run.returns_bind]
      have shape : (token :: more).reverse ++ rest = more.reverse ++ token :: rest := by simp
      rw [List.length_cons, joinKindBefore]
      by_cases passed : token.isAnyKeyword ["OUTER", "NATURAL"] = true
      · rw [if_pos passed] at turn ⊢
        refine (loop_next turn).trans ?_
        rw [shape]
        exact ih (token :: rest)
      · rw [if_neg passed] at turn ⊢
        exact loop_done turn

/-! ### Join conditions -/

/-- One turn of the loop that looks for the end of a join condition: a position and the number of open
parentheses go in. -/
def conditionTurn (tokens : List Token) : Nat × Nat → Run (Turn (Nat × Nat) Nat)
  | (stop, depth) =>
    match tokens[stop]? with
    | none => returns (.done stop)
    | some token =>
      if token.isMark "(" then
        returns (.goOn (stop + 1, depth + 1))
      else if token.isMark ")" then
        if depth = 0 then returns (.done stop)
        else do
          let depth ← decrement depth
          returns (.goOn (stop + 1, depth))
      else if depth = 0 && (token.isAnyKeyword clauseBoundaries || token.isMark ",") then
        returns (.done stop)
      else
        returns (.goOn (stop + 1, depth))

/-- The text of the join condition at a position, and the position behind it. -/
def joinConditionAt (tokens : List Token) (position : Nat) : Run (Option String × Nat) :=
  match tokens[position]? with
  | none => returns (none, position)
  | some first =>
    if first.isAnyKeyword ["ON", "USING"] then do
      let start := if first.isKeyword "ON" then position + 1 else position
      let stop ← loop (conditionTurn tokens) (start, 0)
      let body ← slice tokens start stop
      let text := render body
      returns (if text.isEmpty then none else some text, stop)
    else
      returns (none, position)

theorem loop_conditionTurn (inside : rest <:+ tokens) (depth : Nat) :
    loop (conditionTurn tokens) (positionOf tokens rest, depth) =
      returns (positionOf tokens (readCondition depth rest).2) := by
  fun_induction readCondition depth rest with
  | case1 =>
      apply loop_done
      rw [conditionTurn, getElem?_positionOf_nil]
  | case2 depth token rest opens tail ih =>
      have turn : conditionTurn tokens (positionOf tokens (token :: rest), depth) =
          returns (.goOn (positionOf tokens rest, depth + 1)) := by
        rw [conditionTurn, getElem?_positionOf_cons inside]
        simp [opens, positionOf_cons inside]
      exact (loop_next turn).trans (ih (suffix_of_cons inside))
  | case3 token rest noOpen closes =>
      apply loop_done
      rw [conditionTurn, getElem?_positionOf_cons inside]
      simp [noOpen, closes]
  | case4 token rest noOpen closes outer tail ih =>
      have turn : conditionTurn tokens (positionOf tokens (token :: rest), outer + 1) =
          returns (.goOn (positionOf tokens rest, outer)) := by
        rw [conditionTurn, getElem?_positionOf_cons inside]
        simp [noOpen, closes, decrement, positionOf_cons inside]
      exact (loop_next turn).trans (ih (suffix_of_cons inside))
  | case5 depth token rest noOpen noClose ends =>
      apply loop_done
      rw [conditionTurn, getElem?_positionOf_cons inside]
      simp [noOpen, noClose, ends]
  | case6 depth token rest noOpen noClose goesOn tail ih =>
      have turn : conditionTurn tokens (positionOf tokens (token :: rest), depth) =
          returns (.goOn (positionOf tokens rest, depth)) := by
        rw [conditionTurn, getElem?_positionOf_cons inside]
        simp [noOpen, noClose, goesOn, positionOf_cons inside]
      exact (loop_next turn).trans (ih (suffix_of_cons inside))

theorem joinConditionAt_positionOf (inside : rest <:+ tokens) :
    joinConditionAt tokens (positionOf tokens rest) =
      returns ((readJoinCondition rest).1, positionOf tokens (readJoinCondition rest).2) := by
  fun_cases readJoinCondition rest with
  | case1 => rw [joinConditionAt, getElem?_positionOf_nil]
  | case2 first rest starts split text =>
      obtain ⟨body, isBody⟩ :
          ∃ body, body = if first.isKeyword "ON" then rest else first :: rest := ⟨_, rfl⟩
      have start : (if first.isKeyword "ON" then positionOf tokens (first :: rest) + 1
          else positionOf tokens (first :: rest)) = positionOf tokens body := by
        rw [isBody]
        split_ifs
        · exact positionOf_cons inside
        · rfl
      have within : body <:+ tokens := by
        rw [isBody]
        split_ifs
        · exact suffix_of_cons inside
        · exact inside
      have parts : (readCondition 0 body).1 ++ (readCondition 0 body).2 = body := readCondition_append 0 body
      have stretch : slice tokens (positionOf tokens body) (positionOf tokens (readCondition 0 body).2) =
          returns (readCondition 0 body).1 := by
        have between := slice_positionOf (parts.symm ▸ within)
        rwa [parts] at between
      have shape : split = readCondition 0 body := by rw [isBody]
      rw [joinConditionAt, getElem?_positionOf_cons inside]
      simp only [starts, if_true, start, loop_conditionTurn within, Run.returns_bind, stretch, text, shape]
  | case3 first rest noStart =>
      rw [joinConditionAt, getElem?_positionOf_cons inside]
      exact if_neg noStart

end SqlLineage.Script
