/-
Module: SqlLineage.Proofs.Script.IndexedKind
Purpose: The kind of a statement once more, read by a cursor that moves forward over its tokens. The cursor
  never leaves them, its loops come to an end, and the kind is the one that is read off the list.
Main exports: eat, skipPastTopLevel, restContains, kindAt, kindAt_eq
-/
import SqlLineage.Proofs.Script.IndexedReaders

namespace SqlLineage.Script

open Run (returns loop loop_next loop_done slice)

variable {tokens rest more : List Token} {token : Token}

/-! ### The cursor -/

/-- The position behind the token at a position, if it is such a token. -/
def eat (tokens : List Token) (matching : Token → Bool) (position : Nat) : Option Nat :=
  if isAt tokens position matching then some (position + 1) else none

def eatKeyword (tokens : List Token) (word : String) : Nat → Option Nat := eat tokens (·.isKeyword word)

/-- The number of tokens in front of the first occurrence of a keyword outside parentheses. A closing
parenthesis without an opening one changes nothing. -/
def offsetOfTopLevel? (word : String) (depth offset : Nat) : List Token → Option Nat
  | [] => none
  | token :: rest =>
    if token.isMark "(" then offsetOfTopLevel? word (depth + 1) (offset + 1) rest
    else if token.isMark ")" then offsetOfTopLevel? word (depth - 1) (offset + 1) rest
    else if depth = 0 && token.isKeyword word then some offset
    else offsetOfTopLevel? word depth (offset + 1) rest

/-- The position behind the next occurrence of a keyword outside parentheses. -/
def skipPastTopLevel (tokens : List Token) (word : String) (position : Nat) : Run (Option Nat) := do
  let rest ← slice tokens position tokens.length
  returns ((offsetOfTopLevel? word 0 0 rest).map fun offset => position + (offset + 1))

/-- Whether a keyword stands somewhere from a position on. -/
def restContains (tokens : List Token) (word : String) (position : Nat) : Run Bool := do
  let rest ← slice tokens position tokens.length
  returns (rest.any (·.isKeyword word))

/-! ### The kinds of statement -/

/-- An `INSERT` statement from the position of its target. -/
def insertedAt (tokens : List Token) (position : Nat) : Run (Option StatementKind) := do
  match ← objectNameAt tokens position with
  | none => returns none
  | some (target, behind) =>
    let selects ← restContains tokens "SELECT" behind
    returns (if selects then some (.insert target) else none)

/-- An `INSERT` statement from the position behind that keyword. -/
def insertAt (tokens : List Token) (position : Nat) : Run (Option StatementKind) :=
  match (eatKeyword tokens "INTO" position).or (eatKeyword tokens "OVERWRITE" position) with
  | some behind => insertedAt tokens (skipKeywordAt tokens "TABLE" behind)
  | none => insertedAt tokens position

/-- The position behind a modifier that means temporary. -/
def eatTemporary (tokens : List Token) (position : Nat) : Option Nat :=
  (eatKeyword tokens "TEMP" position).or (eatKeyword tokens "TEMPORARY" position)

/-- The position behind any other modifier. -/
def eatModifier (tokens : List Token) (position : Nat) : Option Nat :=
  (eatKeyword tokens "GLOBAL" position)
    |>.or (eatKeyword tokens "LOCAL" position)
    |>.or (eat tokens (·.isWord "VOLATILE") position)
    |>.or (eat tokens (·.isWord "TRANSIENT") position)
    |>.or (eatKeyword tokens "MATERIALIZED" position)

/-- One turn of the loop that passes over the modifiers between `CREATE` and the kind of object: a position
and whether one of them means temporary go in. -/
def modifierTurn (tokens : List Token) : Nat × Bool → Run (Turn (Nat × Bool) (Nat × Bool))
  | (position, temporary) =>
    match eatTemporary tokens position with
    | some behind => returns (.goOn (behind, true))
    | none =>
      match eatModifier tokens position with
      | some behind => returns (.goOn (behind, temporary))
      | none => returns (.done (position, temporary))

/-- The object that a `CREATE` statement makes, from the position behind its kind. -/
def createdAt (tokens : List Token) (make : String → StatementKind) (position : Nat) :
    Run (Option StatementKind) := do
  let start :=
    match eatKeyword tokens "IF" position with
    | some behind => skipKeywordAt tokens "EXISTS" (skipKeywordAt tokens "NOT" behind)
    | none => position
  match ← objectNameAt tokens start with
  | none => returns none
  | some (target, behind) =>
    if ← restContains tokens "AS" behind then do
      let selects ← restContains tokens "SELECT" behind
      returns (if selects then some (make target) else none)
    else
      returns none

/-- A `CREATE` statement from the position behind `CREATE` and `OR REPLACE`. -/
def createAt (tokens : List Token) (position : Nat) : Run (Option StatementKind) := do
  let (start, temporary) ← loop (modifierTurn tokens) (position, false)
  match eatKeyword tokens "TABLE" start with
  | some behind => createdAt tokens (.createTableAs · temporary) behind
  | none =>
    match eatKeyword tokens "VIEW" start with
    | some behind => createdAt tokens .createViewAs behind
    | none => returns none

/-- One turn of the loop that passes over parentheses in front. -/
def openingTurn (tokens : List Token) (position : Nat) : Run (Turn Nat Nat) :=
  match eat tokens (·.isMark "(") position with
  | some behind => returns (.goOn behind)
  | none => returns (.done position)

/-- What a statement with these significant tokens does, read by positions. -/
def kindAt (tokens : List Token) : Run (Option StatementKind) := do
  let start ← loop (openingTurn tokens) 0
  match tokens[start]? with
  | none => returns none
  | some first =>
    let position := start + 1
    if first.isKeyword "SELECT" then returns (some .select)
    else if first.isKeyword "WITH" then
      match ← skipPastTopLevel tokens "INSERT" position with
      | some behind => insertAt tokens behind
      | none => do
        let selects ← restContains tokens "SELECT" position
        returns (if selects then some .withSelect else none)
    else if first.isKeyword "INSERT" then insertAt tokens position
    else if first.isKeyword "CREATE" then
      match eatKeyword tokens "OR" position with
      | some behind =>
        match eatKeyword tokens "REPLACE" behind with
        | some created => createAt tokens created
        | none => returns none
      | none => createAt tokens position
    else returns none

/-! ### What the cursor reads -/

theorem eat_positionOf_cons (inside : token :: rest <:+ tokens) (matching : Token → Bool) :
    eat tokens matching (positionOf tokens (token :: rest)) =
      if matching token then some (positionOf tokens rest) else none := by
  rw [eat, isAt_positionOf inside, positionOf_cons inside]
  rfl

theorem eat_positionOf_nil (matching : Token → Bool) : eat tokens matching (positionOf tokens []) = none := by
  rw [eat, isAt_positionOf List.nil_suffix]
  rfl

/-- A keyword is eaten where it stands at the head of the tokens. -/
theorem eatKeyword_positionOf (inside : rest <:+ tokens) (word : String) :
    eatKeyword tokens word (positionOf tokens rest) = (afterKeyword? word rest).map (positionOf tokens) := by
  cases rest with
  | nil => exact eat_positionOf_nil _
  | cons token rest =>
      rw [eatKeyword, eat_positionOf_cons inside, afterKeyword?]
      split_ifs <;> rfl

/-- From an end of the tokens on there is this end. -/
theorem slice_to_end (inside : rest <:+ tokens) :
    slice tokens (positionOf tokens rest) tokens.length = returns rest := by
  have stretch : slice tokens (positionOf tokens (rest ++ [])) (positionOf tokens []) = returns rest :=
    slice_positionOf (by rwa [List.append_nil])
  rwa [List.append_nil] at stretch

theorem restContains_positionOf (inside : rest <:+ tokens) (word : String) :
    restContains tokens word (positionOf tokens rest) = returns (containsKeyword word rest) := by
  rw [restContains, slice_to_end inside]
  rfl

/-- Where the keyword stands is counted as the tokens are passed over. -/
theorem map_offsetOfTopLevel? {start offset : Nat} (inside : rest <:+ tokens)
    (place : start + offset = positionOf tokens rest) (word : String) (depth : Nat) :
    (offsetOfTopLevel? word depth offset rest).map (fun offset => start + (offset + 1)) =
      (afterTopLevel? word depth rest).map (positionOf tokens) := by
  induction rest generalizing offset depth with
  | nil => rfl
  | cons token rest ih =>
      have next : start + (offset + 1) = positionOf tokens rest := by
        rw [← Nat.add_assoc, place, positionOf_cons inside]
      have later := suffix_of_cons inside
      rw [offsetOfTopLevel?, afterTopLevel?]
      split_ifs
      · exact ih later next (depth + 1)
      · exact ih later next (depth - 1)
      · exact congrArg some next
      · exact ih later next depth

theorem skipPastTopLevel_positionOf (inside : rest <:+ tokens) (word : String) :
    skipPastTopLevel tokens word (positionOf tokens rest) =
      returns ((afterTopLevel? word 0 rest).map (positionOf tokens)) := by
  rw [skipPastTopLevel, slice_to_end inside, Run.returns_bind, map_offsetOfTopLevel? inside rfl]

theorem insertedAt_positionOf (inside : rest <:+ tokens) :
    insertedAt tokens (positionOf tokens rest) =
      returns (match readObjectName rest with
        | some (target, left) => if containsKeyword "SELECT" left then some (.insert target) else none
        | none => none) := by
  rw [insertedAt, objectNameAt_positionOf inside, Run.returns_bind]
  cases found : readObjectName rest with
  | none => rfl
  | some read =>
      have behind := (readObjectName_suffix found).trans inside
      simp [restContains_positionOf behind]

theorem insertAt_positionOf (inside : rest <:+ tokens) :
    insertAt tokens (positionOf tokens rest) = returns (StatementKind.ofInsert? rest) := by
  rw [insertAt, eatKeyword_positionOf inside, eatKeyword_positionOf inside, ← Option.map_or,
    StatementKind.ofInsert?]
  cases into : (afterKeyword? "INTO" rest).or (afterKeyword? "OVERWRITE" rest) with
  | none => exact insertedAt_positionOf inside
  | some behind =>
      have later : behind <:+ tokens := by
        rcases Option.or_eq_some_iff.mp into with found | ⟨_, found⟩
        · exact (afterKeyword?_suffix found).trans inside
        · exact (afterKeyword?_suffix found).trans inside
      simp only [Option.map_some, skipKeywordAt_positionOf later]
      exact insertedAt_positionOf ((skipKeyword_suffix "TABLE" behind).trans later)

/-- To try one kind of token after another is to try them together. -/
theorem eat_or (position : Nat) (matching other : Token → Bool) :
    (eat tokens matching position).or (eat tokens other position) =
      eat tokens (fun token => matching token || other token) position := by
  rw [eat, eat, eat, isAt, isAt, isAt]
  cases tokens[position]? with
  | none => rfl
  | some token =>
      by_cases first : matching token = true
      · simp [first]
      · simp [first]

/-- Whether a token is a modifier that means temporary. -/
def marksTemporary (token : Token) : Bool := token.isKeyword "TEMP" || token.isKeyword "TEMPORARY"

/-- Whether a token is another modifier, in the order in which the cursor tries them. -/
def marksOther (token : Token) : Bool :=
  token.isKeyword "GLOBAL" || token.isKeyword "LOCAL" || token.isWord "VOLATILE" ||
    token.isWord "TRANSIENT" || token.isKeyword "MATERIALIZED"

theorem modifier?_eq (token : Token) : StatementKind.modifier? token =
    if marksTemporary token then some true else if marksOther token then some false else none := by
  have temporary : token.isAnyKeyword ["TEMP", "TEMPORARY"] = marksTemporary token := by
    simp [Token.isAnyKeyword, marksTemporary]
  have other : (token.isAnyKeyword ["GLOBAL", "LOCAL", "MATERIALIZED"] ||
      (token.isWord "VOLATILE" || token.isWord "TRANSIENT")) = marksOther token := by
    simp only [Token.isAnyKeyword, List.any_cons, List.any_nil, Bool.or_false, marksOther]
    ac_rfl
  rw [StatementKind.modifier?, temporary, ← other]
  cases token.isAnyKeyword ["GLOBAL", "LOCAL", "MATERIALIZED"] <;> rfl

theorem eatTemporary_eq (position : Nat) : eatTemporary tokens position = eat tokens marksTemporary position :=
  eat_or position _ _

theorem eatModifier_eq (position : Nat) : eatModifier tokens position = eat tokens marksOther position := by
  rw [eatModifier, eatKeyword, eatKeyword, eatKeyword, eat_or, eat_or, eat_or, eat_or]
  rfl

/-- A modifier is passed over, and may mean temporary. -/
theorem modifierTurn_positionOf (inside : token :: rest <:+ tokens) (temporary : Bool) :
    modifierTurn tokens (positionOf tokens (token :: rest), temporary) =
      match StatementKind.modifier? token with
      | some marks => returns (.goOn (positionOf tokens rest, temporary || marks))
      | none => returns (.done (positionOf tokens (token :: rest), temporary)) := by
  rw [modifierTurn, modifier?_eq, eatTemporary_eq, eatModifier_eq, eat_positionOf_cons inside,
    eat_positionOf_cons inside]
  by_cases marks : marksTemporary token = true
  · simp [marks]
  by_cases passed : marksOther token = true
  · simp [marks, passed]
  · simp [marks, passed]

theorem loop_modifierTurn (inside : rest <:+ tokens) (temporary : Bool) :
    loop (modifierTurn tokens) (positionOf tokens rest, temporary) =
      returns (positionOf tokens (StatementKind.readModifiers rest).2,
        temporary || (StatementKind.readModifiers rest).1) := by
  induction rest generalizing temporary with
  | nil =>
      apply loop_done
      rw [modifierTurn, eatTemporary_eq, eatModifier_eq, eat_positionOf_nil, eat_positionOf_nil]
      simp [StatementKind.readModifiers]
  | cons token rest ih =>
      have turn := modifierTurn_positionOf inside temporary
      rw [StatementKind.readModifiers]
      cases marks : StatementKind.modifier? token with
      | none =>
          rw [marks] at turn
          rw [loop_done turn]
          simp
      | some isTemporary =>
          rw [marks] at turn
          rw [loop_next turn, ih (suffix_of_cons inside)]
          simp [Bool.or_assoc]

theorem createdAt_positionOf (inside : rest <:+ tokens) (make : String → StatementKind) :
    createdAt tokens make (positionOf tokens rest) = returns (StatementKind.ofCreated? make rest) := by
  have within := (skipIfNotExists_suffix rest).trans inside
  have start : (match eatKeyword tokens "IF" (positionOf tokens rest) with
      | some behind => skipKeywordAt tokens "EXISTS" (skipKeywordAt tokens "NOT" behind)
      | none => positionOf tokens rest) = positionOf tokens (StatementKind.skipIfNotExists rest) := by
    rw [eatKeyword_positionOf inside, StatementKind.skipIfNotExists]
    cases found : afterKeyword? "IF" rest with
    | none => rfl
    | some behind =>
        have later := (afterKeyword?_suffix found).trans inside
        have further := (skipKeyword_suffix "NOT" behind).trans later
        simp only [Option.map_some, skipKeywordAt_positionOf later, skipKeywordAt_positionOf further]
  rw [createdAt, StatementKind.ofCreated?]
  simp only [start, objectNameAt_positionOf within, Run.returns_bind]
  cases found : readObjectName (StatementKind.skipIfNotExists rest) with
  | none => rfl
  | some read =>
      have behind := (readObjectName_suffix found).trans within
      simp only [Option.map_some, restContains_positionOf behind, Run.returns_bind]
      cases containsKeyword "AS" read.2 <;> simp

theorem createAt_positionOf (inside : rest <:+ tokens) :
    createAt tokens (positionOf tokens rest) = returns (StatementKind.ofCreate? rest) := by
  have within := (readModifiers_suffix rest).trans inside
  rw [createAt, loop_modifierTurn inside, Run.returns_bind, StatementKind.ofCreate?]
  simp only [eatKeyword_positionOf within, Bool.false_or]
  cases table : afterKeyword? "TABLE" (StatementKind.readModifiers rest).2 with
  | some behind => exact createdAt_positionOf ((afterKeyword?_suffix table).trans within) _
  | none =>
      cases view : afterKeyword? "VIEW" (StatementKind.readModifiers rest).2 with
      | some behind => exact createdAt_positionOf ((afterKeyword?_suffix view).trans within) _
      | none => rfl

theorem loop_openingTurn (inside : rest <:+ tokens) :
    loop (openingTurn tokens) (positionOf tokens rest) =
      returns (positionOf tokens (rest.dropWhile (·.isMark "("))) := by
  induction rest with
  | nil =>
      apply loop_done
      rw [openingTurn, eat_positionOf_nil]
      rfl
  | cons token rest ih =>
      by_cases opens : token.isMark "(" = true
      · have turn : openingTurn tokens (positionOf tokens (token :: rest)) =
            returns (.goOn (positionOf tokens rest)) := by
          rw [openingTurn, eat_positionOf_cons inside, if_pos opens]
        rw [loop_next turn, ih (suffix_of_cons inside), List.dropWhile_cons_of_pos opens]
      · have turn : openingTurn tokens (positionOf tokens (token :: rest)) =
            returns (.done (positionOf tokens (token :: rest))) := by
          rw [openingTurn, eat_positionOf_cons inside, if_neg opens]
        rw [loop_done turn, List.dropWhile_cons_of_neg opens]

/-- The kind that is read by positions is the kind of the statement. -/
theorem kindAt_eq (tokens : List Token) : kindAt tokens = returns (StatementKind.ofTokens? tokens) := by
  have opened := loop_openingTurn (List.suffix_refl tokens)
  rw [positionOf_self] at opened
  have within : tokens.dropWhile (·.isMark "(") <:+ tokens := List.dropWhile_suffix _
  rw [kindAt, opened, Run.returns_bind, StatementKind.ofTokens?]
  cases shape : tokens.dropWhile (·.isMark "(") with
  | nil => rw [getElem?_positionOf_nil]
  | cons first rest =>
      rw [shape] at within
      have later := suffix_of_cons within
      rw [getElem?_positionOf_cons within]
      simp only [positionOf_cons within]
      by_cases selects : first.isKeyword "SELECT" = true
      · rw [if_pos selects, if_pos selects]
      rw [if_neg selects, if_neg selects]
      by_cases declares : first.isKeyword "WITH" = true
      · rw [if_pos declares, if_pos declares, skipPastTopLevel_positionOf later, Run.returns_bind]
        cases found : afterTopLevel? "INSERT" 0 rest with
        | some inserted => exact insertAt_positionOf ((afterTopLevel?_suffix found).trans later)
        | none => simp [restContains_positionOf later]
      rw [if_neg declares, if_neg declares]
      by_cases inserts : first.isKeyword "INSERT" = true
      · rw [if_pos inserts, if_pos inserts]
        exact insertAt_positionOf later
      rw [if_neg inserts, if_neg inserts]
      by_cases creates : first.isKeyword "CREATE" = true
      · rw [if_pos creates, if_pos creates, eatKeyword_positionOf later]
        cases replacing : afterKeyword? "OR" rest with
        | none => exact createAt_positionOf later
        | some behind =>
            have further := (afterKeyword?_suffix replacing).trans later
            simp only [Option.map_some, eatKeyword_positionOf further]
            cases found : afterKeyword? "REPLACE" behind with
            | none => rfl
            | some created => exact createAt_positionOf ((afterKeyword?_suffix found).trans further)
      · rw [if_neg creates, if_neg creates]

end SqlLineage.Script
