/-
Module: SqlLineage.Proofs.Script.IndexedScan
Purpose: The scan of a statement once more, going by positions, with a stack of primary relations beside a
  count of open parentheses. The stack has always one relation more than the count says, the position
  only ever grows, nothing is asked for that is not there, and what is found is what the scan finds.
Main exports: IndexedState, scanTurn, scanAt, IndexedState.Mirrors, scanTurn_cons, scanAt_eq, ScansSafely,
  scansSafely
-/
import SqlLineage.Proofs.Script.IndexedKind

namespace SqlLineage.Script

open Lineage (TableReference JoinKind JoinClause)
open Run (returns loop loop_next loop_done elementAt replaceAt decrement)

variable {tokens rest before : List Token} {token : Token}

/-! ### The scan by positions -/

/-- Whether the token at a position introduces a common table expression. -/
def introducesCteAt (tokens : List Token) (position : Nat) (token : Token) : Run Bool :=
  if token.isName && isAt tokens (position + 1) (·.isKeyword "AS") &&
      isAt tokens (position + 2) (·.isMark "(") && 0 < position then do
    let previous ← decrement position
    let last ← elementAt tokens previous
    returns (last.isAnyKeyword ["WITH", "RECURSIVE"] || last.isMark ",")
  else
    returns false

/-- What the scan keeps while it reads the relations of a `FROM` list. -/
structure ListState where
  position : Nat
  primaries : List (Option TableReference)
  tables : List TableReference

/-- One turn of the loop that reads the relations of a `FROM` list. -/
def listTurn (tokens : List Token) (cteNames : List String) (depth : Nat) (state : ListState) :
    Run (Turn ListState ListState) := do
  match ← relationAt tokens state.position cteNames with
  | none => returns (.done state)
  | some (table, behind) =>
    let primary ← elementAt state.primaries depth
    let primaries ← if primary.isNone then replaceAt state.primaries depth (some table)
      else returns state.primaries
    let tables := state.tables ++ [table]
    if isAt tokens behind (·.isMark ",") then returns (.goOn ⟨behind + 1, primaries, tables⟩)
    else returns (.done ⟨behind, primaries, tables⟩)

/-- What the scan keeps: the position, the number of open parentheses, the primary relation of each open
scope, the outermost first, and what was found so far. -/
structure IndexedState where
  position : Nat := 0
  depth : Nat := 0
  primaries : List (Option TableReference) := [none]
  found : RelationScan := {}

namespace IndexedState

/-- Passes over one token. -/
def pass (state : IndexedState) : IndexedState := { state with position := state.position + 1 }

/-- A parenthesis opens a scope. -/
def openScope (state : IndexedState) : IndexedState :=
  { state.pass with depth := state.depth + 1, primaries := state.primaries ++ [none] }

/-- A closing parenthesis ends a scope; one too many is passed over. -/
def closeScope (state : IndexedState) : Run IndexedState :=
  if 0 < state.depth then do
    let depth ← decrement state.depth
    returns { state.pass with depth, primaries := state.primaries.dropLast }
  else
    returns state.pass

/-- Notes the name of a common table expression. -/
def addCte (token : Token) (state : IndexedState) : IndexedState :=
  { state.pass with found.cteNames := state.found.cteNames ++ [Text.lowercase token.unquoted] }

/-- Reads the relations of a `FROM` list. -/
def addTables (tokens : List Token) (state : IndexedState) : Run IndexedState := do
  let list ← loop (listTurn tokens state.found.cteNames state.depth)
    ⟨state.position + 1, state.primaries, state.found.tables⟩
  returns { state with
    position := max list.position (state.position + 1)
    primaries := list.primaries
    found.tables := list.tables }

/-- Reads a joined relation and the condition of the join. -/
def addJoin (tokens : List Token) (state : IndexedState) : Run IndexedState := do
  let kind ← joinKindAt tokens state.position
  match ← relationAt tokens (state.position + 1) state.found.cteNames with
  | none => returns state.pass
  | some (right, behind) =>
    let (condition, stop) ← joinConditionAt tokens behind
    let tables := state.found.tables ++ [right]
    match ← elementAt state.primaries state.depth with
    | some left =>
      let joins := state.found.joins ++ [{ left, right, kind, condition }]
      returns { state with position := stop, found.tables := tables, found.joins := joins }
    | none =>
      let primaries ← replaceAt state.primaries state.depth (some right)
      returns { state with position := stop, primaries, found.tables := tables }

end IndexedState

/-- What the scan does with a token at its position. -/
def scanToken (tokens : List Token) (state : IndexedState) (token : Token) : Run IndexedState := do
  if token.isMark "(" then returns state.openScope
  else if token.isMark ")" then state.closeScope
  else if ← introducesCteAt tokens state.position token then returns (state.addCte token)
  else if token.isKeyword "FROM" then state.addTables tokens
  else if token.isKeyword "JOIN" then state.addJoin tokens
  else returns state.pass

/-- One turn of the scan. -/
def scanTurn (tokens : List Token) (state : IndexedState) : Run (Turn IndexedState RelationScan) :=
  if state.position < tokens.length then do
    let token ← elementAt tokens state.position
    let next ← scanToken tokens state token
    returns (.goOn next)
  else
    returns (.done state.found)

/-- The relations that the tokens of a statement show, found by positions. -/
def scanAt (tokens : List Token) : Run RelationScan := loop (scanTurn tokens) {}

/-! ### States of the two scans -/

/-- Whether a state of the scan by positions is that of the scan of the rest behind these tokens, which stand
nearest first. -/
structure IndexedState.Mirrors (tokens before rest : List Token) (state : IndexedState) (scan : ScanState) :
    Prop where
  tokens : before.reverse ++ rest = tokens
  position : state.position = before.length
  depth : state.depth = scan.outer.length
  primaries : state.primaries = scan.outer.reverse ++ [scan.primary]
  found : state.found = scan.found

/-! ### Stacks -/

section Stacks

variable {α : Type} (outer : List α) (top : α)

theorem elementAt_top : elementAt (outer.reverse ++ [top]) outer.length = returns top := by
  simpa using Run.elementAt_append outer.reverse top []

theorem replaceAt_top (other : α) :
    replaceAt (outer.reverse ++ [top]) outer.length other = returns (outer.reverse ++ [other]) := by
  simpa using Run.replaceAt_append outer.reverse top other []

end Stacks

/-! ### Lists of relations -/

section Lists

variable {cteNames : List String} {left : List Token} {table : TableReference}

/-- A relation of the list is noted, and it becomes the primary one of a scope that has none. -/
theorem listTurn_of_some (inside : rest <:+ tokens) (found : readRelation cteNames rest = some (table, left))
    (outer : List (Option TableReference)) (primary : Option TableReference) (tables : List TableReference) :
    listTurn tokens cteNames outer.length ⟨positionOf tokens rest, outer.reverse ++ [primary], tables⟩ =
      if left[0]?.any (·.isMark ",") then
        returns (.goOn
          ⟨positionOf tokens left + 1, outer.reverse ++ [primary.or (some table)], tables ++ [table]⟩)
      else
        returns (.done
          ⟨positionOf tokens left, outer.reverse ++ [primary.or (some table)], tables ++ [table]⟩) := by
  have later := (readRelation_suffix found).trans inside
  rw [listTurn, relationAt_positionOf inside, found]
  cases primary with
  | none => simp [elementAt_top, replaceAt_top, isAt_positionOf later]
  | some => simp [elementAt_top, isAt_positionOf later]

theorem listTurn_of_none (inside : rest <:+ tokens) (found : readRelation cteNames rest = none)
    (outer : List (Option TableReference)) (primary : Option TableReference) (tables : List TableReference) :
    listTurn tokens cteNames outer.length ⟨positionOf tokens rest, outer.reverse ++ [primary], tables⟩ =
      returns (.done ⟨positionOf tokens rest, outer.reverse ++ [primary], tables⟩) := by
  rw [listTurn, relationAt_positionOf inside, found]
  rfl

theorem loop_listTurn (inside : rest <:+ tokens) (cteNames : List String)
    (outer : List (Option TableReference)) (primary : Option TableReference) (tables : List TableReference) :
    loop (listTurn tokens cteNames outer.length)
        ⟨positionOf tokens rest, outer.reverse ++ [primary], tables⟩ =
      returns ⟨positionOf tokens (readRelations cteNames rest).2,
        outer.reverse ++ [primary.or (readRelations cteNames rest).1.head?],
        tables ++ (readRelations cteNames rest).1⟩ := by
  fun_induction readRelations cteNames rest generalizing primary tables with
  | case1 rest found =>
      rw [loop_done (listTurn_of_none inside found outer primary tables)]
      simp
  | case2 rest table found =>
      have turn := listTurn_of_some inside found outer primary tables
      exact loop_done turn
  | case3 rest table token more found mark shorter tail _ ih =>
      have behind := (readRelation_suffix found).trans inside
      have turn := listTurn_of_some inside found outer primary tables
      rw [if_pos (show (token :: more)[0]?.any (·.isMark ",") = true from mark),
        positionOf_cons behind] at turn
      rw [loop_next turn, ih (suffix_of_cons behind)]
      cases primary <;> simp [tail]
  | case4 rest table token more found noMark =>
      have turn := listTurn_of_some inside found outer primary tables
      rw [if_neg (show ¬ (token :: more)[0]?.any (·.isMark ",") = true from noMark)] at turn
      exact loop_done turn

end Lists

/-! ### Turns of the scan -/

namespace IndexedState.Mirrors

variable {state : IndexedState} {scan : ScanState}

theorem inside (mirrors : state.Mirrors tokens before rest scan) : rest <:+ tokens :=
  ⟨before.reverse, mirrors.tokens⟩

theorem position_eq (mirrors : state.Mirrors tokens before rest scan) :
    state.position = positionOf tokens rest := by
  rw [mirrors.position, ← mirrors.tokens, positionOf_append, List.length_reverse]

variable (mirrors : state.Mirrors tokens before (token :: rest) scan)

include mirrors

theorem succ_position : state.position + 1 = positionOf tokens rest := by
  rw [mirrors.position_eq, positionOf_cons mirrors.inside]

theorem passed {left : List Token} (shorter : left <:+ token :: rest) :
    (readBetween (token :: rest) left ++ before).reverse ++ left = tokens := by
  obtain ⟨consumed, shape⟩ := shorter
  rw [← shape, readBetween_append, List.reverse_append, List.reverse_reverse, List.append_assoc, shape,
    mirrors.tokens]

theorem length_passed {left : List Token} (shorter : left <:+ token :: rest) :
    (readBetween (token :: rest) left ++ before).length = positionOf tokens left := by
  rw [← mirrors.passed shorter, positionOf_append, List.length_reverse]

/-- Where tokens were read, the two scans stand behind them. -/
theorem behind {left : List Token} {next : IndexedState} {later : ScanState} (shorter : left <:+ token :: rest)
    (position : next.position = positionOf tokens left) (depth : next.depth = later.outer.length)
    (primaries : next.primaries = later.outer.reverse ++ [later.primary]) (found : next.found = later.found) :
    next.Mirrors tokens (readBetween (token :: rest) left ++ before) left later where
  tokens := mirrors.passed shorter
  position := position.trans (mirrors.length_passed shorter).symm
  depth := depth
  primaries := primaries
  found := found

theorem pass : state.pass.Mirrors tokens (token :: before) rest scan where
  tokens := by rw [← mirrors.tokens]; simp
  position := by simp [IndexedState.pass, mirrors.position]
  depth := mirrors.depth
  primaries := mirrors.primaries
  found := mirrors.found

theorem openScope : state.openScope.Mirrors tokens (token :: before) rest scan.openScope where
  tokens := mirrors.pass.tokens
  position := mirrors.pass.position
  depth := by simp [IndexedState.openScope, ScanState.openScope, mirrors.depth]
  primaries := by simp [IndexedState.openScope, ScanState.openScope, mirrors.primaries]
  found := mirrors.found

/-- The number of open parentheses is that of the scopes around the innermost one, so it is lowered only
where there is one to be left. -/
theorem closeScope : ∃ next, state.closeScope = returns next ∧
    next.Mirrors tokens (token :: before) rest scan.closeScope := by
  have atDepth := mirrors.depth
  cases around : scan.outer with
  | nil =>
      have closed : scan.closeScope = scan := by rw [ScanState.closeScope, around]
      rw [around] at atDepth
      rw [closed]
      exact ⟨state.pass, if_neg (by simp [atDepth]), mirrors.pass⟩
  | cons enclosing outer =>
      have closed : scan.closeScope = { scan with primary := enclosing, outer } := by
        rw [ScanState.closeScope, around]
      rw [around, List.length_cons] at atDepth
      refine ⟨{ state.pass with depth := outer.length, primaries := state.primaries.dropLast }, ?_, ?_⟩
      · rw [IndexedState.closeScope, if_pos (by omega), atDepth]
        rfl
      · rw [closed]
        exact {
          tokens := mirrors.pass.tokens
          position := mirrors.pass.position
          depth := rfl
          primaries := by simp [mirrors.primaries, around]
          found := mirrors.found }

theorem addCte : (state.addCte token).Mirrors tokens (token :: before) rest (scan.addCte token.unquoted) where
  tokens := mirrors.pass.tokens
  position := mirrors.pass.position
  depth := mirrors.depth
  primaries := mirrors.primaries
  found := by simp [IndexedState.addCte, IndexedState.pass, ScanState.addCte, mirrors.found]

theorem introducesCteAt_eq :
    introducesCteAt tokens state.position token = returns (introducesCte before (token :: rest)) := by
  have later := suffix_of_cons mirrors.inside
  have word : isAt tokens (state.position + 1) (·.isKeyword "AS") = rest[0]?.any (·.isKeyword "AS") := by
    rw [mirrors.succ_position, isAt_positionOf later]
  have mark : isAt tokens (state.position + 2) (·.isMark "(") = rest[1]?.any (·.isMark "(") := by
    rw [← Nat.add_assoc state.position 1 1, mirrors.succ_position, isAt_positionOf_succ later]
  have place := mirrors.position
  rw [introducesCteAt, word, mark]
  cases before with
  | nil => simp [place, introducesCte]
  | cons last more =>
      have previous : elementAt tokens more.length = returns last := by
        rw [← mirrors.tokens, elementAt_nearest]
      match rest with
      | [] => simp [introducesCte]
      | [_] => simp [introducesCte]
      | next :: opening :: _ =>
          rw [place, List.length_cons, decrement, Run.returns_bind, previous, Run.returns_bind]
          by_cases looks : (token.isName && next.isKeyword "AS" && opening.isMark "(") = true
          · simp [introducesCte, looks]
          · simp [introducesCte, looks]

theorem addTables : ∃ next, state.addTables tokens = returns next ∧
    next.Mirrors tokens
      (readBetween (token :: rest) (readRelations scan.found.cteNames rest).2 ++ before)
      (readRelations scan.found.cteNames rest).2
      (scan.addTables (readRelations scan.found.cteNames rest).1) := by
  have later := suffix_of_cons mirrors.inside
  have shorter := readRelations_suffix scan.found.cteNames rest
  have within := shorter.trans (List.suffix_cons token rest)
  have list := loop_listTurn later scan.found.cteNames scan.outer scan.primary scan.found.tables
  rw [← mirrors.succ_position, ← mirrors.primaries, ← mirrors.depth, ← mirrors.found] at list
  refine ⟨_, by rw [IndexedState.addTables, list, Run.returns_bind], ?_⟩
  have ahead : max (positionOf tokens (readRelations scan.found.cteNames rest).2) (state.position + 1) =
      positionOf tokens (readRelations scan.found.cteNames rest).2 := by
    rw [mirrors.succ_position]
    exact max_eq_left (positionOf_mono shorter)
  rw [mirrors.found]
  exact mirrors.behind within ahead mirrors.depth rfl rfl

theorem addJoin_of_none (found : readRelation scan.found.cteNames rest = none) :
    state.addJoin tokens = returns state.pass := by
  have later := suffix_of_cons mirrors.inside
  have kind := joinKindAt_length before (token :: rest)
  rw [mirrors.tokens, ← mirrors.position] at kind
  rw [IndexedState.addJoin, kind, Run.returns_bind, mirrors.succ_position, relationAt_positionOf later,
    mirrors.found, found]
  rfl

theorem addJoin_of_some {right : TableReference} {left : List Token}
    (found : readRelation scan.found.cteNames rest = some (right, left)) :
    ∃ next, state.addJoin tokens = returns next ∧
      next.Mirrors tokens (readBetween (token :: rest) (readJoinCondition left).2 ++ before)
        (readJoinCondition left).2
        (scan.addJoin (joinKindBefore before) right (readJoinCondition left).1) := by
  have later := suffix_of_cons mirrors.inside
  have behind := (readRelation_suffix found).trans later
  have kind := joinKindAt_length before (token :: rest)
  rw [mirrors.tokens, ← mirrors.position] at kind
  have shorter := (readJoinCondition_suffix left).trans (readRelation_suffix found)
  have within := shorter.trans (List.suffix_cons token rest)
  rw [IndexedState.addJoin, kind, Run.returns_bind, mirrors.succ_position, relationAt_positionOf later,
    mirrors.found, found]
  simp only [Option.map_some, Run.returns_bind, joinConditionAt_positionOf behind, mirrors.depth,
    mirrors.primaries, elementAt_top]
  cases driving : scan.primary with
  | none =>
      simp only [replaceAt_top, Run.returns_bind]
      refine ⟨_, rfl, ?_⟩
      rw [ScanState.addJoin, driving]
      exact mirrors.behind within rfl rfl rfl rfl
  | some table =>
      refine ⟨_, rfl, ?_⟩
      rw [ScanState.addJoin, driving]
      exact mirrors.behind within rfl rfl rfl rfl

end IndexedState.Mirrors

/-- Whether a state stands further on in a scan, where fewer tokens are left and what will be found is the
same. -/
def IndexedState.GoesOn (tokens before rest : List Token) (scan : ScanState) (next : IndexedState) : Prop :=
  ∃ passed left later, next.Mirrors tokens passed left later ∧ left.length < rest.length ∧
    scanFrom scan before rest = scanFrom later passed left

/-- A token leads to a state further on. -/
theorem scanToken_goesOn {state : IndexedState} {scan : ScanState}
    (mirrors : state.Mirrors tokens before (token :: rest) scan) :
    ∃ next, scanToken tokens state token = returns next ∧
      next.GoesOn tokens before (token :: rest) scan := by
  have one : rest.length < (token :: rest).length := Nat.lt_succ_self _
  rw [scanToken]
  by_cases opens : token.isMark "(" = true
  · exact ⟨_, if_pos opens, _, _, _, mirrors.openScope, one, scanFrom_open opens⟩
  rw [if_neg opens]
  by_cases closes : token.isMark ")" = true
  · obtain ⟨next, step, closed⟩ := mirrors.closeScope
    exact ⟨next, (if_pos closes).trans step, _, _, _, closed, one, scanFrom_close opens closes⟩
  rw [if_neg closes, mirrors.introducesCteAt_eq, Run.returns_bind]
  have plain : token.IsPlain := ⟨opens, closes⟩
  by_cases introduces : introducesCte before (token :: rest) = true
  · exact ⟨_, if_pos introduces, _, _, _, mirrors.addCte, one, scanFrom_cte plain introduces⟩
  rw [if_neg introduces]
  by_cases lists : token.isKeyword "FROM" = true
  · obtain ⟨next, step, listed⟩ := mirrors.addTables
    have fewer := Nat.lt_succ_of_le (readRelations_suffix scan.found.cteNames rest).length_le
    exact ⟨next, (if_pos lists).trans step, _, _, _, listed, fewer, scanFrom_from plain introduces lists⟩
  rw [if_neg lists]
  by_cases joins : token.isKeyword "JOIN" = true
  · rw [if_pos joins]
    cases found : readRelation scan.found.cteNames rest with
    | none =>
        exact ⟨_, mirrors.addJoin_of_none found, _, _, _, mirrors.pass, one,
          scanFrom_join_of_none plain introduces lists joins found⟩
    | some read =>
        obtain ⟨next, step, joined⟩ := mirrors.addJoin_of_some found
        have shorter := (readJoinCondition_suffix read.2).trans (readRelation_suffix found)
        exact ⟨next, step, _, _, _, joined, Nat.lt_succ_of_le shorter.length_le,
          scanFrom_join plain introduces lists joins found⟩
  · rw [if_neg joins]
    exact ⟨_, rfl, _, _, _, mirrors.pass, one, scanFrom_other plain introduces lists joins⟩

/-- At the end of the tokens the scan ends with what it found. -/
theorem scanTurn_nil {state : IndexedState} {scan : ScanState} (mirrors : state.Mirrors tokens before [] scan) :
    scanTurn tokens state = returns (.done scan.found) := by
  have atEnd : state.position = tokens.length := mirrors.position_eq.trans (Nat.sub_zero _)
  rw [scanTurn, if_neg (by omega), mirrors.found]

/-- Before the end a turn of the scan leads to a state further on. -/
theorem scanTurn_cons {state : IndexedState} {scan : ScanState}
    (mirrors : state.Mirrors tokens before (token :: rest) scan) :
    ∃ next, scanTurn tokens state = returns (.goOn next) ∧
      next.GoesOn tokens before (token :: rest) scan := by
  obtain ⟨next, step, goesOn⟩ := scanToken_goesOn mirrors
  have place := mirrors.position_eq
  have here : elementAt tokens state.position = returns token := by
    rw [elementAt, place, getElem?_positionOf_cons mirrors.inside]
  have within : state.position < tokens.length :=
    place.trans_lt (positionOf_lt mirrors.inside List.nil_suffix)
  refine ⟨next, ?_, goesOn⟩
  rw [scanTurn, if_pos within, here, Run.returns_bind, step, Run.returns_bind]

/-! ### Runs of the scan -/

/-- From a state of the scan the loop ends with what the scan finds. -/
theorem loop_scanTurn {state : IndexedState} {scan : ScanState}
    (mirrors : state.Mirrors tokens before rest scan) :
    loop (scanTurn tokens) state = returns (scanFrom scan before rest).found := by
  induction size : rest.length using Nat.strong_induction_on generalizing state scan before rest with
  | _ size ih =>
      cases rest with
      | nil => rw [loop_done (scanTurn_nil mirrors), scanFrom_nil]
      | cons token rest =>
          obtain ⟨next, step, passed, left, later, further, fewer, same⟩ := scanTurn_cons mirrors
          rw [loop_next step, same]
          exact ih left.length (size ▸ fewer) further rfl

theorem mirrors_start (tokens : List Token) : ({} : IndexedState).Mirrors tokens [] tokens {} where
  tokens := rfl
  position := rfl
  depth := rfl
  primaries := rfl
  found := rfl

/-- The scan by positions ends, and finds what the scan finds. -/
theorem scanAt_eq (tokens : List Token) : scanAt tokens = returns (scanRelations tokens) :=
  loop_scanTurn (mirrors_start tokens)

/-- All states that the scan by positions comes to are states of the scan. -/
theorem exists_mirrors_of_reaches {state : IndexedState} (reached : Run.Reaches (scanTurn tokens) {} state) :
    ∃ before rest scan, state.Mirrors tokens before rest scan := by
  induction reached with
  | start => exact ⟨[], tokens, {}, mirrors_start tokens⟩
  | @next state next _ step ih =>
      obtain ⟨before, rest, scan, mirrors⟩ := ih
      cases rest with
      | nil =>
          rw [scanTurn_nil mirrors] at step
          cases step
      | cons token rest =>
          obtain ⟨other, again, passed, left, later, further, _, _⟩ := scanTurn_cons mirrors
          obtain rfl : other = next := by
            rw [again] at step
            cases step
            rfl
          exact ⟨passed, left, later, further⟩

/-- A state further on has a higher position, which is not behind the end of the tokens. -/
theorem IndexedState.GoesOn.position_lt {state next : IndexedState} {scan : ScanState}
    (goesOn : next.GoesOn tokens before rest scan) (mirrors : state.Mirrors tokens before rest scan) :
    state.position < next.position ∧ next.position ≤ tokens.length := by
  obtain ⟨passed, left, later, further, fewer, _⟩ := goesOn
  have within := mirrors.inside.length_le
  have place := mirrors.position_eq
  have furtherPlace := further.position_eq
  rw [positionOf] at place furtherPlace
  omega

/-- Whether the scan of these tokens by positions, and the reading of their kind by a cursor, are safe: no run
fails or goes on for ever, since each returns, and what it returns is what the readers of lists give. -/
structure ScansSafely (tokens : List Token) : Prop where
  /-- Whenever a turn of the scan starts, there is one primary relation for each open parenthesis and one for
  the statement itself. -/
  stack : ∀ state, Run.Reaches (scanTurn tokens) {} state → state.primaries.length = state.depth + 1
  /-- A turn of the scan that finds a token returns, at a higher position. -/
  advances : ∀ state, Run.Reaches (scanTurn tokens) {} state → state.position < tokens.length →
    ∃ next, scanTurn tokens state = returns (.goOn next) ∧ state.position < next.position ∧
      next.position ≤ tokens.length
  /-- The scan returns. -/
  scanned : scanAt tokens = returns (scanRelations tokens)
  /-- The reading of the kind returns. -/
  classified : kindAt tokens = returns (StatementKind.ofTokens? tokens)

/-- Whatever the tokens of a statement are, its scans by positions are safe. -/
theorem scansSafely (tokens : List Token) : ScansSafely tokens where
  stack := by
    intro state reached
    obtain ⟨before, rest, scan, mirrors⟩ := exists_mirrors_of_reaches reached
    rw [mirrors.primaries, mirrors.depth, List.length_append, List.length_reverse, List.length_singleton]
  advances := by
    intro state reached ahead
    obtain ⟨before, rest, scan, mirrors⟩ := exists_mirrors_of_reaches reached
    cases rest with
    | nil =>
        rw [mirrors.position_eq] at ahead
        exact absurd ahead (lt_irrefl tokens.length)
    | cons token rest =>
        obtain ⟨next, step, goesOn⟩ := scanTurn_cons mirrors
        exact ⟨next, step, goesOn.position_lt mirrors⟩
  scanned := scanAt_eq tokens
  classified := kindAt_eq tokens

end SqlLineage.Script
