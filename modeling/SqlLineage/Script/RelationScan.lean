/-
Module: SqlLineage.Script.RelationScan
Purpose: The relations of a statement as far as its tokens show them, for statements whose grammar is
  not understood. The scan looks for `FROM` and `JOIN`, for names that introduce a common table
  expression, and for join conditions; each parenthesis opens a scope with a primary relation of its
  own, so that a join inside a subquery belongs to the first relation of that subquery.
Main exports: RelationScan, scanRelations, Statement.relations
-/
import SqlLineage.Lineage.Relation
import SqlLineage.Script.StatementKind

namespace SqlLineage.Script

open Lineage (TableReference JoinKind JoinClause)

/-- What the scan of a statement found, in the order of the text. -/
structure RelationScan where
  /-- The case-folded names that introduce a common table expression. -/
  cteNames : List String := []
  tables : List TableReference := []
  joins : List JoinClause := []
deriving Repr, Inhabited, DecidableEq

/-- The keywords that end a join condition. -/
def clauseBoundaries : List String := [
  "CROSS", "EXCEPT", "FULL", "GROUP", "HAVING", "INNER", "INTERSECT", "JOIN", "LEFT", "LIMIT",
  "NATURAL", "ORDER", "QUALIFY", "RIGHT", "UNION", "WHERE", "WINDOW"]

/-- The alias at the head of the tokens, behind an optional `AS`, and the tokens after it. The word
`AS` is passed over even if no name follows it. -/
def readAlias (tokens : List Token) : Option String × List Token :=
  match skipKeyword "AS" tokens with
  | [] => (none, [])
  | token :: rest => if token.isName then (some token.unquoted, rest) else (none, token :: rest)

/-- The relation at the head of the tokens, with its alias, and the tokens after it. -/
def readRelation (cteNames : List String) (tokens : List Token) :
    Option (TableReference × List Token) :=
  match readObjectName tokens with
  | none => none
  | some (name, rest) =>
    let aliased := readAlias rest
    let isCte := cteNames.contains (Text.lowercase name)
    some (TableReference.named name aliased.1 isCte, aliased.2)

/-- The tokens of a join condition and those after it. A condition ends at a comma or at a boundary
keyword outside parentheses, and at a closing parenthesis that was opened before it. -/
def readCondition (depth : Nat) : List Token → List Token × List Token
  | [] => ([], [])
  | token :: rest =>
    if token.isMark "(" then
      let tail := readCondition (depth + 1) rest
      (token :: tail.1, tail.2)
    else if token.isMark ")" then
      match depth with
      | 0 => ([], token :: rest)
      | outer + 1 =>
        let tail := readCondition outer rest
        (token :: tail.1, tail.2)
    else if depth = 0 && (token.isAnyKeyword clauseBoundaries || token.isMark ",") then
      ([], token :: rest)
    else
      let tail := readCondition depth rest
      (token :: tail.1, tail.2)

/-- The text of the join condition at the head of the tokens, and the tokens after it. The word `ON`
is no part of the text, the word `USING` is. -/
def readJoinCondition : List Token → Option String × List Token
  | [] => (none, [])
  | first :: rest =>
    if first.isAnyKeyword ["ON", "USING"] then
      let split := readCondition 0 (if first.isKeyword "ON" then rest else first :: rest)
      let text := render split.1
      (if text.isEmpty then none else some text, split.2)
    else
      (none, first :: rest)

/-- The kind of a join, from the tokens before its keyword, nearest first. `OUTER` and `NATURAL` are
passed over. -/
def joinKindBefore : List Token → JoinKind
  | [] => .inner
  | token :: before =>
    if token.isAnyKeyword ["OUTER", "NATURAL"] then joinKindBefore before
    else if token.isKeyword "LEFT" then .left
    else if token.isKeyword "RIGHT" then .right
    else if token.isKeyword "FULL" then .full
    else if token.isKeyword "CROSS" then .cross
    else .inner

/-- Whether `name AS (` stands at the head of the tokens where a common table expression can be
introduced, which is behind `WITH`, `RECURSIVE` or a comma. -/
def introducesCte (before tokens : List Token) : Bool :=
  match before, tokens with
  | last :: _, name :: word :: mark :: _ =>
    name.isName && word.isKeyword "AS" && mark.isMark "(" &&
      (last.isAnyKeyword ["WITH", "RECURSIVE"] || last.isMark ",")
  | _, _ => false

/-! ### Every reader moves forward -/

theorem readNameParts_length (tokens : List Token) :
    (readNameParts tokens).2.length + (readNameParts tokens).1.length ≤ tokens.length := by
  fun_induction readNameParts tokens with
  | case1 => simp
  | case2 token _ dot next more _ tail ih =>
    simp only [tail, List.length_cons] at ih ⊢
    omega
  | case3 => simp
  | case4 => simp
  | case5 => simp

theorem readObjectName_length {tokens rest : List Token} {name : String}
    (h : readObjectName tokens = some (name, rest)) : rest.length < tokens.length := by
  have bound := readNameParts_length tokens
  unfold readObjectName at h
  split at h
  · contradiction
  · next parts left nonempty eq =>
    rw [eq] at bound
    simp only [Option.some.injEq, Prod.mk.injEq] at h
    obtain ⟨_, rfl⟩ := h
    have := List.length_pos_iff.2 nonempty
    simp only at bound
    omega

theorem skipKeyword_length (word : String) (tokens : List Token) :
    (skipKeyword word tokens).length ≤ tokens.length := by
  fun_cases skipKeyword word tokens <;> simp

theorem readAlias_length (tokens : List Token) : (readAlias tokens).2.length ≤ tokens.length := by
  have skipped := skipKeyword_length "AS" tokens
  unfold readAlias
  split
  · simp
  · next token rest eq =>
    rw [eq] at skipped
    simp only [List.length_cons] at skipped
    split
    · simp only; omega
    · simpa using skipped

theorem readRelation_length {cteNames : List String} {tokens rest : List Token}
    {table : TableReference} (h : readRelation cteNames tokens = some (table, rest)) :
    rest.length < tokens.length := by
  unfold readRelation at h
  split at h
  · contradiction
  · next name left eq =>
    simp only [Option.some.injEq, Prod.mk.injEq] at h
    obtain ⟨_, rfl⟩ := h
    exact Nat.lt_of_le_of_lt (readAlias_length left) (readObjectName_length eq)

theorem readCondition_append (depth : Nat) (tokens : List Token) :
    (readCondition depth tokens).1 ++ (readCondition depth tokens).2 = tokens := by
  fun_induction readCondition depth tokens with
  | case1 => rfl
  | case2 depth token rest _ tail ih => simpa [tail] using ih
  | case3 => rfl
  | case4 token rest _ _ outer tail ih => simpa [tail] using ih
  | case5 => rfl
  | case6 depth token rest _ _ _ tail ih => simpa [tail] using ih

theorem readCondition_length (depth : Nat) (tokens : List Token) :
    (readCondition depth tokens).2.length ≤ tokens.length := by
  have whole := congrArg List.length (readCondition_append depth tokens)
  rw [List.length_append] at whole
  omega

theorem readJoinCondition_length (tokens : List Token) :
    (readJoinCondition tokens).2.length ≤ tokens.length := by
  fun_cases readJoinCondition tokens with
  | case1 => simp
  | case2 first rest _ split text =>
    have bound := readCondition_length 0 (if first.isKeyword "ON" then rest else first :: rest)
    have : (if first.isKeyword "ON" then rest else first :: rest).length ≤ (first :: rest).length := by
      split <;> simp
    exact Nat.le_trans bound this
  | case3 => simp

/-- The relations of a comma-separated list at the head of the tokens, and the tokens after it. A comma
behind the last relation is passed over. -/
def readRelations (cteNames : List String) (tokens : List Token) :
    List TableReference × List Token :=
  match found : readRelation cteNames tokens with
  | none => ([], tokens)
  | some (table, rest) =>
    match left : rest with
    | [] => ([table], [])
    | token :: more =>
      if token.isMark "," then
        have : more.length < tokens.length := by
          have := readRelation_length found
          simp only [List.length_cons] at this
          omega
        let tail := readRelations cteNames more
        (table :: tail.1, tail.2)
      else
        ([table], token :: more)
termination_by tokens.length

theorem readRelations_length (cteNames : List String) (tokens : List Token) :
    (readRelations cteNames tokens).2.length ≤ tokens.length := by
  fun_induction readRelations cteNames tokens with
  | case1 => simp
  | case2 => simp
  | case3 tokens table token more found _ shorter tail ih => simp only [tail]; omega
  | case4 tokens table token more found _ =>
    have := readRelation_length found
    simp only [List.length_cons] at this ⊢
    omega

/-! ### The scan -/

/-- What the scan has found so far, and the primary relation of each open scope. -/
structure ScanState where
  found : RelationScan := {}
  /-- The primary relation of the innermost open scope. -/
  primary : Option TableReference := none
  /-- The primary relations of the scopes around it, innermost first. -/
  outer : List (Option TableReference) := []
deriving Repr, Inhabited, DecidableEq

namespace ScanState

/-- A parenthesis opens a scope without a primary relation. -/
def openScope (state : ScanState) : ScanState :=
  { state with primary := none, outer := state.primary :: state.outer }

/-- A closing parenthesis ends the innermost scope; one too many changes nothing. -/
def closeScope (state : ScanState) : ScanState :=
  match state.outer with
  | [] => state
  | enclosing :: outer => { state with primary := enclosing, outer }

/-- Notes the name of a common table expression. -/
def addCte (name : String) (state : ScanState) : ScanState :=
  { state with found.cteNames := state.found.cteNames ++ [Text.lowercase name] }

/-- Notes the relations of a `FROM` list, the first of which becomes the primary relation of a scope
that has none. -/
def addTables (tables : List TableReference) (state : ScanState) : ScanState :=
  { state with
    found.tables := state.found.tables ++ tables
    primary := state.primary.or tables.head? }

/-- Notes a joined relation. Where the scope has no primary relation there is nothing to join with,
and the relation becomes the primary one itself. -/
def addJoin (kind : JoinKind) (right : TableReference) (condition : Option String)
    (state : ScanState) : ScanState :=
  match state.primary with
  | some left =>
    { state with
      found.tables := state.found.tables ++ [right]
      found.joins := state.found.joins ++ [{ left, right, kind, condition }] }
  | none =>
    { state with
      found.tables := state.found.tables ++ [right]
      primary := some right }

end ScanState

/-- The tokens that were read between a list and a later part of it, nearest to that part first. -/
def readBetween (tokens rest : List Token) : List Token :=
  (tokens.take (tokens.length - rest.length)).reverse

/-- Scans the rest of a statement. The tokens before it, nearest first, tell the kind of a join. -/
def scanFrom (state : ScanState) (before : List Token) : List Token → ScanState
  | [] => state
  | token :: rest =>
    if token.isMark "(" then
      scanFrom state.openScope (token :: before) rest
    else if token.isMark ")" then
      scanFrom state.closeScope (token :: before) rest
    else if introducesCte before (token :: rest) then
      scanFrom (state.addCte token.unquoted) (token :: before) rest
    else if token.isKeyword "FROM" then
      let list := readRelations state.found.cteNames rest
      have : list.2.length < (token :: rest).length :=
        Nat.lt_succ_of_le (readRelations_length state.found.cteNames rest)
      scanFrom (state.addTables list.1) (readBetween (token :: rest) list.2 ++ before) list.2
    else if token.isKeyword "JOIN" then
      match found : readRelation state.found.cteNames rest with
      | none => scanFrom state (token :: before) rest
      | some (right, afterRight) =>
        let condition := readJoinCondition afterRight
        have : condition.2.length < (token :: rest).length := by
          have := readJoinCondition_length afterRight
          have := readRelation_length found
          simp only [List.length_cons, condition]
          omega
        scanFrom (state.addJoin (joinKindBefore before) right condition.1)
          (readBetween (token :: rest) condition.2 ++ before) condition.2
    else
      scanFrom state (token :: before) rest
termination_by tokens => tokens.length
decreasing_by
  · simp
  · simp
  · simp
  · exact this
  · simp
  · exact this
  · simp

/-- The relations that the tokens of a statement show. -/
def scanRelations (tokens : List Token) : RelationScan := (scanFrom {} [] tokens).found

/-- The relations that the significant tokens of the statement show. -/
def Statement.relations (statement : Statement) : RelationScan :=
  scanRelations statement.significant

end SqlLineage.Script
