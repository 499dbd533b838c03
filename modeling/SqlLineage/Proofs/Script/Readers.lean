/-
Module: SqlLineage.Proofs.Script.Readers
Purpose: A change of the tokens of a statement that keeps which keywords, marks and names they are, names as
  they are spelt, keeps the kind of the statement and the relations that its scan finds, the joins as far as
  their conditions are seen to be the same.
Main exports: KeepsReading, KeepsReading.ofTokens?_map, KeepsConditions, RelationScan.SeenAlike,
  KeepsReading.scanRelations_map
-/
import SqlLineage.Proofs.Script.Respelling

namespace SqlLineage.Script

open Lineage (TableReference JoinKind JoinClause)

/-- Whether a change of tokens keeps what is looked at when a statement is read: what kind of token it is,
which word it spells, and how it is written unless it is a keyword. -/
structure KeepsReading (change : Token → Token) : Prop where
  kind : ∀ token, (change token).kind = token.kind
  isWord : ∀ word token, (change token).isWord word = token.isWord word
  text : ∀ token, token.kind ≠ .keyword → (change token).text = token.text

theorem isRespelling_id : IsRespelling id where
  joinWith parts := by rw [List.map_id, id]
  qualifier name := by rw [Option.map_id, id, id]
  lowercase _ := rfl

theorem respelled_id : TableReference.respelled id = id := by
  funext table
  simp [TableReference.respelled]

theorem StatementKind.respelled_id : StatementKind.respelled id = id := by
  funext kind
  cases kind <;> rfl

namespace KeepsReading

variable {change : Token → Token} (reads : KeepsReading change)

include reads

/-! ### Single tokens -/

theorem isMark (mark : String) (token : Token) : (change token).isMark mark = token.isMark mark := by
  rw [Token.isMark, Token.isMark, reads.kind]
  by_cases isPunctuation : token.kind = .punctuation
  · have noKeyword : token.kind ≠ .keyword := by simp [isPunctuation]
    rw [reads.text token noKeyword]
  · simp [isPunctuation]

theorem isComment (token : Token) : (change token).isComment = token.isComment := by
  rw [Token.isComment, Token.isComment, reads.kind]

/-- A name is spelt as it was. -/
theorem unquoted {token : Token} (name : token.isName = true) :
    (change token).unquoted = token.unquoted := by
  have noKeyword : token.kind ≠ .keyword := by
    intro isKeyword
    simp [Token.isName, isKeyword] at name
  rw [Token.unquoted, Token.unquoted, reads.kind, reads.text token noKeyword]

/-- What keeps the reading respells nothing. -/
theorem respells : Respells id change where
  toIsRespelling := isRespelling_id
  kind := reads.kind
  isWord := reads.isWord
  isMark mark _ := reads.isMark mark

theorem respellsNames (tokens : List Token) : RespellsNames id change tokens :=
  fun _ _ name => reads.unquoted name

theorem isAnyKeyword (words : List String) (token : Token) :
    (change token).isAnyKeyword words = token.isAnyKeyword words :=
  reads.respells.isAnyKeyword words token

/-! ### Statements -/

/-- The kind of a statement is kept. -/
theorem ofTokens?_map (tokens : List Token) :
    StatementKind.ofTokens? (tokens.map change) = StatementKind.ofTokens? tokens := by
  rw [reads.respells.ofTokens?_map (reads.respellsNames tokens), StatementKind.respelled_id, Option.map_id,
    id]

end KeepsReading

/-! ### Join conditions -/

variable {β : Type} {see : Option String → β} {change : Token → Token}

/-- Whether the text of each stretch of the tokens is seen to be the same when they are changed. -/
def KeepsConditions (see : Option String → β) (change : Token → Token) (tokens : List Token) : Prop :=
  ∀ stretch, stretch <:+: tokens → see (conditionText (stretch.map change)) = see (conditionText stretch)

/-- A join with what is seen of its condition. -/
def seenJoin (see : Option String → β) (join : JoinClause) :
    TableReference × TableReference × JoinKind × β :=
  (join.left, join.right, join.kind, see join.condition)

/-! ### The scan -/

/-- Whether two scans found the same, the conditions of the joins as far as they are seen. -/
structure RelationScan.SeenAlike (see : Option String → β) (scan other : RelationScan) : Prop where
  cteNames : other.cteNames = scan.cteNames
  tables : other.tables = scan.tables
  joins : other.joins.map (seenJoin see) = scan.joins.map (seenJoin see)

namespace RelationScan.SeenAlike

variable {scan other third : RelationScan}

theorem symm (alike : scan.SeenAlike see other) : other.SeenAlike see scan :=
  ⟨alike.cteNames.symm, alike.tables.symm, alike.joins.symm⟩

theorem trans (alike : scan.SeenAlike see other) (next : other.SeenAlike see third) :
    scan.SeenAlike see third :=
  ⟨next.cteNames.trans alike.cteNames, next.tables.trans alike.tables, next.joins.trans alike.joins⟩

end RelationScan.SeenAlike

theorem map_seenJoin_eq {joins others : List JoinClause}
    (respelt : List.Forall₂ (JoinClause.RespeltAs id fun condition again => see again = see condition)
      joins others) :
    others.map (seenJoin see) = joins.map (seenJoin see) := by
  induction respelt with
  | nil => rfl
  | cons first _ ih =>
      rw [List.map_cons, List.map_cons, ih]
      simp [seenJoin, first.left, first.right, first.kind, first.condition, respelled_id]

/-- The relations that a scan finds are kept. -/
theorem KeepsReading.scanRelations_map (reads : KeepsReading change) {tokens : List Token}
    (keeps : KeepsConditions see change tokens) :
    (scanRelations tokens).SeenAlike see (scanRelations (tokens.map change)) := by
  have conditioned : RespellsConditions (fun condition again => see again = see condition) change tokens :=
    keeps
  obtain ⟨cteNames, tables, joins⟩ :=
    reads.respells.scanRelations_map (reads.respellsNames tokens) conditioned
  rw [respelled_id, List.map_id] at tables
  exact ⟨cteNames, tables, map_seenJoin_eq joins⟩

end SqlLineage.Script
