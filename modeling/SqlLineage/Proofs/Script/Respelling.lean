/-
Module: SqlLineage.Proofs.Script.Respelling
Purpose: What is read off the tokens of a statement depends on which keywords, marks and names they are. A
  change of the tokens that only spells their names otherwise gives a statement of the same kind, and a scan
  that finds the same relations and joins in the other spelling.
Main exports: IsRespelling, Respells, RespellsName, Respells.ofTokens?_map, RelationScan.RespeltAs,
  Respells.scanRelations_map
-/
import Mathlib.Data.List.Forall2
import SqlLineage.Proofs.Script.ScanSteps

namespace SqlLineage

/-! ### Another spelling of what is read -/

/-- The same relation, with its name, its qualifier and its other name spelt otherwise. -/
def Lineage.TableReference.respelled (respell : String → String) (table : TableReference) :
    TableReference :=
  { name := respell table.name
    schema := table.schema.map respell
    aliasName := table.aliasName.map respell
    isCte := table.isCte }

/-- Whether a join is another one in another spelling, with the two conditions related so. -/
structure Lineage.JoinClause.RespeltAs (respell : String → String)
    (same : Option String → Option String → Prop) (join again : JoinClause) : Prop where
  left : again.left = join.left.respelled respell
  right : again.right = join.right.respelled respell
  kind : again.kind = join.kind
  condition : same join.condition again.condition

namespace Script

open Lineage (TableReference JoinKind JoinClause)

/-- The same kind of statement, with its target spelt otherwise. -/
def StatementKind.respelled (respell : String → String) : StatementKind → StatementKind
  | select => select
  | withSelect => withSelect
  | insert target => insert (respell target)
  | createTableAs target temporary => createTableAs (respell target) temporary
  | createViewAs target => createViewAs (respell target)

/-- Whether names may be spelt so. A dotted name is spelt part by part, and the case-folded name stays the
same. -/
structure IsRespelling (respell : String → String) : Prop where
  joinWith : ∀ parts, Text.joinWith "." (parts.map respell) = respell (Text.joinWith "." parts)
  qualifier : ∀ name,
    TableReference.qualifier (respell name) = (TableReference.qualifier name).map respell
  lowercase : ∀ name, Text.lowercase (respell name) = Text.lowercase name

theorem IsRespelling.named {respell : String → String} (isRespelling : IsRespelling respell)
    (name : String) (aliasName : Option String) (isCte : Bool) :
    TableReference.named (respell name) (aliasName.map respell) isCte =
      (TableReference.named name aliasName isCte).respelled respell := by
  rw [TableReference.named, isRespelling.qualifier]
  rfl

/-- The marks that are looked for when a statement is read. -/
def structuralMarks : List String := ["(", ")", ",", "."]

/-- Whether a change of tokens keeps what is looked at when a statement is read: what kind of token it is,
which word it spells, and which mark it is. -/
structure Respells (respell : String → String) (change : Token → Token) : Prop
    extends IsRespelling respell where
  kind : ∀ token, (change token).kind = token.kind
  isWord : ∀ word token, (change token).isWord word = token.isWord word
  isMark : ∀ mark ∈ structuralMarks, ∀ token, (change token).isMark mark = token.isMark mark

/-- Whether a change of tokens spells the names among these so. -/
def RespellsNames (respell : String → String) (change : Token → Token) (tokens : List Token) : Prop :=
  ∀ token ∈ tokens, token.isName = true → (change token).unquoted = respell token.unquoted

theorem RespellsNames.suffix {respell : String → String} {change : Token → Token} {tokens rest : List Token}
    (named : RespellsNames respell change tokens) (behind : rest <:+ tokens) :
    RespellsNames respell change rest :=
  fun token member => named token (behind.subset member)

/-- What inserts the rows of a query into this target, if there is a query behind it. -/
def insertInto? (target : String) (rest : List Token) : Option StatementKind :=
  if containsKeyword "SELECT" rest then some (.insert target) else none

theorem ofInsert?_eq (tokens : List Token) :
    StatementKind.ofInsert? tokens =
      (readObjectName (((afterKeyword? "INTO" tokens).or (afterKeyword? "OVERWRITE" tokens)).elim tokens
        (skipKeyword "TABLE"))).bind fun found => insertInto? found.1 found.2 := by
  unfold StatementKind.ofInsert?
  cases (afterKeyword? "INTO" tokens).or (afterKeyword? "OVERWRITE" tokens) with
  | none =>
      simp only [Option.elim_none]
      cases readObjectName tokens <;> rfl
  | some rest =>
      simp only [Option.elim_some]
      cases readObjectName (skipKeyword "TABLE" rest) <;> rfl

namespace Respells

variable {respell : String → String} {change : Token → Token} (respells : Respells respell change)

include respells

/-! ### Single tokens -/

theorem isKeyword (word : String) (token : Token) :
    (change token).isKeyword word = token.isKeyword word := by
  have same := respells.isWord word token
  rw [Token.isWord, Token.isWord] at same
  rw [Token.isKeyword, Token.isKeyword, respells.kind, same]

theorem isAnyKeyword (words : List String) (token : Token) :
    (change token).isAnyKeyword words = token.isAnyKeyword words := by
  simp only [Token.isAnyKeyword, respells.isKeyword]

theorem isOpening (token : Token) : (change token).isMark "(" = token.isMark "(" :=
  respells.isMark "(" (by simp [structuralMarks]) token

theorem isClosing (token : Token) : (change token).isMark ")" = token.isMark ")" :=
  respells.isMark ")" (by simp [structuralMarks]) token

theorem isComma (token : Token) : (change token).isMark "," = token.isMark "," :=
  respells.isMark "," (by simp [structuralMarks]) token

theorem isDot (token : Token) : (change token).isMark "." = token.isMark "." :=
  respells.isMark "." (by simp [structuralMarks]) token

theorem isName (token : Token) : (change token).isName = token.isName := by
  rw [Token.isName, Token.isName, respells.kind]

theorem isPlain {token : Token} (plain : token.IsPlain) : (change token).IsPlain := by
  rwa [Token.IsPlain, respells.isOpening, respells.isClosing]

/-! ### Readers at the head of a statement -/

theorem readNameParts_map {tokens : List Token}
    (named : RespellsNames respell change tokens) :
    readNameParts (tokens.map change) =
      ((readNameParts tokens).1.map respell, (readNameParts tokens).2.map change) := by
  fun_induction readNameParts tokens with
  | case1 => simp [readNameParts]
  | case2 token name dot next more continues tail ih =>
      obtain ⟨here, behind⟩ := List.forall_mem_cons.mp named
      rw [List.map_cons, List.map_cons, List.map_cons, readNameParts]
      simp only [respells.isName, respells.isDot, here name, name, continues, if_true]
      rw [← List.map_cons, ih (List.forall_mem_cons.mp behind).2]
      rfl
  | case3 token name dot next more ends =>
      have here := (List.forall_mem_cons.mp named).1
      rw [List.map_cons, List.map_cons, List.map_cons, readNameParts]
      simp only [respells.isName, respells.isDot, here name, name, ends, if_true]
      rfl
  | case4 token name rest short =>
      have here := (List.forall_mem_cons.mp named).1
      rcases rest with _ | ⟨dot, _ | ⟨next, more⟩⟩
      · simp [readNameParts, respells.isName, here name, name]
      · simp [readNameParts, respells.isName, here name, name]
      · exact absurd rfl (short dot next more)
  | case5 token rest noName =>
      rw [List.map_cons, readNameParts.eq_def]
      simp [respells.isName, noName]

theorem readObjectName_map {tokens : List Token}
    (named : RespellsNames respell change tokens) :
    readObjectName (tokens.map change) =
      (readObjectName tokens).map fun (name, rest) => (respell name, rest.map change) := by
  unfold readObjectName
  rw [respells.readNameParts_map named]
  rcases readNameParts tokens with ⟨_ | ⟨part, parts⟩, rest⟩
  · rfl
  · exact congrArg (fun name => some (name, rest.map change)) (respells.joinWith (part :: parts))

theorem skipKeyword_map (word : String) (tokens : List Token) :
    skipKeyword word (tokens.map change) = (skipKeyword word tokens).map change := by
  cases tokens with
  | nil => rfl
  | cons token rest =>
      simp only [List.map_cons, skipKeyword, respells.isKeyword]
      by_cases keyword : token.isKeyword word <;> simp [keyword]

theorem afterKeyword?_map (word : String) (tokens : List Token) :
    afterKeyword? word (tokens.map change) = (afterKeyword? word tokens).map (List.map change) := by
  cases tokens with
  | nil => rfl
  | cons token rest =>
      simp only [List.map_cons, afterKeyword?, respells.isKeyword]
      by_cases keyword : token.isKeyword word <;> simp [keyword]

theorem containsKeyword_map (word : String) (tokens : List Token) :
    containsKeyword word (tokens.map change) = containsKeyword word tokens := by
  simp [containsKeyword, Function.comp_def, respells.isKeyword]

theorem afterTopLevel?_map (word : String) (depth : Nat) (tokens : List Token) :
    afterTopLevel? word depth (tokens.map change) =
      (afterTopLevel? word depth tokens).map (List.map change) := by
  fun_induction afterTopLevel? word depth tokens <;>
    simp_all [afterTopLevel?, respells.isOpening, respells.isClosing, respells.isKeyword]

/-! ### The kind of a statement -/

theorem readModifiers_map (tokens : List Token) :
    StatementKind.readModifiers (tokens.map change) =
      ((StatementKind.readModifiers tokens).1, (StatementKind.readModifiers tokens).2.map change) := by
  induction tokens with
  | nil => rfl
  | cons token rest ih =>
      have same : StatementKind.modifier? (change token) = StatementKind.modifier? token := by
        simp only [StatementKind.modifier?, respells.isAnyKeyword, respells.isWord]
      rw [List.map_cons, StatementKind.readModifiers, StatementKind.readModifiers, same]
      cases StatementKind.modifier? token with
      | none => rfl
      | some temporary => simp [ih]

theorem skipIfNotExists_map (tokens : List Token) :
    StatementKind.skipIfNotExists (tokens.map change) =
      (StatementKind.skipIfNotExists tokens).map change := by
  unfold StatementKind.skipIfNotExists
  rw [respells.afterKeyword?_map]
  cases afterKeyword? "IF" tokens with
  | none => rfl
  | some rest => simp [respells.skipKeyword_map]

theorem ofInsert?_map {tokens : List Token} (named : RespellsNames respell change tokens) :
    StatementKind.ofInsert? (tokens.map change) =
      (StatementKind.ofInsert? tokens).map (.respelled respell) := by
  -- Behind the optional words the target and its query are read.
  have onward : ∀ {rest : List Token}, rest <:+ tokens →
      ((readObjectName (rest.map change)).bind fun found => insertInto? found.1 found.2) =
      Option.map (StatementKind.respelled respell)
        ((readObjectName rest).bind fun found => insertInto? found.1 found.2) := by
    intro rest behind
    rw [respells.readObjectName_map (named.suffix behind)]
    cases readObjectName rest with
    | none => rfl
    | some found =>
        simp only [Option.map_some, Option.bind_some, insertInto?, respells.containsKeyword_map]
        split <;> rfl
  rw [ofInsert?_eq, ofInsert?_eq, respells.afterKeyword?_map, respells.afterKeyword?_map, ← Option.map_or]
  cases found : (afterKeyword? "INTO" tokens).or (afterKeyword? "OVERWRITE" tokens) with
  | none => exact onward (List.suffix_refl _)
  | some rest =>
      have behind : rest <:+ tokens := by
        rcases Option.or_eq_some_iff.mp found with into | ⟨_, overwrite⟩
        · exact afterKeyword?_suffix into
        · exact afterKeyword?_suffix overwrite
      simp only [Option.map_some, Option.elim_some, respells.skipKeyword_map]
      exact onward ((skipKeyword_suffix "TABLE" rest).trans behind)

theorem ofCreated?_map {make : String → StatementKind}
    (made : ∀ name, (make name).respelled respell = make (respell name)) {tokens : List Token}
    (named : RespellsNames respell change tokens) :
    StatementKind.ofCreated? make (tokens.map change) =
      (StatementKind.ofCreated? make tokens).map (.respelled respell) := by
  unfold StatementKind.ofCreated?
  rw [respells.skipIfNotExists_map,
    respells.readObjectName_map (named.suffix (skipIfNotExists_suffix tokens))]
  cases readObjectName (StatementKind.skipIfNotExists tokens) with
  | none => rfl
  | some found =>
      simp only [Option.map_some, respells.containsKeyword_map]
      split
      · exact congrArg some (made found.1).symm
      · rfl

theorem ofCreate?_map {tokens : List Token} (named : RespellsNames respell change tokens) :
    StatementKind.ofCreate? (tokens.map change) =
      (StatementKind.ofCreate? tokens).map (.respelled respell) := by
  simp only [StatementKind.ofCreate?, respells.readModifiers_map, respells.afterKeyword?_map]
  cases found : afterKeyword? "TABLE" (StatementKind.readModifiers tokens).2 with
  | some rest =>
      have behind := (afterKeyword?_suffix found).trans (readModifiers_suffix tokens)
      exact respells.ofCreated?_map (fun _ => rfl) (named.suffix behind)
  | none =>
      cases foundView : afterKeyword? "VIEW" (StatementKind.readModifiers tokens).2 with
      | some rest =>
          have behind := (afterKeyword?_suffix foundView).trans (readModifiers_suffix tokens)
          exact respells.ofCreated?_map (fun _ => rfl) (named.suffix behind)
      | none => rfl

/-- The kind of a statement is kept, with its target in the other spelling. -/
theorem ofTokens?_map {tokens : List Token} (named : RespellsNames respell change tokens) :
    StatementKind.ofTokens? (tokens.map change) =
      (StatementKind.ofTokens? tokens).map (.respelled respell) := by
  have same : (Token.isMark "(" ∘ change) = Token.isMark "(" := funext respells.isOpening
  unfold StatementKind.ofTokens?
  rw [List.dropWhile_map, same]
  have dropped : tokens.dropWhile (Token.isMark "(") <:+ tokens := List.dropWhile_suffix _
  rcases shape : tokens.dropWhile (Token.isMark "(") with _ | ⟨first, rest⟩
  · rfl
  · have behind : rest <:+ tokens := (List.suffix_cons first rest).trans (shape ▸ dropped)
    simp only [List.map_cons, respells.isKeyword, respells.afterTopLevel?_map, respells.afterKeyword?_map,
      respells.containsKeyword_map, respells.ofInsert?_map (named.suffix behind),
      respells.ofCreate?_map (named.suffix behind)]
    by_cases select : first.isKeyword "SELECT" = true
    · rw [if_pos select, if_pos select]
      rfl
    rw [if_neg select, if_neg select]
    by_cases withList : first.isKeyword "WITH" = true
    · rw [if_pos withList, if_pos withList]
      cases found : afterTopLevel? "INSERT" 0 rest with
      | none =>
          simp only [Option.map_none]
          split <;> rfl
      | some inserted =>
          exact respells.ofInsert?_map (named.suffix ((afterTopLevel?_suffix found).trans behind))
    rw [if_neg withList, if_neg withList]
    by_cases insert : first.isKeyword "INSERT" = true
    · rw [if_pos insert, if_pos insert]
    rw [if_neg insert, if_neg insert]
    by_cases create : first.isKeyword "CREATE" = true
    · rw [if_pos create, if_pos create]
      cases found : afterKeyword? "OR" rest with
      | none => rfl
      | some replacing =>
          simp only [Option.map_some, respells.afterKeyword?_map]
          cases again : afterKeyword? "REPLACE" replacing with
          | none => rfl
          | some created =>
              have left := (afterKeyword?_suffix again).trans ((afterKeyword?_suffix found).trans behind)
              exact respells.ofCreate?_map (named.suffix left)
    · rw [if_neg create, if_neg create]
      rfl

/-! ### Readers of the scan -/

theorem readAlias_map {tokens : List Token} (named : RespellsNames respell change tokens) :
    readAlias (tokens.map change) =
      ((readAlias tokens).1.map respell, (readAlias tokens).2.map change) := by
  have skipped := named.suffix (skipKeyword_suffix "AS" tokens)
  unfold readAlias
  rw [respells.skipKeyword_map]
  rcases shape : skipKeyword "AS" tokens with _ | ⟨token, rest⟩
  · rfl
  · rw [shape] at skipped
    by_cases name : token.isName
    · simp [respells.isName, name, skipped token List.mem_cons_self name]
    · simp [respells.isName, name]

theorem readRelation_map (cteNames : List String) {tokens : List Token}
    (named : RespellsNames respell change tokens) :
    readRelation cteNames (tokens.map change) =
      (readRelation cteNames tokens).map fun (table, rest) =>
        (table.respelled respell, rest.map change) := by
  unfold readRelation
  rw [respells.readObjectName_map named]
  cases found : readObjectName tokens with
  | none => rfl
  | some object =>
      have behind := named.suffix (readObjectName_suffix found)
      simp only [Option.map_some, respells.readAlias_map behind, respells.lowercase,
        respells.toIsRespelling.named]

theorem readRelations_map (cteNames : List String) {tokens : List Token}
    (named : RespellsNames respell change tokens) :
    readRelations cteNames (tokens.map change) =
      ((readRelations cteNames tokens).1.map (TableReference.respelled respell),
        (readRelations cteNames tokens).2.map change) := by
  fun_induction readRelations cteNames tokens with
  | case1 tokens found =>
      exact readRelations_of_none (by simp [respells.readRelation_map cteNames named, found])
  | case2 tokens table found =>
      exact readRelations_of_end (by simp [respells.readRelation_map cteNames named, found])
  | case3 tokens table token more found mark shorter tail _ ih =>
      have changed : readRelation cteNames (tokens.map change) =
          some (table.respelled respell, change token :: more.map change) := by
        simp [respells.readRelation_map cteNames named, found]
      have behind := (List.suffix_cons token more).trans (readRelation_suffix found)
      rw [readRelations_of_some changed, respells.isComma, if_pos mark, ih (named.suffix behind)]
      rfl
  | case4 tokens table token more found mark =>
      have changed : readRelation cteNames (tokens.map change) =
          some (table.respelled respell, change token :: more.map change) := by
        simp [respells.readRelation_map cteNames named, found]
      rw [readRelations_of_some changed, respells.isComma, if_neg mark]
      rfl

theorem readCondition_map (depth : Nat) (tokens : List Token) :
    readCondition depth (tokens.map change) =
      ((readCondition depth tokens).1.map change, (readCondition depth tokens).2.map change) := by
  induction tokens generalizing depth with
  | nil => rfl
  | cons token rest ih =>
      simp only [List.map_cons, readCondition, respells.isOpening, respells.isClosing, respells.isComma,
        respells.isAnyKeyword, ih]
      by_cases opens : token.isMark "("
      · simp [opens]
      · by_cases closes : token.isMark ")"
        · cases depth <;> simp [opens, closes]
        · by_cases ends : depth = 0 ∧ (token.isAnyKeyword clauseBoundaries = true ∨ token.isMark "," = true)
          · simp [opens, closes, ends]
          · simp [opens, closes, ends]

theorem joinKindBefore_map (before : List Token) :
    joinKindBefore (before.map change) = joinKindBefore before := by
  induction before with
  | nil => rfl
  | cons token before ih =>
      simp only [List.map_cons, joinKindBefore, ih, respells.isAnyKeyword, respells.isKeyword]

theorem introducesCte_map (before tokens : List Token) :
    introducesCte (before.map change) (tokens.map change) = introducesCte before tokens := by
  rcases before with _ | ⟨last, before⟩
  · rfl
  · rcases tokens with _ | ⟨name, _ | ⟨word, _ | ⟨mark, rest⟩⟩⟩
    · rfl
    · rfl
    · rfl
    · simp only [List.map_cons, introducesCte, respells.isName, respells.isKeyword, respells.isOpening,
        respells.isComma, respells.isAnyKeyword]

end Respells

/-! ### Join conditions -/

/-- The text of a condition, if there is any. -/
def conditionText (tokens : List Token) : Option String :=
  if (render tokens).isEmpty then none else some (render tokens)

section Conditions

variable {first : Token} (rest : List Token)

theorem readJoinCondition_of_on (on : first.isKeyword "ON" = true) :
    readJoinCondition (first :: rest) =
      (conditionText (readCondition 0 rest).1, (readCondition 0 rest).2) := by
  simp [readJoinCondition, conditionText, Token.isAnyKeyword, on]

theorem readJoinCondition_of_using (noOn : ¬ first.isKeyword "ON" = true)
    (isUsing : first.isKeyword "USING" = true) :
    readJoinCondition (first :: rest) =
      (conditionText (readCondition 0 (first :: rest)).1, (readCondition 0 (first :: rest)).2) := by
  simp [readJoinCondition, conditionText, Token.isAnyKeyword, noOn, isUsing]

theorem readJoinCondition_of_neither (noOn : ¬ first.isKeyword "ON" = true)
    (noUsing : ¬ first.isKeyword "USING" = true) :
    readJoinCondition (first :: rest) = (none, first :: rest) := by
  simp [readJoinCondition, Token.isAnyKeyword, noOn, noUsing]

/-- A condition is a stretch of the tokens. -/
theorem stretch_readCondition (depth : Nat) (tokens : List Token) :
    (readCondition depth tokens).1 <+: tokens :=
  ⟨_, readCondition_append depth tokens⟩

end Conditions

variable {respell : String → String} {same : Option String → Option String → Prop}
  {change : Token → Token}

/-- Whether the text of each stretch of the tokens comes out so when they are changed. -/
def RespellsConditions (same : Option String → Option String → Prop) (change : Token → Token)
    (tokens : List Token) : Prop :=
  ∀ stretch, stretch <:+: tokens → same (conditionText stretch) (conditionText (stretch.map change))

theorem RespellsConditions.suffix {tokens rest : List Token}
    (conditioned : RespellsConditions same change tokens) (behind : rest <:+ tokens) :
    RespellsConditions same change rest :=
  fun stretch inside => conditioned stretch (inside.trans behind.isInfix)

theorem Respells.readJoinCondition_map (respells : Respells respell change) {tokens : List Token}
    (conditioned : RespellsConditions same change tokens) :
    same (readJoinCondition tokens).1 (readJoinCondition (tokens.map change)).1 ∧
      (readJoinCondition (tokens.map change)).2 = (readJoinCondition tokens).2.map change := by
  rcases tokens with _ | ⟨first, rest⟩
  · exact ⟨conditioned [] List.nil_infix, rfl⟩
  · by_cases on : first.isKeyword "ON" = true
    · have onToo : (change first).isKeyword "ON" = true := (respells.isKeyword "ON" first).trans on
      have inside : (readCondition 0 rest).1 <:+: first :: rest :=
        (stretch_readCondition 0 rest).isInfix.trans (List.suffix_cons first rest).isInfix
      rw [List.map_cons, readJoinCondition_of_on _ onToo, readJoinCondition_of_on _ on,
        respells.readCondition_map]
      exact ⟨conditioned _ inside, rfl⟩
    · have onToo : ¬ (change first).isKeyword "ON" = true := by rwa [respells.isKeyword]
      by_cases isUsing : first.isKeyword "USING" = true
      · have usingToo : (change first).isKeyword "USING" = true :=
          (respells.isKeyword "USING" first).trans isUsing
        have inside := (stretch_readCondition 0 (first :: rest)).isInfix
        rw [List.map_cons, readJoinCondition_of_using _ onToo usingToo, ← List.map_cons,
          readJoinCondition_of_using _ on isUsing, respells.readCondition_map]
        exact ⟨conditioned _ inside, rfl⟩
      · have usingToo : ¬ (change first).isKeyword "USING" = true := by rwa [respells.isKeyword]
        rw [List.map_cons, readJoinCondition_of_neither _ onToo usingToo,
          readJoinCondition_of_neither _ on isUsing]
        exact ⟨conditioned [] List.nil_infix, rfl⟩

/-! ### The scan -/

/-- Whether two scans found the same in two spellings. -/
structure RelationScan.RespeltAs (respell : String → String)
    (same : Option String → Option String → Prop) (scan other : RelationScan) : Prop where
  cteNames : other.cteNames = scan.cteNames
  tables : other.tables = scan.tables.map (TableReference.respelled respell)
  joins : List.Forall₂ (JoinClause.RespeltAs respell same) scan.joins other.joins

namespace ScanState

/-- Whether two scans stand at the same relations and found the same, in two spellings. -/
structure RespeltAs (respell : String → String) (same : Option String → Option String → Prop)
    (state other : ScanState) : Prop where
  found : state.found.RespeltAs respell same other.found
  primary : other.primary = state.primary.map (TableReference.respelled respell)
  outer : other.outer = state.outer.map (Option.map (TableReference.respelled respell))

namespace RespeltAs

variable {state other : ScanState}

theorem start : RespeltAs respell same {} {} :=
  ⟨⟨rfl, rfl, .nil⟩, rfl, rfl⟩

variable (respelt : state.RespeltAs respell same other)

include respelt

theorem openScope : state.openScope.RespeltAs respell same other.openScope where
  found := respelt.found
  primary := rfl
  outer := by simp [ScanState.openScope, respelt.primary, respelt.outer]

theorem closeScope : state.closeScope.RespeltAs respell same other.closeScope := by
  unfold ScanState.closeScope
  rw [respelt.outer]
  cases state.outer with
  | nil => exact respelt
  | cons enclosing outer => exact ⟨respelt.found, rfl, rfl⟩

theorem addCte {name again : String} (folded : Text.lowercase again = Text.lowercase name) :
    (state.addCte name).RespeltAs respell same (other.addCte again) where
  found := {
    cteNames := by simp [ScanState.addCte, respelt.found.cteNames, folded]
    tables := respelt.found.tables
    joins := respelt.found.joins }
  primary := respelt.primary
  outer := respelt.outer

theorem addTables (tables : List TableReference) :
    (state.addTables tables).RespeltAs respell same
      (other.addTables (tables.map (TableReference.respelled respell))) where
  found := {
    cteNames := respelt.found.cteNames
    tables := by simp [ScanState.addTables, respelt.found.tables]
    joins := respelt.found.joins }
  primary := by
    simp only [ScanState.addTables, respelt.primary, List.head?_map]
    cases state.primary <;> rfl
  outer := respelt.outer

theorem addJoin (kind : JoinKind) (right : TableReference) {condition again : Option String}
    (conditioned : same condition again) :
    (state.addJoin kind right condition).RespeltAs respell same
      (other.addJoin kind (right.respelled respell) again) := by
  obtain ⟨⟨cteNames, tables, joins⟩, primary, outer⟩ := respelt
  unfold ScanState.addJoin
  rw [primary]
  cases state.primary with
  | none => exact ⟨⟨cteNames, by simp [tables], joins⟩, rfl, outer⟩
  | some left =>
      have clause : JoinClause.RespeltAs respell same { left, right, kind, condition }
          { left := left.respelled respell, right := right.respelled respell, kind, condition := again } :=
        ⟨rfl, rfl, rfl, conditioned⟩
      exact ⟨⟨cteNames, by simp [tables], List.rel_append joins (.cons clause .nil)⟩, rfl, outer⟩

end RespeltAs

end ScanState

/-- A common table expression is introduced by its name, the word `AS` and a parenthesis. -/
theorem exists_of_introducesCte {before tokens : List Token}
    (introduces : introducesCte before tokens = true) :
    ∃ name word mark more, tokens = name :: word :: mark :: more ∧ name.isName = true ∧
      word.isKeyword "AS" = true ∧ mark.isMark "(" = true := by
  rcases before with _ | ⟨last, before⟩
  · cases introduces
  · rcases tokens with _ | ⟨name, _ | ⟨word, _ | ⟨mark, more⟩⟩⟩
    · cases introduces
    · cases introduces
    · cases introduces
    · simp only [introducesCte, Bool.and_eq_true] at introduces
      obtain ⟨⟨⟨isName, isAs⟩, opens⟩, _⟩ := introduces
      exact ⟨name, word, mark, more, rfl, isName, isAs, opens⟩

theorem isName_of_introducesCte {token : Token} {before rest : List Token}
    (introduces : introducesCte before (token :: rest) = true) : token.isName = true := by
  obtain ⟨name, _, _, _, shape, isName, _, _⟩ := exists_of_introducesCte introduces
  cases shape
  exact isName

theorem readBetween_map (tokens rest : List Token) :
    readBetween (tokens.map change) (rest.map change) = (readBetween tokens rest).map change := by
  simp [readBetween]

namespace Respells

variable (respells : Respells respell change)

include respells

/-- A scan of changed tokens finds what the scan of the tokens does. -/
theorem scanFrom_map {state other : ScanState} (respelt : state.RespeltAs respell same other)
    (before : List Token) {tokens : List Token} (named : RespellsNames respell change tokens)
    (conditioned : RespellsConditions same change tokens) :
    (scanFrom state before tokens).RespeltAs respell same
      (scanFrom other (before.map change) (tokens.map change)) := by
  have noCteToo {before tokens : List Token} (noCte : ¬ introducesCte before tokens = true) :
      ¬ introducesCte (before.map change) (tokens.map change) = true := by
    rwa [respells.introducesCte_map]
  revert other
  fun_induction scanFrom state before tokens with
  | case1 state before =>
      intro other respelt
      rw [List.map_nil, scanFrom_nil]
      exact respelt
  | case2 state before token rest opens ih =>
      intro other respelt
      have behind := List.suffix_cons token rest
      rw [List.map_cons, scanFrom_open ((respells.isOpening token).trans opens)]
      exact ih (named.suffix behind) (conditioned.suffix behind) respelt.openScope
  | case3 state before token rest noOpen closes ih =>
      intro other respelt
      have behind := List.suffix_cons token rest
      have noOpenToo : ¬ (change token).isMark "(" = true := by rwa [respells.isOpening]
      rw [List.map_cons, scanFrom_close noOpenToo ((respells.isClosing token).trans closes)]
      exact ih (named.suffix behind) (conditioned.suffix behind) respelt.closeScope
  | case4 state before token rest noOpen noClose introduces ih =>
      intro other respelt
      have behind := List.suffix_cons token rest
      have introducesToo : introducesCte (before.map change) (change token :: rest.map change) = true :=
        (respells.introducesCte_map before (token :: rest)).trans introduces
      have spelt := named token List.mem_cons_self (isName_of_introducesCte introduces)
      rw [List.map_cons, scanFrom_cte (respells.isPlain ⟨noOpen, noClose⟩) introducesToo, spelt]
      exact ih (named.suffix behind) (conditioned.suffix behind)
        (respelt.addCte (respells.lowercase token.unquoted))
  | case5 state before token rest noOpen noClose noCte word list shorter ih =>
      intro other respelt
      have behind := List.suffix_cons token rest
      have left : list.2 <:+ token :: rest :=
        (readRelations_suffix state.found.cteNames rest).trans behind
      have step : scanFrom other _ _ = _ := scanFrom_from (respells.isPlain ⟨noOpen, noClose⟩)
        (noCteToo noCte) ((respells.isKeyword "FROM" token).trans word)
      rw [respelt.found.cteNames, respells.readRelations_map _ (named.suffix behind), ← List.map_cons,
        readBetween_map, ← List.map_append] at step
      rw [step]
      exact ih (named.suffix left) (conditioned.suffix left) (respelt.addTables list.1)
  | case6 state before token rest noOpen noClose noCte noFrom word found ih =>
      intro other respelt
      have behind := List.suffix_cons token rest
      have noFromToo : ¬ (change token).isKeyword "FROM" = true := by rwa [respells.isKeyword]
      have foundToo : readRelation other.found.cteNames (rest.map change) = none := by
        rw [respelt.found.cteNames, respells.readRelation_map _ (named.suffix behind), found]
        rfl
      rw [List.map_cons, scanFrom_join_of_none (respells.isPlain ⟨noOpen, noClose⟩) (noCteToo noCte)
        noFromToo ((respells.isKeyword "JOIN" token).trans word) foundToo]
      exact ih (named.suffix behind) (conditioned.suffix behind) respelt
  | case7 state before token rest noOpen noClose noCte noFrom word right afterRight found condition
      shorter ih =>
      intro other respelt
      have behind : afterRight <:+ token :: rest :=
        (readRelation_suffix found).trans (List.suffix_cons token rest)
      have left : condition.2 <:+ token :: rest := (readJoinCondition_suffix afterRight).trans behind
      have noFromToo : ¬ (change token).isKeyword "FROM" = true := by rwa [respells.isKeyword]
      have foundToo : readRelation other.found.cteNames (rest.map change) =
          some (right.respelled respell, afterRight.map change) := by
        rw [respelt.found.cteNames,
          respells.readRelation_map _ (named.suffix (List.suffix_cons token rest)), found]
        rfl
      have step := scanFrom_join (respells.isPlain ⟨noOpen, noClose⟩) (noCteToo noCte) noFromToo
        ((respells.isKeyword "JOIN" token).trans word) foundToo
      obtain ⟨read, rest_eq⟩ := respells.readJoinCondition_map (conditioned.suffix behind)
      rw [rest_eq, respells.joinKindBefore_map, ← List.map_cons, readBetween_map,
        ← List.map_append] at step
      rw [step]
      exact ih (named.suffix left) (conditioned.suffix left)
        (respelt.addJoin (joinKindBefore before) right read)
  | case8 state before token rest noOpen noClose noCte noFrom noJoin ih =>
      intro other respelt
      have behind := List.suffix_cons token rest
      have noFromToo : ¬ (change token).isKeyword "FROM" = true := by rwa [respells.isKeyword]
      have noJoinToo : ¬ (change token).isKeyword "JOIN" = true := by rwa [respells.isKeyword]
      rw [List.map_cons, scanFrom_other (respells.isPlain ⟨noOpen, noClose⟩) (noCteToo noCte) noFromToo
        noJoinToo]
      exact ih (named.suffix behind) (conditioned.suffix behind) respelt

/-- The relations that a scan finds are kept, in the other spelling. -/
theorem scanRelations_map {tokens : List Token} (named : RespellsNames respell change tokens)
    (conditioned : RespellsConditions same change tokens) :
    (scanRelations tokens).RespeltAs respell same (scanRelations (tokens.map change)) :=
  (respells.scanFrom_map .start [] named conditioned).found

end Respells

end Script

end SqlLineage
