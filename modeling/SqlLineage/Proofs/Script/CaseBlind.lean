/-
Module: SqlLineage.Proofs.Script.CaseBlind
Purpose: What is read off a script does not depend on the case of its letters. Scripts that are the same in
  capital letters have the same tokens at the same places, are cut into statements at the same places, and
  corresponding statements are of the same kind and show the same relations and joins, each name and each
  condition as it is spelt in its own script.
Main exports: respells_inCapitals, Token.SameIgnoringCase, Statement.ReadsAlike,
  readsAlike_of_sameIgnoringCase
-/
import SqlLineage.Proofs.Script.LetterCase
import SqlLineage.Proofs.Script.Respelling

namespace SqlLineage

/-! ### Names in capital letters -/

theorem Text.upper_append (text more : String) : upper (text ++ more) = upper text ++ upper more := by
  simp [upper]

/-- The same join, with both relations and its condition spelt otherwise. -/
def Lineage.JoinClause.respelled (respell : String → String) (join : JoinClause) : JoinClause :=
  { left := join.left.respelled respell
    right := join.right.respelled respell
    kind := join.kind
    condition := join.condition.map respell }

namespace Script

open Lineage (TableReference JoinClause)

/-- The same findings, with the relations and the joins spelt otherwise. The names of common table
expressions are kept case-folded and stay. -/
def RelationScan.respelled (respell : String → String) (scan : RelationScan) : RelationScan :=
  { cteNames := scan.cteNames
    tables := scan.tables.map (TableReference.respelled respell)
    joins := scan.joins.map (JoinClause.respelled respell) }

/-- Names may be spelt in capital letters. -/
theorem isRespelling_upper : IsRespelling Text.upper where
  joinWith parts := by
    induction parts with
    | nil => rfl
    | cons part rest ih =>
        cases rest with
        | nil => rfl
        | cons next rest =>
            have dot : Text.upper "." = "." := rfl
            rw [List.map_cons] at ih
            rw [List.map_cons, List.map_cons, Text.joinWith, Text.joinWith, Text.upper_append,
              Text.upper_append, ih, dot]
  qualifier name := by
    have spares : Text.Spares Char.toUpper '.' := Text.spares_toUpper rfl
    rw [TableReference.qualifier, TableReference.qualifier, Text.upper, String.toList_ofList,
      Text.cutLast_map spares, Option.map_map, Option.map_map]
    congr 1
    funext parts
    simp [Text.upper]
  lowercase name := by
    have same := Text.lowercase_capitals name.toList
    rwa [String.ofList_toList] at same

/-- Capital letters are another spelling of what is read. -/
theorem respells_inCapitals : Respells Text.upper Token.inCapitals where
  toIsRespelling := isRespelling_upper
  kind _ := rfl
  isWord := Token.isWord_inCapitals
  isMark mark listed token := by
    have noLetters : ∀ mark ∈ structuralMarks, ∀ c ∈ mark.toList, c.isAlpha = false := by
      simp [structuralMarks]
    exact Token.isMark_inCapitals (noLetters mark listed) token

/-! ### Texts in capital letters -/

theorem renderAfter_inCapitals (last : Nat) (tokens : List Token) :
    renderAfter last (tokens.map Token.inCapitals) = Text.upper (renderAfter last tokens) := by
  induction tokens generalizing last with
  | nil => rfl
  | cons token rest ih =>
      rw [List.map_cons, renderAfter, renderAfter, Token.stop_inCapitals, ih, Text.upper_append,
        Text.upper_append]
      show (if token.offset > last then " " else "") ++ Text.upper token.text ++ _ = _
      split <;> rfl

/-- The text of tokens in capital letters is their text in capital letters. -/
theorem render_inCapitals (tokens : List Token) :
    render (tokens.map Token.inCapitals) = Text.upper (render tokens) := by
  cases tokens with
  | nil => rfl
  | cons token rest =>
      rw [List.map_cons, render, render, Token.stop_inCapitals, renderAfter_inCapitals, Text.upper_append]
      rfl

theorem conditionText_inCapitals (tokens : List Token) :
    conditionText (tokens.map Token.inCapitals) = (conditionText tokens).map Text.upper := by
  have sameEmpty : (Text.upper (render tokens)).isEmpty = (render tokens).isEmpty := by
    rw [String.isEmpty, String.isEmpty, utf8ByteSize_upper]
  rw [conditionText, conditionText, render_inCapitals, sameEmpty]
  split <;> rfl

theorem respellsConditions_inCapitals (tokens : List Token) :
    RespellsConditions (fun condition again => again = condition.map Text.upper) Token.inCapitals tokens :=
  fun stretch _ => conditionText_inCapitals stretch

theorem map_respelled_eq {joins others : List JoinClause}
    (respelt : List.Forall₂
      (JoinClause.RespeltAs Text.upper fun condition again => again = condition.map Text.upper)
      joins others) :
    others = joins.map (JoinClause.respelled Text.upper) := by
  induction respelt with
  | nil => rfl
  | @cons join again _ _ first _ ih =>
      have same : again = join.respelled Text.upper := by
        cases again
        rw [JoinClause.respelled, ← first.left, ← first.right, ← first.kind, ← first.condition]
      rw [List.map_cons, ← ih, same]

theorem RelationScan.RespeltAs.eq_respelled {scan other : RelationScan}
    (respelt : scan.RespeltAs Text.upper (fun condition again => again = condition.map Text.upper) other) :
    other = scan.respelled Text.upper := by
  obtain ⟨cteNames, tables, joins⟩ := other
  obtain ⟨sameCtes, sameTables, sameJoins⟩ := respelt
  rw [RelationScan.respelled, ← sameCtes, ← sameTables, ← map_respelled_eq sameJoins]

/-! ### Statements in capital letters -/

namespace Statement

variable {escapes : QuoteEscapes} {script : String} {statement : Statement}

/-- No quoted name in a statement of a script opens with a letter. -/
theorem opensWithMark_of_mem_split (member : statement ∈ split escapes script) {token : Token}
    (inside : token ∈ statement.significant) : token.OpensWithMark := by
  obtain ⟨group, isGroup, _, tokens⟩ := exists_group_of_mem_split member
  have among : token ∈ group.tokens := tokens ▸ List.mem_of_mem_filter inside
  exact opensWithMark_of_mem_tokensFrom ((TokenGroup.infix_of_mem_split isGroup).subset among)

theorem respellsNames_inCapitals (member : statement ∈ split escapes script) :
    RespellsNames Text.upper Token.inCapitals statement.significant :=
  fun _ inside _ => Token.unquoted_inCapitals (opensWithMark_of_mem_split member inside)

/-- A statement in capital letters is of the same kind. -/
theorem kind?_inCapitals (member : statement ∈ split escapes script) :
    statement.inCapitals.kind? = statement.kind?.map (StatementKind.respelled Text.upper) := by
  rw [kind?, significant_inCapitals]
  exact respells_inCapitals.ofTokens?_map (respellsNames_inCapitals member)

theorem relations_inCapitals (member : statement ∈ split escapes script) :
    statement.inCapitals.relations = statement.relations.respelled Text.upper := by
  have respelt := respells_inCapitals.scanRelations_map (respellsNames_inCapitals member)
    (respellsConditions_inCapitals statement.significant)
  rw [← significant_inCapitals] at respelt
  exact respelt.eq_respelled

/-- Whether two statements stand at the same place and show the same in any case of the letters: they are
of the same kind, and scans of them find the same relations and joins. -/
structure ReadsAlike (statement other : Statement) : Prop where
  index : other.index = statement.index
  start : other.start = statement.start
  stop : other.stop = statement.stop
  kind : other.kind?.map (StatementKind.respelled Text.upper) =
    statement.kind?.map (StatementKind.respelled Text.upper)
  relations : other.relations.respelled Text.upper = statement.relations.respelled Text.upper

/-- Statements that are the same in capital letters show the same. -/
theorem ReadsAlike.of_inCapitals {other : Statement} {again : String}
    (member : statement ∈ split escapes script) (memberToo : other ∈ split escapes again)
    (same : statement.inCapitals = other.inCapitals) : statement.ReadsAlike other where
  index := (congrArg Statement.index same).symm
  start := (congrArg Statement.start same).symm
  stop := (congrArg Statement.stop same).symm
  kind := by rw [← kind?_inCapitals member, ← kind?_inCapitals memberToo, same]
  relations := by rw [← relations_inCapitals member, ← relations_inCapitals memberToo, same]

end Statement

/-! ### Scripts -/

/-- Whether two tokens are of the same kind, at the same place, and the same in any case of the letters. -/
structure Token.SameIgnoringCase (token other : Token) : Prop where
  kind : other.kind = token.kind
  offset : other.offset = token.offset
  text : Text.sameIgnoringCase token.text other.text = true

/-- Members of two lists that are the same once changed are related if all such members are. -/
theorem forall₂_of_map_eq {α β : Type} {change : α → β} {related : α → α → Prop} {left right : List α}
    (same : left.map change = right.map change)
    (relate : ∀ a ∈ left, ∀ b ∈ right, change a = change b → related a b) :
    List.Forall₂ related left right := by
  induction left generalizing right with
  | nil =>
      obtain rfl := List.map_eq_nil_iff.mp same.symm
      exact .nil
  | cons a left ih =>
      obtain ⟨b, right, rfl, first, rest⟩ := List.map_eq_cons_iff.mp same.symm
      refine .cons (relate a List.mem_cons_self b List.mem_cons_self first.symm) (ih rest.symm ?_)
      exact fun c inside d insideToo => relate c (List.mem_cons_of_mem a inside) d
        (List.mem_cons_of_mem b insideToo)

/-- What is read off a script does not depend on the case of its letters, with either way of escaping. -/
theorem readsAlike_of_sameIgnoringCase (escapes : QuoteEscapes) {left right : String}
    (same : Text.sameIgnoringCase left right = true) :
    List.Forall₂ Token.SameIgnoringCase (tokenize escapes left) (tokenize escapes right) ∧
      List.Forall₂ Statement.ReadsAlike (Statement.split escapes left) (Statement.split escapes right) := by
  have sameUpper : Text.upper left = Text.upper right :=
    congrArg String.ofList ((Text.sameIgnoringCase_iff left right).mp same)
  constructor
  · have tokens := tokenize_upper escapes left
    rw [sameUpper, tokenize_upper] at tokens
    refine forall₂_of_map_eq tokens.symm fun token _ other _ sameToken => ?_
    exact ⟨(congrArg Token.kind sameToken).symm, (congrArg Token.offset sameToken).symm,
      (Text.sameIgnoringCase_iff _ _).mpr (String.ofList_injective (congrArg Token.text sameToken))⟩
  · have statements := Statement.split_upper escapes left
    rw [sameUpper, Statement.split_upper] at statements
    exact forall₂_of_map_eq statements.symm fun statement member other memberToo =>
      Statement.ReadsAlike.of_inCapitals member memberToo

/-- A script that creates a table from a join. -/
def creatingScript : String :=
  "create Temp table T as select * from Db.a X left join \x22B\x22 on X.i = 'k'; select 1e5 -- from c"

/-- The same script in other letters. -/
def creatingAgain : String :=
  "CREATE TEMP TABLE t AS Select * From dB.A x Left Join \x22b\x22 On x.I = 'K'; SELECT 1E5 -- FROM C"

theorem readsAlike_creatingScript :
    (Text.sameIgnoringCase creatingScript creatingAgain = true ∧
      (Statement.split .doubled creatingScript).length = 2) ∧
    List.Forall₂ Token.SameIgnoringCase (tokenize .doubled creatingScript)
      (tokenize .doubled creatingAgain) ∧
    List.Forall₂ Statement.ReadsAlike (Statement.split .doubled creatingScript)
      (Statement.split .doubled creatingAgain) :=
  ⟨by decide +kernel, readsAlike_of_sameIgnoringCase .doubled (by decide +kernel)⟩

end Script

end SqlLineage
