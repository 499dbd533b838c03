/-
Module: SqlLineage.Proofs.Script.FlatScan
Purpose: Queries of `FROM` lists with joins and without parentheses, combined by `UNION`, told by their
  grammar, and what the scan of one finds. It reads a list up to the first item with joins; of the items
  behind that it finds what is joined to them, but not the items themselves. Each join is one with the first
  relation of the whole statement.
Main exports: FlatItem, SpellsBranches, scannedTables, scanRelations_of_branches, scannedTables_eq_iff,
  joinsTo_eq_iff
-/
import SqlLineage.Proofs.Script.JoinScan

namespace SqlLineage

/-- The relation on the left of a join and the one on its right, and the kind of the join. -/
abbrev Lineage.JoinSides := TableReference × TableReference × JoinKind

/-- What a join is apart from its condition. -/
def Lineage.JoinClause.sides (join : JoinClause) : JoinSides := (join.left, join.right, join.kind)

namespace Script

open Lineage (TableReference JoinKind JoinClause JoinSides)

/-! ### Items of a list -/

/-- A relation of a `FROM` list, and the relations joined to it, each with the kind of its join. -/
structure FlatItem where
  first : TableReference
  joined : List (JoinKind × TableReference)
deriving Repr, DecidableEq

namespace FlatItem

/-- The relations that are joined to the first one. -/
def others (item : FlatItem) : List TableReference := item.joined.map Prod.snd

/-- All relations of the item, in their order. -/
def tables (item : FlatItem) : List TableReference := item.first :: item.others

/-- The joins of the item, with this relation on the left of each. -/
def joinsTo (left : TableReference) (item : FlatItem) : List JoinSides :=
  item.joined.map fun (kind, right) => (left, right, kind)

end FlatItem

/-- The first relations of the items up to the first one with joins. -/
def leadingTables : List FlatItem → List TableReference
  | [] => []
  | item :: rest => item.first :: if item.joined.isEmpty then leadingTables rest else []

/-- The relations that a scan finds in a list: the items up to the first one with joins, and all relations
that are joined to some item. -/
def scannedTables (items : List FlatItem) : List TableReference :=
  leadingTables items ++ items.flatMap FlatItem.others

/-- All relations of a list, in their order. -/
def listedTables (items : List FlatItem) : List TableReference := items.flatMap FlatItem.tables

/-- The joins of a list, each one to the first relation of the item that it belongs to. -/
def listedJoins (items : List FlatItem) : List JoinSides :=
  items.flatMap fun item => item.joinsTo item.first

theorem listedTables_append (items more : List FlatItem) :
    listedTables (items ++ more) = listedTables items ++ listedTables more :=
  List.flatMap_append

theorem listedJoins_append (items more : List FlatItem) :
    listedJoins (items ++ more) = listedJoins items ++ listedJoins more :=
  List.flatMap_append

/-! ### The grammar -/

/-- The operators that compare two columns. -/
def comparisonOperators : List String := ["=", "<>", "!=", "<", "<=", ">", ">="]

/-- The tokens of comparisons of two columns, with `AND` between them. -/
inductive SpellsComparisons : List Token → Prop where
  | compare {left right : List Token} {names others : List String} {operator : Token}
      (spellsLeft : SpellsName left names) (isOperator : operator.kind = .operator)
      (compares : operator.text ∈ comparisonOperators) (spellsRight : SpellsName right others) :
      SpellsComparisons (left ++ operator :: right)
  | both {first second : List Token} {word : Token} (spellsFirst : SpellsComparisons first)
      (isAnd : word.isKeyword "AND" = true) (spellsSecond : SpellsComparisons second) :
      SpellsComparisons (first ++ word :: second)

/-- The tokens of the condition of a join: comparisons behind `ON`, and none with `CROSS`. -/
inductive SpellsMatch : JoinKind → List Token → Prop where
  | cross : SpellsMatch .cross []
  | on {kind : JoinKind} {word : Token} {tokens : List Token} (constrained : kind ≠ .cross)
      (isOn : word.isKeyword "ON" = true) (spells : SpellsComparisons tokens) :
      SpellsMatch kind (word :: tokens)

/-- The tokens of joins one after another. -/
inductive SpellsJoined : List Token → List (JoinKind × TableReference) → Prop where
  | nil : SpellsJoined [] []
  | cons {words : List String} {kinds relation condition tokens : List Token} {join : Token}
      {kind : JoinKind} {right : TableReference} {joined : List (JoinKind × TableReference)}
      (listed : (words, kind) ∈ joinPhrases) (spellsKind : SpellsWords words kinds)
      (isJoin : join.isKeyword "JOIN" = true) (spellsRelation : SpellsRelation relation right)
      (spellsMatch : SpellsMatch kind condition) (onward : SpellsJoined tokens joined) :
      SpellsJoined (kinds ++ join :: (relation ++ (condition ++ tokens))) ((kind, right) :: joined)

/-- The tokens of an item of a list. -/
inductive SpellsItem : List Token → FlatItem → Prop where
  | intro {relation tokens : List Token} {first : TableReference}
      {joined : List (JoinKind × TableReference)} (spellsRelation : SpellsRelation relation first)
      (spellsJoined : SpellsJoined tokens joined) : SpellsItem (relation ++ tokens) ⟨first, joined⟩

/-- The tokens of a list of items, with commas between them. -/
inductive SpellsItems : List Token → List FlatItem → Prop where
  | last {tokens : List Token} {item : FlatItem} (spells : SpellsItem tokens item) :
      SpellsItems tokens [item]
  | cons {tokens more : List Token} {item : FlatItem} {items : List FlatItem} {comma : Token}
      (spells : SpellsItem tokens item) (isComma : comma.isMark "," = true)
      (onward : SpellsItems more items) : SpellsItems (tokens ++ comma :: more) (item :: items)

/-- The tokens of a query that takes all columns from a list. -/
inductive SpellsBranch : List Token → List FlatItem → Prop where
  | intro {select star word : Token} {tokens : List Token} {items : List FlatItem}
      (isSelect : select.isKeyword "SELECT" = true) (isStar : star.kind = .operator ∧ star.text = "*")
      (isFrom : word.isKeyword "FROM" = true) (spells : SpellsItems tokens items) :
      SpellsBranch (select :: star :: word :: tokens) items

/-- The words between two queries. -/
def unionPhrases : List (List String) := [["UNION"], ["UNION", "ALL"]]

/-- The tokens of such queries with `UNION` or `UNION ALL` between them. -/
inductive SpellsBranches : List Token → List (List FlatItem) → Prop where
  | last {tokens : List Token} {items : List FlatItem} (spells : SpellsBranch tokens items) :
      SpellsBranches tokens [items]
  | union {tokens words more : List Token} {items : List FlatItem} {branches : List (List FlatItem)}
      (spells : SpellsBranch tokens items) (isUnion : SpellsOneOf unionPhrases words)
      (onward : SpellsBranches more branches) : SpellsBranches (tokens ++ (words ++ more)) (items :: branches)

/-! ### Names and relations -/

section Names

variable {P : Token → Prop} (ofName : ∀ token : Token, token.isName = true → P token)
  (ofDot : ∀ token : Token, token.isMark "." = true → P token)

include ofName ofDot

/-- What holds of names and of dots holds of the tokens of a dotted name. -/
theorem SpellsName.forall_mem {tokens : List Token} {names : List String} (spells : SpellsName tokens names) :
    ∀ token ∈ tokens, P token := by
  induction spells with
  | last isName => exact List.forall_mem_singleton.mpr (ofName _ isName)
  | dotted isName mark onward ih =>
      exact List.forall_mem_cons.mpr ⟨ofName _ isName, List.forall_mem_cons.mpr ⟨ofDot _ mark, ih⟩⟩

theorem SpellsRelation.forall_mem (ofAs : ∀ token : Token, token.isKeyword "AS" = true → P token)
    {tokens : List Token} {table : TableReference} (spells : SpellsRelation tokens table) :
    ∀ token ∈ tokens, P token := by
  cases spells with
  | bare spells => exact spells.forall_mem ofName ofDot
  | aliased spells isName =>
      exact List.forall_mem_append.mpr
        ⟨spells.forall_mem ofName ofDot, List.forall_mem_singleton.mpr (ofName _ isName)⟩
  | aliasedAs spells isAs isName =>
      exact List.forall_mem_append.mpr ⟨spells.forall_mem ofName ofDot,
        List.forall_mem_cons.mpr ⟨ofAs _ isAs, List.forall_mem_singleton.mpr (ofName _ isName)⟩⟩

end Names

/-- A mark other than a parenthesis is passed over. -/
theorem Token.isIdle_of_isMark {token : Token} {mark : String} (isMark : token.isMark mark = true)
    (noOpen : mark ≠ "(") (noClose : mark ≠ ")") : token.IsIdle := by
  refine ⟨?_, isAnyKeyword_of_isMark isMark _⟩
  simp [IsPlain, isMark_eq_of_isMark isMark, noOpen, noClose]

/-- No token of a relation is one that the scan looks for. -/
theorem SpellsRelation.idle {tokens : List Token} {table : TableReference}
    (spells : SpellsRelation tokens table) : ∀ token ∈ tokens, token.IsIdle := by
  refine spells.forall_mem ?_ ?_ ?_
  · exact fun token isName => ⟨Token.isPlain_of_isName isName, Token.isAnyKeyword_of_isName isName _⟩
  · exact fun token isDot => Token.isIdle_of_isMark isDot (by decide) (by decide)
  · exact fun token isAs => Token.isIdle_of_isKeyword isAs rfl

/-! ### Conditions -/

theorem balanced_of_forall {allowed : Token → Prop} {tokens : List Token}
    (plain : ∀ token ∈ tokens, token.IsPlain ∧ allowed token) : Balanced allowed tokens := by
  induction tokens with
  | nil => exact .nil
  | cons token rest ih =>
      obtain ⟨⟨isPlain, outside⟩, later⟩ := List.forall_mem_cons.mp plain
      exact .plain isPlain outside (ih later)

theorem Token.mayCompare_of_kind {token : Token} (noKeyword : token.kind ≠ .keyword)
    (noComma : token.isMark "," = false) : token.MayCompare where
  noBoundary := isAnyKeyword_of_kind noKeyword _
  noComma := noComma
  noOuter := isKeyword_of_kind noKeyword _

/-- What compares columns may stand in a condition outside all parentheses. -/
theorem SpellsComparisons.mayCompare {tokens : List Token} (spells : SpellsComparisons tokens) :
    ∀ token ∈ tokens, token.IsPlain ∧ token.MayCompare := by
  have ofName : ∀ token : Token, token.isName = true → token.IsPlain ∧ token.MayCompare := by
    intro token isName
    exact ⟨Token.isPlain_of_isName isName,
      Token.mayCompare_of_kind (Token.kind_of_isName isName).1 (Token.isMark_of_isName isName ",")⟩
  have ofDot : ∀ token : Token, token.isMark "." = true → token.IsPlain ∧ token.MayCompare := by
    intro token isDot
    have noKeyword : token.kind ≠ .keyword := by simp [Token.kind_of_isMark isDot]
    exact ⟨(Token.isIdle_of_isMark isDot (by decide) (by decide)).1,
      Token.mayCompare_of_kind noKeyword (Token.isMark_eq_of_isMark isDot ",")⟩
  induction spells with
  | @compare left right names others operator spellsLeft isOperator compares spellsRight =>
      have noMark : operator.kind ≠ .punctuation := by simp [isOperator]
      have operates : operator.IsPlain ∧ operator.MayCompare :=
        ⟨Token.isPlain_of_kind noMark,
          Token.mayCompare_of_kind (by simp [isOperator]) (Token.isMark_of_kind noMark ",")⟩
      exact List.forall_mem_append.mpr ⟨spellsLeft.forall_mem ofName ofDot,
        List.forall_mem_cons.mpr ⟨operates, spellsRight.forall_mem ofName ofDot⟩⟩
  | @both first second word spellsFirst isAnd spellsSecond ihFirst ihSecond =>
      have connects : word.IsPlain ∧ word.MayCompare :=
        ⟨Token.isPlain_of_isKeyword isAnd, by rw [Token.isAnyKeyword_eq_of_isKeyword isAnd]; rfl,
          Token.isMark_of_isKeyword isAnd ",", Token.isKeyword_eq_of_isKeyword isAnd "OUTER"⟩
      exact List.forall_mem_append.mpr ⟨ihFirst, List.forall_mem_cons.mpr ⟨connects, ihSecond⟩⟩

theorem SpellsComparisons.ne_nil {tokens : List Token} (spells : SpellsComparisons tokens) : tokens ≠ [] := by
  cases spells with
  | compare => simp
  | both => simp

/-- The condition of a join in a list is one that the scan reads whole. -/
theorem SpellsMatch.spellsCondition {kind : JoinKind} {tokens : List Token}
    (spells : SpellsMatch kind tokens) : ∃ text, SpellsCondition tokens text := by
  cases spells with
  | cross => exact ⟨none, .none⟩
  | on constrained isOn spells =>
      exact ⟨_, .on isOn spells.ne_nil (balanced_of_forall spells.mayCompare)⟩

/-- The joins of an item are joins to any relation. -/
theorem SpellsJoined.spellsJoins {tokens : List Token} {joined : List (JoinKind × TableReference)}
    (spells : SpellsJoined tokens joined) (left : TableReference) :
    ∃ joins, SpellsJoins left tokens joins ∧
      joins.map JoinClause.sides = joined.map fun (kind, right) => (left, right, kind) := by
  induction spells with
  | nil => exact ⟨[], .nil, rfl⟩
  | @cons words kinds relation condition tokens join kind right joined listed spellsKind isJoin
      spellsRelation spellsMatch onward ih =>
      obtain ⟨text, spellsCondition⟩ := spellsMatch.spellsCondition
      obtain ⟨joins, spellsJoins, sides⟩ := ih
      refine ⟨{ left, right, kind, condition := text } :: joins,
        .cons ⟨words, listed, .inl spellsKind⟩ isJoin spellsRelation spellsCondition spellsJoins, ?_⟩
      rw [List.map_cons, List.map_cons, sides]
      rfl

/-! ### The scan of a list -/

/-- Whether a scan of these tokens notes the joins of the items, each as one with the primary relation, and
goes on behind the tokens. -/
def NotesJoins (tokens rest : List Token) (items : List FlatItem) : Prop :=
  ∀ {state : ScanState} {primary : TableReference} {before : List Token}, state.primary = some primary →
    state.found.cteNames = [] → joinKindBefore before = .inner →
      ∃ joins behind, joins.map JoinClause.sides = items.flatMap (FlatItem.joinsTo primary) ∧
        scanFrom state before (tokens ++ rest) = scanFrom (state.addJoins joins) behind rest

theorem ScanState.addJoins_addJoins (state : ScanState) (joins more : List JoinClause) :
    (state.addJoins joins).addJoins more = state.addJoins (joins ++ more) := by
  simp [addJoins]

section Lists

variable {tokens rest : List Token}

theorem SpellsJoined.forall_head {joined : List (JoinKind × TableReference)}
    (spells : SpellsJoined tokens joined) {P : Token → Prop}
    (ofBoundary : ∀ token, token.isAnyKeyword clauseBoundaries = true → P token)
    (behind : ∀ token ∈ rest.head?, P token) : ∀ token ∈ (tokens ++ rest).head?, P token := by
  obtain ⟨joins, spellsJoins, _⟩ := spells.spellsJoins default
  exact spellsJoins.forall_head ofBoundary behind

theorem SpellsJoined.endsJoin {joined : List (JoinKind × TableReference)}
    (spells : SpellsJoined tokens joined) (ends : EndsJoin rest) : EndsJoin (tokens ++ rest) :=
  spells.forall_head (fun _ boundary => Token.endsCondition_iff.mpr (.inl boundary)) ends

/-- The joins of an item are noted. -/
theorem SpellsJoined.notesJoins {joined : List (JoinKind × TableReference)}
    (spells : SpellsJoined tokens joined) (written : ∀ token ∈ tokens, token.text ≠ "")
    (ends : EndsJoin rest) (first : TableReference) : NotesJoins tokens rest [⟨first, joined⟩] := by
  intro state primary before isPrimary noCtes inner
  obtain ⟨joins, spellsJoins, sides⟩ := spells.spellsJoins primary
  obtain ⟨behind, scan⟩ := spellsJoins.scanFrom_append written ends isPrimary noCtes inner
  exact ⟨joins, behind, by rw [sides, List.flatMap_singleton]; rfl, scan⟩

/-- Joins start with a word that ends a clause. -/
theorem SpellsJoined.boundary {joined : List (JoinKind × TableReference)}
    (spells : SpellsJoined tokens joined) (someJoins : joined ≠ []) :
    ∀ token ∈ (tokens ++ rest).head?, token.isAnyKeyword clauseBoundaries = true := by
  cases spells with
  | nil => exact absurd rfl someJoins
  | cons listed spellsKind isJoin spellsRelation spellsMatch onward =>
      have kinds : SpellsKind _ _ := ⟨_, listed, .inl spellsKind⟩
      rw [List.append_assoc, List.cons_append]
      refine kinds.forall_head (fun _ boundary => boundary) ?_
      rintro _ ⟨⟩
      exact Token.isAnyKeyword_of_mem isJoin (by decide)

/-- A relation tells no kind of join. -/
theorem SpellsRelation.joinKindBefore {table : TableReference} (spells : SpellsRelation tokens table)
    (before : List Token) : joinKindBefore (tokens.reverse ++ before) = .inner := by
  have inner : Script.joinKindBefore ((tokens ++ []).reverse ++ before) = .inner :=
    spells.joinKindBefore_reverse .none
  rwa [List.append_nil] at inner

theorem endsJoin_comma {comma : Token} (isComma : comma.isMark "," = true) (rest : List Token) :
    EndsJoin (comma :: rest) := by
  rintro _ ⟨⟩
  exact Token.endsCondition_iff.mpr (.inr isComma)

/-- Of an item behind a comma that does not go on with the list, only the joins are noted. -/
theorem SpellsItem.scanFrom_behind {comma : Token} (isComma : comma.isMark "," = true) {item : FlatItem}
    (spells : SpellsItem tokens item) (written : ∀ token ∈ tokens, token.text ≠ "")
    (ends : EndsJoin rest) {state : ScanState} {primary : TableReference}
    (isPrimary : state.primary = some primary) (noCtes : state.found.cteNames = []) (before : List Token) :
    ∃ joins behind, joins.map JoinClause.sides = item.joinsTo primary ∧
      scanFrom state before (comma :: (tokens ++ rest)) = scanFrom (state.addJoins joins) behind rest := by
  cases spells with
  | @intro relation tokens first joined spellsRelation spellsJoined =>
      have idle : ∀ token ∈ comma :: relation, token.IsIdle :=
        List.forall_mem_cons.mpr ⟨Token.isIdle_of_isMark isComma (by decide) (by decide), spellsRelation.idle⟩
      have writtenJoins : ∀ token ∈ tokens, token.text ≠ "" := fun token member =>
        written token (List.mem_append_right relation member)
      have inner : joinKindBefore (relation.reverse ++ ([comma] ++ before)) = .inner :=
        spellsRelation.joinKindBefore _
      obtain ⟨joins, behind, sides, scan⟩ :=
        spellsJoined.notesJoins writtenJoins ends first isPrimary noCtes inner
      refine ⟨joins, behind, by simpa using sides, ?_⟩
      rw [List.append_assoc, ← List.cons_append,
        scanFrom_skip idle (spellsJoined.endsJoin ends).endsIntroduction, List.reverse_cons,
        List.append_assoc, scan]

/-- Of items behind a comma that does not go on with the list, only the joins are noted. -/
theorem SpellsItems.scanFrom_behind {items : List FlatItem} (spells : SpellsItems tokens items)
    (written : ∀ token ∈ tokens, token.text ≠ "") (ends : EndsJoin rest) {comma : Token}
    (isComma : comma.isMark "," = true) {state : ScanState} {primary : TableReference}
    (isPrimary : state.primary = some primary) (noCtes : state.found.cteNames = []) (before : List Token) :
    ∃ joins behind, joins.map JoinClause.sides = items.flatMap (FlatItem.joinsTo primary) ∧
      scanFrom state before (comma :: (tokens ++ rest)) = scanFrom (state.addJoins joins) behind rest := by
  induction spells generalizing comma state before with
  | last spells =>
      rw [List.flatMap_singleton]
      exact spells.scanFrom_behind isComma written ends isPrimary noCtes before
  | @cons tokens more item items next spells isNext onward ih =>
      obtain ⟨writtenItem, writtenMore⟩ := List.forall_mem_append.mp written
      obtain ⟨joins, behind, sides, scan⟩ := spells.scanFrom_behind isComma writtenItem
        (endsJoin_comma isNext (more ++ rest)) isPrimary noCtes before
      have primaryBehind : (state.addJoins joins).primary = some primary := isPrimary
      obtain ⟨later, behindLater, sidesLater, scanLater⟩ :=
        ih (List.forall_mem_cons.mp writtenMore).2 isNext primaryBehind noCtes behind
      refine ⟨joins ++ later, behindLater, ?_, ?_⟩
      · rw [List.map_append, sides, sidesLater, List.flatMap_cons]
      · rw [List.append_assoc, List.cons_append, scan, scanLater, ScanState.addJoins_addJoins]

/-- The joins of an item are noted, and behind them those of the items behind a comma. -/
theorem SpellsJoined.notesJoins_append {more : List Token} {joined : List (JoinKind × TableReference)}
    {items : List FlatItem} {comma : Token} (spells : SpellsJoined tokens joined)
    (written : ∀ token ∈ tokens, token.text ≠ "") (onward : SpellsItems more items)
    (writtenMore : ∀ token ∈ more, token.text ≠ "") (isComma : comma.isMark "," = true)
    (ends : EndsJoin rest) (first : TableReference) :
    NotesJoins (tokens ++ comma :: more) rest (⟨first, joined⟩ :: items) := by
  intro state primary before isPrimary noCtes inner
  obtain ⟨joins, behind, sides, scan⟩ :=
    spells.notesJoins written (endsJoin_comma isComma (more ++ rest)) first isPrimary noCtes inner
  have primaryBehind : (state.addJoins joins).primary = some primary := isPrimary
  obtain ⟨later, behindLater, sidesLater, scanLater⟩ :=
    onward.scanFrom_behind writtenMore ends isComma primaryBehind noCtes behind
  refine ⟨joins ++ later, behindLater, ?_, ?_⟩
  · rw [List.map_append, sides, sidesLater, List.flatMap_singleton, List.flatMap_cons]
  · rw [List.append_assoc, List.cons_append, scan, scanLater, ScanState.addJoins_addJoins]

/-- A list is read up to the first item with joins. What is left are the joins of that item and the items
behind it, of which the scan notes the joins. -/
theorem SpellsItems.readRelations_append {items : List FlatItem} (spells : SpellsItems tokens items)
    (written : ∀ token ∈ tokens, token.text ≠ "")
    (boundary : ∀ token ∈ rest.head?, token.isAnyKeyword clauseBoundaries = true) :
    ∃ consumed left, tokens = consumed ++ left ∧
      readRelations [] (tokens ++ rest) = (leadingTables items, left ++ rest) ∧
      (∀ before, joinKindBefore (consumed.reverse ++ before) = .inner) ∧ NotesJoins left rest items := by
  have noComma (token : Token) (isBoundary : token.isAnyKeyword clauseBoundaries = true) :
      token.isMark "," = false := Token.isMark_of_isAnyKeyword isBoundary ","
  have ends : EndsJoin rest := endsJoin_of_boundary boundary
  induction spells with
  | @last tokens item spells =>
      cases spells with
      | @intro relation tokens first joined spellsRelation spellsJoined =>
          have noCommaBehind : ∀ token ∈ (tokens ++ rest).head?, token.isMark "," = false :=
            spellsJoined.forall_head noComma fun token isFirst => noComma token (boundary token isFirst)
          have read := spellsRelation.readRelations_append (spellsJoined.endsJoin ends).endsRelation
            noCommaBehind
          refine ⟨relation, tokens, rfl, ?_, spellsRelation.joinKindBefore, ?_⟩
          · rw [List.append_assoc, read]
            simp [leadingTables]
          · exact spellsJoined.notesJoins (List.forall_mem_append.mp written).2 ends first
  | @cons tokens more item items comma spells isComma onward ih =>
      obtain ⟨writtenItem, writtenBehind⟩ := List.forall_mem_append.mp written
      have writtenMore := (List.forall_mem_cons.mp writtenBehind).2
      cases spells with
      | @intro relation tokens first joined spellsRelation spellsJoined =>
          by_cases alone : joined = []
          · -- The comma goes on with the list.
            obtain ⟨consumed, left, shape, read, inner, notes⟩ := ih writtenMore
            have found := spellsRelation.readRelation_append
              (endsJoin_comma isComma (more ++ rest)).endsRelation
            subst alone
            cases spellsJoined
            refine ⟨relation ++ comma :: consumed, left, by simp [shape], ?_, ?_, notes⟩
            · rw [List.append_nil, List.append_assoc, List.cons_append, readRelations_of_some found,
                if_pos isComma, read]
              rfl
            · intro before
              simpa using inner (comma :: (relation.reverse ++ before))
          · -- The list ends at the joins, and the scan does not come back to it at the comma.
            have boundaryJoins : ∀ token ∈ (tokens ++ comma :: (more ++ rest)).head?,
                token.isAnyKeyword clauseBoundaries = true := spellsJoined.boundary alone
            have read := spellsRelation.readRelations_append
              (endsJoin_of_boundary boundaryJoins).endsRelation
              fun token isFirst => noComma token (boundaryJoins token isFirst)
            refine ⟨relation, tokens ++ comma :: more, by simp, ?_, spellsRelation.joinKindBefore, ?_⟩
            · have shape : relation ++ tokens ++ comma :: more ++ rest =
                  relation ++ (tokens ++ comma :: (more ++ rest)) := by simp
              rw [shape, read]
              simp [leadingTables, alone]
            · exact spellsJoined.notesJoins_append (List.forall_mem_append.mp writtenItem).2 onward
                writtenMore isComma ends first

end Lists

/-! ### The scan of a query -/

theorem SpellsItems.ne_nil {tokens : List Token} {items : List FlatItem} (spells : SpellsItems tokens items) :
    items ≠ [] := by
  cases spells with
  | last => exact List.cons_ne_nil _ _
  | cons => exact List.cons_ne_nil _ _

theorem SpellsBranch.ne_nil {tokens : List Token} {items : List FlatItem}
    (spells : SpellsBranch tokens items) : items ≠ [] := by
  cases spells with
  | intro isSelect isStar isFrom spells => exact spells.ne_nil

theorem head?_leadingTables (items : List FlatItem) :
    (leadingTables items).head? = items.head?.map FlatItem.first := by
  cases items with
  | nil => rfl
  | cons item rest => rfl

/-- Joins to one relation are told apart from it by what is joined. -/
theorem map_right_eq {joins : List JoinClause} {left : TableReference} {items : List FlatItem}
    (sides : joins.map JoinClause.sides = items.flatMap (FlatItem.joinsTo left)) :
    joins.map JoinClause.right = items.flatMap FlatItem.others := by
  have same : ∀ item : FlatItem, (item.joinsTo left).map (fun side => side.2.1) = item.others := by
    intro item
    simp [FlatItem.joinsTo, FlatItem.others]
  have rights := congrArg (List.map fun side => side.2.1) sides
  rw [List.map_map, List.map_flatMap] at rights
  simp only [same] at rights
  exact rights

/-- What a scan behind these branches has noted of them, with the relation that is on the left of each
join. -/
structure ScanState.Notes (left : TableReference) (branches : List (List FlatItem))
    (state later : ScanState) : Prop where
  primary : later.primary = some left
  cteNames : later.found.cteNames = state.found.cteNames
  tables : later.found.tables = state.found.tables ++ branches.flatMap scannedTables
  joins : later.found.joins.map JoinClause.sides =
    state.found.joins.map JoinClause.sides ++ branches.flatten.flatMap (FlatItem.joinsTo left)

theorem ScanState.Notes.append {left : TableReference} {branches more : List (List FlatItem)}
    {state later last : ScanState} (first : Notes left branches state later)
    (second : Notes left more later last) : Notes left (branches ++ more) state last where
  primary := second.primary
  cteNames := second.cteNames.trans first.cteNames
  tables := by rw [second.tables, first.tables, List.flatMap_append, List.append_assoc]
  joins := by
    rw [second.joins, first.joins, List.flatten_append, List.flatMap_append, List.append_assoc]

section Branches

variable {lead tokens rest : List Token} {state : ScanState} {left : TableReference}

/-- A list is noted. The relation on the left of its joins is the primary one of the scope, which is the first
one of the list unless there was one before. -/
theorem SpellsItems.scanFrom_from {items : List FlatItem} {word : Token}
    (isFrom : word.isKeyword "FROM" = true) (spells : SpellsItems tokens items)
    (written : ∀ token ∈ tokens, token.text ≠ "")
    (boundary : ∀ token ∈ rest.head?, token.isAnyKeyword clauseBoundaries = true)
    (isLeft : state.primary.or (items.head?.map FlatItem.first) = some left)
    (noCtes : state.found.cteNames = []) (before : List Token) :
    ∃ later behind, state.Notes left [items] later ∧
      scanFrom state before (word :: (tokens ++ rest)) = scanFrom later behind rest := by
  obtain ⟨consumed, remaining, rfl, read, inner, notes⟩ := spells.readRelations_append written boundary
  have primary : (state.addTables (leadingTables items)).primary = some left := by
    rw [← isLeft, ← head?_leadingTables]
    rfl
  obtain ⟨joins, behind, sides, scan⟩ := notes primary noCtes (inner (word :: before))
  refine ⟨(state.addTables (leadingTables items)).addJoins joins, behind, ⟨primary, rfl, ?_, ?_⟩, ?_⟩
  · simp [ScanState.addJoins, ScanState.addTables, map_right_eq sides, scannedTables]
  · simp [ScanState.addJoins, ScanState.addTables, sides]
  · have noCte := @not_introducesCte_of_not_isName before (consumed ++ remaining ++ rest) word
      (Token.isName_of_isKeyword isFrom)
    have between : readBetween (word :: (consumed ++ remaining ++ rest)) (remaining ++ rest) =
        (word :: consumed).reverse := by
      rw [List.append_assoc, ← List.cons_append, readBetween_append]
    rw [Script.scanFrom_from (Token.isPlain_of_isKeyword isFrom) noCte isFrom, noCtes, read, between,
      List.reverse_cons, List.append_assoc, List.singleton_append, scan]

/-- A query is noted, with what is passed over in front of it. -/
theorem SpellsBranch.scanFrom_append {items : List FlatItem} (spells : SpellsBranch tokens items)
    (idle : ∀ token ∈ lead, token.IsIdle)
    (written : ∀ token ∈ tokens, token.text ≠ "")
    (boundary : ∀ token ∈ rest.head?, token.isAnyKeyword clauseBoundaries = true)
    (isLeft : state.primary.or (items.head?.map FlatItem.first) = some left)
    (noCtes : state.found.cteNames = []) (before : List Token) :
    ∃ later behind, state.Notes left [items] later ∧
      scanFrom state before (lead ++ (tokens ++ rest)) = scanFrom later behind rest := by
  cases spells with
  | @intro select star word tokens items isSelect isStar isFrom spells =>
      have ofStar : star.IsIdle :=
        ⟨Token.isPlain_of_kind (by simp [isStar]), Token.isAnyKeyword_of_kind (by simp [isStar]) _⟩
      have skipped : ∀ token ∈ lead ++ [select, star], token.IsIdle :=
        List.forall_mem_append.mpr ⟨idle, by simpa using ⟨Token.isIdle_of_isKeyword isSelect rfl, ofStar⟩⟩
      have writtenItems : ∀ token ∈ tokens, token.text ≠ "" := fun token member =>
        written token (by simp [member])
      obtain ⟨later, behind, notes, scan⟩ := spells.scanFrom_from isFrom writtenItems boundary isLeft noCtes
        ((lead ++ [select, star]).reverse ++ before)
      refine ⟨later, behind, notes, ?_⟩
      have shape : lead ++ (select :: star :: word :: tokens ++ rest) =
          lead ++ [select, star] ++ word :: (tokens ++ rest) := by simp
      rw [shape, scanFrom_skip skipped (endsIntroduction_of_isKeyword isFrom rfl _), scan]

/-- The words between two queries are passed over. -/
theorem SpellsOneOf.idle_union {words : List Token} (isUnion : SpellsOneOf unionPhrases words) :
    ∀ token ∈ words, token.IsIdle := by
  obtain ⟨phrase, listed, spells⟩ := isUnion
  have known : ∀ phrase ∈ unionPhrases, phrase ⊆ ["UNION", "ALL"] := by decide
  intro token member
  exact Token.isIdle_of_isAnyKeyword (spells.isAnyKeyword (known phrase listed) token member) (by decide)

/-- The words between two queries end the first one. -/
theorem SpellsOneOf.boundary_union {words : List Token} (isUnion : SpellsOneOf unionPhrases words) :
    ∀ token ∈ (words ++ rest).head?, token.isAnyKeyword clauseBoundaries = true := by
  obtain ⟨phrase, listed, spells⟩ := isUnion
  have known : ∀ phrase ∈ unionPhrases, ∃ more, phrase = "UNION" :: more := by
    simp [unionPhrases]
  obtain ⟨more, rfl⟩ := known phrase listed
  obtain ⟨union, others, isWord, _, rfl⟩ := spellsWords_cons.mp spells
  rintro _ ⟨⟩
  exact Token.isAnyKeyword_of_mem isWord (by decide)

/-- All queries are noted. -/
theorem SpellsBranches.scanFrom_append {branches : List (List FlatItem)}
    (spells : SpellsBranches tokens branches)
    (idle : ∀ token ∈ lead, token.IsIdle)
    (written : ∀ token ∈ tokens, token.text ≠ "")
    (isLeft : state.primary.or (branches.flatten.head?.map FlatItem.first) = some left)
    (noCtes : state.found.cteNames = []) (before : List Token) :
    state.Notes left branches (scanFrom state before (lead ++ tokens)) := by
  induction spells generalizing lead state before with
  | @last tokens items spells =>
      rw [List.flatten_singleton] at isLeft
      have atEnd : ∀ token ∈ ([] : List Token).head?, token.isAnyKeyword clauseBoundaries = true := by simp
      obtain ⟨later, behind, notes, scan⟩ :=
        spells.scanFrom_append idle written atEnd isLeft noCtes before
      rw [List.append_nil, scanFrom_nil] at scan
      rwa [scan]
  | @union tokens words more items branches spells isUnion onward ih =>
      obtain ⟨writtenFirst, writtenBehind⟩ := List.forall_mem_append.mp written
      obtain ⟨item, others, rfl⟩ := List.exists_cons_of_ne_nil spells.ne_nil
      obtain ⟨later, behind, notes, scan⟩ := spells.scanFrom_append idle writtenFirst
        isUnion.boundary_union isLeft noCtes before
      have onLeft : later.primary.or (branches.flatten.head?.map FlatItem.first) = some left := by
        rw [notes.primary]
        rfl
      have notesMore := ih isUnion.idle_union (List.forall_mem_append.mp writtenBehind).2 onLeft
        (notes.cteNames.trans noCtes) behind
      rw [scan]
      exact notes.append notesMore

end Branches

theorem SpellsBranches.exists_first {tokens : List Token} {branches : List (List FlatItem)}
    (spells : SpellsBranches tokens branches) : ∃ item, branches.flatten.head? = some item := by
  have ofBranch {tokens : List Token} {items : List FlatItem} (spells : SpellsBranch tokens items)
      (more : List (List FlatItem)) : ∃ item, (items :: more).flatten.head? = some item := by
    obtain ⟨item, others, rfl⟩ := List.exists_cons_of_ne_nil spells.ne_nil
    exact ⟨item, rfl⟩
  cases spells with
  | last spells => exact ofBranch spells []
  | union spells isUnion onward => exact ofBranch spells _

/-- Of queries combined by `UNION` the scan finds the relations of the first items of each list and those that
are joined, and each join as one with the first relation of the statement. -/
theorem scanRelations_of_branches {tokens : List Token} {branches : List (List FlatItem)} {item : FlatItem}
    (spells : SpellsBranches tokens branches) (written : ∀ token ∈ tokens, token.text ≠ "")
    (isFirst : branches.flatten.head? = some item) :
    (scanRelations tokens).tables = branches.flatMap scannedTables ∧
      (scanRelations tokens).joins.map JoinClause.sides =
        branches.flatten.flatMap (FlatItem.joinsTo item.first) := by
  have isLeft : ({} : ScanState).primary.or (branches.flatten.head?.map FlatItem.first) =
      some item.first := by
    rw [isFirst]
    rfl
  have notes := spells.scanFrom_append (List.forall_mem_nil _) written isLeft rfl []
  exact ⟨notes.tables, notes.joins⟩

/-! ### What the scan misses -/

theorem length_flatMap_le {α β : Type} {f g : α → List β} {members : List α}
    (noLonger : ∀ a ∈ members, (f a).length ≤ (g a).length) :
    (members.flatMap f).length ≤ (members.flatMap g).length := by
  induction members with
  | nil => exact Nat.le_refl _
  | cons a rest ih =>
      obtain ⟨first, later⟩ := List.forall_mem_cons.mp noLonger
      have behind := ih later
      rw [List.flatMap_cons, List.flatMap_cons, List.length_append, List.length_append]
      omega

/-- What is made of each member, and no longer than something else, is the same as that all in all only if
it is so for each. -/
theorem flatMap_eq_flatMap_iff {α β : Type} {f g : α → List β} {members : List α}
    (noLonger : ∀ a ∈ members, (f a).length ≤ (g a).length) :
    members.flatMap f = members.flatMap g ↔ ∀ a ∈ members, f a = g a := by
  induction members with
  | nil => simp
  | cons a rest ih =>
      obtain ⟨first, later⟩ := List.forall_mem_cons.mp noLonger
      have behind := length_flatMap_le later
      rw [List.flatMap_cons, List.flatMap_cons, List.forall_mem_cons, ← ih later]
      constructor
      · intro same
        have lengths := congrArg List.length same
        rw [List.length_append, List.length_append] at lengths
        exact List.append_inj same (by omega)
      · rintro ⟨sameFirst, sameRest⟩
        rw [sameFirst, sameRest]

section Misses

variable {item : FlatItem} (rest : List FlatItem)

theorem scannedTables_cons_of_alone (alone : item.joined = []) :
    scannedTables (item :: rest) = item.first :: scannedTables rest := by
  simp [scannedTables, leadingTables, FlatItem.others, alone]

theorem scannedTables_cons_of_joined (someJoins : item.joined ≠ []) :
    scannedTables (item :: rest) = item.tables ++ rest.flatMap FlatItem.others := by
  simp [scannedTables, leadingTables, FlatItem.tables, someJoins]

theorem length_others_le (item : FlatItem) : item.others.length ≤ item.tables.length := by
  simp [FlatItem.tables]

theorem listedTables_cons : listedTables (item :: rest) = item.tables ++ listedTables rest :=
  List.flatMap_cons

/-- The scan finds all relations of a list just if no item but the last one has joins. -/
theorem scannedTables_eq_iff (items : List FlatItem) :
    scannedTables items = listedTables items ↔ ∀ item ∈ items.dropLast, item.joined = [] := by
  induction items with
  | nil => simp [scannedTables, leadingTables, listedTables]
  | cons item rest ih =>
      rw [listedTables_cons]
      by_cases alone : item.joined = []
      · rw [scannedTables_cons_of_alone rest alone, FlatItem.tables, FlatItem.others, alone, List.map_nil,
          List.singleton_append, List.cons_inj_right, ih]
        cases rest with
        | nil => simp
        | cons next more => rw [List.dropLast_cons_cons, List.forall_mem_cons, and_iff_right alone]
      · rw [scannedTables_cons_of_joined rest alone, List.append_cancel_left_eq, listedTables,
          flatMap_eq_flatMap_iff fun later _ => length_others_le later]
        cases rest with
        | nil => simp
        | cons next more =>
            -- The next item is lost, and the claim that this one has no joins fails too.
            have lost : next.others ≠ next.tables := (List.cons_ne_self next.first next.others).symm
            rw [List.dropLast_cons_cons, List.forall_mem_cons, List.forall_mem_cons]
            exact iff_of_false (fun same => lost same.1) fun none => alone none.1

theorem length_scannedTables_le (items : List FlatItem) :
    (scannedTables items).length ≤ (listedTables items).length := by
  induction items with
  | nil => exact Nat.le_refl _
  | cons item rest ih =>
      by_cases alone : item.joined = []
      · rw [scannedTables_cons_of_alone rest alone, listedTables_cons, FlatItem.tables]
        simp only [List.length_cons, List.length_append]
        omega
      · have behind : (rest.flatMap FlatItem.others).length ≤ (listedTables rest).length :=
          length_flatMap_le fun later _ => length_others_le later
        rw [scannedTables_cons_of_joined rest alone, listedTables_cons, List.length_append,
          List.length_append]
        omega

/-- The scan finds all relations of all lists just if no item with joins stands in front of another one. -/
theorem flatMap_scannedTables_eq_iff (branches : List (List FlatItem)) :
    branches.flatMap scannedTables = listedTables branches.flatten ↔
      ∀ items ∈ branches, ∀ item ∈ items.dropLast, item.joined = [] := by
  have perList : listedTables branches.flatten = branches.flatMap listedTables := by
    rw [listedTables, ← List.flatMap_id, List.flatMap_assoc]
    rfl
  rw [perList, flatMap_eq_flatMap_iff fun items _ => length_scannedTables_le items]
  exact forall₂_congr fun items _ => scannedTables_eq_iff items

/-- The joins of a list are the joins to one relation just if each item that has some starts with it. -/
theorem joinsTo_eq_iff (left : TableReference) (items : List FlatItem) :
    items.flatMap (FlatItem.joinsTo left) = listedJoins items ↔
      ∀ item ∈ items, item.joined ≠ [] → item.first = left := by
  have sameLength : ∀ item ∈ items, (item.joinsTo left).length ≤ (item.joinsTo item.first).length := by
    intro item _
    simp [FlatItem.joinsTo]
  rw [listedJoins, flatMap_eq_flatMap_iff sameLength]
  refine forall₂_congr fun item _ => ?_
  cases joined : item.joined with
  | nil => simp [FlatItem.joinsTo, joined]
  | cons join more =>
      constructor
      · intro same _
        rw [FlatItem.joinsTo, FlatItem.joinsTo, joined, List.map_cons, List.map_cons] at same
        exact (congrArg Prod.fst (List.cons.inj same).1).symm
      · intro same
        rw [same (List.cons_ne_nil join more)]

end Misses

end Script

end SqlLineage
