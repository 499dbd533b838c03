/-
Module: SqlLineage.Proofs.Script.JoinScan
Purpose: Queries that join relations one after another, told by their grammar, and that the scan of such a
  query finds each of the relations and each of the joins.
Main exports: SpellsRelation, SpellsKind, SpellsCondition, SpellsJoins, JoinsInChain,
  SpellsJoins.scanFrom_append, relations_of_joinsInChain
-/
import SqlLineage.Proofs.Script.Coverage
import SqlLineage.Proofs.Script.Groups
import SqlLineage.Proofs.Script.Phrases
import SqlLineage.Proofs.Script.Readers

namespace SqlLineage.Script

open Lineage (TableReference JoinKind JoinClause)

/-! ### The grammar -/

/-- The tokens of a relation: a dotted name, perhaps with another name for it. -/
inductive SpellsRelation : List Token → TableReference → Prop where
  | bare {tokens : List Token} {names : List String} (spells : SpellsName tokens names) :
      SpellsRelation tokens (.named (Text.joinWith "." names) none false)
  | aliased {tokens : List Token} {names : List String} {other : Token} (spells : SpellsName tokens names)
      (isName : other.isName = true) :
      SpellsRelation (tokens ++ [other]) (.named (Text.joinWith "." names) (some other.unquoted) false)
  | aliasedAs {tokens : List Token} {names : List String} {word other : Token}
      (spells : SpellsName tokens names) (isAs : word.isKeyword "AS" = true)
      (isName : other.isName = true) :
      SpellsRelation (tokens ++ [word, other])
        (.named (Text.joinWith "." names) (some other.unquoted) false)

/-- The words in front of `JOIN`, and the kind of join they tell. -/
def joinPhrases : List (List String × JoinKind) := [
  ([], .inner), (["INNER"], .inner), (["LEFT"], .left), (["LEFT", "OUTER"], .left),
  (["RIGHT"], .right), (["RIGHT", "OUTER"], .right), (["FULL"], .full), (["FULL", "OUTER"], .full),
  (["CROSS"], .cross)]

/-- The words of these phrases. -/
def kindWords : List String := ["NATURAL", "INNER", "LEFT", "OUTER", "RIGHT", "FULL", "CROSS"]

/-- Whether tokens tell a kind of join. The word `NATURAL` may stand in front and tells nothing. -/
def SpellsKind (tokens : List Token) (kind : JoinKind) : Prop :=
  ∃ words, (words, kind) ∈ joinPhrases ∧
    (SpellsWords words tokens ∨ SpellsWords ("NATURAL" :: words) tokens)

/-- Whether a token may stand in a join condition outside all parentheses. -/
structure Token.MayCompare (token : Token) : Prop where
  noBoundary : token.isAnyKeyword clauseBoundaries = false
  noComma : token.isMark "," = false
  noOuter : token.isKeyword "OUTER" = false

theorem Token.MayCompare.isAnyKeyword {token : Token} (may : token.MayCompare) :
    token.isAnyKeyword kindWords = false := by
  have boundary := may.noBoundary
  simp only [Token.isAnyKeyword, clauseBoundaries, List.any_cons, Bool.or_eq_false_iff] at boundary
  simp [Token.isAnyKeyword, kindWords, boundary, may.noOuter]

/-- The tokens behind a joined relation, and the text of the condition: what stands behind `ON`, or the
whole clause with `USING`. -/
inductive SpellsCondition : List Token → Option String → Prop where
  | none : SpellsCondition [] none
  | on {word : Token} {tokens : List Token} (isOn : word.isKeyword "ON" = true) (nonempty : tokens ≠ [])
      (balanced : Balanced Token.MayCompare tokens) : SpellsCondition (word :: tokens) (some (render tokens))
  | shared {word opening closing : Token} {inner : List Token} (isUsing : word.isKeyword "USING" = true)
      (opens : opening.isMark "(" = true) (inside : Balanced (fun _ => True) inner)
      (closes : closing.isMark ")" = true) :
      SpellsCondition (word :: opening :: (inner ++ [closing]))
        (some (render (word :: opening :: (inner ++ [closing]))))

/-- The tokens of joins one after another, and the joins, each with the same relation on the left. -/
inductive SpellsJoins (left : TableReference) : List Token → List JoinClause → Prop where
  | nil : SpellsJoins left [] []
  | cons {kinds relation condition tokens : List Token} {join : Token} {kind : JoinKind}
      {right : TableReference} {text : Option String} {joins : List JoinClause}
      (spellsKind : SpellsKind kinds kind) (isJoin : join.isKeyword "JOIN" = true)
      (spellsRelation : SpellsRelation relation right) (spellsCondition : SpellsCondition condition text)
      (onward : SpellsJoins left tokens joins) :
      SpellsJoins left (kinds ++ join :: (relation ++ (condition ++ tokens)))
        ({ left, right, kind, condition := text } :: joins)

/-- Whether tokens may stand behind the relations of a query, without relations of their own. -/
structure IsTail (tokens : List Token) : Prop where
  starts : ∀ token ∈ tokens.head?,
    token.isAnyKeyword ["WHERE", "GROUP", "HAVING", "ORDER", "LIMIT"] = true
  idle : ∀ token ∈ tokens, token.isAnyKeyword ["FROM", "JOIN", "AS"] = false

/-- The tokens of a query that joins relations one after another: the first relation, and the joins. -/
inductive JoinsInChain : List Token → TableReference → List JoinClause → Prop where
  | intro {select word : Token} {list relation chain tail : List Token} {first : TableReference}
      {joins : List JoinClause} (isSelect : select.isKeyword "SELECT" = true)
      (idle : ∀ token ∈ list, token.IsPlain ∧ token.isAnyKeyword ["FROM", "JOIN"] = false)
      (isFrom : word.isKeyword "FROM" = true) (spellsRelation : SpellsRelation relation first)
      (spellsJoins : SpellsJoins first chain joins) (isTail : IsTail tail) :
      JoinsInChain (select :: (list ++ word :: (relation ++ (chain ++ tail)))) first joins

/-! ### What may stand behind a phrase -/

/-- Whether a token ends a relation that stands in front of it: it is neither another name for the relation
nor a dot in its name. -/
structure Token.EndsRelation (token : Token) : Prop where
  noName : token.isName = false
  noAs : token.isKeyword "AS" = false
  noDot : token.isMark "." = false

theorem Token.endsRelation_of_isKeyword {token : Token} {word : String} (isWord : token.isKeyword word = true)
    (noAs : Text.sameIgnoringCase word "AS" = false) : token.EndsRelation where
  noName := Token.isName_of_isKeyword isWord
  noAs := (Token.isKeyword_eq_of_isKeyword isWord "AS").trans noAs
  noDot := Token.isMark_of_isKeyword isWord "."

/-- What ends a condition is a keyword that starts another clause, or a comma. -/
theorem Token.endsCondition_iff {token : Token} : token.endsCondition = true ↔
    token.isAnyKeyword clauseBoundaries = true ∨ token.isMark "," = true := by
  rw [endsCondition, Bool.or_eq_true]

theorem Token.isKeyword_of_endsCondition {token : Token} (ends : token.endsCondition = true) (other : String)
    (apart : ∀ word ∈ clauseBoundaries, Text.sameIgnoringCase word other = false) :
    token.isKeyword other = false := by
  rcases endsCondition_iff.mp ends with boundary | isComma
  · exact isKeyword_of_isAnyKeyword boundary apart
  · exact isKeyword_of_kind (by simp [kind_of_isMark isComma]) other

theorem Token.endsRelation_of_endsCondition {token : Token} (ends : token.endsCondition = true) :
    token.EndsRelation := by
  have noAs := isKeyword_of_endsCondition ends "AS" (by decide)
  rcases endsCondition_iff.mp ends with boundary | isComma
  · obtain ⟨word, _, isWord⟩ := exists_of_isAnyKeyword boundary
    exact ⟨isName_of_isKeyword isWord, noAs, isMark_of_isKeyword isWord "."⟩
  · exact ⟨by simp [isName, kind_of_isMark isComma], noAs, isMark_eq_of_isMark isComma "."⟩

theorem Token.isPlain_of_endsCondition {token : Token} (ends : token.endsCondition = true) :
    token.IsPlain := by
  rcases endsCondition_iff.mp ends with boundary | isComma
  · exact isPlain_of_isAnyKeyword boundary
  · simp [IsPlain, isMark_eq_of_isMark isComma]

/-- Whether a scan passes over a token that does not introduce a common table expression. -/
def Token.IsIdle (token : Token) : Prop :=
  token.IsPlain ∧ token.isAnyKeyword ["FROM", "JOIN"] = false

theorem Token.isIdle_of_isKeyword {token : Token} {word : String} (isWord : token.isKeyword word = true)
    (other : ["FROM", "JOIN"].any (Text.sameIgnoringCase word) = false) : token.IsIdle :=
  ⟨isPlain_of_isKeyword isWord, (isAnyKeyword_eq_of_isKeyword isWord _).trans other⟩

theorem Token.isIdle_of_isAnyKeyword {token : Token} {words : List String}
    (isAny : token.isAnyKeyword words = true)
    (others : ∀ word ∈ words, ["FROM", "JOIN"].any (Text.sameIgnoringCase word) = false) : token.IsIdle :=
  ⟨isPlain_of_isAnyKeyword isAny, isAnyKeyword_of_apart isAny others⟩

/-- Whether tokens do not go on with the introduction of a common table expression whose name stands in
front of them. -/
def EndsIntroduction (rest : List Token) : Prop :=
  ∀ token ∈ rest.head?, token.IsPlain ∧ token.isKeyword "AS" = false

theorem endsIntroduction_of_isKeyword {token : Token} {word : String} (isWord : token.isKeyword word = true)
    (noAs : Text.sameIgnoringCase word "AS" = false) (rest : List Token) :
    EndsIntroduction (token :: rest) := by
  rintro _ ⟨⟩
  exact ⟨Token.isPlain_of_isKeyword isWord, (Token.isKeyword_eq_of_isKeyword isWord "AS").trans noAs⟩

/-- Whether tokens do not go on with a relation that stands in front of them. -/
def EndsRelation (rest : List Token) : Prop := ∀ token ∈ rest.head?, token.EndsRelation

/-- Whether tokens do not go on with a join that stands in front of them. -/
def EndsJoin (rest : List Token) : Prop := ∀ token ∈ rest.head?, token.endsCondition = true

theorem EndsJoin.endsRelation {rest : List Token} (ends : EndsJoin rest) : EndsRelation rest :=
  fun token isFirst => Token.endsRelation_of_endsCondition (ends token isFirst)

theorem EndsJoin.endsIntroduction {rest : List Token} (ends : EndsJoin rest) : EndsIntroduction rest :=
  fun token isFirst => ⟨Token.isPlain_of_endsCondition (ends token isFirst),
    Token.isKeyword_of_endsCondition (ends token isFirst) "AS" (by decide)⟩

theorem endsJoin_of_boundary {rest : List Token}
    (head : ∀ token ∈ rest.head?, token.isAnyKeyword clauseBoundaries = true) : EndsJoin rest :=
  fun token isFirst => Token.endsCondition_iff.mpr (.inl (head token isFirst))

theorem IsTail.boundary {tokens : List Token} (tail : IsTail tokens) :
    ∀ token ∈ tokens.head?, token.isAnyKeyword clauseBoundaries = true :=
  fun token isFirst => Token.isAnyKeyword_of_subset (tail.starts token isFirst) (by decide)

namespace SpellsKind

variable {tokens rest : List Token} {kind : JoinKind}

theorem isAnyKeyword (spells : SpellsKind tokens kind) :
    ∀ token ∈ tokens, token.isAnyKeyword kindWords = true := by
  obtain ⟨words, listed, spells⟩ := spells
  have known : ∀ phrase ∈ joinPhrases, "NATURAL" :: phrase.1 ⊆ kindWords := by decide
  have among := known _ listed
  rcases spells with spells | spells
  · exact spells.isAnyKeyword fun word member => among (List.mem_cons_of_mem "NATURAL" member)
  · exact spells.isAnyKeyword among

theorem idle (spells : SpellsKind tokens kind) : ∀ token ∈ tokens, token.IsIdle :=
  fun token member => Token.isIdle_of_isAnyKeyword (spells.isAnyKeyword token member) (by decide)

/-- What holds of the words that start a clause, and of the head of what stands behind the words for a kind
of join, holds of the head of both. -/
theorem forall_head {P : Token → Prop} (spells : SpellsKind tokens kind)
    (ofBoundary : ∀ token, token.isAnyKeyword clauseBoundaries = true → P token)
    (behind : ∀ token ∈ rest.head?, P token) : ∀ token ∈ (tokens ++ rest).head?, P token := by
  obtain ⟨words, listed, spells⟩ := spells
  have known : ∀ phrase ∈ joinPhrases, phrase.1.head? ∈ none :: clauseBoundaries.map some := by decide
  have boundary := known _ listed
  rcases spells with spells | spells
  · cases spells with
    | nil => exact behind
    | @cons word token words tokens isWord onward =>
        rintro _ ⟨⟩
        have isBoundary : word ∈ clauseBoundaries := by simpa using boundary
        exact ofBoundary token (Token.isAnyKeyword_of_mem isWord isBoundary)
  · obtain ⟨natural, more, isNatural, _, rfl⟩ := spellsWords_cons.mp spells
    rintro _ ⟨⟩
    exact ofBoundary natural (Token.isAnyKeyword_of_mem isNatural (by decide))

end SpellsKind

theorem SpellsCondition.endsRelation {tokens rest : List Token} {text : Option String}
    (spells : SpellsCondition tokens text) (ends : EndsJoin rest) : EndsRelation (tokens ++ rest) := by
  cases spells with
  | none => exact ends.endsRelation
  | on isOn nonempty balanced =>
      rintro _ ⟨⟩
      exact Token.endsRelation_of_isKeyword isOn rfl
  | shared isUsing opens inside closes =>
      rintro _ ⟨⟩
      exact Token.endsRelation_of_isKeyword isUsing rfl

section Heads

variable {left : TableReference} {tokens rest : List Token} {joins : List JoinClause}
  (spells : SpellsJoins left tokens joins)

include spells

/-- What holds of the words that start a clause, and of the head of what stands behind joins, holds of the
head of both. -/
theorem SpellsJoins.forall_head {P : Token → Prop}
    (ofBoundary : ∀ token, token.isAnyKeyword clauseBoundaries = true → P token)
    (behind : ∀ token ∈ rest.head?, P token) : ∀ token ∈ (tokens ++ rest).head?, P token := by
  cases spells with
  | nil => exact behind
  | @cons _ _ _ _ join _ _ _ _ spellsKind isJoin spellsRelation spellsCondition onward =>
      rw [List.append_assoc, List.cons_append]
      refine spellsKind.forall_head ofBoundary ?_
      rintro _ ⟨⟩
      exact ofBoundary join (Token.isAnyKeyword_of_mem isJoin (by decide))

/-- A join may stand behind another one. -/
theorem SpellsJoins.endsJoin (ends : EndsJoin rest) : EndsJoin (tokens ++ rest) :=
  spells.forall_head (fun _ boundary => Token.endsCondition_iff.mpr (.inl boundary)) ends

end Heads

/-! ### Relations -/

namespace EndsRelation

variable {rest : List Token}

theorem endsName (ends : EndsRelation rest) : EndsName rest :=
  endsName_of_head fun token isFirst => (ends token isFirst).noDot

theorem readAlias (ends : EndsRelation rest) : readAlias rest = (none, rest) := by
  cases rest with
  | nil => rfl
  | cons token rest =>
      obtain ⟨noName, noAs, _⟩ := ends token rfl
      rw [Script.readAlias, skipKeyword_of_not noAs]
      simp [noName]

end EndsRelation

theorem readAlias_of_isName {token : Token} (isName : token.isName = true) (rest : List Token) :
    readAlias (token :: rest) = (some token.unquoted, rest) := by
  rw [readAlias, skipKeyword_of_not (Token.isKeyword_of_isName isName "AS")]
  simp [isName]

theorem readAlias_of_isKeyword {word : Token} (isAs : word.isKeyword "AS" = true) {token : Token}
    (isName : token.isName = true) (rest : List Token) :
    readAlias (word :: token :: rest) = (some token.unquoted, rest) := by
  rw [readAlias, skipKeyword_of_isKeyword isAs]
  simp [isName]

/-- Where a name ends, what the tokens behind it tell of another name is read. -/
theorem SpellsName.readRelation_append {tokens rest more : List Token} {names : List String}
    {other : Option String} (spells : SpellsName tokens names) (ends : EndsName rest)
    (aliased : readAlias rest = (other, more)) :
    readRelation [] (tokens ++ rest) =
      some (.named (Text.joinWith "." names) other false, more) := by
  rw [readRelation, spells.readObjectName_append ends]
  simp [aliased]

namespace SpellsRelation

variable {tokens rest : List Token} {table : TableReference}

/-- A relation is read up to where it ends. -/
theorem readRelation_append (spells : SpellsRelation tokens table) (ends : EndsRelation rest) :
    readRelation [] (tokens ++ rest) = some (table, rest) := by
  cases spells with
  | bare spells => exact spells.readRelation_append ends.endsName ends.readAlias
  | @aliased _ _ other spells isName =>
      have endsName : EndsName (other :: rest) := endsName_of_head (by
        rintro _ ⟨⟩
        exact Token.isMark_of_isName isName ".")
      rw [List.append_assoc]
      exact spells.readRelation_append endsName (readAlias_of_isName isName rest)
  | @aliasedAs _ _ word other spells isAs isName =>
      have endsName : EndsName (word :: other :: rest) := endsName_of_head (by
        rintro _ ⟨⟩
        exact Token.isMark_of_isKeyword isAs ".")
      rw [List.append_assoc]
      exact spells.readRelation_append endsName (readAlias_of_isKeyword isAs isName rest)

/-- A relation without a comma behind it is a list of its own. -/
theorem readRelations_append (spells : SpellsRelation tokens table) (ends : EndsRelation rest)
    (noComma : ∀ token ∈ rest.head?, token.isMark "," = false) :
    readRelations [] (tokens ++ rest) = ([table], rest) := by
  have found := spells.readRelation_append ends
  cases rest with
  | nil => exact readRelations_of_end found
  | cons token rest =>
      rw [readRelations_of_some found, noComma token rfl]
      rfl

theorem exists_last (spells : SpellsRelation tokens table) :
    ∃ front final, tokens = front ++ [final] ∧ final.isName = true := by
  cases spells with
  | bare spells => exact spells.exists_last
  | @aliased tokens names other spells isName => exact ⟨tokens, other, rfl, isName⟩
  | @aliasedAs tokens names word other spells isAs isName =>
      exact ⟨tokens ++ [word], other, by simp, isName⟩

end SpellsRelation

/-! ### Conditions -/

theorem EndsJoin.readCondition {rest : List Token} (ends : EndsJoin rest) :
    readCondition 0 rest = ([], rest) := by
  cases rest with
  | nil => rfl
  | cons token rest =>
      exact readCondition_end (Token.isPlain_of_endsCondition (ends token rfl)) (ends token rfl)

/-- Tokens with a text of their own are a condition. -/
theorem conditionText_eq {tokens : List Token} (nonempty : tokens ≠ [])
    (written : ∀ token ∈ tokens, token.text ≠ "") : conditionText tokens = some (render tokens) := by
  obtain ⟨token, rest, rfl⟩ := List.exists_cons_of_ne_nil nonempty
  have visible := written token List.mem_cons_self
  simp [conditionText, render, visible]

namespace SpellsCondition

variable {tokens rest : List Token} {text : Option String}

/-- A join condition is read up to where it ends. -/
theorem readJoinCondition_append (spells : SpellsCondition tokens text)
    (written : ∀ token ∈ tokens, token.text ≠ "") (ends : EndsJoin rest) :
    readJoinCondition (tokens ++ rest) = (text, rest) := by
  cases spells with
  | none =>
      cases rest with
      | nil => rfl
      | cons token rest =>
          have noOn := Token.isKeyword_of_endsCondition (ends token rfl) "ON" (by decide)
          have noUsing := Token.isKeyword_of_endsCondition (ends token rfl) "USING" (by decide)
          exact readJoinCondition_of_neither rest (by simp [noOn]) (by simp [noUsing])
  | @on word tokens isOn nonempty balanced =>
      have inside : ∀ token : Token, token.MayCompare → token.endsCondition = false := fun token may => by
        simp [Token.endsCondition, may.noBoundary, may.noComma]
      rw [List.cons_append, readJoinCondition_of_on _ isOn,
        balanced.readCondition_append (fun _ => inside), ends.readCondition]
      simp [conditionText_eq nonempty (List.forall_mem_cons.mp written).2]
  | @shared word opening closing inner isUsing opens inside closes =>
      have noOn : word.isKeyword "ON" = false := Token.isKeyword_eq_of_isKeyword isUsing "ON"
      have noEnd : word.endsCondition = false := by
        rw [Token.endsCondition, Token.isAnyKeyword_eq_of_isKeyword isUsing,
          Token.isMark_of_isKeyword isUsing]
        decide
      have clause : Balanced (fun token => token.endsCondition = false)
          (word :: opening :: (inner ++ [closing])) :=
        .plain (Token.isPlain_of_isKeyword isUsing) noEnd (.group opens inside closes .nil)
      rw [List.cons_append, readJoinCondition_of_using _ (by simp [noOn]) isUsing, ← List.cons_append,
        clause.readCondition_append (fun _ _ noEnd => noEnd), ends.readCondition]
      simp [conditionText_eq (List.cons_ne_nil _ _) written]

/-- What ends a condition tells no kind of join. -/
theorem exists_last (spells : SpellsCondition tokens text) (nonempty : tokens ≠ []) :
    ∃ front final, tokens = front ++ [final] ∧ final.isAnyKeyword kindWords = false := by
  cases spells with
  | none => exact absurd rfl nonempty
  | @on word tokens isOn someTokens balanced =>
      obtain ⟨front, final, rfl, ends⟩ := balanced.exists_last someTokens
      refine ⟨word :: front, final, rfl, ?_⟩
      rcases ends with closes | may
      · exact Token.isAnyKeyword_of_isMark closes kindWords
      · exact may.isAnyKeyword
  | @shared word opening closing inner isUsing opens inside closes =>
      exact ⟨word :: opening :: inner, closing, rfl,
        Token.isAnyKeyword_of_isMark closes kindWords⟩

end SpellsCondition

/-! ### Kinds of join -/

/-- A token that is no word for a kind of join tells that there is none in front of `JOIN`. -/
theorem joinKindBefore_of_other {token : Token} (other : token.isAnyKeyword kindWords = false)
    (before : List Token) : joinKindBefore (token :: before) = .inner := by
  simp only [Token.isAnyKeyword, kindWords, List.any_cons, List.any_nil, Bool.or_eq_false_iff] at other
  simp [joinKindBefore, Token.isAnyKeyword, other]

theorem joinKindBefore_of_passed {token : Token} {word : String} (isWord : token.isKeyword word = true)
    (passed : word ∈ ["OUTER", "NATURAL"]) (before : List Token) :
    joinKindBefore (token :: before) = joinKindBefore before := by
  rw [joinKindBefore, if_pos (Token.isAnyKeyword_of_mem isWord passed)]

/-- A word that is a phrase of its own tells the kind of join. -/
theorem joinKindBefore_of_isKeyword {token : Token} {word : String} {kind : JoinKind}
    (isWord : token.isKeyword word = true) (listed : ([word], kind) ∈ joinPhrases) (before : List Token) :
    joinKindBefore (token :: before) = kind := by
  simp only [joinKindBefore, Token.isAnyKeyword_eq_of_isKeyword isWord,
    Token.isKeyword_eq_of_isKeyword isWord]
  simp only [joinPhrases, List.mem_cons, Prod.mk.injEq, List.cons_ne_self, false_and, List.cons.injEq,
    and_true, List.ne_cons_self, and_false, List.not_mem_nil, or_false, false_or] at listed
  rcases listed with ⟨rfl, rfl⟩ | ⟨rfl, rfl⟩ | ⟨rfl, rfl⟩ | ⟨rfl, rfl⟩ | ⟨rfl, rfl⟩
  · rfl
  · rfl
  · rfl
  · rfl
  · rfl

/-- The words in front of `JOIN` tell its kind if what stands in front of them tells none. -/
theorem joinKindBefore_reverse {words : List String} {kind : JoinKind} {tokens before : List Token}
    (listed : (words, kind) ∈ joinPhrases) (spells : SpellsWords words tokens)
    (inner : joinKindBefore before = .inner) : joinKindBefore (tokens.reverse ++ before) = kind := by
  -- `OUTER` is the only second word of a phrase, and the walk backwards passes over it.
  have shapes : ∀ phrase ∈ joinPhrases, phrase = ([], .inner) ∨
      ∃ word ∈ kindWords, ([word], phrase.2) ∈ joinPhrases ∧
        (phrase.1 = [word] ∨ phrase.1 = [word, "OUTER"]) := by
    decide
  rcases shapes _ listed with shape | ⟨word, _, alone, shape | shape⟩
  · cases shape
    rw [spellsWords_nil.mp spells]
    exact inner
  · simp only at shape
    subst shape
    simp only [spellsWords_cons, spellsWords_nil] at spells
    obtain ⟨token, _, isWord, rfl, rfl⟩ := spells
    exact joinKindBefore_of_isKeyword isWord alone before
  · simp only at shape
    subst shape
    simp only [spellsWords_cons, spellsWords_nil] at spells
    obtain ⟨token, _, isWord, ⟨outer, _, isOuter, rfl, rfl⟩, rfl⟩ := spells
    rw [List.reverse_cons, List.reverse_singleton, List.append_assoc, List.singleton_append,
      joinKindBefore_of_passed isOuter (by decide)]
    exact joinKindBefore_of_isKeyword isWord alone before

theorem SpellsKind.joinKindBefore_reverse {tokens before : List Token} {kind : JoinKind}
    (spells : SpellsKind tokens kind) (inner : joinKindBefore before = .inner) :
    joinKindBefore (tokens.reverse ++ before) = kind := by
  obtain ⟨words, listed, spells | spells⟩ := spells
  · exact Script.joinKindBefore_reverse listed spells inner
  · obtain ⟨natural, more, isNatural, onward, rfl⟩ := spellsWords_cons.mp spells
    rw [List.reverse_cons, List.append_assoc]
    refine Script.joinKindBefore_reverse listed onward ?_
    rw [List.singleton_append, joinKindBefore_of_passed isNatural (by decide), inner]

/-- A relation and the condition behind it tell no kind of join. -/
theorem SpellsRelation.joinKindBefore_reverse {relation condition before : List Token}
    {table : TableReference} {text : Option String} (spellsRelation : SpellsRelation relation table)
    (spellsCondition : SpellsCondition condition text) :
    joinKindBefore ((relation ++ condition).reverse ++ before) = .inner := by
  have ends : ∃ front final, relation ++ condition = front ++ [final] ∧
      final.isAnyKeyword kindWords = false := by
    by_cases shape : condition = []
    · obtain ⟨front, final, rfl, isName⟩ := spellsRelation.exists_last
      exact ⟨front, final, by simp [shape], Token.isAnyKeyword_of_isName isName kindWords⟩
    · obtain ⟨front, final, rfl, noWord⟩ := spellsCondition.exists_last shape
      exact ⟨relation ++ front, final, by simp, noWord⟩
  obtain ⟨front, final, shape, noWord⟩ := ends
  rw [shape, List.reverse_append, List.append_assoc]
  exact joinKindBefore_of_other noWord _

/-! ### Steps over a phrase -/

/-- Without a parenthesis within reach no common table expression is introduced. -/
theorem not_introducesCte_of_plain {before skipped rest : List Token} {token : Token}
    (plain : ∀ token ∈ skipped, token.IsPlain) (ends : EndsIntroduction rest) :
    ¬ introducesCte before (token :: (skipped ++ rest)) = true := by
  intro introduces
  obtain ⟨name, second, mark, more, shape, _, isAs, opens⟩ := exists_of_introducesCte introduces
  -- The rest starts at the word `AS`, at the parenthesis or behind both.
  rcases skipped with _ | ⟨third, _ | ⟨fourth, skipped⟩⟩
  · cases shape
    rw [(ends second rfl).2] at isAs
    cases isAs
  · cases shape
    exact (ends mark rfl).1.1 opens
  · cases shape
    exact (plain mark (by simp)).1 opens

theorem not_introducesCte_of_not_isName {before rest : List Token} {token : Token}
    (noName : token.isName = false) : ¬ introducesCte before (token :: rest) = true := by
  intro introduces
  rw [isName_of_introducesCte introduces] at noName
  cases noName

/-- What is passed over token by token is passed over as a whole. -/
theorem scanFrom_skip {skipped rest : List Token} (idle : ∀ token ∈ skipped, token.IsIdle)
    (ends : EndsIntroduction rest) (state : ScanState) (before : List Token) :
    scanFrom state before (skipped ++ rest) = scanFrom state (skipped.reverse ++ before) rest := by
  induction skipped generalizing before with
  | nil => rfl
  | cons token skipped ih =>
      obtain ⟨⟨plain, other⟩, later⟩ := List.forall_mem_cons.mp idle
      simp only [Token.isAnyKeyword, List.any_cons, List.any_nil, Bool.or_eq_false_iff] at other
      rw [List.cons_append, scanFrom_other plain
          (not_introducesCte_of_plain (fun token member => (later token member).1) ends)
          (by simp [other]) (by simp [other]),
        ih later, List.reverse_cons, List.append_assoc, List.singleton_append]

/-- Behind `FROM` a relation is found. -/
theorem scanFrom_from_append {state : ScanState} {before relation rest : List Token} {word : Token}
    {table : TableReference} (isFrom : word.isKeyword "FROM" = true)
    (spells : SpellsRelation relation table) (ends : EndsRelation rest)
    (noComma : ∀ token ∈ rest.head?, token.isMark "," = false) (noCtes : state.found.cteNames = []) :
    scanFrom state before (word :: (relation ++ rest)) =
      scanFrom (state.addTables [table]) (relation.reverse ++ word :: before) rest := by
  have noCte := @not_introducesCte_of_not_isName before (relation ++ rest) word
    (Token.isName_of_isKeyword isFrom)
  rw [scanFrom_from (Token.isPlain_of_isKeyword isFrom) noCte isFrom, noCtes,
    spells.readRelations_append ends noComma, ← List.cons_append, readBetween_append, List.reverse_cons,
    List.append_assoc, List.singleton_append]

/-- Behind `JOIN` a relation and a condition are found. -/
theorem scanFrom_join_append {state : ScanState} {before relation condition rest : List Token}
    {word : Token} {right : TableReference} {text : Option String} (isJoin : word.isKeyword "JOIN" = true)
    (spellsRelation : SpellsRelation relation right) (spellsCondition : SpellsCondition condition text)
    (written : ∀ token ∈ condition, token.text ≠ "") (ends : EndsJoin rest)
    (noCtes : state.found.cteNames = []) :
    scanFrom state before (word :: (relation ++ (condition ++ rest))) =
      scanFrom (state.addJoin (joinKindBefore before) right text)
        ((relation ++ condition).reverse ++ word :: before) rest := by
  have noCte := @not_introducesCte_of_not_isName before (relation ++ (condition ++ rest)) word
    (Token.isName_of_isKeyword isJoin)
  have noFrom : word.isKeyword "FROM" = false := Token.isKeyword_eq_of_isKeyword isJoin "FROM"
  have found : readRelation state.found.cteNames (relation ++ (condition ++ rest)) =
      some (right, condition ++ rest) := by
    rw [noCtes]
    exact spellsRelation.readRelation_append (spellsCondition.endsRelation ends)
  rw [scanFrom_join (Token.isPlain_of_isKeyword isJoin) noCte (by simp [noFrom]) isJoin found,
    spellsCondition.readJoinCondition_append written ends, ← List.append_assoc, ← List.cons_append,
    readBetween_append, List.reverse_cons, List.append_assoc, List.singleton_append]

/-- The scan of one join with the words in front of it. -/
theorem scanFrom_kinds_append {state : ScanState} {before kinds relation condition rest : List Token}
    {join : Token} {kind : JoinKind} {right : TableReference} {text : Option String}
    (spellsKind : SpellsKind kinds kind) (isJoin : join.isKeyword "JOIN" = true)
    (spellsRelation : SpellsRelation relation right) (spellsCondition : SpellsCondition condition text)
    (written : ∀ token ∈ condition, token.text ≠ "") (ends : EndsJoin rest)
    (noCtes : state.found.cteNames = []) (inner : joinKindBefore before = .inner) :
    scanFrom state before (kinds ++ join :: (relation ++ (condition ++ rest))) =
      scanFrom (state.addJoin kind right text)
        ((relation ++ condition).reverse ++ join :: (kinds.reverse ++ before)) rest := by
  rw [scanFrom_skip spellsKind.idle (endsIntroduction_of_isKeyword isJoin rfl _),
    scanFrom_join_append isJoin spellsRelation spellsCondition written ends noCtes,
    spellsKind.joinKindBefore_reverse inner]

/-! ### Chains of joins -/

namespace ScanState

/-- Notes joined relations one after another. -/
def addJoins (joins : List JoinClause) (state : ScanState) : ScanState :=
  { state with
    found.tables := state.found.tables ++ joins.map JoinClause.right
    found.joins := state.found.joins ++ joins }

theorem addJoins_nil (state : ScanState) : state.addJoins [] = state := by
  simp [addJoins]

theorem found_closeScope (state : ScanState) : state.closeScope.found = state.found := by
  unfold closeScope
  split
  · rfl
  · rfl

theorem cteNames_addJoin (state : ScanState) (kind : JoinKind) (right : TableReference)
    (condition : Option String) :
    (state.addJoin kind right condition).found.cteNames = state.found.cteNames := by
  unfold addJoin
  split
  · rfl
  · rfl

variable {state : ScanState} {left : TableReference} (primary : state.primary = some left)
  (kind : JoinKind) (right : TableReference) (condition : Option String)

include primary

theorem primary_addJoin : (state.addJoin kind right condition).primary = some left := by
  simp [addJoin, primary]

/-- In a scope with a primary relation each join is one with that relation. -/
theorem addJoins_addJoin (joins : List JoinClause) :
    (state.addJoin kind right condition).addJoins joins =
      state.addJoins ({ left, right, kind, condition } :: joins) := by
  simp [addJoins, addJoin, primary]

end ScanState

/-- The scan of a chain notes each of its joins, and goes on behind it. -/
theorem SpellsJoins.scanFrom_append {left : TableReference} {tokens rest : List Token}
    {joins : List JoinClause} (spells : SpellsJoins left tokens joins)
    (written : ∀ token ∈ tokens, token.text ≠ "") (ends : EndsJoin rest) {state : ScanState}
    (primary : state.primary = some left) (noCtes : state.found.cteNames = []) {before : List Token}
    (inner : joinKindBefore before = .inner) :
    ∃ behind, scanFrom state before (tokens ++ rest) = scanFrom (state.addJoins joins) behind rest := by
  -- Behind each join the primary relation is the same, and the tokens before tell no kind of join.
  induction spells generalizing state before with
  | nil => exact ⟨before, by rw [List.nil_append, state.addJoins_nil]⟩
  | @cons kinds relation condition tokens join kind right text joins spellsKind isJoin spellsRelation
      spellsCondition onward ih =>
      have writtenCondition : ∀ token ∈ condition, token.text ≠ "" := fun token member =>
        written token (by simp [member])
      have writtenOnward : ∀ token ∈ tokens, token.text ≠ "" := fun token member =>
        written token (by simp [member])
      have step : scanFrom state before (kinds ++ join :: (relation ++ (condition ++ tokens)) ++ rest) =
          scanFrom (state.addJoin kind right text)
            ((relation ++ condition).reverse ++ join :: (kinds.reverse ++ before)) (tokens ++ rest) := by
        simp only [List.append_assoc, List.cons_append]
        exact scanFrom_kinds_append spellsKind isJoin spellsRelation spellsCondition writtenCondition
          (onward.endsJoin ends) noCtes inner
      obtain ⟨behind, later⟩ := ih writtenOnward (ScanState.primary_addJoin primary kind right text)
        ((state.cteNames_addJoin kind right text).trans noCtes)
        (spellsRelation.joinKindBefore_reverse spellsCondition)
      exact ⟨behind, by rw [step, later, ScanState.addJoins_addJoin primary]⟩

/-- Nothing is found in tokens without any of the words that stand in front of a relation or introduce a
common table expression. -/
theorem found_scanFrom_of_idle {tokens : List Token}
    (idle : ∀ token ∈ tokens, token.isAnyKeyword ["FROM", "JOIN", "AS"] = false) (state : ScanState)
    (before : List Token) : (scanFrom state before tokens).found = state.found := by
  induction tokens generalizing state before with
  | nil => rw [scanFrom_nil]
  | cons token rest ih =>
      obtain ⟨other, later⟩ := List.forall_mem_cons.mp idle
      simp only [Token.isAnyKeyword, List.any_cons, List.any_nil, Bool.or_eq_false_iff] at other
      by_cases opens : token.isMark "(" = true
      · rw [scanFrom_open opens, ih later]
        rfl
      · by_cases closes : token.isMark ")" = true
        · rw [scanFrom_close opens closes, ih later, ScanState.found_closeScope]
        · have noCte : ¬ introducesCte before (token :: rest) = true := by
            intro introduces
            obtain ⟨_, word, _, _, shape, _, isAs, _⟩ := exists_of_introducesCte introduces
            cases shape
            have known := later word List.mem_cons_self
            rw [Token.isAnyKeyword_of_mem isAs (by decide)] at known
            cases known
          rw [scanFrom_other ⟨opens, closes⟩ noCte (by simp [other]) (by simp [other]), ih later]

/-! ### Queries -/

/-- The texts of the tokens of a statement are not empty. -/
theorem text_ne_empty_of_mem_significant {escapes : QuoteEscapes} {script : String} {statement : Statement}
    (isStatement : statement ∈ Statement.split escapes script) {token : Token}
    (member : token ∈ statement.significant) : token.text ≠ "" := by
  obtain ⟨group, isGroup, _, same⟩ := exists_group_of_mem_split isStatement
  have own : token ∈ group.tokens := same ▸ List.mem_of_mem_filter member
  exact (keepsScript_tokenize escapes script).nonempty token
    ((TokenGroup.infix_of_mem_split isGroup).subset own)

/-- The scan of a query that joins relations one after another finds each relation and each join, and
nothing else. -/
theorem scanRelations_of_joinsInChain {tokens : List Token} {first : TableReference}
    {joins : List JoinClause} (chain : JoinsInChain tokens first joins)
    (written : ∀ token ∈ tokens, token.text ≠ "") :
    scanRelations tokens = { tables := first :: joins.map JoinClause.right, joins } := by
  cases chain with
  | @intro select word list relation chain tail first joins isSelect idle isFrom spellsRelation spellsJoins
      isTail =>
      have idleToo : ∀ token ∈ select :: list, token.IsIdle :=
        List.forall_mem_cons.mpr ⟨Token.isIdle_of_isKeyword isSelect rfl, idle⟩
      have endsTail : EndsJoin tail := endsJoin_of_boundary isTail.boundary
      have ends : EndsJoin (chain ++ tail) := spellsJoins.endsJoin endsTail
      have noComma : ∀ token ∈ (chain ++ tail).head?, token.isMark "," = false :=
        spellsJoins.forall_head (fun _ boundary => Token.isMark_of_isAnyKeyword boundary ",")
          fun token isFirst => Token.isMark_of_isAnyKeyword (isTail.boundary token isFirst) ","
      have inner : joinKindBefore (relation.reverse ++ word :: ((select :: list).reverse ++ [])) = .inner := by
        simpa using spellsRelation.joinKindBefore_reverse .none
      obtain ⟨behind, chainScan⟩ := @SpellsJoins.scanFrom_append _ _ _ _ spellsJoins
        (fun token member => written token (by simp [member])) endsTail
        (ScanState.addTables [first] {}) rfl rfl _ inner
      rw [scanRelations, ← List.cons_append,
        scanFrom_skip idleToo (endsIntroduction_of_isKeyword isFrom rfl _),
        scanFrom_from_append isFrom spellsRelation ends.endsRelation noComma rfl, chainScan,
        found_scanFrom_of_idle isTail.idle]
      simp [ScanState.addJoins, ScanState.addTables]

/-- Of a statement that joins relations one after another the relations are found, in their order and with
their other names, and each join with its kind and its condition, whatever comments stand between. -/
theorem relations_of_joinsInChain {escapes : QuoteEscapes} {script : String} {statement : Statement}
    (isStatement : statement ∈ Statement.split escapes script) {first : TableReference}
    {joins : List JoinClause} (chain : JoinsInChain statement.significant first joins) :
    statement.relations =
      { cteNames := [], tables := first :: joins.map JoinClause.right, joins } :=
  scanRelations_of_joinsInChain chain fun _ member => text_ne_empty_of_mem_significant isStatement member

/-- A script whose only statement joins two relations with a first one. -/
def chainScript : String :=
  "SELECT x FROM a NATURAL LEFT OUTER JOIN s.b AS y ON f(i, 1) /* , z */ JOIN c USING (i) WHERE x"

/-- The tokens of the script behind `ON`, and those of its `USING` clause. -/
def chainCondition : List Token :=
  [⟨.identifier, "f", 52⟩, ⟨.punctuation, "(", 53⟩, ⟨.identifier, "i", 54⟩, ⟨.punctuation, ",", 55⟩,
    ⟨.numberLiteral, "1", 57⟩, ⟨.punctuation, ")", 58⟩]

def chainColumns : List Token :=
  [⟨.keyword, "USING", 77⟩, ⟨.punctuation, "(", 83⟩, ⟨.identifier, "i", 84⟩, ⟨.punctuation, ")", 85⟩]

/-- The tokens of the second relation. -/
def chainRelation : List Token :=
  [⟨.identifier, "s", 40⟩, ⟨.punctuation, ".", 41⟩, ⟨.identifier, "b", 42⟩, ⟨.keyword, "AS", 44⟩,
    ⟨.identifier, "y", 47⟩]

/-- The tokens of both joins. -/
def chainJoined : List Token :=
  [⟨.keyword, "NATURAL", 16⟩, ⟨.keyword, "LEFT", 24⟩, ⟨.keyword, "OUTER", 29⟩] ++ ⟨.keyword, "JOIN", 35⟩ ::
    (chainRelation ++ (⟨.keyword, "ON", 49⟩ :: chainCondition ++
      ([] ++ ⟨.keyword, "JOIN", 70⟩ :: ([⟨.identifier, "c", 75⟩] ++ (chainColumns ++ [])))))

/-- The tokens of the script that carry meaning. -/
def chainTokens : List Token :=
  ⟨.keyword, "SELECT", 0⟩ :: ([⟨.identifier, "x", 7⟩] ++ ⟨.keyword, "FROM", 9⟩ ::
    ([⟨.identifier, "a", 14⟩] ++ (chainJoined ++ [⟨.keyword, "WHERE", 87⟩, ⟨.identifier, "x", 93⟩])))

/-- What the joins of the script are. -/
def chainJoins : List JoinClause :=
  [{ left := .named "a" none false, right := .named "s.b" (some "y") false, kind := .left,
     condition := some "f(i, 1)" },
   { left := .named "a" none false, right := .named "c" none false, kind := .inner,
     condition := some "USING (i)" }]

theorem spellsJoins_chainJoined : SpellsJoins (.named "a" none false) chainJoined chainJoins := by
  have relation : SpellsRelation chainRelation (.named "s.b" (some "y") false) :=
    @SpellsRelation.aliasedAs _ _ ⟨.keyword, "AS", 44⟩ ⟨.identifier, "y", 47⟩
      (@SpellsName.dotted ⟨.identifier, "s", 40⟩ ⟨.punctuation, ".", 41⟩ _ _ (by decide) (by decide)
        (@SpellsName.last ⟨.identifier, "b", 42⟩ (by decide))) (by decide) (by decide)
  have balanced : Balanced Token.MayCompare chainCondition :=
    .plain (by decide) ⟨by decide, by decide, by decide⟩
      (@Balanced.group _ _ _ [_, _, _] [] (by decide) (.plain (by decide) trivial
        (.plain (by decide) trivial (.plain (by decide) trivial .nil))) (by decide) .nil)
  have compared : render chainCondition = "f(i, 1)" := by decide +kernel
  have condition : SpellsCondition (⟨.keyword, "ON", 49⟩ :: chainCondition) (some "f(i, 1)") :=
    compared ▸ .on (by decide) (by decide) balanced
  have shared : render chainColumns = "USING (i)" := by decide +kernel
  have columns : SpellsCondition chainColumns (some "USING (i)") :=
    shared ▸ @SpellsCondition.shared _ _ _ [_] (by decide) (by decide) (.plain (by decide) trivial .nil)
      (by decide)
  have natural : SpellsKind
      [⟨.keyword, "NATURAL", 16⟩, ⟨.keyword, "LEFT", 24⟩, ⟨.keyword, "OUTER", 29⟩] .left :=
    ⟨["LEFT", "OUTER"], by decide,
      .inr (.cons (by decide) (.cons (by decide) (.cons (by decide) .nil)))⟩
  have unnamed : SpellsKind [] .inner := ⟨[], by decide, .inl .nil⟩
  exact .cons natural (by decide) relation condition
    (.cons unnamed (by decide) (.bare (.last (by decide))) columns .nil)

theorem joinsInChain_chainTokens : JoinsInChain chainTokens (.named "a" none false) chainJoins :=
  .intro (by decide) (by decide) (by decide) (.bare (.last (by decide))) spellsJoins_chainJoined
    ⟨by decide, by decide⟩

theorem relations_chainScript : ∃ statement, Statement.split .doubled chainScript = [statement] ∧
    JoinsInChain statement.significant (.named "a" none false) chainJoins ∧
      statement.relations =
        { tables := [.named "a" none false, .named "s.b" (some "y") false, .named "c" none false]
          joins := chainJoins } := by
  have split : (Statement.split .doubled chainScript).map Statement.significant = [chainTokens] := by
    decide +kernel
  obtain ⟨statement, whole, tokens⟩ := List.map_eq_singleton_iff.mp split
  have chain : JoinsInChain statement.significant (.named "a" none false) chainJoins :=
    tokens ▸ joinsInChain_chainTokens
  have isStatement : statement ∈ Statement.split .doubled chainScript := by simp [whole]
  exact ⟨statement, whole, chain, relations_of_joinsInChain isStatement chain⟩

end SqlLineage.Script
