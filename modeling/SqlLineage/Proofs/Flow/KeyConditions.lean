/-
Module: SqlLineage.Proofs.Flow.KeyConditions
Purpose: Which joins are on a key, for conditions that are written out from their parts: a list of columns,
  or comparisons joined by `AND`. What the text shows is what the parts mean, but for names of relations
  that lose a capital sigma.
Main exports: PlainName, ColumnPath, Comparison, PlainCondition, PlainCondition.IsOnKey, Denotes,
  DenotesInPlace, isKeyedJoin_iff
-/
import SqlLineage.Proofs.Flow.KeyedJoin
import SqlLineage.Proofs.Text.Blank
import SqlLineage.Proofs.Text.FinalSigma
import SqlLineage.Proofs.Text.Joined
import SqlLineage.Text.Numeric

namespace SqlLineage.Flow

open Lineage (TableReference JoinClause JoinKind)

/-! ### Conditions by their parts -/

/-- Whether a character can be part of a name that is written without quotes. -/
def isPlain (c : Char) : Bool := Text.isAlphanumeric c || c = '_'

/-- A name of letters, digits and underscores. -/
structure PlainName where
  text : String
  nonempty : text.toList ≠ []
  plain : ∀ c ∈ text.toList, isPlain c = true

/-- A column with the names in front of it that are to tell its relation, none of them the word `AND`. -/
structure ColumnPath where
  qualifier : List PlainName
  column : PlainName
  noAnd : ∀ part ∈ qualifier ++ [column], Text.sameIgnoringCase part.text "AND" = false

namespace ColumnPath

/-- The names in front of the column. -/
def qualifierText (path : ColumnPath) : String := Text.joinWith "." (path.qualifier.map PlainName.text)

def text (path : ColumnPath) : String :=
  Text.joinWith "." ((path.qualifier ++ [path.column]).map PlainName.text)

end ColumnPath

inductive ComparisonOperator where
  | equal
  | unequal
  | less
  | greater
  | atMost
  | atLeast
deriving Repr, DecidableEq

def ComparisonOperator.sign : ComparisonOperator → String
  | equal => "="
  | unequal => "<>"
  | less => "<"
  | greater => ">"
  | atMost => "<="
  | atLeast => ">="

/-- A comparison of two columns. -/
structure Comparison where
  left : ColumnPath
  operator : ComparisonOperator
  right : ColumnPath

def Comparison.text (comparison : Comparison) : String :=
  comparison.left.text ++ " " ++ comparison.operator.sign ++ " " ++ comparison.right.text

/-- A join condition: columns that both sides have, or comparisons all of which hold. -/
inductive PlainCondition where
  | shared (columns : List PlainName)
  | compared (comparisons : List Comparison)

/-- How a condition is written. -/
def PlainCondition.text : PlainCondition → String
  | shared columns => "USING (" ++ Text.joinWith ", " (columns.map PlainName.text) ++ ")"
  | compared comparisons => Text.joinWith " AND " (comparisons.map Comparison.text)

/-! ### What the parts mean -/

/-- Whether a column looks like a key by its name, in any letter case. -/
def IsKeyName (column : String) : Prop :=
  Text.lowercase column = "id" ∨
    ∃ ending ∈ keyEndings, ending.toList <:+ (Text.lowercase column).toList

/-- Whether a name is split at its last dot into these two parts. -/
structure IsSplit (name schema base : String) : Prop where
  whole : name = schema ++ "." ++ base
  last : '.' ∉ base.toList

/-- Whether a qualifier names a relation, in any letter case: by its alias, its name, or what stands behind
the last dot of its name. -/
def Denotes (table : TableReference) (qualifier : String) : Prop :=
  (∃ aliasName, table.aliasName = some aliasName ∧ Text.lowercase aliasName = Text.lowercase qualifier) ∨
    Text.lowercase table.name = Text.lowercase qualifier ∨
    ∃ schema base, IsSplit table.name schema base ∧ Text.lowercase base = Text.lowercase qualifier

/-- The same with the lower-case form that the end of the name has behind the rest of it. -/
def DenotesInPlace (table : TableReference) (qualifier : String) : Prop :=
  (∃ aliasName, table.aliasName = some aliasName ∧ Text.lowercase aliasName = Text.lowercase qualifier) ∨
    Text.lowercase table.name = Text.lowercase qualifier ∨
    ∃ schema base, IsSplit table.name schema base ∧
      Text.lowercaseBehind (schema ++ ".") base = Text.lowercase qualifier

/-- Whether the end of a relation's name has another lower-case form by itself than behind the rest. -/
def LosesSigma (table : TableReference) : Prop :=
  ∃ schema base, IsSplit table.name schema base ∧ Text.LosesSigma (schema ++ ".") base

/-- Whether a side of a comparison is a column that looks like a key and can be of a relation, which is denoted
by these qualifiers. -/
def ColumnPath.IsKeyOf (path : ColumnPath) (denotes : String → Prop) : Prop :=
  IsKeyName path.column.text ∧ (path.qualifier = [] ∨ denotes path.qualifierText)

namespace PlainCondition

/-- Whether a condition is on a key of a relation, which is denoted by these qualifiers: it lists a column
that looks like a key, or compares one for equality that can be of the relation. -/
def IsOnKey (denotes : String → Prop) : PlainCondition → Prop
  | shared columns => ∃ column ∈ columns, IsKeyName column.text
  | compared comparisons => ∃ comparison ∈ comparisons, comparison.operator = .equal ∧
      ∃ side ∈ [comparison.left, comparison.right], side.IsKeyOf denotes

end PlainCondition

/-! ### Characters of names -/

theorem endsWith_iff {ending text : List Char} : endsWith ending text = true ↔ ending <:+ text := by
  rw [endsWith, Text.stripEnd?, Option.isSome_map, Option.isSome_iff_exists, ← List.reverse_prefix]
  exact exists_congr fun rest => Text.stripStart?_eq_some_iff.trans eq_comm

/-- Whether a character is an ASCII one that is not part of names. -/
def isAsciiMark (c : Char) : Bool := c.val < 128 && !c.isAlphanum && c != '_'

theorem isPlain_of_isAsciiMark {c : Char} (mark : isAsciiMark c = true) : isPlain c = false := by
  simp only [isAsciiMark, Bool.and_eq_true, decide_eq_true_eq, Bool.not_eq_true', bne_iff_ne] at mark
  obtain ⟨⟨ascii, noLetter⟩, noScore⟩ := mark
  simp [isPlain, Text.isAlphanumeric_of_ascii ascii, noLetter, noScore]

theorem isPlain_of_ascii {c : Char} (ascii : c.val < 128) (part : c.isAlphanum = true) : isPlain c = true := by
  simp [isPlain, Text.isAlphanumeric_of_ascii ascii, part]

theorem ne_of_isPlain {c d : Char} (plain : isPlain c = true) (mark : isAsciiMark d = true) : c ≠ d := by
  rintro rfl
  rw [isPlain_of_isAsciiMark mark] at plain
  cases plain

theorem isBlank_of_isPlain {c : Char} (plain : isPlain c = true) : Text.isBlank c = false := by
  have all : ∀ code ∈ Text.blankCodes, isPlain (Char.ofNat code) = false := by decide +kernel
  rw [Bool.eq_false_iff]
  intro blank
  have noPart := all c.toNat (Text.mem_blankCodes blank)
  rw [Char.ofNat_toNat, plain] at noPart
  cases noPart

theorem isColumnQuote_of_isPlain {c : Char} (plain : isPlain c = true) : isColumnQuote c = false := by
  have other {mark : Char} (isMark : isAsciiMark mark = true) : c ≠ mark := ne_of_isPlain plain isMark
  simp [isColumnQuote, other (show isAsciiMark '\x22' = true by decide),
    other (show isAsciiMark '\x60' = true by decide), other (show isAsciiMark '[' = true by decide),
    other (show isAsciiMark ']' = true by decide)]

namespace PlainName

variable (name : PlainName)

/-- A character that cannot be part of a name is not in one. -/
theorem not_mem {c : Char} (mark : isAsciiMark c = true) : c ∉ name.text.toList :=
  fun listed => ne_of_isPlain (name.plain c listed) mark rfl

theorem isBlank_of_mem : ∀ c ∈ name.text.toList, Text.isBlank c = false :=
  fun c listed => isBlank_of_isPlain (name.plain c listed)

/-- A column without quotes looks like a key just if its name does. -/
theorem isKeyColumn_iff : isKeyColumn name.text.toList = true ↔ IsKeyName name.text := by
  have unquoted : Text.trimBy isColumnQuote name.text.toList = name.text.toList :=
    Text.trimBy_of_kept name.nonempty fun c listed => isColumnQuote_of_isPlain (name.plain c listed)
  rw [isKeyColumn, unquoted, String.ofList_toList, IsKeyName, Bool.or_eq_true, beq_iff_eq,
    List.any_eq_true]
  exact or_congr_right (exists_congr fun ending => and_congr_right fun _ => endsWith_iff)

end PlainName

/-! ### Names of relations -/

/-- In the lower-case form of a name its last part has the form that it has behind the rest. -/
theorem IsSplit.cutLast_lowercase {name schema base : String} (split : IsSplit name schema base) :
    ∃ front, Text.cutLast '.' (Text.lowercase name).toList =
      some (front, (Text.lowercaseBehind (schema ++ ".") base).toList) := by
  have parts : name.toList = schema.toList ++ '.' :: base.toList := by simp [split.whole]
  have turned : (schema ++ ".").toList.reverse = '.' :: schema.toList.reverse := by simp
  have dot : Text.lowercaseAfter schema.toList.reverse ('.' :: base.toList) =
      '.' :: Text.lowercaseAfter ('.' :: schema.toList.reverse) base.toList := by
    rw [Text.lowercaseAfter, if_neg (by decide), Text.lowercaseChar_of_ascii (by decide)]
    rfl
  obtain ⟨front, shape⟩ :=
    Text.exists_lowercaseAfter_append [] schema.toList ('.' :: base.toList)
  rw [List.append_nil, dot] at shape
  refine ⟨front, ?_⟩
  rw [Text.lowercase, String.toList_ofList, parts, shape, Text.lowercaseBehind, String.toList_ofList, turned]
  exact Text.cutLast_append front (Text.not_mem_lowercaseAfter (by decide) split.last)

/-- A name with a dot is split at the last one. -/
theorem exists_isSplit {name : String} (dotted : '.' ∈ name.toList) :
    ∃ schema base, IsSplit name schema base := by
  obtain ⟨base, schema, turned, last⟩ := List.eq_append_cons_of_mem (List.mem_reverse.mpr dotted)
  have parts : name.toList = schema.reverse ++ '.' :: base.reverse := by
    rw [← List.reverse_reverse name.toList, turned]
    simp
  refine ⟨String.ofList schema.reverse, String.ofList base.reverse, ?_, ?_⟩
  · rw [← String.toList_inj, parts]
    simp
  · rwa [String.toList_ofList, List.mem_reverse]

/-- There is only one way to split a name. -/
theorem IsSplit.unique {name schema base otherSchema otherBase : String} (split : IsSplit name schema base)
    (other : IsSplit name otherSchema otherBase) : schema = otherSchema ∧ base = otherBase := by
  have parts : schema.toList ++ '.' :: base.toList = otherSchema.toList ++ '.' :: otherBase.toList := by
    have same := split.whole.symm.trans other.whole
    simpa [← String.toList_inj] using same
  have cut := Text.cutLast_append schema.toList split.last
  rw [parts, Text.cutLast_append _ other.last, Option.some.injEq, Prod.mk.injEq] at cut
  exact ⟨String.toList_inj.mp cut.1.symm, String.toList_inj.mp cut.2.symm⟩

theorem namesTable_iff (table : TableReference) (qualifier : String) :
    namesTable (Text.lowercase qualifier) table = true ↔ DenotesInPlace table qualifier := by
  have lowered : table.key = Text.lowercase table.name := rfl
  by_cases dotted : '.' ∈ table.name.toList
  · obtain ⟨schema, base, split⟩ := exists_isSplit dotted
    obtain ⟨front, cut⟩ := split.cutLast_lowercase
    rw [namesTable, lowered, cut]
    simp only [String.ofList_toList, Bool.or_eq_true, beq_iff_eq, Option.map_eq_some_iff, or_assoc]
    refine or_congr_right (or_congr_right ⟨fun same => ⟨schema, base, split, same⟩, ?_⟩)
    rintro ⟨otherSchema, otherBase, other, same⟩
    obtain ⟨rfl, rfl⟩ := split.unique other
    exact same
  · have uncut : Text.cutLast '.' (Text.lowercase table.name).toList = none := by
      rw [Text.lowercase, String.toList_ofList]
      exact Text.cutLast_eq_none (Text.not_mem_lowercaseAfter (by decide) dotted)
    have unsplit : ∀ schema base, ¬ IsSplit table.name schema base := by
      intro schema base split
      apply dotted
      rw [split.whole]
      simp
    rw [namesTable, lowered, uncut]
    simp [DenotesInPlace, unsplit]

/-- The name of a relation with a dot in it has no lower-case form without a dot. -/
theorem IsSplit.lowercase_ne {name schema base text : String} (split : IsSplit name schema base)
    (dotless : '.' ∉ text.toList) : Text.lowercase name ≠ text := by
  rintro rfl
  obtain ⟨front, cut⟩ := split.cutLast_lowercase
  rw [Text.cutLast_eq_none dotless] at cut
  cases cut

/-- The qualifiers that denote a relation are those that name it unless its name loses a sigma. -/
theorem denotesInPlace_iff (table : TableReference) :
    (∀ qualifier, DenotesInPlace table qualifier ↔ Denotes table qualifier) ↔ ¬ LosesSigma table := by
  constructor
  · rintro agree ⟨schema, base, split, loses⟩
    -- The end of the name in its two forms: an alias can be one of them only.
    have differs : Text.lowercaseBehind (schema ++ ".") base ≠ Text.lowercase base :=
      Text.lowercaseBehind_eq_iff.not.mpr (not_not_intro loses)
    have lower := Text.lowercase_lowercaseBehind (schema ++ ".") base
    have dotless : '.' ∉ (Text.lowercaseBehind (schema ++ ".") base).toList := by
      rw [Text.lowercaseBehind, String.toList_ofList]
      exact Text.not_mem_lowercaseAfter (by decide) split.last
    have dotlessAlone : '.' ∉ (Text.lowercase base).toList := by
      rw [Text.lowercase, String.toList_ofList]
      exact Text.not_mem_lowercaseAfter (by decide) split.last
    have inPlace := (agree (Text.lowercaseBehind (schema ++ ".") base)).mp
      (.inr (.inr ⟨schema, base, split, lower.symm⟩))
    have alone := (agree base).mpr (.inr (.inr ⟨schema, base, split, rfl⟩))
    rw [Denotes, lower] at inPlace
    rcases inPlace with ⟨aliasName, isAlias, same⟩ | same | ⟨_, _, other, same⟩
    · rcases alone with ⟨again, isAgain, sameAlone⟩ | sameAlone | ⟨_, _, other, sameAlone⟩
      · obtain rfl : aliasName = again := Option.some.inj (isAlias.symm.trans isAgain)
        exact differs (same.symm.trans sameAlone)
      · exact split.lowercase_ne dotlessAlone sameAlone
      · obtain ⟨rfl, rfl⟩ := split.unique other
        exact differs sameAlone
    · exact split.lowercase_ne dotless same
    · obtain ⟨rfl, rfl⟩ := split.unique other
      exact differs same.symm
  · intro keeps qualifier
    refine or_congr_right (or_congr_right (exists_congr fun schema => exists_congr fun base =>
      and_congr_right fun split => ?_))
    rw [Text.lowercaseBehind_eq_iff.mpr fun loses => keeps ⟨schema, base, split, loses⟩]

/-! ### Columns with their qualifiers -/

namespace ColumnPath

variable (path : ColumnPath)

theorem text_of_unqualified (unqualified : path.qualifier = []) : path.text = path.column.text := by
  rw [text, unqualified]
  rfl

theorem text_of_qualified (qualified : path.qualifier ≠ []) :
    path.text = path.qualifierText ++ "." ++ path.column.text := by
  rw [text, List.map_append, List.map_singleton, Text.joinWith_concat]
  · rfl
  · simpa using qualified

/-- A path is made of its names and of dots. -/
theorem isPlain_of_mem : ∀ c ∈ path.text.toList, isPlain c = true ∨ c = '.' := by
  intro c listed
  obtain ⟨first, rest, parts⟩ : ∃ first rest, path.qualifier ++ [path.column] = first :: rest :=
    List.exists_cons_of_ne_nil (by simp)
  rw [text, parts, List.map_cons, Text.toList_joinWith, List.mem_append, List.mem_flatMap] at listed
  rcases listed with head | ⟨_, isPart, inPart⟩
  · exact .inl (first.plain c head)
  · obtain ⟨_, ⟨part, _, rfl⟩, rfl⟩ := by simpa only [List.mem_map] using isPart
    rcases List.mem_append.mp inPart with dot | inName
    · exact .inr (List.mem_singleton.mp dot)
    · exact .inl (part.plain c inName)

/-- A character that cannot be part of a name, and is no dot, is not in a path. -/
theorem not_mem {c : Char} (mark : isAsciiMark c = true) (noDot : c ≠ '.') : c ∉ path.text.toList := by
  intro listed
  rcases path.isPlain_of_mem c listed with plain | dot
  · exact ne_of_isPlain plain mark rfl
  · exact noDot dot

theorem isBlank_of_mem : ∀ c ∈ path.text.toList, Text.isBlank c = false := by
  intro c listed
  rcases path.isPlain_of_mem c listed with plain | rfl
  · exact isBlank_of_isPlain plain
  · decide

theorem nonempty : path.text.toList ≠ [] := by
  by_cases qualified : path.qualifier = []
  · rw [path.text_of_unqualified qualified]
    exact path.column.nonempty
  · rw [path.text_of_qualified qualified]
    simp

/-- A path is no word that is `AND` in some letter case. -/
theorem ne_word {word : String} (dotless : '.' ∉ word.toList)
    (isAnd : Text.sameIgnoringCase word "AND" = true) : path.text.toList ≠ word.toList := by
  intro same
  by_cases qualified : path.qualifier = []
  · rw [path.text_of_unqualified qualified, String.toList_inj] at same
    have noAnd := path.noAnd path.column (by simp)
    rw [same, isAnd] at noAnd
    cases noAnd
  · apply dotless
    rw [← same, path.text_of_qualified qualified]
    simp

theorem cutLast_of_unqualified (unqualified : path.qualifier = []) :
    Text.cutLast '.' path.text.toList = none := by
  rw [path.text_of_unqualified unqualified]
  exact Text.cutLast_eq_none (path.column.not_mem (by decide))

theorem cutLast_of_qualified (qualified : path.qualifier ≠ []) :
    Text.cutLast '.' path.text.toList = some (path.qualifierText.toList, path.column.text.toList) := by
  have shape : path.text.toList = path.qualifierText.toList ++ '.' :: path.column.text.toList := by
    simp [path.text_of_qualified qualified]
  rw [shape]
  exact Text.cutLast_append _ (path.column.not_mem (by decide))

/-- A side of a comparison, with blanks around it, is read for what it is. -/
theorem isKeyOf_iff (table : TableReference) {side : List Char}
    (trimmed : Text.trimBy Text.isBlank side = path.text.toList) :
    ((columnOf? table side).map isKeyColumn).getD false = true ↔ path.IsKeyOf (DenotesInPlace table) := by
  rw [columnOf?, trimmed, IsKeyOf]
  by_cases qualified : path.qualifier = []
  · rw [path.cutLast_of_unqualified qualified, path.text_of_unqualified qualified]
    simp [qualified, path.column.isKeyColumn_iff]
  · rw [path.cutLast_of_qualified qualified]
    simp only [String.ofList_toList]
    by_cases named : namesTable (Text.lowercase path.qualifierText) table = true
    · simp [named, (namesTable_iff table path.qualifierText).mp named, path.column.isKeyColumn_iff]
    · simp [named, (namesTable_iff table path.qualifierText).not.mp named, qualified]

end ColumnPath

/-! ### Comparisons -/

theorem equalitySides?_of_not_mem {conjunct : List Char} (free : '=' ∉ conjunct) :
    equalitySides? conjunct = none := by
  rw [equalitySides?_eq, Text.cutFirst_eq_none free, Option.bind_none]

theorem equalitySides?_append {left : List Char} (free : '=' ∉ left) (right : List Char) :
    equalitySides? (left ++ '=' :: right) =
      if endsInOperator left || right.head? = some '>' then none
      else some (left.dropWhile (· = '('), (right.reverse.dropWhile (· = ')')).reverse) := by
  rw [equalitySides?_eq, Text.cutFirst_append free, Option.bind_some]

namespace Comparison

variable (comparison : Comparison)

theorem toList_text : comparison.text.toList = comparison.left.text.toList ++
    ' ' :: comparison.operator.sign.toList ++ ' ' :: comparison.right.text.toList := by
  simp [text]

/-- Only a comparison for equality has sides that are looked at. -/
theorem equalitySides?_text : equalitySides? comparison.text.toList =
    if comparison.operator = .equal then
      some (comparison.left.text.toList ++ [' '], ' ' :: comparison.right.text.toList)
    else none := by
  have leftFree := comparison.left.not_mem (c := '=') (by decide) (by decide)
  have rightFree := comparison.right.not_mem (c := '=') (by decide) (by decide)
  have longer {c : Char} (isOperator : c = '<' ∨ c = '>') :
      equalitySides? (comparison.left.text.toList ++ ' ' :: [c, '='] ++ ' ' :: comparison.right.text.toList) =
        none := by
    have shape : comparison.left.text.toList ++ ' ' :: [c, '='] ++ ' ' :: comparison.right.text.toList =
        (comparison.left.text.toList ++ [' ', c]) ++ '=' :: ' ' :: comparison.right.text.toList := by simp
    have free : '=' ∉ comparison.left.text.toList ++ [' ', c] := by
      rcases isOperator with rfl | rfl <;> simp [leftFree]
    have ends : endsInOperator (comparison.left.text.toList ++ [' ', c]) = true := by
      rcases isOperator with rfl | rfl <;> simp [endsInOperator]
    rw [shape, equalitySides?_append free, ends]
    rfl
  rw [toList_text]
  cases comparison.operator with
  | equal =>
      have opens : '(' ∉ comparison.left.text.toList ++ [' '] := by
        simp [comparison.left.not_mem (c := '(') (by decide) (by decide)]
      have closes : ')' ∉ (' ' :: comparison.right.text.toList).reverse := by
        simp [comparison.right.not_mem (c := ')') (by decide) (by decide)]
      have shape : comparison.left.text.toList ++ ' ' :: "=".toList ++ ' ' :: comparison.right.text.toList =
          (comparison.left.text.toList ++ [' ']) ++ '=' :: ' ' :: comparison.right.text.toList := by simp
      rw [ComparisonOperator.sign, shape, equalitySides?_append (by simp [leftFree]),
        Text.dropWhile_of_not_mem opens, Text.dropWhile_of_not_mem closes, List.reverse_reverse]
      simp [endsInOperator]
  | unequal => exact equalitySides?_of_not_mem (by simp [ComparisonOperator.sign, leftFree, rightFree])
  | less => exact equalitySides?_of_not_mem (by simp [ComparisonOperator.sign, leftFree, rightFree])
  | greater => exact equalitySides?_of_not_mem (by simp [ComparisonOperator.sign, leftFree, rightFree])
  | atMost => exact longer (.inl rfl)
  | atLeast => exact longer (.inr rfl)

/-- The words that join comparisons are not in one. -/
theorem unbroken {word : String} (isAnd : Text.sameIgnoringCase word "AND" = true)
    (spaceless : ' ' ∉ word.toList) (dotless : '.' ∉ word.toList) :
    Text.Unbroken (' ' :: (word.toList ++ [' '])) comparison.text.toList := by
  have sideFree (path : ColumnPath) : ' ' ∉ path.text.toList :=
    path.not_mem (by decide) (by decide)
  have signFree : ' ' ∉ comparison.operator.sign.toList := by
    cases comparison.operator <;> decide
  have signOther : comparison.operator.sign.toList ≠ word.toList := by
    intro same
    rw [← String.toList_inj.mp same] at isAnd
    revert isAnd
    cases comparison.operator <;> decide
  rw [toList_text]
  exact ((Text.unbroken_of_not_mem (sideFree _)).append_word spaceless signFree signOther).append_word
    spaceless (sideFree _) (comparison.right.ne_word dotless isAnd)

end Comparison

/-! ### Conditions -/

namespace PlainCondition

/-- Comparisons are told apart again. -/
theorem conjuncts_compared {comparisons : List Comparison} (nonempty : comparisons ≠ []) :
    conjuncts (compared comparisons).text.toList = comparisons.map (·.text.toList) := by
  obtain ⟨first, rest, rfl⟩ := List.exists_cons_of_ne_nil nonempty
  have joined : (compared (first :: rest)).text.toList = first.text.toList ++
      (rest.map (·.text.toList)).flatMap ((' ' :: ("AND".toList ++ [' '])) ++ ·) := by
    rw [text, List.map_cons, Text.toList_joinWith, List.map_map]
    rfl
  have upper : ∀ part ∈ (first :: rest).map (·.text.toList),
      Text.Unbroken (' ' :: ("AND".toList ++ [' '])) part := by
    intro part listed
    obtain ⟨comparison, _, rfl⟩ := List.mem_map.mp listed
    exact comparison.unbroken (by decide) (by decide) (by decide)
  have lower (comparison : Comparison) :
      Text.pieces " and ".toList comparison.text.toList = [comparison.text.toList] := by
    have isAnd : Text.sameIgnoringCase "and" "AND" = true := by decide
    exact Text.pieces_of_unbroken (by decide) (comparison.unbroken isAnd (by decide) (by decide))
  have cut : Text.pieces " AND ".toList (compared (first :: rest)).text.toList =
      (first :: rest).map (·.text.toList) := by
    rw [joined]
    exact Text.pieces_joined (List.cons_ne_nil _ _) upper
  rw [conjuncts, cut, List.flatMap_map, List.map_eq_flatMap]
  exact List.flatMap_congr fun comparison _ => lower comparison

/-- No comparison opens like a list of columns. -/
theorem usingColumns?_compared (comparisons : List Comparison) :
    usingColumns? (compared comparisons).text.toList = none := by
  rw [usingColumns?_eq]
  cases comparisons with
  | nil => rfl
  | cons first rest =>
      obtain ⟨tail, shape⟩ : ∃ tail, (compared (first :: rest)).text.toList =
          first.left.text.toList ++ ' ' :: (first.operator.sign.toList ++ tail) := by
        rw [text, List.map_cons, Text.toList_joinWith, first.toList_text]
        simp
      have free : ' ' ∉ first.left.text.toList := first.left.not_mem (by decide) (by decide)
      have unopened : Text.stripStart? "USING (".toList (compared (first :: rest)).text.toList = none := by
        rw [Option.eq_none_iff_forall_ne_some]
        intro behind found
        have opening : (compared (first :: rest)).text.toList = "USING".toList ++ ' ' :: '(' :: behind := by
          simpa [Text.stripStart?_eq_some_iff] using found
        have cut := Text.cutFirst_append free (first.operator.sign.toList ++ tail)
        rw [← shape, opening, Text.cutFirst_append (by decide)] at cut
        have next := (Prod.mk.inj (Option.some.inj cut)).2
        revert next
        cases first.operator <;> simp [ComparisonOperator.sign]
      rw [unopened, Option.bind_none]

/-- Of a list of columns the names are read. -/
theorem usingColumns?_shared {columns : List PlainName} (nonempty : columns ≠ []) :
    usingColumns? (shared columns).text.toList = some (columns.map (·.text.toList)) := by
  obtain ⟨first, rest, rfl⟩ := List.exists_cons_of_ne_nil nonempty
  have joined : (Text.joinWith ", " ((first :: rest).map PlainName.text)).toList =
      first.text.toList ++ (rest.map (' ' :: ·.text.toList)).flatMap ([','] ++ ·) := by
    rw [List.map_cons, Text.toList_joinWith]
    simp [List.flatMap_map]
  have opening : (shared (first :: rest)).text.toList = "USING (".toList ++
      ((Text.joinWith ", " ((first :: rest).map PlainName.text)).toList ++ [')']) := by
    simp [text]
  have commaless (name : PlainName) : ',' ∉ name.text.toList := name.not_mem (by decide)
  have unbroken : ∀ part ∈ first.text.toList :: rest.map (' ' :: ·.text.toList),
      Text.Unbroken [','] part := by
    intro part listed
    apply Text.unbroken_of_not_mem
    rcases List.mem_cons.mp listed with rfl | later
    · exact commaless first
    · obtain ⟨name, _, rfl⟩ := List.mem_map.mp later
      simp [commaless name]
  have trimmed (name : PlainName) : Text.trimBy Text.isBlank (' ' :: name.text.toList) = name.text.toList :=
    Text.trimBy_space_cons name.nonempty name.isBlank_of_mem
  rw [usingColumns?_eq, Text.stripStart?_eq_some_iff.mpr opening, Option.bind_some, listedColumns?,
    Text.stripEnd?_append, Option.map_some, joined, Text.pieces_joined (List.cons_ne_nil _ _) unbroken,
    List.map_cons, List.map_map, List.map_cons, Text.trimBy_of_kept first.nonempty first.isBlank_of_mem]
  simp [Function.comp_def, trimmed]

/-- Comparisons are on a key if a side of an equality among them is. -/
theorem comparesKey_map (right : TableReference) (comparisons : List Comparison) :
    comparesKey right (comparisons.map (·.text.toList)) = true ↔
      (compared comparisons).IsOnKey (DenotesInPlace right) := by
  rw [comparesKey, List.filterMap_map, List.any_filterMap, List.any_eq_true, IsOnKey]
  refine exists_congr fun comparison => and_congr_right fun _ => ?_
  rw [Function.comp_apply, comparison.equalitySides?_text]
  by_cases equality : comparison.operator = .equal
  · have left := comparison.left.isKeyOf_iff right
      (Text.trimBy_append_space comparison.left.nonempty comparison.left.isBlank_of_mem)
    have other := comparison.right.isKeyOf_iff right
      (Text.trimBy_space_cons comparison.right.nonempty comparison.right.isBlank_of_mem)
    simp [equality, left, other]
  · simp [equality]

/-- Without columns there is one without a name. -/
theorem usingColumns?_shared_nil : usingColumns? (shared []).text.toList = some [[]] := by
  have opening : Text.stripStart? "USING (".toList (shared []).text.toList = some [')'] := rfl
  have closing : Text.stripEnd? [')'] [')'] = some [] := rfl
  rw [usingColumns?_eq, opening, Option.bind_some, listedColumns?, closing, Option.map_some, Text.pieces_nil]
  rfl

/-- Without comparisons there is one without a text. -/
theorem conjuncts_compared_nil : conjuncts (compared []).text.toList = [[]] := by
  rw [conjuncts, show (compared []).text.toList = [] from rfl, Text.pieces_nil, List.flatMap_singleton,
    Text.pieces_nil]

/-- The text of a condition shows whether it is on a key of the joined relation. -/
theorem isKeyedCondition_text (condition : PlainCondition) (right : TableReference) :
    isKeyedCondition right condition.text.toList = true ↔ condition.IsOnKey (DenotesInPlace right) := by
  rw [isKeyedCondition_eq]
  cases condition with
  | shared columns =>
      by_cases none : columns = []
      · subst none
        rw [usingColumns?_shared_nil]
        simp [IsOnKey, show isKeyColumn [] = false from rfl]
      · rw [usingColumns?_shared none]
        simp [IsOnKey, PlainName.isKeyColumn_iff]
  | compared comparisons =>
      rw [usingColumns?_compared]
      by_cases none : comparisons = []
      · subst none
        rw [conjuncts_compared_nil]
        simp [comparesKey, equalitySides?_of_not_mem, IsOnKey]
      · rw [conjuncts_compared none]
        exact comparesKey_map right comparisons

end PlainCondition

/-! ### Joins -/

/-- A join, other than a cross join, is on a key just if its condition is: a list of columns one of which looks
like a key, or comparisons among which there is an equality with such a column on a side, without a qualifier
or with one that denotes the joined relation. The end of a name has there the form that it has in the whole
name, which is its own unless it loses a sigma. -/
theorem isKeyedJoin_iff (left right : TableReference) (kind : JoinKind) (condition : PlainCondition) :
    (isKeyedJoin { left, right, kind, condition := some condition.text } = true ↔
      kind ≠ .cross ∧ condition.IsOnKey (DenotesInPlace right)) ∧
    ((∀ qualifier, DenotesInPlace right qualifier ↔ Denotes right qualifier) ↔ ¬ LosesSigma right) := by
  refine ⟨?_, denotesInPlace_iff right⟩
  rw [isKeyedJoin, Bool.and_eq_true, bne_iff_ne]
  exact and_congr_right fun _ => condition.isKeyedCondition_text right

/-- A name of ASCII letters and digits. -/
def PlainName.ofAscii (text : String) (nonempty : text.toList ≠ [])
    (plain : (text.toList.all fun c => c.val < 128 && c.isAlphanum) = true) : PlainName where
  text := text
  nonempty := nonempty
  plain := by
    intro c listed
    have here := List.all_eq_true.mp plain c listed
    rw [Bool.and_eq_true, decide_eq_true_iff] at here
    exact isPlain_of_ascii here.1 here.2

def sigmaName : PlainName where
  text := "\u03a3"
  nonempty := by decide
  plain := List.forall_mem_singleton.mpr rfl

/-- The comparison `Σ.id = x.y`. -/
def sigmaComparison : Comparison where
  left := {
    qualifier := [sigmaName]
    column := .ofAscii "id" (by decide) (by decide)
    noAnd := by decide
  }
  operator := .equal
  right := {
    qualifier := [.ofAscii "x" (by decide) (by decide)]
    column := .ofAscii "y" (by decide) (by decide)
    noAnd := by decide
  }

/-- A join of a table `A.Σ` on this comparison. -/
def sigmaJoin : JoinClause where
  left := .named "x" none false
  right := .named "A.\u03a3" none false
  kind := .inner
  condition := some (PlainCondition.compared [sigmaComparison]).text

/-- A table `A.Σ` is not found by the qualifier `Σ`, since its lower-case name ends in a final sigma. -/
theorem sigma_relation_unkeyed :
    sigmaJoin.condition = some "\u03a3.id = x.y" ∧
    (PlainCondition.compared [sigmaComparison]).IsOnKey (Denotes sigmaJoin.right) ∧
    isKeyedJoin sigmaJoin = false := by
  have isKey : IsKeyName "id" := .inl (Text.IsLowerText.of_ascii (by decide)).lowercase_eq
  have names : Denotes sigmaJoin.right "\u03a3" :=
    .inr (.inr ⟨"A", "\u03a3", ⟨rfl, by decide⟩, rfl⟩)
  refine ⟨by decide, ⟨sigmaComparison, List.mem_singleton_self _, rfl, ?_⟩, ?_⟩
  · exact ⟨sigmaComparison.left, List.mem_cons_self, isKey, .inr names⟩
  · decide +kernel

end SqlLineage.Flow
