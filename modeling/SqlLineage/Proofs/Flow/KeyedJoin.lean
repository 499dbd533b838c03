/-
Module: SqlLineage.Proofs.Flow.KeyedJoin
Purpose: Whether a join is on a key does not depend on the letter case of its condition, apart from the
  words at which the condition is cut.
Main exports: isKeyColumn_capitals, columnOf?_capitals, equalitySides?_capitals, usingColumns?_congr,
  isKeyedCondition_congr
-/
import SqlLineage.Flow.KeyedJoin
import SqlLineage.Proofs.Text.LetterCase

namespace SqlLineage.Flow

open Lineage (TableReference)
open Text (capitals)

theorem isColumnQuote_toUpper (c : Char) : isColumnQuote c.toUpper = isColumnQuote c := by
  have double : Text.Spares Char.toUpper '\x22' := Text.spares_toUpper (by decide)
  have back : Text.Spares Char.toUpper '\x60' := Text.spares_toUpper (by decide)
  have opens : Text.Spares Char.toUpper '[' := Text.spares_toUpper (by decide)
  have closes : Text.Spares Char.toUpper ']' := Text.spares_toUpper (by decide)
  simp only [isColumnQuote, double c, back c, opens c, closes c]

theorem isKeyColumn_capitals (column : List Char) : isKeyColumn (capitals column) = isKeyColumn column := by
  rw [isKeyColumn, isKeyColumn, Text.trimBy_capitals isColumnQuote_toUpper, Text.lowercase_capitals]

theorem isKeyColumn_comp_capitals : isKeyColumn ∘ capitals = isKeyColumn := by
  funext column
  rw [Function.comp_apply, isKeyColumn_capitals]

theorem columnOf?_capitals (table : TableReference) (side : List Char) :
    columnOf? table (capitals side) = (columnOf? table side).map capitals := by
  have spares : Text.Spares Char.toUpper '.' := Text.spares_toUpper (by decide)
  have cut := Text.cutLast_map spares (Text.trimBy Text.isBlank side)
  rw [columnOf?, columnOf?, Text.trimBy_capitals Text.isBlank_toUpper, capitals, cut]
  cases Text.cutLast '.' (Text.trimBy Text.isBlank side) with
  | none => rfl
  | some parts =>
      have qualifier := Text.lowercase_capitals parts.1
      simp only [capitals] at qualifier
      simp only [Option.map_some, Prod.map, qualifier]
      split <;> rfl

/-- Whether the equals sign behind this text belongs to a longer operator. -/
def endsInOperator (left : List Char) : Bool :=
  match left.getLast? with
  | some c => c = '<' || c = '>' || c = '!'
  | none => false

theorem endsInOperator_capitals (left : List Char) :
    endsInOperator (capitals left) = endsInOperator left := by
  rw [endsInOperator, endsInOperator, capitals, List.getLast?_map]
  cases left.getLast? with
  | none => rfl
  | some c =>
      have less : Text.Spares Char.toUpper '<' := Text.spares_toUpper (by decide)
      have greater : Text.Spares Char.toUpper '>' := Text.spares_toUpper (by decide)
      have no : Text.Spares Char.toUpper '!' := Text.spares_toUpper (by decide)
      simp only [Option.map_some, less c, greater c, no c]

theorem head?_capitals_eq_greater (right : List Char) :
    (capitals right).head? = some '>' ↔ right.head? = some '>' := by
  cases right with
  | nil => rfl
  | cons c rest =>
      simp only [capitals, List.map_cons, List.head?_cons, Option.some.injEq]
      exact Text.spares_toUpper (by decide) c

theorem equalitySides?_eq (conjunct : List Char) : equalitySides? conjunct =
    (Text.cutFirst '=' conjunct).bind fun parts =>
      if endsInOperator parts.1 || parts.2.head? = some '>' then none
      else some (parts.1.dropWhile (· = '('), (parts.2.reverse.dropWhile (· = ')')).reverse) := rfl

theorem equalitySides?_capitals (conjunct : List Char) :
    equalitySides? (capitals conjunct) = (equalitySides? conjunct).map (Prod.map capitals capitals) := by
  have spares : Text.Spares Char.toUpper '=' := Text.spares_toUpper (by decide)
  have cut : Text.cutFirst '=' (capitals conjunct) =
      (Text.cutFirst '=' conjunct).map (Prod.map capitals capitals) := Text.cutFirst_map spares conjunct
  rw [equalitySides?_eq, equalitySides?_eq, cut]
  cases Text.cutFirst '=' conjunct with
  | none => rfl
  | some parts =>
      have opens := Text.dropWhile_mark_capitals (show '('.isAlpha = false by decide) parts.1
      have closes := Text.dropWhile_mark_capitals (show ')'.isAlpha = false by decide) parts.2.reverse
      simp only [Option.map_some, Option.bind_some, Prod.map, endsInOperator_capitals,
        head?_capitals_eq_greater, opens, Text.reverse_capitals, closes]
      split <;> rfl

/-- Whether one of the conjuncts compares a column of the relation that looks like a key for equality. -/
def comparesKey (right : TableReference) (conjuncts : List (List Char)) : Bool :=
  (conjuncts.filterMap equalitySides?).any fun (left, other) =>
    [left, other].any fun side => ((columnOf? right side).map isKeyColumn).getD false

theorem isKeyedCondition_eq (right : TableReference) (condition : List Char) :
    isKeyedCondition right condition =
      match usingColumns? condition with
      | some columns => columns.any isKeyColumn
      | none => comparesKey right (conjuncts condition) := rfl

theorem comparesKey_capitals (right : TableReference) (conjuncts : List (List Char)) :
    comparesKey right (conjuncts.map capitals) = comparesKey right conjuncts := by
  have sides : (conjuncts.map capitals).filterMap equalitySides? =
      (conjuncts.filterMap equalitySides?).map (Prod.map capitals capitals) := by
    rw [List.filterMap_map, List.map_filterMap]
    exact List.filterMap_congr fun conjunct _ => equalitySides?_capitals conjunct
  have column : ∀ side, ((columnOf? right (capitals side)).map isKeyColumn).getD false =
      ((columnOf? right side).map isKeyColumn).getD false := by
    intro side
    rw [columnOf?_capitals, Option.map_map, isKeyColumn_comp_capitals]
  simp only [comparesKey, sides, List.any_map, Function.comp_def, Prod.map, List.any_cons, List.any_nil,
    column]

/-! ### Columns of `USING` -/

/-- The columns behind the opening of a `USING` clause. -/
def listedColumns? (rest : List Char) : Option (List (List Char)) :=
  (Text.stripEnd? [')'] rest).map fun columns =>
    (Text.pieces [','] columns).map (Text.trimBy Text.isBlank)

theorem usingColumns?_eq (condition : List Char) :
    usingColumns? condition = (Text.stripStart? "USING (".toList condition).bind listedColumns? := by
  unfold usingColumns? listedColumns?
  cases Text.stripStart? "USING (".toList condition with
  | none => rfl
  | some rest => cases found : Text.stripEnd? [')'] rest <;> simp [found]

theorem listedColumns?_capitals (rest : List Char) :
    listedColumns? (capitals rest) = (listedColumns? rest).map (List.map capitals) := by
  have closes : Text.stripEnd? [')'] (capitals rest) = (Text.stripEnd? [')'] rest).map capitals :=
    Text.stripEnd?_map (by simp [Text.spares_toUpper (show ')'.isAlpha = false by decide)]) rest
  have cut : ∀ columns, Text.pieces [','] (capitals columns) =
      (Text.pieces [','] columns).map capitals := fun columns =>
    Text.pieces_map (by simp [Text.spares_toUpper (show ','.isAlpha = false by decide)]) columns
  rw [listedColumns?, listedColumns?, closes, Option.map_map, Option.map_map]
  congr 1
  funext columns
  simp [cut, Text.trimBy_capitals Text.isBlank_toUpper]

/-- Clauses that open alike have the same columns, whatever the case of what is behind the opening. -/
theorem usingColumns?_congr {condition other : List Char}
    (opening : (Text.stripStart? "USING (".toList condition).map capitals =
      (Text.stripStart? "USING (".toList other).map capitals) :
    (usingColumns? condition).map (List.map capitals) =
      (usingColumns? other).map (List.map capitals) := by
  have ofCapitals : ∀ condition, (usingColumns? condition).map (List.map capitals) =
      ((Text.stripStart? "USING (".toList condition).map capitals).bind listedColumns? := by
    intro condition
    rw [usingColumns?_eq]
    cases Text.stripStart? "USING (".toList condition with
    | none => rfl
    | some rest => exact (listedColumns?_capitals rest).symm
  rw [ofCapitals, ofCapitals, opening]

/-! ### Conditions -/

/-- Conditions that are cut into the same pieces, whatever the case of their letters, are on a key alike. -/
theorem isKeyedCondition_congr (right : TableReference) {condition other : List Char}
    (columns : (usingColumns? condition).map (List.map capitals) =
      (usingColumns? other).map (List.map capitals))
    (pieces : (conjuncts condition).map capitals = (conjuncts other).map capitals) :
    isKeyedCondition right condition = isKeyedCondition right other := by
  have anyKey : ∀ columns : List (List Char), columns.any isKeyColumn =
      (columns.map capitals).any isKeyColumn := by
    intro columns
    rw [List.any_map, isKeyColumn_comp_capitals]
  rw [isKeyedCondition_eq, isKeyedCondition_eq]
  cases found : usingColumns? condition with
  | none =>
      rw [found, Option.map_none, eq_comm, Option.map_eq_none_iff] at columns
      rw [columns]
      show comparesKey right (conjuncts condition) = comparesKey right (conjuncts other)
      rw [← comparesKey_capitals, pieces, comparesKey_capitals]
  | some listed =>
      rw [found, Option.map_some, eq_comm, Option.map_eq_some_iff] at columns
      obtain ⟨again, foundToo, same⟩ := columns
      rw [foundToo]
      show listed.any isKeyColumn = again.any isKeyColumn
      rw [anyKey, anyKey again, same]

end SqlLineage.Flow
