/-
Module: SqlLineage.Text.Cut
Purpose: Cutting a text at a character or at a word, and joining pieces again.
Main exports: cutFirst, cutLast, pieces, stripStart?, stripEnd?, replaceAll, joinWith
-/

namespace SqlLineage.Text

/-- What follows the word when the text starts with it. -/
def stripStart? : List Char → List Char → Option (List Char)
  | [], rest => some rest
  | _ :: _, [] => none
  | w :: word, c :: cs => if w = c then stripStart? word cs else none

theorem stripStart?_eq_some_iff {word cs rest : List Char} :
    stripStart? word cs = some rest ↔ cs = word ++ rest := by
  induction word generalizing cs with
  | nil => simp [stripStart?, eq_comm]
  | cons w word ih =>
    cases cs with
    | nil => simp [stripStart?]
    | cons c cs =>
      by_cases same : w = c
      · subst same; simp [stripStart?, ih]
      · simp [stripStart?, same, Ne.symm same]

/-- What precedes the word when the text ends with it. -/
def stripEnd? (word cs : List Char) : Option (List Char) :=
  (stripStart? word.reverse cs.reverse).map List.reverse

/-- The text before and after the first occurrence of a character. -/
def cutFirst (mark : Char) : List Char → Option (List Char × List Char)
  | [] => none
  | c :: cs =>
    if c = mark then some ([], cs)
    else (cutFirst mark cs).map fun (before, after) => (c :: before, after)

/-- The text before and after the last occurrence of a character. -/
def cutLast (mark : Char) (cs : List Char) : Option (List Char × List Char) :=
  (cutFirst mark cs.reverse).map fun (after, before) => (before.reverse, after.reverse)

theorem stripStart?_length {word cs rest : List Char} (h : stripStart? word cs = some rest)
    (nonempty : word ≠ []) : rest.length < cs.length := by
  rw [stripStart?_eq_some_iff.1 h]
  cases word with
  | nil => exact absurd rfl nonempty
  | cons w word => simp only [List.cons_append, List.length_cons, List.length_append]; omega

/-- The pieces between the occurrences of a word, read from left to right. A text without the word is
one piece, and the empty word cuts nothing. The first argument holds, nearest first, the characters
before the text that belong to its first piece. -/
def piecesAfter (word before : List Char) : List Char → List (List Char)
  | [] => [before.reverse]
  | c :: cs =>
    if nonempty : word ≠ [] then
      match found : stripStart? word (c :: cs) with
      | some rest =>
        have : rest.length < (c :: cs).length := stripStart?_length found nonempty
        before.reverse :: piecesAfter word [] rest
      | none => piecesAfter word (c :: before) cs
    else piecesAfter word (c :: before) cs
termination_by cs => cs.length
decreasing_by
  · exact this
  · simp
  · simp

/-- The pieces of a text between the occurrences of a word. -/
def pieces (word cs : List Char) : List (List Char) := piecesAfter word [] cs

/-- The texts one after the other with the separator between two of them. -/
def joinWith (separator : String) : List String → String
  | [] => ""
  | [s] => s
  | s :: t :: rest => s ++ separator ++ joinWith separator (t :: rest)

/-- The text with each occurrence of a word, read from left to right, replaced by another. -/
def replaceAll (word replacement cs : List Char) : List Char :=
  List.intercalate replacement (pieces word cs)

end SqlLineage.Text
