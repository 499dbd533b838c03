/-
Module: SqlLineage.Text.Ascii
Purpose: Letter case of keywords, which are told apart by ASCII letters only.
Main exports: upper, sameIgnoringCase
-/

namespace SqlLineage.Text

/-- The text with its ASCII letters in upper case; other letters stay as they are. -/
def upper (s : String) : String := String.ofList (s.toList.map Char.toUpper)

/-- Whether two texts differ at most in the case of ASCII letters. -/
def sameIgnoringCase (s t : String) : Bool :=
  s.toList.map Char.toUpper == t.toList.map Char.toUpper

theorem sameIgnoringCase_iff (s t : String) :
    sameIgnoringCase s t = true ↔ s.toList.map Char.toUpper = t.toList.map Char.toUpper := by
  simp [sameIgnoringCase]

end SqlLineage.Text
