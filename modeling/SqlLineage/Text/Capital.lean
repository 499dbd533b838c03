/-
Module: SqlLineage.Text.Capital
Purpose: Capital letters, as far as they are letters of ASCII. A few letters beyond ASCII are written with
  those: the long s, the sharp s, the i without its dot, and letters that are joined in print.
Main exports: capital, capitalized
-/

namespace SqlLineage.Text

/-- The capitals of a character. A character whose capitals are none of ASCII stays as it is. -/
def capital : Char → List Char
  | 'ß' => ['S', 'S']
  | 'ı' => ['I']
  | 'ſ' => ['S']
  | 'ﬀ' => ['F', 'F']
  | 'ﬁ' => ['F', 'I']
  | 'ﬂ' => ['F', 'L']
  | 'ﬃ' => ['F', 'F', 'I']
  | 'ﬄ' => ['F', 'F', 'L']
  | 'ﬅ' | 'ﬆ' => ['S', 'T']
  | c => [c.toUpper]

/-- The text in capitals. -/
def capitalized (s : String) : String := String.ofList (s.toList.flatMap capital)

example : capitalized "lımit" = "LIMIT" := by decide

end SqlLineage.Text
