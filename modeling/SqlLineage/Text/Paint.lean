/-
Module: SqlLineage.Text.Paint
Purpose: Colours and bold type on a terminal, by escape sequences.
Main exports: Paint, paint
-/

namespace SqlLineage.Text

/-- How a text is set off on a terminal. -/
inductive Paint where
  | bold
  | red
  | green
  | yellow
  | brightCyan
  | rgb (red green blue : Nat)
deriving Repr, Inhabited, DecidableEq

/-- The parameters of the escape sequence that turns it on. -/
def Paint.code : Paint → String
  | bold => "1"
  | red => "31"
  | green => "32"
  | yellow => "33"
  | brightCyan => "96"
  | rgb r g b => "38;2;" ++ toString r ++ ";" ++ toString g ++ ";" ++ toString b

/-- The text set off, or as it is where no colours are wanted. -/
def paint (colours : Bool) (style : Paint) (text : String) : String :=
  if colours then "\x1b[" ++ style.code ++ "m" ++ text ++ "\x1b[0m" else text

end SqlLineage.Text
