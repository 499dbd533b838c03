/-
Module: SqlLineage.Decimal.Reading
Purpose: Reading decimal numbers as floats, to the nearest float.
Main exports: digitsValue, nearestFloat?, readFloat?
-/

namespace SqlLineage.Decimal

/-- The value of decimal digits. -/
def digitsValue (digits : List Char) : Nat :=
  digits.foldl (fun value c => value * 10 + (c.toNat - 48)) 0

/-- Numbers with more places before the point than this exceed all floats, and those with more zeros
after it than this are nearer to zero than to the least float. -/
def placeLimit : Int := 400

/-- The float nearest to the number `0.d₁d₂… * 10 ^ places`, given by its significant digits, of which the
first is not zero. Nothing if it exceeds all floats. -/
def nearestFloat? (digits : List Char) (places : Int) : Option Float :=
  if digits.isEmpty || places < -placeLimit then some 0.0
  else if placeLimit < places then none
  else
    let exponent := places - digits.length
    let x := Float.ofScientific (digitsValue digits) (exponent < 0) exponent.natAbs
    if x.isInf then none else some x

/-- The sign in front of a number and the text after it. -/
def readSign : List Char → Bool × List Char
  | '-' :: rest => (true, rest)
  | '+' :: rest => (false, rest)
  | rest => (false, rest)

/-- The exponent that is the whole of a text; an empty text is the exponent zero. -/
def readExponent? : List Char → Option Int
  | [] => some 0
  | c :: rest =>
    if c = 'e' || c = 'E' then
      let (isNegative, digits) := readSign rest
      if digits.isEmpty || !digits.all Char.isDigit then none
      else
        let size : Int := digitsValue digits
        some (if isNegative then -size else size)
    else none

/-- The number that a text is: a sign, digits with at most one point among or around them, and an
exponent; all but one digit may be missing. A number beyond all floats is none. -/
def readFloat? (text : List Char) : Option Float := do
  let (isNegative, unsigned) := readSign text
  let whole := unsigned.takeWhile Char.isDigit
  let rest := unsigned.dropWhile Char.isDigit
  let (fraction, rest) :=
    match rest with
    | '.' :: rest => (rest.takeWhile Char.isDigit, rest.dropWhile Char.isDigit)
    | rest => ([], rest)
  let exponent ← readExponent? rest
  let digits := whole ++ fraction
  if digits.isEmpty then none
  let significant := digits.dropWhile (· == '0')
  let x ← nearestFloat? significant (significant.length + exponent - fraction.length)
  pure (if isNegative then -x else x)

end SqlLineage.Decimal
