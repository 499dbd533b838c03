/-
Module: SqlLineage.Decimal.Shortest
Purpose: The shortest decimal that reads back as a given binary number: of all decimals nearer to the
  number than to its neighbours, one with the fewest digits, and of those the nearest.
Main exports: Binary, Binary.shortest, Decimal, Decimal.ofFloat?
-/

namespace SqlLineage

/-- The decimal number `digits * 10 ^ exponent`. -/
structure Decimal where
  digits : Nat
  exponent : Int
deriving Repr, Inhabited, DecidableEq

namespace Decimal

/-- The same number without zeros at the end of its digits. The first argument bounds their count. -/
def trimZeros : Nat → Decimal → Decimal
  | 0, d => d
  | fuel + 1, d =>
    if d.digits ≠ 0 ∧ d.digits % 10 = 0 then
      trimZeros fuel ⟨d.digits / 10, d.exponent + 1⟩
    else d

end Decimal

/-- A positive binary number `mantissa * 2 ^ exponent`. -/
structure Binary where
  mantissa : Nat
  exponent : Int
  /-- Whether the next smaller number is half as far away as the next larger one. -/
  narrowBelow : Bool
deriving Repr, Inhabited, DecidableEq

/-- A positive fraction, kept as it is written. -/
structure Fraction where
  num : Nat
  den : Nat
deriving Repr, Inhabited, DecidableEq

namespace Fraction

/-- `n * base ^ exponent`. -/
def scaled (n base : Nat) (exponent : Int) : Fraction :=
  if 0 ≤ exponent then ⟨n * Nat.pow base exponent.toNat, 1⟩ else ⟨n, Nat.pow base (-exponent).toNat⟩

def le (a b : Fraction) : Bool := a.num * b.den ≤ b.num * a.den

def lt (a b : Fraction) : Bool := a.num * b.den < b.num * a.den

/-- The whole part of `a / b`. -/
def quotient (a b : Fraction) : Nat := (a.num * b.den) / (b.num * a.den)

/-- The distance of two fractions. -/
def distance (a b : Fraction) : Fraction :=
  let x := a.num * b.den
  let y := b.num * a.den
  ⟨(x - y) + (y - x), a.den * b.den⟩

end Fraction

namespace Binary

/-- The number itself. -/
def value (b : Binary) : Fraction := Fraction.scaled (4 * b.mantissa) 2 (b.exponent - 2)

/-- Half way to the next smaller number. -/
def lower (b : Binary) : Fraction :=
  Fraction.scaled (4 * b.mantissa - (if b.narrowBelow then 1 else 2)) 2 (b.exponent - 2)

/-- Half way to the next larger number. -/
def upper (b : Binary) : Fraction := Fraction.scaled (4 * b.mantissa + 2) 2 (b.exponent - 2)

/-- Whether a decimal fraction reads back as this number. The half-way points do so exactly when the
mantissa is even. -/
def readsBack (b : Binary) (x : Fraction) : Bool :=
  if b.mantissa % 2 = 0 then b.lower.le x && x.le b.upper else b.lower.lt x && x.lt b.upper

/-- The least `k` from `start` on with `x < 10 ^ k`. -/
def magnitudeFrom (x : Fraction) (start : Int) : Nat → Int
  | 0 => start
  | fuel + 1 => if x.lt (.scaled 1 10 start) then start else magnitudeFrom x (start + 1) fuel

/-- The least `k` with `x < 10 ^ k`, for the numbers that a 64-bit float can hold. -/
def magnitude (x : Fraction) : Int :=
  let whole := x.num / x.den
  if whole = 0 then magnitudeFrom x (-330) 331 else ((toString whole).length : Nat)

/-- The nearer one of the number's two neighbours on the grid of multiples of `10 ^ step`, as far as
they read back. Of two at the same distance the even one is taken. -/
def onGrid? (b : Binary) (step : Int) : Option Decimal :=
  let below := b.value.quotient (.scaled 1 10 step)
  let low := Fraction.scaled below 10 step
  let high := Fraction.scaled (below + 1) 10 step
  let lowDistance := b.value.distance low
  let highDistance := b.value.distance high
  match b.readsBack low, b.readsBack high with
  | true, true =>
    if lowDistance.lt highDistance || (!highDistance.lt lowDistance && below % 2 = 0) then
      some ⟨below, step⟩
    else
      some ⟨below + 1, step⟩
  | true, false => some ⟨below, step⟩
  | false, true => some ⟨below + 1, step⟩
  | false, false => none

/-- The decimal with the fewest digits that reads back as this number, and of those the nearest.
Seventeen digits always suffice. -/
def shortest (b : Binary) : Decimal :=
  let top := magnitude b.value
  let grids := (List.range 17).map fun count => top - Int.ofNat (count + 1)
  ((grids.findSome? b.onGrid?).getD ⟨b.mantissa, 0⟩).trimZeros 400

/-- The positive number with these bits of a 64-bit float, its sign aside. -/
def ofBits (bits : Nat) : Binary :=
  let stored : Nat := bits % Nat.pow 2 52
  let power : Nat := bits / Nat.pow 2 52 % Nat.pow 2 11
  if power = 0 then ⟨stored, -1074, false⟩
  else ⟨stored + Nat.pow 2 52, (power : Int) - 1075, stored = 0 && power > 1⟩

end Binary

/-- The shortest decimal that reads back as the magnitude of a finite float other than zero. -/
def Decimal.ofFloat? (x : Float) : Option Decimal :=
  if x.isFinite && x != 0.0 then some (Binary.ofBits x.abs.toBits.toNat).shortest else none

end SqlLineage
