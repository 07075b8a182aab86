import PolySql.Number.Binary64
import PolySql.Number.Digits

/-!
# The shortest decimal that reads back

A finite number is the nearest one to a whole interval of reals. `Binary64.shortest` picks a
decimal out of that interval: one on the coarsest power-of-ten grid that has a point inside, the
nearest to the number among those, and the greater of two that are equally near. On each grid only
the two neighbours of the number are tried, since a grid with a point inside the interval has one
of them inside.

* `Interval` : the reals that round to a number, over a common denominator;
* `Interval.onGrid` : the answer on the grid of multiples of `10 ^ k`, if there is one;
* `Decimal.positional` : digits with a point and without an exponent;
* `Binary64.text`, `Binary64.exactText` : the two spellings of a number.
-/

namespace PolySql

-- Powers are core's own, whatever else is imported.
attribute [local instance (high)] instPowNat

/-- The number `digits * 10 ^ exponent`. -/
structure Decimal where
  digits : Nat
  exponent : Int
deriving DecidableEq, Repr

/-- The reals that round to a positive number: between `low / den` and `high / den`, ends
included if `closed`; the number itself is `mid / den`. -/
structure Interval where
  low : Nat
  mid : Nat
  high : Nat
  den : Nat
  closed : Bool
deriving Repr

/-- `10 ^ k`, and one for a negative `k`. -/
def tenPow (k : Int) : Nat := 10 ^ k.toNat

namespace Interval

/-- Whether `n * 10 ^ k` lies in the interval. -/
def contains (i : Interval) (n : Nat) (k : Int) : Bool :=
  let point := n * tenPow k * i.den
  let low := i.low * tenPow (-k)
  let high := i.high * tenPow (-k)
  if i.closed then low ≤ point && point ≤ high else low < point && point < high

/-- The greatest multiple of `10 ^ k` that does not exceed the number, in units of `10 ^ k`. -/
def floorOn (i : Interval) (k : Int) : Nat := i.mid * tenPow (-k) / (i.den * tenPow k)

/-- The better neighbour of the number among the multiples of `10 ^ k` in the interval. -/
def onGrid (i : Interval) (k : Int) : Option Decimal :=
  let n := i.floorOn k
  if i.contains n k then
    if i.contains (n + 1) k && (2 * n + 1) * tenPow k * i.den ≤ 2 * i.mid * tenPow (-k) then
      some ⟨n + 1, k⟩
    else some ⟨n, k⟩
  else if i.contains (n + 1) k then some ⟨n + 1, k⟩
  else none

/-- The least power of ten above the number. -/
def top (i : Interval) : Int :=
  if i.den ≤ i.mid then (Digits.ofNat (i.mid / i.den)).length
  else 1 - (Digits.ofNat ((i.den - 1) / i.mid)).length

/-- The coarsest grid with a point in the interval decides. Seventeen digits always suffice. -/
def shortest (i : Interval) : Decimal :=
  ((List.range 18).findSome? fun (j : Nat) => i.onGrid (i.top - j)).getD
    ⟨i.floorOn (i.top - 17), i.top - 17⟩

end Interval

/-- Digits with a decimal point where the exponent asks for one, and no exponent. -/
def Decimal.positional (d : Decimal) : List Char :=
  let ds := Digits.ofNat d.digits
  let places := (-d.exponent).toNat
  if places = 0 then ds ++ List.replicate d.exponent.toNat '0'
  else if places < ds.length then
    ds.take (ds.length - places) ++ '.' :: ds.drop (ds.length - places)
  else '0' :: '.' :: List.replicate (places - ds.length) '0' ++ ds

namespace Binary64

/-- The reals that round to a finite number other than zero. Below a power of two the neighbours
are half as far apart. -/
def interval (x : Binary64) : Interval :=
  let m := x.significand
  let below := if x.fractionField = 0 ∧ 1 < x.exponentField then 1 else 2
  let up := 2 ^ (x.exponent - 2).toNat
  { low := (4 * m - below) * up
    mid := 4 * m * up
    high := (4 * m + 2) * up
    den := 2 ^ (2 - x.exponent).toNat
    closed := m % 2 == 0 }

/-- The shortest decimal that reads back as the magnitude of a finite number. -/
def shortest (x : Binary64) : Decimal :=
  if x.isZero then ⟨0, 0⟩ else x.interval.shortest

/-- A minus sign for a number whose sign bit is set, minus zero too. -/
def sign (x : Binary64) : List Char := if x.isNegative then ['-'] else []

/-- The shortest digits that read back, never with an exponent. -/
def text (x : Binary64) : List Char :=
  if x.isNaN then ['N', 'a', 'N']
  else if x.isFinite then x.sign ++ x.shortest.positional
  else x.sign ++ ['i', 'n', 'f']

/-- Every digit of a number without a fraction, and one zero after the point. -/
def exactText (x : Binary64) : List Char :=
  x.sign ++ Digits.ofNat x.wholePart ++ ['.', '0']

example : text ⟨0x3fb999999999999a⟩ = ['0', '.', '1'] := by decide +kernel
example : text ⟨0x8000000000000000⟩ = ['-', '0'] := by decide
example : text ⟨0x4341c37937e08000⟩ = '1' :: List.replicate 16 '0' := by decide +kernel
-- an exact tie between two texts of seventeen digits goes to the greater
example : text ⟨0x3e60000000000000⟩ = "0.000000029802322387695313".toList := by decide +kernel
example : exactText ⟨0x8000000000000000⟩ = ['-', '0', '.', '0'] := by decide +kernel

end Binary64

end PolySql
