/-!
# Binary floating point numbers of 64 bits

A `Binary64` is the bit pattern itself, so two numbers are equal exactly when their bits are: the
two zeros differ, and so do two NaNs with different payloads. Everything below is arithmetic on
natural numbers: a finite number is `significand * 2 ^ exponent`, with its sign apart.

* `isFinite`, `isNaN`, `isNegative`, `isZero`, `isIntegral` : classification;
* `wholePart` : the magnitude without its fraction;
* `Binary64.ofInt` : an integer rounded to nearest, ties to even;
* `Binary32.widen` : the 64-bit number equal to a 32-bit one.
-/

namespace PolySql

-- Powers are core's own, whatever else is imported; a literal exponent needs its type for that.
attribute [local instance (high)] instPowNat

/-- A 64-bit binary floating point number, given by its bits. -/
structure Binary64 where
  bits : UInt64
deriving DecidableEq, Repr

/-- A 32-bit binary floating point number, given by its bits. -/
structure Binary32 where
  bits : UInt32
deriving DecidableEq, Repr

namespace Binary64

/-! ## The three fields -/

/-- The sign bit is set; minus zero and some NaNs are negative too. -/
def isNegative (x : Binary64) : Bool := 2 ^ (63 : Nat) ≤ x.bits.toNat

/-- The eleven bits after the sign. -/
def exponentField (x : Binary64) : Nat := x.bits.toNat / 2 ^ (52 : Nat) % 2 ^ (11 : Nat)

/-- The last 52 bits. -/
def fractionField (x : Binary64) : Nat := x.bits.toNat % 2 ^ (52 : Nat)

/-- Puts the three fields together; a fraction field of `2 ^ 52` carries into the exponent. -/
def ofFields (negative : Bool) (exponent fraction : Nat) : Binary64 :=
  let sign := if negative then 2 ^ (63 : Nat) else 0
  ⟨UInt64.ofNat (sign + exponent * 2 ^ (52 : Nat) + fraction)⟩

/-! ## Magnitude and classes -/

def isFinite (x : Binary64) : Bool := x.exponentField != 2047

def isNaN (x : Binary64) : Bool := x.exponentField == 2047 && x.fractionField != 0

/-- The integer significand of a finite number. -/
def significand (x : Binary64) : Nat :=
  if x.exponentField = 0 then x.fractionField else 2 ^ (52 : Nat) + x.fractionField

/-- The power of two that scales the significand. -/
def exponent (x : Binary64) : Int := (max x.exponentField 1 : Nat) - 1075

def isZero (x : Binary64) : Bool := x.exponentField == 0 && x.fractionField == 0

/-- The magnitude of a finite number without its fraction. -/
def wholePart (x : Binary64) : Nat :=
  x.significand * 2 ^ x.exponent.toNat / 2 ^ (-x.exponent).toNat

/-- A finite number without a fraction. -/
def isIntegral (x : Binary64) : Bool :=
  x.isFinite && x.significand % 2 ^ (-x.exponent).toNat == 0

/-! ## Integers as floating point numbers -/

/-- `n / 2 ^ shift` rounded to the nearest integer, a tie to the even one. -/
def roundedShift (n shift : Nat) : Nat :=
  let q := n / 2 ^ shift
  let r := n % 2 ^ shift
  if 2 * r < 2 ^ shift then q
  else if 2 ^ shift < 2 * r then q + 1
  else q + q % 2

/-- The number nearest to an integer below `2 ^ 1023` in magnitude, a tie to the even one. -/
def ofInt (n : Int) : Binary64 :=
  let m := n.natAbs
  if m = 0 then ⟨0⟩
  else
    let top := m.log2
    let scaled := if top ≤ 52 then m * 2 ^ (52 - top) else roundedShift m (top - 52)
    ofFields (n < 0) (top + 1022) scaled

example : ofInt 1 = ⟨0x3ff0000000000000⟩ := by decide
example : ofInt (-3) = ⟨0xc008000000000000⟩ := by decide
example : ofInt (2 ^ 53 + 1) = ofInt (2 ^ 53) := by decide
example : ofInt (2 ^ 53 + 3) = ofInt (2 ^ 53 + 4) := by decide
example : ofInt (2 ^ 63 - 1) = ofInt (2 ^ 63) := by decide

end Binary64

namespace Binary32

/-- The same number with 64 bits. Widening is exact, and marks a NaN as quiet. -/
def widen (x : Binary32) : Binary64 :=
  let negative := decide (2 ^ (31 : Nat) ≤ x.bits.toNat)
  let exponent := x.bits.toNat / 2 ^ (23 : Nat) % 2 ^ (8 : Nat)
  let fraction := x.bits.toNat % 2 ^ (23 : Nat)
  if exponent = 255 then
    let quiet := 2 ^ (51 : Nat)
    .ofFields negative 2047
      (if fraction = 0 then 0 else fraction * 2 ^ (29 : Nat) % quiet + quiet)
  else if exponent = 0 then
    if fraction = 0 then .ofFields negative 0 0
    else
      -- a subnormal number is normal once it has the wider exponent range
      .ofFields negative (fraction.log2 + 873) (fraction * 2 ^ (52 - fraction.log2))
  else .ofFields negative (exponent + 896) (fraction * 2 ^ (29 : Nat))

example : widen ⟨0x3f800000⟩ = Binary64.ofInt 1 := by decide
example : widen ⟨0x80000000⟩ = ⟨0x8000000000000000⟩ := by decide
example : widen ⟨0x00000001⟩ = ⟨0x36a0000000000000⟩ := by decide
example : widen ⟨0x7f800001⟩ = ⟨0x7ff8000020000000⟩ := by decide

end Binary32

end PolySql
