/-!
# Character classes as runs of code points

A class of characters is a list of runs; a run is an arithmetic progression of code points, since
many alphabets alternate between two classes.

* `CharClass.holds` : membership of a character in a class.
-/

namespace PolySql

/-- The code points `first`, `first + step`, and so on up to `last`. -/
structure CharRun where
  first : Nat
  last : Nat
  step : Nat

/-- Whether a code point is on the run. -/
def CharRun.holds (r : CharRun) (n : Nat) : Bool :=
  r.first ≤ n && n ≤ r.last && (n - r.first) % r.step == 0

/-- A class of characters. -/
abbrev CharClass := List CharRun

/-- Whether a character belongs to the class. -/
def CharClass.holds (rs : CharClass) (c : Char) : Bool := rs.any fun r => r.holds c.toNat

end PolySql
