/-!
# Decimal digits

* `Digits.ofNat`, `Digits.ofInt` : the shortest decimal text of a number;
* `Digits.padded` : the same with zeros in front up to a width;
* `Digits.value` : the number that a run of digits stands for.
-/

namespace PolySql.Digits

/-- The decimal digits of `n`, most significant first, without leading zeros. -/
def ofNat (n : Nat) : List Char := Nat.toDigits 10 n

/-- An integer: its digits, after a minus sign if it is negative. -/
def ofInt : Int → List Char
  | .ofNat n => ofNat n
  | .negSucc n => '-' :: ofNat (n + 1)

/-- At least `width` digits, zeros filling up in front. -/
def padded (width n : Nat) : List Char :=
  List.replicate (width - (ofNat n).length) '0' ++ ofNat n

/-- Whether a character is one of the ten ASCII digits. -/
def isDigit (c : Char) : Bool := 48 ≤ c.toNat && c.toNat ≤ 57

/-- The number that a run of digits stands for. -/
def value (ds : List Char) : Nat := ds.foldl (fun n c => 10 * n + (c.toNat - 48)) 0

@[simp] theorem value_nil : value [] = 0 := rfl

/-- One more digit at the end multiplies by ten and adds. -/
theorem value_concat (ds : List Char) (c : Char) :
    value (ds ++ [c]) = 10 * value ds + (c.toNat - 48) := by
  simp [value]

theorem length_padded (width n : Nat) :
    (padded width n).length = max width (ofNat n).length := by
  simp [padded]; omega

end PolySql.Digits
