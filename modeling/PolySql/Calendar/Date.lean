import PolySql.Number.Digits

/-!
# Calendar dates

Dates of the Gregorian calendar, carried back before its introduction, with years from -262143 to
262142. A `Date` exists only if its day does.

* `Calendar.IsDate` : the year is in range, and the month and the day exist;
* `Date.ofParts?` : a date from its three numbers;
* `Date.text` : year, month and day with hyphens.
-/

namespace PolySql

namespace Calendar

/-- The first year with dates. -/
def firstYear : Int := -262143

/-- The last year with dates. -/
def lastYear : Int := 262142

/-- A year with a day on the 29th of February. -/
def isLeap (year : Int) : Bool := year % 4 == 0 && (year % 100 != 0 || year % 400 == 0)

/-- The number of days of a month from 1 to 12. -/
def monthLength (year : Int) (month : Nat) : Nat :=
  if month = 2 then if isLeap year then 29 else 28
  else if month = 4 ∨ month = 6 ∨ month = 9 ∨ month = 11 then 30
  else 31

/-- The three numbers name a day. -/
def IsDate (year : Int) (month day : Nat) : Prop :=
  (firstYear ≤ year ∧ year ≤ lastYear) ∧ (1 ≤ month ∧ month ≤ 12) ∧
    (1 ≤ day ∧ day ≤ monthLength year month)

instance (year : Int) (month day : Nat) : Decidable (IsDate year month day) := by
  unfold IsDate; infer_instance

/-- Four digits for a year from 0 to 9999; any other year has a sign and at least four digits. -/
def yearText (year : Int) : List Char :=
  if year < 0 then '-' :: Digits.padded 4 year.natAbs
  else if 9999 < year then '+' :: Digits.padded 4 year.natAbs
  else Digits.padded 4 year.natAbs

end Calendar

/-- A day of the calendar. -/
structure Date where
  year : Int
  month : Nat
  day : Nat
  exists_day : Calendar.IsDate year month day
deriving DecidableEq, Repr

namespace Date

/-- The date with these numbers, if there is one. -/
def ofParts? (year : Int) (month day : Nat) : Option Date :=
  if h : Calendar.IsDate year month day then some ⟨year, month, day, h⟩ else none

theorem ofParts?_self (d : Date) : ofParts? d.year d.month d.day = some d := by
  simp [ofParts?, d.exists_day]

/-- Year, month and day, the last two with two digits. -/
def text (d : Date) : List Char :=
  Calendar.yearText d.year ++ '-' :: Digits.padded 2 d.month ++ '-' :: Digits.padded 2 d.day

end Date

end PolySql
