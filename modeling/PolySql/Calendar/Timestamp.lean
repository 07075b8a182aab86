import PolySql.Calendar.Date

/-!
# Points in time without a zone

A `Timestamp` is a date with a time of day down to the nanosecond. A leap second is the second 59
with a full second or more of nanoseconds; its text has the second 60.

* `Calendar.IsTime` : the four numbers name a time of day;
* `Timestamp.ofParts?` : a timestamp from a date and those numbers;
* `Timestamp.text` : date, blank, time, and as few digits of fraction as are exact.
-/

namespace PolySql

namespace Calendar

/-- Nanoseconds in a second. -/
def nanosPerSecond : Nat := 1000000000

/-- The four numbers name a time of day. -/
def IsTime (hour minute second nanos : Nat) : Prop :=
  (hour < 24 ∧ minute < 60 ∧ second < 60) ∧
    (nanos < nanosPerSecond ∨ second = 59 ∧ nanos < 2 * nanosPerSecond)

instance (hour minute second nanos : Nat) : Decidable (IsTime hour minute second nanos) := by
  unfold IsTime; infer_instance

/-- A point and three, six or nine digits, the fewest that are exact; nothing for a whole second. -/
def fractionText (nanos : Nat) : List Char :=
  if nanos = 0 then []
  else if nanos % 1000000 = 0 then '.' :: Digits.padded 3 (nanos / 1000000)
  else if nanos % 1000 = 0 then '.' :: Digits.padded 6 (nanos / 1000)
  else '.' :: Digits.padded 9 nanos

end Calendar

/-- A date and a time of day. -/
structure Timestamp where
  date : Date
  hour : Nat
  minute : Nat
  second : Nat
  nanos : Nat
  exists_time : Calendar.IsTime hour minute second nanos
deriving DecidableEq, Repr

namespace Timestamp

/-- The timestamp with these parts, if there is one. -/
def ofParts? (date : Date) (hour minute second nanos : Nat) : Option Timestamp :=
  if h : Calendar.IsTime hour minute second nanos then some ⟨date, hour, minute, second, nanos, h⟩
  else none

theorem ofParts?_self (t : Timestamp) :
    ofParts? t.date t.hour t.minute t.second t.nanos = some t := by
  simp [ofParts?, t.exists_time]

/-- The second as written: 60 for a leap second. -/
def writtenSecond (t : Timestamp) : Nat := t.second + t.nanos / Calendar.nanosPerSecond

/-- The date, a blank, and the time with colons and a fraction. -/
def text (t : Timestamp) : List Char :=
  t.date.text ++ ' ' :: Digits.padded 2 t.hour ++ ':' :: Digits.padded 2 t.minute ++
    ':' :: Digits.padded 2 t.writtenSecond ++
    Calendar.fractionText (t.nanos % Calendar.nanosPerSecond)

end Timestamp

end PolySql
