import PolySql.Calendar.Timestamp
import PolySql.Text.Blank

/-!
# Reading dates and timestamps

A reading step takes the text that is left and gives what it read with the rest, or nothing. Blanks
may stand before every number. A year without a sign has at most four digits, one with a sign has
any number of them; every other number has at most two. Digits of a fraction after the ninth are
dropped, the second 60 is a leap second, and nothing may be left over.

* `Date.read?`, `Timestamp.read?` : whole texts;
* `Calendar.number?`, `Calendar.year?`, `Calendar.fraction?` : the parts.
-/

namespace PolySql

-- Powers are core's own, whatever else is imported.
attribute [local instance (high)] instPowNat

namespace Calendar

/-- The digits in front, at least one, as a number. -/
def digits? (cs rest : List Char) : Option (Nat × List Char) :=
  if cs.isEmpty then none else some (Digits.value cs, rest)

/-- A number of one to `width` digits, after any blanks. -/
def number? (width : Nat) (cs : List Char) : Option (Nat × List Char) :=
  let cs := Text.skipBlanks cs
  let ds := (cs.take width).takeWhile Digits.isDigit
  digits? ds (cs.drop ds.length)

/-- A number of any number of digits. -/
def longNumber? (cs : List Char) : Option (Nat × List Char) :=
  digits? (cs.takeWhile Digits.isDigit) (cs.dropWhile Digits.isDigit)

/-- A year: four digits at most, or a sign and any number of digits. -/
def year? (cs : List Char) : Option (Int × List Char) :=
  match Text.skipBlanks cs with
  | '-' :: r => (longNumber? r).map fun (n, r) => (-(n : Int), r)
  | '+' :: r => (longNumber? r).map fun (n, r) => ((n : Int), r)
  | cs => (number? 4 cs).map fun (n, r) => ((n : Int), r)

/-- The given character. -/
def exactly? (c : Char) : List Char → Option (List Char)
  | x :: r => if x = c then some r else none
  | [] => none

/-- Nanoseconds after a point, and zero where there is no point. -/
def fraction? : List Char → Option (Nat × List Char)
  | '.' :: r =>
    let ds := (r.take 9).takeWhile Digits.isDigit
    (digits? ds ((r.drop ds.length).dropWhile Digits.isDigit)).map fun (n, r) =>
      (n * 10 ^ (9 - ds.length), r)
  | cs => some (0, cs)

/-- A date at the front of a text. -/
def date? (cs : List Char) : Option (Date × List Char) := do
  let (year, cs) ← year? cs
  let (month, cs) ← number? 2 (← exactly? '-' cs)
  let (day, cs) ← number? 2 (← exactly? '-' cs)
  let date ← Date.ofParts? year month day
  pure (date, cs)

/-- The timestamp on a date from the numbers as written, where the second may be 60. -/
def timestamp? (date : Date) (hour minute second nanos : Nat) : Option Timestamp :=
  if second = 60 then Timestamp.ofParts? date hour minute 59 (nanosPerSecond + nanos)
  else Timestamp.ofParts? date hour minute second nanos

end Calendar

/-- The date that a whole text stands for. -/
def Date.read? (cs : List Char) : Option Date := do
  let (date, rest) ← Calendar.date? cs
  if rest.isEmpty then some date else none

/-- The timestamp that a whole text stands for. -/
def Timestamp.read? (cs : List Char) : Option Timestamp := do
  let (date, cs) ← Calendar.date? cs
  let (hour, cs) ← Calendar.number? 2 cs
  let (minute, cs) ← Calendar.number? 2 (← Calendar.exactly? ':' cs)
  let (second, cs) ← Calendar.number? 2 (← Calendar.exactly? ':' cs)
  let (nanos, rest) ← Calendar.fraction? cs
  if rest.isEmpty then Calendar.timestamp? date hour minute second nanos else none

end PolySql
