import Mathlib.Data.List.TakeWhile
import PolySql.Proofs.Alphabet
import PolySql.Row.Field

/-!
# Dates and timestamps read back

The text of a date is read as that date, and the text of a timestamp as that timestamp: with any
year and its sign, any number of digits of a fraction, and leap seconds. The lemmas about parts say
what a reading step leaves behind.

* `Calendar.number?_padded`, `Calendar.longNumber?_padded` : numbers of a fixed width, and of at
  least a width;
* `Calendar.year?_yearText`, `Calendar.fraction?_fractionText`, `Calendar.date?_text` : the parts;
* `Date.read?_text`, `Timestamp.read?_text` : whole texts;
* `Dialect.times_read_back` : literals of dates and timestamps, in every dialect.
-/

namespace PolySql

-- Powers are core's own, as in the definition of the reading steps.
attribute [local instance (high)] instPowNat

/-! ## Digits -/

namespace Digits

theorem isDigit_of_charIsDigit {c : Char} (h : c.isDigit = true) : isDigit c = true := h

theorem padded_isDecimal (width n : Nat) : ∀ c ∈ padded width n, isDigit c = true :=
  fun c h => isDigit_of_charIsDigit (padded_isDigit width n c h)

theorem padded_ne_nil (width n : Nat) : padded width n ≠ [] :=
  List.append_ne_nil_of_right_ne_nil _ (List.ne_nil_of_length_pos Nat.length_toDigits_pos)

/-- Zeros in front do not change what a number is. -/
theorem value_padded (width n : Nat) : value (padded width n) = n := by
  have hzeros (k : Nat) : value (List.replicate k '0') = 0 := by
    induction k with
    | zero => rfl
    | succ k ih => rw [List.replicate_succ', value_concat, ih]; rfl
  have hfold : value (padded width n) = (ofNat n).foldl (fun n c => 10 * n + (c.toNat - 48))
      (value (List.replicate (width - (ofNat n).length) '0')) := List.foldl_append
  rw [hfold, hzeros]
  exact value_ofNat n

theorem length_padded_of_lt {width n : Nat} (hwidth : 0 < width) (hn : n < 10 ^ width) :
    (padded width n).length = width := by
  have hlength : (ofNat n).length ≤ width := (Nat.length_toDigits_le_iff (by decide) hwidth).2 hn
  rw [length_padded, Nat.max_eq_left hlength]

end Digits

theorem Text.isBlank_of_isDigit {c : Char} (h : Digits.isDigit c = true) :
    Text.isBlank c = false := by
  simp only [Digits.isDigit, Bool.and_eq_true, decide_eq_true_eq] at h
  simp [Text.isBlank, Text.blanks, CharClass.holds, CharRun.holds]
  omega

namespace Calendar

open Digits

/-! ## Numbers -/

theorem skipBlanks_padded (width n : Nat) (rest : List Char) :
    Text.skipBlanks (padded width n ++ rest) = padded width n ++ rest := by
  obtain ⟨c, cs, hcs⟩ := List.exists_cons_of_ne_nil (padded_ne_nil width n)
  have hdigit : isDigit c = true := padded_isDecimal width n c (hcs ▸ List.mem_cons_self)
  rw [hcs, List.cons_append, Text.skipBlanks_of_not_isBlank (Text.isBlank_of_isDigit hdigit)]

theorem digits?_padded (width n : Nat) (rest : List Char) :
    digits? (padded width n) rest = some (n, rest) := by
  simp [digits?, padded_ne_nil, value_padded]

theorem takeWhile_padded (width n : Nat) :
    (padded width n).takeWhile isDigit = padded width n :=
  List.takeWhile_eq_self_iff.2 (padded_isDecimal width n)

/-- A number that takes up the whole width is read, whatever stands behind it. -/
theorem number?_padded {width n : Nat} (hwidth : 0 < width) (hn : n < 10 ^ width)
    (rest : List Char) : number? width (padded width n ++ rest) = some (n, rest) := by
  have htake : (padded width n ++ rest).take width = padded width n :=
    List.take_left' (length_padded_of_lt hwidth hn)
  simp only [number?, skipBlanks_padded, htake, takeWhile_padded, List.drop_left, digits?_padded]

theorem number?_two {n : Nat} (hn : n < 100) (rest : List Char) :
    number? 2 (padded 2 n ++ rest) = some (n, rest) :=
  number?_padded (by decide) hn rest

theorem number?_blank (width : Nat) (cs : List Char) :
    number? width (' ' :: cs) = number? width cs := rfl

/-- A number of any length is read up to the next character that is no digit. -/
theorem longNumber?_padded (width n : Nat) {c : Char} (hc : isDigit c = false)
    (rest : List Char) : longNumber? (padded width n ++ c :: rest) = some (n, c :: rest) := by
  have hdigits := padded_isDecimal width n
  rw [longNumber?, List.takeWhile_append_of_pos hdigits, List.dropWhile_append_of_pos hdigits,
    List.takeWhile_cons_of_neg (by simp [hc]), List.dropWhile_cons_of_neg (by simp [hc]),
    List.append_nil, digits?_padded]

/-! ## Parts of a text -/

theorem year?_minus (cs : List Char) :
    year? ('-' :: cs) = (longNumber? cs).map fun (n, r) => (-(n : Int), r) := rfl

theorem year?_plus (cs : List Char) :
    year? ('+' :: cs) = (longNumber? cs).map fun (n, r) => ((n : Int), r) := rfl

theorem year?_unsigned {c : Char} {cs : List Char} (hc : isDigit c = true) :
    year? (c :: cs) = (number? 4 (c :: cs)).map fun (n, r) => ((n : Int), r) := by
  rw [year?, Text.skipBlanks_of_not_isBlank (Text.isBlank_of_isDigit hc)]
  split
  · rename_i h
    obtain ⟨rfl, -⟩ := List.cons.inj h
    exact absurd hc (by decide)
  · rename_i h
    obtain ⟨rfl, -⟩ := List.cons.inj h
    exact absurd hc (by decide)
  · rfl

/-- A year in front of a hyphen is read: four digits after no sign, any number after a sign. -/
theorem year?_yearText (year : Int) (rest : List Char) :
    year? (yearText year ++ '-' :: rest) = some (year, '-' :: rest) := by
  have hlong := longNumber?_padded 4 year.natAbs (c := '-') (by decide) rest
  unfold yearText
  split
  · have hneg : -(year.natAbs : Int) = year := by omega
    simp only [List.cons_append, year?_minus, hlong, Option.map_some, hneg]
  · split
    · have hpos : (year.natAbs : Int) = year := by omega
      simp only [List.cons_append, year?_plus, hlong, Option.map_some, hpos]
    · have hpos : (year.natAbs : Int) = year := by omega
      have hsmall : year.natAbs < 10 ^ 4 := by omega
      -- The first character is a digit, and so it is not taken for a sign.
      obtain ⟨c, cs, hcs⟩ := List.exists_cons_of_ne_nil (padded_ne_nil 4 year.natAbs)
      have hdigit : isDigit c = true := padded_isDecimal 4 _ c (hcs ▸ List.mem_cons_self)
      have hread := number?_padded (by decide) hsmall ('-' :: rest)
      rw [hcs, List.cons_append] at hread ⊢
      simp only [year?_unsigned hdigit, hread, Option.map_some, hpos]

theorem fraction?_padded {width n : Nat} (hwidth : 0 < width) (hmost : width ≤ 9)
    (hn : n < 10 ^ width) :
    fraction? ('.' :: padded width n) = some (n * 10 ^ (9 - width), []) := by
  have hlength := length_padded_of_lt hwidth hn
  have htake : (padded width n).take 9 = padded width n := List.take_of_length_le (by omega)
  have hrest : (padded width n).drop width = [] := List.drop_of_length_le hlength.le
  simp only [fraction?, htake, takeWhile_padded, hlength, hrest, List.dropWhile_nil,
    digits?_padded, Option.map_some]

/-- As many digits as are exact are enough. -/
theorem fraction?_fractionText {nanos : Nat} (h : nanos < nanosPerSecond) :
    fraction? (fractionText nanos) = some (nanos, []) := by
  unfold nanosPerSecond at h
  unfold fractionText
  split
  · subst nanos; rfl
  · split
    · have hmillis : nanos / 1000000 * 10 ^ (9 - 3) = nanos := by omega
      rw [fraction?_padded (by decide) (by decide) (by omega), hmillis]
    · split
      · have hmicros : nanos / 1000 * 10 ^ (9 - 6) = nanos := by omega
        rw [fraction?_padded (by decide) (by decide) (by omega), hmicros]
      · have hnanos : nanos * 10 ^ (9 - 9) = nanos := by omega
        rw [fraction?_padded (by decide) (by decide) (by omega), hnanos]

theorem monthLength_le (year : Int) (month : Nat) : monthLength year month ≤ 31 := by
  unfold monthLength
  split_ifs <;> decide

theorem date?_text (day : Date) (rest : List Char) :
    date? (day.text ++ rest) = some (day, rest) := by
  obtain ⟨-, ⟨-, hmonth⟩, -, hday⟩ := day.exists_day
  have hlast := monthLength_le day.year day.month
  have hyear := year?_yearText day.year (padded 2 day.month ++ '-' :: (padded 2 day.day ++ rest))
  have htext : day.text ++ rest =
      yearText day.year ++ '-' :: (padded 2 day.month ++ '-' :: (padded 2 day.day ++ rest)) := by
    simp [Date.text]
  simp [htext, date?, hyear, exactly?, number?_two (show day.month < 100 by omega),
    number?_two (show day.day < 100 by omega), day.ofParts?_self]

/-- A timestamp comes from its numbers as written; a leap second is written as the second 60. -/
theorem timestamp?_writtenSecond (t : Timestamp) :
    timestamp? t.date t.hour t.minute t.writtenSecond (t.nanos % nanosPerSecond) = some t := by
  obtain ⟨⟨-, -, hsecond⟩, hnanos⟩ := t.exists_time
  unfold timestamp? Timestamp.writtenSecond
  by_cases hleap : t.nanos < nanosPerSecond
  · rw [Nat.div_eq_of_lt hleap, Nat.mod_eq_of_lt hleap, Nat.add_zero, if_neg (by omega)]
    exact t.ofParts?_self
  · -- A leap second is kept as the second 59 with a full second of nanoseconds more.
    obtain ⟨hlast, hnanos⟩ := hnanos.resolve_left hleap
    have hdiv : t.nanos / nanosPerSecond = 1 := by unfold nanosPerSecond at *; omega
    have hmod : nanosPerSecond + t.nanos % nanosPerSecond = t.nanos := by
      unfold nanosPerSecond at *; omega
    rw [hdiv, hmod, if_pos (by omega), ← hlast]
    exact t.ofParts?_self

end Calendar

/-! ## Whole texts -/

open Digits

theorem Date.read?_text (day : Date) : Date.read? day.text = some day := by
  have hdate := Calendar.date?_text day []
  rw [List.append_nil] at hdate
  simp [Date.read?, hdate]

theorem Timestamp.read?_text (t : Timestamp) : Timestamp.read? t.text = some t := by
  obtain ⟨⟨hhour, hminute, hsecond⟩, hnanos⟩ := t.exists_time
  have hwritten : t.writtenSecond ≤ 60 := by
    unfold writtenSecond
    unfold Calendar.nanosPerSecond at *
    omega
  have hfraction := Calendar.fraction?_fractionText
    (Nat.mod_lt t.nanos (show 0 < Calendar.nanosPerSecond by decide))
  have htext : t.text = t.date.text ++ ' ' :: (padded 2 t.hour ++ ':' :: (padded 2 t.minute ++
      ':' :: (padded 2 t.writtenSecond ++
        Calendar.fractionText (t.nanos % Calendar.nanosPerSecond)))) := by
    simp [text]
  simp [htext, read?, Calendar.date?_text, Calendar.exactly?, Calendar.number?_blank,
    Calendar.number?_two (show t.hour < 100 by omega),
    Calendar.number?_two (show t.minute < 100 by omega),
    Calendar.number?_two (show t.writtenSecond < 100 by omega), hfraction,
    Calendar.timestamp?_writtenSecond]

example : Timestamp.read? "-0005-12-31 23:59:60.250".toList =
    some ⟨⟨-5, 12, 31, by decide⟩, 23, 59, 59, 1250000000, by decide⟩ := by
  decide

/-- In every dialect what stands between the apostrophes of a date or of a timestamp has no
apostrophe, and a field of the same type reads it, as a text, as the same date or timestamp. -/
theorem Dialect.times_read_back (d : Dialect) :
    (∀ day : Date, ∃ inner, d.spelled (.date day) = '\'' :: (inner ++ ['\'']) ∧ '\'' ∉ inner ∧
      Scalar.date.read? (.text (.ofList inner)) = some (.date day)) ∧
    ∀ t : Timestamp, ∃ inner, d.spelled (.timestamp t) = '\'' :: (inner ++ ['\'']) ∧
      '\'' ∉ inner ∧ Scalar.timestamp.read? (.text (.ofList inner)) = some (.timestamp t) := by
  have hbare {cs : List Char} (h : ∀ c ∈ cs, Text.isOfTime c = true) : '\'' ∉ cs :=
    fun hmem => absurd (h _ hmem) (by decide)
  refine ⟨fun day => ⟨day.text, rfl, hbare day.text_isOfTime, ?_⟩,
    fun t => ⟨t.text, rfl, hbare t.text_isOfTime, ?_⟩⟩
  · rw [Scalar.read?, String.toList_ofList, day.read?_text, Option.map_some]
  · rw [Scalar.read?, String.toList_ofList, t.read?_text, Option.map_some]

end PolySql
