import Mathlib.Data.List.Basic
import PolySql.Dialect

/-!
# The characters of text outside quotes

Keywords, operators and numbers are written in an alphabet without quotes, backslashes, semicolons
and placeholder marks. Dates and timestamps are written without characters that need doubling.

* `Text.isWord`, `Text.isPlain` : the characters of words, and of all text outside quotes;
* `Literal.quotedText?` : the contents of a literal that stands between apostrophes;
* `Dialect.spelled_of_quotedText?`, `Dialect.spelled_isNumeral` : the two kinds of literals.
-/

namespace PolySql

namespace Text

/-- Letters, digits and the underscore; anything outside ASCII passes for a letter. -/
def isWord (c : Char) : Bool := c.isAlphanum || c == '_' || 128 ≤ c.toNat

/-- Word characters, blanks, parentheses and operators. -/
def isPlain (c : Char) : Bool :=
  isWord c || [' ', '(', ')', ',', '.', '*', '+', '-', '/', '%', '=', '<', '>', '|'].contains c

/-- The characters of numbers and of words. -/
def isNumeral (c : Char) : Bool := isWord c || ['+', '-', '.'].contains c

/-- The characters of dates and times of day. -/
def isOfTime (c : Char) : Bool := c.isDigit || [' ', '+', '-', '.', ':'].contains c

theorem isPlain_of_isWord {c : Char} (h : isWord c = true) : isPlain c = true := by
  simp [isPlain, h]

theorem isWord_of_isDigit {c : Char} (h : c.isDigit = true) : isWord c = true := by
  simp [isWord, Char.isAlphanum, h]

theorem isNumeral_of_isWord {c : Char} (h : isWord c = true) : isNumeral c = true := by
  simp [isNumeral, h]

theorem isNumeral_of_isDigit {c : Char} (h : c.isDigit = true) : isNumeral c = true :=
  isNumeral_of_isWord (isWord_of_isDigit h)

theorem isPlain_of_isNumeral {c : Char} (h : isNumeral c = true) : isPlain c = true := by
  simp only [isNumeral, Bool.or_eq_true, List.contains_eq_mem, List.mem_cons, List.not_mem_nil,
    or_false, decide_eq_true_eq] at h
  rcases h with h | rfl | rfl | rfl
  · exact isPlain_of_isWord h
  all_goals decide

theorem isOfTime_of_isDigit {c : Char} (h : c.isDigit = true) : isOfTime c = true := by
  simp [isOfTime, h]

end Text

open Text

/-! ## Numbers -/

namespace Digits

theorem ofNat_isDigit (n : Nat) : ∀ c ∈ ofNat n, c.isDigit = true := fun _ h =>
  Nat.isDigit_of_mem_toDigits (by decide) (by decide) h

theorem padded_isDigit (width n : Nat) : ∀ c ∈ padded width n, c.isDigit = true := by
  refine List.forall_mem_append.2 ⟨fun c h => ?_, ofNat_isDigit n⟩
  rw [(List.mem_replicate.1 h).2]
  decide

theorem value_ofNat (n : Nat) : value (ofNat n) = n :=
  Nat.ofDigitChars_toDigits (by decide) (by decide)

theorem ofNat_isNumeral (n : Nat) : ∀ c ∈ ofNat n, isNumeral c = true := fun c h =>
  isNumeral_of_isDigit (ofNat_isDigit n c h)

theorem ofInt_isNumeral (n : Int) : ∀ c ∈ ofInt n, isNumeral c = true := by
  cases n with
  | ofNat n => exact ofNat_isNumeral n
  | negSucc n => exact List.forall_mem_cons.2 ⟨by decide, ofNat_isNumeral (n + 1)⟩

end Digits

theorem Decimal.positional_isNumeral (x : Decimal) : ∀ c ∈ x.positional, isNumeral c = true := by
  have hzeros (n : Nat) : ∀ c ∈ List.replicate n '0', isNumeral c = true := fun c h => by
    rw [(List.mem_replicate.1 h).2]
    decide
  have hdigits := Digits.ofNat_isNumeral x.digits
  simp only [positional]
  split
  · exact List.forall_mem_append.2 ⟨hdigits, hzeros _⟩
  · split
    · refine List.forall_mem_append.2 ⟨fun c h => hdigits c (List.mem_of_mem_take h), ?_⟩
      exact List.forall_mem_cons.2 ⟨by decide, fun c h => hdigits c (List.mem_of_mem_drop h)⟩
    · refine List.forall_mem_append.2 ⟨?_, hdigits⟩
      exact List.forall_mem_cons.2 ⟨by decide, List.forall_mem_cons.2 ⟨by decide, hzeros _⟩⟩

namespace Binary64

theorem sign_isNumeral (x : Binary64) : ∀ c ∈ x.sign, isNumeral c = true := by
  unfold sign
  split <;> exact List.all_eq_true.1 (by decide)

theorem text_isNumeral (x : Binary64) : ∀ c ∈ x.text, isNumeral c = true := by
  unfold text
  split
  · exact List.all_eq_true.1 (by decide)
  · split
    · exact List.forall_mem_append.2 ⟨x.sign_isNumeral, x.shortest.positional_isNumeral⟩
    · exact List.forall_mem_append.2 ⟨x.sign_isNumeral, List.all_eq_true.1 (by decide)⟩

theorem exactText_isNumeral (x : Binary64) : ∀ c ∈ x.exactText, isNumeral c = true := by
  refine List.forall_mem_append.2 ⟨?_, List.all_eq_true.1 (by decide)⟩
  exact List.forall_mem_append.2 ⟨x.sign_isNumeral, Digits.ofNat_isNumeral x.wholePart⟩

end Binary64

/-! ## Dates and timestamps -/

theorem Digits.padded_isOfTime (width n : Nat) : ∀ c ∈ padded width n, isOfTime c = true :=
  fun c h => isOfTime_of_isDigit (padded_isDigit width n c h)

theorem Calendar.yearText_isOfTime (year : Int) : ∀ c ∈ yearText year, isOfTime c = true := by
  have hdigits := Digits.padded_isOfTime 4 year.natAbs
  unfold yearText
  split
  · exact List.forall_mem_cons.2 ⟨by decide, hdigits⟩
  · split
    · exact List.forall_mem_cons.2 ⟨by decide, hdigits⟩
    · exact hdigits

theorem Date.text_isOfTime (day : Date) : ∀ c ∈ day.text, isOfTime c = true := by
  refine List.forall_mem_append.2 ⟨List.forall_mem_append.2 ⟨?_, ?_⟩, ?_⟩
  · exact Calendar.yearText_isOfTime day.year
  · exact List.forall_mem_cons.2 ⟨by decide, Digits.padded_isOfTime 2 day.month⟩
  · exact List.forall_mem_cons.2 ⟨by decide, Digits.padded_isOfTime 2 day.day⟩

theorem Calendar.fractionText_isOfTime (nanos : Nat) :
    ∀ c ∈ fractionText nanos, isOfTime c = true := by
  have hpoint (width n : Nat) : ∀ c ∈ '.' :: Digits.padded width n, isOfTime c = true :=
    List.forall_mem_cons.2 ⟨by decide, Digits.padded_isOfTime width n⟩
  unfold fractionText
  split
  · exact List.all_eq_true.1 (by decide)
  · split
    · exact hpoint 3 _
    · split
      · exact hpoint 6 _
      · exact hpoint 9 _

theorem Timestamp.text_isOfTime (t : Timestamp) : ∀ c ∈ t.text, isOfTime c = true := by
  have hcolon (n : Nat) : ∀ c ∈ ':' :: Digits.padded 2 n, isOfTime c = true :=
    List.forall_mem_cons.2 ⟨by decide, Digits.padded_isOfTime 2 n⟩
  have hhour : ∀ c ∈ ' ' :: Digits.padded 2 t.hour, isOfTime c = true :=
    List.forall_mem_cons.2 ⟨by decide, Digits.padded_isOfTime 2 t.hour⟩
  have hdate := List.forall_mem_append.2 ⟨t.date.text_isOfTime, hhour⟩
  have hminute := List.forall_mem_append.2 ⟨hdate, hcolon t.minute⟩
  have hsecond := List.forall_mem_append.2 ⟨hminute, hcolon t.writtenSecond⟩
  exact List.forall_mem_append.2
    ⟨hsecond, Calendar.fractionText_isOfTime (t.nanos % Calendar.nanosPerSecond)⟩

/-! ## Literals -/

/-- What stands between the apostrophes of a literal; other literals have none. -/
def Literal.quotedText? : Literal → Option (List Char)
  | .text s => some s.toList
  | .date day => some day.text
  | .timestamp t => some t.text
  | _ => none

theorem Dialect.doublesInText_of_isOfTime (d : Dialect) {c : Char} (h : isOfTime c = true) :
    d.doublesInText c = false := by
  have hapostrophe : c ≠ '\'' := by
    rintro rfl
    exact absurd h (by decide)
  have hbackslash : c ≠ '\\' := by
    rintro rfl
    exact absurd h (by decide)
  simp [doublesInText, hapostrophe, hbackslash]

/-- Dates and timestamps are spelled like the texts that they are. -/
theorem Dialect.spelled_of_quotedText? (d : Dialect) {l : Literal} {cs : List Char}
    (h : l.quotedText? = some cs) : d.spelled l = d.spelledText cs := by
  have hdoubled {xs : List Char} (hxs : ∀ c ∈ xs, isOfTime c = true) :
      doubled d.doublesInText xs = xs :=
    doubled_of_forall fun c hc => d.doublesInText_of_isOfTime (hxs c hc)
  cases l <;> simp only [Literal.quotedText?, reduceCtorEq, Option.some.injEq] at h <;> subst h
  case text s => rfl
  case date day => rw [spelled, spelledText, enclosed, hdoubled day.text_isOfTime]
  case timestamp t => rw [spelled, spelledText, enclosed, hdoubled t.text_isOfTime]

/-- Every other literal is a word or a number. -/
theorem Dialect.spelled_isNumeral (d : Dialect) {l : Literal} (h : l.quotedText? = none) :
    ∀ c ∈ d.spelled l, isNumeral c = true := by
  cases l with
  | null => exact List.all_eq_true.1 (by decide : ['N', 'U', 'L', 'L'].all isNumeral = true)
  | bool b =>
    show ∀ c ∈ d.spelledBool b, isNumeral c = true
    unfold spelledBool
    split <;> exact List.all_eq_true.1 (by decide)
  | int n => exact Digits.ofInt_isNumeral n.toInt
  | float x =>
    rw [spelled]
    split
    · exact x.exactText_isNumeral
    · exact x.text_isNumeral
  | _ => simp [Literal.quotedText?] at h

end PolySql
