import PolySql.Text.SnakeCase

/-!
# What snake case settles

A name in snake case should have no uppercase character left, and a second pass should find nothing
to do. Both are so for the capitals of ASCII. Any other uppercase character starts a word like them
but stays as it is, so that each pass puts one more underscore in front of it.

* `Text.isLargeBeyondAscii` : the uppercase characters that stay;
* `Text.filter_isUppercase_snakeCase` : they are all that is left of the uppercase characters;
* `Text.snakeTail_eq_self_iff` : a pass changes a text with an uppercase character behind its first;
* `Text.snakeCase_settles_iff` : the main statement.
-/

namespace PolySql.Text

/-- An uppercase character that has no small form in ASCII. -/
def isLargeBeyondAscii (c : Char) : Bool := isUppercase c && decide (128 ≤ c.toNat)

/-! ## Single characters -/

theorem isUppercase_of_lt {c : Char} (h : c.toNat < 128) :
    isUppercase c = decide (65 ≤ c.toNat ∧ c.toNat ≤ 90) := by
  have hfirst : ∀ r ∈ uppercase.tail, 128 ≤ r.first := by decide +kernel
  have hrest : (uppercase.tail.any fun r => r.holds c.toNat) = false := by
    refine List.any_eq_false.2 fun r hr => ?_
    have := hfirst r hr
    simp only [CharRun.holds, Bool.and_eq_true, decide_eq_true_eq, not_and]
    omega
  have hsplit : uppercase = ⟨0x41, 0x5a, 1⟩ :: uppercase.tail := rfl
  rw [isUppercase, CharClass.holds, hsplit, List.any_cons, hrest]
  simp [CharRun.holds, Nat.mod_one]

theorem toNat_ofNat_of_lt {n : Nat} (h : n < 0xd800) : (Char.ofNat n).toNat = n := by
  rw [Char.ofNat, dif_pos (.inl h)]
  rfl

theorem toNat_asciiLower {c : Char} (h : 65 ≤ c.toNat ∧ c.toNat ≤ 90) :
    (asciiLower c).toNat = c.toNat + 32 := by
  rw [asciiLower, if_pos h, toNat_ofNat_of_lt (by omega)]

theorem asciiLower_asciiLower (c : Char) : asciiLower (asciiLower c) = asciiLower c := by
  by_cases h : 65 ≤ c.toNat ∧ c.toNat ≤ 90
  · have := toNat_asciiLower h
    rw [asciiLower, if_neg (by omega)]
  · rw [asciiLower, asciiLower, if_neg h, if_neg h]

theorem asciiLower_of_isLargeBeyondAscii {c : Char} (h : isLargeBeyondAscii c = true) :
    asciiLower c = c := by
  have : 128 ≤ c.toNat := by simpa using (Bool.and_eq_true_iff.1 h).2
  rw [asciiLower, if_neg (by omega)]

/-- Lowering leaves the large characters beyond ASCII and no others. -/
theorem isUppercase_asciiLower (c : Char) : isUppercase (asciiLower c) = isLargeBeyondAscii c := by
  by_cases h : 65 ≤ c.toNat ∧ c.toNat ≤ 90
  · have hsmall := toNat_asciiLower h
    have hleft : isUppercase (asciiLower c) = false := by
      rw [isUppercase_of_lt (by omega), decide_eq_false_iff_not]
      omega
    have hascii : ¬ 128 ≤ c.toNat := by omega
    simp [hleft, isLargeBeyondAscii, hascii]
  · rw [asciiLower, if_neg h, isLargeBeyondAscii]
    by_cases hascii : c.toNat < 128
    · simp [isUppercase_of_lt hascii, h]
    · simp [Nat.le_of_not_lt hascii]

/-! ## What is left of the uppercase characters -/

theorem filter_asciiLower_cons {c : Char} {cs ds : List Char}
    (h : ds.filter isUppercase = cs.filter isLargeBeyondAscii) :
    (asciiLower c :: ds).filter isUppercase = (c :: cs).filter isLargeBeyondAscii := by
  rw [List.filter_cons, List.filter_cons, isUppercase_asciiLower, h]
  cases hlarge : isLargeBeyondAscii c with
  | true => rw [asciiLower_of_isLargeBeyondAscii hlarge]
  | false => rfl

theorem filter_isUppercase_snakeTail (cs : List Char) :
    (snakeTail cs).filter isUppercase = cs.filter isLargeBeyondAscii := by
  induction cs with
  | nil => rfl
  | cons c cs ih =>
    rw [snakeTail]
    cases h : isUppercase c with
    | true =>
      have hunderscore : isUppercase '_' = false := by decide
      rw [if_pos rfl, List.filter_cons, hunderscore]
      exact filter_asciiLower_cons ih
    | false =>
      have hlarge : isLargeBeyondAscii c = false := by simp [isLargeBeyondAscii, h]
      simp [h, hlarge, ih]

/-- The uppercase characters that are left are those beyond ASCII, in their order. -/
theorem filter_isUppercase_snakeCase (cs : List Char) :
    (snakeCase cs).filter isUppercase = cs.filter isLargeBeyondAscii := by
  cases cs with
  | nil => rfl
  | cons c cs => exact filter_asciiLower_cons (filter_isUppercase_snakeTail cs)

/-! ## What a pass changes -/

theorem snakeTail_eq_self_iff {cs : List Char} :
    snakeTail cs = cs ↔ ∀ c ∈ cs, isUppercase c = false := by
  induction cs with
  | nil => simp [snakeTail]
  | cons c cs ih =>
    rw [snakeTail]
    cases h : isUppercase c with
    | true =>
      -- The underscore in front of it is no uppercase character itself.
      have hne : '_' ≠ c := by
        rintro rfl
        exact absurd h (by decide)
      simp [h, hne]
    | false => simp [h, ih]

theorem forall_not_isLargeBeyondAscii {cs : List Char} :
    (∀ c ∈ cs, isLargeBeyondAscii c = false) ↔
      ∀ c ∈ cs, isUppercase c = true → c.toNat < 128 := by
  simp [isLargeBeyondAscii]

/-- Snake case leaves no uppercase character just if all uppercase characters of the name are in
ASCII, and a second pass changes nothing just if this is so behind the first character. -/
theorem snakeCase_settles_iff (cs : List Char) :
    ((∀ c ∈ snakeCase cs, isUppercase c = false) ↔
      ∀ c ∈ cs, isUppercase c = true → c.toNat < 128) ∧
    (snakeCase (snakeCase cs) = snakeCase cs ↔
      ∀ c ∈ cs.tail, isUppercase c = true → c.toNat < 128) := by
  have hnone {xs ys : List Char} (h : xs.filter isUppercase = ys.filter isLargeBeyondAscii) :
      (∀ c ∈ xs, isUppercase c = false) ↔ ∀ c ∈ ys, isUppercase c = true → c.toNat < 128 := by
    rw [← forall_not_isLargeBeyondAscii]
    have := congrArg (· = []) h
    simpa [List.filter_eq_nil_iff] using this
  refine ⟨hnone (filter_isUppercase_snakeCase cs), ?_⟩
  cases cs with
  | nil => simp [snakeCase]
  | cons c cs =>
    rw [snakeCase, snakeCase, asciiLower_asciiLower, List.cons.injEq, List.tail_cons,
      and_iff_right rfl, snakeTail_eq_self_iff]
    exact hnone (filter_isUppercase_snakeTail cs)

/-- A capital with an accent stays a capital, and a second pass puts another underscore in front of
it. -/
theorem snakeCase_keeps_accented_capital :
    let cs := snakeCase "MoonÉtoile".toList
    cs = "moon_Étoile".toList ∧ (∃ c ∈ cs, isUppercase c = true) ∧ snakeCase cs ≠ cs :=
  ⟨by decide, ⟨'É', by decide, by decide⟩, by decide⟩

end PolySql.Text
