import PolySql.Declaration
import PolySql.Proofs.SnakeCase

/-!
# Snake case read back

As long as a name has no underscore of its own, every underscore of its snake case stands in front
of what was uppercase, and only the case of the first character is lost. So the tables that models
get by default are apart, if the models have names in camel case.

* `Text.camelCase` : reads snake case word by word;
* `Text.camelCase_snakeCase` : it gives back the name with a large first character;
* `Text.snakeCase_eq_iff`, `Declaration.tableName_eq_iff` : which names share their snake case, and
  which models their table;
* `Text.camelCase_names_apart` : the main statement.
-/

namespace PolySql

namespace Text

/-- The capital of a small letter of ASCII; any other character itself. -/
def asciiUpper (c : Char) : Char :=
  if 97 ≤ c.toNat ∧ c.toNat ≤ 122 then Char.ofNat (c.toNat - 32) else c

/-- A text with a large first character. -/
def capitalized : List Char → List Char
  | [] => []
  | c :: cs => asciiUpper c :: cs

/-- The words of a text without the underscores between them, each with a large first character; the
first of them only if the text stands at the start of a word. -/
def joinedWords (starts : Bool) : List Char → List Char
  | [] => []
  | c :: cs =>
    if c = '_' then joinedWords true cs
    else (if starts then asciiUpper c else c) :: joinedWords false cs

/-- The name that snake case stands for. -/
def camelCase (cs : List Char) : List Char := joinedWords true cs

/-! ## Single characters -/

theorem toNat_asciiUpper {c : Char} (h : 97 ≤ c.toNat ∧ c.toNat ≤ 122) :
    (asciiUpper c).toNat = c.toNat - 32 := by
  rw [asciiUpper, if_pos h, toNat_ofNat_of_lt (by omega)]

theorem asciiUpper_of_isUppercase {c : Char} (h : isUppercase c = true) : asciiUpper c = c := by
  by_cases hascii : c.toNat < 128
  · rw [isUppercase_of_lt hascii, decide_eq_true_iff] at h
    rw [asciiUpper, if_neg (by omega)]
  · rw [asciiUpper, if_neg (by omega)]

theorem asciiUpper_asciiLower (c : Char) : asciiUpper (asciiLower c) = asciiUpper c := by
  by_cases h : 65 ≤ c.toNat ∧ c.toNat ≤ 90
  · have hsmall := toNat_asciiLower h
    have hlarge := toNat_asciiUpper (c := asciiLower c) (by omega)
    have hsame : asciiUpper c = c := by rw [asciiUpper, if_neg (by omega)]
    rw [hsame, ← Char.toNat_inj]
    omega
  · rw [asciiLower, if_neg h]

theorem asciiLower_asciiUpper (c : Char) : asciiLower (asciiUpper c) = asciiLower c := by
  by_cases h : 97 ≤ c.toNat ∧ c.toNat ≤ 122
  · have hlarge := toNat_asciiUpper h
    have hsmall := toNat_asciiLower (c := asciiUpper c) (by omega)
    have hsame : asciiLower c = c := by rw [asciiLower, if_neg (by omega)]
    rw [hsame, ← Char.toNat_inj]
    omega
  · rw [asciiUpper, if_neg h]

theorem asciiLower_eq_underscore_iff {c : Char} : asciiLower c = '_' ↔ c = '_' := by
  by_cases h : 65 ≤ c.toNat ∧ c.toNat ≤ 90
  · have hsmall := toNat_asciiLower h
    have hunderscore : '_'.toNat = 95 := rfl
    rw [← Char.toNat_inj, ← Char.toNat_inj]
    omega
  · rw [asciiLower, if_neg h]

/-! ## Reading back -/

theorem joinedWords_underscore (starts : Bool) (cs : List Char) :
    joinedWords starts ('_' :: cs) = joinedWords true cs := by
  rw [joinedWords, if_pos rfl]

theorem joinedWords_cons {c : Char} (h : c ≠ '_') (starts : Bool) (cs : List Char) :
    joinedWords starts (c :: cs) =
      (if starts then asciiUpper c else c) :: joinedWords false cs := by
  rw [joinedWords, if_neg h]

theorem joinedWords_asciiLower {c : Char} (h : c ≠ '_') (cs : List Char) :
    joinedWords true (asciiLower c :: cs) = asciiUpper c :: joinedWords false cs := by
  rw [joinedWords_cons (mt asciiLower_eq_underscore_iff.1 h), if_pos rfl, asciiUpper_asciiLower]

/-- Inside a word nothing is lost: what became small stands behind an underscore. -/
theorem joinedWords_snakeTail {cs : List Char} (h : '_' ∉ cs) :
    joinedWords false (snakeTail cs) = cs := by
  induction cs with
  | nil => rfl
  | cons c cs ih =>
    obtain ⟨hc, hcs⟩ : c ≠ '_' ∧ '_' ∉ cs := by simpa [eq_comm] using h
    rw [snakeTail]
    cases hlarge : isUppercase c with
    | true =>
      rw [if_pos rfl, joinedWords_underscore, joinedWords_asciiLower hc, ih hcs,
        asciiUpper_of_isUppercase hlarge]
    | false =>
      rw [if_neg Bool.false_ne_true, joinedWords_cons hc, ih hcs]
      rfl

/-- Snake case gives back the name, with a large first character. -/
theorem camelCase_snakeCase {cs : List Char} (h : '_' ∉ cs) :
    camelCase (snakeCase cs) = capitalized cs := by
  cases cs with
  | nil => rfl
  | cons c cs =>
    obtain ⟨hc, hcs⟩ : c ≠ '_' ∧ '_' ∉ cs := by simpa [eq_comm] using h
    rw [camelCase, snakeCase, joinedWords_asciiLower hc, joinedWords_snakeTail hcs, capitalized]

theorem snakeCase_capitalized (cs : List Char) : snakeCase (capitalized cs) = snakeCase cs := by
  cases cs with
  | nil => rfl
  | cons c cs => rw [capitalized, snakeCase, snakeCase, asciiLower_asciiUpper]

/-- Names without underscores share their snake case just if they are the same up to the case of an
ASCII letter at the start. -/
theorem snakeCase_eq_iff {xs ys : List Char} (hx : '_' ∉ xs) (hy : '_' ∉ ys) :
    snakeCase xs = snakeCase ys ↔ capitalized xs = capitalized ys := by
  constructor
  · intro h
    rw [← camelCase_snakeCase hx, ← camelCase_snakeCase hy, h]
  · intro h
    rw [← snakeCase_capitalized xs, ← snakeCase_capitalized ys, h]

-- An underscore of the name's own is taken for one in front of a capital.
example : snakeCase "Moon_orbit".toList = snakeCase "MoonOrbit".toList := by decide

/-! ## Names in camel case -/

/-- A name of letters and digits of ASCII that begins with a capital. -/
structure IsCamelCase (cs : List Char) : Prop where
  leads : cs.head?.any isUppercase = true
  plain : ∀ c ∈ cs, c.isAlphanum = true

instance (cs : List Char) : Decidable (IsCamelCase cs) :=
  decidable_of_iff (cs.head?.any isUppercase = true ∧ cs.all Char.isAlphanum = true)
    ⟨fun h => ⟨h.1, List.all_eq_true.1 h.2⟩, fun h => ⟨h.leads, List.all_eq_true.2 h.plain⟩⟩

theorem IsCamelCase.underscore_notMem {cs : List Char} (h : IsCamelCase cs) : '_' ∉ cs :=
  fun hmem => absurd (h.plain _ hmem) (by decide)

theorem IsCamelCase.capitalized_eq {cs : List Char} (h : IsCamelCase cs) : capitalized cs = cs := by
  cases cs with
  | nil => rfl
  | cons c cs =>
    have hlarge : isUppercase c = true := by simpa using h.leads
    rw [capitalized, asciiUpper_of_isUppercase hlarge]

/-- Names in camel case share their snake case only if they are the same name. -/
theorem camelCase_names_apart {xs ys : List Char} (hx : IsCamelCase xs) (hy : IsCamelCase ys) :
    snakeCase xs = snakeCase ys ↔ xs = ys := by
  rw [snakeCase_eq_iff hx.underscore_notMem hy.underscore_notMem, hx.capitalized_eq,
    hy.capitalized_eq]

theorem camelCase_names_apart_in_acronyms :
    IsCamelCase "HTTPServer2".toList ∧ IsCamelCase "HttpServer2".toList ∧
      snakeCase "HTTPServer2".toList ≠ snakeCase "HttpServer2".toList := by
  have hx : IsCamelCase "HTTPServer2".toList := by decide
  have hy : IsCamelCase "HttpServer2".toList := by decide
  exact ⟨hx, hy, mt (camelCase_names_apart hx hy).1 (by decide)⟩

end Text

/-! ## Tables of models -/

/-- Models whose attributes name no table share their table just if their names are the same up to
the case of an ASCII letter at the start. -/
theorem Declaration.tableName_eq_iff {d e : Declaration}
    (hd : tableNameOf d.attributes = .ok none) (he : tableNameOf e.attributes = .ok none)
    (hdn : '_' ∉ d.name.toList) (hen : '_' ∉ e.name.toList) :
    d.tableName = e.tableName ↔
      Text.capitalized d.name.toList = Text.capitalized e.name.toList := by
  simp only [tableName, hd, he, Except.ok.injEq, String.ofList_inj]
  exact Text.snakeCase_eq_iff hdn hen

end PolySql
