import PolySql.Json
import PolySql.Number.Digits

/-!
# Reading JSON

The grammar is the strict one: no comments, no trailing commas, no control characters in strings,
no leading zeros. A reading step takes the text that is left and gives what it read with the rest.
Nesting is unbounded; the steps for values, items and members count down a number that the length
of the text bounds.

* `Json.read?` : a whole text;
* `Json.value?`, `Json.string?`, `Json.number?` : the parts.
-/

namespace PolySql.Json

/-- Drops blanks, tabs and line ends in front. -/
def skipSpace (cs : List Char) : List Char :=
  cs.dropWhile fun c => c = ' ' || c = '\n' || c = '\t' || c = '\r'

/-! ## Strings -/

/-- What a string is made of: characters, and halves of surrogate pairs from escapes. -/
inductive CodeUnit where
  | char (c : Char)
  | half (n : Nat)

/-- The character that an escape of one letter stands for. -/
def escape? (c : Char) : Option Char :=
  match c with
  | '"' => some '"'
  | '\\' => some '\\'
  | '/' => some '/'
  | 'b' => some '\x08'
  | 'f' => some '\x0c'
  | 'n' => some '\n'
  | 'r' => some '\r'
  | 't' => some '\t'
  | _ => none

/-- The number of a hexadecimal digit. -/
def hexDigit? (c : Char) : Option Nat :=
  let n := c.toNat
  if 48 ≤ n ∧ n ≤ 57 then some (n - 48)
  else if 65 ≤ n ∧ n ≤ 70 then some (n - 55)
  else if 97 ≤ n ∧ n ≤ 102 then some (n - 87)
  else none

/-- The number of four hexadecimal digits. -/
def hex? (a b c d : Char) : Option Nat := do
  return (((← hexDigit? a) * 16 + (← hexDigit? b)) * 16 + (← hexDigit? c)) * 16 + (← hexDigit? d)

/-- What four hexadecimal digits stand for. -/
def CodeUnit.ofNat (n : Nat) : CodeUnit :=
  if 0xd800 ≤ n ∧ n ≤ 0xdfff then .half n else .char (Char.ofNat n)

/-- The units of a string up to its closing quote. -/
def units? : List Char → Option (List CodeUnit × List Char)
  | [] => none
  | '"' :: r => some ([], r)
  | '\\' :: 'u' :: a :: b :: c :: d :: r => do
    let n ← hex? a b c d
    let (us, r) ← units? r
    pure (.ofNat n :: us, r)
  | '\\' :: e :: r => do
    let c ← escape? e
    let (us, r) ← units? r
    pure (.char c :: us, r)
  | c :: r =>
    if c.toNat < 32 then none
    else do
      let (us, r) ← units? r
      pure (.char c :: us, r)

/-- The text of a string, unless half of a pair stands alone. -/
def joinUnits? : List CodeUnit → Option (List Char)
  | [] => some []
  | .char c :: us => (joinUnits? us).map (c :: ·)
  | .half high :: .half low :: us =>
    if high < 0xdc00 ∧ 0xdc00 ≤ low then
      (joinUnits? us).map (Char.ofNat (0x10000 + (high - 0xd800) * 0x400 + (low - 0xdc00)) :: ·)
    else none
  | .half _ :: _ => none

/-- A string after its opening quote, with no text if half of a pair stands alone. -/
def string? (cs : List Char) : Option (Option String × List Char) :=
  (units? cs).map fun (us, r) => ((joinUnits? us).map .ofList, r)

/-! ## Numbers -/

/-- The digits in front, at least one. -/
def digits? (cs : List Char) : Option (List Char × List Char) :=
  let ds := cs.takeWhile Digits.isDigit
  if ds.isEmpty then none else some (ds, cs.dropWhile Digits.isDigit)

/-- The digits in front, a zero only alone. -/
def whole? : List Char → Option (List Char × List Char)
  | '0' :: r => some (['0'], r)
  | cs => digits? cs

/-- A point and digits, or nothing. -/
def fraction? : List Char → Option (List Char × List Char)
  | '.' :: r => (digits? r).map fun (ds, r) => ('.' :: ds, r)
  | cs => some ([], cs)

/-- Digits with or without a sign in front. -/
def signedDigits? : List Char → Option (List Char × List Char)
  | '+' :: r => (digits? r).map fun (ds, r) => ('+' :: ds, r)
  | '-' :: r => (digits? r).map fun (ds, r) => ('-' :: ds, r)
  | cs => digits? cs

/-- The letter `e` and an exponent, or nothing. -/
def exponent? : List Char → Option (List Char × List Char)
  | 'e' :: r => (signedDigits? r).map fun (ds, r) => ('e' :: ds, r)
  | 'E' :: r => (signedDigits? r).map fun (ds, r) => ('E' :: ds, r)
  | cs => some ([], cs)

/-- A number without its sign. -/
def unsigned? (cs : List Char) : Option (List Char × List Char) := do
  let (ds, cs) ← whole? cs
  let (fs, cs) ← fraction? cs
  let (es, cs) ← exponent? cs
  pure (ds ++ fs ++ es, cs)

/-- A number, kept as it is written. -/
def number? : List Char → Option (Json × List Char)
  | '-' :: r => (unsigned? r).map fun (ds, r) => (.number ('-' :: ds), r)
  | cs => (unsigned? cs).map fun (ds, r) => (.number ds, r)

/-! ## Values -/

/-- The name of a member and the colon after it. -/
def key? (cs : List Char) : Option (Option String × List Char) :=
  match skipSpace cs with
  | '"' :: r =>
    match string? r with
    | some (key, r) =>
      match skipSpace r with
      | ':' :: r => some (key, r)
      | _ => none
    | none => none
  | _ => none

mutual

/-- A value, by a number of steps that is large enough. -/
def value? : Nat → List Char → Option (Json × List Char)
  | 0, _ => none
  | steps + 1, cs =>
    match skipSpace cs with
    | 'n' :: 'u' :: 'l' :: 'l' :: r => some (.null, r)
    | 't' :: 'r' :: 'u' :: 'e' :: r => some (.bool true, r)
    | 'f' :: 'a' :: 'l' :: 's' :: 'e' :: r => some (.bool false, r)
    | '"' :: r => (string? r).map fun (s, r) => (.string s, r)
    | '[' :: r =>
      match skipSpace r with
      | ']' :: r => some (.array [], r)
      | _ => (items? steps r).map fun (vs, r) => (.array vs, r)
    | '\x7b' :: r =>
      match skipSpace r with
      | '\x7d' :: r => some (.object [], r)
      | _ => (members? steps r).map fun (ms, r) => (.object ms, r)
    | cs => number? cs

/-- The items of an array and its end. -/
def items? : Nat → List Char → Option (List Json × List Char)
  | 0, _ => none
  | steps + 1, cs =>
    match value? steps cs with
    | none => none
    | some (v, r) =>
      match skipSpace r with
      | ']' :: r => some ([v], r)
      | ',' :: r => (items? steps r).map fun (vs, r) => (v :: vs, r)
      | _ => none

/-- The members of an object and its end. -/
def members? : Nat → List Char → Option (List (Option String × Json) × List Char)
  | 0, _ => none
  | steps + 1, cs =>
    match key? cs with
    | none => none
    | some (key, r) =>
      match value? steps r with
      | none => none
      | some (v, r) =>
        match skipSpace r with
        | '\x7d' :: r => some ([(key, v)], r)
        | ',' :: r => (members? steps r).map fun (ms, r) => ((key, v) :: ms, r)
        | _ => none

end

/-- The document that a whole text stands for. -/
def read? (cs : List Char) : Option Json :=
  match value? (2 * cs.length + 2) cs with
  | some (v, r) => if (skipSpace r).isEmpty then some v else none
  | none => none

end PolySql.Json
