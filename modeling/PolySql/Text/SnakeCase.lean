import PolySql.Text.Uppercase

/-!
# Snake case

`Text.snakeCase` separates words at their capitals: an underscore goes before every uppercase
character but the first character of the text. Only the capitals of ASCII have a small form here,
every other uppercase character stays as it is.
-/

namespace PolySql.Text

/-- The small form of a capital of ASCII; any other character itself. -/
def asciiLower (c : Char) : Char :=
  if 65 ≤ c.toNat ∧ c.toNat ≤ 90 then Char.ofNat (c.toNat + 32) else c

/-- The rest of a text, where every uppercase character starts a word. -/
def snakeTail : List Char → List Char
  | [] => []
  | c :: cs =>
    if isUppercase c then '_' :: asciiLower c :: snakeTail cs else c :: snakeTail cs

/-- Words separated by underscores. -/
def snakeCase : List Char → List Char
  | [] => []
  | c :: cs => asciiLower c :: snakeTail cs

example : snakeCase "HTTPServer2".toList = "h_t_t_p_server2".toList := by decide
example : snakeCase "éÉ".toList = "é_É".toList := by decide

end PolySql.Text
