import PolySql.Text.Combining
import PolySql.Text.Unprintable

/-!
# Text made visible

`Text.escaped` shows a text between double quotes with everything that would not be seen on its
own, or that would end the quotes, written as an escape.
-/

namespace PolySql.Text

/-- A code point in lower-case hexadecimal, between braces. -/
def codePoint (c : Char) : List Char :=
  ['\\', 'u', '\x7b'] ++ Nat.toDigits 16 c.toNat ++ ['\x7d']

/-- One character as it is shown; an apostrophe needs no escape. -/
def escapedChar (c : Char) : List Char :=
  if c = '\x00' then ['\\', '0']
  else if c = '\t' then ['\\', 't']
  else if c = '\r' then ['\\', 'r']
  else if c = '\n' then ['\\', 'n']
  else if c = '"' then ['\\', '"']
  else if c = '\\' then ['\\', '\\']
  else if isCombining c || isUnprintable c then codePoint c
  else [c]

/-- A text between double quotes. -/
def escaped (cs : List Char) : List Char := '"' :: (cs.flatMap escapedChar ++ ['"'])

end PolySql.Text
