/-!
# JSON documents

A `Json` is a document as it is written: numbers keep their text, and members of an object keep
their order and may share a name. A string whose escapes leave half of a surrogate pair alone is
well formed and yet no text, as a value and as the name of a member; such strings are not told
apart.

* `Json.text` : a string that stands for a text;
* `Json.write` : the document without blanks;
* `Json.escapedChar` : a character inside a string.
-/

namespace PolySql

/-- A document. -/
inductive Json where
  | null
  | bool (b : Bool)
  /-- A number by its text. -/
  | number (text : List Char)
  /-- A string, by the text that it stands for if there is one. -/
  | string (s : Option String)
  | array (items : List Json)
  | object (members : List (Option String × Json))

namespace Json

/-- A string that stands for a text. -/
@[match_pattern] abbrev text (s : String) : Json := .string (some s)

/-- A character inside a string. Quotes, backslashes and control characters are escaped. -/
def escapedChar (c : Char) : List Char :=
  if c = '"' then ['\\', '"']
  else if c = '\\' then ['\\', '\\']
  else if c = '\x08' then ['\\', 'b']
  else if c = '\x0c' then ['\\', 'f']
  else if c = '\n' then ['\\', 'n']
  else if c = '\r' then ['\\', 'r']
  else if c = '\t' then ['\\', 't']
  else if c.toNat < 32 then
    ['\\', 'u', '0', '0', Nat.digitChar (c.toNat / 16), Nat.digitChar (c.toNat % 16)]
  else [c]

/-- A text between quotes; half of a pair if there is no text. -/
def writeString : Option String → List Char
  | some s => '"' :: (s.toList.flatMap escapedChar ++ ['"'])
  | none => ['"', '\\', 'u', 'd', '8', '0', '0', '"']

mutual

/-- The document without blanks. -/
def write : Json → List Char
  | .null => ['n', 'u', 'l', 'l']
  | .bool true => ['t', 'r', 'u', 'e']
  | .bool false => ['f', 'a', 'l', 's', 'e']
  | .number ds => ds
  | .string s => writeString s
  | .array [] => ['[', ']']
  | .array (v :: vs) => '[' :: (write v ++ writeItems vs)
  | .object [] => ['\x7b', '\x7d']
  | .object ((key, v) :: ms) => '\x7b' :: (writeString key ++ ':' :: write v ++ writeMembers ms)

/-- Further items and the end of an array. -/
def writeItems : List Json → List Char
  | [] => [']']
  | v :: vs => ',' :: (write v ++ writeItems vs)

/-- Further members and the end of an object. -/
def writeMembers : List (Option String × Json) → List Char
  | [] => ['\x7d']
  | (key, v) :: ms => ',' :: (writeString key ++ ':' :: write v ++ writeMembers ms)

end

end Json

end PolySql
