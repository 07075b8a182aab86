import PolySql.Number.Shortest
import PolySql.Calendar.Timestamp
import PolySql.Text.Escaped

/-!
# SQL values

A `Value` is what a bind sends to a database and what a row of a result holds.

* `Value.Kind`, `Value.kind` : the kinds of values and their names in messages;
* `Value.display` : a value for a log or a message, never for a statement.
-/

namespace PolySql

/-- A value outside the text of a statement. -/
inductive Value where
  | null
  | bool (b : Bool)
  | int (n : Int64)
  | float (x : Binary64)
  | text (s : String)
  | blob (bytes : List UInt8)
  | date (d : Date)
  | timestamp (t : Timestamp)
deriving DecidableEq, Repr

namespace Value

/-- The kinds of values. -/
inductive Kind where
  | null
  | bool
  | integer
  | float
  | text
  | blob
  | date
  | timestamp
deriving DecidableEq, Repr

/-- The name of a kind in messages. -/
def Kind.label : Kind → String
  | .null => "NULL"
  | .bool => "bool"
  | .integer => "integer"
  | .float => "float"
  | .text => "text"
  | .blob => "blob"
  | .date => "date"
  | .timestamp => "timestamp"

/-- What kind of value it is. -/
def kind : Value → Kind
  | .null => .null
  | .bool _ => .bool
  | .int _ => .integer
  | .float _ => .float
  | .text _ => .text
  | .blob _ => .blob
  | .date _ => .date
  | .timestamp _ => .timestamp

def isNull : Value → Bool
  | .null => true
  | _ => false

@[simp] theorem isNull_iff {v : Value} : v.isNull = true ↔ v = .null := by
  cases v <;> simp [isNull]

/-- A value as a message shows it: text is quoted and escaped, a blob is only counted. -/
def display : Value → List Char
  | .null => "NULL".toList
  | .bool b => if b then "true".toList else "false".toList
  | .int n => Digits.ofInt n.toInt
  | .float x => x.text
  | .text s => Text.escaped s.toList
  | .blob bytes => '<' :: Digits.ofNat bytes.length ++ " bytes>".toList
  | .date d => d.text
  | .timestamp t => t.text

end Value

end PolySql
