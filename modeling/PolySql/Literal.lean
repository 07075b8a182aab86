import PolySql.Number.Shortest
import PolySql.Calendar.Timestamp

/-!
# Inline literals

A `Literal` is a constant that becomes part of the text of a statement. How it is spelled is up to
the dialect.
-/

namespace PolySql

/-- A constant inside the text of a statement. -/
inductive Literal where
  | null
  | bool (b : Bool)
  | int (n : Int64)
  | float (x : Binary64)
  | text (s : String)
  | date (d : Date)
  | timestamp (t : Timestamp)
deriving DecidableEq, Repr

namespace Literal

/-- A literal that SQL has a token for: neither an infinity nor NaN. -/
def isFinite : Literal → Bool
  | .float x => x.isFinite
  | _ => true

/-- A number whose text starts with a minus sign; minus zero and negative NaNs are among them. -/
def startsNegative : Literal → Bool
  | .int n => n < 0
  | .float x => x.isNegative
  | _ => false

end Literal

end PolySql
