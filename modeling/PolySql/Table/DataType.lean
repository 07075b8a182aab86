import PolySql.Number.Digits

/-!
# Column types

A `DataType` is the declared type of a column; `DataType.spelled` writes it.
-/

namespace PolySql

/-- The declared types of columns. -/
inductive DataType where
  | smallint
  | integer
  | bigint
  | real
  | double
  /-- A decimal number with an optional precision and an optional scale. -/
  | decimal (precision scale : Option Nat)
  | varchar (length : Option Nat)
  | text
  | blob
  | date
  | time
  | timestamp
  | boolean
  /-- Any other type, copied as it is. -/
  | custom (text : String)
deriving DecidableEq, Repr

private def sized (keyword : String) (size : List Char) : String :=
  keyword ++ "(" ++ .ofList size ++ ")"

/-- The type as a column definition names it. A scale without a precision goes unwritten. -/
def DataType.spelled : DataType → String
  | .smallint => "SMALLINT"
  | .integer => "INTEGER"
  | .bigint => "BIGINT"
  | .real => "REAL"
  | .double => "DOUBLE"
  | .decimal (some p) (some s) => sized "DECIMAL" (Digits.ofNat p ++ [',', ' '] ++ Digits.ofNat s)
  | .decimal (some p) none => sized "DECIMAL" (Digits.ofNat p)
  | .decimal none _ => "DECIMAL"
  | .varchar (some n) => sized "VARCHAR" (Digits.ofNat n)
  | .varchar none => "VARCHAR"
  | .text => "TEXT"
  | .blob => "BLOB"
  | .date => "DATE"
  | .time => "TIME"
  | .timestamp => "TIMESTAMP"
  | .boolean => "BOOLEAN"
  | .custom verbatim => verbatim

end PolySql
