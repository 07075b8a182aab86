/-!
# Operators

* `BinaryOp.text`, `UnaryOp.text` : how an operator is written;
* `BinaryOp.precedence` : how tightly an operator binds, the greater the tighter;
* `BinaryOp.isAssociative` : the operators whose chains need no parentheses.
-/

namespace PolySql

/-- Operators between two operands. -/
inductive BinaryOp where
  | add
  | sub
  | mul
  | div
  | mod
  | eq
  | notEq
  | lt
  | ltEq
  | gt
  | gtEq
  | and
  | or
  | concat
  | like
  | notLike
deriving DecidableEq, Repr

namespace BinaryOp

/-- The operator as it is written. -/
def text : BinaryOp → String
  | .add => "+"
  | .sub => "-"
  | .mul => "*"
  | .div => "/"
  | .mod => "%"
  | .eq => "="
  | .notEq => "<>"
  | .lt => "<"
  | .ltEq => "<="
  | .gt => ">"
  | .gtEq => ">="
  | .and => "AND"
  | .or => "OR"
  | .concat => "||"
  | .like => "LIKE"
  | .notLike => "NOT LIKE"

/-- How tightly an operator binds its operands. -/
def precedence : BinaryOp → Nat
  | .or => 1
  | .and => 2
  | .eq | .notEq | .lt | .ltEq | .gt | .gtEq => 3
  | .like | .notLike => 4
  | .add | .sub | .concat => 8
  | .mul | .div | .mod => 9

/-- Whether `a op (b op c)` and `(a op b) op c` are the same. -/
def isAssociative : BinaryOp → Bool
  | .and | .or | .add | .mul | .concat => true
  | _ => false

/-- The precedence of comparisons, and of the tests for null, for a list and for a range. -/
def comparisonPrecedence : Nat := 3

end BinaryOp

/-- Operators in front of one operand. -/
inductive UnaryOp where
  | neg
  | not
deriving DecidableEq, Repr

/-- The operator as it is written, with a blank if it is a word. -/
def UnaryOp.text : UnaryOp → String
  | .neg => "-"
  | .not => "NOT "

end PolySql
