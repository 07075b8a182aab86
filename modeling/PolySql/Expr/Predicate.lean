import PolySql.Expr
import PolySql.Value.Conversion

/-!
# Predicates and column expressions

* `Expr.conjoin`, `Expr.disjoin` : a condition that grows call by call;
* `Column` : a column and what can be said of it, every value becoming a bind;
* `Expr.countAll`, `Expr.count` : the counting functions.
-/

namespace PolySql

namespace Expr

/-- An unqualified column. -/
def col (name : String) : Expr := .column none name

/-- The next condition joined to the earlier ones with AND. -/
def conjoin (earlier : Option Expr) (next : Expr) : Option Expr :=
  match earlier with
  | some e => some (.binary e .and next)
  | none => some next

/-- The next condition joined to the earlier ones with OR. -/
def disjoin (earlier : Option Expr) (next : Expr) : Option Expr :=
  match earlier with
  | some e => some (.binary e .or next)
  | none => some next

/-- `COUNT(*)`. -/
def countAll : Expr := .call "COUNT" [.star none] false

/-- The count of a column's values. -/
def count (column : String) : Expr := .call "COUNT" [.col column] false

end Expr

/-- A column, of a given table or of any. -/
structure Column where
  table : Option String
  name : String
deriving DecidableEq, Repr

namespace Column

/-- The column as an expression. -/
def expr (c : Column) : Expr := .column c.table c.name

/-- A comparison with a bound value. -/
def compare {α : Type} [ToValue α] (c : Column) (op : BinaryOp) (a : α) : Expr :=
  .binary c.expr op (.bind (toValue a))

/-- Equality with another column. -/
def equals (c other : Column) : Expr := .binary c.expr .eq other.expr

/-- A test for null, or for anything else. -/
def isNull (c : Column) (negated : Bool) : Expr := .isNull c.expr negated

/-- A test for a range with both ends, or for anything outside it. -/
def between {α β : Type} [ToValue α] [ToValue β] (c : Column) (low : α) (high : β)
    (negated : Bool) : Expr :=
  .between c.expr (.bind (toValue low)) (.bind (toValue high)) negated

/-- A test for a list of values, or for any other value. -/
def isIn {α : Type} [ToValue α] (c : Column) (choices : List α) (negated : Bool) : Expr :=
  .isIn c.expr (choices.map fun a => .bind (toValue a)) negated

end Column

end PolySql
