import PolySql.Returning
import PolySql.Expr.Predicate

/-!
# DELETE

* `Delete` : a statement that removes rows;
* `Delete.draft` : the statement in a dialect;
* `Delete.apply`, `Delete.ofCalls` : the statement that a list of calls builds.
-/

namespace PolySql

open Draft

/-- A statement that removes the rows that meet a condition, or all of them. -/
structure Delete where
  table : String
  condition : Option Expr := none
  returning : List Expr := []

namespace Delete

/-- A DELETE in a dialect. -/
def draft (d : Dialect) (scope : Scope) (x : Delete) : Draft :=
  d.returningCheck x.returning ++ sql "DELETE FROM " ++ name x.table ++
    led " WHERE " (x.condition.map (Expr.draft d scope)) ++ d.returningDraft scope x.returning

/-- One step in building a statement. -/
inductive Call where
  | andWhere (e : Expr)
  | orWhere (e : Expr)
  | returning (e : Expr)

/-- The statement after one call. -/
def apply (x : Delete) : Call → Delete
  | .andWhere e => { x with condition := Expr.conjoin x.condition e }
  | .orWhere e => { x with condition := Expr.disjoin x.condition e }
  | .returning e => { x with returning := x.returning ++ [e] }

/-- The statement that a list of calls builds. -/
def ofCalls (table : String) (calls : List Call) : Delete := calls.foldl apply { table }

end Delete

end PolySql
