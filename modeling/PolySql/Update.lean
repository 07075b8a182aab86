import PolySql.Assignment
import PolySql.Returning
import PolySql.Expr.Predicate
import PolySql.Model

/-!
# UPDATE

* `Update` : a statement that changes rows;
* `Update.draft` : the statement in a dialect;
* `Update.apply`, `Update.ofCalls` : the statement that a list of calls builds.
-/

namespace PolySql

open Draft

/-- A statement that sets columns of the rows that meet a condition, or of all of them. -/
structure Update where
  table : String
  assignments : List Assignment := []
  condition : Option Expr := none
  returning : List Expr := []

namespace Update

/-- An UPDATE in a dialect. -/
def draft (d : Dialect) (scope : Scope) (u : Update) : Draft :=
  require (!u.assignments.isEmpty) (.emptyClause (.statement .update) .setAssignments) ++
    d.returningCheck u.returning ++
    sql "UPDATE " ++ name u.table ++ sql " SET " ++ Assignment.listDraft d scope u.assignments ++
    led " WHERE " (u.condition.map (Expr.draft d scope)) ++ d.returningDraft scope u.returning

/-- One step in building a statement. -/
inductive Call where
  | set (column : String) (value : Expr)
  /-- Every column of the model takes the record's value. -/
  | setRecord (m : Model) (r : Record m)
  | andWhere (e : Expr)
  | orWhere (e : Expr)
  | returning (e : Expr)

/-- One more assignment. -/
def set (u : Update) (column : String) (value : Expr) : Update :=
  { u with assignments := u.assignments ++ [⟨column, value⟩] }

/-- The statement after one call. -/
def apply (u : Update) : Call → Update
  | .set column value => u.set column value
  | .setRecord m r => (m.columns.zip r.values).foldl (fun u (c, v) => u.set c (.bind v)) u
  | .andWhere e => { u with condition := Expr.conjoin u.condition e }
  | .orWhere e => { u with condition := Expr.disjoin u.condition e }
  | .returning e => { u with returning := u.returning ++ [e] }

/-- Values set their columns one after the other. -/
theorem foldl_set (pairs : List (String × Value)) (u : Update) :
    pairs.foldl (fun u (c, v) => u.set c (.bind v)) u =
      { u with assignments := u.assignments ++ pairs.map fun (c, v) => ⟨c, .bind v⟩ } := by
  induction pairs generalizing u with
  | nil => simp
  | cons p pairs ih =>
    rw [List.foldl_cons, ih]
    simp [set]

/-- The statement that a list of calls builds. -/
def ofCalls (table : String) (calls : List Call) : Update := calls.foldl apply { table }

end Update

end PolySql
