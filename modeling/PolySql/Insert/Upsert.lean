import PolySql.Insert

/-!
# Building an INSERT with a conflict clause

An `Upsert` is an INSERT under construction, a conflict target that is named or not, and a conflict
action that is chosen or not. A target without an action says nothing, so it cannot be finished.

* `ConflictUpdate` : the assignments and the condition of an update, call by call;
* `Upsert.apply`, `Upsert.ofCalls` : the construction that a list of calls makes;
* `Upsert.finish` : the statement.
-/

namespace PolySql

/-- What an update does to a conflicting row. -/
structure ConflictUpdate where
  assignments : List Assignment := []
  condition : Option Expr := none

namespace ConflictUpdate

inductive Call where
  | set (column : String) (value : Expr)
  /-- The column takes the value that the INSERT would have written to it. -/
  | setExcluded (column : String)
  | condition (e : Expr)

/-- The update after one call. -/
def apply (u : ConflictUpdate) : Call → ConflictUpdate
  | .set column value => { u with assignments := u.assignments ++ [⟨column, value⟩] }
  | .setExcluded column =>
    { u with assignments := u.assignments ++ [⟨column, .excluded column⟩] }
  | .condition e => { u with condition := Expr.conjoin u.condition e }

/-- The update that a list of calls builds. -/
def ofCalls (calls : List Call) : ConflictUpdate := calls.foldl apply {}

end ConflictUpdate

/-- An INSERT under construction, with its conflict clause. -/
structure Upsert where
  insert : Insert
  target : Option ConflictTarget := none
  action : Option ConflictAction := none

namespace Upsert

/-- Goes on from an INSERT without a conflict clause. -/
def ofInsert (i : Insert) : Upsert := { insert := i }

/-- One step in building a statement. -/
inductive Call where
  | insert (call : Insert.Call)
  | onConflict (columns : List String)
  | targetCondition (e : Expr)
  | doNothing
  | doUpdate (calls : List ConflictUpdate.Call)
  /-- Every column of the model takes the value that the INSERT would have written to it. -/
  | doUpdateAll (m : Model)

/-- Chooses an update as the action. -/
def doUpdate (u : Upsert) (calls : List ConflictUpdate.Call) : Upsert :=
  let update := ConflictUpdate.ofCalls calls
  { u with action := some (.doUpdate update.assignments update.condition) }

/-- The construction after one call; the last target columns and the last action count. -/
def apply (u : Upsert) : Call → Upsert
  | .insert call => { u with insert := u.insert.apply call }
  | .onConflict columns =>
    { u with target := some { u.target.getD {} with columns } }
  | .targetCondition e =>
    let target := u.target.getD {}
    { u with target := some { target with condition := Expr.conjoin target.condition e } }
  | .doNothing => { u with action := some .doNothing }
  | .doUpdate calls => u.doUpdate calls
  | .doUpdateAll m => u.doUpdate (m.columns.map .setExcluded)

/-- The construction that a list of calls makes. -/
def ofCalls (table : String) (calls : List Call) : Upsert :=
  calls.foldl apply (ofInsert { table })

/-- The finished statement: rows of the wrong width come first among the faults. -/
def finish (u : Upsert) : Logged Insert :=
  match u.insert.widthFault?, u.target, u.action with
  | some e, _, _ => .error e
  | none, none, none => .ok { u.insert with conflict := none }
  | none, some _, none => .error (.emptyClause (.statement .insert) .conflictAction)
  | none, target, some action =>
    ⟨[.conflictClauseBuilt u.insert.table target.isSome],
      .ok { u.insert with conflict := some ⟨target.getD {}, action⟩ }⟩

end Upsert

end PolySql
