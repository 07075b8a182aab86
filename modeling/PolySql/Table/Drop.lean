import PolySql.Table.Column

/-!
# DROP TABLE

* `DropTable`, `DropTable.Behavior` : a statement that drops tables;
* `DropTable.draft` : the statement in a dialect, without what the dialect cannot say;
* `DropTable.apply`, `DropTable.ofCalls` : the statement that a list of calls builds.
-/

namespace PolySql

open Draft

/-- What happens to whatever depends on a dropped table. -/
inductive DropTable.Behavior where
  | cascade
  | restrict
deriving DecidableEq, Repr

/-- The keyword for the behavior. -/
def DropTable.Behavior.text : DropTable.Behavior → String
  | .cascade => "CASCADE"
  | .restrict => "RESTRICT"

/-- A statement that drops tables. -/
structure DropTable where
  names : List String
  ifExists : Bool := false
  behavior : Option DropTable.Behavior := none
deriving DecidableEq, Repr

namespace DropTable

/-- A behavior, which goes unsaid where the dialect lacks it. -/
def Behavior.draft (d : Dialect) (b : Behavior) : Draft :=
  if d.dropBehavior then sql " " ++ sql b.text else note (.dropBehaviorOmitted d.name b.text)

/-- A DROP TABLE in a dialect. -/
def draft (d : Dialect) (t : DropTable) : Draft :=
  require (!t.names.isEmpty) (.emptyClause (.statement .dropTable) .tableNames) ++
    sql "DROP TABLE " ++ only t.ifExists (d.guardDraft "IF EXISTS") ++ Draft.names t.names ++
    all (t.behavior.toList.map (Behavior.draft d))

/-! ## Building -/

/-- One step in building a statement. -/
inductive Call where
  | table (name : String)
  | ifExists
  | cascade
  | restrict
deriving DecidableEq, Repr

/-- The statement after one call; the last behavior counts. -/
def apply (t : DropTable) : Call → DropTable
  | .table name => { t with names := t.names ++ [name] }
  | .ifExists => { t with ifExists := true }
  | .cascade => { t with behavior := some .cascade }
  | .restrict => { t with behavior := some .restrict }

/-- The statement that a list of calls builds. -/
def ofCalls (name : String) (calls : List Call) : DropTable :=
  calls.foldl apply { names := [name] }

end DropTable

end PolySql
