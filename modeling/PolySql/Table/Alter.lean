import PolySql.Table.Column

/-!
# ALTER TABLE

* `AlterTable`, `AlterTable.Action` : a statement that changes a table, action by action;
* `AlterTable.draft` : the statement in a dialect;
* `AlterTable.apply`, `AlterTable.ofCalls` : every call adds one action.
-/

namespace PolySql

open Draft

namespace AlterTable

/-- One change of a table. -/
inductive Action where
  | addColumn (c : ColumnDefinition)
  | dropColumn (name : String)
  | renameColumn (old new : String)
  | renameTo (name : String)

def Action.draft (d : Dialect) (scope : Scope) : Action → Draft
  | .addColumn c => sql "ADD COLUMN " ++ c.draft d scope
  | .dropColumn n => sql "DROP COLUMN " ++ name n
  | .renameColumn old new => sql "RENAME COLUMN " ++ name old ++ sql " TO " ++ name new
  | .renameTo n => sql "RENAME TO " ++ name n

end AlterTable

/-- A statement that changes a table, action by action. -/
structure AlterTable where
  name : String
  actions : List AlterTable.Action := []

namespace AlterTable

/-- An ALTER TABLE in a dialect. -/
def draft (d : Dialect) (scope : Scope) (t : AlterTable) : Draft :=
  require (!t.actions.isEmpty) (.emptyClause (.statement .alterTable) .alterActions) ++
    require (t.actions.length ≤ 1 || d.multipleAlterActions)
      (.unsupported d.name .multipleAlterActions) ++
    sql "ALTER TABLE " ++ Draft.name t.name ++ sql " " ++
    joined ", " (t.actions.map (Action.draft d scope))

/-- The statement with one more action. -/
def apply (t : AlterTable) (a : Action) : AlterTable := { t with actions := t.actions ++ [a] }

/-- The statement that a list of calls builds. -/
def ofCalls (name : String) (calls : List Action) : AlterTable := calls.foldl apply { name }

end AlterTable

end PolySql
