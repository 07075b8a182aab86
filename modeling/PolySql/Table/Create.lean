import PolySql.Table.Column

/-!
# CREATE TABLE

* `CreateTable`, `TableConstraint` : a statement that creates a table;
* `CreateTable.draft` : the statement in a dialect;
* `CreateTable.apply`, `CreateTable.ofCalls` : the statement that a list of calls builds.
-/

namespace PolySql

open Draft

/-- What a constraint on a table demands. -/
inductive TableConstraint.Rule where
  | primaryKey (columns : List String)
  | unique (columns : List String)
  | check (condition : Expr)
  | foreignKey (columns : List String) (reference : Reference)

/-- A constraint on a table, with or without a name. -/
structure TableConstraint where
  name : Option String
  rule : TableConstraint.Rule

/-- A statement that creates a table. -/
structure CreateTable where
  name : String
  temporary : Bool := false
  ifNotExists : Bool := false
  columns : List ColumnDefinition := []
  constraints : List TableConstraint := []

def TableConstraint.Rule.draft (d : Dialect) (scope : Scope) : TableConstraint.Rule → Draft
  | .primaryKey columns => sql "PRIMARY KEY (" ++ names columns ++ sql ")"
  | .unique columns => sql "UNIQUE (" ++ names columns ++ sql ")"
  | .check condition => sql "CHECK (" ++ condition.draft d scope ++ sql ")"
  | .foreignKey columns reference =>
    sql "FOREIGN KEY (" ++ names columns ++ sql ") " ++ reference.draft

def TableConstraint.draft (d : Dialect) (scope : Scope) (c : TableConstraint) : Draft :=
  led "CONSTRAINT " (c.name.map fun n => Draft.name n ++ sql " ") ++ c.rule.draft d scope

namespace CreateTable

/-- A CREATE TABLE in a dialect. -/
def draft (d : Dialect) (scope : Scope) (t : CreateTable) : Draft :=
  require (!t.columns.isEmpty) (.emptyClause (.statement .createTable) .columnDefinitions) ++
    sql "CREATE " ++ only t.temporary (sql "TEMPORARY ") ++ sql "TABLE " ++
    only t.ifNotExists (d.guardDraft "IF NOT EXISTS") ++ Draft.name t.name ++ sql " (" ++
    joined ", " (t.columns.map (ColumnDefinition.draft d scope)) ++
    all (t.constraints.map fun c => sql ", " ++ c.draft d scope) ++ sql ")"

/-! ## Building -/

/-- One step in building a statement. -/
inductive Call where
  | temporary
  | ifNotExists
  | column (c : ColumnDefinition)
  | constraint (name : Option String) (rule : TableConstraint.Rule)

/-- The statement after one call. -/
def apply (t : CreateTable) : Call → CreateTable
  | .temporary => { t with temporary := true }
  | .ifNotExists => { t with ifNotExists := true }
  | .column c => { t with columns := t.columns ++ [c] }
  | .constraint name rule => { t with constraints := t.constraints ++ [⟨name, rule⟩] }

/-- The statement that a list of calls builds. -/
def ofCalls (name : String) (calls : List Call) : CreateTable := calls.foldl apply { name }

end CreateTable

end PolySql
