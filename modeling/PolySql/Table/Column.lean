import PolySql.Expr.Draft
import PolySql.Table.DataType

/-!
# Column definitions

* `Reference` : columns of another table that a foreign key points to;
* `ColumnDefinition`, `ColumnConstraint` : a column of a table with its constraints, written in the
  order in which they are given.
-/

namespace PolySql

open Draft

/-- What happens to a row when the row that it refers to goes or changes. -/
inductive ReferenceAction where
  | noAction
  | restrict
  | cascade
  | setNull
  | setDefault
deriving DecidableEq, Repr

/-- The words for the action. -/
def ReferenceAction.text : ReferenceAction → String
  | .noAction => "NO ACTION"
  | .restrict => "RESTRICT"
  | .cascade => "CASCADE"
  | .setNull => "SET NULL"
  | .setDefault => "SET DEFAULT"

/-- The columns of another table that a foreign key points to. -/
structure Reference where
  table : String
  columns : List String
  onDelete : Option ReferenceAction
  onUpdate : Option ReferenceAction
deriving DecidableEq, Repr

/-- A constraint on a column. -/
inductive ColumnConstraint where
  | notNull
  | null
  | primaryKey (autoIncrement : Bool)
  | unique
  | default (value : Expr)
  | check (condition : Expr)
  | references (reference : Reference)
  /-- A collation, whose name is copied as it is. -/
  | collate (collation : String)

/-- A column with its type and its constraints. -/
structure ColumnDefinition where
  name : String
  type : DataType
  constraints : List ColumnConstraint

/-- The table and the columns that a foreign key points to, and what follows from changes there. -/
def Reference.draft (r : Reference) : Draft :=
  sql "REFERENCES " ++ name r.table ++ sql " (" ++ names r.columns ++ sql ")" ++
    led " ON DELETE " (r.onDelete.map fun a => sql a.text) ++
    led " ON UPDATE " (r.onUpdate.map fun a => sql a.text)

/-- The keyword of a key that counts up by itself. -/
def Dialect.autoIncrementDraft (d : Dialect) : Draft :=
  require d.autoIncrement (.unsupported d.name .autoIncrement) ++ sql " " ++
    sql d.autoIncrementKeyword

def ColumnConstraint.draft (d : Dialect) (scope : Scope) : ColumnConstraint → Draft
  | .notNull => sql "NOT NULL"
  | .null => sql "NULL"
  | .primaryKey auto => sql "PRIMARY KEY" ++ only auto d.autoIncrementDraft
  | .unique => sql "UNIQUE"
  | .default value => sql "DEFAULT " ++ value.draft d scope
  | .check condition => sql "CHECK (" ++ condition.draft d scope ++ sql ")"
  | .references reference => reference.draft
  | .collate collation => sql "COLLATE " ++ sql collation

def ColumnDefinition.draft (d : Dialect) (scope : Scope) (c : ColumnDefinition) : Draft :=
  Draft.name c.name ++ sql " " ++ sql c.type.spelled ++
    all (c.constraints.map fun k => sql " " ++ k.draft d scope)

/-- `IF EXISTS` or `IF NOT EXISTS`, which goes unsaid where the dialect lacks it. -/
def Dialect.guardDraft (d : Dialect) (guard : String) : Draft :=
  if d.ifExists then sql guard ++ sql " " else note (.guardOmitted d.name guard)

end PolySql
