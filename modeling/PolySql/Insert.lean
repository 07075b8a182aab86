import PolySql.Insert.Conflict
import PolySql.Returning
import PolySql.Expr.Predicate
import PolySql.Model

/-!
# INSERT

* `Insert` : a statement that adds rows;
* `Insert.widthFault?` : the first row that does not match the columns;
* `Insert.draft` : the statement in a dialect;
* `Insert.apply`, `Insert.ofCalls` : the statement that a list of calls builds.
-/

namespace PolySql

open Draft

/-- A statement that adds rows to a table. Without columns the rows list all of them. -/
structure Insert where
  table : String
  columns : List String := []
  rows : List (List Expr) := []
  conflict : Option Conflict := none
  returning : List Expr := []

namespace Insert

/-- The fault of the first row whose width is not that of the column list. -/
def widthFault? (i : Insert) : Option Fault :=
  if i.columns.isEmpty then none
  else
    (i.rows.find? fun row => row.length != i.columns.length).map fun row =>
      .columnCountMismatch i.columns.length row.length

theorem widthFault?_eq_none {i : Insert} :
    i.widthFault? = none ↔
      i.columns = [] ∨ ∀ row ∈ i.rows, row.length = i.columns.length := by
  by_cases h : i.columns = [] <;> simp [widthFault?, h]

/-- One row between parentheses. -/
def rowDraft (d : Dialect) (scope : Scope) (row : List Expr) : Draft :=
  parens (joined ", " (row.map (Expr.draft d scope)))

/-- An INSERT in a dialect. What can be said against it comes before its text, except that the
dialect may lack `RETURNING`. -/
def draft (d : Dialect) (scope : Scope) (i : Insert) : Draft :=
  require (!i.rows.isEmpty) (.emptyClause (.statement .insert) .valuesRows) ++
    all (i.widthFault?.toList.map fail) ++
    all (i.conflict.toList.map (Conflict.checks d)) ++
    sql (if i.conflict.any (Conflict.becomesIgnore d) then "INSERT IGNORE INTO "
      else "INSERT INTO ") ++
    name i.table ++ only (!i.columns.isEmpty) (sql " (" ++ names i.columns ++ sql ")") ++
    sql " VALUES " ++ joined ", " (i.rows.map (rowDraft d scope)) ++
    all (i.conflict.toList.map (Conflict.draft d scope)) ++
    d.returningDraft scope i.returning

/-! ## Building -/

/-- One step in building a statement. -/
inductive Call where
  | columns (names : List String)
  | row (row : List Expr)
  /-- A row out of a record; the columns become those of its model. -/
  | record (m : Model) (r : Record m)
  | records (m : Model) (rs : List (Record m))
  | returning (e : Expr)

/-- One more row. -/
def addRow (i : Insert) (row : List Expr) : Insert := { i with rows := i.rows ++ [row] }

/-- One more row, with the columns of the record's model. -/
def addRecord {m : Model} (i : Insert) (r : Record m) : Insert :=
  { i.addRow (r.values.map .bind) with columns := m.columns }

/-- The statement after one call. -/
def apply (i : Insert) : Call → Insert
  | .columns names => { i with columns := names }
  | .row row => i.addRow row
  | .record _ r => i.addRecord r
  | .records _ rs => rs.foldl addRecord i
  | .returning e => { i with returning := i.returning ++ [e] }

/-- The rows of records. -/
def recordRows {m : Model} (rs : List (Record m)) : List (List Expr) :=
  rs.map fun r => r.values.map .bind

/-- Records add their rows, and set the columns unless there are none of them. -/
theorem foldl_addRecord {m : Model} (rs : List (Record m)) (i : Insert) :
    rs.foldl addRecord i =
      { i with
        columns := if rs.isEmpty then i.columns else m.columns
        rows := i.rows ++ recordRows rs } := by
  induction rs generalizing i with
  | nil => simp [recordRows]
  | cons r rs ih =>
    rw [List.foldl_cons, ih]
    simp [addRecord, addRow, recordRows]

/-- The statement that a list of calls builds. -/
def ofCalls (table : String) (calls : List Call) : Insert := calls.foldl apply { table }

end Insert

end PolySql
