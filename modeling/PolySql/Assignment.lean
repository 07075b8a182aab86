import PolySql.Expr.Draft

/-!
# Assignments

An `Assignment` sets a column to a value: in the `SET` list of an UPDATE, and in a conflict clause.
-/

namespace PolySql

open Draft

/-- A column and the value that it is set to. -/
structure Assignment where
  column : String
  value : Expr

namespace Assignment

def draft (d : Dialect) (scope : Scope) (a : Assignment) : Draft :=
  name a.column ++ sql " = " ++ a.value.draft d scope

/-- Assignments between commas. -/
def listDraft (d : Dialect) (scope : Scope) (assignments : List Assignment) : Draft :=
  joined ", " (assignments.map (draft d scope))

end Assignment

end PolySql
