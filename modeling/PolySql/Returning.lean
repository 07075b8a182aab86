import PolySql.Expr.Draft

/-!
# RETURNING

Statements that change rows can give back expressions over those rows, where the dialect lets them.
-/

namespace PolySql.Dialect

open Draft

/-- Stops where the dialect has no `RETURNING` although it is asked for. -/
def returningCheck (d : Dialect) (returning : List Expr) : Draft :=
  require (returning.isEmpty || d.returning) (.unsupported d.name .returning)

/-- The clause at the end of a statement, which nothing asks for if it lists nothing. -/
def returningDraft (d : Dialect) (scope : Scope) (returning : List Expr) : Draft :=
  d.returningCheck returning ++ clause " RETURNING " (returning.map (Expr.draft d scope))

end PolySql.Dialect
