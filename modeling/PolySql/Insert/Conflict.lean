import PolySql.Assignment

/-!
# Conflict clauses

A `Conflict` says which rows count as already there and what an INSERT does with them. Dialects
differ in how much of it they can say, so a clause is checked before it is written.

* `Conflict.checks` : what a dialect demands of a clause;
* `Conflict.becomesIgnore` : a clause that is a word at the start of the statement;
* `Conflict.draft` : the clause after the rows.
-/

namespace PolySql

open Draft

/-- The rows that count as conflicting: no columns stand for any conflict. -/
structure ConflictTarget where
  columns : List String := []
  condition : Option Expr := none

/-- What happens to a conflicting row. -/
inductive ConflictAction where
  | doNothing
  | doUpdate (assignments : List Assignment) (condition : Option Expr)

/-- What an INSERT does with rows that are already there. -/
structure Conflict where
  target : ConflictTarget
  action : ConflictAction

namespace Conflict

/-- What can be said against a clause in the standard syntax. -/
def standardChecks (d : Dialect) (c : Conflict) : Draft :=
  require (!(c.target.columns.isEmpty && c.target.condition.isSome))
      (.emptyClause (.statement .insert) .conflictTargetColumns) ++
    match c.action with
    | .doNothing => empty
    | .doUpdate assignments _ =>
      require (!(c.target.columns.isEmpty && d.conflictTargetRequired))
          (.conflictTargetRequired d.name) ++
        require (!assignments.isEmpty) (.emptyClause (.statement .insert) .conflictAssignments)

/-- What can be said against a clause where unique keys decide what conflicts. -/
def uniqueKeyChecks (d : Dialect) (c : Conflict) : Draft :=
  require c.target.condition.isNone (.unsupported d.name .conflictTargetPredicate) ++
    only (!c.target.columns.isEmpty) (note (.conflictTargetOmitted d.name)) ++
    match c.action with
    | .doNothing => empty
    | .doUpdate assignments condition =>
      require condition.isNone (.unsupported d.name .conflictActionPredicate) ++
        require (!assignments.isEmpty) (.emptyClause (.statement .insert) .conflictAssignments)

/-- What a dialect demands of a conflict clause. -/
def checks (d : Dialect) (c : Conflict) : Draft :=
  match d.upsertSyntax with
  | .unsupported => fail (.unsupported d.name .conflictResolution)
  | .standard => c.standardChecks d
  | .mySql => c.uniqueKeyChecks d

/-- Whether the clause becomes the word `IGNORE` at the start of the statement. -/
def becomesIgnore (d : Dialect) (c : Conflict) : Bool :=
  match d.upsertSyntax, c.action with
  | .mySql, .doNothing => true
  | _, _ => false

/-- The target in parentheses with its condition; nothing stands for any conflict. -/
def targetDraft (d : Dialect) (scope : Scope) (t : ConflictTarget) : Draft :=
  if t.columns.isEmpty then empty
  else
    sql " (" ++ names t.columns ++ sql ")" ++ led " WHERE " (t.condition.map (Expr.draft d scope))

/-- The clause after the rows. There are two blanks in front of `SET`. -/
def draft (d : Dialect) (scope : Scope) (c : Conflict) : Draft :=
  match d.upsertSyntax, c.action with
  | .standard, .doNothing =>
    sql " ON CONFLICT" ++ targetDraft d scope c.target ++ sql " DO NOTHING"
  | .standard, .doUpdate assignments condition =>
    sql " ON CONFLICT" ++ targetDraft d scope c.target ++ sql " DO UPDATE  SET " ++
      Assignment.listDraft d scope assignments ++ led " WHERE " (condition.map (Expr.draft d scope))
  | .mySql, .doNothing => empty
  | .mySql, .doUpdate assignments _ =>
    sql " ON DUPLICATE KEY UPDATE " ++ Assignment.listDraft d scope assignments
  | .unsupported, _ => fail (.unsupported d.name .conflictResolution)

end Conflict

end PolySql
