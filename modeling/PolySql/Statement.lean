import PolySql.Insert.Upsert
import PolySql.Update
import PolySql.Delete
import PolySql.Select.Calls
import PolySql.Table.Create
import PolySql.Table.Alter
import PolySql.Table.Drop
import PolySql.Expr.RawQuery
import PolySql.Draft.Rendering

/-!
# Statements and queries

* `Statement` : a complete statement, rendered by `Statement.render`;
* `Query` : a statement under construction, of any kind; `Query.finish` completes it and
  `Query.build` completes and renders it.
-/

namespace PolySql

/-- A complete statement. -/
inductive Statement where
  | select (s : Select)
  | insert (i : Insert)
  | update (u : Update)
  | delete (x : Delete)
  | createTable (t : CreateTable)
  | alterTable (t : AlterTable)
  | dropTable (t : DropTable)
  | raw (e : Expr)

namespace Statement

/-- What kind of statement it is. -/
def kind : Statement → StatementKind
  | .select _ => .select
  | .insert _ => .insert
  | .update _ => .update
  | .delete _ => .delete
  | .createTable _ => .createTable
  | .alterTable _ => .alterTable
  | .dropTable _ => .dropTable
  | .raw _ => .raw

/-- A statement inside a given scope. -/
def draftIn (d : Dialect) (scope : Scope) : Statement → Draft
  | .select s => s.draft d scope
  | .insert i => i.draft d scope
  | .update u => u.draft d scope
  | .delete x => x.draft d scope
  | .createTable t => t.draft d scope
  | .alterTable t => t.draft d scope
  | .dropTable t => t.draft d
  | .raw e => e.draft d scope

/-- A statement as a scope of its own. -/
def draft (d : Dialect) (s : Statement) : Draft := s.draftIn d (.statement s.kind)

/-- Text and binds of a statement in a dialect. -/
def render (d : Dialect) (s : Statement) : Logged Rendering := (s.draft d).finish d

end Statement

/-- Text and binds of an expression that stands alone. -/
def Expr.render (d : Dialect) (e : Expr) : Logged Rendering := (e.draft d .expression).finish d

/-- A statement under construction. -/
inductive Query where
  | select (s : Select)
  | insert (i : Insert)
  | upsert (u : Upsert)
  | update (u : Update)
  | delete (x : Delete)
  | createTable (t : CreateTable)
  | alterTable (t : AlterTable)
  | dropTable (t : DropTable)
  | raw (q : RawQuery)

namespace Query

/-- The complete statement. Only rows of the wrong width and a conflict target without an action
stand in the way. -/
def finish : Query → Logged Statement
  | .select s => .ok (.select s)
  | .insert i =>
    match i.widthFault? with
    | some e => .error e
    | none => .ok (.insert i)
  | .upsert u => do return .insert (← u.finish)
  | .update u => .ok (.update u)
  | .delete x => .ok (.delete x)
  | .createTable t => .ok (.createTable t)
  | .alterTable t => .ok (.alterTable t)
  | .dropTable t => .ok (.dropTable t)
  | .raw q => .ok (.raw q.expr)

/-- Text and binds of the complete statement in a dialect. -/
def build (d : Dialect) (q : Query) : Logged Rendering := do
  let s ← q.finish
  s.render d

end Query

end PolySql
