import PolySql.Statement

/-!
# Running queries

A `Database` is a dialect and something that answers rendered statements, which may look at every
statement that it was sent before. Running a query gives a `Run`: the statements that were sent,
the events, and the outcome.

* `Database.execute` : one statement, sent once if it can be rendered;
* `Database.fetchAll`, `Database.fetchFirst` : the same with records out of the rows;
* `Database.run`, `Database.runAll` : a query with what is to be done with it, and a list of them.
-/

namespace PolySql

/-- A dialect, and the answer to a statement after earlier ones: rows, or a reason for refusing. -/
structure Database where
  dialect : Dialect
  answer : List Rendering → Rendering → Except String (List Row)

/-- What running a query did. -/
structure Run (α : Type) extends Logged α where
  sent : List Rendering

/-- The same run with another reading of its result, which may fail. -/
def Run.andThen {α β : Type} (r : Run α) (f : α → Except Fault β) : Run β :=
  { r with outcome := r.outcome.bind f }

namespace Database

/-- Renders a statement and sends it, after the statements sent earlier. -/
def execute (db : Database) (earlier : List Rendering) (s : Statement) : Run (List Row) :=
  let rendered := s.render db.dialect
  match rendered.outcome with
  | .error e => ⟨⟨rendered.events, .error e⟩, []⟩
  | .ok r =>
    let events :=
      rendered.events ++ [.executing db.dialect.name s.kind r.sql r.binds.length]
    match db.answer earlier r with
    | .error reason => ⟨⟨events, .error (.execution reason)⟩, [r]⟩
    | .ok rows => ⟨⟨events ++ [.returned rows.length], .ok rows⟩, [r]⟩

/-- The records of all rows, up to the first that cannot be read. -/
def decodeAll (m : Model) : List Row → Except Fault (List (Record m))
  | [] => .ok []
  | row :: rows =>
    match row.decode "" m with
    | .error e => .error (.decode e)
    | .ok r =>
      match decodeAll m rows with
      | .error e => .error e
      | .ok rs => .ok (r :: rs)

/-- The record of the first row, if there is one; the other rows do not matter. -/
def decodeFirst (m : Model) : List Row → Except Fault (Option (Record m))
  | [] => .ok none
  | row :: _ =>
    match row.decode "" m with
    | .error e => .error (.decode e)
    | .ok r => .ok (some r)

/-- Sends a statement and reads all of its rows. -/
def fetchAll (db : Database) (earlier : List Rendering) (m : Model) (s : Statement) :
    Run (List (Record m)) :=
  (db.execute earlier s).andThen (decodeAll m)

/-- Sends a statement and reads its first row. -/
def fetchFirst (db : Database) (earlier : List Rendering) (m : Model) (s : Statement) :
    Run (Option (Record m)) :=
  (db.execute earlier s).andThen (decodeFirst m)

/-! ## Queries -/

/-- What is to be done with a query. -/
inductive Task where
  | execute
  /-- Renders the statement and sends nothing. -/
  | render
  | fetchAll (m : Model)
  | fetchFirst (m : Model)
  /-- The first row of a SELECT that asks for no more than one. -/
  | first (m : Model)

/-- What a task gives. -/
inductive Result where
  | rows (rows : List Row)
  | rendering (r : Rendering)
  | records (m : Model) (rs : List (Record m))
  | record (m : Model) (r : Option (Record m))

/-- A SELECT that asks for no more than one row; any other query as it is. -/
def atMostOne : Query → Query
  | .select s => .select s.first
  | q => q

/-- A task on a complete statement. -/
def perform (db : Database) (earlier : List Rendering) (s : Statement) : Task → Run Result
  | .execute => (db.execute earlier s).andThen fun rows => .ok (.rows rows)
  | .render =>
    let rendered := s.render db.dialect
    ⟨⟨rendered.events, rendered.outcome.map .rendering⟩, []⟩
  | .fetchAll m => (db.fetchAll earlier m s).andThen fun rs => .ok (.records m rs)
  | .fetchFirst m | .first m => (db.fetchFirst earlier m s).andThen fun r => .ok (.record m r)

/-- Completes a query and performs a task on it, after the statements sent earlier. -/
def run (db : Database) (earlier : List Rendering) (q : Query) (t : Task) : Run Result :=
  let finished :=
    match t with
    | .first _ => (atMostOne q).finish
    | _ => q.finish
  match finished.outcome with
  | .error e => ⟨⟨finished.events, .error e⟩, []⟩
  | .ok s =>
    let done := db.perform earlier s t
    { done with events := finished.events ++ done.events }

/-- Queries one after the other, each after the statements that the ones before it sent. -/
def runAll (db : Database) (earlier : List Rendering) : List (Query × Task) → List (Run Result)
  | [] => []
  | (q, t) :: rest =>
    let done := db.run earlier q t
    done :: db.runAll (earlier ++ done.sent) rest

end Database

end PolySql
