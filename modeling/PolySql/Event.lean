import PolySql.Fault

/-!
# Log events

Rendering and running a statement leaves a trail of `Event`s, in order. A computation that may
fail and leaves a trail either way is a `Logged`.

* `Event.level`, `Event.message`, `Event.fields` : an event as a log shows it;
* `Logged.bind` : one computation after another, up to the first fault.
-/

namespace PolySql

/-- What is worth noting on the way. -/
inductive Event where
  /-- The columns of a conflict target went unsaid, unique keys imply them. -/
  | conflictTargetOmitted (dialect : String)
  /-- `IF EXISTS` or `IF NOT EXISTS` went unsaid. -/
  | guardOmitted (dialect guard : String)
  /-- `CASCADE` or `RESTRICT` went unsaid. -/
  | dropBehaviorOmitted (dialect behavior : String)
  | conflictClauseBuilt (table : String) (targeted : Bool)
  | executing (dialect : String) (kind : StatementKind) (sql : String) (binds : Nat)
  | returned (rows : Nat)
deriving DecidableEq, Repr

/-- How much an event matters. -/
inductive Event.Level where
  | debug
  | trace
deriving DecidableEq, Repr

/-- The value of a named field of an event. -/
inductive Event.Detail where
  | text (s : String)
  | count (n : Nat)
  | flag (b : Bool)
deriving DecidableEq, Repr

namespace Event

/-- Only the count of returned rows matters less than the rest. -/
def level : Event → Level
  | .returned _ => .trace
  | _ => .debug

/-- The event in words. -/
def message : Event → String
  | .conflictTargetOmitted _ => "Conflict target implied by unique keys, omitting columns"
  | .guardOmitted .. => "Existence guard unsupported, omitting it"
  | .dropBehaviorOmitted .. => "Drop behavior unsupported, omitting it"
  | .conflictClauseBuilt .. => "Building conflict clause"
  | .executing .. => "Executing SQL"
  | .returned _ => "Statement returned rows"

/-- The named fields of an event, its message apart. -/
def fields : Event → List (String × Detail)
  | .conflictTargetOmitted dialect => [("dialect", .text dialect)]
  | .guardOmitted dialect guard => [("dialect", .text dialect), ("guard", .text guard)]
  | .dropBehaviorOmitted dialect behavior =>
    [("dialect", .text dialect), ("behavior", .text behavior)]
  | .conflictClauseBuilt table targeted => [("table", .text table), ("targeted", .flag targeted)]
  | .executing dialect kind sql binds =>
    [("dialect", .text dialect), ("kind", .text kind.label), ("sql", .text sql),
     ("binds", .count binds)]
  | .returned rows => [("rows", .count rows)]

end Event

/-- The outcome of a computation and the events on the way to it. -/
structure Logged (α : Type) where
  events : List Event
  outcome : Except Fault α

namespace Logged

/-- A success without events. -/
def ok {α : Type} (a : α) : Logged α := ⟨[], .ok a⟩

/-- A fault without events. -/
def error {α : Type} (e : Fault) : Logged α := ⟨[], .error e⟩

/-- What follows a success adds its own events; nothing follows a fault. -/
def bind {α β : Type} (x : Logged α) (f : α → Logged β) : Logged β :=
  match x.outcome with
  | .ok a => ⟨x.events ++ (f a).events, (f a).outcome⟩
  | .error e => ⟨x.events, .error e⟩

instance : Monad Logged where
  pure := ok
  bind := bind

@[simp] theorem outcome_pure {α : Type} (a : α) : (pure a : Logged α).outcome = .ok a := rfl

@[simp] theorem events_pure {α : Type} (a : α) : (pure a : Logged α).events = [] := rfl

@[simp] theorem outcome_bind {α β : Type} (x : Logged α) (f : α → Logged β) :
    (x >>= f).outcome = x.outcome.bind fun a => (f a).outcome := by
  show (bind x f).outcome = _
  unfold bind
  cases x.outcome <;> rfl

end Logged

end PolySql
