import PolySql.Statement

/-!
# Writing call by call

A `Session` is a draft that grows by separate calls in one dialect. A call that stops leaves what
it has written, and the next call goes on from there.

* `Session.Call`, `Session.apply` : one call;
* `Session.steps` : a list of calls;
* `Session.rendering` : text and binds as they stand.
-/

namespace PolySql

/-- What is written so far, and the scope that faults name. -/
structure Session where
  scope : Scope := .expression
  tokens : List Token := []

namespace Session

/-- A piece of writing that is one call. -/
inductive Call where
  | sql (text : String)
  | name (name : String)
  | names (names : List String)
  | bind (v : Value)
  | list (items : List Expr) (separator : String)
  | expr (e : Expr)
  /-- A statement, which is the scope from then on. -/
  | statement (s : Statement)
  /-- A statement that leaves the scope as it is. -/
  | clauses (s : Statement)

/-- The scope while a call writes, and after it. -/
def scopeOf (scope : Scope) : Call → Scope
  | .statement s => .statement s.kind
  | _ => scope

/-- What a call writes. -/
def Call.draft (d : Dialect) (scope : Scope) : Call → Draft
  | .sql text => Draft.sql text
  | .name n => Draft.name n
  | .names ns => Draft.names ns
  | .bind v => Draft.bind v
  | .list items separator => Draft.joined separator (items.map (Expr.draft d scope))
  | .expr e => e.draft d scope
  | .statement s => s.draft d
  | .clauses s => s.draftIn d scope

/-- The session after a call, and the call's fault. -/
def apply (d : Dialect) (x : Session) (call : Call) : Session × Option Fault :=
  let a := call.draft d x.scope
  (⟨scopeOf x.scope call, x.tokens ++ a.tokens⟩, a.fault)

/-- The session after each of a list of calls, with the fault of that call. -/
def steps (d : Dialect) (x : Session) : List Call → List (Session × Option Fault)
  | [] => []
  | call :: calls => x.apply d call :: (x.apply d call).1.steps d calls

/-- Text and binds as they stand. -/
def rendering (d : Dialect) (x : Session) : Rendering := Token.rendering d x.tokens

end Session

end PolySql
