import PolySql.Proofs.Expressible
import PolySql.Proofs.Placeholders

/-!
# The first offence decides

Three kinds of nodes are beyond some dialect or beyond all of them: a test against an empty list, a
number that is not finite, and the value of an excluded row where there are no conflict clauses.
Writing an expression meets its nodes in the order of `Expr.nodes`, each before its children. So the
first offending node decides the fault, and the statement that the fault names is the one that was
written last, however deep inside sub-selects the node stands.

* `Expr.offence?` : the fault of a single node;
* `Expr.fault_draft_eq_or` : a node comes before its children;
* `Expr.fault_draft_eq_findSome?` : an expression stops at its first offending node;
* `Session.scope_run` : the scope after a list of calls;
* `Session.first_offence_decides` : the main statement.
-/

namespace PolySql

open Draft

/-- The fault of a node that cannot be said, apart from its children. -/
def Expr.offence? (d : Dialect) (scope : Scope) : Expr → Option Fault
  | .isIn _ items _ => if items.isEmpty then some (.emptyClause scope .inList) else none
  | .literal l => if l.isFinite then none else some (.unsupported d.name .nonFiniteFloat)
  | .excluded _ =>
    if d.upsertSyntax = .unsupported then some (.unsupported d.name .excludedValue) else none
  | _ => none

theorem Expr.offence?_eq_none_iff {d : Dialect} {scope : Scope} {e : Expr} :
    e.offence? d scope = none ↔ e.SayableHere d := by
  cases e <;> simp [offence?, SayableHere]

/-! ## The first of several -/

section FirstOf
variable {α β γ : Type}

theorem findSome?_cons_or (f : α → Option β) (x : α) (xs : List α) :
    (x :: xs).findSome? f = (f x).or (xs.findSome? f) := by
  rw [List.findSome?_cons]
  cases f x <;> rfl

theorem findSome?_congr {f g : α → Option β} {xs : List α} (h : ∀ x ∈ xs, f x = g x) :
    xs.findSome? f = xs.findSome? g := by
  induction xs with
  | nil => rfl
  | cons x xs ih =>
    obtain ⟨hx, hxs⟩ := List.forall_mem_cons.1 h
    rw [findSome?_cons_or, findSome?_cons_or, hx, ih hxs]

theorem findSome?_flatMap (f : β → Option γ) (g : α → List β) (xs : List α) :
    (xs.flatMap g).findSome? f = xs.findSome? fun x => (g x).findSome? f := by
  induction xs with
  | nil => rfl
  | cons x xs ih =>
    rw [List.flatMap_cons, List.findSome?_append, ih, findSome?_cons_or]

theorem findSome?_filterMap (f : β → Option γ) (g : α → Option β) (xs : List α) :
    (xs.filterMap g).findSome? f = xs.findSome? fun x => (g x).bind f := by
  rw [List.filterMap_eq_flatMap_toList, findSome?_flatMap]
  refine findSome?_congr fun x _ => ?_
  cases g x <;> simp

namespace Draft
variable (f : α → Draft)

theorem fault_all_map (xs : List α) :
    (all (xs.map f)).fault = xs.findSome? fun x => (f x).fault := by
  rw [fault_all, List.findSome?_map]
  rfl

theorem fault_joined_map (separator : String) (xs : List α) :
    (joined separator (xs.map f)).fault = xs.findSome? fun x => (f x).fault := by
  rw [fault_joined, List.findSome?_map]
  rfl

theorem fault_clause_map (keyword : String) (xs : List α) :
    (clause keyword (xs.map f)).fault = xs.findSome? fun x => (f x).fault := by
  rw [fault_clause, List.findSome?_map]
  rfl

theorem fault_led_map (keyword : String) (x : Option α) :
    (led keyword (x.map f)).fault = x.toList.findSome? fun y => (f y).fault := by
  cases x <;> simp

end Draft

end FirstOf

/-! ## Expressions -/

section Expressions
variable (d : Dialect) (scope : Scope)

theorem Dialect.fault_excludedDraft (c : String) :
    (d.excludedDraft c).fault = (Expr.excluded c).offence? d scope := by
  unfold Dialect.excludedDraft Expr.offence?
  cases d.upsertSyntax <;> simp [fault_append]

theorem Piece.fault_draft (p : Piece) :
    (p.draft d scope).fault = p.expr?.bind fun e => (e.draft d scope).fault := by
  cases p <;> simp [Piece.draft, Piece.expr?, Expr.draft]

theorem Join.fault_draft (j : Join) :
    (j.draft d scope).fault = j.exprs.findSome? fun e => (e.draft d scope).fault := by
  rcases j with ⟨kind, table, condition⟩
  rw [Join.draft, Expr.draft?_eq_map, Join.exprs, findSome?_cons_or]
  simp only [fault_append, fault_sql, Option.none_or, fault_led_map]

theorem Order.fault_draft (o : Order) :
    (o.draft d scope).fault = (o.key.draft d scope).fault := by
  rcases o with ⟨key, direction⟩
  simp [Order.draft, fault_append]

/-- The clauses of a SELECT come one after the other. -/
theorem Select.fault_draft (s : Select) :
    (s.draft d scope).fault = s.exprs.findSome? fun e => (e.draft d scope).fault := by
  rcases s with
    ⟨distinct, columns, sources, joins, condition, groupBy, having, orderBy, limit, offset, lock⟩
  have hlist : (if columns.isEmpty then sql "*"
      else joined ", " (columns.map (Expr.draft d scope))).fault =
        columns.findSome? fun e => (e.draft d scope).fault := by
    cases columns with
    | nil => rfl
    | cons e es => exact fault_joined_map (Expr.draft d scope) ", " (e :: es)
  have hnumber (n : Option Nat) (keyword : String) :
      (led keyword (n.map number)).fault = none := fault_led_eq_none.2 fun _ _ => rfl
  have hlock : (all (lock.toList.map Lock.draft)).fault = none :=
    fault_all_eq_none.2 fun l _ => l.fault_draft
  rw [Select.draft, Select.exprs]
  simp only [Expr.drafts_eq_map, Expr.draft?_eq_map, Join.drafts_eq_map, Order.drafts_eq_map,
    fault_append, fault_sql, fault_only_sql, hlist, hnumber, hlock, fault_clause_map,
    fault_all_map, fault_led_map, Join.fault_draft, Order.fault_draft, List.findSome?_append,
    findSome?_flatMap, List.findSome?_map, Option.none_or, Option.or_none, Function.comp_def]

/-- Writing meets a node first and then what stands below it, child by child. -/
theorem Expr.fault_draft_eq_or (e : Expr) :
    (e.draft d scope).fault =
      (e.offence? d scope).or (e.children.findSome? fun c => (c.draft d scope).fault) := by
  cases e with
  | raw pieces =>
    rw [Expr.draft, Piece.drafts_eq_map, fault_all_map, children, findSome?_filterMap]
    simp only [Piece.fault_draft, offence?, Option.none_or]
  | call function arguments distinct =>
    rw [Expr.draft, Expr.drafts_eq_map]
    simp only [fault_append, fault_sql, fault_only_sql, fault_joined_map, offence?, children,
      Option.none_or, Option.or_none]
  | list items separator =>
    rw [Expr.draft, Expr.drafts_eq_map, fault_joined_map]
    simp only [offence?, children, Option.none_or]
  | subquery select =>
    rw [Expr.draft, fault_parens, Select.fault_draft]
    simp only [offence?, children, Option.none_or]
  | isIn tested items negated =>
    rw [Expr.draft, Expr.drafts_eq_map]
    simp only [fault_append, fault_sql, fault_require, fault_joined_map, offence?, children,
      findSome?_cons_or, Option.or_none, Option.or_assoc]
    cases items.isEmpty <;> rfl
  | literal l => simp [Expr.draft, Literal.draft, fault_append, offence?, children]
  | excluded c => simp [Expr.draft, d.fault_excludedDraft scope, children]
  | _ =>
    simp [Expr.draft, fault_append, fault_parens, offence?, children, findSome?_cons_or,
      Option.or_assoc]

/-- An expression stops at the first of its nodes that cannot be said. -/
theorem Expr.fault_draft_eq_findSome? (e : Expr) :
    (e.draft d scope).fault = e.nodes.findSome? (offence? d scope) := by
  induction e using Expr.children_induction with
  | step e ih =>
    rw [fault_draft_eq_or, nodes_eq, findSome?_cons_or, findSome?_flatMap, findSome?_congr ih]

end Expressions

/-! ## Sessions -/

namespace Session

/-- The kind of the statement that a call writes as a whole. -/
def Call.kind? : Call → Option StatementKind
  | .statement s => some s.kind
  | _ => none

/-- The scope after a list of calls: the statement that was written last, if there is one. -/
def lastScope (calls : List Call) : Scope :=
  (calls.filterMap Call.kind?).getLast?.elim .expression .statement

theorem scopeOf_eq_elim (scope : Scope) (call : Call) :
    scopeOf scope call = call.kind?.elim scope .statement := by
  cases call <;> rfl

/-- Only the statements among the calls change the scope, and the last of them counts. -/
theorem scope_run (d : Dialect) (x : Session) (calls : List Call) :
    (x.run d calls).scope = (calls.filterMap Call.kind?).getLast?.elim x.scope .statement := by
  induction calls generalizing x with
  | nil => rfl
  | cons call calls ih =>
    have hscope : (x.apply d call).1.scope = call.kind?.elim x.scope .statement :=
      scopeOf_eq_elim x.scope call
    rw [run_cons, ih, hscope]
    cases hkind : call.kind? with
    | none => rw [List.filterMap_cons_none hkind, Option.elim_none]
    | some kind =>
      rw [List.filterMap_cons_some hkind, List.getLast?_cons, Option.elim_some, Option.elim_some]
      cases (calls.filterMap Call.kind?).getLast? <;> rfl

/-- After any calls, an expression is written unless one of its nodes is beyond the dialect. The
first such node, each counted before its children and sub-selects clause by clause, decides the
fault, which names the statement that was written last. -/
theorem first_offence_decides (d : Dialect) (calls : List Call) (e : Expr) :
    (((run d {} calls).apply d (.expr e)).2 = none ↔ ∀ n ∈ e.nodes, n.SayableHere d) ∧
    ∀ (before after : List Expr) (n : Expr), e.nodes = before ++ n :: after →
      (∀ m ∈ before, m.SayableHere d) → ¬ n.SayableHere d →
        ∃ fault, n.offence? d (lastScope calls) = some fault ∧
          ((run d {} calls).apply d (.expr e)).2 = some fault := by
  have hfault : ((run d {} calls).apply d (.expr e)).2 =
      e.nodes.findSome? (Expr.offence? d (lastScope calls)) := by
    rw [lastScope, ← scope_run d {} calls]
    exact e.fault_draft_eq_findSome? d _
  rw [hfault]
  refine ⟨?_, fun before after n hnodes hbefore hn => ?_⟩
  · rw [List.findSome?_eq_none_iff]
    exact forall₂_congr fun n _ => Expr.offence?_eq_none_iff
  · have hoffends : n.offence? d (lastScope calls) ≠ none := fun h =>
      hn (Expr.offence?_eq_none_iff.1 h)
    obtain ⟨fault, hoffence⟩ := Option.ne_none_iff_exists'.1 hoffends
    refine ⟨fault, hoffence, ?_⟩
    rw [List.findSome?_eq_some_iff]
    exact ⟨before, n, after, hnodes, hoffence, fun m hm =>
      Expr.offence?_eq_none_iff.2 (hbefore m hm)⟩

/-- A test against an empty list inside a sub-select is met before the excluded value that it tests,
and named after a DELETE that was refused itself. -/
theorem first_offence_names_refused_delete :
    let calls : List Call :=
      [.statement (.delete { table := "t", returning := [.star none] }), .clauses (.select {})]
    let test : Expr := .isIn (.excluded "b") [] true
    let select : Expr := .subquery { columns := [test] }
    let e : Expr := .binary (.col "a") .eq select
    e.nodes = [e, .col "a", select] ++ test :: [.excluded "b"] ∧
      (∀ m ∈ [e, .col "a", select], m.SayableHere .generic) ∧ ¬ test.SayableHere .generic ∧
      ((run .generic {} calls).apply .generic (.expr e)).2 =
        some (.emptyClause (.statement .delete) .inList) := by
  intro calls test select e
  have hnodes : e.nodes = [e, .col "a", select] ++ test :: [.excluded "b"] := by
    simp [e, select, test, Expr.nodes_eq, Expr.children, Select.exprs, Expr.col]
  have hbefore : ∀ m ∈ [e, .col "a", select], m.SayableHere .generic := by
    simp [e, select, Expr.SayableHere, Expr.col]
  have htest : ¬ test.SayableHere .generic := fun h => h rfl
  obtain ⟨fault, hoffence, hfault⟩ :=
    (first_offence_decides .generic calls e).2 _ _ test hnodes hbefore htest
  refine ⟨hnodes, hbefore, htest, ?_⟩
  rw [hfault, ← hoffence]
  rfl

end Session

end PolySql
