import PolySql.Statement

/-!
# Calls on different clauses can be reordered

Every call on a builder configures one clause. Two calls on different clauses leave the same
statement in either order, so a list of calls counts only for the order that it has within each
clause.

* `Reorders` : lists of calls that agree clause by clause;
* `Reorders.foldl_eq` : what such lists build is the same, if calls on different clauses commute;
* `Select.Clause`, `Select.Call.clause`, `Select.apply_comm` and the like : the clauses of each
  builder, and that its calls commute;
* `Query.build_of_reorders` : the main statement.
-/

namespace PolySql

/-! ## Lists of calls -/

/-- The lists have the same calls on every clause, in the same order, so that one is the other
with calls on different clauses moved past each other. -/
def Reorders {γ κ : Type} [DecidableEq κ] (clause : γ → κ) (calls calls' : List γ) : Prop :=
  ∀ k, calls.filter (clause · = k) = calls'.filter (clause · = k)

section Reorders
variable {γ κ σ : Type} {clause : γ → κ} {step : σ → γ → σ}

/-- A call moves in front of calls on other clauses. -/
theorem foldl_append_cons (hcomm : ∀ s a b, clause a ≠ clause b →
      step (step s a) b = step (step s b) a) {c : γ} {before : List γ}
    (h : ∀ x ∈ before, clause x ≠ clause c) (after : List γ) (s : σ) :
    (before ++ c :: after).foldl step s = (c :: (before ++ after)).foldl step s := by
  induction before generalizing s with
  | nil => rfl
  | cons x before ih =>
    obtain ⟨hx, hbefore⟩ := List.forall_mem_cons.1 h
    rw [List.cons_append, List.foldl_cons, ih hbefore, List.foldl_cons, hcomm s x c hx]
    rfl

variable [DecidableEq κ]

theorem Reorders.eq_nil {calls : List γ} (h : Reorders clause [] calls) : calls = [] := by
  refine List.eq_nil_iff_forall_not_mem.2 fun c hc => ?_
  have hmem : c ∈ calls.filter (clause · = clause c) := List.mem_filter.2 ⟨hc, by simp⟩
  rw [← h] at hmem
  cases hmem

/-- The first call is in the other list too, behind calls on other clauses. -/
theorem Reorders.exists_cons {c : γ} {calls calls' : List γ}
    (h : Reorders clause (c :: calls) calls') :
    ∃ before after, calls' = before ++ c :: after ∧ (∀ x ∈ before, clause x ≠ clause c) ∧
      Reorders clause calls (before ++ after) := by
  have hclause := (h (clause c)).symm
  rw [List.filter_cons_of_pos (by simp)] at hclause
  obtain ⟨before, after, rfl, hbefore, -, hafter⟩ := List.filter_eq_cons_iff.1 hclause
  refine ⟨before, after, rfl, by simpa using hbefore, fun k => ?_⟩
  have hk := h k
  by_cases hck : clause c = k
  · subst hck
    rw [List.filter_append, hafter, List.filter_eq_nil_iff.2 hbefore, List.nil_append]
  · simpa [List.filter_append, hck] using hk

/-- If calls on different clauses commute, then only the order within each clause counts. -/
theorem Reorders.foldl_eq (hcomm : ∀ s a b, clause a ≠ clause b →
      step (step s a) b = step (step s b) a) {calls calls' : List γ}
    (h : Reorders clause calls calls') (s : σ) : calls.foldl step s = calls'.foldl step s := by
  induction calls generalizing calls' s with
  | nil => rw [h.eq_nil]
  | cons c calls ih =>
    obtain ⟨before, after, rfl, hbefore, hrest⟩ := h.exists_cons
    rw [foldl_append_cons hcomm hbefore, List.foldl_cons, List.foldl_cons, ih hrest]

end Reorders

/-! ## SELECT -/

namespace Select

/-- The clauses of a SELECT. -/
inductive Clause where
  | distinct
  | columns
  | sources
  | joins
  | condition
  | groupBy
  | having
  | orderBy
  | limit
  | offset
  | lock
deriving DecidableEq, Repr

/-- The clause that a call configures. -/
def Call.clause : Call → Clause
  | .distinct => .distinct
  | .columns _ | .column _ | .modelColumns _ => .columns
  | .source _ | .sourceAs .. | .subselect .. => .sources
  | .join .. | .crossJoin _ => .joins
  | .andWhere _ | .orWhere _ => .condition
  | .groupBy _ => .groupBy
  | .having _ => .having
  | .orderBy .. => .orderBy
  | .limit _ => .limit
  | .offset _ => .offset
  | .lock _ => .lock

theorem apply_comm (s : Select) (a b : Call) (h : a.clause ≠ b.clause) :
    (s.apply a).apply b = (s.apply b).apply a := by
  cases a <;> cases b <;> first | rfl | exact absurd rfl h

end Select

/-! ## INSERT, with and without a conflict clause -/

namespace Insert

/-- The clauses of an INSERT; the columns and the rows are one. -/
inductive Clause where
  | rows
  | returning
deriving DecidableEq, Repr

/-- The clause that a call configures. -/
def Call.clause : Call → Clause
  | .columns _ | .row _ | .record .. | .records .. => .rows
  | .returning _ => .returning

theorem apply_comm (i : Insert) (a b : Call) (h : a.clause ≠ b.clause) :
    (i.apply a).apply b = (i.apply b).apply a := by
  cases a <;> cases b <;> first | rfl | exact absurd rfl h | simp only [apply, foldl_addRecord]

end Insert

namespace Upsert

/-- The clauses of an INSERT with a conflict clause. -/
inductive Clause where
  | insert (clause : Insert.Clause)
  | target
  | targetCondition
  | action
deriving DecidableEq, Repr

/-- The clause that a call configures. -/
def Call.clause : Call → Clause
  | .insert call => .insert call.clause
  | .onConflict _ => .target
  | .targetCondition _ => .targetCondition
  | .doNothing | .doUpdate _ | .doUpdateAll _ => .action

theorem apply_comm (u : Upsert) (a b : Call) (h : a.clause ≠ b.clause) :
    (u.apply a).apply b = (u.apply b).apply a := by
  cases a with
  | insert a =>
    cases b with
    | insert b =>
      have hclause : a.clause ≠ b.clause := fun heq => h (congrArg Clause.insert heq)
      exact congrArg (fun i => { u with insert := i }) (u.insert.apply_comm a b hclause)
    | _ => rfl
  | _ => cases b <;> first | rfl | exact absurd rfl h

end Upsert

/-! ## UPDATE and DELETE -/

namespace Update

/-- The clauses of an UPDATE. -/
inductive Clause where
  | assignments
  | condition
  | returning
deriving DecidableEq, Repr

/-- The clause that a call configures. -/
def Call.clause : Call → Clause
  | .set .. | .setRecord .. => .assignments
  | .andWhere _ | .orWhere _ => .condition
  | .returning _ => .returning

theorem apply_comm (u : Update) (a b : Call) (h : a.clause ≠ b.clause) :
    (u.apply a).apply b = (u.apply b).apply a := by
  cases a <;> cases b <;> first | rfl | exact absurd rfl h | simp only [apply, foldl_set]

end Update

namespace Delete

/-- The clauses of a DELETE. -/
inductive Clause where
  | condition
  | returning
deriving DecidableEq, Repr

/-- The clause that a call configures. -/
def Call.clause : Call → Clause
  | .andWhere _ | .orWhere _ => .condition
  | .returning _ => .returning

theorem apply_comm (x : Delete) (a b : Call) (h : a.clause ≠ b.clause) :
    (x.apply a).apply b = (x.apply b).apply a := by
  cases a <;> cases b <;> first | rfl | exact absurd rfl h

end Delete

/-! ## CREATE TABLE and DROP TABLE -/

namespace CreateTable

/-- The clauses of a CREATE TABLE. -/
inductive Clause where
  | temporary
  | ifNotExists
  | columns
  | constraints
deriving DecidableEq, Repr

/-- The clause that a call configures. -/
def Call.clause : Call → Clause
  | .temporary => .temporary
  | .ifNotExists => .ifNotExists
  | .column _ => .columns
  | .constraint .. => .constraints

theorem apply_comm (t : CreateTable) (a b : Call) (h : a.clause ≠ b.clause) :
    (t.apply a).apply b = (t.apply b).apply a := by
  cases a <;> cases b <;> first | rfl | exact absurd rfl h

end CreateTable

namespace DropTable

/-- The clauses of a DROP TABLE. -/
inductive Clause where
  | tables
  | ifExists
  | behavior
deriving DecidableEq, Repr

/-- The clause that a call configures. -/
def Call.clause : Call → Clause
  | .table _ => .tables
  | .ifExists => .ifExists
  | .cascade | .restrict => .behavior

theorem apply_comm (t : DropTable) (a b : Call) (h : a.clause ≠ b.clause) :
    (t.apply a).apply b = (t.apply b).apply a := by
  cases a <;> cases b <;> first | rfl | exact absurd rfl h

end DropTable

/-! ## Queries -/

/-- Whatever calls a builder gets, and in whatever order as long as it is the same within each
clause, it builds the same statement or comes to the same fault. An upsert may go on from any
INSERT. -/
theorem Query.build_of_reorders (d : Dialect) :
    (∀ calls calls', Reorders Select.Call.clause calls calls' →
      (Query.select (.ofCalls calls)).build d = (Query.select (.ofCalls calls')).build d) ∧
    (∀ table calls calls', Reorders Insert.Call.clause calls calls' →
      (Query.insert (.ofCalls table calls)).build d =
        (Query.insert (.ofCalls table calls')).build d) ∧
    (∀ i calls calls', Reorders Upsert.Call.clause calls calls' →
      (Query.upsert (calls.foldl Upsert.apply (.ofInsert i))).build d =
        (Query.upsert (calls'.foldl Upsert.apply (.ofInsert i))).build d) ∧
    (∀ table calls calls', Reorders Update.Call.clause calls calls' →
      (Query.update (.ofCalls table calls)).build d =
        (Query.update (.ofCalls table calls')).build d) ∧
    (∀ table calls calls', Reorders Delete.Call.clause calls calls' →
      (Query.delete (.ofCalls table calls)).build d =
        (Query.delete (.ofCalls table calls')).build d) ∧
    (∀ name calls calls', Reorders CreateTable.Call.clause calls calls' →
      (Query.createTable (.ofCalls name calls)).build d =
        (Query.createTable (.ofCalls name calls')).build d) ∧
    (∀ name calls calls', Reorders DropTable.Call.clause calls calls' →
      (Query.dropTable (.ofCalls name calls)).build d =
        (Query.dropTable (.ofCalls name calls')).build d) := by
  refine ⟨fun calls calls' h => ?_, fun table calls calls' h => ?_, fun i calls calls' h => ?_,
    fun table calls calls' h => ?_, fun table calls calls' h => ?_, fun name calls calls' h => ?_,
    fun name calls calls' h => ?_⟩
  · rw [Select.ofCalls, Select.ofCalls, h.foldl_eq Select.apply_comm]
  · rw [Insert.ofCalls, Insert.ofCalls, h.foldl_eq Insert.apply_comm]
  · rw [h.foldl_eq Upsert.apply_comm]
  · rw [Update.ofCalls, Update.ofCalls, h.foldl_eq Update.apply_comm]
  · rw [Delete.ofCalls, Delete.ofCalls, h.foldl_eq Delete.apply_comm]
  · rw [CreateTable.ofCalls, CreateTable.ofCalls, h.foldl_eq CreateTable.apply_comm]
  · rw [DropTable.ofCalls, DropTable.ofCalls, h.foldl_eq DropTable.apply_comm]

/-- Each builder with some of its calls in two orders. -/
theorem Query.build_of_reorders_in_postgres :
    let big : Expr := .binary (.col "size") .gt (.bind (.int 9))
    let gone : Expr := .isNull (.col "name") false
    let built (q : Query) := q.build .postgres
    let upsert (calls : List Upsert.Call) : Query :=
      .upsert (calls.foldl Upsert.apply (.ofInsert { table := "t" }))
    built (.select (.ofCalls [.limit 3, .andWhere big, .source "t", .orWhere gone])) =
        built (.select (.ofCalls [.source "t", .andWhere big, .orWhere gone, .limit 3])) ∧
      built (.insert (.ofCalls "t" [.returning big, .row [big], .columns ["a"]])) =
        built (.insert (.ofCalls "t" [.row [big], .columns ["a"], .returning big])) ∧
      built (upsert [.targetCondition gone, .doNothing, .insert (.row [big]), .onConflict ["a"],
          .targetCondition big]) =
        built (upsert [.insert (.row [big]), .onConflict ["a"], .targetCondition gone,
          .targetCondition big, .doNothing]) ∧
      built (.update (.ofCalls "t" [.orWhere gone, .set "a" big, .andWhere big])) =
        built (.update (.ofCalls "t" [.set "a" big, .orWhere gone, .andWhere big])) ∧
      built (.delete (.ofCalls "t" [.returning big, .andWhere gone])) =
        built (.delete (.ofCalls "t" [.andWhere gone, .returning big])) ∧
      built (.createTable (.ofCalls "t" [.constraint none (.check big), .temporary])) =
        built (.createTable (.ofCalls "t" [.temporary, .constraint none (.check big)])) ∧
      built (.dropTable (.ofCalls "t" [.cascade, .table "u", .restrict])) =
        built (.dropTable (.ofCalls "t" [.table "u", .cascade, .restrict])) := by
  intro big gone built upsert
  obtain ⟨hselect, hinsert, hupsert, hupdate, hdelete, hcreate, hdrop⟩ :=
    build_of_reorders .postgres
  refine ⟨hselect _ _ fun k => ?_, hinsert _ _ _ fun k => ?_, hupsert _ _ _ fun k => ?_,
    hupdate _ _ _ fun k => ?_, hdelete _ _ _ fun k => ?_, hcreate _ _ _ fun k => ?_,
    hdrop _ _ _ fun k => ?_⟩
  case refine_3 => rcases k with ⟨_ | _⟩ | _ | _ | _ <;> rfl
  all_goals cases k <;> rfl

end PolySql
