import PolySql.Proofs.Grammar
import PolySql.Statement

/-!
# Predicates and what they say

A predicate is built from tests of columns and binds with `AND`, `OR`, `NOT` and parentheses. Two
predicates say the same if one becomes the other by regrouping chains of `AND` and chains of `OR`
and by removing parentheses; then they have the same truth value whatever the tests and the
connectives stand for. Conditions that grow call by call out of predicates are predicates.

* `Expr.IsPredicate` : predicates;
* `Expr.SameLogic` : predicates that say the same;
* `Interpretation`, `Expr.SameLogic.truth_eq` : truth values;
* `Expr.IsAccumulated.isPredicate` : conditions that grow call by call.
-/

namespace PolySql

namespace Expr

/-- A column or a bind. -/
inductive IsAtom : Expr → Prop
  | column (table : Option String) (name : String) : IsAtom (.column table name)
  | bind (v : Value) : IsAtom (.bind v)

/-- Tests of atoms, joined by connectives. -/
inductive IsPredicate : Expr → Prop
  | compare {a b : Expr} {op : BinaryOp} (ha : a.IsAtom) (hop : op.IsComparison) (hb : b.IsAtom) :
      IsPredicate (.binary a op b)
  | isNull {a : Expr} (ha : a.IsAtom) (negated : Bool) : IsPredicate (.isNull a negated)
  | isIn {a : Expr} {es : List Expr} (ha : a.IsAtom) (hes : es ≠ []) (hall : ∀ e ∈ es, e.IsAtom)
      (negated : Bool) : IsPredicate (.isIn a es negated)
  | between {a low high : Expr} (ha : a.IsAtom) (hlow : low.IsAtom) (hhigh : high.IsAtom)
      (negated : Bool) : IsPredicate (.between a low high negated)
  | and {p q : Expr} (hp : IsPredicate p) (hq : IsPredicate q) : IsPredicate (.binary p .and q)
  | or {p q : Expr} (hp : IsPredicate p) (hq : IsPredicate q) : IsPredicate (.binary p .or q)
  | not {p : Expr} (hp : IsPredicate p) : IsPredicate (.unary .not p)
  | group {p : Expr} (hp : IsPredicate p) : IsPredicate (.group p)

/-! ## Saying the same -/

/-- The same up to grouping of chains and to parentheses. -/
inductive SameLogic : Expr → Expr → Prop
  | refl (p : Expr) : SameLogic p p
  | symm {p q : Expr} (h : SameLogic p q) : SameLogic q p
  | trans {p q r : Expr} (h : SameLogic p q) (h' : SameLogic q r) : SameLogic p r
  | and {p p' q q' : Expr} (hp : SameLogic p p') (hq : SameLogic q q') :
      SameLogic (.binary p .and q) (.binary p' .and q')
  | or {p p' q q' : Expr} (hp : SameLogic p p') (hq : SameLogic q q') :
      SameLogic (.binary p .or q) (.binary p' .or q')
  | not {p p' : Expr} (hp : SameLogic p p') : SameLogic (.unary .not p) (.unary .not p')
  | group (p : Expr) : SameLogic (.group p) p
  | and_assoc (p q r : Expr) :
      SameLogic (.binary (.binary p .and q) .and r) (.binary p .and (.binary q .and r))
  | or_assoc (p q r : Expr) :
      SameLogic (.binary (.binary p .or q) .or r) (.binary p .or (.binary q .or r))

end Expr

/-- What tests and connectives stand for. Chains may be regrouped; nothing else is asked of the
truth values, which may be two, three or more. -/
structure Interpretation where
  Truth : Type
  and : Truth → Truth → Truth
  or : Truth → Truth → Truth
  not : Truth → Truth
  test : Expr → Truth
  and_assoc : ∀ a b c, and (and a b) c = and a (and b c)
  or_assoc : ∀ a b c, or (or a b) c = or a (or b c)

/-- The truth value of a predicate. -/
def Interpretation.truth (i : Interpretation) : Expr → i.Truth
  | .binary p .and q => i.and (i.truth p) (i.truth q)
  | .binary p .or q => i.or (i.truth p) (i.truth q)
  | .unary .not p => i.not (i.truth p)
  | .group p => i.truth p
  | p => i.test p

theorem Expr.SameLogic.truth_eq {p q : Expr} (h : p.SameLogic q) (i : Interpretation) :
    i.truth p = i.truth q := by
  induction h with
  | refl p => rfl
  | symm h ih => exact ih.symm
  | trans h h' ih ih' => exact ih.trans ih'
  | and hp hq ihp ihq => rw [Interpretation.truth, Interpretation.truth, ihp, ihq]
  | or hp hq ihp ihq => rw [Interpretation.truth, Interpretation.truth, ihp, ihq]
  | not hp ih => rw [Interpretation.truth, Interpretation.truth, ih]
  | group p => rw [Interpretation.truth]
  | and_assoc p q r => exact i.and_assoc (i.truth p) (i.truth q) (i.truth r)
  | or_assoc p q r => exact i.or_assoc (i.truth p) (i.truth q) (i.truth r)

/-! ## Conditions that grow call by call -/

/-- A condition that is a predicate if it is there. -/
def IsCondition (condition : Option Expr) : Prop := ∀ p ∈ condition, p.IsPredicate

theorem isCondition_none : IsCondition none := fun _ h => by cases h

theorem IsCondition.conjoin {condition : Option Expr} (h : IsCondition condition) {p : Expr}
    (hp : p.IsPredicate) : IsCondition (Expr.conjoin condition p) := by
  cases condition with
  | none =>
    rintro q ⟨⟩
    exact hp
  | some e =>
    rintro q ⟨⟩
    exact .and (h e rfl) hp

theorem IsCondition.disjoin {condition : Option Expr} (h : IsCondition condition) {p : Expr}
    (hp : p.IsPredicate) : IsCondition (Expr.disjoin condition p) := by
  cases condition with
  | none =>
    rintro q ⟨⟩
    exact hp
  | some e =>
    rintro q ⟨⟩
    exact .or (h e rfl) hp

/-- What every call keeps, a list of calls keeps. -/
theorem isCondition_foldl {α β : Type} (apply : α → β → α) (condition : α → Option Expr)
    (added : β → List Expr)
    (step : ∀ a b, IsCondition (condition a) → (∀ p ∈ added b, p.IsPredicate) →
      IsCondition (condition (apply a b)))
    (calls : List β) (hcalls : ∀ call ∈ calls, ∀ p ∈ added call, p.IsPredicate) (a : α)
    (ha : IsCondition (condition a)) : IsCondition (condition (calls.foldl apply a)) := by
  induction calls generalizing a with
  | nil => exact ha
  | cons call calls ih =>
    rw [List.forall_mem_cons] at hcalls
    exact ih hcalls.2 (apply a call) (step a call ha hcalls.1)

/-- The predicates that a call adds to the WHERE clause. -/
def Select.Call.conditions : Select.Call → List Expr
  | .andWhere e | .orWhere e => [e]
  | _ => []

/-- The predicates that a call adds to the HAVING clause. -/
def Select.Call.havings : Select.Call → List Expr
  | .having e => [e]
  | _ => []

def Update.Call.conditions : Update.Call → List Expr
  | .andWhere e | .orWhere e => [e]
  | _ => []

def Delete.Call.conditions : Delete.Call → List Expr
  | .andWhere e | .orWhere e => [e]
  | _ => []

def ConflictUpdate.Call.conditions : ConflictUpdate.Call → List Expr
  | .condition e => [e]
  | _ => []

/-- The predicates that a call adds to the conflict target. -/
def Upsert.Call.targetConditions : Upsert.Call → List Expr
  | .targetCondition e => [e]
  | _ => []

theorem Select.condition_isPredicate (calls : List Call)
    (h : ∀ call ∈ calls, ∀ p ∈ call.conditions, p.IsPredicate) :
    IsCondition (ofCalls calls).condition := by
  refine isCondition_foldl apply condition Call.conditions (fun s call hs hcall => ?_) calls h {}
    isCondition_none
  cases call with
  | andWhere e => exact hs.conjoin (hcall e (by simp [Call.conditions]))
  | orWhere e => exact hs.disjoin (hcall e (by simp [Call.conditions]))
  | _ => exact hs

theorem Select.having_isPredicate (calls : List Call)
    (h : ∀ call ∈ calls, ∀ p ∈ call.havings, p.IsPredicate) :
    IsCondition (ofCalls calls).having := by
  refine isCondition_foldl apply having Call.havings (fun s call hs hcall => ?_) calls h {}
    isCondition_none
  cases call with
  | having e => exact hs.conjoin (hcall e (by simp [Call.havings]))
  | _ => exact hs

theorem Update.apply_setRecord_condition (u : Update) (m : Model) (r : Record m) :
    (u.apply (.setRecord m r)).condition = u.condition := by
  rw [apply]
  generalize m.columns.zip r.values = pairs
  induction pairs generalizing u with
  | nil => rfl
  | cons pair pairs ih => exact ih _

theorem Update.condition_isPredicate (table : String) (calls : List Call)
    (h : ∀ call ∈ calls, ∀ p ∈ call.conditions, p.IsPredicate) :
    IsCondition (ofCalls table calls).condition := by
  refine isCondition_foldl apply condition Call.conditions (fun u call hu hcall => ?_) calls h
    { table } isCondition_none
  cases call with
  | andWhere e => exact hu.conjoin (hcall e (by simp [Call.conditions]))
  | orWhere e => exact hu.disjoin (hcall e (by simp [Call.conditions]))
  | setRecord m r =>
    rw [apply_setRecord_condition]
    exact hu
  | _ => exact hu

theorem Delete.condition_isPredicate (table : String) (calls : List Call)
    (h : ∀ call ∈ calls, ∀ p ∈ call.conditions, p.IsPredicate) :
    IsCondition (ofCalls table calls).condition := by
  refine isCondition_foldl apply condition Call.conditions (fun x call hx hcall => ?_) calls h
    { table } isCondition_none
  cases call with
  | andWhere e => exact hx.conjoin (hcall e (by simp [Call.conditions]))
  | orWhere e => exact hx.disjoin (hcall e (by simp [Call.conditions]))
  | returning e => exact hx

theorem ConflictUpdate.condition_isPredicate (calls : List Call)
    (h : ∀ call ∈ calls, ∀ p ∈ call.conditions, p.IsPredicate) :
    IsCondition (ofCalls calls).condition := by
  refine isCondition_foldl apply condition Call.conditions (fun u call hu hcall => ?_) calls h {}
    isCondition_none
  cases call with
  | condition e => exact hu.conjoin (hcall e (by simp [Call.conditions]))
  | _ => exact hu

/-- The condition on the target of a conflict clause. -/
def Upsert.targetCondition (u : Upsert) : Option Expr := u.target.bind ConflictTarget.condition

theorem Upsert.targetCondition_isPredicate (table : String) (calls : List Call)
    (h : ∀ call ∈ calls, ∀ p ∈ call.targetConditions, p.IsPredicate) :
    IsCondition (ofCalls table calls).targetCondition := by
  refine isCondition_foldl apply targetCondition Call.targetConditions (fun u call hu hcall => ?_)
    calls h (ofInsert { table }) isCondition_none
  have htarget : (u.target.getD {}).condition = u.targetCondition := by
    rcases u with ⟨insert, _ | target, action⟩ <;> rfl
  cases call with
  | onConflict columns =>
    show IsCondition (u.target.getD {}).condition
    rw [htarget]
    exact hu
  | targetCondition e =>
    show IsCondition (Expr.conjoin (u.target.getD {}).condition e)
    rw [htarget]
    exact hu.conjoin (hcall e (by simp [Call.targetConditions]))
  | _ => exact hu

/-- A condition that a list of calls builds out of predicates: one on rows, on groups, on the target
of a conflict clause, or on its update. -/
inductive Expr.IsAccumulated : Expr → Prop
  | select {calls : List Select.Call} (h : ∀ call ∈ calls, ∀ p ∈ call.conditions, p.IsPredicate)
      {p : Expr} (hp : p ∈ (Select.ofCalls calls).condition) : IsAccumulated p
  | having {calls : List Select.Call} (h : ∀ call ∈ calls, ∀ p ∈ call.havings, p.IsPredicate)
      {p : Expr} (hp : p ∈ (Select.ofCalls calls).having) : IsAccumulated p
  | update {table : String} {calls : List Update.Call}
      (h : ∀ call ∈ calls, ∀ p ∈ call.conditions, p.IsPredicate)
      {p : Expr} (hp : p ∈ (Update.ofCalls table calls).condition) : IsAccumulated p
  | delete {table : String} {calls : List Delete.Call}
      (h : ∀ call ∈ calls, ∀ p ∈ call.conditions, p.IsPredicate)
      {p : Expr} (hp : p ∈ (Delete.ofCalls table calls).condition) : IsAccumulated p
  | conflictUpdate {calls : List ConflictUpdate.Call}
      (h : ∀ call ∈ calls, ∀ p ∈ call.conditions, p.IsPredicate)
      {p : Expr} (hp : p ∈ (ConflictUpdate.ofCalls calls).condition) : IsAccumulated p
  | target {table : String} {calls : List Upsert.Call}
      (h : ∀ call ∈ calls, ∀ p ∈ call.targetConditions, p.IsPredicate)
      {p : Expr} (hp : p ∈ (Upsert.ofCalls table calls).targetCondition) : IsAccumulated p

/-- What calls accumulate out of predicates is a predicate, whichever builder they were made to. -/
theorem Expr.IsAccumulated.isPredicate {p : Expr} (h : p.IsAccumulated) : p.IsPredicate := by
  cases h with
  | select h hp => exact Select.condition_isPredicate _ h p hp
  | having h hp => exact Select.having_isPredicate _ h p hp
  | update h hp => exact Update.condition_isPredicate _ _ h p hp
  | delete h hp => exact Delete.condition_isPredicate _ _ h p hp
  | conflictUpdate h hp => exact ConflictUpdate.condition_isPredicate _ h p hp
  | target h hp => exact Upsert.targetCondition_isPredicate _ _ h p hp

end PolySql
