import Mathlib.Data.List.Induction
import PolySql.Proofs.ConflictReading
import PolySql.Proofs.Predicates
import PolySql.Proofs.Upserts

/-!
# What the calls of an upsert come to

Of the calls of an upsert, some are passed on to its INSERT, some replace what an earlier call said,
and some add to it; a call about the target makes the target if there is none. Whatever the order
of the calls, only the last target columns and the last action count, and the conditions add up.
What a construction keeps of its calls is an invariant of `Upsert.apply`, and completing it looks at
nothing else.

* `Expr.conjunction` : conditions joined with AND from left to right;
* `Upsert.lastColumns`, `Upsert.lastAction?` : the calls that count;
* `Upsert.Keeps` : what a construction keeps of its calls, after each call and all of them;
* `Insert.Misfits`, `Insert.FirstMisfit` : rows that stand in the way, and the first of them;
* `Dialect.UpdatesOn` : a text with an update and its target columns;
* `Upsert.IsClauseOf` : the conflict clause that calls make;
* `Upsert.completed_from_calls` : the main statement.
-/

namespace PolySql

open Draft

/-! ## Conditions that add up -/

/-- Conditions joined with AND from left to right. -/
def Expr.conjunction : List Expr → Option Expr
  | [] => none
  | e :: es => some (es.foldl (fun earlier next => .binary earlier .and next) e)

theorem Expr.conjunction_append (es fs : List Expr) :
    conjunction (es ++ fs) = fs.foldl conjoin (conjunction es) := by
  induction fs generalizing es with
  | nil => rw [List.append_nil, List.foldl_nil]
  | cons f fs ih =>
    have hstep : conjunction (es ++ [f]) = conjoin (conjunction es) f := by
      cases es <;> simp [conjunction, conjoin]
    rw [List.foldl_cons, ← hstep, ← ih, List.append_assoc, List.singleton_append]

/-! ## What a call says -/

/-- The assignment that a call adds. -/
def ConflictUpdate.Call.assignment? : Call → Option Assignment
  | .set column value => some ⟨column, value⟩
  | .setExcluded column => some ⟨column, .excluded column⟩
  | .condition _ => none

theorem ConflictUpdate.ofCalls_eq (calls : List Call) :
    ofCalls calls = ⟨calls.filterMap Call.assignment?,
      Expr.conjunction (calls.flatMap Call.conditions)⟩ := by
  induction calls using List.reverseRecOn with
  | nil => rfl
  | append_singleton calls call ih =>
    have hstep : ofCalls (calls ++ [call]) = (ofCalls calls).apply call := by simp [ofCalls]
    rw [hstep, ih, List.flatMap_append, Expr.conjunction_append]
    cases call <;> simp [apply, Call.assignment?, Call.conditions]

namespace Upsert

namespace Call

/-- The call that is passed on to the INSERT. -/
def insert? : Call → Option Insert.Call
  | .insert call => some call
  | _ => none

/-- The target columns that a call sets. -/
def columns? : Call → Option (List String)
  | .onConflict columns => some columns
  | _ => none

/-- The action that a call chooses. -/
def action? : Call → Option ConflictAction
  | .doNothing => some .doNothing
  | .doUpdate calls =>
    some (.doUpdate (calls.filterMap ConflictUpdate.Call.assignment?)
      (Expr.conjunction (calls.flatMap ConflictUpdate.Call.conditions)))
  | .doUpdateAll m => some (.doUpdate (m.columns.map fun column => ⟨column, .excluded column⟩) none)
  | _ => none

/-- Calls about the target: its columns or a condition on it. -/
def NamesTarget : Call → Prop
  | .onConflict _ | .targetCondition _ => True
  | _ => False

/-- Calls that choose an action. -/
def ChoosesAction : Call → Prop
  | .doNothing | .doUpdate _ | .doUpdateAll _ => True
  | _ => False

theorem action?_eq_none_iff {call : Call} : call.action? = none ↔ ¬call.ChoosesAction := by
  cases call <;> simp [action?, ChoosesAction]

end Call

/-- The target columns that count: those of the last call, and none without a call. -/
def lastColumns (calls : List Call) : List String :=
  (calls.filterMap Call.columns?).getLast?.getD []

/-- The action that counts. -/
def lastAction? (calls : List Call) : Option ConflictAction :=
  (calls.filterMap Call.action?).getLast?

theorem getLast?_filterMap_concat {α β : Type} (f : α → Option β) (xs : List α) (x : α) :
    ((xs ++ [x]).filterMap f).getLast? = (f x).or (xs.filterMap f).getLast? := by
  rw [List.filterMap_append]
  cases h : f x <;> simp [h]

@[simp] theorem lastColumns_concat (calls : List Call) (call : Call) :
    lastColumns (calls ++ [call]) = call.columns?.getD (lastColumns calls) := by
  rw [lastColumns, getLast?_filterMap_concat]
  cases call.columns? <;> rfl

@[simp] theorem lastAction?_concat (calls : List Call) (call : Call) :
    lastAction? (calls ++ [call]) = call.action?.or (lastAction? calls) :=
  getLast?_filterMap_concat Call.action? calls call

theorem lastAction?_eq_none_iff {calls : List Call} :
    lastAction? calls = none ↔ ∀ call ∈ calls, ¬call.ChoosesAction := by
  simp only [lastAction?, List.getLast?_eq_none_iff, List.filterMap_eq_nil_iff,
    Call.action?_eq_none_iff]

theorem exists_choosesAction_iff {calls : List Call} :
    (∃ call ∈ calls, call.ChoosesAction) ↔ lastAction? calls ≠ none := by
  rw [Ne, lastAction?_eq_none_iff]
  simp

theorem doUpdate_eq (u : Upsert) (calls : List ConflictUpdate.Call) :
    u.doUpdate calls = { u with action := (Call.doUpdate calls).action? } := by
  rw [doUpdate, ConflictUpdate.ofCalls_eq]
  rfl

/-- A call for each column of a model sets them to what the INSERT would have written. -/
theorem doUpdateAll_eq (u : Upsert) (m : Model) :
    u.doUpdate (m.columns.map .setExcluded) =
      { u with action := (Call.doUpdateAll m).action? } := by
  have hassignments : (m.columns.map ConflictUpdate.Call.setExcluded).filterMap
      ConflictUpdate.Call.assignment? = m.columns.map fun column => ⟨column, .excluded column⟩ := by
    rw [List.filterMap_map]
    exact congrFun (List.filterMap_eq_map (f := fun column => _)) m.columns
  have hconditions : (m.columns.map ConflictUpdate.Call.setExcluded).flatMap
      ConflictUpdate.Call.conditions = [] := by
    simp [ConflictUpdate.Call.conditions]
  rw [doUpdate_eq, Call.action?, hassignments, hconditions]
  rfl

/-! ## One call -/

section Step
variable (u : Upsert) (call : Call)

theorem insert_apply :
    (u.apply call).insert = call.insert?.toList.foldl Insert.apply u.insert := by
  cases call <;> rfl

theorem action_apply : (u.apply call).action = call.action?.or u.action := by
  cases call with
  | doUpdate calls => rw [apply, doUpdate_eq]; rfl
  | doUpdateAll m => rw [apply, doUpdateAll_eq]; rfl
  | _ => rfl

theorem target_apply_eq_none_iff :
    (u.apply call).target = none ↔ u.target = none ∧ ¬call.NamesTarget := by
  cases call <;> simp [apply, doUpdate, Call.NamesTarget]

theorem columns_apply :
    ((u.apply call).target.getD {}).columns = call.columns?.getD (u.target.getD {}).columns := by
  cases call <;> rfl

theorem condition_apply : ((u.apply call).target.getD {}).condition =
    call.targetConditions.foldl Expr.conjoin (u.target.getD {}).condition := by
  cases call <;> rfl

end Step

/-! ## All calls -/

/-- What a construction that starts with an INSERT keeps of its calls. -/
structure Keeps (i : Insert) (calls : List Call) (u : Upsert) : Prop where
  insert : u.insert = (calls.filterMap Call.insert?).foldl Insert.apply i
  target : u.target = none ↔ ∀ call ∈ calls, ¬call.NamesTarget
  columns : (u.target.getD {}).columns = lastColumns calls
  condition : (u.target.getD {}).condition =
    Expr.conjunction (calls.flatMap Call.targetConditions)
  action : u.action = lastAction? calls

theorem keeps_ofInsert (i : Insert) : Keeps i [] (ofInsert i) :=
  ⟨rfl, by simp [ofInsert], rfl, rfl, rfl⟩

/-- One more call adds to what is kept, or replaces it. -/
theorem Keeps.apply {i : Insert} {calls : List Call} {u : Upsert} (h : Keeps i calls u)
    (call : Call) : Keeps i (calls ++ [call]) (u.apply call) where
  insert := by
    rw [insert_apply, h.insert, List.filterMap_append, List.foldl_append]
    cases hcall : call.insert? <;> simp [hcall]
  target := by
    rw [target_apply_eq_none_iff, h.target, List.forall_mem_append, List.forall_mem_singleton]
  columns := by rw [columns_apply, h.columns, lastColumns_concat]
  condition := by
    rw [condition_apply, h.condition, List.flatMap_append, Expr.conjunction_append,
      List.flatMap_singleton]
  action := by rw [action_apply, h.action, lastAction?_concat]

theorem keeps_foldl (i : Insert) (calls : List Call) :
    Keeps i calls (calls.foldl Upsert.apply (ofInsert i)) := by
  induction calls using List.reverseRecOn with
  | nil => exact keeps_ofInsert i
  | append_singleton calls call ih =>
    rw [List.foldl_append]
    exact ih.apply call

end Upsert

/-! ## Rows that stand in the way -/

namespace Insert
variable {i : Insert}

/-- There are columns, and some row does not match them. -/
def Misfits (i : Insert) : Prop := i.columns ≠ [] ∧ ∃ row ∈ i.rows, row.length ≠ i.columns.length

/-- The first row that does not match the columns has this width. -/
def FirstMisfit (i : Insert) (found : Nat) : Prop :=
  i.columns ≠ [] ∧ ∃ earlier row later, i.rows = earlier ++ row :: later ∧
    (∀ r ∈ earlier, r.length = i.columns.length) ∧ row.length ≠ i.columns.length ∧
    row.length = found

theorem widthFault?_eq_none_iff_not_misfits : i.widthFault? = none ↔ ¬i.Misfits := by
  rw [widthFault?_eq_none, Misfits, not_and_or, not_not]
  simp

theorem firstMisfit_of_widthFault? {expected found : Nat}
    (h : i.widthFault? = some (.columnCountMismatch expected found)) :
    expected = i.columns.length ∧ i.FirstMisfit found := by
  unfold widthFault? at h
  split at h
  · cases h
  · rename_i hcolumns
    obtain ⟨row, hrow, hfault⟩ := Option.map_eq_some_iff.1 h
    obtain ⟨rfl, rfl⟩ := Fault.columnCountMismatch.inj hfault
    obtain ⟨hwidth, earlier, later, hrows, hearlier⟩ := List.find?_eq_some_iff_append.1 hrow
    refine ⟨rfl, fun hnil => hcolumns (by rw [hnil]; rfl), earlier, row, later, hrows, ?_, ?_, rfl⟩
    · simpa using hearlier
    · simpa using hwidth

end Insert

/-! ## The text of a target -/

/-- Quoted names between commas. -/
def Dialect.listed (d : Dialect) : List String → List Char
  | [] => []
  | [n] => d.quoted n
  | n :: m :: ns => d.quoted n ++ ", ".toList ++ d.listed (m :: ns)

theorem Token.layout_names (d : Dialect) (count : Nat) (ns : List String) :
    layout d count (names ns).tokens = d.listed ns := by
  induction ns using Dialect.listed.induct with
  | case1 => rfl
  | case2 n => exact List.append_nil _
  | case3 n m ns ih =>
    have htokens : (names (n :: m :: ns)).tokens =
        .name n :: .sql ", " :: (names (m :: ns)).tokens := rfl
    rw [htokens, layout, layout, ih, Dialect.listed, List.append_assoc]

/-- The text has an update in the standard syntax, with these columns and perhaps a condition as its
target in front of it. -/
def Dialect.UpdatesOn (d : Dialect) (columns : List String) (text : List Char) : Prop :=
  ∃ start filter rest, (filter = [] ∨ " WHERE ".toList <+: filter) ∧
    text = start ++ " ON CONFLICT (".toList ++ d.listed columns ++ ")".toList ++ filter ++
      " DO UPDATE  SET ".toList ++ rest

theorem Dialect.UpdatesOn.within {d : Dialect} {columns : List String} {text : List Char}
    (h : d.UpdatesOn columns text) (before after : List Char) :
    d.UpdatesOn columns (before ++ text ++ after) := by
  obtain ⟨start, filter, rest, hfilter, rfl⟩ := h
  exact ⟨before ++ start, filter, rest ++ after, hfilter, by simp only [List.append_assoc]⟩

theorem Token.layout_infix (d : Dialect) {ts us : List Token} (h : ts <:+: us) :
    ∃ count start rest, layout d 0 us = start ++ layout d count ts ++ rest := by
  obtain ⟨before, after, rfl⟩ := h
  rw [layout_append, layout_append]
  exact ⟨_, _, _, rfl⟩

/-- What a keyword leads starts with it, or there is nothing. -/
theorem Token.layout_led (d : Dialect) (count : Nat) (keyword : String) (a : Option Draft) :
    layout d count (led keyword a).tokens = [] ∨
      keyword.toList <+: layout d count (led keyword a).tokens := by
  cases a with
  | none => exact .inl rfl
  | some a =>
    rw [led, tokens_append (fault_sql _)]
    exact .inr (List.prefix_append _ _)

/-- An update in the standard syntax has its target in parentheses, with the condition on it. -/
theorem Conflict.layout_update {d : Dialect} {scope : Scope} {c : Conflict}
    (hu : d.upsertSyntax = .standard) {assignments : List Assignment} {condition : Option Expr}
    (haction : c.action = .doUpdate assignments condition) (hcolumns : c.target.columns ≠ [])
    (hf : (c.draft d scope).fault = none) (count : Nat) :
    d.UpdatesOn c.target.columns (Token.layout d count (c.draft d scope).tokens) := by
  have hempty : c.target.columns.isEmpty = false := by simp [hcolumns]
  have htext : " ON CONFLICT (".toList = " ON CONFLICT".toList ++ " (".toList := rfl
  simp only [draft, hu, haction, targetDraft, hempty, append_assoc, Bool.false_eq_true,
    if_false, fault_append_eq_none] at hf ⊢
  obtain ⟨-, -, -, -, hfilter, -⟩ := hf
  rw [tokens_append (fault_sql _), tokens_append (fault_sql _), tokens_append (fault_names _),
    tokens_append (fault_sql _), tokens_append hfilter, tokens_append (fault_sql _)]
  simp only [Dialect.UpdatesOn, Token.layout_append, Token.layout_names, htext, List.append_assoc]
  exact ⟨[], _, _, Token.layout_led d _ " WHERE " _, rfl⟩

/-- Where a target is required, an INSERT that is rendered with an update has its target columns in
front of the update. -/
theorem Insert.target_of_rendered_update {d : Dialect} {i : Insert} {c : Conflict} {r : Rendering}
    (hu : d.upsertSyntax = .standard) (hrequired : d.conflictTargetRequired = true)
    (hc : i.conflict = some c) {assignments : List Assignment} {condition : Option Expr}
    (haction : c.action = .doUpdate assignments condition)
    (hr : ((Statement.insert i).render d).outcome = .ok r) :
    c.target.columns ≠ [] ∧ d.UpdatesOn c.target.columns r.sql.toList := by
  have hcolumns : c.target.columns ≠ [] := by
    have hexpressible := expressible_of_render hr c hc
    simp only [Conflict.Expressible, hu, haction] at hexpressible
    exact hexpressible.2.2 hrequired
  obtain ⟨hf, rfl⟩ := Draft.finish_eq_ok hr
  have hclause : clause d (.statement .insert) i.conflict = c.draft d (.statement .insert) := by
    rw [hc]
    exact append_empty _
  have hwritten : (c.draft d (.statement .insert)).fault = none := by
    have hparts := hf
    rw [Statement.draft, Statement.draftIn, Statement.kind, draft_eq] at hparts
    simp only [fault_append_eq_none, hclause] at hparts
    exact hparts.2.2.2.1
  have hinfix : (c.draft d (.statement .insert)).tokens <:+:
      ((Statement.insert i).draft d).tokens := by
    have htokens := tokens_draft d (.statement .insert) hf
    rw [hclause] at htokens
    refine ⟨.sql (head (i.conflict.any (Conflict.becomesIgnore d))) ::
      (i.body d (.statement .insert)).tokens,
      (d.returningDraft (.statement .insert) i.returning).tokens, ?_⟩
    rw [Statement.draft, Statement.draftIn, Statement.kind, htokens]
    simp
  obtain ⟨count, start, rest, hlayout⟩ := Token.layout_infix d hinfix
  refine ⟨hcolumns, ?_⟩
  rw [Token.rendering, String.toList_ofList, hlayout]
  exact (Conflict.layout_update hu haction hcolumns hwritten count).within start rest

namespace Upsert

/-! ## Completing a construction -/

/-- With rows that fit, completing looks at the target and at the action. -/
theorem finish_of_fits {u : Upsert} (h : u.insert.widthFault? = none) :
    (Query.upsert u).finish.outcome =
      match u.action with
      | some action =>
        .ok (.insert { u.insert with conflict := some ⟨u.target.getD {}, action⟩ })
      | none =>
        if u.target = none then .ok (.insert { u.insert with conflict := none })
        else .error (.emptyClause (.statement .insert) .conflictAction) := by
  rcases u with ⟨i, target, action⟩
  simp only [Query.finish, finish, h]
  cases action <;> cases target <;> rfl

/-- The conflict clause that the calls about conflicts make, if there are any such calls. -/
def IsClauseOf (calls : List Call) (conflict : Option Conflict) : Prop :=
  (conflict = none ↔ ∀ call ∈ calls, ¬call.NamesTarget ∧ ¬call.ChoosesAction) ∧
    ∀ c ∈ conflict, c.target = ⟨lastColumns calls,
      Expr.conjunction (calls.flatMap Call.targetConditions)⟩ ∧ lastAction? calls = some c.action

section Outcomes
variable {i : Insert} {calls : List Call} {u : Upsert}

theorem Keeps.exists_choosesAction_iff (h : Keeps i calls u) :
    (∃ call ∈ calls, call.ChoosesAction) ↔ u.action ≠ none := by
  rw [Upsert.exists_choosesAction_iff, h.action]

/-- An action comes with its target, which says nothing if no call was about it. -/
theorem Keeps.isClauseOf_some (h : Keeps i calls u) {action : ConflictAction}
    (haction : u.action = some action) :
    IsClauseOf calls (some ⟨u.target.getD {}, action⟩) := by
  obtain ⟨call, hcall, hchooses⟩ := h.exists_choosesAction_iff.2 (by simp [haction])
  refine ⟨iff_of_false (Option.some_ne_none _) fun hall => (hall call hcall).2 hchooses, ?_⟩
  rintro c ⟨⟩
  exact ⟨by rw [← h.columns, ← h.condition], h.action ▸ haction⟩

/-- Without an action there is no clause, if no call was about the target either. -/
theorem Keeps.isClauseOf_none (h : Keeps i calls u) (haction : u.action = none)
    (htarget : u.target = none) : IsClauseOf calls none := by
  have hfree : ∀ call ∈ calls, ¬call.ChoosesAction :=
    lastAction?_eq_none_iff.1 (h.action.symm.trans haction)
  exact ⟨iff_of_true rfl fun call hcall => ⟨h.target.1 htarget call hcall, hfree call hcall⟩,
    by simp⟩

/-- The three outcomes of completing, by what a construction keeps of its calls. -/
theorem Keeps.outcome_cases (h : Keeps i calls u) :
    (u.insert.Misfits ∧ ∃ expected found,
      (Query.upsert u).finish.outcome = .error (.columnCountMismatch expected found)) ∨
    (¬u.insert.Misfits ∧
      ((∃ call ∈ calls, call.NamesTarget) ∧ ∀ call ∈ calls, ¬call.ChoosesAction) ∧
      (Query.upsert u).finish.outcome =
        .error (.emptyClause (.statement .insert) .conflictAction)) ∨
    (¬u.insert.Misfits ∧
      ((∃ call ∈ calls, call.NamesTarget) → ∃ call ∈ calls, call.ChoosesAction) ∧
      ∃ conflict, (Query.upsert u).finish.outcome = .ok (.insert { u.insert with conflict }) ∧
        IsClauseOf calls conflict) := by
  rw [← Insert.widthFault?_eq_none_iff_not_misfits]
  cases hwidth : u.insert.widthFault? with
  | some e =>
    obtain ⟨expected, found, rfl⟩ := Insert.isMismatch_of_widthFault? hwidth
    refine .inl ⟨?_, expected, found, Query.mismatch_iff.2 hwidth⟩
    by_contra hfits
    simp [Insert.widthFault?_eq_none_iff_not_misfits.2 hfits] at hwidth
  | none =>
    rw [finish_of_fits hwidth]
    cases haction : u.action with
    | some action =>
      exact .inr (.inr ⟨rfl, fun _ => h.exists_choosesAction_iff.2 (by simp [haction]), _, rfl,
        h.isClauseOf_some haction⟩)
    | none =>
      by_cases htarget : u.target = none
      · refine .inr (.inr ⟨rfl, ?_, none, if_pos htarget, h.isClauseOf_none haction htarget⟩)
        rintro ⟨call, hcall, hnames⟩
        exact absurd hnames (h.target.1 htarget call hcall)
      · have hnamed : ∃ call ∈ calls, call.NamesTarget := by
          rw [h.target] at htarget
          simpa using htarget
        have hfree := lastAction?_eq_none_iff.1 (h.action.symm.trans haction)
        exact .inr (.inl ⟨rfl, ⟨hnamed, hfree⟩, if_neg htarget⟩)

theorem Keeps.target_of_build (h : Keeps i calls u) {d : Dialect} (hu : d.upsertSyntax = .standard)
    (hrequired : d.conflictTargetRequired = true) {r : Rendering}
    (hr : ((Query.upsert u).build d).outcome = .ok r) {assignments : List Assignment}
    {condition : Option Expr} (hlast : lastAction? calls = some (.doUpdate assignments condition)) :
    lastColumns calls ≠ [] ∧ d.UpdatesOn (lastColumns calls) r.sql.toList := by
  rw [Query.build, Logged.outcome_bind] at hr
  obtain ⟨-, expected, found, hout⟩ | ⟨-, -, hout⟩ | ⟨-, -, conflict, hout, hnone, hsome⟩ :=
    h.outcome_cases
  · simp [hout, Except.bind] at hr
  · simp [hout, Except.bind] at hr
  · rw [hout] at hr
    cases conflict with
    | none =>
      have hfree : lastAction? calls = none :=
        lastAction?_eq_none_iff.2 fun call hcall => (hnone.1 rfl call hcall).2
      cases hfree.symm.trans hlast
    | some c =>
      obtain ⟨htarget, haction⟩ := hsome c rfl
      have hupdate : c.action = .doUpdate assignments condition :=
        Option.some.inj (haction.symm.trans hlast)
      have hrendered := Insert.target_of_rendered_update hu hrequired
        (i := { u.insert with conflict := some c }) rfl hupdate hr
      rwa [htarget] at hrendered

end Outcomes

/-- Completing an upsert after any calls reports the first row of the wrong width, then a target
without an action. Otherwise it gives the INSERT of the calls that were passed on, with a conflict
clause exactly if there was a call about conflicts: the target has the last columns and all
conditions, and the action is the last one. Where a target is required, an update is only rendered
with target columns in front of it. -/
theorem completed_from_calls (table : String) (before : List Insert.Call) (calls : List Call) :
    let u := calls.foldl apply (ofInsert (.ofCalls table before))
    let i := Insert.ofCalls table (before ++ calls.filterMap Call.insert?)
    let completed := (Query.upsert u).finish.outcome
    ((∃ expected found, completed = .error (.columnCountMismatch expected found)) ↔ i.Misfits) ∧
    (∀ expected found, completed = .error (.columnCountMismatch expected found) →
      expected = i.columns.length ∧ i.FirstMisfit found) ∧
    (completed = .error (.emptyClause (.statement .insert) .conflictAction) ↔
      ¬i.Misfits ∧ (∃ call ∈ calls, call.NamesTarget) ∧ ∀ call ∈ calls, ¬call.ChoosesAction) ∧
    (¬i.Misfits → ((∃ call ∈ calls, call.NamesTarget) → ∃ call ∈ calls, call.ChoosesAction) →
      ∃ conflict, completed = .ok (.insert { i with conflict }) ∧ IsClauseOf calls conflict) ∧
    (∀ d : Dialect, d.upsertSyntax = .standard → d.conflictTargetRequired = true →
      ∀ r, ((Query.upsert u).build d).outcome = .ok r →
      ∀ assignments condition, lastAction? calls = some (.doUpdate assignments condition) →
        lastColumns calls ≠ [] ∧ d.UpdatesOn (lastColumns calls) r.sql.toList) := by
  intro u i completed
  have hkeeps : Keeps (.ofCalls table before) calls u := keeps_foldl _ calls
  have hinsert : u.insert = i := by
    rw [hkeeps.insert]
    exact List.foldl_append.symm
  have hfirst (expected found : Nat)
      (hout : completed = .error (.columnCountMismatch expected found)) :
      expected = i.columns.length ∧ i.FirstMisfit found := by
    rw [← hinsert]
    exact Insert.firstMisfit_of_widthFault? (Query.mismatch_iff.1 hout)
  have hupdate (d : Dialect) (hu : d.upsertSyntax = .standard)
      (hrequired : d.conflictTargetRequired = true) (r : Rendering)
      (hr : ((Query.upsert u).build d).outcome = .ok r) (assignments : List Assignment)
      (condition : Option Expr)
      (hlast : lastAction? calls = some (.doUpdate assignments condition)) :=
    hkeeps.target_of_build hu hrequired hr hlast
  rw [← hinsert]
  obtain ⟨hmisfits, expected, found, hout⟩ | ⟨hfits, hcalls, hout⟩ |
    ⟨hfits, hchosen, conflict, hout, hclause⟩ := hkeeps.outcome_cases
  · refine ⟨iff_of_true ⟨expected, found, hout⟩ hmisfits, hinsert ▸ hfirst, ?_, ?_, hupdate⟩
    · exact iff_of_false (by simp [completed, hout]) fun h => h.1 hmisfits
    · exact fun hfits => absurd hmisfits hfits
  · refine ⟨iff_of_false ?_ hfits, hinsert ▸ hfirst, iff_of_true hout ⟨hfits, hcalls⟩, ?_, hupdate⟩
    · simp [completed, hout]
    · intro _ hchosen
      obtain ⟨call, hcall, hchooses⟩ := hchosen hcalls.1
      exact absurd hchooses (hcalls.2 call hcall)
  · refine ⟨iff_of_false ?_ hfits, hinsert ▸ hfirst, iff_of_false ?_ ?_,
      fun _ _ => ⟨conflict, hout, hclause⟩, hupdate⟩
    · simp [completed, hout]
    · simp [completed, hout]
    · rintro ⟨-, hnamed, hfree⟩
      obtain ⟨call, hcall, hchooses⟩ := hchosen hnamed
      exact absurd hchooses (hfree call hcall)

/-- The target starts with a condition and gets columns twice, and the second action replaces the
first; a short row is reported before the missing action. -/
theorem completed_from_interleaved_calls :
    let before : List Insert.Call := [.columns ["id", "name"]]
    let sized (n : Int64) : Expr := .binary (.col "size") .gt (.bind (.int n))
    let row : Call := .insert (.row [.bind (.int 1), .bind (.text "Earth")])
    let calls : List Call := [.targetCondition (sized 3), .onConflict ["name"], row, .doNothing,
      .onConflict ["id"], .targetCondition (sized 4),
      .doUpdate [.setExcluded "name", .condition (sized 5)]]
    let short : List Call := [.onConflict ["id"], .insert (.row [.bind (.int 1)])]
    let completed (calls : List Call) : Except Fault Statement :=
      (Query.upsert (calls.foldl apply (ofInsert (.ofCalls "planets" before)))).finish.outcome
    let i := Insert.ofCalls "planets" (before ++ calls.filterMap Call.insert?)
    (∃ conflict, completed calls = .ok (.insert { i with conflict }) ∧ IsClauseOf calls conflict) ∧
      lastColumns calls ≠ [] ∧
      ((Query.upsert (calls.foldl apply (ofInsert (.ofCalls "planets" before)))).build
        .postgres).outcome = .ok ⟨"INSERT INTO \"planets\" (\"id\", \"name\") VALUES ($1, $2)" ++
          " ON CONFLICT (\"id\") WHERE \"size\" > $3 AND \"size\" > $4" ++
          " DO UPDATE  SET \"name\" = \"excluded\".\"name\" WHERE \"size\" > $5",
          [.int 1, .text "Earth", .int 3, .int 4, .int 5]⟩ ∧
      completed short = .error (.columnCountMismatch 2 1) ∧
      (Insert.ofCalls "planets" (before ++ short.filterMap Call.insert?)).FirstMisfit 1 ∧
      completed [.onConflict ["id"]] =
        .error (.emptyClause (.statement .insert) .conflictAction) := by
  intro before sized row calls short completed i
  obtain ⟨-, -, -, hok, hupdate⟩ := completed_from_calls "planets" before calls
  obtain ⟨-, hmismatch, -, -, -⟩ := completed_from_calls "planets" before short
  obtain ⟨-, -, hunfinished, -, -⟩ := completed_from_calls "planets" before [.onConflict ["id"]]
  have hfits : ¬i.Misfits := Insert.widthFault?_eq_none_iff_not_misfits.1 rfl
  have hbuild : ((Query.upsert (calls.foldl apply (ofInsert (.ofCalls "planets" before)))).build
      .postgres).outcome = .ok ⟨"INSERT INTO \"planets\" (\"id\", \"name\") VALUES ($1, $2)" ++
        " ON CONFLICT (\"id\") WHERE \"size\" > $3 AND \"size\" > $4" ++
        " DO UPDATE  SET \"name\" = \"excluded\".\"name\" WHERE \"size\" > $5",
        [.int 1, .text "Earth", .int 3, .int 4, .int 5]⟩ := by cbv
  have hshort : completed short = .error (.columnCountMismatch 2 1) := rfl
  refine ⟨hok hfits fun _ => ⟨.doNothing, by simp [calls], trivial⟩,
    (hupdate .postgres rfl rfl _ hbuild _ _ rfl).1, hbuild, hshort, (hmismatch 2 1 hshort).2,
    hunfinished.2 ⟨Insert.widthFault?_eq_none_iff_not_misfits.1 rfl,
      ⟨.onConflict ["id"], by simp, trivial⟩, ?_⟩⟩
  simp [Call.ChoosesAction]

end Upsert

end PolySql
