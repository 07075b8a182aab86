import PolySql.Proofs.ConflictReading

/-!
# What a refused statement leaves behind

An INSERT, UPDATE or DELETE whose expressions can be said one by one is refused for its clauses. An
UPDATE and a DELETE are checked before their first word, so what was written earlier stays as it
is. An INSERT is checked for all but its `RETURNING`: where only that is wrong, the statement stands
there without it when the writing stops.

* `Statement.ChangesRows` : the statements in question;
* `Statement.RefusedLate` : an INSERT that only its `RETURNING` stands in the way of;
* `Insert.refused_cases` : what a refused INSERT writes;
* `Session.untouched_iff` : the main statement.
-/

namespace PolySql

open Draft

/-- INSERT, UPDATE and DELETE. -/
def Statement.ChangesRows : Statement → Prop
  | .insert _ | .update _ | .delete _ => True
  | _ => False

/-- An INSERT asks for a `RETURNING` that the dialect lacks, and nothing else of it is beyond the
dialect. -/
def Statement.RefusedLate (d : Dialect) : Statement → Prop
  | .insert i =>
    ¬ d.CanReturn i.returning ∧ (Statement.insert { i with returning := [] }).ExpressibleHere d
  | _ => False

variable {d : Dialect} {scope : Scope}

/-! ## Checks that come first -/

theorem Expr.exists_render_iff {e : Expr} :
    (∃ r, (e.render d).outcome = .ok r) ↔ e.Sayable d := by
  have hfault : e.Sayable d ↔ (e.draft d .expression).fault = none := fault_draft_eq_none.symm
  rw [hfault, render, Draft.finish]
  cases (e.draft d .expression).fault <;> simp

theorem Draft.Silent.append_of_fault {a : Draft} (ha : a.Silent) (hf : a.fault ≠ none)
    (b : Draft) : (a ++ b).Silent := by
  obtain ⟨e, he⟩ := Option.ne_none_iff_exists'.1 hf
  rwa [Draft.append_of_fault he]

theorem Dialect.returningDraft_of_not_canReturn {returning : List Expr}
    (h : ¬ d.CanReturn returning) :
    d.returningDraft scope returning = fail (.unsupported d.name .returning) := by
  have hcheck : d.returningCheck returning = fail (.unsupported d.name .returning) := by
    obtain ⟨hne, hlacks⟩ := Classical.not_imp.1 h
    simp [Dialect.returningCheck, require, hne, hlacks]
  rw [Dialect.returningDraft, hcheck]
  exact Draft.append_of_fault rfl _

theorem Dialect.silent_returningCheck (returning : List Expr) :
    (d.returningCheck returning).Silent := silent_require _ _

theorem Update.silent_of_refused {u : Update} (hsay : ∀ e ∈ u.exprs, e.Sayable d)
    (hf : (u.draft d scope).fault ≠ none) : (u.draft d scope).Silent := by
  have hchecks : (require (!u.assignments.isEmpty)
      (.emptyClause (.statement .update) .setAssignments) ++
        d.returningCheck u.returning).fault ≠ none := by
    intro hnone
    rw [fault_append_eq_none, fault_require_eq_none, Dialect.fault_returningCheck_eq_none] at hnone
    have hhere : (Statement.update u).ExpressibleHere d := ⟨by simpa using hnone.1, hnone.2⟩
    exact hf (Update.fault_draft_eq_none.2 ⟨hhere, hsay⟩)
  simp only [Update.draft, append_assoc] at hchecks ⊢
  rw [← append_assoc]
  exact ((silent_require _ _).append (d.silent_returningCheck _)).append_of_fault hchecks _

theorem Delete.silent_of_refused {x : Delete} (hsay : ∀ e ∈ x.exprs, e.Sayable d)
    (hf : (x.draft d scope).fault ≠ none) : (x.draft d scope).Silent := by
  have hcheck : (d.returningCheck x.returning).fault ≠ none := by
    intro hnone
    have hhere : (Statement.delete x).ExpressibleHere d :=
      Dialect.fault_returningCheck_eq_none.1 hnone
    exact hf (Delete.fault_draft_eq_none.2 ⟨hhere, hsay⟩)
  simp only [Delete.draft, append_assoc]
  exact (d.silent_returningCheck _).append_of_fault hcheck _

/-! ## INSERT -/

namespace Insert

/-- `RETURNING` comes after everything else, its check included. -/
theorem draft_eq_append (i : Insert) :
    i.draft d scope =
      { i with returning := [] }.draft d scope ++ d.returningDraft scope i.returning := by
  have hnothing : d.returningDraft scope [] = empty := rfl
  simp only [draft, hnothing, append_empty, append_assoc]
  rfl

theorem fault_checks_eq_none {i : Insert} :
    (i.checks d).fault = none ↔
      (Statement.insert { i with returning := [] }).ExpressibleHere d := by
  have hconflict : (all (i.conflict.toList.map (Conflict.checks d))).fault = none ↔
      ∀ c ∈ i.conflict, c.Expressible d := by
    rw [fault_all_eq_none]
    simp [Conflict.fault_checks_eq_none]
  have hreturns : d.CanReturn [] := fun h => absurd rfl h
  simp only [checks, fault_append_eq_none, fault_require_eq_none, fault_widths_eq_none, hconflict,
    Statement.ExpressibleHere, hreturns, and_true, and_assoc, Bool.not_eq_true',
    List.isEmpty_eq_false_iff]

theorem silent_of_fault_checks {i : Insert} (h : (i.checks d).fault ≠ none) :
    (i.draft d scope).Silent := by
  rw [draft_eq]
  exact (i.silent_checks d).append_of_fault h _

/-- What the checks let through is refused for its `RETURNING`, after everything else. -/
theorem refused_late {i : Insert} {e : Fault} (hsay : ∀ e ∈ i.exprs, e.Sayable d)
    (hchecks : (i.checks d).fault = none) (hf : (i.draft d scope).fault = some e) :
    (Statement.insert i).RefusedLate d ∧ e = .unsupported d.name .returning ∧
      ({ i with returning := [] }.draft d scope).fault = none ∧
      (i.draft d scope).tokens = ({ i with returning := [] }.draft d scope).tokens := by
  have hhere := fault_checks_eq_none.1 hchecks
  have hrest : ({ i with returning := [] }.draft d scope).fault = none :=
    fault_draft_eq_none.2 ⟨hhere, fun e he => hsay e (by
      simp only [Statement.exprs, exprs, List.append_nil] at he
      exact List.mem_append_left _ he)⟩
  have hcannot : ¬ d.CanReturn i.returning := by
    intro hcan
    have hall : (Statement.insert i).ExpressibleHere d :=
      ⟨hhere.1, hhere.2.1, hhere.2.2.1, hcan⟩
    have hnone : (i.draft d scope).fault = none := fault_draft_eq_none.2 ⟨hall, hsay⟩
    rw [hnone] at hf
    cases hf
  have hsplit : i.draft d scope =
      { i with returning := [] }.draft d scope ++ fail (.unsupported d.name .returning) := by
    rw [i.draft_eq_append, Dialect.returningDraft_of_not_canReturn hcannot]
  rw [hsplit, fault_append, hrest, Option.none_or] at hf
  refine ⟨⟨hcannot, hhere⟩, (Option.some.inj hf).symm, hrest, ?_⟩
  rw [hsplit, tokens_append hrest]
  exact List.append_nil _

/-- A refused INSERT has written nothing, or all but the `RETURNING` for which it is refused. -/
theorem refused_cases {i : Insert} {e : Fault} (hsay : ∀ e ∈ i.exprs, e.Sayable d)
    (hf : (i.draft d scope).fault = some e) :
    (¬ (Statement.insert i).RefusedLate d ∧ (i.draft d scope).Silent) ∨
      ((Statement.insert i).RefusedLate d ∧ e = .unsupported d.name .returning ∧
        ({ i with returning := [] }.draft d scope).fault = none ∧
        (i.draft d scope).tokens = ({ i with returning := [] }.draft d scope).tokens) := by
  cases hchecks : (i.checks d).fault with
  | some e' =>
    refine .inl ⟨fun hlate => ?_, silent_of_fault_checks (by simp [hchecks])⟩
    simp [fault_checks_eq_none.2 hlate.2] at hchecks
  | none => exact .inr (refused_late hsay hchecks hf)

end Insert

/-! ## All three kinds -/

theorem Statement.silent_of_refused {s : Statement} (hkind : s.ChangesRows)
    (hsay : ∀ e ∈ s.exprs, e.Sayable d) (hf : (s.draftIn d scope).fault ≠ none)
    (hlate : ¬ s.RefusedLate d) : (s.draftIn d scope).Silent := by
  cases s with
  | insert i =>
    obtain ⟨e, he⟩ := Option.ne_none_iff_exists'.1 hf
    obtain ⟨-, hsilent⟩ | ⟨h, -⟩ := Insert.refused_cases hsay he
    · exact hsilent
    · exact absurd h hlate
  | update u => exact Update.silent_of_refused hsay hf
  | delete x => exact Delete.silent_of_refused hsay hf
  | _ => cases hkind

theorem Token.rendering_append_ne (ts us : List Token) {text : String} (h : text.toList ≠ []) :
    rendering d (ts ++ .sql text :: us) ≠ rendering d ts := by
  intro heq
  obtain ⟨hlayout, -⟩ := rendering_inj heq
  rw [layout_append, List.append_right_eq_self, layout, List.append_eq_nil_iff] at hlayout
  exact h hlayout.1

namespace Session

variable {x : Session} {s : Statement} {e : Fault}

theorem apply_clauses (x : Session) (s : Statement) :
    x.apply d (.clauses s) =
      (⟨x.scope, x.tokens ++ (s.draftIn d x.scope).tokens⟩, (s.draftIn d x.scope).fault) := rfl

/-- A refused statement leaves text and binds as they were, unless it is an INSERT that only its
`RETURNING` stands in the way of; such an INSERT leaves what it would have written without it. -/
theorem untouched_iff (hkind : s.ChangesRows)
    (hsay : ∀ e ∈ s.exprs, ∃ r, (e.render d).outcome = .ok r)
    (hrefused : (x.apply d (.clauses s)).2 = some e) :
    ((x.apply d (.clauses s)).1.rendering d = x.rendering d ↔ ¬ s.RefusedLate d) ∧
      ∀ i, s = .insert i → s.RefusedLate d →
        e = .unsupported d.name .returning ∧
          x.apply d (.clauses (.insert { i with returning := [] })) =
            ((x.apply d (.clauses s)).1, none) := by
  have hsay' : ∀ e ∈ s.exprs, e.Sayable d := fun e he => Expr.exists_render_iff.1 (hsay e he)
  have hfault : (s.draftIn d x.scope).fault = some e := hrefused
  rw [apply_clauses]
  have hlate : ∀ i, s = .insert i → s.RefusedLate d → e = .unsupported d.name .returning ∧
      ({ i with returning := [] }.draft d x.scope).fault = none ∧
      (s.draftIn d x.scope).tokens = ({ i with returning := [] }.draft d x.scope).tokens := by
    rintro i rfl h
    obtain ⟨hnot, -⟩ | ⟨-, hcases⟩ := Insert.refused_cases hsay' hfault
    · exact absurd h hnot
    · exact hcases
  refine ⟨⟨fun hsame h => ?_, fun h => ?_⟩, fun i hi h => ?_⟩
  · cases s with
    | insert i =>
      obtain ⟨-, hnone, htokens⟩ := hlate i rfl h
      rw [Insert.tokens_draft d x.scope hnone] at htokens
      rw [rendering, htokens] at hsame
      refine Token.rendering_append_ne x.tokens _ ?_ hsame
      unfold Insert.head
      split <;> simp
    | _ => exact h
  · have hsilent : (s.draftIn d x.scope).tokens = [] :=
      Statement.silent_of_refused hkind hsay' (Option.ne_none_iff_exists'.2 ⟨e, hfault⟩) h
    rw [hsilent, List.append_nil]
  · obtain ⟨he, hnone, htokens⟩ := hlate i hi h
    refine ⟨he, ?_⟩
    rw [apply_clauses, htokens]
    exact congrArg (Prod.mk _) hnone

/-- A row of the wrong width is found before the `RETURNING` that the dialect lacks, and before
anything is written after the text and the bind that are there. -/
theorem untouched_by_narrow_row :
    let x : Session := ⟨.expression, [.sql "EXPLAIN ", .bind (.int 7), .sql "; "]⟩
    let s : Statement := .insert
      { table := "users", columns := ["id", "name"], rows := [[.bind (.int 1)]],
        returning := [.column none "id"] }
    s.ChangesRows ∧ (∀ e ∈ s.exprs, ∃ r, (e.render .mysql).outcome = .ok r) ∧
      (x.apply .mysql (.clauses s)).2 = some (.columnCountMismatch 2 1) ∧
      (x.apply .mysql (.clauses s)).1.rendering .mysql = x.rendering .mysql := by
  intro x s
  have hsay : ∀ e ∈ s.exprs, ∃ r, (e.render .mysql).outcome = .ok r := by
    intro e he
    obtain rfl | rfl : e = .bind (.int 1) ∨ e = .column none "id" := by
      simpa [s, Statement.exprs, Insert.exprs] using he
    · exact ⟨⟨"?", [.int 1]⟩, by cbv⟩
    · exact ⟨⟨"`id`", []⟩, by cbv⟩
  have hrefused : (x.apply .mysql (.clauses s)).2 = some (.columnCountMismatch 2 1) := rfl
  have hkind : s.ChangesRows := trivial
  have hearly : ¬ s.RefusedLate .mysql := by
    rintro ⟨-, -, hwidths, -⟩
    have := hwidths (by simp) [.bind (.int 1)] (by simp)
    simp at this
  exact ⟨hkind, hsay, hrefused, (untouched_iff hkind hsay hrefused).1.2 hearly⟩

/-- An INSERT that asks for a `RETURNING` is refused after its rows and leaves them behind. -/
theorem touched_by_insert_returning :
    let s : Statement := .insert
      { table := "users", rows := [[.bind (.int 1)]], returning := [.column none "id"] }
    s.ChangesRows ∧ (∀ e ∈ s.exprs, ∃ r, (e.render .mysql).outcome = .ok r) ∧
      (Session.apply .mysql {} (.clauses s)).2 = some (.unsupported "mysql" .returning) ∧
      (Session.apply .mysql {} (.clauses s)).1.rendering .mysql =
        ⟨"INSERT INTO `users` VALUES (?)", [.int 1]⟩ ∧
      ({} : Session).rendering .mysql = ⟨"", []⟩ := by
  intro s
  refine ⟨trivial, fun e he => ?_, rfl, by cbv, by cbv⟩
  obtain rfl | rfl : e = .bind (.int 1) ∨ e = .column none "id" := by
    simpa [s, Statement.exprs, Insert.exprs] using he
  · exact ⟨⟨"?", [.int 1]⟩, by cbv⟩
  · exact ⟨⟨"`id`", []⟩, by cbv⟩

end Session

end PolySql
