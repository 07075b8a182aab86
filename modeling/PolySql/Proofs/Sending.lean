import PolySql.Database
import PolySql.Proofs.Refusals

/-!
# A complete statement is sent exactly once

A step of a run takes a query and a task. If the query can be completed and rendered, its statement
is sent, once, and the answer alone decides what the step reports; otherwise nothing is sent. So the
statements that a run sends are known before it starts, whatever the answers are.

* `Dialect.prepared`, `Dialect.due` : the rendering of a step, and what the step sends;
* `Database.Reports` : what a task makes of an answer;
* `Database.Performs` : everything that a step does;
* `Database.performs_run` : one step;
* `Database.sent_once_or_not_at_all` : the main statement, about all steps of a run.
-/

namespace PolySql

/-! ## What a step has to send -/

/-- The statement that a task sends. A SELECT of which only the first row is wanted is limited to
one row, whatever its limit was. -/
def Database.Task.statement : Task → Statement → Statement
  | .first _, .select s => .select { s with limit := some 1 }
  | _, s => s

/-- The rendering of a query under a task, or what stands in the way of it. -/
def Dialect.prepared (d : Dialect) (q : Query) (t : Database.Task) : Except Fault Rendering :=
  match q.finish.outcome with
  | .error e => .error e
  | .ok s => ((t.statement s).render d).outcome

/-- What a step sends: its rendering if there is one, unless the task is only to show it. -/
def Dialect.due (d : Dialect) (q : Query) (t : Database.Task) : List Rendering :=
  match t, d.prepared q t with
  | .render, _ => []
  | _, .error _ => []
  | _, .ok r => [r]

/-- What a list of steps sends. -/
def Dialect.dueAll (d : Dialect) (script : List (Query × Database.Task)) : List Rendering :=
  script.flatMap fun (q, t) => d.due q t

theorem Dialect.due_of_error {d : Dialect} {q : Query} {t : Database.Task} {e : Fault}
    (h : d.prepared q t = .error e) : d.due q t = [] := by
  cases t <;> simp only [Dialect.due, h]

theorem Dialect.due_of_ok {d : Dialect} {q : Query} {t : Database.Task} {r : Rendering}
    (h : d.prepared q t = .ok r) (ht : t ≠ .render) : d.due q t = [r] := by
  cases t with
  | render => exact absurd rfl ht
  | _ => simp only [Dialect.due, h]

/-- A sent statement as the log shows it: the dialect, the kind, the text and the number of
binds. -/
structure Announcement where
  dialect : String
  kind : StatementKind
  sql : String
  binds : Nat

/-- The announcement in an event, if it is one. -/
def Event.announcement? : Event → Option Announcement
  | .executing dialect kind sql binds => some ⟨dialect, kind, sql, binds⟩
  | _ => none

/-- The announcement of a rendering. -/
def Dialect.announcement (d : Dialect) (q : Query) (r : Rendering) : Announcement :=
  ⟨d.name, q.kind, r.sql, r.binds.length⟩

/-- Faults that only an answer can lead to: the database refused, or a row cannot be read. -/
def Fault.IsLate : Fault → Prop
  | .decode _ | .execution _ => True
  | _ => False

theorem Run.andThen_andThen {α β γ : Type} (r : Run α) (f : α → Except Fault β)
    (g : β → Except Fault γ) : (r.andThen f).andThen g = r.andThen fun a => (f a).bind g := by
  rcases r with ⟨⟨events, e | a⟩, sent⟩ <;> rfl

namespace Database

/-! ## What a step reports -/

/-- The records of the rows, one for each. -/
def Reads (m : Model) (rows : List Row) (rs : List (Record m)) : Prop :=
  List.Forall₂ (fun row r => row.decode "" m = .ok r) rows rs

/-- The task wants the first row as a record of the model. -/
def Task.WantsFirst (m : Model) (t : Task) : Prop := t = .fetchFirst m ∨ t = .first m

/-- What a task makes of an answer: rows as they are, the records of all rows up to the first bad
one, or the record of the first row. -/
inductive Reports : Except String (List Row) → Task → Except Fault Result → Prop
  | refused (reason : String) (t : Task) : Reports (.error reason) t (.error (.execution reason))
  | rows (rows : List Row) : Reports (.ok rows) .execute (.ok (.rows rows))
  | records {m : Model} {rows : List Row} {rs : List (Record m)} (h : Reads m rows rs) :
    Reports (.ok rows) (.fetchAll m) (.ok (.records m rs))
  | badRow {m : Model} {good : List Row} {rs : List (Record m)} {bad : Row} {e : DecodeFault}
    (h : Reads m good rs) (hbad : bad.decode "" m = .error e) (rest : List Row) :
    Reports (.ok (good ++ bad :: rest)) (.fetchAll m) (.error (.decode e))
  | noRow {m : Model} {t : Task} (ht : t.WantsFirst m) : Reports (.ok []) t (.ok (.record m none))
  | firstRow {m : Model} {t : Task} (ht : t.WantsFirst m) {row : Row} {r : Record m}
    (h : row.decode "" m = .ok r) (rest : List Row) :
    Reports (.ok (row :: rest)) t (.ok (.record m (some r)))
  | badFirstRow {m : Model} {t : Task} (ht : t.WantsFirst m) {row : Row} {e : DecodeFault}
    (h : row.decode "" m = .error e) (rest : List Row) :
    Reports (.ok (row :: rest)) t (.error (.decode e))

/-- Everything that a step does after the statements sent earlier. -/
structure Performs (db : Database) (earlier : List Rendering) (q : Query) (t : Task)
    (run : Run Result) : Prop where
  /-- What is due is sent, and nothing else. -/
  sent : run.sent = db.dialect.due q t
  /-- Each sending is announced, and nothing else is. -/
  announced : run.events.filterMap Event.announcement? = run.sent.map (db.dialect.announcement q)
  /-- What stands in the way of the rendering is the fault of the step. -/
  stopped : ∀ e, db.dialect.prepared q t = .error e → run.outcome = .error e
  /-- A rendering that is only to be shown is the result. -/
  shown : ∀ r, t = .render → db.dialect.prepared q t = .ok r → run.outcome = .ok (.rendering r)
  /-- The answer to what is sent is reported. -/
  reported : ∀ r ∈ run.sent, Reports (db.answer earlier r) t run.outcome
  /-- A fault that only an answer can lead to comes after a sending, every other one without. -/
  late : ∀ e, run.outcome = .error e → (e.IsLate ↔ run.sent ≠ [])

/-! ## Reading an answer -/

theorem reads_or_badRow (m : Model) (rows : List Row) :
    (∃ rs, Reads m rows rs ∧ decodeAll m rows = .ok rs) ∨
      ∃ good rs bad e rest, rows = good ++ bad :: rest ∧ Reads m good rs ∧
        bad.decode "" m = .error e ∧ decodeAll m rows = .error (.decode e) := by
  induction rows with
  | nil => exact .inl ⟨[], .nil, rfl⟩
  | cons row rows ih =>
    cases hrow : row.decode "" m with
    | error e => exact .inr ⟨[], [], row, e, rows, rfl, .nil, hrow, by rw [decodeAll, hrow]⟩
    | ok r =>
      obtain ⟨rs, hrs, hall⟩ | ⟨good, rs, bad, e, rest, rfl, hgood, hbad, hall⟩ := ih
      · exact .inl ⟨r :: rs, .cons hrow hrs, by simp only [decodeAll, hrow, hall]⟩
      · exact .inr ⟨row :: good, r :: rs, bad, e, rest, rfl, .cons hrow hgood, hbad,
          by simp only [decodeAll, hrow, hall]⟩

theorem reports_decodeAll (m : Model) (rows : List Row) :
    Reports (.ok rows) (.fetchAll m) ((decodeAll m rows).bind fun rs => .ok (.records m rs)) := by
  obtain ⟨rs, hrs, hall⟩ | ⟨good, rs, bad, e, rest, rfl, hgood, hbad, hall⟩ :=
    reads_or_badRow m rows
  · rw [hall]
    exact .records hrs
  · rw [hall]
    exact .badRow hgood hbad rest

theorem reports_decodeFirst {m : Model} {t : Task} (ht : t.WantsFirst m) (rows : List Row) :
    Reports (.ok rows) t ((decodeFirst m rows).bind fun r => .ok (.record m r)) := by
  cases rows with
  | nil => exact .noRow ht
  | cons row rows =>
    cases hrow : row.decode "" m with
    | error e =>
      simp only [decodeFirst, hrow]
      exact .badFirstRow ht hrow rows
    | ok r =>
      simp only [decodeFirst, hrow]
      exact .firstRow ht hrow rows

theorem Reports.isLate {answer : Except String (List Row)} {t : Task} {e : Fault}
    (h : Reports answer t (.error e)) : e.IsLate := by
  cases h <;> trivial

theorem Task.WantsFirst.unique {m m' : Model} {t : Task} (h : t.WantsFirst m)
    (h' : t.WantsFirst m') : m = m' := by
  obtain rfl | rfl := h <;> obtain h' | h' := h' <;> cases h' <;> rfl

theorem Task.not_wantsFirst_of_eq {m : Model} {t : Task} (ht : t.WantsFirst m) :
    t ≠ .execute ∧ ∀ m', t ≠ .fetchAll m' := by
  obtain rfl | rfl := ht <;> exact ⟨nofun, nofun⟩

/-- If all rows can be read, then the first one can, with the same record. -/
theorem Reports.first_of_all {m : Model} {rows : List Row} {rs : List (Record m)} {t : Task}
    {outcome : Except Fault Result}
    (hall : Reports (.ok rows) (.fetchAll m) (.ok (.records m rs))) (ht : t.WantsFirst m)
    (h : Reports (.ok rows) t outcome) : outcome = .ok (.record m rs.head?) := by
  obtain ⟨hexecute, hfetchAll⟩ := Task.not_wantsFirst_of_eq ht
  cases hall with
  | records hreads =>
    cases h with
    | rows => exact absurd rfl hexecute
    | records | badRow => exact absurd rfl (hfetchAll _)
    | noRow ht' =>
      obtain rfl := ht.unique ht'
      cases hreads
      rfl
    | firstRow ht' hrow rest =>
      obtain rfl := ht.unique ht'
      cases hreads with
      | cons hr _ =>
        rw [hrow] at hr
        cases hr
        rfl
    | badFirstRow ht' hrow rest =>
      obtain rfl := ht.unique ht'
      cases hreads with
      | cons hr _ =>
        rw [hrow] at hr
        cases hr

/-! ## Performing a task -/

/-- A task that sends a statement executes it and reads the answer. -/
theorem exists_perform_eq {t : Task} (ht : t ≠ .render) :
    ∃ read : List Row → Except Fault Result, (∀ rows, Reports (.ok rows) t (read rows)) ∧
      ∀ db earlier s, perform db earlier s t = (db.execute earlier s).andThen read := by
  cases t with
  | execute => exact ⟨_, .rows, fun _ _ _ => rfl⟩
  | render => exact absurd rfl ht
  | fetchAll m => exact ⟨_, reports_decodeAll m, fun _ _ _ => Run.andThen_andThen ..⟩
  | fetchFirst m => exact ⟨_, reports_decodeFirst (.inl rfl), fun _ _ _ => Run.andThen_andThen ..⟩
  | first m => exact ⟨_, reports_decodeFirst (.inr rfl), fun _ _ _ => Run.andThen_andThen ..⟩

variable (db : Database) (earlier : List Rendering)

theorem announcements_render (d : Dialect) (s : Statement) :
    (s.render d).events.filterMap Event.announcement? = [] := by
  refine List.filterMap_eq_nil_iff.2 fun event hevent => ?_
  obtain hmodest | ⟨i, e, -, -, hdraft⟩ := s.draft_cases d
  · have := hmodest.events event hevent
    cases event <;> first | rfl | exact this.elim
  · rw [Statement.render, hdraft] at hevent
    cases hevent

theorem execute_of_error {s : Statement} {e : Fault}
    (h : (s.render db.dialect).outcome = .error e) :
    db.execute earlier s = ⟨⟨(s.render db.dialect).events, .error e⟩, []⟩ := by
  simp only [execute, h]

theorem execute_of_ok {s : Statement} {r : Rendering}
    (h : (s.render db.dialect).outcome = .ok r) :
    (db.execute earlier s).sent = [r] ∧
      (db.execute earlier s).events.filterMap Event.announcement? =
        [⟨db.dialect.name, s.kind, r.sql, r.binds.length⟩] ∧
      (db.execute earlier s).outcome = (db.answer earlier r).mapError .execution := by
  cases hanswer : db.answer earlier r <;>
    simp [execute, h, hanswer, announcements_render, Event.announcement?, Except.mapError]

theorem perform_of_error {s : Statement} {e : Fault} (h : (s.render db.dialect).outcome = .error e)
    (t : Task) : db.perform earlier s t = ⟨⟨(s.render db.dialect).events, .error e⟩, []⟩ := by
  by_cases ht : t = .render
  · simp only [ht, perform, h]
    rfl
  · obtain ⟨read, -, hperform⟩ := exists_perform_eq ht
    rw [hperform, execute_of_error db earlier h]
    rfl

/-- A statement with a rendering is announced and sent, and its answer is reported. -/
theorem perform_of_ok {s : Statement} {r : Rendering} (h : (s.render db.dialect).outcome = .ok r)
    {t : Task} (ht : t ≠ .render) :
    (db.perform earlier s t).sent = [r] ∧
      (db.perform earlier s t).events.filterMap Event.announcement? =
        [⟨db.dialect.name, s.kind, r.sql, r.binds.length⟩] ∧
      Reports (db.answer earlier r) t (db.perform earlier s t).outcome := by
  obtain ⟨read, hread, hperform⟩ := exists_perform_eq ht
  obtain ⟨hsent, hannounced, houtcome⟩ := execute_of_ok db earlier h
  rw [hperform]
  refine ⟨hsent, hannounced, ?_⟩
  rw [Run.andThen, houtcome]
  cases db.answer earlier r with
  | error reason => exact .refused reason t
  | ok rows => exact hread rows

/-! ## One step -/

theorem run_of_finish_error {q : Query} {e : Fault} (h : q.finish = .error e) (t : Task) :
    db.run earlier q t = ⟨⟨[], .error e⟩, []⟩ := by
  have hlimited : (atMostOne q).finish = .error e := by
    cases q with
    | select s => cases h
    | _ => exact h
  cases t <;> simp only [run, h, hlimited, Logged.error]

/-- A query that can be completed performs its task on its statement, limited if the task asks for
the first row only. -/
theorem run_of_finish_ok {q : Query} {events : List Event} {s : Statement}
    (h : q.finish = ⟨events, .ok s⟩) (hkind : s.kind = q.kind) (t : Task) :
    db.run earlier q t =
      let done := db.perform earlier (t.statement s) t
      { done with events := events ++ done.events } := by
  have hlimited (m : Model) :
      (atMostOne q).finish = ⟨events, .ok ((Task.first m).statement s)⟩ := by
    cases s with
    | select s =>
      cases q <;> cases hkind
      cases h
      rfl
    | _ =>
      cases q with
      | select s => cases hkind
      | _ => exact h
  cases t with
  | first m => simp only [run, hlimited m]
  | _ => simp only [run, h, Task.statement]

theorem Task.kind_statement (t : Task) (s : Statement) : (t.statement s).kind = s.kind := by
  cases t <;> cases s <;> rfl

theorem not_isLate_of_isRefusal {e : Fault} (h : e.IsRefusal) : ¬e.IsLate := by
  cases e <;> first | exact id | exact h.elim

theorem not_isLate_of_render {d : Dialect} {s : Statement} {e : Fault}
    (h : (s.render d).outcome = .error e) : ¬e.IsLate := by
  obtain he | ⟨i, -, he⟩ := Statement.render_error_cases d h
  · exact not_isLate_of_isRefusal he
  · obtain ⟨expected, found, rfl⟩ := Insert.isMismatch_of_widthFault? he
    exact id

theorem performs_stopped {q : Query} {t : Task} {e : Fault} {events : List Event}
    (h : db.dialect.prepared q t = .error e) (hlate : ¬e.IsLate)
    (hevents : events.filterMap Event.announcement? = []) :
    db.Performs earlier q t ⟨⟨events, .error e⟩, []⟩ where
  sent := (Dialect.due_of_error h).symm
  announced := hevents
  stopped e' h' := by
    rw [h] at h'
    cases h'
    rfl
  shown r _ h' := by
    rw [h] at h'
    cases h'
  reported r hr := by cases hr
  late e' h' := by
    cases h'
    simp [hlate]

theorem performs_shown {q : Query} {r : Rendering} {events : List Event}
    (h : db.dialect.prepared q .render = .ok r)
    (hevents : events.filterMap Event.announcement? = []) :
    db.Performs earlier q .render ⟨⟨events, .ok (.rendering r)⟩, []⟩ where
  sent := rfl
  announced := hevents
  stopped e h' := by
    rw [h] at h'
    cases h'
  shown r' _ h' := by
    rw [h] at h'
    cases h'
    rfl
  reported r' hr' := by cases hr'
  late e h' := by cases h'

theorem performs_sent {q : Query} {t : Task} {r : Rendering} {run : Run Result}
    (h : db.dialect.prepared q t = .ok r) (ht : t ≠ .render) (hsent : run.sent = [r])
    (hannounced : run.events.filterMap Event.announcement? = [db.dialect.announcement q r])
    (hreports : Reports (db.answer earlier r) t run.outcome) : db.Performs earlier q t run where
  sent := hsent.trans (Dialect.due_of_ok h ht).symm
  announced := by
    rw [hsent]
    exact hannounced
  stopped e h' := by
    rw [h] at h'
    cases h'
  shown _ h' := absurd h' ht
  reported r' hr' := by
    obtain rfl : r' = r := by simpa [hsent] using hr'
    exact hreports
  late e h' := by
    rw [h'] at hreports
    simp [hsent, hreports.isLate]

/-- A step that completes its query performs its task as the rendering says. -/
theorem performs_completed {q : Query} {t : Task} {events : List Event} {s : Statement}
    (hfinish : q.finish = ⟨events, .ok s⟩) (hkind : s.kind = q.kind)
    (hevents : events.filterMap Event.announcement? = []) :
    db.Performs earlier q t (db.run earlier q t) := by
  have hprepared : db.dialect.prepared q t = ((t.statement s).render db.dialect).outcome := by
    rw [Dialect.prepared, hfinish]
  have hrendered : (events ++ ((t.statement s).render db.dialect).events).filterMap
      Event.announcement? = [] := by
    rw [List.filterMap_append, hevents, announcements_render, List.nil_append]
  rw [run_of_finish_ok db earlier hfinish hkind]
  cases hr : ((t.statement s).render db.dialect).outcome with
  | error e =>
    rw [perform_of_error db earlier hr]
    exact performs_stopped db earlier (hprepared.trans hr) (not_isLate_of_render hr) hrendered
  | ok r =>
    by_cases ht : t = .render
    · subst ht
      have hperform : db.perform earlier (Task.render.statement s) .render =
          ⟨⟨((Task.render.statement s).render db.dialect).events, .ok (.rendering r)⟩, []⟩ := by
        simp only [perform, hr]
        rfl
      rw [hperform]
      exact performs_shown db earlier (hprepared.trans hr) hrendered
    · obtain ⟨hsent, hannounced, hreports⟩ := perform_of_ok db earlier hr ht
      refine performs_sent db earlier (hprepared.trans hr) ht hsent ?_ hreports
      rw [List.filterMap_append, hevents, hannounced, Task.kind_statement, hkind]
      rfl

/-- Every step is as it should be, wherever it comes to an end: at a query that cannot be completed,
at a statement without a rendering, or at the answer. -/
theorem performs_run (q : Query) (t : Task) : db.Performs earlier q t (db.run earlier q t) := by
  have hstopped {e : Fault} (hfinish : q.finish = .error e) (hlate : ¬e.IsLate) :
      db.Performs earlier q t (db.run earlier q t) := by
    rw [run_of_finish_error db earlier hfinish]
    refine performs_stopped db earlier ?_ hlate rfl
    rw [Dialect.prepared, hfinish]
    rfl
  obtain ⟨e, he, hfinish⟩ | ⟨e, -, he, hfinish⟩ | ⟨events, s, -, hevents, hkind, -, hfinish⟩ :=
    q.finish_cases
  · obtain ⟨expected, found, rfl⟩ := Query.isMismatch_of_widthFault? he
    exact hstopped hfinish id
  · exact hstopped hfinish (not_isLate_of_isRefusal he)
  · refine performs_completed db earlier hfinish hkind (List.filterMap_eq_nil_iff.2 ?_)
    intro event hevent
    have := hevents event hevent
    cases event <;> first | rfl | exact this.elim

/-! ## All steps of a run -/

variable (script : List (Query × Task))

/-- What a run sends is what is due for its steps, one after the other, whatever was sent earlier
and whatever the answers are. -/
theorem sent_runAll : (db.runAll earlier script).flatMap Run.sent = db.dialect.dueAll script := by
  induction script generalizing earlier with
  | nil => rfl
  | cons step rest ih =>
    obtain ⟨q, t⟩ := step
    rw [runAll, List.flatMap_cons, ih, (db.performs_run earlier q t).sent]
    rfl

theorem announcements_runAll :
    ((db.runAll earlier script).flatMap fun run => run.events).filterMap Event.announcement? =
      script.flatMap fun (q, t) => (db.dialect.due q t).map (db.dialect.announcement q) := by
  induction script generalizing earlier with
  | nil => rfl
  | cons step rest ih =>
    obtain ⟨q, t⟩ := step
    have hstep := db.performs_run earlier q t
    rw [runAll, List.flatMap_cons, List.filterMap_append, ih, hstep.announced, hstep.sent]
    rfl

/-- Each step of a run goes on from what the steps before it had to send. -/
theorem getElem?_runAll (before : List (Query × Task)) (q : Query) (t : Task)
    (after : List (Query × Task)) :
    (db.runAll earlier (before ++ (q, t) :: after))[before.length]? =
      some (db.run (earlier ++ db.dialect.dueAll before) q t) := by
  induction before generalizing earlier with
  | nil => simp [runAll, Dialect.dueAll]
  | cons step rest ih =>
    obtain ⟨q', t'⟩ := step
    rw [List.cons_append, runAll, List.length_cons, List.getElem?_cons_succ, ih,
      (db.performs_run earlier q' t').sent, List.append_assoc]
    rfl

theorem length_runAll : (db.runAll earlier script).length = script.length := by
  induction script generalizing earlier with
  | nil => rfl
  | cons step rest ih => rw [runAll, List.length_cons, ih, List.length_cons]

/-- Every step of a run sends its statement once if the query can be completed and rendered, and
sends nothing otherwise. It sends the rendering of its statement after what the steps before it
sent, and reports the answer to it. The log announces what is sent, one for one and in order. Where
all rows of an answer can be read, the first of them is read alike on its own. -/
theorem sent_once_or_not_at_all (db : Database) :
    (∀ script : List (Query × Task),
      (db.runAll [] script).length = script.length ∧
      (db.runAll [] script).flatMap Run.sent = db.dialect.dueAll script ∧
      ((db.runAll [] script).flatMap fun run => run.events).filterMap Event.announcement? =
        script.flatMap fun (q, t) => (db.dialect.due q t).map (db.dialect.announcement q)) ∧
    (∀ (before : List (Query × Task)) (q : Query) (t : Task) (after : List (Query × Task)),
      ∃ run, (db.runAll [] (before ++ (q, t) :: after))[before.length]? = some run ∧
        db.Performs (db.dialect.dueAll before) q t run) ∧
    (∀ (m : Model) (rows : List Row) (rs : List (Record m)) (t : Task)
      (outcome : Except Fault Result),
      Reports (.ok rows) (.fetchAll m) (.ok (.records m rs)) → t.WantsFirst m →
        Reports (.ok rows) t outcome → outcome = .ok (.record m rs.head?)) := by
  refine ⟨fun script => ⟨?_, ?_, ?_⟩, fun before q t after => ?_, fun m rows rs t outcome => ?_⟩
  · exact length_runAll db [] script
  · exact sent_runAll db [] script
  · exact announcements_runAll db [] script
  · exact ⟨_, getElem?_runAll db [] before q t after, db.performs_run _ q t⟩
  · exact Reports.first_of_all

/-- An INSERT of the wrong width sends nothing, the first row of a SELECT is asked for with a limit
of one, and a DELETE is sent although the database refuses it. -/
theorem sent_once_of_refused_delete :
    let item : Model := ⟨"items", [⟨"id", .required (.int .int32)⟩]⟩
    let row : Row := ⟨[("id", .int 7)]⟩
    let seven : Record item := ⟨[.int 7], rfl, trivial⟩
    let db : Database := ⟨.postgres, fun earlier _ =>
      if earlier.isEmpty then .ok [row, row] else .error "gone"⟩
    let before : List (Query × Task) :=
      [(.insert (.ofCalls "items" [.columns ["id"], .row []]), .execute),
        (.select (.ofCalls [.modelColumns item, .source "items", .limit 9]), .first item)]
    let refused : Query × Task := (.delete (.ofCalls "items" []), .execute)
    let runs := db.runAll [] (before ++ refused :: [])
    let first : Rendering := ⟨"SELECT \"id\" FROM \"items\" LIMIT 1", []⟩
    let last : Rendering := ⟨"DELETE FROM \"items\"", []⟩
    runs.flatMap Run.sent = [first, last] ∧
      (runs.flatMap fun run => run.events).filterMap Event.announcement? =
        [⟨"postgres", .select, first.sql, 0⟩, ⟨"postgres", .delete, last.sql, 0⟩] ∧
      (∃ run, runs[2]? = some run ∧ db.Performs [first] refused.1 refused.2 run) ∧
      (Except.ok (Result.record item (some seven)) : Except Fault Result) =
        .ok (.record item [seven, seven].head?) := by
  intro item row seven db before refused runs first last
  obtain ⟨hruns, hstep, hfirst⟩ := sent_once_or_not_at_all db
  obtain ⟨-, hsent, hannounced⟩ := hruns (before ++ refused :: [])
  have hbefore : db.dialect.dueAll before = [first] := by cbv
  refine ⟨?_, ?_, ?_, ?_⟩
  · rw [hsent]
    cbv
  · rw [hannounced]
    cbv
  · rw [← hbefore]
    exact hstep before refused.1 refused.2 []
  · have hreads : Reads item [row, row] [seven, seven] := .cons rfl (.cons rfl .nil)
    exact hfirst item [row, row] _ (.first item) _ (.records hreads) (.inr rfl)
      (.firstRow (.inr rfl) rfl [row])

end Database

end PolySql
