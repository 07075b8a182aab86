import PolySql.Proofs.Refusals

/-!
# Upserts without a conflict clause

An upsert passes the calls that it shares with an INSERT on to the INSERT under construction. If it
gets no other call, then it comes to that INSERT, wherever the INSERT was turned into it. With or
without a conflict clause, the rows of the wrong width that completing a query finds are those that
rendering its statement would find.

* `Upsert.foldl_insert` : the calls that are passed on;
* `Query.finish_ofInsert` : an upsert without other calls is completed as its INSERT;
* `Statement.mismatch_iff`, `Query.mismatch_iff` : where a row of the wrong width is reported;
* `Upsert.builds_as_insert` : the main statement.
-/

namespace PolySql

/-! ## Calls that are passed on -/

theorem Insert.conflict_apply (i : Insert) (call : Call) :
    (i.apply call).conflict = i.conflict := by
  cases call with
  | records m rs => rw [apply, foldl_addRecord]
  | _ => rfl

theorem Insert.conflict_foldl_apply (calls : List Call) (i : Insert) :
    (calls.foldl apply i).conflict = i.conflict := by
  induction calls generalizing i with
  | nil => rfl
  | cons call calls ih => rw [List.foldl_cons, ih, conflict_apply]

theorem Insert.conflict_ofCalls (table : String) (calls : List Call) :
    (ofCalls table calls).conflict = none := conflict_foldl_apply calls { table }

theorem Upsert.foldl_insert (calls : List Insert.Call) (u : Upsert) :
    (calls.map .insert).foldl apply u = { u with insert := calls.foldl Insert.apply u.insert } := by
  induction calls generalizing u with
  | nil => rfl
  | cons call calls ih => exact ih (u.apply (.insert call))

/-- An upsert that only gets calls of an INSERT is the INSERT with these calls. -/
theorem Upsert.foldl_ofInsert (table : String) (before after : List Insert.Call) :
    (after.map .insert).foldl apply (ofInsert (.ofCalls table before)) =
      ofInsert (.ofCalls table (before ++ after)) := by
  rw [foldl_insert, Insert.ofCalls, Insert.ofCalls, List.foldl_append]
  rfl

theorem Query.finish_ofInsert {i : Insert} (h : i.conflict = none) :
    (Query.upsert (.ofInsert i)).finish = (Query.insert i).finish := by
  have hsame : { i with conflict := none } = i := by rw [← h]
  simp only [finish, Upsert.finish, Upsert.ofInsert, hsame]
  cases i.widthFault? <;> rfl

/-! ## Rows of the wrong width -/

section Mismatch
variable {d : Dialect} {expected found : Nat}

theorem Fault.not_isRefusal_mismatch : ¬(Fault.columnCountMismatch expected found).IsRefusal := id

/-- Rendering an INSERT reports the first row of the wrong width, whatever else could be said
against the statement. -/
theorem Insert.mismatch_iff {i : Insert} :
    ((Statement.insert i).render d).outcome = .error (.columnCountMismatch expected found) ↔
      i.widthFault? = some (.columnCountMismatch expected found) := by
  constructor
  · intro h
    obtain hrefusal | ⟨i', ⟨⟩, hwidth⟩ := Statement.render_error_cases d h
    · exact absurd hrefusal Fault.not_isRefusal_mismatch
    · exact hwidth
  · intro h
    rw [Statement.render, Statement.draft, Statement.draftIn, draft_of_widthFault? d _ h]
    rfl

theorem Query.mismatch_iff {q : Query} :
    q.finish.outcome = .error (.columnCountMismatch expected found) ↔
      q.widthFault? = some (.columnCountMismatch expected found) := by
  obtain ⟨e, hwidth, hfinish⟩ | ⟨e, hwidth, hrefusal, hfinish⟩ |
    ⟨events, s, hwidth, -, -, -, hfinish⟩ := q.finish_cases
  · simp [hwidth, hfinish, Logged.error]
  · have hother : e ≠ .columnCountMismatch expected found := fun h =>
      Fault.not_isRefusal_mismatch (h ▸ hrefusal)
    simp [hwidth, hfinish, Logged.error, hother]
  · simp [hwidth, hfinish]

/-- Rendering a completed statement finds no row of the wrong width any more. -/
theorem Query.build_mismatch_iff {q : Query} :
    (q.build d).outcome = .error (.columnCountMismatch expected found) ↔
      q.finish.outcome = .error (.columnCountMismatch expected found) := by
  rw [build, Logged.outcome_bind]
  obtain ⟨e, -, hfinish⟩ | ⟨e, -, -, hfinish⟩ | ⟨events, s, -, -, -, hwidths, hfinish⟩ :=
    q.finish_cases
  · simp [hfinish, Logged.error, Except.bind]
  · simp [hfinish, Logged.error, Except.bind]
  · rw [hfinish]
    refine iff_of_false (fun h => ?_) (fun h => by cases h)
    obtain hrefusal | ⟨i, rfl, hwidth⟩ := Statement.render_error_cases d h
    · exact Fault.not_isRefusal_mismatch hrefusal
    · rw [hwidths i rfl] at hwidth
      cases hwidth

end Mismatch

/-! ## Upserts and their INSERTs -/

/-- An INSERT that is turned into an upsert after some calls and gets the others then builds as the
INSERT with all of them. Of rows of the wrong width, building a query reports what completing it
reports, which is what rendering the INSERT as it stands would report. -/
theorem Upsert.builds_as_insert (d : Dialect) :
    (∀ (table : String) (before after : List Insert.Call),
      (Query.upsert ((after.map .insert).foldl apply (ofInsert (.ofCalls table before)))).build d =
        (Query.insert (.ofCalls table (before ++ after))).build d) ∧
    (∀ (q : Query) (expected found : Nat),
      (q.build d).outcome = .error (.columnCountMismatch expected found) ↔
        q.finish.outcome = .error (.columnCountMismatch expected found)) ∧
    (∀ (i : Insert) (expected found : Nat),
      (Query.insert i).finish.outcome = .error (.columnCountMismatch expected found) ↔
        ((Statement.insert i).render d).outcome = .error (.columnCountMismatch expected found)) ∧
    (∀ (u : Upsert) (expected found : Nat),
      (Query.upsert u).finish.outcome = .error (.columnCountMismatch expected found) ↔
        ((Statement.insert u.insert).render d).outcome =
          .error (.columnCountMismatch expected found)) := by
  refine ⟨fun table before after => ?_, fun q _ _ => Query.build_mismatch_iff, fun i _ _ => ?_,
    fun u _ _ => ?_⟩
  · rw [foldl_ofInsert, Query.build, Query.finish_ofInsert (Insert.conflict_ofCalls table _)]
    rfl
  · rw [Query.mismatch_iff, Insert.mismatch_iff]
    rfl
  · rw [Query.mismatch_iff, Insert.mismatch_iff]
    rfl

end PolySql
