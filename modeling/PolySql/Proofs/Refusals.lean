import PolySql.Proofs.Children

/-!
# What writing a statement may refuse and may note

Writing looks at a statement and a dialect and at nothing else. So it stops only at a refusal, a
fault about these two, or at a row of the wrong width in an INSERT; and it notes nothing but what
went unsaid.

* `Fault.IsRefusal`, `Event.IsOmission` : faults and events of the writing;
* `Draft.Modest` : drafts that stop at refusals only and note omissions only;
* `Expr.modest_draft`, `Insert.modest_draft` : expressions, and INSERT statements with rows of the
  right width;
* `Insert.draft_of_widthFault?` : an INSERT with a row of the wrong width comes to nothing else;
* `Statement.draft_cases`, `Statement.render_error_cases` : all statements;
* `Query.finish_cases` : what a query comes to when it is completed.
-/

namespace PolySql

/-- Faults about a statement and a dialect, the widths of rows apart. -/
def Fault.IsRefusal : Fault → Prop
  | .conflictTargetRequired _ | .emptyClause .. | .unsupported .. => True
  | .columnCountMismatch .. | .decode _ | .execution _ => False

/-- Events that say what went unsaid. -/
def Event.IsOmission : Event → Prop
  | .conflictTargetOmitted _ | .guardOmitted .. | .dropBehaviorOmitted .. => True
  | .conflictClauseBuilt .. | .executing .. | .returned _ => False

namespace Draft

/-- A draft that stops at refusals only and notes omissions only. -/
structure Modest (a : Draft) : Prop where
  fault : ∀ e ∈ a.fault, e.IsRefusal
  events : ∀ e ∈ a.events, e.IsOmission

variable {a b : Draft}

theorem Modest.of_plain (hfault : a.fault = none) (hevents : a.events = []) : a.Modest :=
  ⟨by simp [hfault], by simp [hevents]⟩

theorem modest_empty : empty.Modest := .of_plain rfl rfl

theorem modest_sql (text : String) : (sql text).Modest := .of_plain rfl rfl

theorem modest_name (n : String) : (name n).Modest := .of_plain rfl rfl

theorem modest_literal (l : Literal) : (literal l).Modest := .of_plain rfl rfl

theorem modest_bind (v : Value) : (bind v).Modest := .of_plain rfl rfl

theorem modest_note (e : Event) (h : e.IsOmission) : (note e).Modest :=
  ⟨by simp, by simpa [note] using h⟩

theorem modest_fail (e : Fault) (h : e.IsRefusal) : (fail e).Modest :=
  ⟨by simpa using h, by simp [fail]⟩

theorem modest_require (condition : Bool) (e : Fault) (h : e.IsRefusal) :
    (require condition e).Modest := by
  cases condition
  · exact modest_fail e h
  · exact modest_empty

theorem Modest.append (ha : a.Modest) (hb : b.Modest) : (a ++ b).Modest := by
  cases hf : a.fault with
  | some e =>
    rw [append_of_fault hf]
    exact ha
  | none =>
    have hevents : (a ++ b).events = a.events ++ b.events := by
      simp [append_def, Draft.append, hf]
    refine ⟨?_, ?_⟩
    · rw [fault_append, hf]
      exact hb.fault
    · rw [hevents]
      exact List.forall_mem_append.2 ⟨ha.events, hb.events⟩

theorem Modest.append_sql (ha : a.Modest) (text : String) : (a ++ sql text).Modest :=
  ha.append (modest_sql text)

theorem Modest.sql_append (ha : a.Modest) (text : String) : (sql text ++ a).Modest :=
  (modest_sql text).append ha

theorem Modest.only (ha : a.Modest) (condition : Bool) : (only condition a).Modest := by
  cases condition
  · exact modest_empty
  · exact ha

theorem Modest.parens (ha : a.Modest) : (parens a).Modest := (ha.sql_append "(").append_sql ")"

theorem Modest.parensIf (ha : a.Modest) (condition : Bool) : (parensIf condition a).Modest := by
  cases condition
  · exact ha
  · exact ha.parens

theorem Modest.qualified (ha : a.Modest) (table : Option String) :
    (qualified table a).Modest := by
  cases table with
  | none => exact ha
  | some t => exact ((modest_name t).append_sql ".").append ha

section Lists
variable {α : Type} {f : α → Draft}

theorem modest_all (xs : List α) (h : ∀ x ∈ xs, (f x).Modest) : (all (xs.map f)).Modest := by
  induction xs with
  | nil => exact modest_empty
  | cons x xs ih =>
    rw [List.forall_mem_cons] at h
    exact h.1.append (ih h.2)

theorem modest_joined (separator : String) (xs : List α) (h : ∀ x ∈ xs, (f x).Modest) :
    (joined separator (xs.map f)).Modest := by
  induction xs with
  | nil => exact modest_empty
  | cons x xs ih =>
    rw [List.forall_mem_cons] at h
    cases xs with
    | nil => exact h.1
    | cons y ys => exact h.1.append ((ih h.2).sql_append separator)

theorem modest_clause (keyword : String) (xs : List α) (h : ∀ x ∈ xs, (f x).Modest) :
    (clause keyword (xs.map f)).Modest := by
  cases xs with
  | nil => exact modest_empty
  | cons x xs => exact (modest_joined ", " (x :: xs) h).sql_append keyword

theorem modest_led (keyword : String) (x : Option α) (h : ∀ y ∈ x.toList, (f y).Modest) :
    (led keyword (x.map f)).Modest := by
  cases x with
  | none => exact modest_empty
  | some y => exact (h y (by simp)).sql_append keyword

end Lists

theorem modest_names (ns : List String) : (names ns).Modest :=
  modest_joined ", " ns fun n _ => modest_name n

end Draft

open Draft

variable (d : Dialect) (scope : Scope)

/-! ## Expressions -/

theorem Literal.modest_draft (l : Literal) : (l.draft d).Modest :=
  (modest_require _ _ (by trivial)).append (modest_literal l)

theorem Dialect.modest_excludedDraft (c : String) : (d.excludedDraft c).Modest := by
  unfold Dialect.excludedDraft
  cases d.upsertSyntax with
  | standard => exact ((modest_name _).append_sql ".").append (modest_name c)
  | mySql => exact ((modest_name c).sql_append "VALUES(").append_sql ")"
  | unsupported => exact modest_fail _ trivial

theorem Lock.modest_draft (l : Lock) : l.draft.Modest := by
  cases l with
  | raw text => exact (modest_sql text).sql_append " "
  | _ => exact modest_sql _

theorem Join.modest_draft_of {j : Join} (h : ∀ e ∈ j.exprs, (e.draft d scope).Modest) :
    (j.draft d scope).Modest := by
  rcases j with ⟨kind, table, condition⟩
  rw [Join.exprs, List.forall_mem_cons] at h
  have hkind := ((modest_sql " ").append_sql kind.text).append_sql " "
  simpa [Join.draft] using (hkind.append h.1).append (modest_led " ON " condition h.2)

theorem Order.modest_draft_of {o : Order} (h : (o.key.draft d scope).Modest) :
    (o.draft d scope).Modest := by
  rcases o with ⟨key, direction⟩
  exact (h.append_sql " ").append_sql direction.text

theorem Select.modest_draft_of {s : Select} (h : ∀ e ∈ s.exprs, (e.draft d scope).Modest) :
    (s.draft d scope).Modest := by
  rcases s with
    ⟨distinct, columns, sources, joins, condition, groupBy, having, orderBy, limit, offset, lock⟩
  simp only [Select.exprs, List.forall_mem_append, List.forall_mem_flatMap, List.forall_mem_map]
    at h
  obtain ⟨⟨⟨⟨⟨⟨hcolumns, hsources⟩, hjoins⟩, hcondition⟩, hgroupBy⟩, hhaving⟩, horderBy⟩ := h
  have hlist : (if columns.isEmpty then sql "*"
      else joined ", " (columns.map (Expr.draft d scope))).Modest := by
    split
    · exact modest_sql "*"
    · exact modest_joined ", " columns hcolumns
  have hstart := (((modest_sql "DISTINCT ").only distinct).sql_append "SELECT ").append hlist
  have hjoins' := modest_all joins fun j hj => Join.modest_draft_of d scope (hjoins j hj)
  have hread := ((hstart.append (modest_clause " FROM " sources hsources)).append hjoins').append
    (modest_led " WHERE " condition hcondition)
  have hgrouped := (hread.append (modest_clause " GROUP BY " groupBy hgroupBy)).append
    (modest_led " HAVING " having hhaving)
  have hordered := hgrouped.append (modest_clause " ORDER BY " orderBy fun o ho =>
    Order.modest_draft_of d scope (horderBy o ho))
  have hlimit := hordered.append (modest_led " LIMIT " (f := number) limit fun n _ => modest_sql _)
  have hcut := hlimit.append (modest_led " OFFSET " (f := number) offset fun n _ => modest_sql _)
  simpa [Select.draft] using hcut.append (modest_all lock.toList fun l _ => l.modest_draft)

theorem Piece.modest_draft_of {p : Piece} (h : ∀ e ∈ p.expr?, (e.draft d scope).Modest) :
    (p.draft d scope).Modest := by
  cases p with
  | sql text => exact modest_sql text
  | bind v => exact modest_bind v
  | name n => exact modest_name n
  | expr inner => exact h inner rfl

theorem Expr.modest_draft (e : Expr) : (e.draft d scope).Modest := by
  induction e using Expr.children_induction with
  | step e ih =>
    cases e with
    | name n => exact modest_name n
    | column table n => exact (modest_name n).qualified table
    | star table => exact (modest_sql "*").qualified table
    | literal l => exact l.modest_draft d
    | bind v => exact modest_bind v
    | raw pieces =>
      simpa [Expr.draft] using modest_all pieces fun p hp => Piece.modest_draft_of d scope
        fun e he => ih e (List.mem_filterMap.2 ⟨p, hp, he⟩)
    | call function arguments distinct =>
      have hstart := ((modest_sql function).append_sql "(").append
        ((modest_sql "DISTINCT ").only distinct)
      simpa [Expr.draft] using (hstart.append (modest_joined ", " arguments ih)).append_sql ")"
    | binary left op right =>
      have hleft := (ih left (by simp [children])).parensIf (left.parensUnder op false)
      have hright := (ih right (by simp [children])).parensIf (right.parensUnder op true)
      exact (((hleft.append_sql " ").append_sql op.text).append_sql " ").append hright
    | unary op operand =>
      exact ((ih operand (by simp [children])).parensIf (operand.parensAfter op)).sql_append op.text
    | list items separator => simpa [Expr.draft] using modest_joined separator items ih
    | group inner => exact (ih inner (by simp [children])).parens
    | aliased inner n =>
      exact ((ih inner (by simp [children])).append_sql " AS ").append (modest_name n)
    | isNull tested negated => exact (ih tested (by simp [children])).append_sql _
    | isIn tested items negated =>
      rw [children, List.forall_mem_cons] at ih
      have htested := ((modest_require (!items.isEmpty) (.emptyClause scope .inList)
        trivial).append ih.1).append_sql (if negated then " NOT IN (" else " IN (")
      simpa [Expr.draft] using (htested.append (modest_joined ", " items ih.2)).append_sql ")"
    | between tested low high negated =>
      have hlow := ((ih tested (by simp [children])).append_sql
        (if negated then " NOT BETWEEN " else " BETWEEN ")).append (ih low (by simp [children]))
      exact (hlow.append_sql " AND ").append (ih high (by simp [children]))
    | subquery select => exact (Select.modest_draft_of d scope ih).parens
    | excluded c => exact d.modest_excludedDraft c
    | default => exact modest_sql "DEFAULT"

theorem Select.modest_draft (s : Select) : (s.draft d scope).Modest :=
  Select.modest_draft_of d scope fun e _ => e.modest_draft d scope

/-! ## Clauses of other statements -/

theorem modest_led_condition (condition : Option Expr) :
    (led " WHERE " (condition.map (Expr.draft d scope))).Modest :=
  modest_led " WHERE " condition fun e _ => e.modest_draft d scope

theorem Assignment.modest_listDraft (as : List Assignment) : (listDraft d scope as).Modest :=
  modest_joined ", " as fun a _ =>
    ((modest_name a.column).append_sql " = ").append (a.value.modest_draft d scope)

theorem Conflict.modest_checks (c : Conflict) : (c.checks d).Modest := by
  unfold Conflict.checks
  cases d.upsertSyntax with
  | unsupported => exact modest_fail _ trivial
  | standard =>
    refine (modest_require _ _ (by trivial)).append ?_
    cases c.action with
    | doNothing => exact modest_empty
    | doUpdate assignments condition =>
      exact (modest_require _ _ (by trivial)).append (modest_require _ _ (by trivial))
  | mySql =>
    have hnote := (modest_note (.conflictTargetOmitted d.name) trivial).only
      (!c.target.columns.isEmpty)
    refine ((modest_require _ _ (by trivial)).append hnote).append ?_
    cases c.action with
    | doNothing => exact modest_empty
    | doUpdate assignments condition =>
      exact (modest_require _ _ (by trivial)).append (modest_require _ _ (by trivial))

theorem Conflict.modest_targetDraft (t : ConflictTarget) : (targetDraft d scope t).Modest := by
  unfold Conflict.targetDraft
  split
  · exact modest_empty
  · exact (((modest_names t.columns).sql_append " (").append_sql ")").append
      (modest_led_condition d scope t.condition)

theorem Conflict.modest_draft (c : Conflict) : (c.draft d scope).Modest := by
  rcases c with ⟨target, action⟩
  have htarget := (modest_targetDraft d scope target).sql_append " ON CONFLICT"
  unfold Conflict.draft
  cases d.upsertSyntax with
  | unsupported => exact modest_fail _ trivial
  | standard =>
    cases action with
    | doNothing => exact htarget.append_sql " DO NOTHING"
    | doUpdate assignments condition =>
      exact ((htarget.append_sql " DO UPDATE  SET ").append
        (Assignment.modest_listDraft d scope assignments)).append
          (modest_led_condition d scope condition)
  | mySql =>
    cases action with
    | doNothing => exact modest_empty
    | doUpdate assignments condition =>
      exact (Assignment.modest_listDraft d scope assignments).sql_append _

theorem Dialect.modest_returningCheck (es : List Expr) : (d.returningCheck es).Modest :=
  modest_require _ _ trivial

theorem Dialect.modest_returningDraft (es : List Expr) : (d.returningDraft scope es).Modest :=
  (d.modest_returningCheck es).append
    (modest_clause " RETURNING " es fun e _ => e.modest_draft d scope)

theorem Dialect.modest_guardDraft (wanted : Bool) (guard : String) :
    (only wanted (d.guardDraft guard)).Modest := by
  refine Modest.only ?_ wanted
  unfold Dialect.guardDraft
  split
  · exact (modest_sql guard).append_sql " "
  · exact modest_note _ trivial

/-! ## Statements that change rows -/

/-- Rows of the wrong width are found before anything is written. -/
theorem Insert.draft_of_widthFault? {i : Insert} {e : Fault} (h : i.widthFault? = some e) :
    i.draft d scope = fail e := by
  have hrows : i.rows.isEmpty = false := by
    cases hrows : i.rows with
    | nil => simp [widthFault?, hrows] at h
    | cons row rows => rfl
  have hchecks : require (!i.rows.isEmpty) (.emptyClause (.statement .insert) .valuesRows) ++
      all (i.widthFault?.toList.map fail) = fail e := by
    simp [hrows, h, require, all]
  rw [Insert.draft, hchecks]
  simp only [append_assoc]
  exact append_of_fault rfl _

theorem Insert.modest_draft {i : Insert} (h : i.widthFault? = none) :
    (i.draft d scope).Modest := by
  have hwidths : (all (i.widthFault?.toList.map fail)).Modest := by
    rw [h]
    exact modest_empty
  have hchecks := ((modest_require (!i.rows.isEmpty)
    (.emptyClause (.statement .insert) .valuesRows) trivial).append hwidths).append
      (modest_all i.conflict.toList fun c _ => c.modest_checks d)
  have hcolumns : (only (!i.columns.isEmpty)
      (sql " (" ++ names i.columns ++ sql ")")).Modest :=
    (((modest_names i.columns).sql_append " (").append_sql ")").only _
  have htable := ((hchecks.append_sql (if i.conflict.any (Conflict.becomesIgnore d)
    then "INSERT IGNORE INTO " else "INSERT INTO ")).append (modest_name i.table)).append hcolumns
  have hrows := (htable.append_sql " VALUES ").append
    (modest_joined ", " i.rows fun row _ =>
      (modest_joined ", " row fun e _ => e.modest_draft d scope).parens)
  exact (hrows.append (modest_all i.conflict.toList fun c _ => c.modest_draft d scope)).append
    (d.modest_returningDraft scope i.returning)

theorem Update.modest_draft (u : Update) : (u.draft d scope).Modest := by
  have hchecks := (modest_require (!u.assignments.isEmpty)
    (.emptyClause (.statement .update) .setAssignments) trivial).append
      (d.modest_returningCheck u.returning)
  have hset := (((hchecks.append_sql "UPDATE ").append (modest_name u.table)).append_sql
    " SET ").append (Assignment.modest_listDraft d scope u.assignments)
  exact (hset.append (modest_led_condition d scope u.condition)).append
    (d.modest_returningDraft scope u.returning)

theorem Delete.modest_draft (x : Delete) : (x.draft d scope).Modest := by
  have htable := ((d.modest_returningCheck x.returning).append_sql "DELETE FROM ").append
    (modest_name x.table)
  exact (htable.append (modest_led_condition d scope x.condition)).append
    (d.modest_returningDraft scope x.returning)

/-! ## Statements about tables -/

theorem Reference.modest_draft (r : Reference) : r.draft.Modest := by
  have hcolumns := ((((modest_name r.table).sql_append "REFERENCES ").append_sql " (").append
    (modest_names r.columns)).append_sql ")"
  exact (hcolumns.append (modest_led " ON DELETE " r.onDelete fun a _ => modest_sql a.text)).append
    (modest_led " ON UPDATE " r.onUpdate fun a _ => modest_sql a.text)

theorem ColumnConstraint.modest_draft (k : ColumnConstraint) : (k.draft d scope).Modest := by
  cases k with
  | primaryKey auto =>
    have hkeyword := ((modest_require d.autoIncrement
      (.unsupported d.name .autoIncrement) trivial).append_sql " ").append_sql
        d.autoIncrementKeyword
    exact (hkeyword.only auto).sql_append "PRIMARY KEY"
  | default value => exact (value.modest_draft d scope).sql_append "DEFAULT "
  | check condition => exact ((condition.modest_draft d scope).sql_append "CHECK (").append_sql ")"
  | references reference => exact reference.modest_draft
  | collate collation => exact (modest_sql collation).sql_append "COLLATE "
  | _ => exact modest_sql _

theorem ColumnDefinition.modest_draft (c : ColumnDefinition) : (c.draft d scope).Modest :=
  (((modest_name c.name).append_sql " ").append_sql c.type.spelled).append
    (modest_all c.constraints fun k _ => (k.modest_draft d scope).sql_append " ")

theorem TableConstraint.modest_draft (c : TableConstraint) : (c.draft d scope).Modest := by
  have hrule : (c.rule.draft d scope).Modest := by
    cases c.rule with
    | primaryKey columns => exact ((modest_names columns).sql_append "PRIMARY KEY (").append_sql ")"
    | unique columns => exact ((modest_names columns).sql_append "UNIQUE (").append_sql ")"
    | check condition =>
      exact ((condition.modest_draft d scope).sql_append "CHECK (").append_sql ")"
    | foreignKey columns reference =>
      exact (((modest_names columns).sql_append "FOREIGN KEY (").append_sql ") ").append
        reference.modest_draft
  exact (modest_led "CONSTRAINT " c.name fun n _ => (modest_name n).append_sql " ").append hrule

theorem CreateTable.modest_draft (t : CreateTable) : (t.draft d scope).Modest := by
  have hstart := (((modest_require (!t.columns.isEmpty)
    (.emptyClause (.statement .createTable) .columnDefinitions) trivial).append_sql
      "CREATE ").append ((modest_sql "TEMPORARY ").only t.temporary)).append_sql "TABLE "
  have hname := ((hstart.append (d.modest_guardDraft t.ifNotExists "IF NOT EXISTS")).append
    (modest_name t.name)).append_sql " ("
  have hcolumns := hname.append (modest_joined ", " t.columns fun c _ => c.modest_draft d scope)
  exact (hcolumns.append (modest_all t.constraints fun c _ =>
    (c.modest_draft d scope).sql_append ", ")).append_sql ")"

theorem AlterTable.modest_draft (t : AlterTable) : (t.draft d scope).Modest := by
  have haction (a : Action) : (a.draft d scope).Modest := by
    cases a with
    | addColumn c => exact (c.modest_draft d scope).sql_append "ADD COLUMN "
    | dropColumn n => exact (modest_name n).sql_append "DROP COLUMN "
    | renameColumn old new =>
      exact (((modest_name old).sql_append "RENAME COLUMN ").append_sql " TO ").append
        (modest_name new)
    | renameTo n => exact (modest_name n).sql_append "RENAME TO "
  have hchecks := (modest_require (!t.actions.isEmpty)
    (.emptyClause (.statement .alterTable) .alterActions) trivial).append
      (modest_require (t.actions.length ≤ 1 || d.multipleAlterActions)
        (.unsupported d.name .multipleAlterActions) trivial)
  have hname := ((hchecks.append_sql "ALTER TABLE ").append (modest_name t.name)).append_sql " "
  exact hname.append (modest_joined ", " t.actions fun a _ => haction a)

theorem DropTable.modest_draft (t : DropTable) : (t.draft d).Modest := by
  have hbehavior (b : Behavior) : (b.draft d).Modest := by
    unfold Behavior.draft
    split
    · exact (modest_sql b.text).sql_append " "
    · exact modest_note _ trivial
  have hstart := (modest_require (!t.names.isEmpty)
    (.emptyClause (.statement .dropTable) .tableNames) trivial).append_sql "DROP TABLE "
  have hnames := (hstart.append (d.modest_guardDraft t.ifExists "IF EXISTS")).append
    (modest_names t.names)
  exact hnames.append (modest_all t.behavior.toList fun b _ => hbehavior b)

/-! ## All statements -/

/-- Only an INSERT with a row of the wrong width has a draft that is not modest, and that draft is
the fault alone. -/
theorem Statement.draft_cases (s : Statement) :
    (s.draft d).Modest ∨
      ∃ i e, s = .insert i ∧ i.widthFault? = some e ∧ s.draft d = fail e := by
  cases s with
  | insert i =>
    cases h : i.widthFault? with
    | none => exact .inl (Insert.modest_draft d _ h)
    | some e => exact .inr ⟨i, e, rfl, h, Insert.draft_of_widthFault? d _ h⟩
  | select s => exact .inl (s.modest_draft d _)
  | update u => exact .inl (u.modest_draft d _)
  | delete x => exact .inl (x.modest_draft d _)
  | createTable t => exact .inl (t.modest_draft d _)
  | alterTable t => exact .inl (t.modest_draft d _)
  | dropTable t => exact .inl (t.modest_draft d)
  | raw e => exact .inl (e.modest_draft d _)

theorem Insert.isMismatch_of_widthFault? {i : Insert} {e : Fault} (h : i.widthFault? = some e) :
    ∃ expected found, e = .columnCountMismatch expected found := by
  unfold widthFault? at h
  split at h
  · cases h
  · obtain ⟨row, -, rfl⟩ := Option.map_eq_some_iff.1 h
    exact ⟨_, _, rfl⟩

/-- The fault of a rendering is a refusal, or the wrong width of a row. -/
theorem Statement.render_error_cases {s : Statement} {e : Fault}
    (h : (s.render d).outcome = .error e) :
    e.IsRefusal ∨ ∃ i, s = .insert i ∧ i.widthFault? = some e := by
  have hfault : (s.draft d).fault = some e := by
    rw [Statement.render, Draft.finish] at h
    split at h <;> simp_all
  obtain hmodest | ⟨i, e', hs, he', hdraft⟩ := s.draft_cases d
  · exact .inl (hmodest.fault e hfault)
  · rw [hdraft] at hfault
    obtain rfl : e' = e := Option.some.inj hfault
    exact .inr ⟨i, hs, he'⟩

/-! ## Completing a query -/

/-- The kind of the statement under construction. -/
def Query.kind : Query → StatementKind
  | .select _ => .select
  | .insert _ | .upsert _ => .insert
  | .update _ => .update
  | .delete _ => .delete
  | .createTable _ => .createTable
  | .alterTable _ => .alterTable
  | .dropTable _ => .dropTable
  | .raw _ => .raw

/-- The fault of the rows that a query would insert. -/
def Query.widthFault? : Query → Option Fault
  | .insert i => i.widthFault?
  | .upsert u => u.insert.widthFault?
  | _ => none

theorem Query.isMismatch_of_widthFault? {q : Query} {e : Fault} (h : q.widthFault? = some e) :
    ∃ expected found, e = .columnCountMismatch expected found := by
  cases q with
  | insert i => exact Insert.isMismatch_of_widthFault? h
  | upsert u => exact Insert.isMismatch_of_widthFault? (i := u.insert) h
  | _ => cases h

/-- The event of a conflict clause that is there. -/
def Event.IsConflict : Event → Prop
  | .conflictClauseBuilt .. => True
  | _ => False

/-- An upsert with rows of the right width comes to a refusal, or to its INSERT with some conflict
clause. -/
theorem Upsert.finish_cases {u : Upsert} (h : u.insert.widthFault? = none) :
    (∃ e, e.IsRefusal ∧ u.finish = .error e) ∨
      ∃ events conflict, (∀ e ∈ events, e.IsConflict) ∧
        u.finish = ⟨events, .ok { u.insert with conflict }⟩ := by
  rcases u with ⟨i, target, action⟩
  simp only [Upsert.finish, h]
  cases action with
  | some action =>
    refine .inr ⟨[.conflictClauseBuilt i.table target.isSome], some ⟨target.getD {}, action⟩,
      by simp [Event.IsConflict], ?_⟩
    cases target <;> rfl
  | none =>
    cases target with
    | some target => exact .inl ⟨_, by trivial, rfl⟩
    | none => exact .inr ⟨[], none, by simp, rfl⟩

/-- A query comes to the fault of its rows, to a refusal, or to a statement of its kind whose rows
have the right width. -/
theorem Query.finish_cases (q : Query) :
    (∃ e, q.widthFault? = some e ∧ q.finish = .error e) ∨
      (∃ e, q.widthFault? = none ∧ e.IsRefusal ∧ q.finish = .error e) ∨
      ∃ events s, q.widthFault? = none ∧ (∀ e ∈ events, e.IsConflict) ∧ s.kind = q.kind ∧
        (∀ i, s = .insert i → i.widthFault? = none) ∧ q.finish = ⟨events, .ok s⟩ := by
  cases q with
  | insert i =>
    cases h : i.widthFault? with
    | some e => exact .inl ⟨e, h, by rw [finish, h]⟩
    | none =>
      refine .inr (.inr ⟨[], .insert i, h, by simp, rfl, ?_, by rw [finish, h]; rfl⟩)
      rintro _ ⟨⟩
      exact h
  | upsert u =>
    cases h : u.insert.widthFault? with
    | some e => exact .inl ⟨e, h, by simp only [finish, Upsert.finish, h]; rfl⟩
    | none =>
      obtain ⟨e, he, hfinish⟩ | ⟨events, conflict, hevents, hfinish⟩ := Upsert.finish_cases h
      · exact .inr (.inl ⟨e, h, he, by rw [finish, hfinish]; rfl⟩)
      · refine .inr (.inr ⟨events ++ [], .insert { u.insert with conflict }, h, by simpa, rfl, ?_,
          by rw [finish, hfinish]; rfl⟩)
        rintro _ ⟨⟩
        exact h
  | _ => exact .inr (.inr ⟨[], _, rfl, by simp, rfl, by simp, rfl⟩)

end PolySql
