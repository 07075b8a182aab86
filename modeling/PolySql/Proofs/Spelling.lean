import PolySql.Proofs.Leaves

/-!
# A draft says the leaves in their order

Whatever is written, its names, literals and binds are the leaves of the tree, in order: all of
them unless the writing stops, and then those in front of that place. The one part that is not
written although it is there is what a conflict clause holds beyond the forms of the dialect, and
then the checks in front of the statement have stopped the writing already.

* `Expr.draft_spells`, `Select.draft_spells` : expressions and SELECT statements;
* `Conflict.draft_spells` : conflict clauses that pass the checks;
* `Statement.draftIn_spells` : all statements.
-/

namespace PolySql

open Draft

variable (d : Dialect) (scope : Scope)

/-! ## Expressions -/

theorem Literal.draft_spells (l : Literal) : (l.draft d).Spells d.upsertSyntax [.literal l] :=
  (spells_require _ _).append (spells_literal l)

theorem Dialect.excludedDraft_spells (c : String) :
    (d.excludedDraft c).Spells d.upsertSyntax [.excluded c] := by
  unfold Dialect.excludedDraft
  cases h : d.upsertSyntax with
  | standard => exact .of_atoms rfl
  | mySql => exact .of_atoms rfl
  | unsupported => exact spells_fail _ _

theorem Lock.draft_spells (l : Lock) : l.draft.Spells d.upsertSyntax [] := by
  cases l with
  | update => exact spells_sql _
  | share => exact spells_sql _
  | raw text => exact (spells_sql " ").append (spells_sql text)

theorem Lock.draft?_spells (l : Option Lock) :
    (all (l.toList.map Lock.draft)).Spells d.upsertSyntax [] := by
  cases l with
  | none => exact spells_empty
  | some l => simpa [all] using l.draft_spells d

theorem spells_led_number (keyword : String) (n : Option Nat) :
    (led keyword (n.map number)).Spells d.upsertSyntax [] := by
  cases n with
  | none => exact spells_empty
  | some n => exact (spells_sql _).sql_append keyword

theorem Join.draft_spells_of {j : Join}
    (h : ∀ e ∈ j.exprs, (e.draft d scope).Spells d.upsertSyntax e.leaves) :
    (j.draft d scope).Spells d.upsertSyntax (j.exprs.flatMap Expr.leaves) := by
  rcases j with ⟨kind, table, condition⟩
  rw [Join.exprs, List.forall_mem_cons] at h
  have hkind := ((spells_sql (u := d.upsertSyntax) " ").append_sql kind.text).append_sql " "
  have hcondition := spells_led " ON " condition h.2
  simpa [Join.draft, Join.exprs] using (hkind.append h.1).append hcondition

theorem Order.draft_spells_of {o : Order}
    (h : (o.key.draft d scope).Spells d.upsertSyntax o.key.leaves) :
    (o.draft d scope).Spells d.upsertSyntax o.key.leaves := by
  rcases o with ⟨key, direction⟩
  exact (h.append_sql " ").append_sql direction.text

theorem Select.draft_spells_of {s : Select}
    (h : ∀ e ∈ s.exprs, (e.draft d scope).Spells d.upsertSyntax e.leaves) :
    (s.draft d scope).Spells d.upsertSyntax s.leaves := by
  rcases s with
    ⟨distinct, columns, sources, joins, condition, groupBy, having, orderBy, limit, offset, lock⟩
  simp only [Select.exprs, List.forall_mem_append, List.forall_mem_flatMap, List.forall_mem_map]
    at h
  obtain ⟨⟨⟨⟨⟨⟨hcolumns, hsources⟩, hjoins⟩, hcondition⟩, hgroupBy⟩, hhaving⟩, horderBy⟩ := h
  have hstart := (spells_only_sql (u := d.upsertSyntax) distinct "DISTINCT ").sql_append "SELECT "
  have hlist : (if columns.isEmpty then sql "*"
      else joined ", " (columns.map (Expr.draft d scope))).Spells d.upsertSyntax
        (columns.flatMap Expr.leaves) := by
    cases columns with
    | nil => exact spells_sql "*"
    | cons e es => exact spells_joined ", " _ hcolumns
  have hjoins' := spells_all (f := Join.draft d scope) joins fun j hj =>
    Join.draft_spells_of d scope (hjoins j hj)
  have horderBy' := spells_clause (f := Order.draft d scope) " ORDER BY " orderBy fun o ho =>
    Order.draft_spells_of d scope (horderBy o ho)
  have hread := (((hstart.append hlist).append (spells_clause " FROM " _ hsources)).append
    hjoins').append (spells_led " WHERE " _ hcondition)
  have hgrouped := (hread.append (spells_clause " GROUP BY " _ hgroupBy)).append
    (spells_led " HAVING " _ hhaving)
  have hwhole := (((hgrouped.append horderBy').append
    (spells_led_number d " LIMIT " limit)).append
      (spells_led_number d " OFFSET " offset)).append (Lock.draft?_spells d lock)
  simpa [Select.draft, Select.leaves, Select.exprs, List.flatMap_assoc, List.flatMap_map]
    using hwhole

theorem Piece.draft_spells_of {p : Piece}
    (h : ∀ e ∈ p.expr?.toList, (e.draft d scope).Spells d.upsertSyntax e.leaves) :
    (p.draft d scope).Spells d.upsertSyntax (p.expr?.toList.flatMap Expr.leaves) := by
  cases p with
  | sql text => exact spells_sql text
  | bind v => simpa [Piece.expr?, Piece.draft, Expr.draft] using h (.bind v)
  | name n => simpa [Piece.expr?, Piece.draft, Expr.draft] using h (.name n)
  | expr inner => simpa [Piece.expr?, Piece.draft] using h inner

theorem Expr.draft_spells (e : Expr) : (e.draft d scope).Spells d.upsertSyntax e.leaves := by
  induction e using Expr.children_induction with
  | step e ih =>
    rw [Expr.leaves_eq]
    cases e with
    | name n => exact spells_name n
    | column table n => simpa [leavesBefore, leavesAfter, children, Expr.draft] using
        (spells_name n).qualified table
    | star table => simpa [leavesBefore, leavesAfter, children, Expr.draft] using
        (spells_sql "*").qualified table
    | literal l => exact l.draft_spells d
    | bind v => exact spells_bind v
    | raw pieces =>
      have hpieces := spells_all pieces fun p hp =>
        Piece.draft_spells_of d scope fun e he =>
          ih e (List.mem_filterMap.2 ⟨p, hp, Option.mem_toList.1 he⟩)
      have hflat : pieces.flatMap (fun p => p.expr?.toList.flatMap leaves) =
          (pieces.filterMap Piece.expr?).flatMap leaves := by
        rw [List.filterMap_eq_flatMap_toList, List.flatMap_assoc]
      rw [hflat] at hpieces
      simpa [leavesBefore, leavesAfter, children, Expr.draft] using hpieces
    | call function arguments distinct =>
      have hstart := ((spells_sql (u := d.upsertSyntax) function).append_sql "(").append
        (spells_only_sql distinct "DISTINCT ")
      simpa [leavesBefore, leavesAfter, children, Expr.draft] using
        (hstart.append (spells_joined ", " _ ih)).append_sql ")"
    | binary left op right =>
      have hleft := (ih left (by simp [children])).parensIf (left.parensUnder op false)
      have hright := (ih right (by simp [children])).parensIf (right.parensUnder op true)
      simpa [leavesBefore, leavesAfter, children, Expr.draft] using
        (((hleft.append_sql " ").append_sql op.text).append_sql " ").append hright
    | unary op operand =>
      have hoperand := (ih operand (by simp [children])).parensIf (operand.parensAfter op)
      simpa [leavesBefore, leavesAfter, children, Expr.draft] using hoperand.sql_append op.text
    | list items separator =>
      simpa [leavesBefore, leavesAfter, children, Expr.draft] using
        spells_joined separator _ ih
    | group inner =>
      simpa [leavesBefore, leavesAfter, children, Expr.draft] using
        (ih inner (by simp [children])).parens
    | aliased inner n =>
      simpa [leavesBefore, leavesAfter, children, Expr.draft] using
        ((ih inner (by simp [children])).append_sql " AS ").append (spells_name n)
    | isNull tested negated =>
      simpa [leavesBefore, leavesAfter, children, Expr.draft] using
        (ih tested (by simp [children])).append_sql
          (if negated then " IS NOT NULL" else " IS NULL")
    | isIn tested items negated =>
      rw [children, List.forall_mem_cons] at ih
      have htested := ((spells_require (!items.isEmpty) (.emptyClause scope .inList)).append
        ih.1).append_sql (if negated then " NOT IN (" else " IN (")
      simpa [leavesBefore, leavesAfter, children, Expr.draft] using
        (htested.append (spells_joined ", " _ ih.2)).append_sql ")"
    | between tested low high negated =>
      have htested := (ih tested (by simp [children])).append_sql
        (if negated then " NOT BETWEEN " else " BETWEEN ")
      have hlow := (htested.append (ih low (by simp [children]))).append_sql " AND "
      simpa [leavesBefore, leavesAfter, children, Expr.draft] using
        hlow.append (ih high (by simp [children]))
    | subquery select =>
      simpa [leavesBefore, leavesAfter, children, Expr.draft, Select.leaves] using
        (Select.draft_spells_of d scope ih).parens
    | excluded column => exact d.excludedDraft_spells column
    | default => exact spells_sql "DEFAULT"

theorem Select.draft_spells (s : Select) : (s.draft d scope).Spells d.upsertSyntax s.leaves :=
  Select.draft_spells_of d scope fun e _ => e.draft_spells d scope

theorem spells_led_condition (condition : Option Expr) :
    (led " WHERE " (condition.map (Expr.draft d scope))).Spells d.upsertSyntax
      (condition.toList.flatMap Expr.leaves) :=
  spells_led " WHERE " condition fun e _ => e.draft_spells d scope

/-! ## Conflict clauses -/

theorem Assignment.draft_spells (a : Assignment) :
    (a.draft d scope).Spells d.upsertSyntax a.leaves :=
  ((spells_name a.column).append_sql " = ").append (a.value.draft_spells d scope)

theorem Assignment.listDraft_spells (as : List Assignment) :
    (listDraft d scope as).Spells d.upsertSyntax (as.flatMap leaves) :=
  spells_joined ", " as fun a _ => a.draft_spells d scope

theorem Conflict.checks_spells (c : Conflict) : (c.checks d).Spells d.upsertSyntax [] := by
  unfold Conflict.checks
  cases d.upsertSyntax with
  | standard =>
    refine (spells_require _ _).append ?_
    cases c.action with
    | doNothing => exact spells_empty
    | doUpdate assignments condition => exact (spells_require _ _).append (spells_require _ _)
  | mySql =>
    have honly : (only (!c.target.columns.isEmpty) (note (.conflictTargetOmitted d.name))).Spells
        .mySql [] := by
      cases c.target.columns.isEmpty
      · exact spells_note _
      · exact spells_empty
    refine ((spells_require _ _).append honly).append ?_
    cases c.action with
    | doNothing => exact spells_empty
    | doUpdate assignments condition => exact (spells_require _ _).append (spells_require _ _)
  | unsupported => exact spells_fail _ _

/-- A target that passes the checks of the standard form has columns if it has a condition. -/
theorem Conflict.targetDraft_spells (t : ConflictTarget) (hu : d.upsertSyntax = .standard)
    (h : t.columns = [] → t.condition = none) :
    (targetDraft d scope t).Spells d.upsertSyntax
      (t.columns.map .target ++ t.condition.toList.flatMap Expr.leaves) := by
  rcases t with ⟨columns, condition⟩
  cases columns with
  | nil =>
    obtain rfl : condition = none := h rfl
    exact spells_empty
  | cons c cs =>
    have hcolumns : (names (c :: cs)).Spells d.upsertSyntax ((c :: cs).map .target) := by
      rw [List.map_eq_flatMap]
      exact spells_joined ", " (c :: cs) fun c _ =>
        .of_atoms (by simp [name, Token.atoms, Leaf.tokens, hu])
    have hcondition := spells_led_condition d scope condition
    exact ((hcolumns.sql_append " (").append_sql ")").append hcondition

/-- Columns of a target go unsaid where unique keys decide what conflicts. -/
theorem spells_empty_target (columns : List String) :
    empty.Spells .mySql (columns.map .target) :=
  .of_atoms (by simp [empty, Token.atoms, List.flatMap_map, Leaf.tokens])

/-- A clause that passes the checks is said in full, whatever the form. -/
theorem Conflict.draft_spells (c : Conflict) (h : (c.checks d).fault = none) :
    (c.draft d scope).Spells d.upsertSyntax c.leaves := by
  rcases c with ⟨target, action⟩
  have hassignments := Assignment.listDraft_spells d scope
  cases hu : d.upsertSyntax with
  | unsupported => simp [checks, hu] at h
  | standard =>
    have htarget := targetDraft_spells d scope target hu fun hc => by
      simp only [checks, hu, standardChecks, fault_append, fault_require] at h
      cases hcondition : target.condition <;> simp [hc, hcondition] at h ⊢
    rw [hu] at htarget hassignments
    cases action with
    | doNothing =>
      simpa [Conflict.draft, hu, leaves, ConflictAction.leaves] using
        (htarget.sql_append " ON CONFLICT").append_sql " DO NOTHING"
    | doUpdate assignments condition =>
      have hcondition := spells_led_condition d scope condition
      rw [hu] at hcondition
      have hstart := (htarget.sql_append " ON CONFLICT").append_sql " DO UPDATE  SET "
      simpa [Conflict.draft, hu, leaves, ConflictAction.leaves] using
        (hstart.append (hassignments assignments)).append hcondition
  | mySql =>
    have htarget : target.condition = none := by
      cases hcondition : target.condition <;>
        simp [checks, hu, uniqueKeyChecks, fault_append, hcondition] at h ⊢
    rw [hu] at hassignments
    cases action with
    | doNothing =>
      simpa [Conflict.draft, hu, leaves, ConflictAction.leaves, htarget] using
        spells_empty_target target.columns
    | doUpdate assignments condition =>
      have hcondition : condition = none := by
        cases condition <;> simp [checks, hu, uniqueKeyChecks, fault_append, htarget] at h ⊢
      have hset := (hassignments assignments).sql_append " ON DUPLICATE KEY UPDATE "
      simpa [Conflict.draft, hu, leaves, ConflictAction.leaves, htarget, hcondition] using
        (spells_empty_target target.columns).append hset

/-! ## Statements -/

theorem Dialect.returningDraft_spells (es : List Expr) :
    (d.returningDraft scope es).Spells d.upsertSyntax (es.flatMap Expr.leaves) :=
  (spells_require _ _).append (spells_clause " RETURNING " es fun e _ => e.draft_spells d scope)

theorem Dialect.returningCheck_spells (es : List Expr) :
    (d.returningCheck es).Spells d.upsertSyntax [] := spells_require _ _

theorem Insert.rowDraft_spells (row : List Expr) :
    (rowDraft d scope row).Spells d.upsertSyntax (row.flatMap Expr.leaves) :=
  (spells_joined ", " row fun e _ => e.draft_spells d scope).parens

theorem Insert.columns_spells (columns : List String) :
    (only (!columns.isEmpty) (sql " (" ++ names columns ++ sql ")")).Spells d.upsertSyntax
      (columns.map .name) := by
  cases columns with
  | nil => exact spells_empty
  | cons c cs => exact ((spells_names (c :: cs)).sql_append " (").append_sql ")"

/-- What can be said against an INSERT before its text. -/
def Insert.checks (d : Dialect) (i : Insert) : Draft :=
  require (!i.rows.isEmpty) (.emptyClause (.statement .insert) .valuesRows) ++
    all (i.widthFault?.toList.map fail) ++ all (i.conflict.toList.map (Conflict.checks d))

theorem Insert.checks_spells (i : Insert) : (i.checks d).Spells d.upsertSyntax [] := by
  have hwidth : (all (i.widthFault?.toList.map fail)).Spells d.upsertSyntax [] := by
    cases i.widthFault? with
    | none => exact spells_empty
    | some e => exact (spells_fail e []).append spells_empty
  have hconflict : (all (i.conflict.toList.map (Conflict.checks d))).Spells d.upsertSyntax [] := by
    cases i.conflict with
    | none => exact spells_empty
    | some c => simpa [all] using c.checks_spells d
  exact ((spells_require _ _).append hwidth).append hconflict

/-- An INSERT that passes its checks says its conflict clause in full. -/
theorem Insert.conflict_spells (i : Insert) (h : (i.checks d).fault = none) :
    (all (i.conflict.toList.map (Conflict.draft d scope))).Spells d.upsertSyntax
      (i.conflict.toList.flatMap Conflict.leaves) := by
  refine spells_all _ fun c hc => c.draft_spells d scope ?_
  rw [Option.mem_toList] at hc
  simp only [checks, fault_append, Option.or_eq_none_iff, fault_all, hc] at h
  simpa using h.2

theorem Insert.draft_spells (i : Insert) : (i.draft d scope).Spells d.upsertSyntax i.leaves := by
  have htable := (i.checks_spells d).append_sql (if i.conflict.any (Conflict.becomesIgnore d)
    then "INSERT IGNORE INTO " else "INSERT INTO ") |>.append (spells_name i.table)
  have hrows := ((htable.append (columns_spells d i.columns)).append_sql " VALUES ").append
    (spells_joined ", " i.rows fun row _ => rowDraft_spells d scope row)
  have hconflict := hrows.append_of fun h => i.conflict_spells d scope <| by
    simp only [fault_append, Option.or_eq_none_iff] at h
    exact h.1.1.1.1.1
  simpa [Insert.draft, Insert.leaves, Insert.checks] using
    hconflict.append (d.returningDraft_spells scope i.returning)

theorem Update.draft_spells (u : Update) : (u.draft d scope).Spells d.upsertSyntax u.leaves := by
  have hchecks := (spells_require (u := d.upsertSyntax) (!u.assignments.isEmpty)
    (.emptyClause (.statement .update) .setAssignments)).append
      (d.returningCheck_spells u.returning)
  have hset := (((hchecks.append_sql "UPDATE ").append (spells_name u.table)).append_sql
    " SET ").append (Assignment.listDraft_spells d scope u.assignments)
  have hcondition := hset.append (spells_led_condition d scope u.condition)
  simpa [Update.draft, Update.leaves] using
    hcondition.append (d.returningDraft_spells scope u.returning)

theorem Delete.draft_spells (x : Delete) : (x.draft d scope).Spells d.upsertSyntax x.leaves := by
  have htable := ((d.returningCheck_spells x.returning).append_sql "DELETE FROM ").append
    (spells_name (u := d.upsertSyntax) x.table)
  have hcondition := htable.append (spells_led_condition d scope x.condition)
  simpa [Delete.draft, Delete.leaves] using
    hcondition.append (d.returningDraft_spells scope x.returning)

theorem Reference.draft_spells (r : Reference) : r.draft.Spells d.upsertSyntax r.leaves := by
  have hcolumns := ((((spells_name (u := d.upsertSyntax) r.table).sql_append
    "REFERENCES ").append_sql " (").append (spells_names r.columns)).append_sql ")"
  have haction (keyword : String) (a : Option ReferenceAction) :
      (led keyword (a.map fun a => sql a.text)).Spells d.upsertSyntax [] := by
    cases a with
    | none => exact spells_empty
    | some a => exact (spells_sql a.text).sql_append keyword
  simpa [Reference.draft, Reference.leaves] using
    (hcolumns.append (haction " ON DELETE " r.onDelete)).append (haction " ON UPDATE " r.onUpdate)

theorem ColumnConstraint.draft_spells (k : ColumnConstraint) :
    (k.draft d scope).Spells d.upsertSyntax k.leaves := by
  cases k with
  | notNull => exact spells_sql _
  | null => exact spells_sql _
  | primaryKey auto =>
    have hkeyword := ((spells_require (u := d.upsertSyntax) d.autoIncrement
      (.unsupported d.name .autoIncrement)).append_sql " ").append_sql d.autoIncrementKeyword
    have honly : (only auto d.autoIncrementDraft).Spells d.upsertSyntax [] := by
      cases auto
      · exact spells_empty
      · exact hkeyword
    exact honly.sql_append "PRIMARY KEY"
  | unique => exact spells_sql _
  | default value => exact (value.draft_spells d scope).sql_append "DEFAULT "
  | check condition => exact ((condition.draft_spells d scope).sql_append "CHECK (").append_sql ")"
  | references reference => exact reference.draft_spells d
  | collate collation => exact (spells_sql collation).sql_append "COLLATE "

theorem ColumnDefinition.draft_spells (c : ColumnDefinition) :
    (c.draft d scope).Spells d.upsertSyntax c.leaves := by
  have htype := ((spells_name (u := d.upsertSyntax) c.name).append_sql " ").append_sql
    c.type.spelled
  exact htype.append (spells_all _ fun k _ => (k.draft_spells d scope).sql_append " ")

theorem TableConstraint.Rule.draft_spells (r : Rule) :
    (r.draft d scope).Spells d.upsertSyntax r.leaves := by
  cases r with
  | primaryKey columns => exact ((spells_names columns).sql_append "PRIMARY KEY (").append_sql ")"
  | unique columns => exact ((spells_names columns).sql_append "UNIQUE (").append_sql ")"
  | check condition => exact ((condition.draft_spells d scope).sql_append "CHECK (").append_sql ")"
  | foreignKey columns reference =>
    exact (((spells_names columns).sql_append "FOREIGN KEY (").append_sql ") ").append
      (reference.draft_spells d)

theorem TableConstraint.draft_spells (c : TableConstraint) :
    (c.draft d scope).Spells d.upsertSyntax c.leaves := by
  have hname : (led "CONSTRAINT " (c.name.map fun n => Draft.name n ++ sql " ")).Spells d.upsertSyntax
      (c.name.toList.map .name) := by
    cases c.name with
    | none => exact spells_empty
    | some n => exact ((spells_name n).append_sql " ").sql_append "CONSTRAINT "
  exact hname.append (c.rule.draft_spells d scope)

theorem Dialect.guardDraft_spells (wanted : Bool) (guard : String) :
    (only wanted (d.guardDraft guard)).Spells d.upsertSyntax [] := by
  cases wanted with
  | false => exact spells_empty
  | true =>
    rw [only, if_pos rfl, Dialect.guardDraft]
    split
    · exact (spells_sql guard).append_sql " "
    · exact spells_note _

theorem CreateTable.draft_spells (t : CreateTable) :
    (t.draft d scope).Spells d.upsertSyntax t.leaves := by
  have hstart := (((spells_require (u := d.upsertSyntax) (!t.columns.isEmpty)
    (.emptyClause (.statement .createTable) .columnDefinitions)).append_sql "CREATE ").append
      (spells_only_sql t.temporary "TEMPORARY ")).append_sql "TABLE "
  have hname := ((hstart.append (d.guardDraft_spells t.ifNotExists "IF NOT EXISTS")).append
    (spells_name t.name)).append_sql " ("
  have hcolumns := hname.append
    (spells_joined ", " t.columns fun c _ => c.draft_spells d scope)
  have hconstraints := hcolumns.append (spells_all t.constraints fun c _ =>
    (c.draft_spells d scope).sql_append ", ")
  simpa [CreateTable.draft, CreateTable.leaves] using hconstraints.append_sql ")"

theorem AlterTable.Action.draft_spells (a : Action) :
    (a.draft d scope).Spells d.upsertSyntax a.leaves := by
  cases a with
  | addColumn c => exact (c.draft_spells d scope).sql_append "ADD COLUMN "
  | dropColumn n => exact (spells_name n).sql_append "DROP COLUMN "
  | renameColumn old new =>
    exact (((spells_name old).sql_append "RENAME COLUMN ").append_sql " TO ").append
      (spells_name new)
  | renameTo n => exact (spells_name n).sql_append "RENAME TO "

theorem AlterTable.draft_spells (t : AlterTable) :
    (t.draft d scope).Spells d.upsertSyntax t.leaves := by
  have hchecks := (spells_require (u := d.upsertSyntax) (!t.actions.isEmpty)
    (.emptyClause (.statement .alterTable) .alterActions)).append
      (spells_require (t.actions.length ≤ 1 || d.multipleAlterActions)
        (.unsupported d.name .multipleAlterActions))
  have hname := ((hchecks.append_sql "ALTER TABLE ").append (spells_name t.name)).append_sql " "
  simpa [AlterTable.draft, AlterTable.leaves] using
    hname.append (spells_joined ", " t.actions fun a _ => a.draft_spells d scope)

theorem DropTable.draft_spells (t : DropTable) :
    (t.draft d).Spells d.upsertSyntax (t.names.map .name) := by
  have hstart := (spells_require (u := d.upsertSyntax) (!t.names.isEmpty)
    (.emptyClause (.statement .dropTable) .tableNames)).append_sql "DROP TABLE "
  have hnames := (hstart.append (d.guardDraft_spells t.ifExists "IF EXISTS")).append
    (spells_names t.names)
  have hbehavior : (all (t.behavior.toList.map (Behavior.draft d))).Spells d.upsertSyntax [] := by
    cases t.behavior with
    | none => exact spells_empty
    | some b =>
      simp only [Option.toList_some, List.map_cons, List.map_nil, all, append_empty]
      rw [Behavior.draft]
      split
      · exact (spells_sql b.text).sql_append " "
      · exact spells_note _
  simpa [DropTable.draft] using hnames.append hbehavior

theorem Statement.draftIn_spells (s : Statement) :
    (s.draftIn d scope).Spells d.upsertSyntax s.leaves := by
  cases s with
  | select s => exact s.draft_spells d scope
  | insert i => exact i.draft_spells d scope
  | update u => exact u.draft_spells d scope
  | delete x => exact x.draft_spells d scope
  | createTable t => exact t.draft_spells d scope
  | alterTable t => exact t.draft_spells d scope
  | dropTable t => exact t.draft_spells d
  | raw e => exact e.draft_spells d scope

end PolySql
