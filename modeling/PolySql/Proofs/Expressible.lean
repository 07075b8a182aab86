import PolySql.Proofs.Children

/-!
# Which statements can be rendered

A statement can be rendered in a dialect exactly if it is expressible there. What this asks of an
expression it asks of every part of it, wherever the part stands; the rest is asked of the clauses
of a statement, one kind after the other. Both are said of the tree alone, in no particular order.

* `Expr.Sayable` : expressions that a dialect can say;
* `Conflict.Expressible`, `Statement.Expressible` : what a dialect can say of clauses and
  statements;
* `Expr.fault_draft_eq_none_iff` : expressions;
* `Statement.renders_iff_expressible` : the main statement.
-/

namespace PolySql

open Draft

/-! ## What a dialect can say -/

/-- The dialect can say the expression, apart from its children. -/
def Expr.SayableHere (d : Dialect) : Expr → Prop
  | .isIn _ items _ => items ≠ []
  | .literal l => l.isFinite = true
  | .excluded _ => d.upsertSyntax ≠ .unsupported
  | _ => True

/-- The dialect can say the expression with everything below it. -/
def Expr.Sayable (d : Dialect) (e : Expr) : Prop := ∀ x ∈ e.nodes, x.SayableHere d

theorem Expr.sayable_iff {d : Dialect} {e : Expr} :
    e.Sayable d ↔ e.SayableHere d ∧ ∀ c ∈ e.children, c.Sayable d := by
  unfold Expr.Sayable
  rw [nodes_eq, List.forall_mem_cons, List.forall_mem_flatMap]

/-- The dialect can say the conflict clause, apart from its expressions. -/
def Conflict.Expressible (d : Dialect) (c : Conflict) : Prop :=
  match d.upsertSyntax, c.action with
  | .unsupported, _ => False
  | .standard, .doNothing => c.target.condition ≠ none → c.target.columns ≠ []
  | .standard, .doUpdate assignments _ =>
    (c.target.condition ≠ none → c.target.columns ≠ []) ∧ assignments ≠ [] ∧
      (d.conflictTargetRequired = true → c.target.columns ≠ [])
  | .mySql, .doNothing => c.target.condition = none
  | .mySql, .doUpdate assignments condition =>
    c.target.condition = none ∧ assignments ≠ [] ∧ condition = none

/-- What a statement gives back, the dialect can give back. -/
def Dialect.CanReturn (d : Dialect) (returning : List Expr) : Prop :=
  returning ≠ [] → d.returning = true

/-- Keys that count up by themselves are only there if the dialect has them. -/
def ColumnDefinition.Expressible (d : Dialect) (c : ColumnDefinition) : Prop :=
  .primaryKey true ∈ c.constraints → d.autoIncrement = true

/-- The dialect can say the statement, apart from its expressions. -/
def Statement.ExpressibleHere (d : Dialect) : Statement → Prop
  | .select _ | .raw _ => True
  | .insert i =>
    i.rows ≠ [] ∧ (i.columns ≠ [] → ∀ row ∈ i.rows, row.length = i.columns.length) ∧
      (∀ c ∈ i.conflict, c.Expressible d) ∧ d.CanReturn i.returning
  | .update u => u.assignments ≠ [] ∧ d.CanReturn u.returning
  | .delete x => d.CanReturn x.returning
  | .createTable t => t.columns ≠ [] ∧ ∀ c ∈ t.columns, c.Expressible d
  | .alterTable t =>
    t.actions ≠ [] ∧ (1 < t.actions.length → d.multipleAlterActions = true) ∧
      ∀ c, .addColumn c ∈ t.actions → c.Expressible d
  | .dropTable t => t.names ≠ []

/-- The dialect can say the statement with all of its expressions. -/
def Statement.Expressible (d : Dialect) (s : Statement) : Prop :=
  s.ExpressibleHere d ∧ ∀ e ∈ s.exprs, e.Sayable d

/-! ## Drafts that do not stop -/

namespace Draft

theorem fault_append_eq_none {a b : Draft} :
    (a ++ b).fault = none ↔ a.fault = none ∧ b.fault = none := by
  rw [fault_append, Option.or_eq_none_iff]

theorem fault_require_eq_none {condition : Bool} {e : Fault} :
    (require condition e).fault = none ↔ condition = true := by
  cases condition <;> simp

theorem fault_only_eq_none {condition : Bool} {a : Draft} :
    (only condition a).fault = none ↔ (condition = true → a.fault = none) := by
  cases condition <;> simp [only]

theorem fault_only_sql (condition : Bool) (text : String) :
    (only condition (sql text)).fault = none :=
  fault_only_eq_none.2 fun _ => rfl

theorem fault_parens (a : Draft) : (parens a).fault = a.fault := fault_parensIf true a

theorem fault_names (ns : List String) : (names ns).fault = none := by
  simp [names]

section Lists
variable {α : Type} {f : α → Draft} {xs : List α}

theorem fault_all_eq_none : (all (xs.map f)).fault = none ↔ ∀ x ∈ xs, (f x).fault = none := by
  simp

theorem fault_joined_eq_none {separator : String} :
    (joined separator (xs.map f)).fault = none ↔ ∀ x ∈ xs, (f x).fault = none := by
  simp

theorem fault_clause_eq_none {keyword : String} :
    (clause keyword (xs.map f)).fault = none ↔ ∀ x ∈ xs, (f x).fault = none := by
  simp

theorem fault_led_eq_none {keyword : String} {x : Option α} :
    (led keyword (x.map f)).fault = none ↔ ∀ y ∈ x.toList, (f y).fault = none := by
  cases x <;> simp

end Lists

end Draft

variable {d : Dialect} {scope : Scope}

/-! ## Expressions -/

theorem Dialect.fault_excludedDraft_eq_none {c : String} :
    (d.excludedDraft c).fault = none ↔ d.upsertSyntax ≠ .unsupported := by
  unfold Dialect.excludedDraft
  cases d.upsertSyntax <;> simp [fault_append]

theorem Lock.fault_draft (l : Lock) : l.draft.fault = none := by
  cases l <;> rfl

theorem Join.fault_draft_eq_none {j : Join} :
    (j.draft d scope).fault = none ↔ ∀ e ∈ j.exprs, (e.draft d scope).fault = none := by
  rcases j with ⟨kind, table, condition⟩
  rw [Join.draft, Expr.draft?_eq_map, fault_append_eq_none, fault_led_eq_none, Join.exprs,
    List.forall_mem_cons]
  simp [fault_append]

theorem Order.fault_draft_eq_none {o : Order} :
    (o.draft d scope).fault = none ↔ (o.key.draft d scope).fault = none := by
  rcases o with ⟨key, direction⟩
  simp [Order.draft, fault_append]

theorem Select.fault_draft_eq_none {s : Select} :
    (s.draft d scope).fault = none ↔ ∀ e ∈ s.exprs, (e.draft d scope).fault = none := by
  rcases s with
    ⟨distinct, columns, sources, joins, condition, groupBy, having, orderBy, limit, offset, lock⟩
  have hlist : (if columns.isEmpty then sql "*"
      else joined ", " (columns.map (Expr.draft d scope))).fault = none ↔
        ∀ e ∈ columns, (e.draft d scope).fault = none := by
    cases columns with
    | nil => simp
    | cons e es => exact fault_joined_eq_none
  have hnumber (n : Option Nat) (keyword : String) :
      (led keyword (n.map number)).fault = none := fault_led_eq_none.2 fun _ _ => rfl
  have hlock : (all (lock.toList.map Lock.draft)).fault = none :=
    fault_all_eq_none.2 fun l _ => l.fault_draft
  rw [Select.draft]
  simp only [Expr.drafts_eq_map, Expr.draft?_eq_map, Join.drafts_eq_map, Order.drafts_eq_map,
    fault_append_eq_none, fault_all_eq_none, fault_clause_eq_none, fault_led_eq_none, hlist,
    hnumber, hlock, fault_sql, fault_only_sql, Join.fault_draft_eq_none,
    Order.fault_draft_eq_none, Select.exprs, List.forall_mem_append, List.forall_mem_flatMap,
    List.forall_mem_map, true_and, and_true]

theorem Piece.fault_draft_eq_none {p : Piece} :
    (p.draft d scope).fault = none ↔ ∀ e ∈ p.expr?, (e.draft d scope).fault = none := by
  cases p <;> simp [Piece.draft, Piece.expr?, Expr.draft]

/-- An expression can be written exactly if the dialect can say it. -/
theorem Expr.fault_draft_eq_none {e : Expr} : (e.draft d scope).fault = none ↔ e.Sayable d := by
  induction e using Expr.children_induction with
  | step e ih =>
    rw [sayable_iff, ← forall₂_congr ih]
    clear ih
    cases e with
    | raw pieces =>
      have hpieces : (∀ c ∈ (Expr.raw pieces).children, (c.draft d scope).fault = none) ↔
          ∀ p ∈ pieces, ∀ e ∈ p.expr?, (e.draft d scope).fault = none := by
        simp only [children, List.mem_filterMap]
        constructor
        · exact fun h p hp e he => h e ⟨p, hp, he⟩
        · rintro h e ⟨p, hp, he⟩
          exact h p hp e he
      rw [hpieces, Expr.draft, Piece.drafts_eq_map, fault_all_eq_none]
      simp only [Piece.fault_draft_eq_none, SayableHere, true_and]
    | call function arguments distinct =>
      rw [Expr.draft, Expr.drafts_eq_map]
      simp only [fault_append_eq_none, fault_joined_eq_none, fault_sql, fault_only_sql, SayableHere,
        children, true_and, and_true]
    | subquery select =>
      rw [Expr.draft, fault_parens, Select.fault_draft_eq_none]
      simp only [SayableHere, children, true_and]
    | isIn tested items negated =>
      rw [Expr.draft, Expr.drafts_eq_map]
      simp [fault_append_eq_none, SayableHere, children, and_assoc]
    | literal l => simp [Expr.draft, Literal.draft, fault_append, SayableHere, children]
    | excluded c => simp [Expr.draft, Dialect.fault_excludedDraft_eq_none, SayableHere, children]
    | list items separator =>
      rw [Expr.draft, Expr.drafts_eq_map, fault_joined_eq_none]
      simp only [SayableHere, children, true_and]
    | _ => simp [Expr.draft, fault_append_eq_none, fault_parens, SayableHere, children, and_assoc]

theorem Expr.forall_fault_draft_eq_none {es : List Expr} :
    (∀ e ∈ es, (e.draft d scope).fault = none) ↔ ∀ e ∈ es, e.Sayable d :=
  forall₂_congr fun _ _ => fault_draft_eq_none

/-! ## Clauses -/

theorem fault_led_condition_eq_none {condition : Option Expr} :
    (led " WHERE " (condition.map (Expr.draft d scope))).fault = none ↔
      ∀ e ∈ condition.toList, e.Sayable d := by
  rw [fault_led_eq_none, Expr.forall_fault_draft_eq_none]

theorem Assignment.fault_listDraft_eq_none {as : List Assignment} :
    (listDraft d scope as).fault = none ↔ ∀ e ∈ as.map value, e.Sayable d := by
  rw [listDraft, fault_joined_eq_none, List.forall_mem_map]
  refine forall₂_congr fun a _ => ?_
  simp [Assignment.draft, fault_append_eq_none, Expr.fault_draft_eq_none]

/-- A conflict clause passes the checks exactly if the dialect can say it. -/
theorem Conflict.fault_checks_eq_none {c : Conflict} :
    (c.checks d).fault = none ↔ c.Expressible d := by
  rcases c with ⟨⟨columns, target⟩, action⟩
  unfold Conflict.checks Conflict.Expressible
  cases d.upsertSyntax with
  | unsupported => simp
  | standard =>
    cases action with
    | doNothing => cases columns <;> cases target <;> simp [standardChecks]
    | doUpdate assignments condition =>
      cases columns <;> cases target <;> simp [standardChecks, fault_append_eq_none, and_comm]
  | mySql =>
    have hnote : (only (!columns.isEmpty) (note (.conflictTargetOmitted d.name))).fault = none :=
      fault_only_eq_none.2 fun _ => rfl
    cases action with
    | doNothing => simp [uniqueKeyChecks, fault_append_eq_none, hnote]
    | doUpdate assignments condition =>
      simp [uniqueKeyChecks, fault_append_eq_none, hnote, and_comm (b := condition = none)]

theorem Conflict.fault_targetDraft_eq_none {t : ConflictTarget}
    (h : t.condition ≠ none → t.columns ≠ []) :
    (targetDraft d scope t).fault = none ↔ ∀ e ∈ t.condition.toList, e.Sayable d := by
  rcases t with ⟨_ | ⟨column, columns⟩, condition⟩
  · obtain rfl : condition = none := by simpa using h
    simp [targetDraft]
  · simp only [targetDraft, List.isEmpty_cons, Bool.false_eq_true, if_false, fault_append_eq_none,
      fault_led_condition_eq_none, fault_names, fault_sql, true_and]

/-- A clause that passed the checks leaves none of its expressions unsaid. -/
theorem Conflict.fault_draft_eq_none {c : Conflict} (h : c.Expressible d) :
    (c.draft d scope).fault = none ↔ ∀ e ∈ c.exprs, e.Sayable d := by
  rcases c with ⟨target, action⟩
  simp only [Conflict.exprs, List.forall_mem_append]
  unfold Conflict.Expressible at h
  unfold Conflict.draft
  cases hupsert : d.upsertSyntax <;> simp only [hupsert] at h
  case standard =>
    cases action with
    | doNothing =>
      simp [fault_append_eq_none, fault_targetDraft_eq_none h, ConflictAction.exprs]
    | doUpdate assignments condition =>
      simp only [fault_append_eq_none, fault_targetDraft_eq_none h.1,
        Assignment.fault_listDraft_eq_none, fault_led_condition_eq_none, ConflictAction.exprs,
        List.forall_mem_append, fault_sql, true_and, and_true, and_assoc]
  case mySql =>
    cases action with
    | doNothing => simp [h, ConflictAction.exprs]
    | doUpdate assignments condition =>
      obtain ⟨htarget, -, rfl⟩ := h
      simp [htarget, fault_append_eq_none, Assignment.fault_listDraft_eq_none, ConflictAction.exprs]

theorem Dialect.fault_returningCheck_eq_none {returning : List Expr} :
    (d.returningCheck returning).fault = none ↔ d.CanReturn returning := by
  simp [Dialect.returningCheck, Dialect.CanReturn, or_iff_not_imp_left]

theorem Dialect.fault_returningDraft_eq_none {returning : List Expr} :
    (d.returningDraft scope returning).fault = none ↔
      d.CanReturn returning ∧ ∀ e ∈ returning, e.Sayable d := by
  rw [Dialect.returningDraft, fault_append_eq_none, Dialect.fault_returningCheck_eq_none,
    fault_clause_eq_none, Expr.forall_fault_draft_eq_none]

/-! ## Statements that change rows -/

theorem Insert.fault_rowDraft_eq_none {row : List Expr} :
    (rowDraft d scope row).fault = none ↔ ∀ e ∈ row, e.Sayable d := by
  rw [rowDraft, fault_parens, fault_joined_eq_none, Expr.forall_fault_draft_eq_none]

theorem Insert.fault_widths_eq_none {i : Insert} :
    (all (i.widthFault?.toList.map fail)).fault = none ↔
      (i.columns ≠ [] → ∀ row ∈ i.rows, row.length = i.columns.length) := by
  rw [← or_iff_not_imp_left, ← Insert.widthFault?_eq_none]
  cases i.widthFault? <;> simp

theorem Insert.fault_draft_eq_none {i : Insert} :
    (i.draft d scope).fault = none ↔ (Statement.insert i).Expressible d := by
  have hcolumns : (only (!i.columns.isEmpty)
      (sql " (" ++ names i.columns ++ sql ")")).fault = none :=
    fault_only_eq_none.2 fun _ => by simp [fault_append, fault_names]
  have hrows : (joined ", " (i.rows.map (rowDraft d scope))).fault = none ↔
      ∀ e ∈ i.rows.flatten, e.Sayable d := by
    rw [fault_joined_eq_none]
    simp only [Insert.fault_rowDraft_eq_none, List.mem_flatten]
    exact ⟨fun h e ⟨row, hrow, he⟩ => h row hrow e he, fun h row hrow e he => h e ⟨row, hrow, he⟩⟩
  have hchecks : (all (i.conflict.toList.map (Conflict.checks d))).fault = none ↔
      ∀ c ∈ i.conflict, c.Expressible d := by
    rw [fault_all_eq_none]
    simp [Conflict.fault_checks_eq_none]
  have hclause (h : ∀ c ∈ i.conflict, c.Expressible d) :
      (all (i.conflict.toList.map (Conflict.draft d scope))).fault = none ↔
        ∀ e ∈ i.conflict.toList.flatMap Conflict.exprs, e.Sayable d := by
    rw [fault_all_eq_none, List.forall_mem_flatMap]
    exact forall₂_congr fun c hc => Conflict.fault_draft_eq_none (h c (by simpa using hc))
  rw [Insert.draft, Statement.Expressible, Statement.ExpressibleHere, Statement.exprs, Insert.exprs]
  simp only [fault_append_eq_none, fault_require_eq_none, fault_widths_eq_none, hchecks, hcolumns,
    hrows, Dialect.fault_returningDraft_eq_none, List.forall_mem_append, fault_sql, fault_name,
    and_true, Bool.not_eq_true', List.isEmpty_eq_false_iff]
  constructor
  · rintro ⟨⟨⟨⟨⟨hne, hwidths⟩, hexpressible⟩, hvalues⟩, hwritten⟩, hcan, hreturning⟩
    exact ⟨⟨hne, hwidths, hexpressible, hcan⟩,
      ⟨hvalues, (hclause hexpressible).1 hwritten⟩, hreturning⟩
  · rintro ⟨⟨hne, hwidths, hexpressible, hcan⟩, ⟨hvalues, hsayable⟩, hreturning⟩
    exact ⟨⟨⟨⟨⟨hne, hwidths⟩, hexpressible⟩, hvalues⟩, (hclause hexpressible).2 hsayable⟩,
      hcan, hreturning⟩

theorem Update.fault_draft_eq_none {u : Update} :
    (u.draft d scope).fault = none ↔ (Statement.update u).Expressible d := by
  rw [Update.draft, Statement.Expressible, Statement.ExpressibleHere, Statement.exprs, Update.exprs]
  simp only [fault_append_eq_none, fault_require_eq_none, Dialect.fault_returningCheck_eq_none,
    Assignment.fault_listDraft_eq_none, fault_led_condition_eq_none,
    Dialect.fault_returningDraft_eq_none, List.forall_mem_append, fault_sql, fault_name, and_true,
    Bool.not_eq_true', List.isEmpty_eq_false_iff]
  tauto

theorem Delete.fault_draft_eq_none {x : Delete} :
    (x.draft d scope).fault = none ↔ (Statement.delete x).Expressible d := by
  rw [Delete.draft, Statement.Expressible, Statement.ExpressibleHere, Statement.exprs, Delete.exprs]
  simp only [fault_append_eq_none, Dialect.fault_returningCheck_eq_none,
    fault_led_condition_eq_none, Dialect.fault_returningDraft_eq_none, List.forall_mem_append,
    fault_sql, fault_name, and_true]
  tauto

/-! ## Statements about tables -/

theorem Reference.fault_draft (r : Reference) : r.draft.fault = none := by
  have haction (keyword : String) (a : Option ReferenceAction) :
      (led keyword (a.map fun a => sql a.text)).fault = none := fault_led_eq_none.2 fun _ _ => rfl
  simp only [Reference.draft, fault_append_eq_none, fault_names, haction, fault_sql, fault_name,
    and_self]

theorem ColumnConstraint.fault_draft_eq_none {k : ColumnConstraint} :
    (k.draft d scope).fault = none ↔
      (k = .primaryKey true → d.autoIncrement = true) ∧ ∀ e ∈ k.exprs, e.Sayable d := by
  cases k with
  | primaryKey auto =>
    simp [ColumnConstraint.draft, Dialect.autoIncrementDraft, fault_append_eq_none,
      fault_only_eq_none, exprs]
  | references r => simp [ColumnConstraint.draft, r.fault_draft, exprs]
  | _ => simp [ColumnConstraint.draft, fault_append_eq_none, Expr.fault_draft_eq_none, exprs]

theorem ColumnDefinition.fault_draft_eq_none {c : ColumnDefinition} :
    (c.draft d scope).fault = none ↔ c.Expressible d ∧ ∀ e ∈ c.exprs, e.Sayable d := by
  have hkey : c.Expressible d ↔
      ∀ k ∈ c.constraints, k = .primaryKey true → d.autoIncrement = true :=
    ⟨fun h k hk heq => h (heq ▸ hk), fun h hmem => h _ hmem rfl⟩
  rw [hkey, ColumnDefinition.exprs, List.forall_mem_flatMap, ← forall₂_and]
  simp only [ColumnDefinition.draft, fault_append_eq_none, fault_all_eq_none,
    ColumnConstraint.fault_draft_eq_none, fault_sql, fault_name, true_and]

theorem TableConstraint.fault_draft_eq_none {c : TableConstraint} :
    (c.draft d scope).fault = none ↔ ∀ e ∈ c.exprs, e.Sayable d := by
  rw [TableConstraint.draft, fault_append_eq_none]
  rcases c with ⟨constraintName, rule⟩
  cases rule <;> simp [TableConstraint.Rule.draft, fault_append_eq_none, fault_names,
    Reference.fault_draft, Expr.fault_draft_eq_none, exprs]

theorem Dialect.fault_guardDraft (guard : String) : (d.guardDraft guard).fault = none := by
  unfold Dialect.guardDraft
  split <;> rfl

theorem CreateTable.fault_draft_eq_none {t : CreateTable} :
    (t.draft d scope).fault = none ↔ (Statement.createTable t).Expressible d := by
  have hguard : (only t.ifNotExists (d.guardDraft "IF NOT EXISTS")).fault = none :=
    fault_only_eq_none.2 fun _ => d.fault_guardDraft _
  rw [CreateTable.draft, Statement.Expressible, Statement.ExpressibleHere, Statement.exprs,
    CreateTable.exprs]
  simp only [fault_append_eq_none, fault_require_eq_none, fault_joined_eq_none, fault_all_eq_none,
    fault_only_sql, hguard, ColumnDefinition.fault_draft_eq_none,
    TableConstraint.fault_draft_eq_none, List.forall_mem_append, List.forall_mem_flatMap,
    forall₂_and, fault_sql, fault_name, and_true, true_and, Bool.not_eq_true',
    List.isEmpty_eq_false_iff, and_assoc]

theorem AlterTable.Action.fault_draft_eq_none {a : Action} :
    (a.draft d scope).fault = none ↔
      (∀ c, a = .addColumn c → c.Expressible d) ∧ ∀ e ∈ a.exprs, e.Sayable d := by
  cases a <;> simp [Action.draft, fault_append_eq_none, ColumnDefinition.fault_draft_eq_none,
    Action.exprs]

theorem AlterTable.fault_draft_eq_none {t : AlterTable} :
    (t.draft d scope).fault = none ↔ (Statement.alterTable t).Expressible d := by
  have hadded : (∀ c, .addColumn c ∈ t.actions → c.Expressible d) ↔
      ∀ a ∈ t.actions, ∀ c, a = .addColumn c → c.Expressible d :=
    ⟨fun h a ha c heq => h c (heq ▸ ha), fun h c hc => h _ hc c rfl⟩
  have hseveral : (decide (t.actions.length ≤ 1) || d.multipleAlterActions) = true ↔
      (1 < t.actions.length → d.multipleAlterActions = true) := by
    rw [Bool.or_eq_true, decide_eq_true_eq, or_iff_not_imp_left, Nat.not_le]
  rw [AlterTable.draft, Statement.Expressible, Statement.ExpressibleHere, Statement.exprs, hadded]
  simp only [fault_append_eq_none, fault_require_eq_none, fault_joined_eq_none,
    Action.fault_draft_eq_none, hseveral, List.forall_mem_flatMap, forall₂_and, fault_sql,
    fault_name, and_true, Bool.not_eq_true', List.isEmpty_eq_false_iff, and_assoc]

theorem DropTable.fault_draft_eq_none {t : DropTable} :
    (t.draft d).fault = none ↔ (Statement.dropTable t).Expressible d := by
  have hguard : (only t.ifExists (d.guardDraft "IF EXISTS")).fault = none :=
    fault_only_eq_none.2 fun _ => d.fault_guardDraft _
  have hbehavior : (all (t.behavior.toList.map (Behavior.draft d))).fault = none := by
    refine fault_all_eq_none.2 fun b _ => ?_
    unfold Behavior.draft
    split <;> rfl
  simp only [DropTable.draft, Statement.Expressible, Statement.ExpressibleHere, Statement.exprs,
    fault_append_eq_none, fault_require_eq_none, hguard, fault_names, hbehavior, fault_sql,
    and_true, Bool.not_eq_true', List.isEmpty_eq_false_iff, List.not_mem_nil, false_implies,
    implies_true]

/-! ## All statements -/

theorem Statement.fault_draftIn_eq_none {s : Statement} :
    (s.draftIn d scope).fault = none ↔ s.Expressible d := by
  cases s with
  | select s =>
    rw [draftIn, Select.fault_draft_eq_none, Expr.forall_fault_draft_eq_none]
    simp only [Expressible, ExpressibleHere, exprs, true_and]
  | insert i => exact Insert.fault_draft_eq_none
  | update u => exact Update.fault_draft_eq_none
  | delete x => exact Delete.fault_draft_eq_none
  | createTable t => exact CreateTable.fault_draft_eq_none
  | alterTable t => exact AlterTable.fault_draft_eq_none
  | dropTable t => exact DropTable.fault_draft_eq_none
  | raw e => simp [draftIn, Expr.fault_draft_eq_none, Expressible, ExpressibleHere, exprs]

/-- A statement is rendered in a dialect exactly if it is expressible there. -/
theorem Statement.renders_iff_expressible (d : Dialect) (s : Statement) :
    (∃ r, (s.render d).outcome = .ok r) ↔ s.Expressible d := by
  have hfault : (s.draft d).fault = none ↔ s.Expressible d := Statement.fault_draftIn_eq_none
  rw [← hfault, Statement.render, Draft.finish]
  cases (s.draft d).fault <;> simp

end PolySql
