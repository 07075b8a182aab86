import PolySql.Proofs.Children

/-!
# What goes unsaid

A dialect without existence guards, or without `CASCADE` and `RESTRICT`, writes a statement as if
they had not been asked for; so does a dialect in which unique keys decide what conflicts with the
columns of a conflict target. Only the log tells. Nothing else of a statement depends on these
fallbacks: expressions read two properties of the dialect, and none of them is a fallback.

* `Expr.draft_congr`, `Select.draft_congr` : what expressions read of a dialect;
* `Draft.SameText` : drafts that differ at most in their events;
* `Statement.withoutGuard`, `Statement.withoutBehavior`, `Statement.withoutTargetColumns` : a
  statement that does not ask;
* `Statement.fallbacks_erase` : the main statement.
-/

namespace PolySql

open Draft

/-! ## What expressions read of a dialect -/

/-- Dialects in which expressions are written alike: faults name the dialect, and the row that met a
conflict is said in its upsert syntax. -/
structure Dialect.Agrees (d d' : Dialect) : Prop where
  name : d.name = d'.name
  upsertSyntax : d.upsertSyntax = d'.upsertSyntax

section Expressions
variable {d d' : Dialect} {scope : Scope}

theorem Literal.draft_congr (h : d.Agrees d') (l : Literal) : l.draft d = l.draft d' := by
  rw [Literal.draft, Literal.draft, h.name]

theorem Dialect.excludedDraft_congr (h : d.Agrees d') (column : String) :
    d.excludedDraft column = d'.excludedDraft column := by
  rw [Dialect.excludedDraft, Dialect.excludedDraft, h.upsertSyntax, h.name]

theorem Expr.map_draft_congr {x : Option Expr}
    (h : ∀ e ∈ x.toList, e.draft d scope = e.draft d' scope) :
    x.map (draft d scope) = x.map (draft d' scope) :=
  Option.map_congr fun e he => h e (Option.mem_toList.2 he)

theorem Join.draft_congr_of {j : Join} (h : ∀ e ∈ j.exprs, e.draft d scope = e.draft d' scope) :
    j.draft d scope = j.draft d' scope := by
  rcases j with ⟨kind, table, condition⟩
  rw [Join.exprs, List.forall_mem_cons] at h
  simp only [Join.draft, Expr.draft?_eq_map, h.1, Expr.map_draft_congr h.2]

theorem Order.draft_congr_of {o : Order} (h : o.key.draft d scope = o.key.draft d' scope) :
    o.draft d scope = o.draft d' scope := by
  rcases o with ⟨key, direction⟩
  rw [Order.draft, Order.draft, h]

theorem Select.draft_congr_of {s : Select}
    (h : ∀ e ∈ s.exprs, e.draft d scope = e.draft d' scope) :
    s.draft d scope = s.draft d' scope := by
  rcases s with
    ⟨distinct, columns, sources, joins, condition, groupBy, having, orderBy, limit, offset, lock⟩
  simp only [Select.exprs, List.forall_mem_append, List.forall_mem_flatMap, List.forall_mem_map]
    at h
  obtain ⟨⟨⟨⟨⟨⟨hcolumns, hsources⟩, hjoins⟩, hcondition⟩, hgroupBy⟩, hhaving⟩, horderBy⟩ := h
  have hjoins' := List.map_congr_left fun j hj => Join.draft_congr_of (hjoins j hj)
  have horderBy' := List.map_congr_left fun o ho => Order.draft_congr_of (horderBy o ho)
  simp only [Select.draft, Expr.drafts_eq_map, Expr.draft?_eq_map, Join.drafts_eq_map,
    Order.drafts_eq_map, List.map_congr_left hcolumns, List.map_congr_left hsources, hjoins',
    Expr.map_draft_congr hcondition, List.map_congr_left hgroupBy, Expr.map_draft_congr hhaving,
    horderBy']

theorem Piece.draft_congr_of {p : Piece}
    (h : ∀ e ∈ p.expr?.toList, e.draft d scope = e.draft d' scope) :
    p.draft d scope = p.draft d' scope := by
  cases p with
  | expr inner => exact h inner (by simp [Piece.expr?])
  | _ => rfl

theorem Expr.draft_congr (h : d.Agrees d') (e : Expr) : e.draft d scope = e.draft d' scope := by
  induction e using Expr.children_induction with
  | step e ih =>
    cases e with
    | literal l => exact l.draft_congr h
    | excluded column => exact Dialect.excludedDraft_congr h column
    | raw pieces =>
      have hpieces : ∀ p ∈ pieces, p.draft d scope = p.draft d' scope := fun p hp =>
        Piece.draft_congr_of fun e he =>
          ih e (List.mem_filterMap.2 ⟨p, hp, Option.mem_toList.1 he⟩)
      simp only [Expr.draft, Piece.drafts_eq_map, List.map_congr_left hpieces]
    | call function arguments distinct =>
      have harguments := List.map_congr_left (l := arguments) ih
      simp only [Expr.draft, Expr.drafts_eq_map, harguments]
    | list items separator =>
      have hitems := List.map_congr_left (l := items) ih
      simp only [Expr.draft, Expr.drafts_eq_map, hitems]
    | isIn tested items negated =>
      rw [children, List.forall_mem_cons] at ih
      simp only [Expr.draft, Expr.drafts_eq_map, ih.1, List.map_congr_left ih.2]
    | subquery select => simp only [Expr.draft, Select.draft_congr_of ih]
    | _ => simp_all [Expr.draft, children]

theorem Select.draft_congr (h : d.Agrees d') (s : Select) : s.draft d scope = s.draft d' scope :=
  Select.draft_congr_of fun e _ => e.draft_congr h

end Expressions

/-! ## Statements in a dialect with and without fallbacks -/

/-- The dialect with or without existence guards, and with or without `CASCADE` and `RESTRICT`. -/
def Dialect.allowing (d : Dialect) (guards behaviors : Bool) : Dialect :=
  { d with ifExists := guards, dropBehavior := behaviors }

section Statements
variable (d : Dialect) (g b : Bool) (scope : Scope)

theorem Dialect.agrees_allowing : (d.allowing g b).Agrees d := ⟨rfl, rfl⟩

@[simp] theorem Expr.draft_allowing : draft (d.allowing g b) scope = draft d scope :=
  funext fun e => e.draft_congr (d.agrees_allowing g b)

theorem Select.draft_allowing (s : Select) : s.draft (d.allowing g b) scope = s.draft d scope :=
  s.draft_congr (d.agrees_allowing g b)

@[simp] theorem Assignment.listDraft_allowing :
    listDraft (d.allowing g b) scope = listDraft d scope := by
  have hone : draft (d.allowing g b) scope = draft d scope := by
    funext a
    simp only [draft, Expr.draft_allowing]
  funext as
  simp only [listDraft, hone]

@[simp] theorem Conflict.draft_allowing :
    Conflict.draft (d.allowing g b) scope = Conflict.draft d scope := by
  funext c
  simp only [Conflict.draft, Conflict.targetDraft, Expr.draft_allowing,
    Assignment.listDraft_allowing]
  rfl

@[simp] theorem Dialect.returningDraft_allowing :
    (d.allowing g b).returningDraft scope = d.returningDraft scope := by
  funext returning
  simp only [Dialect.returningDraft, Expr.draft_allowing]
  rfl

theorem Insert.draft_allowing (i : Insert) : i.draft (d.allowing g b) scope = i.draft d scope := by
  have hrow : Insert.rowDraft (d.allowing g b) scope = Insert.rowDraft d scope := by
    funext row
    simp only [Insert.rowDraft, Expr.draft_allowing]
  simp only [Insert.draft, hrow, Conflict.draft_allowing, Dialect.returningDraft_allowing]
  rfl

theorem Update.draft_allowing (u : Update) : u.draft (d.allowing g b) scope = u.draft d scope := by
  simp only [Update.draft, Assignment.listDraft_allowing, Expr.draft_allowing,
    Dialect.returningDraft_allowing]
  rfl

theorem Delete.draft_allowing (x : Delete) : x.draft (d.allowing g b) scope = x.draft d scope := by
  simp only [Delete.draft, Expr.draft_allowing, Dialect.returningDraft_allowing]
  rfl

@[simp] theorem ColumnDefinition.draft_allowing :
    ColumnDefinition.draft (d.allowing g b) scope = ColumnDefinition.draft d scope := by
  have hconstraint (k : ColumnConstraint) : k.draft (d.allowing g b) scope = k.draft d scope := by
    cases k <;> simp only [ColumnConstraint.draft, Expr.draft_allowing]
    rfl
  funext c
  simp only [ColumnDefinition.draft, hconstraint]

@[simp] theorem TableConstraint.draft_allowing :
    TableConstraint.draft (d.allowing g b) scope = TableConstraint.draft d scope := by
  funext ⟨n, rule⟩
  cases rule <;> simp only [TableConstraint.draft, TableConstraint.Rule.draft, Expr.draft_allowing]

theorem AlterTable.draft_allowing (t : AlterTable) :
    t.draft (d.allowing g b) scope = t.draft d scope := by
  have haction : Action.draft (d.allowing g b) scope = Action.draft d scope := by
    funext a
    cases a <;> simp only [Action.draft, ColumnDefinition.draft_allowing]
  simp only [AlterTable.draft, haction]
  rfl

/-- Only statements that create or drop tables read the fallbacks of a dialect. -/
theorem Statement.draft_allowing {s : Statement} (hcreate : ∀ t, s ≠ .createTable t)
    (hdrop : ∀ t, s ≠ .dropTable t) : s.draft (d.allowing g b) = s.draft d := by
  cases s with
  | createTable t => exact absurd rfl (hcreate t)
  | dropTable t => exact absurd rfl (hdrop t)
  | select s => exact s.draft_allowing d g b _
  | insert i => exact i.draft_allowing d g b _
  | update u => exact u.draft_allowing d g b _
  | delete x => exact x.draft_allowing d g b _
  | alterTable t => exact t.draft_allowing d g b _
  | raw e => exact congrFun (Expr.draft_allowing d g b _) e

end Statements

/-! ## Drafts that differ in their events -/

namespace Draft

/-- The drafts have the same tokens and the same fault. -/
structure SameText (a b : Draft) : Prop where
  tokens : a.tokens = b.tokens
  fault : a.fault = b.fault

theorem SameText.refl (a : Draft) : a.SameText a := ⟨rfl, rfl⟩

theorem SameText.of_eq {a b : Draft} (h : a = b) : a.SameText b := h ▸ .refl a

theorem sameText_note (e : Event) : (note e).SameText empty := ⟨rfl, rfl⟩

theorem SameText.append {a a' b b' : Draft} (ha : a.SameText a') (hb : b.SameText b') :
    (a ++ b).SameText (a' ++ b') := by
  refine ⟨?_, by rw [fault_append, fault_append, ha.fault, hb.fault]⟩
  cases h : a.fault with
  | some e => rw [append_of_fault h, append_of_fault (ha.fault ▸ h), ha.tokens]
  | none => rw [tokens_append h, tokens_append (ha.fault ▸ h), ha.tokens, hb.tokens]

theorem SameText.before {a a' : Draft} (h : a.SameText a') (b : Draft) :
    (a ++ b).SameText (a' ++ b) := h.append (.refl b)

theorem SameText.after {b b' : Draft} (h : b.SameText b') (a : Draft) :
    (a ++ b).SameText (a ++ b') := (SameText.refl a).append h

theorem SameText.outcome_finish {a b : Draft} (h : a.SameText b) (d : Dialect) :
    (a.finish d).outcome = (b.finish d).outcome := by
  simp only [finish, h.fault, h.tokens]

end Draft

/-! ## What is not asked for -/

/-- The statement without `IF EXISTS` or `IF NOT EXISTS`. -/
def Statement.withoutGuard : Statement → Statement
  | .createTable t => .createTable { t with ifNotExists := false }
  | .dropTable t => .dropTable { t with ifExists := false }
  | s => s

/-- The statement without `CASCADE` or `RESTRICT`. -/
def Statement.withoutBehavior : Statement → Statement
  | .dropTable t => .dropTable { t with behavior := none }
  | s => s

/-- The clause without the columns of its target. -/
def Conflict.withoutColumns (c : Conflict) : Conflict :=
  { c with target := { c.target with columns := [] } }

/-- The statement without the columns of its conflict target. -/
def Statement.withoutTargetColumns : Statement → Statement
  | .insert i => .insert { i with conflict := i.conflict.map Conflict.withoutColumns }
  | s => s

section Erasure
variable (d : Dialect) (scope : Scope)

theorem Dialect.sameText_guardDraft (b : Bool) (asked : Bool) (guard : String) :
    (only asked ((d.allowing false b).guardDraft guard)).SameText empty := by
  cases asked
  · exact .refl _
  · exact sameText_note _

theorem CreateTable.draft_allowing_behavior (g b b' : Bool) (t : CreateTable) :
    t.draft (d.allowing g b) scope = t.draft (d.allowing g b') scope := by
  simp only [CreateTable.draft, ColumnDefinition.draft_allowing, TableConstraint.draft_allowing]
  rfl

theorem CreateTable.sameText_withoutGuard (b : Bool) (t : CreateTable) :
    (t.draft (d.allowing false b) scope).SameText
      ({ t with ifNotExists := false }.draft (d.allowing true b) scope) := by
  simp only [CreateTable.draft, ColumnDefinition.draft_allowing, TableConstraint.draft_allowing]
  have hguard := (d.sameText_guardDraft b t.ifNotExists "IF NOT EXISTS").after
    (require (!t.columns.isEmpty) (.emptyClause (.statement .createTable) .columnDefinitions) ++
      sql "CREATE " ++ only t.temporary (sql "TEMPORARY ") ++ sql "TABLE ")
  exact ((((hguard.before _).before _).before _).before _).before _

theorem DropTable.sameText_withoutGuard (b : Bool) (t : DropTable) :
    (t.draft (d.allowing false b)).SameText
      ({ t with ifExists := false }.draft (d.allowing true b)) := by
  exact (((d.sameText_guardDraft b t.ifExists "IF EXISTS").after _).before _).before _

theorem DropTable.sameText_withoutBehavior (g : Bool) (t : DropTable) :
    (t.draft (d.allowing g false)).SameText
      ({ t with behavior := none }.draft (d.allowing g true)) := by
  refine SameText.after ?_ _
  cases t.behavior with
  | none => exact .refl _
  | some behavior => exact sameText_note _

theorem Statement.sameText_withoutGuard (b : Bool) (s : Statement) :
    (s.draft (d.allowing false b)).SameText (s.withoutGuard.draft (d.allowing true b)) := by
  cases s with
  | createTable t => exact t.sameText_withoutGuard d _ b
  | dropTable t => exact t.sameText_withoutGuard d b
  | _ =>
    refine .of_eq ?_
    rw [withoutGuard, draft_allowing, draft_allowing] <;> simp

theorem Statement.sameText_withoutBehavior (g : Bool) (s : Statement) :
    (s.draft (d.allowing g false)).SameText (s.withoutBehavior.draft (d.allowing g true)) := by
  cases s with
  | createTable t => exact .of_eq (t.draft_allowing_behavior d _ g false true)
  | dropTable t => exact t.sameText_withoutBehavior d g
  | _ =>
    refine .of_eq ?_
    rw [withoutBehavior, draft_allowing, draft_allowing] <;> simp

/-! ## Conflict targets where unique keys decide -/

variable {d} (hd : d.upsertSyntax = .mySql)
include hd

theorem Conflict.sameText_checks (c : Conflict) :
    (c.checks d).SameText (c.withoutColumns.checks d) := by
  have hnote (condition : Bool) :
      (only condition (note (.conflictTargetOmitted d.name))).SameText empty := by
    cases condition
    · exact .refl _
    · exact sameText_note _
  simp only [Conflict.checks, hd, uniqueKeyChecks]
  exact ((hnote _).after _).before _

theorem Conflict.draft_withoutColumns (c : Conflict) :
    c.withoutColumns.draft d scope = c.draft d scope := by
  rcases c with ⟨target, action⟩
  cases action <;> simp only [Conflict.draft, hd, withoutColumns]

theorem Insert.sameText_withoutColumns (i : Insert) :
    (i.draft d scope).SameText
      ({ i with conflict := i.conflict.map Conflict.withoutColumns }.draft d scope) := by
  rcases i with ⟨table, columns, rows, _ | c, returning⟩
  · exact .refl _
  · have hchecks : (all [c.checks d]).SameText (all [c.withoutColumns.checks d]) :=
      (c.sameText_checks hd).before _
    have hdraft := c.draft_withoutColumns scope hd
    simp only [Insert.draft, Option.map_some, Option.toList_some, List.map_cons, List.map_nil,
      hdraft]
    refine (((SameText.before ?_ _).before _).before _).before _
    exact (((hchecks.after _).before _).before _).before _

end Erasure

/-! ## Renderings -/

theorem Token.layout_allowing (d : Dialect) (g b : Bool) (count : Nat) (ts : List Token) :
    layout (d.allowing g b) count ts = layout d count ts := by
  have hspelled (l : Literal) : (d.allowing g b).spelled l = d.spelled l := by
    cases l <;> rfl
  induction ts generalizing count with
  | nil => rfl
  | cons t ts ih =>
    cases t <;> simp only [layout, ih, hspelled] <;> rfl

/-- The outcome of a draft is a matter of its text, and not of what the dialect lets go unsaid. -/
theorem Draft.SameText.outcome_finish_allowing {a a' : Draft} (h : a.SameText a') (d : Dialect)
    (g g' b b' : Bool) :
    (a.finish (d.allowing g b)).outcome = (a'.finish (d.allowing g' b')).outcome := by
  simp only [finish, Token.rendering, Token.layout_allowing, h.fault, h.tokens]

/-- A dialect that lacks existence guards renders a statement as the dialect that has them renders
it without its guard; it is the same with `CASCADE` and `RESTRICT`, and with the columns of a
conflict target where unique keys decide what conflicts. -/
theorem Statement.fallbacks_erase (d : Dialect) (s : Statement) :
    (s.render { d with ifExists := false }).outcome =
        (s.withoutGuard.render { d with ifExists := true }).outcome ∧
      (s.render { d with dropBehavior := false }).outcome =
        (s.withoutBehavior.render { d with dropBehavior := true }).outcome ∧
      (d.upsertSyntax = .mySql →
        (s.render d).outcome = (s.withoutTargetColumns.render d).outcome) := by
  refine ⟨?_, ?_, fun hd => ?_⟩
  · exact (s.sameText_withoutGuard d d.dropBehavior).outcome_finish_allowing d false true _ _
  · exact (s.sameText_withoutBehavior d d.ifExists).outcome_finish_allowing d _ _ false true
  · cases s with
    | insert i => exact (i.sameText_withoutColumns _ hd).outcome_finish d
    | _ => rfl

/-- In MySQL it makes no difference which columns an upsert names as its target. -/
theorem Statement.fallbacks_erase_target_in_mysql :
    let s : Statement := .insert
      { table := "users", columns := ["id"], rows := [[.bind (.int 1)]]
        conflict := some ⟨⟨["id"], none⟩, .doUpdate [⟨"id", .excluded "id"⟩] none⟩ }
    Dialect.mysql.upsertSyntax = .mySql ∧
      (s.render .mysql).outcome = (s.withoutTargetColumns.render .mysql).outcome ∧
      (s.render .mysql).outcome = .ok
        ⟨"INSERT INTO `users` (`id`) VALUES (?) ON DUPLICATE KEY UPDATE `id` = VALUES(`id`)",
          [.int 1]⟩ := by
  intro s
  exact ⟨rfl, (fallbacks_erase .mysql s).2.2 rfl, rfl⟩

end PolySql
