import PolySql.Proofs.Masking

/-!
# Writing goes by the shape of a tree

A tree and the same tree under a mask have drafts that look alike under the mask, with the same
events and the same fault; so have two dialects that differ in their placeholders. Nothing that the
writing decides, parentheses and checks included, depends on what a mask hides.

* `Expr.masked_draft`, `Select.masked_draft` : expressions and SELECT statements;
* `Statement.masked_draftIn` : all statements;
* `Session.Call.masked_draft` : single calls.
-/

namespace PolySql

open Draft

/-- The dialect with placeholders of another kind. -/
def Dialect.withPlaceholders (d : Dialect) (p : PlaceholderStyle) : Dialect :=
  { d with placeholderStyle := p }

section Fields
variable (d : Dialect) (p : PlaceholderStyle)

@[simp] theorem Dialect.withPlaceholders_name : (d.withPlaceholders p).name = d.name := rfl

@[simp] theorem Dialect.withPlaceholders_upsertSyntax :
    (d.withPlaceholders p).upsertSyntax = d.upsertSyntax := rfl

@[simp] theorem Dialect.withPlaceholders_returning :
    (d.withPlaceholders p).returning = d.returning := rfl

@[simp] theorem Dialect.withPlaceholders_conflictTargetRequired :
    (d.withPlaceholders p).conflictTargetRequired = d.conflictTargetRequired := rfl

@[simp] theorem Dialect.withPlaceholders_multipleAlterActions :
    (d.withPlaceholders p).multipleAlterActions = d.multipleAlterActions := rfl

@[simp] theorem Dialect.autoIncrementDraft_withPlaceholders :
    (d.withPlaceholders p).autoIncrementDraft = d.autoIncrementDraft := rfl

@[simp] theorem Dialect.guardDraft_withPlaceholders (guard : String) :
    (d.withPlaceholders p).guardDraft guard = d.guardDraft guard := rfl

@[simp] theorem Dialect.behaviorDraft_withPlaceholders (b : DropTable.Behavior) :
    b.draft (d.withPlaceholders p) = b.draft d := rfl

end Fields

variable (m : Masking) (d : Dialect) (p : PlaceholderStyle) (scope : Scope)

/-! ## Expressions -/

@[simp] theorem Expr.parensUnder_masked (parent : BinaryOp) (onRight : Bool) (e : Expr) :
    (e.masked m).parensUnder parent onRight = e.parensUnder parent onRight := by
  cases e <;> rfl

@[simp] theorem Expr.parensAfter_masked (op : UnaryOp) (e : Expr) :
    (e.masked m).parensAfter op = e.parensAfter op := by
  cases e <;> simp [masked, parensAfter]

theorem Dialect.masked_excludedDraft (column : String) :
    ((d.withPlaceholders p).excludedDraft (m.name column)).masked m =
      (d.excludedDraft column).masked m := by
  unfold Dialect.excludedDraft
  cases h : d.upsertSyntax <;> simp [h]

theorem Lock.masked_draft (l : Lock) : l.draft.masked m = l.draft := by
  cases l <;> simp [Lock.draft]

theorem Join.masked_draft_of {j : Join}
    (h : ∀ e ∈ j.exprs, ((e.masked m).draft (d.withPlaceholders p) scope).masked m =
      (e.draft d scope).masked m) :
    ((j.masked m).draft (d.withPlaceholders p) scope).masked m = (j.draft d scope).masked m := by
  rcases j with ⟨kind, table, condition⟩
  rw [Join.exprs, List.forall_mem_cons] at h
  cases condition with
  | none => simp [Join.masked, Join.draft, h.1]
  | some e =>
    have he := h.2 e (by simp)
    simp [Join.masked, Join.draft, h.1, he]

theorem Order.masked_draft_of {o : Order}
    (h : ((o.key.masked m).draft (d.withPlaceholders p) scope).masked m =
      (o.key.draft d scope).masked m) :
    ((o.masked m).draft (d.withPlaceholders p) scope).masked m = (o.draft d scope).masked m := by
  rcases o with ⟨key, direction⟩
  simp [Order.masked, Order.draft, h]

theorem Option.masked_drafts {x : Option Expr}
    (h : ∀ e ∈ x.toList, ((e.masked m).draft (d.withPlaceholders p) scope).masked m =
      (e.draft d scope).masked m) :
    (x.map fun e => ((e.masked m).draft (d.withPlaceholders p) scope).masked m) =
      x.map fun e => (e.draft d scope).masked m := by
  cases x with
  | none => rfl
  | some e => rw [Option.map_some, h e (by simp), Option.map_some]

theorem Select.masked_draft_of {s : Select}
    (h : ∀ e ∈ s.exprs, ((e.masked m).draft (d.withPlaceholders p) scope).masked m =
      (e.draft d scope).masked m) :
    ((s.masked m).draft (d.withPlaceholders p) scope).masked m = (s.draft d scope).masked m := by
  rcases s with
    ⟨distinct, columns, sources, joins, condition, groupBy, having, orderBy, limit, offset, lock⟩
  simp only [Select.exprs, List.forall_mem_append, List.forall_mem_flatMap, List.forall_mem_map]
    at h
  obtain ⟨⟨⟨⟨⟨⟨hcolumns, hsources⟩, hjoins⟩, hcondition⟩, hgroupBy⟩, hhaving⟩, horderBy⟩ := h
  have hjoins' := List.map_congr_left fun j hj => Join.masked_draft_of m d p scope (hjoins j hj)
  have horderBy' := List.map_congr_left fun o ho =>
    Order.masked_draft_of m d p scope (horderBy o ho)
  simp [Select.masked, Select.draft, Function.comp_def, apply_ite (Draft.masked m),
    Lock.masked_draft, hjoins', horderBy', List.map_congr_left hcolumns,
    List.map_congr_left hsources, List.map_congr_left hgroupBy,
    Option.masked_drafts m d p scope hcondition, Option.masked_drafts m d p scope hhaving]

theorem Piece.masked_draft_of {q : Piece}
    (h : ∀ e ∈ q.expr?.toList, ((e.masked m).draft (d.withPlaceholders p) scope).masked m =
      (e.draft d scope).masked m) :
    ((q.masked m).draft (d.withPlaceholders p) scope).masked m = (q.draft d scope).masked m := by
  cases q with
  | expr inner => exact h inner (by simp [Piece.expr?])
  | _ => simp [Piece.masked, Piece.draft]

/-- Writing an expression goes by its shape: whatever a mask replaces and whatever the placeholders
are, the draft is the same under the mask. -/
theorem Expr.masked_draft (e : Expr) :
    ((e.masked m).draft (d.withPlaceholders p) scope).masked m = (e.draft d scope).masked m := by
  induction e using Expr.children_induction with
  | step e ih =>
    cases e with
    | column table n => cases table <;> simp [masked, Expr.draft]
    | star table => cases table <;> simp [masked, Expr.draft]
    | literal l => simp [masked, Expr.draft, Literal.draft]
    | raw pieces =>
      have hpieces : ∀ q ∈ pieces, ((q.masked m).draft (d.withPlaceholders p) scope).masked m =
          (q.draft d scope).masked m := fun q hq =>
        Piece.masked_draft_of m d p scope fun e he =>
          ih e (List.mem_filterMap.2 ⟨q, hq, Option.mem_toList.1 he⟩)
      simp [masked, Expr.draft, Function.comp_def, List.map_congr_left hpieces]
    | call function arguments distinct =>
      have harguments := List.map_congr_left (l := arguments) ih
      simp [masked, Expr.draft, Function.comp_def, harguments]
    | list items separator =>
      have hitems := List.map_congr_left (l := items) ih
      simp [masked, Expr.draft, Function.comp_def, hitems]
    | isIn tested items negated =>
      rw [children, List.forall_mem_cons] at ih
      simp [masked, Expr.draft, Function.comp_def, ih.1, List.map_congr_left ih.2]
    | subquery select =>
      simp [masked, Expr.draft, Select.masked_draft_of m d p scope ih]
    | excluded column =>
      exact d.masked_excludedDraft m p column
    | _ => simp_all [masked, Expr.draft, children]

theorem Select.masked_draft (s : Select) :
    ((s.masked m).draft (d.withPlaceholders p) scope).masked m = (s.draft d scope).masked m :=
  Select.masked_draft_of m d p scope fun e _ => e.masked_draft m d p scope

/-! ## Conflict clauses -/

theorem Assignment.masked_draft (a : Assignment) :
    ((a.masked m).draft (d.withPlaceholders p) scope).masked m = (a.draft d scope).masked m := by
  simp [Assignment.masked, Assignment.draft, Expr.masked_draft]

theorem Assignment.masked_listDraft (as : List Assignment) :
    (listDraft (d.withPlaceholders p) scope (as.map (Assignment.masked m))).masked m =
      (listDraft d scope as).masked m := by
  simp [listDraft, Function.comp_def, Assignment.masked_draft]

/-- What a dialect demands of a conflict clause is a matter of its shape. -/
theorem Conflict.checks_masked (c : Conflict) :
    (c.masked m).checks (d.withPlaceholders p) = c.checks d := by
  rcases c with ⟨⟨columns, condition⟩, action⟩
  cases action <;>
    simp [Conflict.checks, Conflict.standardChecks, Conflict.uniqueKeyChecks, Conflict.masked,
      ConflictTarget.masked, ConflictAction.masked]

theorem Conflict.becomesIgnore_masked (c : Conflict) :
    (c.masked m).becomesIgnore (d.withPlaceholders p) = c.becomesIgnore d := by
  rcases c with ⟨target, action⟩
  unfold Conflict.becomesIgnore
  rw [Dialect.withPlaceholders_upsertSyntax]
  cases d.upsertSyntax <;> cases action <;> rfl

theorem Conflict.masked_targetDraft (t : ConflictTarget) :
    (targetDraft (d.withPlaceholders p) scope (t.masked m)).masked m =
      (targetDraft d scope t).masked m := by
  rcases t with ⟨columns, condition⟩
  cases columns <;>
    simp [targetDraft, ConflictTarget.masked, Function.comp_def, Expr.masked_draft]

/-- The form of a clause is decided by the dialect's syntax and the kind of its action, and a mask
changes neither. -/
theorem Conflict.masked_draft (c : Conflict) :
    ((c.masked m).draft (d.withPlaceholders p) scope).masked m = (c.draft d scope).masked m := by
  rcases c with ⟨target, action⟩
  unfold Conflict.draft
  rw [Dialect.withPlaceholders_upsertSyntax]
  cases d.upsertSyntax <;> cases action <;>
    simp [Conflict.masked, ConflictAction.masked, Conflict.masked_targetDraft,
      Assignment.masked_listDraft, Function.comp_def, Expr.masked_draft]

/-! ## Statements -/

theorem Dialect.masked_returningDraft (returning : List Expr) :
    ((d.withPlaceholders p).returningDraft scope (returning.map (Expr.masked m))).masked m =
      (d.returningDraft scope returning).masked m := by
  simp [Dialect.returningDraft, Dialect.returningCheck, Function.comp_def, Expr.masked_draft]

/-- The first row of the wrong width stays the first. -/
theorem Insert.widthFault?_masked (i : Insert) : (i.masked m).widthFault? = i.widthFault? := by
  unfold Insert.widthFault?
  simp [Insert.masked, List.find?_map, Function.comp_def]

theorem Insert.masked_rowDraft (row : List Expr) :
    (rowDraft (d.withPlaceholders p) scope (row.map (Expr.masked m))).masked m =
      (rowDraft d scope row).masked m := by
  simp [rowDraft, Function.comp_def, Expr.masked_draft]

theorem Insert.masked_draft (i : Insert) :
    ((i.masked m).draft (d.withPlaceholders p) scope).masked m = (i.draft d scope).masked m := by
  have hwidth := i.widthFault?_masked m
  have hignore : (i.masked m).conflict.any (Conflict.becomesIgnore (d.withPlaceholders p)) =
      i.conflict.any (Conflict.becomesIgnore d) := by
    rcases i with ⟨_, _, _, _ | c, _⟩
    · rfl
    · exact c.becomesIgnore_masked m d p
  have hconflict (f g : Conflict → Draft)
      (h : ∀ c, (f (c.masked m)).masked m = (g c).masked m) :
      (all ((i.masked m).conflict.toList.map f)).masked m =
        (all (i.conflict.toList.map g)).masked m := by
    rcases i with ⟨_, _, _, _ | c, _⟩
    · rfl
    · simp [Insert.masked, h]
  have hchecks := hconflict _ _ fun c =>
    congrArg (Draft.masked m) (c.checks_masked m d p)
  have hdraft := hconflict _ _ fun c => c.masked_draft m d p scope
  unfold Insert.draft
  rw [hwidth, hignore]
  simp only [masked_append, hchecks, hdraft]
  simp [Insert.masked, Function.comp_def, Insert.masked_rowDraft, Dialect.masked_returningDraft]

theorem Update.masked_draft (u : Update) :
    ((u.masked m).draft (d.withPlaceholders p) scope).masked m = (u.draft d scope).masked m := by
  simp [Update.masked, Update.draft, Dialect.returningCheck, Assignment.masked_listDraft,
    Function.comp_def, Expr.masked_draft, Dialect.masked_returningDraft]

theorem Delete.masked_draft (x : Delete) :
    ((x.masked m).draft (d.withPlaceholders p) scope).masked m = (x.draft d scope).masked m := by
  simp [Delete.masked, Delete.draft, Dialect.returningCheck, Function.comp_def,
    Expr.masked_draft, Dialect.masked_returningDraft]

theorem Reference.masked_draft (r : Reference) :
    (r.masked m).draft.masked m = r.draft.masked m := by
  simp [Reference.masked, Reference.draft, Function.comp_def]

theorem Dialect.masked_autoIncrementDraft : d.autoIncrementDraft.masked m = d.autoIncrementDraft := by
  simp [Dialect.autoIncrementDraft]

theorem Dialect.masked_guardDraft (guard : String) :
    (d.guardDraft guard).masked m = d.guardDraft guard := by
  unfold Dialect.guardDraft
  split <;> simp

theorem ColumnConstraint.masked_draft (k : ColumnConstraint) :
    ((k.masked m).draft (d.withPlaceholders p) scope).masked m = (k.draft d scope).masked m := by
  cases k <;>
    simp [ColumnConstraint.masked, ColumnConstraint.draft, Dialect.masked_autoIncrementDraft,
      Expr.masked_draft, Reference.masked_draft]

theorem ColumnDefinition.masked_draft (c : ColumnDefinition) :
    ((c.masked m).draft (d.withPlaceholders p) scope).masked m = (c.draft d scope).masked m := by
  simp [ColumnDefinition.masked, ColumnDefinition.draft, Function.comp_def,
    ColumnConstraint.masked_draft]

theorem TableConstraint.masked_draft (c : TableConstraint) :
    ((c.masked m).draft (d.withPlaceholders p) scope).masked m = (c.draft d scope).masked m := by
  rcases c with ⟨n, rule⟩
  cases rule <;>
    simp [TableConstraint.masked, TableConstraint.draft, TableConstraint.Rule.masked,
      TableConstraint.Rule.draft, Function.comp_def, Expr.masked_draft, Reference.masked_draft]

theorem CreateTable.masked_draft (t : CreateTable) :
    ((t.masked m).draft (d.withPlaceholders p) scope).masked m = (t.draft d scope).masked m := by
  simp [CreateTable.masked, CreateTable.draft, Function.comp_def, Dialect.masked_guardDraft,
    ColumnDefinition.masked_draft, TableConstraint.masked_draft]

theorem AlterTable.Action.masked_draft (a : Action) :
    ((a.masked m).draft (d.withPlaceholders p) scope).masked m = (a.draft d scope).masked m := by
  cases a <;> simp [Action.masked, Action.draft, ColumnDefinition.masked_draft]

theorem AlterTable.masked_draft (t : AlterTable) :
    ((t.masked m).draft (d.withPlaceholders p) scope).masked m = (t.draft d scope).masked m := by
  simp [AlterTable.masked, AlterTable.draft, Function.comp_def, Action.masked_draft]

theorem DropTable.masked_draft (t : DropTable) :
    ((t.masked m).draft (d.withPlaceholders p)).masked m = (t.draft d).masked m := by
  have hbehavior (b : Behavior) : (b.draft d).masked m = b.draft d := by
    unfold Behavior.draft
    split <;> simp
  simp [DropTable.masked, DropTable.draft, Function.comp_def, Dialect.masked_guardDraft,
    hbehavior]

theorem Statement.masked_draftIn (s : Statement) :
    ((s.masked m).draftIn (d.withPlaceholders p) scope).masked m = (s.draftIn d scope).masked m := by
  cases s with
  | select s => exact s.masked_draft m d p scope
  | insert i => exact i.masked_draft m d p scope
  | update u => exact u.masked_draft m d p scope
  | delete x => exact x.masked_draft m d p scope
  | createTable t => exact t.masked_draft m d p scope
  | alterTable t => exact t.masked_draft m d p scope
  | dropTable t => exact t.masked_draft m d p
  | raw e => exact e.masked_draft m d p scope

@[simp] theorem Statement.kind_masked (s : Statement) : (s.masked m).kind = s.kind := by
  cases s <;> rfl

/-- A statement names itself as the scope, and a mask does not change what kind it is. -/
theorem Session.Call.masked_draft (call : Session.Call) :
    ((call.masked m).draft (d.withPlaceholders p) scope).masked m =
      (call.draft d scope).masked m := by
  cases call with
  | statement s =>
    rw [Session.Call.masked, Session.Call.draft, Statement.draft, Statement.kind_masked]
    exact s.masked_draftIn m d p (.statement s.kind)
  | clauses s => exact s.masked_draftIn m d p scope
  | expr e => exact e.masked_draft m d p scope
  | list items separator =>
    simp [Session.Call.masked, Session.Call.draft, Function.comp_def, Expr.masked_draft]
  | _ => simp [Session.Call.masked, Session.Call.draft, Function.comp_def]

end PolySql
