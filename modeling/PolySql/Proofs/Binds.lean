import PolySql.Draft.Session
import PolySql.Proofs.Spelling

/-!
# Every bind is recorded, in the order of the text

The binds of a tree are the values of its bind leaves, raw pieces included, clause by clause. A
call that succeeds records exactly them, whatever was written before; a call that stops records
those in front of the place where it stops. Nothing of a conflict clause is lost on the way, for
what a dialect cannot say of it has stopped the call before.

* `Expr.binds`, `Statement.binds` : the values that are to be recorded;
* `Expr.length_binds`, `Select.length_binds` : the counters agree with them;
* `Session.Records` : what a call adds to the binds;
* `Session.records_binds_in_order` : the main statement.
-/

namespace PolySql

/-- The value of a bind. -/
def Leaf.bound? : Leaf → Option Value
  | .bind v => some v
  | _ => none

/-- The values of the binds of an expression and of everything below it. -/
def Expr.binds (e : Expr) : List Value := e.leaves.filterMap Leaf.bound?

/-- The values of the binds of a SELECT, clause by clause. -/
def Select.binds (s : Select) : List Value := s.exprs.flatMap Expr.binds

/-- The values of the binds of a conflict clause: those of the condition on the target, of the
assignments, and of the condition on the update. -/
def Conflict.binds (c : Conflict) : List Value :=
  c.target.condition.toList.flatMap Expr.binds ++
    match c.action with
    | .doNothing => []
    | .doUpdate assignments condition =>
      assignments.flatMap (fun a => a.value.binds) ++ condition.toList.flatMap Expr.binds

/-- The values of the binds of a statement, clause by clause. -/
def Statement.binds (s : Statement) : List Value := s.leaves.filterMap Leaf.bound?

/-! ## Binds of a tree -/

theorem filterMap_bound?_flatMap {α : Type} (xs : List α) (f : α → List Leaf) :
    (xs.flatMap f).filterMap Leaf.bound? = xs.flatMap fun x => (f x).filterMap Leaf.bound? := by
  induction xs with
  | nil => rfl
  | cons x xs ih => rw [List.flatMap_cons, List.filterMap_append, ih, List.flatMap_cons]

theorem filterMap_bound?_names (ns : List String) :
    (ns.map Leaf.name).filterMap Leaf.bound? = [] := by
  induction ns with
  | nil => rfl
  | cons n ns ih => exact ih

theorem Expr.binds_eq (e : Expr) :
    e.binds = e.leavesBefore.filterMap Leaf.bound? ++ e.children.flatMap binds := by
  have hafter : e.leavesAfter.filterMap Leaf.bound? = [] := by
    cases e <;> rfl
  rw [binds, leaves_eq, List.filterMap_append, List.filterMap_append, hafter,
    filterMap_bound?_flatMap, List.append_nil]
  rfl

/-! ## The counters -/

theorem Expr.bindCounts_append (es fs : List Expr) :
    bindCounts (es ++ fs) = bindCounts es + bindCounts fs := by
  induction es with
  | nil => exact (Nat.zero_add _).symm
  | cons e es ih => rw [List.cons_append, bindCounts, bindCounts, ih, Nat.add_assoc]

theorem Expr.bindCount?_eq (e : Option Expr) : bindCount? e = bindCounts e.toList := by
  cases e <;> rfl

theorem Join.bindCounts_eq (js : List Join) :
    bindCounts js = Expr.bindCounts (js.flatMap exprs) := by
  induction js with
  | nil => rfl
  | cons j js ih =>
    rcases j with ⟨kind, table, condition⟩
    rw [List.flatMap_cons, Expr.bindCounts_append, ← ih, exprs, Expr.bindCounts,
      ← Expr.bindCount?_eq]
    rfl

theorem Order.bindCounts_eq (os : List Order) : bindCounts os = Expr.bindCounts (os.map key) := by
  induction os with
  | nil => rfl
  | cons o os ih =>
    rcases o with ⟨key, direction⟩
    rw [List.map_cons, Expr.bindCounts, ← ih]
    rfl

theorem Piece.bindCounts_eq (ps : List Piece) :
    bindCounts ps = Expr.bindCounts (ps.filterMap expr?) := by
  induction ps with
  | nil => rfl
  | cons p ps ih =>
    cases p <;>
      simp [List.filterMap_cons, bindCounts, bindCount, expr?, Expr.bindCounts, Expr.bindCount, ih]

theorem Select.bindCount_eq (s : Select) : s.bindCount = Expr.bindCounts s.exprs := by
  rcases s with ⟨_, columns, sources, joins, condition, groupBy, having, orderBy, _, _, _⟩
  simp only [bindCount, exprs, Expr.bindCounts_append, Expr.bindCount?_eq, Join.bindCounts_eq,
    Order.bindCounts_eq]

/-- An expression counts the binds of its children, and itself if it is one. -/
theorem Expr.bindCount_eq (e : Expr) :
    e.bindCount = (e.leavesBefore.filterMap Leaf.bound?).length + bindCounts e.children := by
  cases e with
  | column table n => cases table <;> rfl
  | star table => cases table <;> rfl
  | raw pieces =>
    rw [bindCount, Piece.bindCounts_eq]
    exact (Nat.zero_add _).symm
  | call | list | isIn => exact (Nat.zero_add _).symm
  | subquery select =>
    rw [bindCount, Select.bindCount_eq]
    exact (Nat.zero_add _).symm
  | _ =>
    simp [bindCount, bindCounts, leavesBefore, children, List.filterMap_cons, Leaf.bound?,
      Nat.add_assoc]

theorem Expr.length_flatMap_binds {es : List Expr}
    (h : ∀ e ∈ es, e.binds.length = e.bindCount) : (es.flatMap binds).length = bindCounts es := by
  induction es with
  | nil => rfl
  | cons e es ih =>
    obtain ⟨he, hes⟩ := List.forall_mem_cons.1 h
    rw [List.flatMap_cons, List.length_append, he, ih hes, bindCounts]

theorem Expr.length_binds (e : Expr) : e.binds.length = e.bindCount := by
  induction e using Expr.children_induction with
  | step e ih => rw [binds_eq, List.length_append, length_flatMap_binds ih, bindCount_eq]

theorem Select.length_binds (s : Select) : s.binds.length = s.bindCount := by
  rw [binds, Expr.length_flatMap_binds fun e _ => e.length_binds, bindCount_eq]

/-! ## What a draft records -/

theorem Token.binds_atoms (ts : List Token) : binds (atoms ts) = binds ts := by
  induction ts with
  | nil => rfl
  | cons t ts ih => cases t <;> simpa [atoms, binds] using ih

theorem Token.binds_flatMap_tokens (u : UpsertSyntax) (ls : List Leaf) :
    binds (ls.flatMap (Leaf.tokens u)) = ls.filterMap Leaf.bound? := by
  induction ls with
  | nil => rfl
  | cons l ls ih =>
    rw [List.flatMap_cons, binds_append, ih]
    cases l with
    | target column => cases u <;> rfl
    | excluded column => cases u <;> rfl
    | _ => rfl

theorem Token.binds_prefix {ts us : List Token} (h : ts <+: us) : binds ts <+: binds us := by
  obtain ⟨rest, rfl⟩ := h
  rw [binds_append]
  exact List.prefix_append _ _

theorem Draft.Spells.binds_eq {u : UpsertSyntax} {a : Draft} {ls : List Leaf} (h : a.Spells u ls)
    (hf : a.fault = none) : Token.binds a.tokens = ls.filterMap Leaf.bound? := by
  rw [← Token.binds_atoms, h.1 hf, Token.binds_flatMap_tokens]

/-- A draft that stops has recorded its binds up to there. -/
theorem Draft.Spells.binds_prefix {u : UpsertSyntax} {a : Draft} {ls : List Leaf}
    (h : a.Spells u ls) : Token.binds a.tokens <+: ls.filterMap Leaf.bound? := by
  rw [← Token.binds_atoms, ← Token.binds_flatMap_tokens u]
  exact Token.binds_prefix h.2

/-! ## What a call records -/

theorem Conflict.filterMap_leaves (c : Conflict) : c.leaves.filterMap Leaf.bound? = c.binds := by
  rcases c with ⟨⟨columns, condition⟩, action⟩
  have htarget : (columns.map Leaf.target).filterMap Leaf.bound? = [] := by
    induction columns with
    | nil => rfl
    | cons column columns ih => exact ih
  have hassignment (a : Assignment) : a.leaves.filterMap Leaf.bound? = a.value.binds := rfl
  cases action with
  | doNothing =>
    simp only [leaves, Conflict.binds, ConflictAction.leaves, List.filterMap_append, htarget,
      filterMap_bound?_flatMap, List.nil_append]
    rfl
  | doUpdate assignments condition =>
    simp only [leaves, Conflict.binds, ConflictAction.leaves, List.filterMap_append, htarget,
      filterMap_bound?_flatMap, hassignment, List.nil_append]
    rfl

theorem Insert.filterMap_leaves (i : Insert) :
    i.leaves.filterMap Leaf.bound? = i.rows.flatMap (List.flatMap Expr.binds) ++
      i.conflict.toList.flatMap Conflict.binds ++ i.returning.flatMap Expr.binds := by
  have hrow (row : List Expr) :
      (row.flatMap Expr.leaves).filterMap Leaf.bound? = row.flatMap Expr.binds :=
    filterMap_bound?_flatMap row Expr.leaves
  have htable (ls : List Leaf) :
      (Leaf.name i.table :: ls).filterMap Leaf.bound? = ls.filterMap Leaf.bound? := rfl
  simp only [leaves, List.cons_append, htable, List.filterMap_append, filterMap_bound?_names,
    filterMap_bound?_flatMap, hrow, Conflict.filterMap_leaves, List.nil_append]

namespace Session

/-- A call adds these values to the binds, or those in front of the place where it stops. -/
def Records (d : Dialect) (x : Session) (call : Call) (vs : List Value) : Prop :=
  ∃ added, ((x.apply d call).1.rendering d).binds = (x.rendering d).binds ++ added ∧
    added <+: vs ∧ ((x.apply d call).2 = none → added = vs)

theorem records_of_spells {d : Dialect} {x : Session} {call : Call} {ls : List Leaf}
    (h : (call.draft d x.scope).Spells d.upsertSyntax ls) :
    x.Records d call (ls.filterMap Leaf.bound?) :=
  ⟨Token.binds (call.draft d x.scope).tokens, Token.binds_append _ _, h.binds_prefix, h.binds_eq⟩

/-- Whatever was written before, an expression and a statement record their binds in order. The
counters give their number, and all of a conflict clause is among them. -/
theorem records_binds_in_order (d : Dialect) (x : Session) :
    (∀ e : Expr, x.Records d (.expr e) e.binds ∧ e.binds.length = e.bindCount) ∧
    (∀ s : Statement, x.Records d (.statement s) s.binds ∧ x.Records d (.clauses s) s.binds) ∧
    (∀ s : Select, (Statement.select s).binds = s.binds ∧ s.binds.length = s.bindCount) ∧
    (∀ i : Insert, (Statement.insert i).binds = i.rows.flatMap (List.flatMap Expr.binds) ++
      i.conflict.toList.flatMap Conflict.binds ++ i.returning.flatMap Expr.binds) := by
  refine ⟨fun e => ⟨records_of_spells (e.draft_spells d x.scope), e.length_binds⟩,
    fun s => ⟨?_, ?_⟩, fun s => ⟨?_, s.length_binds⟩, fun i => i.filterMap_leaves⟩
  · exact records_of_spells (s.draftIn_spells d (.statement s.kind))
  · exact records_of_spells (s.draftIn_spells d x.scope)
  · exact filterMap_bound?_flatMap s.exprs Expr.leaves

end Session

end PolySql
