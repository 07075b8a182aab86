import PolySql.Proofs.Children

/-!
# The leaves of a statement

Names, literals and binds are what a statement says beside its keywords. They are its leaves, in
the order of its clauses, and this order is also that of its text. The dialect decides only how a
leaf is said: a conflict target goes unsaid where unique keys decide what conflicts, and a column
of the row that met a conflict is qualified in the standard form only.

* `Leaf`, `Leaf.tokens` : a leaf, and the tokens that say it;
* `Expr.leaves`, `Statement.leaves` : the leaves in order;
* `Draft.Spells` : a draft says a list of leaves, or a part of it from the front if it stops.
-/

namespace PolySql

/-- What a statement says beside its keywords. -/
inductive Leaf where
  | name (name : String)
  /-- A column of a conflict target. -/
  | target (column : String)
  | literal (l : Literal)
  | bind (v : Value)
  /-- A column of the row that an INSERT would have written, had there been no conflict. -/
  | excluded (column : String)

/-- The tokens that say a leaf. -/
def Leaf.tokens (upsert : UpsertSyntax) : Leaf → List Token
  | .name n => [.name n]
  | .target column => if upsert = .mySql then [] else [.name column]
  | .literal l => [.literal l]
  | .bind v => [.bind v]
  | .excluded column =>
    if upsert = .mySql then [.name column] else [.name "excluded", .name column]

/-! ## Leaves in the order of the text -/

/-- The leaves of an expression that stand before those of its children. -/
def Expr.leavesBefore : Expr → List Leaf
  | .name n => [.name n]
  | .column table n => table.toList.map .name ++ [.name n]
  | .star table => table.toList.map .name
  | .literal l => [.literal l]
  | .bind v => [.bind v]
  | .excluded c => [.excluded c]
  | _ => []

/-- The leaves of an expression that stand after those of its children. -/
def Expr.leavesAfter : Expr → List Leaf
  | .aliased _ n => [.name n]
  | _ => []

/-- The leaves of an expression and of everything below it. -/
def Expr.leaves (e : Expr) : List Leaf :=
  e.leavesBefore ++ (e.children.attach.flatMap fun c => c.1.leaves) ++ e.leavesAfter
termination_by sizeOf e
decreasing_by exact sizeOf_lt_of_mem_children c.2

theorem Expr.leaves_eq (e : Expr) :
    e.leaves = e.leavesBefore ++ e.children.flatMap leaves ++ e.leavesAfter := by
  rw [leaves]
  simp

/-- The leaves of a SELECT, clause by clause. -/
def Select.leaves (s : Select) : List Leaf := s.exprs.flatMap Expr.leaves

def Assignment.leaves (a : Assignment) : List Leaf := .name a.column :: a.value.leaves

def ConflictAction.leaves : ConflictAction → List Leaf
  | .doNothing => []
  | .doUpdate assignments condition =>
    assignments.flatMap Assignment.leaves ++ condition.toList.flatMap Expr.leaves

/-- The target with its condition, then the action. -/
def Conflict.leaves (c : Conflict) : List Leaf :=
  c.target.columns.map .target ++ c.target.condition.toList.flatMap Expr.leaves ++ c.action.leaves

def Insert.leaves (i : Insert) : List Leaf :=
  .name i.table :: i.columns.map .name ++ i.rows.flatMap (List.flatMap Expr.leaves) ++
    i.conflict.toList.flatMap Conflict.leaves ++ i.returning.flatMap Expr.leaves

def Update.leaves (u : Update) : List Leaf :=
  .name u.table :: u.assignments.flatMap Assignment.leaves ++
    u.condition.toList.flatMap Expr.leaves ++ u.returning.flatMap Expr.leaves

def Delete.leaves (x : Delete) : List Leaf :=
  .name x.table :: x.condition.toList.flatMap Expr.leaves ++ x.returning.flatMap Expr.leaves

def Reference.leaves (r : Reference) : List Leaf := .name r.table :: r.columns.map .name

def ColumnConstraint.leaves : ColumnConstraint → List Leaf
  | .default e | .check e => e.leaves
  | .references r => r.leaves
  | _ => []

def ColumnDefinition.leaves (c : ColumnDefinition) : List Leaf :=
  .name c.name :: c.constraints.flatMap ColumnConstraint.leaves

def TableConstraint.Rule.leaves : TableConstraint.Rule → List Leaf
  | .primaryKey columns | .unique columns => columns.map .name
  | .check e => e.leaves
  | .foreignKey columns r => columns.map .name ++ r.leaves

def TableConstraint.leaves (c : TableConstraint) : List Leaf :=
  c.name.toList.map .name ++ c.rule.leaves

/-- Column definitions, then table constraints. -/
def CreateTable.leaves (t : CreateTable) : List Leaf :=
  .name t.name :: t.columns.flatMap ColumnDefinition.leaves ++
    t.constraints.flatMap TableConstraint.leaves

def AlterTable.Action.leaves : AlterTable.Action → List Leaf
  | .addColumn c => c.leaves
  | .dropColumn n | .renameTo n => [.name n]
  | .renameColumn old new => [.name old, .name new]

def AlterTable.leaves (t : AlterTable) : List Leaf :=
  .name t.name :: t.actions.flatMap Action.leaves

/-- The leaves of a statement, clause by clause. -/
def Statement.leaves : Statement → List Leaf
  | .select s => s.leaves
  | .insert i => i.leaves
  | .update u => u.leaves
  | .delete x => x.leaves
  | .createTable t => t.leaves
  | .alterTable t => t.leaves
  | .dropTable t => t.names.map .name
  | .raw e => e.leaves

/-! ## Drafts that say leaves -/

/-- The tokens that are no text. -/
def Token.atoms (ts : List Token) : List Token :=
  ts.filter fun
    | .sql _ => false
    | _ => true

@[simp] theorem Token.atoms_append (ts us : List Token) : atoms (ts ++ us) = atoms ts ++ atoms us :=
  List.filter_append _ _

namespace Draft

/-- A draft says all of the leaves, or those in front of the place where it stops. -/
def Spells (upsert : UpsertSyntax) (a : Draft) (ls : List Leaf) : Prop :=
  (a.fault = none → Token.atoms a.tokens = ls.flatMap (Leaf.tokens upsert)) ∧
    Token.atoms a.tokens <+: ls.flatMap (Leaf.tokens upsert)

variable {u : UpsertSyntax} {a b : Draft} {ls ms : List Leaf}

theorem Spells.of_atoms (h : Token.atoms a.tokens = ls.flatMap (Leaf.tokens u)) :
    a.Spells u ls :=
  ⟨fun _ => h, h ▸ List.prefix_rfl⟩

theorem spells_empty : empty.Spells u [] := .of_atoms rfl

theorem spells_sql (text : String) : (sql text).Spells u [] := .of_atoms rfl

theorem spells_name (n : String) : (name n).Spells u [.name n] := .of_atoms rfl

theorem spells_literal (l : Literal) : (literal l).Spells u [.literal l] := .of_atoms rfl

theorem spells_bind (v : Value) : (bind v).Spells u [.bind v] := .of_atoms rfl

theorem spells_note (e : Event) : (note e).Spells u [] := .of_atoms rfl

/-- A draft that stops at once says any leaves so far. -/
theorem spells_fail (e : Fault) (ls : List Leaf) : (fail e).Spells u ls :=
  ⟨fun h => by simp at h, List.nil_prefix⟩

theorem spells_require (condition : Bool) (e : Fault) : (require condition e).Spells u [] := by
  cases condition
  · exact spells_fail e []
  · exact spells_empty

/-- What comes second counts only if the first has not stopped. -/
theorem Spells.append_of (ha : a.Spells u ls) (hb : a.fault = none → b.Spells u ms) :
    (a ++ b).Spells u (ls ++ ms) := by
  unfold Spells
  rw [List.flatMap_append]
  cases h : a.fault with
  | some e =>
    rw [append_of_fault h]
    refine ⟨fun h' => ?_, ha.2.trans (List.prefix_append _ _)⟩
    rw [h] at h'
    cases h'
  | none =>
    obtain ⟨hbs, hbp⟩ := hb h
    rw [tokens_append h, Token.atoms_append, ha.1 h, fault_append, h]
    refine ⟨fun h' => ?_, (List.prefix_append_right_inj _).2 hbp⟩
    rw [hbs (by simpa using h')]

theorem Spells.append (ha : a.Spells u ls) (hb : b.Spells u ms) :
    (a ++ b).Spells u (ls ++ ms) :=
  ha.append_of fun _ => hb

theorem Spells.append_sql (ha : a.Spells u ls) (text : String) : (a ++ sql text).Spells u ls := by
  simpa using ha.append (spells_sql text)

theorem Spells.sql_append (ha : a.Spells u ls) (text : String) : (sql text ++ a).Spells u ls := by
  simpa using (spells_sql text).append ha

theorem Spells.parens (ha : a.Spells u ls) : (parens a).Spells u ls :=
  (ha.sql_append "(").append_sql ")"

theorem Spells.parensIf (ha : a.Spells u ls) (condition : Bool) :
    (parensIf condition a).Spells u ls := by
  cases condition
  · exact ha
  · exact ha.parens

theorem Spells.qualified (ha : a.Spells u ls) (table : Option String) :
    (qualified table a).Spells u (table.toList.map .name ++ ls) := by
  cases table with
  | none => exact ha
  | some t => exact ((spells_name t).append_sql ".").append ha

theorem spells_only_sql (condition : Bool) (text : String) :
    (only condition (sql text)).Spells u [] := by
  cases condition
  · exact spells_empty
  · exact spells_sql text

section Lists
variable {α : Type} {f : α → Draft} {g : α → List Leaf}

theorem spells_all (xs : List α) (h : ∀ x ∈ xs, (f x).Spells u (g x)) :
    (all (xs.map f)).Spells u (xs.flatMap g) := by
  induction xs with
  | nil => exact spells_empty
  | cons x xs ih =>
    rw [List.forall_mem_cons] at h
    exact h.1.append (ih h.2)

theorem spells_joined (separator : String) (xs : List α) (h : ∀ x ∈ xs, (f x).Spells u (g x)) :
    (joined separator (xs.map f)).Spells u (xs.flatMap g) := by
  induction xs with
  | nil => exact spells_empty
  | cons x xs ih =>
    rw [List.forall_mem_cons] at h
    cases xs with
    | nil => simpa [joined] using h.1
    | cons y ys => exact h.1.append ((ih h.2).sql_append separator)

theorem spells_clause (keyword : String) (xs : List α) (h : ∀ x ∈ xs, (f x).Spells u (g x)) :
    (clause keyword (xs.map f)).Spells u (xs.flatMap g) := by
  cases xs with
  | nil => exact spells_empty
  | cons x xs => exact (spells_joined ", " (x :: xs) h).sql_append keyword

theorem spells_led (keyword : String) (x : Option α)
    (h : ∀ y ∈ x.toList, (f y).Spells u (g y)) :
    (led keyword (x.map f)).Spells u (x.toList.flatMap g) := by
  cases x with
  | none => exact spells_empty
  | some y => simpa [led] using (h y (by simp)).sql_append keyword

end Lists

theorem spells_names (ns : List String) : (names ns).Spells u (ns.map .name) := by
  rw [List.map_eq_flatMap]
  exact spells_joined ", " ns fun n _ => spells_name n

end Draft

end PolySql
