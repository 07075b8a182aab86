import Mathlib.Data.List.Basic
import PolySql.Statement

/-!
# What stands below an expression

Whatever is said of all expressions, sub-selects and raw pieces included, goes by one recursion: an
expression has `children`, in the order of its text, and each of them is smaller.

* `Expr.children`, `Select.exprs` : the expressions right below;
* `Expr.children_induction` : what passes from the children to the expression holds everywhere;
* `Expr.nodes` : an expression and all that stands below it, each before its children;
* `Statement.exprs` : the expressions right below a statement.
-/

namespace PolySql

/-- The expression that a piece stands for; text stands for none. -/
def Piece.expr? : Piece → Option Expr
  | .sql _ => none
  | .bind v => some (.bind v)
  | .name n => some (.name n)
  | .expr inner => some inner

/-- The joined table, and the condition after it. -/
def Join.exprs (j : Join) : List Expr := j.table :: j.condition.toList

/-- The expressions of a SELECT in the order of its clauses. -/
def Select.exprs (s : Select) : List Expr :=
  s.columns ++ s.sources ++ s.joins.flatMap Join.exprs ++ s.condition.toList ++ s.groupBy ++
    s.having.toList ++ s.orderBy.map Order.key

/-- The expressions right below an expression, in the order of its text. -/
def Expr.children : Expr → List Expr
  | .raw pieces => pieces.filterMap Piece.expr?
  | .call _ arguments _ => arguments
  | .binary left _ right => [left, right]
  | .unary _ operand => [operand]
  | .list items _ => items
  | .group inner => [inner]
  | .aliased inner _ => [inner]
  | .isNull tested _ => [tested]
  | .isIn tested items _ => tested :: items
  | .between tested low high _ => [tested, low, high]
  | .subquery select => select.exprs
  | _ => []

/-! ## Children are smaller -/

theorem Join.sizeOf_lt_of_mem_exprs {j : Join} {e : Expr} (h : e ∈ j.exprs) :
    sizeOf e < sizeOf j := by
  rcases j with ⟨kind, table, condition⟩
  simp only [exprs, List.mem_cons, Option.mem_toList] at h
  rw [mk.sizeOf_spec]
  rcases h with rfl | rfl
  · omega
  · simp only [Option.some.sizeOf_spec]
    omega

theorem Select.sizeOf_lt_of_mem_exprs {s : Select} {e : Expr} (h : e ∈ s.exprs) :
    sizeOf e < sizeOf s := by
  rcases s with ⟨_, columns, sources, joins, condition, groupBy, having, orderBy, _, _, _⟩
  simp only [exprs, List.mem_append, List.mem_flatMap, List.mem_map, Option.mem_toList] at h
  rw [mk.sizeOf_spec]
  rcases h with (((((h | h) | ⟨j, hj, h⟩) | rfl) | h) | rfl) | ⟨o, ho, rfl⟩
  · have := List.sizeOf_lt_of_mem h
    omega
  · have := List.sizeOf_lt_of_mem h
    omega
  · have hlt := List.sizeOf_lt_of_mem hj
    have := Join.sizeOf_lt_of_mem_exprs h
    omega
  · simp only [Option.some.sizeOf_spec]
    omega
  · have := List.sizeOf_lt_of_mem h
    omega
  · simp only [Option.some.sizeOf_spec]
    omega
  · have hlt := List.sizeOf_lt_of_mem ho
    rcases o with ⟨key, direction⟩
    simp only [Order.mk.sizeOf_spec] at hlt ⊢
    omega

theorem Piece.sizeOf_le_of_expr? {p : Piece} {e : Expr} (h : p.expr? = some e) :
    sizeOf e ≤ sizeOf p := by
  cases p <;> simp only [expr?, reduceCtorEq, Option.some.injEq] at h <;> subst h <;> simp

theorem Expr.sizeOf_lt_of_mem_children {e c : Expr} (h : c ∈ e.children) :
    sizeOf c < sizeOf e := by
  cases e with
  | raw pieces =>
    obtain ⟨p, hp, hc⟩ := List.mem_filterMap.1 h
    have hlt := List.sizeOf_lt_of_mem hp
    have hle := Piece.sizeOf_le_of_expr? hc
    rw [raw.sizeOf_spec]
    omega
  | call function arguments distinct =>
    have : sizeOf c < sizeOf arguments := List.sizeOf_lt_of_mem h
    rw [call.sizeOf_spec]
    omega
  | list items separator =>
    have : sizeOf c < sizeOf items := List.sizeOf_lt_of_mem h
    rw [list.sizeOf_spec]
    omega
  | isIn tested items negated =>
    rw [isIn.sizeOf_spec]
    rcases List.mem_cons.1 h with rfl | h
    · omega
    · have := List.sizeOf_lt_of_mem h
      omega
  | subquery select =>
    have := Select.sizeOf_lt_of_mem_exprs h
    rw [subquery.sizeOf_spec]
    omega
  | _ => simp [children] at h <;> rcases h with rfl | rfl | rfl <;> simp <;> omega

/-- What passes from the children of an expression to the expression holds of all expressions. -/
theorem Expr.children_induction {P : Expr → Prop} (step : ∀ e, (∀ c ∈ e.children, P c) → P e)
    (e : Expr) : P e :=
  step e fun c _ => children_induction step c
termination_by sizeOf e
decreasing_by exact sizeOf_lt_of_mem_children ‹_›

/-! ## All of an expression -/

/-- An expression and everything below it, each before its children. -/
def Expr.nodes (e : Expr) : List Expr := e :: e.children.attach.flatMap fun c => c.1.nodes
termination_by sizeOf e
decreasing_by exact sizeOf_lt_of_mem_children c.2

theorem Expr.nodes_eq (e : Expr) : e.nodes = e :: e.children.flatMap nodes := by
  rw [nodes]
  simp

/-! ## The expressions of a statement -/

def ConflictAction.exprs : ConflictAction → List Expr
  | .doNothing => []
  | .doUpdate assignments condition => assignments.map Assignment.value ++ condition.toList

def Conflict.exprs (c : Conflict) : List Expr := c.target.condition.toList ++ c.action.exprs

def Insert.exprs (i : Insert) : List Expr :=
  i.rows.flatten ++ i.conflict.toList.flatMap Conflict.exprs ++ i.returning

def Update.exprs (u : Update) : List Expr :=
  u.assignments.map Assignment.value ++ u.condition.toList ++ u.returning

def Delete.exprs (x : Delete) : List Expr := x.condition.toList ++ x.returning

def ColumnConstraint.exprs : ColumnConstraint → List Expr
  | .default e | .check e => [e]
  | _ => []

def ColumnDefinition.exprs (c : ColumnDefinition) : List Expr :=
  c.constraints.flatMap ColumnConstraint.exprs

def TableConstraint.exprs (c : TableConstraint) : List Expr :=
  match c.rule with
  | .check e => [e]
  | _ => []

def CreateTable.exprs (t : CreateTable) : List Expr :=
  t.columns.flatMap ColumnDefinition.exprs ++ t.constraints.flatMap TableConstraint.exprs

def AlterTable.Action.exprs : AlterTable.Action → List Expr
  | .addColumn c => c.exprs
  | _ => []

/-- The expressions right below a statement, in the order of its clauses. -/
def Statement.exprs : Statement → List Expr
  | .select s => s.exprs
  | .insert i => i.exprs
  | .update u => u.exprs
  | .delete x => x.exprs
  | .createTable t => t.exprs
  | .alterTable t => t.actions.flatMap AlterTable.Action.exprs
  | .dropTable _ => []
  | .raw e => [e]

end PolySql
