import Mathlib.Data.List.Basic
import PolySql.Expr

/-!
# Regrouping chains

Two expressions are the same up to the grouping of chains if one becomes the other by moving
parentheses within chains of one operator, for operators that are named beforehand. Then they have
the same value wherever these operators are associative, whatever all operators and tests stand for.

* `Expr.Regroups` : the same up to the grouping of chains;
* `Expr.Regroups.items` : lists that are regrouped item by item;
* `Algebra`, `Algebra.value` : what operators and tests stand for;
* `Expr.Regroups.value_eq` : regrouping keeps the value.
-/

namespace PolySql

namespace Expr

/-- The same up to the grouping of chains of these operators. -/
inductive Regroups (chains : List BinaryOp) : Expr → Expr → Prop
  | refl (e : Expr) : Regroups chains e e
  | symm {e e' : Expr} (h : Regroups chains e e') : Regroups chains e' e
  | trans {e e' e'' : Expr} (h : Regroups chains e e') (h' : Regroups chains e' e'') :
      Regroups chains e e''
  | assoc {op : BinaryOp} (h : op ∈ chains) (a b c : Expr) :
      Regroups chains (.binary (.binary a op b) op c) (.binary a op (.binary b op c))
  | binary {a a' b b' : Expr} (ha : Regroups chains a a') (op : BinaryOp)
      (hb : Regroups chains b b') : Regroups chains (.binary a op b) (.binary a' op b')
  | unary (op : UnaryOp) {e e' : Expr} (h : Regroups chains e e') :
      Regroups chains (.unary op e) (.unary op e')
  | isNull {e e' : Expr} (h : Regroups chains e e') (negated : Bool) :
      Regroups chains (.isNull e negated) (.isNull e' negated)
  | isIn {e e' : Expr} (h : Regroups chains e e') (items : List Expr) (negated : Bool) :
      Regroups chains (.isIn e items negated) (.isIn e' items negated)
  | item (e : Expr) (before after : List Expr) {x x' : Expr} (h : Regroups chains x x')
      (negated : Bool) :
      Regroups chains (.isIn e (before ++ x :: after) negated)
        (.isIn e (before ++ x' :: after) negated)
  | between {e e' low low' high high' : Expr} (h : Regroups chains e e')
      (hlow : Regroups chains low low') (hhigh : Regroups chains high high') (negated : Bool) :
      Regroups chains (.between e low high negated) (.between e' low' high' negated)

namespace Regroups

variable {chains : List BinaryOp}

/-- The items behind the first ones of a list, one after the other. -/
theorem items (e : Expr) (negated : Bool) (f : Expr → Expr) (before : List Expr) {after : List Expr}
    (h : ∀ x ∈ after, Regroups chains (f x) x) :
    Regroups chains (.isIn e (before ++ after.map f) negated)
      (.isIn e (before ++ after) negated) := by
  induction after generalizing before with
  | nil => exact refl _
  | cons x after ih =>
    rw [List.forall_mem_cons] at h
    have hfirst : Regroups chains (.isIn e (before ++ f x :: after.map f) negated)
        (.isIn e (before ++ x :: after.map f) negated) := item e before _ h.1 negated
    have hrest := ih (before ++ [x]) h.2
    simp only [List.append_assoc, List.singleton_append] at hrest
    exact hfirst.trans hrest

end Regroups

end Expr

/-! ## Values -/

/-- What operators and tests stand for. The operators whose chains may be regrouped are associative;
nothing else is asked of them. -/
structure Algebra (chains : List BinaryOp) where
  Carrier : Type
  atom : Expr → Carrier
  binary : BinaryOp → Carrier → Carrier → Carrier
  unary : UnaryOp → Carrier → Carrier
  isNull : Bool → Carrier → Carrier
  isIn : Bool → Carrier → List Carrier → Carrier
  between : Bool → Carrier → Carrier → Carrier → Carrier
  assoc : ∀ op ∈ chains, ∀ a b c, binary op (binary op a b) c = binary op a (binary op b c)

namespace Algebra

variable {chains : List BinaryOp} (i : Algebra chains)

mutual

/-- The value of an expression. -/
def value : Expr → i.Carrier
  | .binary a op b => i.binary op (value a) (value b)
  | .unary op e => i.unary op (value e)
  | .isNull e negated => i.isNull negated (value e)
  | .isIn e items negated => i.isIn negated (value e) (values items)
  | .between e low high negated => i.between negated (value e) (value low) (value high)
  | e => i.atom e

def values : List Expr → List i.Carrier
  | [] => []
  | e :: es => value e :: values es

end

theorem values_eq_map (es : List Expr) : i.values es = es.map i.value := by
  induction es with
  | nil => rw [values, List.map_nil]
  | cons e es ih => rw [values, ih, List.map_cons]

end Algebra

theorem Expr.Regroups.value_eq {chains : List BinaryOp} {e e' : Expr} (h : e.Regroups chains e')
    (i : Algebra chains) : i.value e = i.value e' := by
  induction h with
  | refl e => rfl
  | symm h ih => exact ih.symm
  | trans h h' ih ih' => exact ih.trans ih'
  | assoc hop a b c =>
    simp only [Algebra.value]
    exact i.assoc _ hop _ _ _
  | binary ha op hb iha ihb => rw [Algebra.value, Algebra.value, iha, ihb]
  | unary op h ih => rw [Algebra.value, Algebra.value, ih]
  | isNull h negated ih => rw [Algebra.value, Algebra.value, ih]
  | isIn h items negated ih => rw [Algebra.value, Algebra.value, ih]
  | item e before after h negated ih =>
    simp only [Algebra.value, Algebra.values_eq_map, List.map_append, List.map_cons, ih]
  | between h hlow hhigh negated ih ihlow ihhigh =>
    rw [Algebra.value, Algebra.value, ih, ihlow, ihhigh]

end PolySql
