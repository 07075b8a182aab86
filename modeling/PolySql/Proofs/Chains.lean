import PolySql.Proofs.Readings
import PolySql.Proofs.Regrouping

/-!
# Chains of operators

Operators of one precedence that stand next to each other without parentheses are a chain. A right
operand with the operator of the chain has no parentheses and becomes part of it; then its left edge
is regrouped. That is a matter of associativity as long as all the operators of the right operand
that join the chain are the operator in front of it: such a formula is steady.

* `Expr.chainOps` : the operators of a chain;
* `Expr.Steady` : formulas whose chains are only joined by the same operator;
* `Expr.edge_asRead` : the chain as it is read;
* `Expr.IsFormula.asRead_regroups` : a steady formula is read as what it is, up to grouping.
-/

namespace PolySql

namespace Expr

/-! ## The operators of a chain -/

/-- The operators of a precedence that the words of a formula chain without parentheses. -/
def chainOps (n : Nat) : Expr → List BinaryOp
  | .binary a op b =>
    if op.precedence = n then
      a.chainOps n ++ op :: (if b.parensUnder op true then [] else b.chainOps n)
    else []
  | _ => []

/-- The operators of a precedence on the left edge of a tree, from the top on. -/
def edge (n : Nat) : Expr → List BinaryOp
  | .binary a op _ => if op.precedence = n then op :: a.edge n else []
  | _ => []

theorem edge_of_forall {n : Nat} {e : Expr}
    (h : ∀ a op b, e = .binary a op b → op.precedence ≠ n) : e.edge n = [] := by
  cases e with
  | binary a op b => rw [edge, if_neg (h a op b rfl)]
  | _ => rfl

theorem edge_chain (x : Expr) (op : BinaryOp) (y : Expr) :
    (chain x op y).edge op.precedence = y.edge op.precedence ++ op :: x.edge op.precedence := by
  induction y using chain.induct op with
  | case1 a op' b heq ih =>
    rw [chain_binary heq, edge, if_pos heq, edge, if_pos heq, ih, List.cons_append]
  | case2 a op' b hne => rw [chain, if_neg hne, edge, if_pos rfl, edge, if_neg hne, List.nil_append]
  | case3 y hy =>
    have hother : ∀ a o b, y = .binary a o b → o.precedence ≠ op.precedence :=
      fun a o b heq => absurd heq (hy a o b)
    rw [chain_of_forall hother, edge, if_pos rfl, edge_of_forall hother, List.nil_append]

theorem edge_join (parens : Bool) (x : Expr) (op : BinaryOp) (y : Expr) :
    (join parens x op y).edge op.precedence =
      (if parens then [] else y.edge op.precedence) ++ op :: x.edge op.precedence := by
  cases parens with
  | true => exact if_pos rfl
  | false => exact edge_chain x op y

theorem edge_asRead_of_forall {n : Nat} {e : Expr}
    (h : ∀ a op b, e = .binary a op b → op.precedence ≠ n) : e.asRead.edge n = [] := by
  refine edge_of_forall fun a op b heq => ?_
  obtain ⟨l, o, r, hbinary, hprecedence⟩ := exists_of_asRead_eq heq
  rw [← hprecedence]
  exact h l o r hbinary

/-- The chain is read from its end. -/
theorem edge_asRead (n : Nat) (e : Expr) : e.asRead.edge n = (e.chainOps n).reverse := by
  induction e using chainOps.induct n with
  | case1 a op b h iha ihb =>
    subst h
    rw [asRead, edge_join, chainOps, if_pos rfl, iha, ihb]
    cases b.parensUnder op true <;> simp
  | case2 a op b h =>
    rw [chainOps, if_neg h, List.reverse_nil]
    refine edge_asRead_of_forall ?_
    rintro _ _ _ ⟨⟩
    exact h
  | case3 e he =>
    rw [edge_asRead_of_forall fun a op b heq => absurd heq (he a op b)]
    cases e <;> first | rfl | exact absurd rfl (he _ _ _)

theorem mem_edge_asRead {n : Nat} {e : Expr} {op : BinaryOp} :
    op ∈ e.asRead.edge n ↔ op ∈ e.chainOps n := by
  rw [edge_asRead, List.mem_reverse]

/-! ## Steady formulas -/

/-- A right operand without parentheses joins a chain only with the operator in front of it. -/
def SteadyHere : Expr → Prop
  | .binary _ op b => b.parensUnder op true = false → ∀ o ∈ b.chainOps op.precedence, o = op
  | _ => True

/-- Nowhere in the expression does a right operand join a chain with another operator than that in
front of it. -/
def Steady (e : Expr) : Prop := ∀ x ∈ e.nodes, x.SteadyHere

theorem steady_iff {e : Expr} : e.Steady ↔ e.SteadyHere ∧ ∀ c ∈ e.children, c.Steady := by
  rw [Steady, nodes_eq, List.forall_mem_cons, List.forall_mem_flatMap]
  rfl

theorem steady_binary {a b : Expr} {op : BinaryOp} :
    (Expr.binary a op b).Steady ↔ (Expr.binary a op b).SteadyHere ∧ a.Steady ∧ b.Steady := by
  rw [steady_iff]
  simp [children]

theorem IsAtom.steady {e : Expr} (he : e.IsAtom) : e.Steady := by
  cases he <;> exact steady_iff.2 ⟨trivial, by simp [children]⟩

/-- A right operand without parentheses and with the precedence of the operator in front of it has
that operator. -/
theorem eq_of_parensUnder_eq_false {op o : BinaryOp} {l r : Expr}
    (hparens : (Expr.binary l o r).parensUnder op true = false)
    (h : o.precedence = op.precedence) : o = op ∧ op.isAssociative = true := by
  simpa [parensUnder, h] using hparens

/-- Only operands of an associative operator join its chain from the right. -/
theorem isAssociative_of_mem_chainOps {op o : BinaryOp} {b : Expr}
    (hparens : b.parensUnder op true = false) (h : o ∈ b.chainOps op.precedence) :
    op.isAssociative = true := by
  cases b with
  | binary l o' r =>
    by_cases heq : o'.precedence = op.precedence
    · exact (eq_of_parensUnder_eq_false hparens heq).2
    · rw [chainOps, if_neg heq] at h
      cases h
  | _ => cases h

/-- Chains with one operator are regrouped. -/
theorem chain_regroups {chains : List BinaryOp} {op : BinaryOp} (x : Expr) {y : Expr}
    (hop : y.edge op.precedence ≠ [] → op ∈ chains) (hsame : ∀ o ∈ y.edge op.precedence, o = op) :
    (chain x op y).Regroups chains (.binary x op y) := by
  induction y using chain.induct op with
  | case1 a op' b heq ih =>
    rw [edge, if_pos heq, List.forall_mem_cons] at hsame
    rw [edge, if_pos heq] at hop
    obtain ⟨rfl, hsame⟩ := hsame
    have hchains := hop (List.cons_ne_nil _ _)
    rw [chain_binary heq]
    exact ((ih (fun _ => hchains) hsame).binary op' (.refl b)).trans (.assoc hchains x a b)
  | case2 a op' b hne =>
    rw [chain, if_neg hne]
    exact .refl _
  | case3 y hy =>
    rw [chain_of_forall fun a o b heq => absurd heq (hy a o b)]
    exact .refl _

/-! ## Steady formulas are read as what they are -/

/-- The operator of an expression. -/
def operator? : Expr → Option BinaryOp
  | .binary _ op _ => some op
  | _ => none

/-- All operators between two operands are among these. -/
def Over (ops : List BinaryOp) (e : Expr) : Prop := ∀ x ∈ e.nodes, ∀ op ∈ x.operator?, op ∈ ops

theorem over_iff {ops : List BinaryOp} {e : Expr} :
    e.Over ops ↔ (∀ op ∈ e.operator?, op ∈ ops) ∧ ∀ c ∈ e.children, c.Over ops := by
  rw [Over, nodes_eq, List.forall_mem_cons, List.forall_mem_flatMap]
  rfl

theorem IsAtom.over_all {e : Expr} (he : e.IsAtom) {ops : List BinaryOp} : e.Over ops := by
  cases he <;> exact over_iff.2 ⟨by simp [operator?], by simp [children]⟩

/-- A steady formula is read as what it is, up to the grouping of its associative chains. -/
theorem IsFormula.asRead_regroups {ops chains : List BinaryOp}
    (hchains : ∀ op ∈ ops, op.isAssociative = true → op ∈ chains) {e : Expr} (he : e.IsFormula)
    (hops : e.Over ops) (hsteady : e.Steady) : e.asRead.Regroups chains e := by
  induction he with
  | atom he =>
    rw [he.asRead_eq]
    exact .refl _
  | @binary a b ha op hb iha ihb =>
    obtain ⟨hop, hover⟩ := over_iff.1 hops
    obtain ⟨hhere, hchildren⟩ := steady_iff.1 hsteady
    have hleft := iha (hover a (by simp [children])) (hchildren a (by simp [children]))
    have hright := ihb (hover b (by simp [children])) (hchildren b (by simp [children]))
    have hoperands := hleft.binary op hright
    rw [asRead]
    cases hparens : b.parensUnder op true with
    | true => exact hoperands
    | false =>
      refine (chain_regroups a.asRead (fun hne => ?_) fun o ho => ?_).trans hoperands
      · obtain ⟨o, ho⟩ := List.exists_mem_of_ne_nil _ hne
        exact hchains op (hop op rfl) (isAssociative_of_mem_chainOps hparens (mem_edge_asRead.1 ho))
      · exact hhere hparens o (mem_edge_asRead.1 ho)
  | not he ih =>
    rw [asRead]
    exact .unary .not (ih ((over_iff.1 hops).2 _ (by simp [children]))
      ((steady_iff.1 hsteady).2 _ (by simp [children])))
  | isNull he negated ih =>
    rw [asRead]
    exact .isNull (ih ((over_iff.1 hops).2 _ (by simp [children]))
      ((steady_iff.1 hsteady).2 _ (by simp [children]))) negated
  | @isIn e he items hne hitems negated ih ihs =>
    have hover := (over_iff.1 hops).2
    have hchildren := (steady_iff.1 hsteady).2
    rw [children, List.forall_mem_cons] at hover hchildren
    have hall : ∀ x ∈ items, x.asRead.Regroups chains x :=
      fun x hx => ihs x hx (hover.2 x hx) (hchildren.2 x hx)
    rw [asRead, asReads_eq_map]
    exact (Regroups.isIn (ih hover.1 hchildren.1) _ negated).trans
      (.items e negated asRead [] hall)
  | @between e low high he hlow hhigh negated ih ihlow ihhigh =>
    have hover := (over_iff.1 hops).2
    have hchildren := (steady_iff.1 hsteady).2
    rw [asRead]
    exact .between (ih (hover e (by simp [children])) (hchildren e (by simp [children])))
      (ihlow (hover low (by simp [children])) (hchildren low (by simp [children])))
      (ihhigh (hover high (by simp [children])) (hchildren high (by simp [children]))) negated

end Expr

end PolySql
