import PolySql.Proofs.Chains

/-!
# Logical formulas

A logical formula is built from columns and binds with comparisons, `AND`, `OR`, `NOT` and the tests
for null, for a list and for a range, where every operand may be such a formula again. If none of
its operands stands without parentheses where it binds too weak, its words are read as the formula,
up to the grouping of `AND` chains and of `OR` chains.

* `Expr.IsLogical` : logical formulas;
* `Expr.IsLogical.steady` : their chains have one operator each;
* `Expr.IsLogical.regroups_of_words_eq` : their words tell them apart.
-/

namespace PolySql

/-- The operators of logical formulas: connectives and comparisons. -/
def BinaryOp.logical : List BinaryOp :=
  [.and, .or, .eq, .notEq, .lt, .ltEq, .gt, .gtEq, .like, .notLike]

/-- Those of them whose chains may be regrouped. -/
def BinaryOp.connectives : List BinaryOp := [.and, .or]

namespace Expr

/-- Comparisons, connectives and tests over columns and binds. -/
inductive IsLogical : Expr → Prop
  | atom {e : Expr} (he : e.IsAtom) : IsLogical e
  | binary {a b : Expr} (ha : IsLogical a) {op : BinaryOp} (hop : op ∈ BinaryOp.logical)
      (hb : IsLogical b) : IsLogical (.binary a op b)
  | not {e : Expr} (he : IsLogical e) : IsLogical (.unary .not e)
  | isNull {e : Expr} (he : IsLogical e) (negated : Bool) : IsLogical (.isNull e negated)
  | isIn {e : Expr} (he : IsLogical e) {items : List Expr} (hne : items ≠ [])
      (hitems : ∀ x ∈ items, IsLogical x) (negated : Bool) : IsLogical (.isIn e items negated)
  | between {e low high : Expr} (he : IsLogical e) (hlow : IsLogical low) (hhigh : IsLogical high)
      (negated : Bool) : IsLogical (.between e low high negated)

namespace IsLogical

theorem isFormula {e : Expr} (he : e.IsLogical) : e.IsFormula := by
  induction he with
  | atom he => exact .atom he
  | binary ha hop hb iha ihb => exact .binary iha _ ihb
  | not he ih => exact .not ih
  | isNull he negated ih => exact .isNull ih negated
  | isIn he hne hitems negated ih ihs => exact .isIn ih hne ihs negated
  | between he hlow hhigh negated ih ihlow ihhigh => exact .between ih ihlow ihhigh negated

theorem over_logical {e : Expr} (he : e.IsLogical) : e.Over BinaryOp.logical := by
  induction he with
  | atom he => exact he.over_all
  | binary ha hop hb iha ihb =>
    refine over_iff.2 ⟨by simpa [operator?] using hop, ?_⟩
    simpa [children] using ⟨iha, ihb⟩
  | not he ih => exact over_iff.2 ⟨by simp [operator?], by simpa [children] using ih⟩
  | isNull he negated ih => exact over_iff.2 ⟨by simp [operator?], by simpa [children] using ih⟩
  | isIn he hne hitems negated ih ihs =>
    exact over_iff.2 ⟨by simp [operator?], List.forall_mem_cons.2 ⟨ih, ihs⟩⟩
  | between he hlow hhigh negated ih ihlow ihhigh =>
    refine over_iff.2 ⟨by simp [operator?], ?_⟩
    simpa [children] using ⟨ih, ihlow, ihhigh⟩

end IsLogical

theorem mem_of_mem_chainOps {ops : List BinaryOp} {n : Nat} {o : BinaryOp} {e : Expr}
    (hops : e.Over ops) (h : o ∈ e.chainOps n) : o ∈ ops ∧ o.precedence = n := by
  induction e using chainOps.induct n with
  | case1 a op b heq iha ihb =>
    obtain ⟨hop, hchildren⟩ := over_iff.1 hops
    rw [chainOps, if_pos heq, List.mem_append, List.mem_cons] at h
    rcases h with h | rfl | h
    · exact iha (hchildren a (by simp [children])) h
    · exact ⟨hop o rfl, heq⟩
    · split_ifs at h
      · cases h
      · exact ihb (hchildren b (by simp [children])) h
  | case2 a op b hne =>
    rw [chainOps, if_neg hne] at h
    cases h
  | case3 e he => cases e <;> first | cases h | exact absurd rfl (he _ _ _)

/-- No other logical operator has the precedence of `AND`, and none that of `OR`. -/
theorem steadyHere_of_logical {a b : Expr} {op : BinaryOp} (hop : op ∈ BinaryOp.logical)
    (hover : b.Over BinaryOp.logical) : (Expr.binary a op b).SteadyHere := by
  intro hparens o ho
  have hassociative := isAssociative_of_mem_chainOps hparens ho
  obtain ⟨hlogical, hprecedence⟩ := mem_of_mem_chainOps hover ho
  revert hop hassociative hlogical hprecedence
  cases op <;> cases o <;> decide

theorem IsLogical.steady {e : Expr} (he : e.IsLogical) : e.Steady := by
  have hover := he.over_logical
  clear he
  induction e using children_induction with
  | step e ih =>
    obtain ⟨hop, hchildren⟩ := over_iff.1 hover
    refine steady_iff.2 ⟨?_, fun c hc => ih c hc (hchildren c hc)⟩
    cases e with
    | binary a op b => exact steadyHere_of_logical (hop op rfl) (hchildren b (by simp [children]))
    | _ => trivial

theorem IsLogical.asRead_regroups {e : Expr} (he : e.IsLogical) :
    e.asRead.Regroups BinaryOp.connectives e :=
  he.isFormula.asRead_regroups (by decide) he.over_logical he.steady

/-- The words of placed formulas tell them apart, up to the grouping of chains. -/
theorem IsLogical.regroups_of_words_eq {e e' : Expr} (he : e.IsLogical) (he' : e'.IsLogical)
    (hplaced : e.Placed) (hplaced' : e'.Placed) (h : e.words = e'.words) :
    e.Regroups BinaryOp.connectives e' := by
  have hphrase := (he.isFormula.isRead hplaced).phrase.weaken (Nat.zero_le _)
  have hphrase' := (he'.isFormula.isRead hplaced').phrase.weaken (Nat.zero_le _)
  have hread : e.asRead = e'.asRead := (h ▸ hphrase).unique hphrase'
  exact he.asRead_regroups.symm.trans (hread ▸ he'.asRead_regroups)

end Expr

end PolySql
