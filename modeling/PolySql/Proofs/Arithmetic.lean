import PolySql.Proofs.Chains

/-!
# The reading of arithmetic

The text of an arithmetic expression is read as the expression that it was written from, up to the
grouping of chains, exactly if the expression is steady. Where a right operand brings another
operator into a chain, as in `a * ((b / c) * d)`, the reading has another value. To see that no
regrouping leads from the reading to the expression, chains are weighed: regrouping keeps the
weight, and reading never makes an expression lighter, and heavier if it is not steady.

* `Expr.IsArithmetic` : arithmetic and concatenation of columns and binds;
* `Expr.weight` : what regrouping keeps;
* `Expr.IsArithmetic.asRead_regroups_iff` : an expression is read as what it is exactly if it is
  steady;
* `Expr.arithmetic_reads_iff_steady` : the main statement, about text and binds.
-/

namespace PolySql

/-- The operators of arithmetic, and concatenation. -/
def BinaryOp.arithmetic : List BinaryOp := [.add, .sub, .mul, .div, .mod, .concat]

/-- Those of them whose chains may be regrouped. -/
def BinaryOp.arithmeticChains : List BinaryOp := [.add, .mul, .concat]

/-- Integers with a division that truncates; operators that are no arithmetic give their left
operand. -/
def Algebra.integers (value : Expr → Int) : Algebra BinaryOp.arithmeticChains where
  Carrier := Int
  atom := value
  binary
    | .add, x, y => x + y
    | .sub, x, y => x - y
    | .mul, x, y => x * y
    | .div, x, y => x.tdiv y
    | .mod, x, y => x.tmod y
    | _, x, _ => x
  unary _ x := x
  isNull _ x := x
  isIn _ x _ := x
  between _ x _ _ := x
  assoc op hop x y z := by
    simp only [BinaryOp.arithmeticChains, List.mem_cons, List.not_mem_nil, or_false] at hop
    rcases hop with rfl | rfl | rfl
    · exact Int.add_assoc x y z
    · exact Int.mul_assoc x y z
    · rfl

namespace Expr

/-- Arithmetic and concatenation of columns and binds. -/
inductive IsArithmetic : Expr → Prop
  | atom {e : Expr} (he : e.IsAtom) : IsArithmetic e
  | binary {a b : Expr} (ha : IsArithmetic a) {op : BinaryOp} (hop : op ∈ BinaryOp.arithmetic)
      (hb : IsArithmetic b) : IsArithmetic (.binary a op b)

namespace IsArithmetic

theorem isOperation {e : Expr} (he : e.IsArithmetic) : e.IsOperation := by
  induction he with
  | atom he => exact .atom he
  | binary ha hop hb iha ihb => exact .binary iha _ ihb

theorem isFormula {e : Expr} (he : e.IsArithmetic) : e.IsFormula := he.isOperation.isFormula

theorem placed {e : Expr} (he : e.IsArithmetic) : e.Placed := he.isOperation.placed

theorem over_arithmetic {e : Expr} (he : e.IsArithmetic) : e.Over BinaryOp.arithmetic := by
  induction he with
  | atom he => exact he.over_all
  | binary ha hop hb iha ihb =>
    refine over_iff.2 ⟨by simpa [operator?] using hop, ?_⟩
    simpa [children] using ⟨iha, ihb⟩

end IsArithmetic

/-! ## What regrouping keeps -/

/-- The number of operands that are not operations themselves. -/
def width : Expr → Nat
  | .binary a _ b => a.width + b.width
  | _ => 1

/-- The widths of all chains of one operator together: an operator below the same operator goes on
with its chain and adds nothing. -/
def weight (parent : Option BinaryOp) : Expr → Nat
  | .binary a op b =>
    (if parent = some op then 0 else a.width + b.width) + a.weight (some op) + b.weight (some op)
  | _ => 0

theorem width_pos (e : Expr) : 0 < e.width := by
  induction e using width.induct with
  | case1 a op b iha ihb =>
    rw [width]
    omega
  | case2 e he => cases e <;> first | exact Nat.one_pos | exact absurd rfl (he _ _ _)

theorem Regroups.width_eq {chains : List BinaryOp} {e e' : Expr} (h : e.Regroups chains e') :
    e.width = e'.width := by
  induction h with
  | refl e => rfl
  | symm h ih => exact ih.symm
  | trans h h' ih ih' => exact ih.trans ih'
  | assoc hop a b c => simp only [width, Nat.add_assoc]
  | binary ha op hb iha ihb => rw [width, width, iha, ihb]
  | _ => rfl

theorem Regroups.weight_eq {chains : List BinaryOp} {e e' : Expr} (h : e.Regroups chains e')
    (parent : Option BinaryOp) : e.weight parent = e'.weight parent := by
  induction h generalizing parent with
  | refl e => rfl
  | symm h ih => exact (ih parent).symm
  | trans h h' ih ih' => exact (ih parent).trans (ih' parent)
  | assoc hop a b c =>
    simp only [weight, width, if_true]
    split_ifs <;> omega
  | binary ha op hb iha ihb =>
    rw [weight, weight, iha, ihb, ha.width_eq, hb.width_eq]
  | _ => rfl

/-! ## Reading makes nothing lighter -/

theorem width_chain (x : Expr) (op : BinaryOp) (y : Expr) :
    (chain x op y).width = x.width + y.width := by
  induction y using chain.induct op with
  | case1 a op' b heq ih => rw [chain_binary heq, width, width, ih, Nat.add_assoc]
  | case2 a op' b hne => rw [chain, if_neg hne, width]
  | case3 y hy => rw [chain_of_forall fun a o b heq => absurd heq (hy a o b), width]

theorem width_asRead {e : Expr} (he : e.IsArithmetic) : e.asRead.width = e.width := by
  induction he with
  | atom he => rw [he.asRead_eq]
  | @binary a b ha op hop hb iha ihb =>
    rw [asRead, width, ← iha, ← ihb]
    cases b.parensUnder op true with
    | true => rfl
    | false => exact width_chain _ op _

theorem weight_le (parent parent' : Option BinaryOp) (e : Expr) :
    e.weight parent ≤ e.weight parent' + e.width := by
  cases e with
  | binary a op b =>
    simp only [weight, width]
    split_ifs <;> omega
  | _ => exact Nat.zero_le _

theorem weight_binary_above {op : BinaryOp} {y : Expr} (hy : y.edge op.precedence = []) (x : Expr)
    (parent : Option BinaryOp) :
    y.weight parent + x.weight (some op) ≤ (Expr.binary x op y).weight parent ∧
      ((Expr.binary x op y).weight parent = y.weight parent + x.weight (some op) ↔
        parent = some op ∧ ∀ o ∈ y.edge op.precedence, o = op) := by
  have hwidth := x.width_pos
  have hparent := weight_le parent (some op) y
  rw [weight, hy]
  by_cases h : parent = some op
  · subst h
    simp [Nat.add_comm]
  · rw [if_neg h]
    refine ⟨by omega, iff_of_false (by omega) fun hop => h hop.1⟩

/-- To put an operator in front of a tree costs the weight of its left operand, and more unless the
tree goes on with the chain of a parent and the operator is that of the whole left edge. -/
theorem weight_chain (x : Expr) (op : BinaryOp) (y : Expr) (parent : Option BinaryOp) :
    y.weight parent + x.weight (some op) ≤ (chain x op y).weight parent ∧
      ((chain x op y).weight parent = y.weight parent + x.weight (some op) ↔
        parent = some op ∧ ∀ o ∈ y.edge op.precedence, o = op) := by
  induction y using chain.induct op generalizing parent with
  | case1 a op' b heq ih =>
    have hwidth := x.width_pos
    obtain ⟨hle, hiff⟩ := ih (some op')
    rw [chain_binary heq, weight, weight, width_chain, edge, if_pos heq, List.forall_mem_cons]
    by_cases h : parent = some op'
    · subst h
      rw [if_pos rfl, if_pos rfl, Option.some.injEq]
      rw [Option.some.injEq] at hiff
      refine ⟨by omega, ?_⟩
      rw [← and_assoc, and_self, ← hiff]
      omega
    · rw [if_neg h, if_neg h]
      refine ⟨by omega, iff_of_false (by omega) ?_⟩
      rintro ⟨rfl, rfl, -⟩
      exact h rfl
  | case2 a op' b hne =>
    rw [chain, if_neg hne]
    exact weight_binary_above (by rw [edge, if_neg hne]) x parent
  | case3 y hy =>
    have hother : ∀ a o b, y = .binary a o b → o.precedence ≠ op.precedence :=
      fun a o b heq => absurd heq (hy a o b)
    rw [chain_of_forall hother]
    exact weight_binary_above (edge_of_forall hother) x parent

/-- A chain weighs more than what its operator makes of its operands, unless the whole left edge has
this operator. -/
theorem weight_binary_le_chain (x : Expr) {op : BinaryOp} {y : Expr}
    (htop : ∀ a o b, y = .binary a o b → o.precedence = op.precedence → o = op)
    (parent : Option BinaryOp) :
    (Expr.binary x op y).weight parent ≤ (chain x op y).weight parent ∧
      ((chain x op y).weight parent = (Expr.binary x op y).weight parent ↔
        ∀ o ∈ y.edge op.precedence, o = op) := by
  by_cases hother : ∀ a o b, y = .binary a o b → o.precedence ≠ op.precedence
  · rw [chain_of_forall hother, edge_of_forall hother]
    simp
  · push Not at hother
    obtain ⟨a, o, b, rfl, heq⟩ := hother
    obtain rfl := htop a o b rfl heq
    obtain ⟨hle, hiff⟩ := weight_chain x o a (some o)
    have hsum : (chain x o a).width + b.width = x.width + (a.width + b.width) := by
      rw [width_chain, Nat.add_assoc]
    rw [chain_binary rfl, edge, if_pos rfl, List.forall_mem_cons]
    simp only [weight, width, hsum, if_true, true_and] at hiff ⊢
    rw [← hiff]
    constructor <;> omega

theorem exists_asRead_binary (a : Expr) (op : BinaryOp) (b : Expr) :
    ∃ l r, (Expr.binary a op b).asRead = .binary l op r := by
  induction b using width.induct generalizing a op with
  | case1 l o r ihl ihr =>
    rw [asRead]
    cases hparens : (Expr.binary l o r).parensUnder op true with
    | true => exact ⟨_, _, rfl⟩
    | false =>
      obtain ⟨l', r', hread⟩ := ihr l o
      rw [join, if_neg Bool.false_ne_true, hread]
      by_cases heq : o.precedence = op.precedence
      · obtain ⟨rfl, -⟩ := eq_of_parensUnder_eq_false hparens heq
        exact ⟨_, r', chain_binary rfl _ _ _⟩
      · exact ⟨_, _, by rw [chain, if_neg heq]⟩
  | case2 b hb =>
    have hother : ∀ l o r, b.asRead = .binary l o r → o.precedence ≠ op.precedence := by
      intro l o r heq
      obtain ⟨_, _, _, hbinary, -⟩ := exists_of_asRead_eq heq
      exact absurd hbinary (hb _ _ _)
    rw [asRead, join, chain_of_forall hother, ite_self]
    exact ⟨_, _, rfl⟩

/-- Reading makes nothing lighter, and keeps the weight of steady expressions only. -/
theorem weight_asRead {e : Expr} (he : e.IsArithmetic) (parent : Option BinaryOp) :
    e.weight parent ≤ e.asRead.weight parent ∧
      (e.asRead.weight parent = e.weight parent ↔ e.Steady) := by
  induction he generalizing parent with
  | atom he =>
    rw [he.asRead_eq]
    exact ⟨Nat.le_refl _, iff_of_true rfl he.steady⟩
  | @binary a b ha op hop hb iha ihb =>
    obtain ⟨hlea, hiffa⟩ := iha (some op)
    obtain ⟨hleb, hiffb⟩ := ihb (some op)
    have hoperands : (Expr.binary a op b).weight parent ≤
          (Expr.binary a.asRead op b.asRead).weight parent ∧
        ((Expr.binary a.asRead op b.asRead).weight parent = (Expr.binary a op b).weight parent ↔
          a.Steady ∧ b.Steady) := by
      rw [weight, weight, width_asRead ha, width_asRead hb, ← hiffa, ← hiffb]
      omega
    obtain ⟨hle, hiff⟩ := hoperands
    rw [steady_binary, asRead]
    cases hparens : b.parensUnder op true with
    | true =>
      refine ⟨hle, hiff.trans (and_iff_right ?_).symm⟩
      intro hfalse
      rw [hparens] at hfalse
      cases hfalse
    | false =>
      have htop : ∀ l o r, b.asRead = .binary l o r → o.precedence = op.precedence → o = op := by
        intro l o r hread heq
        obtain ⟨l', o', r', rfl, -⟩ := exists_of_asRead_eq hread
        obtain ⟨_, _, hread'⟩ := exists_asRead_binary l' o' r'
        obtain ⟨-, rfl, -⟩ := Expr.binary.inj (hread'.symm.trans hread)
        exact (eq_of_parensUnder_eq_false hparens heq).1
      obtain ⟨hle', hiff'⟩ := weight_binary_le_chain a.asRead htop parent
      have hhere : (Expr.binary a op b).SteadyHere ↔ ∀ o ∈ b.asRead.edge op.precedence, o = op := by
        simp [SteadyHere, hparens, mem_edge_asRead]
      rw [join, if_neg Bool.false_ne_true, hhere, ← hiff', ← hiff]
      omega

namespace IsArithmetic

theorem asRead_regroups_iff {e : Expr} (he : e.IsArithmetic) :
    e.asRead.Regroups BinaryOp.arithmeticChains e ↔ e.Steady := by
  refine ⟨fun h => (weight_asRead he none).2.1 (h.weight_eq none), fun h => ?_⟩
  exact he.isFormula.asRead_regroups (by decide) he.over_arithmetic h

end IsArithmetic

/-- The text and the binds of an arithmetic expression are read in one way, and that is the
expression up to the grouping of chains exactly if the expression is steady. So two steady
expressions with the same text and the same binds have the same value wherever addition,
multiplication and concatenation are associative. -/
theorem arithmetic_reads_iff_steady {d : Dialect} (hd : d.QuotesNames) :
    (∀ e : Expr, e.IsArithmetic → ∃ r, (e.render d).outcome = .ok r ∧
      ∃ q, (∀ q', d.Parses r q' ↔ q' = q) ∧
        (q.Regroups BinaryOp.arithmeticChains e ↔ e.Steady)) ∧
    (∀ (e e' : Expr) (r : Rendering), e.IsArithmetic → e'.IsArithmetic → e.Steady → e'.Steady →
      (e.render d).outcome = .ok r → (e'.render d).outcome = .ok r →
        ∀ i : Algebra BinaryOp.arithmeticChains, i.value e = i.value e') := by
  refine ⟨fun e he => ?_, fun e e' r he he' hsteady hsteady' hr hr' i => ?_⟩
  · obtain ⟨r, hr, hparses⟩ := he.isFormula.parses_iff hd he.placed
    exact ⟨r, hr, e.asRead, hparses, he.asRead_regroups_iff⟩
  · obtain ⟨s, hs, hparses⟩ := he.isFormula.parses_iff hd he.placed
    obtain ⟨s', hs', hparses'⟩ := he'.isFormula.parses_iff hd he'.placed
    obtain rfl : r = s := Except.ok.inj (hr.symm.trans hs)
    obtain rfl : r = s' := Except.ok.inj (hr'.symm.trans hs')
    have hread : e.asRead = e'.asRead := (hparses' e.asRead).1 ((hparses e.asRead).2 rfl)
    have hvalue := (he.asRead_regroups_iff.2 hsteady).value_eq i
    have hvalue' := (he'.asRead_regroups_iff.2 hsteady').value_eq i
    rw [← hvalue, hread, hvalue']

/-- Two groupings of a product. -/
theorem arithmetic_reads_product :
    let a : Expr := .column none "a"
    let b : Expr := .bind (.int 2)
    let c : Expr := .binary (.column none "c") .sub (.column none "d")
    let left : Expr := .binary (.binary a .mul b) .mul c
    let right : Expr := .binary a .mul (.binary b .mul c)
    Dialect.postgres.QuotesNames ∧ left.IsArithmetic ∧ right.IsArithmetic ∧ left.Steady ∧
      right.Steady ∧ ∃ r, (left.render .postgres).outcome = .ok r ∧
        (right.render .postgres).outcome = .ok r ∧
        (∃ q, Dialect.postgres.Parses r q ∧ q.Regroups BinaryOp.arithmeticChains right) ∧
        ∀ i : Algebra BinaryOp.arithmeticChains, i.value left = i.value right := by
  intro a b c left right
  have hd : Dialect.postgres.QuotesNames := by decide
  have ha : a.IsArithmetic := .atom (.column _ _)
  have hb : b.IsArithmetic := .atom (.bind _)
  have hc : c.IsArithmetic := .binary (.atom (.column _ _)) (by decide) (.atom (.column _ _))
  have hleft : left.IsArithmetic := .binary (.binary ha (by decide) hb) (by decide) hc
  have hright : right.IsArithmetic := .binary ha (by decide) (.binary hb (by decide) hc)
  have hcolumn (n : String) : (Expr.column none n).Steady := (IsAtom.column none n).steady
  have hbind : b.Steady := (IsAtom.bind _).steady
  have hc' : c.Steady :=
    steady_binary.2 ⟨by simp [SteadyHere, chainOps], hcolumn "c", hcolumn "d"⟩
  have hfirst : (Expr.binary a .mul b).Steady :=
    steady_binary.2 ⟨by simp [SteadyHere, b, chainOps], hcolumn "a", hbind⟩
  have hlast : (Expr.binary b .mul c).Steady :=
    steady_binary.2 ⟨by simp [SteadyHere, c, chainOps, BinaryOp.precedence], hbind, hc'⟩
  have hsteady : left.Steady :=
    steady_binary.2 ⟨by simp [SteadyHere, c, chainOps, BinaryOp.precedence], hfirst, hc'⟩
  have hsteady' : right.Steady :=
    steady_binary.2 ⟨by simp [SteadyHere, b, c, chainOps, BinaryOp.precedence], hcolumn "a", hlast⟩
  obtain ⟨hreads, hsame⟩ := arithmetic_reads_iff_steady hd
  obtain ⟨r, hr, q, hq, hregroups⟩ := hreads right hright
  have hr' : (left.render .postgres).outcome = .ok r := hr
  exact ⟨hd, hleft, hright, hsteady, hsteady', r, hr', hr,
    ⟨q, (hq q).2 rfl, hregroups.2 hsteady'⟩,
    hsame left right r hleft hright hsteady hsteady' hr' hr⟩

/-- A division at the start of a right factor is read as a division of all that stands in front of
it, and that has another value. -/
theorem product_with_quotient_misread :
    let a : Expr := .column none "a"
    let b : Expr := .column none "b"
    let c : Expr := .column none "c"
    let d : Expr := .column none "d"
    let e : Expr := .binary a .mul (.binary (.binary b .div c) .mul d)
    let flat : Expr := .binary (.binary (.binary a .mul b) .div c) .mul d
    let value : Expr → Int
      | .column _ "a" | .column _ "c" => 2
      | .column _ "b" => 3
      | _ => 1
    e.IsArithmetic ∧ flat.IsArithmetic ∧
      ∃ r, (e.render .postgres).outcome = .ok r ∧ (flat.render .postgres).outcome = .ok r ∧
        (∀ q, Dialect.postgres.Parses r q ↔ q = flat) ∧
        ¬ flat.Regroups BinaryOp.arithmeticChains e ∧
        (Algebra.integers value).value e = (2 : Int) ∧
        (Algebra.integers value).value flat = (3 : Int) := by
  intro a b c d e flat value
  have hatom (n : String) : (Expr.column none n).IsArithmetic := .atom (.column none n)
  have he : e.IsArithmetic := .binary (hatom "a") (by decide)
    (.binary (.binary (hatom "b") (by decide) (hatom "c")) (by decide) (hatom "d"))
  have hflat : flat.IsArithmetic := .binary (.binary (.binary (hatom "a") (by decide) (hatom "b"))
    (by decide) (hatom "c")) (by decide) (hatom "d")
  have hdraft : flat.draft .postgres .expression = e.draft .postgres .expression := by
    simp [flat, e, a, b, c, d, draft, parensUnder, BinaryOp.precedence, BinaryOp.isAssociative,
      Draft.parensIf, Draft.append_assoc]
  obtain ⟨r, hr, hparses⟩ := he.isFormula.parses_iff (d := .postgres) (by decide) he.placed
  have hr' : (flat.render .postgres).outcome = .ok r := by
    rw [render, hdraft]
    exact hr
  have hread : e.asRead = flat := rfl
  refine ⟨he, hflat, r, hr, hr', hread ▸ hparses, fun h => ?_, rfl, rfl⟩
  have hsame : (3 : Int) = 2 := h.value_eq (Algebra.integers value)
  exact absurd hsame (by decide)

end Expr

end PolySql
