import PolySql.Proofs.Formulas

/-!
# How formulas are read

Where an operand has parentheses, it is read as it stands. Where it has none, the operators around
it decide: to the left of an operator nothing changes, as operators of one level group to the left;
to the right of an operator the left edge of the operand, as far as it binds no tighter, is taken up
by what stands in front. So the tree that is read can be computed from the tree that was written, if
no operand without parentheses binds weaker than its place asks.

* `Expr.strength`, `Expr.Placed` : operands that need no more parentheses than they have;
* `Expr.chain`, `Expr.asRead` : the tree that is read;
* `Expr.IsFormula.isRead` : the grammar reads the words of a placed formula as this tree;
* `Dialect.Parses`, `Expr.IsFormula.parses_iff` : so it does with text and binds, and with no other.
-/

namespace PolySql

theorem BinaryOp.level_lt_atomLevel (op : BinaryOp) : op.level < Phrase.atomLevel := by
  cases op <;> decide

namespace Expr

/-! ## Where operands may stand -/

/-- How tightly an expression binds without parentheses. -/
def strength : Expr → Nat
  | .binary _ op _ => op.level
  | .unary .not _ => Phrase.notLevel
  | .isNull .. | .isIn .. | .between .. => Phrase.testLevel
  | _ => Phrase.atomLevel

/-- No operand without parentheses binds weaker than its place asks. -/
def PlacedHere : Expr → Prop
  | .binary a op b =>
    (a.parensUnder op false = false → op.level ≤ a.strength) ∧
      (b.parensUnder op true = false → op.level ≤ b.strength)
  | .isNull e _ | .isIn e _ _ => Phrase.testLevel ≤ e.strength
  | .between e low high _ =>
    Phrase.testLevel ≤ e.strength ∧ Phrase.testLevel < low.strength ∧
      Phrase.testLevel < high.strength
  | _ => True

/-- No operand without parentheses binds weaker than its place asks, anywhere in the expression. -/
def Placed (e : Expr) : Prop := ∀ x ∈ e.nodes, x.PlacedHere

theorem placed_iff {e : Expr} : e.Placed ↔ e.PlacedHere ∧ ∀ c ∈ e.children, c.Placed := by
  rw [Placed, nodes_eq, List.forall_mem_cons, List.forall_mem_flatMap]
  rfl

theorem placed_binary {a b : Expr} {op : BinaryOp} :
    (Expr.binary a op b).Placed ↔ (Expr.binary a op b).PlacedHere ∧ a.Placed ∧ b.Placed := by
  rw [placed_iff]
  simp [children]

theorem Placed.binary {a b : Expr} (ha : a.Placed) (hb : b.Placed) {op : BinaryOp}
    (hlevel : op.level ≤ a.strength) (hlevel' : op.level ≤ b.strength) :
    (Expr.binary a op b).Placed :=
  placed_binary.2 ⟨⟨fun _ => hlevel, fun _ => hlevel'⟩, ha, hb⟩

theorem placed_not {e : Expr} : (Expr.unary .not e).Placed ↔ e.Placed := by
  rw [placed_iff]
  simp [children, PlacedHere]

theorem placed_isNull {e : Expr} {negated : Bool} :
    (Expr.isNull e negated).Placed ↔ Phrase.testLevel ≤ e.strength ∧ e.Placed := by
  rw [placed_iff]
  simp [children, PlacedHere]

theorem placed_between {e low high : Expr} {negated : Bool} :
    (Expr.between e low high negated).Placed ↔
      (Expr.between e low high negated).PlacedHere ∧ e.Placed ∧ low.Placed ∧ high.Placed := by
  rw [placed_iff]
  simp [children]

theorem IsAtom.placed {e : Expr} (he : e.IsAtom) : e.Placed := by
  cases he <;> exact placed_iff.2 ⟨trivial, by simp [children]⟩

theorem IsAtom.strength_eq {e : Expr} (he : e.IsAtom) : e.strength = Phrase.atomLevel := by
  cases he <;> rfl

/-- The expression may stand to the right of an operator without parentheses. -/
def Follows (op : BinaryOp) : Expr → Prop
  | .binary _ op' _ => op.precedence ≤ op'.precedence
  | e => op.level < e.strength

theorem follows_of_le {op : BinaryOp} {e : Expr} {onRight : Bool}
    (hparens : e.parensUnder op onRight = false) (hle : op.level ≤ e.strength) : e.Follows op := by
  have hcomparison (h : decide (BinaryOp.comparisonPrecedence ≤ op.precedence) = false) :
      op.level < Phrase.testLevel := by
    have hlt : op.precedence < BinaryOp.comparisonPrecedence := by simpa using h
    exact Nat.mul_lt_mul_of_pos_left hlt Nat.two_pos
  have hatom := op.level_lt_atomLevel
  cases e with
  | binary a op' b => exact Nat.le_of_mul_le_mul_left hle Nat.two_pos
  | unary op' e =>
    cases op' with
    | not =>
      -- The level of an operator is even, that of `NOT` is odd.
      have hne : op.level ≠ Phrase.notLevel := by
        cases op <;> decide
      exact Nat.lt_of_le_of_ne hle hne
    | neg => exact hatom
  | isNull e negated => exact hcomparison hparens
  | isIn e items negated => exact hcomparison hparens
  | between e low high negated => exact hcomparison hparens
  | _ => exact hatom

/-- Operators between columns and binds. -/
inductive IsOperation : Expr → Prop
  | atom {e : Expr} (he : e.IsAtom) : IsOperation e
  | binary {a b : Expr} (ha : IsOperation a) (op : BinaryOp) (hb : IsOperation b) :
      IsOperation (.binary a op b)

namespace IsOperation

theorem isFormula {e : Expr} (he : e.IsOperation) : e.IsFormula := by
  induction he with
  | atom he => exact .atom he
  | binary ha op hb iha ihb => exact .binary iha op ihb

/-- An operation has parentheses wherever it would bind too weak. -/
theorem level_le_strength {e : Expr} (he : e.IsOperation) {op : BinaryOp} {onRight : Bool}
    (hparens : e.parensUnder op onRight = false) : op.level ≤ e.strength := by
  cases he with
  | atom he =>
    rw [he.strength_eq]
    exact Nat.le_of_lt op.level_lt_atomLevel
  | binary ha o hb =>
    rw [parensUnder, Bool.or_eq_false_iff, decide_eq_false_iff_not, Nat.not_lt] at hparens
    exact Nat.mul_le_mul_left 2 hparens.1

theorem placed {e : Expr} (he : e.IsOperation) : e.Placed := by
  induction he with
  | atom he => exact he.placed
  | binary ha op hb iha ihb =>
    exact placed_binary.2
      ⟨⟨fun h => ha.level_le_strength h, fun h => hb.level_le_strength h⟩, iha, ihb⟩

end IsOperation

/-! ## The tree that is read -/

/-- What is read where an operator stands between two trees without parentheses around the right
one: operators of the same precedence on its left edge come later. -/
def chain (x : Expr) (op : BinaryOp) : Expr → Expr
  | .binary a op' b =>
    if op'.precedence = op.precedence then .binary (chain x op a) op' b
    else .binary x op (.binary a op' b)
  | y => .binary x op y

/-- What is read where an operator stands between two trees. -/
def join (parens : Bool) (x : Expr) (op : BinaryOp) (y : Expr) : Expr :=
  if parens then .binary x op y else chain x op y

mutual

/-- The tree that is read from the words of a formula. -/
def asRead : Expr → Expr
  | .binary a op b => join (b.parensUnder op true) a.asRead op b.asRead
  | .unary op e => .unary op e.asRead
  | .isNull e negated => .isNull e.asRead negated
  | .isIn e items negated => .isIn e.asRead (asReads items) negated
  | .between e low high negated => .between e.asRead low.asRead high.asRead negated
  | e => e

def asReads : List Expr → List Expr
  | [] => []
  | e :: es => e.asRead :: asReads es

end

@[simp] theorem asReads_eq_map (es : List Expr) : asReads es = es.map asRead := by
  induction es with
  | nil => rw [asReads, List.map_nil]
  | cons e es ih => rw [asReads, ih, List.map_cons]

theorem IsAtom.asRead_eq {e : Expr} (he : e.IsAtom) : e.asRead = e := by
  cases he <;> rw [asRead] <;> simp

theorem chain_binary {op op' : BinaryOp} (h : op'.precedence = op.precedence) (x a b : Expr) :
    chain x op (.binary a op' b) = .binary (chain x op a) op' b := by
  rw [chain, if_pos h]

theorem chain_of_forall {op : BinaryOp} {y : Expr}
    (h : ∀ a op' b, y = .binary a op' b → op'.precedence ≠ op.precedence) (x : Expr) :
    chain x op y = .binary x op y := by
  cases y with
  | binary a op' b => rw [chain, if_neg (h a op' b rfl)]
  | _ => rfl

/-- The operator on top of a chain has the precedence of the chain. -/
theorem exists_chain_eq (x : Expr) (op : BinaryOp) (y : Expr) :
    ∃ a op' b, chain x op y = .binary a op' b ∧ op'.precedence = op.precedence := by
  by_cases h : ∀ a op' b, y = .binary a op' b → op'.precedence ≠ op.precedence
  · exact ⟨x, op, y, chain_of_forall h x, rfl⟩
  · push Not at h
    obtain ⟨a, op', b, rfl, heq⟩ := h
    exact ⟨_, op', b, chain_binary heq x a b, heq⟩

theorem exists_join_eq (parens : Bool) (x : Expr) (op : BinaryOp) (y : Expr) :
    ∃ a op' b, join parens x op y = .binary a op' b ∧ op'.precedence = op.precedence := by
  cases parens with
  | true => exact ⟨x, op, y, rfl, rfl⟩
  | false => exact exists_chain_eq x op y

theorem chain_chain {op op' : BinaryOp} (h : op'.precedence = op.precedence) (x y z : Expr) :
    chain x op (chain y op' z) = chain (chain x op y) op' z := by
  induction z using chain.induct op' with
  | case1 a op'' b heq ih =>
    rw [chain_binary heq, chain_binary heq, chain_binary (heq.trans h), ih]
  | case2 a op'' b hne =>
    have hother : ∀ a' o b', Expr.binary a op'' b = .binary a' o b' →
        o.precedence ≠ op'.precedence := by
      rintro _ _ _ ⟨⟩
      exact hne
    rw [chain_of_forall hother, chain_of_forall hother, chain_binary h]
  | case3 z hz =>
    have hother : ∀ a o b, z = .binary a o b → o.precedence ≠ op'.precedence :=
      fun a o b heq => absurd heq (hz a o b)
    rw [chain_of_forall hother, chain_of_forall hother, chain_binary h]

theorem chain_join {op op' : BinaryOp} (h : op'.precedence = op.precedence) (parens : Bool)
    (x y z : Expr) : chain x op (join parens y op' z) = join parens (chain x op y) op' z := by
  cases parens with
  | true => exact chain_binary h x y z
  | false => exact chain_chain h x y z

/-- What is read as an operator was written with an operator of that precedence. -/
theorem exists_of_asRead_eq {e a b : Expr} {op : BinaryOp} (h : e.asRead = .binary a op b) :
    ∃ l o r, e = .binary l o r ∧ o.precedence = op.precedence := by
  cases e with
  | binary l o r =>
    obtain ⟨_, o', _, hjoin, hprecedence⟩ :=
      exists_join_eq (r.parensUnder o true) l.asRead o r.asRead
    rw [asRead, hjoin] at h
    obtain ⟨-, rfl, -⟩ := Expr.binary.inj h
    exact ⟨l, o, r, rfl, hprecedence.symm⟩
  | _ => simp [asRead] at h

/-- An operator in front of an expression that binds tighter stays on top. -/
theorem chain_asRead {op : BinaryOp} {e : Expr} (h : op.level < e.strength) (x : Expr) :
    chain x op e.asRead = .binary x op e.asRead := by
  refine chain_of_forall (fun a op' b heq => ?_) x
  obtain ⟨l, o, r, rfl, hprecedence⟩ := exists_of_asRead_eq heq
  have hlt : op.precedence < o.precedence := Nat.lt_of_mul_lt_mul_left h
  omega

/-- So does an operator in front of an expression with parentheses. -/
theorem chain_asRead_of_parens {op : BinaryOp} {e : Expr} (h : e.parensUnder op false = true)
    (x : Expr) : chain x op e.asRead = .binary x op e.asRead := by
  refine chain_of_forall (fun a op' b heq => ?_) x
  obtain ⟨l, o, r, rfl, hprecedence⟩ := exists_of_asRead_eq heq
  have hlt : o.precedence < op.precedence := by simpa [parensUnder] using h
  omega

/-- On the left of an operator only its precedence matters. -/
theorem parensUnder_left_congr {op op' : BinaryOp} (h : op'.precedence = op.precedence) (e : Expr) :
    e.parensUnder op' false = e.parensUnder op false := by
  cases e <;> simp only [parensUnder, h, Bool.false_and]

/-! ## The words of a formula are read -/

/-- Words are read as an expression, also to the right of an operator. -/
structure IsRead (e : Expr) : Prop where
  phrase : Phrase e.strength e.words e.asRead
  follows : ∀ (op : BinaryOp) (xs : List Word) (x : Expr), e.Follows op → Phrase op.level xs x →
    Phrase op.level (xs ++ (op.signs.map .sign ++ e.words)) (chain x op e.asRead)

/-- What binds tighter than all operators of its level. -/
theorem IsRead.of_phrase {e : Expr} (h : Phrase e.strength e.words e.asRead)
    (hfollows : ∀ op, e.Follows op → op.level < e.strength) : e.IsRead where
  phrase := h
  follows op xs x hop hx := by
    rw [chain_asRead (hfollows op hop)]
    exact hx.binary (h.weaken (hfollows op hop))

/-- Between parentheses an expression is read as it is, and stands wherever an operand may stand. -/
theorem IsRead.parens {e : Expr} (h : e.IsRead) (op : BinaryOp) :
    Phrase (op.level + 1) (Word.parensIf true e.words) e.asRead :=
  (Phrase.parens (h.phrase.weaken (Nat.zero_le _))).weaken op.level_lt_atomLevel

/-- The left operand of an operator. -/
theorem IsRead.left {op : BinaryOp} {a : Expr} (h : a.IsRead)
    (hplaced : a.parensUnder op false = false → op.level ≤ a.strength) :
    Phrase op.level (Word.parensIf (a.parensUnder op false) a.words) a.asRead := by
  cases hparens : a.parensUnder op false with
  | false => exact h.phrase.weaken (hplaced hparens)
  | true => exact (h.parens op).weaken (Nat.le_succ _)

/-- The right operand of an operator. -/
theorem IsRead.right {op : BinaryOp} {b : Expr} (h : b.IsRead)
    (hplaced : b.parensUnder op true = false → op.level ≤ b.strength) {xs : List Word} {x : Expr}
    (hx : Phrase op.level xs x) :
    Phrase op.level
      (xs ++ (op.signs.map .sign ++ Word.parensIf (b.parensUnder op true) b.words))
      (join (b.parensUnder op true) x op b.asRead) := by
  cases hparens : b.parensUnder op true with
  | false => exact h.follows op xs x (follows_of_le hparens (hplaced hparens)) hx
  | true => exact hx.binary (h.parens op)

/-- The left operand of an operator of the same precedence, after that operator. -/
theorem IsRead.middle {op : BinaryOp} {a : Expr} (h : a.IsRead)
    (hplaced : a.parensUnder op false = false → op.level ≤ a.strength) {xs : List Word} {x : Expr}
    (hx : Phrase op.level xs x) :
    Phrase op.level
      (xs ++ (op.signs.map .sign ++ Word.parensIf (a.parensUnder op false) a.words))
      (chain x op a.asRead) := by
  cases hparens : a.parensUnder op false with
  | false => exact h.follows op xs x (follows_of_le hparens (hplaced hparens)) hx
  | true =>
    rw [chain_asRead_of_parens hparens]
    exact hx.binary (h.parens op)

theorem IsRead.binary {op : BinaryOp} {a b : Expr} (ha : a.IsRead) (hb : b.IsRead)
    (hplaced : (Expr.binary a op b).PlacedHere) : (Expr.binary a op b).IsRead := by
  have hphrase : Phrase op.level (Expr.binary a op b).words (Expr.binary a op b).asRead := by
    rw [words, asRead]
    exact hb.right hplaced.2 (ha.left hplaced.1)
  refine ⟨hphrase, fun op' xs x hfollows hx => ?_⟩
  rcases Nat.lt_or_eq_of_le (show op'.precedence ≤ op.precedence from hfollows) with hlt | heq
  · -- The whole operand goes to the right of the weaker operator.
    have hlevel : op'.level < op.level := Nat.mul_lt_mul_of_pos_left hlt Nat.two_pos
    rw [chain_asRead hlevel]
    exact hx.binary (hphrase.weaken hlevel)
  · -- The chain goes on: the left operand comes after `op'`, then the right one after `op`.
    have hlevel : op'.level = op.level := congrArg (2 * ·) heq
    have hparens := parensUnder_left_congr heq a
    have hmiddle : Phrase op'.level
        (xs ++ (op'.signs.map .sign ++ Word.parensIf (a.parensUnder op' false) a.words))
        (chain x op' a.asRead) :=
      ha.middle (fun h => hlevel ▸ hplaced.1 (hparens ▸ h)) hx
    rw [words, asRead, chain_join heq.symm]
    rw [hparens, hlevel] at hmiddle
    rw [hlevel]
    simpa using hb.right hplaced.2 hmiddle

theorem IsFormula.notLevel_le_strength {e : Expr} (he : e.IsFormula)
    (hparens : e.parensAfter .not = false) : Phrase.notLevel ≤ e.strength := by
  cases he with
  | atom he =>
    rw [he.strength_eq]
    decide
  | not he => exact Nat.le_refl _
  | _ => cases hparens

/-- The words of a placed formula are read. -/
theorem IsFormula.isRead {e : Expr} (he : e.IsFormula) (hplaced : e.Placed) : e.IsRead := by
  induction he with
  | atom he =>
    have hstrength := he.strength_eq
    refine .of_phrase ?_ fun op _ => ?_
    · rw [he.words_eq, he.asRead_eq, hstrength]
      exact .atom he
    · rw [hstrength]
      exact op.level_lt_atomLevel
  | binary ha op hb iha ihb =>
    obtain ⟨hhere, hchildren⟩ := placed_iff.1 hplaced
    exact (iha (hchildren _ (by simp [children]))).binary
      (ihb (hchildren _ (by simp [children]))) hhere
  | @not e he ih =>
    have hread := ih ((placed_iff.1 hplaced).2 e (by simp [children]))
    refine .of_phrase ?_ fun op hop => hop
    rw [words, asRead]
    refine .not ?_
    cases hparens : e.parensAfter .not with
    | true => exact (hread.parens .and).weaken (by decide)
    | false => exact hread.phrase.weaken (he.notLevel_le_strength hparens)
  | isNull he negated ih =>
    obtain ⟨hhere, hchildren⟩ := placed_iff.1 hplaced
    refine .of_phrase ?_ fun op hop => hop
    rw [words, asRead]
    exact .isNull ((ih (hchildren _ (by simp [children]))).phrase.weaken hhere) negated
  | isIn he hne hitems negated ih ihs =>
    obtain ⟨hhere, hchildren⟩ := placed_iff.1 hplaced
    rw [children, List.forall_mem_cons] at hchildren
    refine .of_phrase ?_ fun op hop => hop
    have hphrase := Phrase.isIn ((ih hchildren.1).phrase.weaken hhere)
      (List.map_eq_nil_iff.not.2 hne)
      (List.forall_mem_map (f := fun x => (words x, asRead x)).2 fun x hx =>
        (ihs x hx (hchildren.2 x hx)).phrase.weaken (Nat.zero_le _)) negated
    rw [words, asRead, strength]
    simpa [Function.comp_def] using hphrase
  | between he hlow hhigh negated ih ihlow ihhigh =>
    obtain ⟨hhere, hchildren⟩ := placed_iff.1 hplaced
    refine .of_phrase ?_ fun op hop => hop
    rw [words, asRead]
    exact .between ((ih (hchildren _ (by simp [children]))).phrase.weaken hhere.1)
      ((ihlow (hchildren _ (by simp [children]))).phrase.weaken hhere.2.1)
      ((ihhigh (hchildren _ (by simp [children]))).phrase.weaken hhere.2.2) negated

end Expr

/-! ## Reading text and binds -/

/-- Text and binds are read as this expression. -/
def Dialect.Parses (d : Dialect) (r : Rendering) (q : Expr) : Prop :=
  ∃ xs, d.words r = some xs ∧ Phrase 0 xs q

theorem Dialect.Parses.unique {d : Dialect} {r : Rendering} {q q' : Expr} (h : d.Parses r q)
    (h' : d.Parses r q') : q' = q := by
  obtain ⟨xs, hxs, hq⟩ := h
  obtain ⟨ys, hys, hq'⟩ := h'
  rw [hxs, Option.some.injEq] at hys
  subst hys
  exact hq'.unique hq

/-- A placed formula is rendered, and its text and its binds are read as one tree and no other. -/
theorem Expr.IsFormula.parses_iff {d : Dialect} (hd : d.QuotesNames) {e : Expr} (he : e.IsFormula)
    (hplaced : e.Placed) :
    ∃ r, (e.render d).outcome = .ok r ∧ ∀ q, d.Parses r q ↔ q = e.asRead := by
  obtain ⟨r, hr, hwords⟩ := he.words_render hd
  have hread : d.Parses r e.asRead :=
    ⟨e.words, hwords, (he.isRead hplaced).phrase.weaken (Nat.zero_le _)⟩
  refine ⟨r, hr, fun q => ⟨fun hq => hread.unique hq, ?_⟩⟩
  rintro rfl
  exact hread

end PolySql
