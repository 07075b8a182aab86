import PolySql.Proofs.Lexemes

/-!
# The grammar of conditions

Conditions are read as SQL reads them: `OR` binds weaker than `AND`, `AND` weaker than `NOT`, and
`NOT` weaker than a test of atoms. Chains of `AND` and chains of `OR` group to the left, parentheses
group as they stand, and the `AND` of a `BETWEEN` belongs to the test. The grammar is a relation;
a reader that goes from left to right with a stack of open parentheses shows that no items can be
read in two ways.

* `Condition` : the grammar;
* `Reader`, `Reader.step` : the reader;
* `Condition.run` : the reader finds whatever the grammar allows;
* `Condition.unique` : items have at most one reading.
-/

namespace PolySql

/-! ## The grammar -/

/-- A comparison of two values. -/
def BinaryOp.IsComparison (op : BinaryOp) : Prop :=
  op ∈ [.eq, .notEq, .lt, .ltEq, .gt, .gtEq, .like, .notLike]

theorem BinaryOp.IsComparison.eq_or {op : BinaryOp} (h : op.IsComparison) :
    op = .eq ∨ op = .notEq ∨ op = .lt ∨ op = .ltEq ∨ op = .gt ∨ op = .gtEq ∨ op = .like ∨
      op = .notLike := by
  simpa [IsComparison] using h

/-- The symbols of a comparison. -/
def BinaryOp.symbols : BinaryOp → List Symbol
  | .like => [.like]
  | .notLike => [.not, .like]
  | op => [.compare op]

/-- The word in front of a test that is negated. -/
def Symbol.negation (negated : Bool) : List Symbol := if negated then [.not] else []

/-- Atoms between commas. -/
def Item.commas (es : List Expr) : List Item := (es.map .atom).intersperse (.symbol .comma)

/-- How weakly a condition binds. -/
inductive Rank where
  | disjunction
  | conjunction
  | negation
deriving DecidableEq, Repr

/-- Items that are read as an expression. -/
inductive Condition : Rank → List Item → Expr → Prop
  | or {xs ys : List Item} {p q : Expr} (hp : Condition .disjunction xs p)
      (hq : Condition .conjunction ys q) :
      Condition .disjunction (xs ++ .symbol .or :: ys) (.binary p .or q)
  | ofConjunction {xs : List Item} {p : Expr} (hp : Condition .conjunction xs p) :
      Condition .disjunction xs p
  | and {xs ys : List Item} {p q : Expr} (hp : Condition .conjunction xs p)
      (hq : Condition .negation ys q) :
      Condition .conjunction (xs ++ .symbol .and :: ys) (.binary p .and q)
  | ofNegation {xs : List Item} {p : Expr} (hp : Condition .negation xs p) :
      Condition .conjunction xs p
  | not {xs : List Item} {p : Expr} (hp : Condition .negation xs p) :
      Condition .negation (.symbol .not :: xs) (.unary .not p)
  | parens {xs : List Item} {p : Expr} (hp : Condition .disjunction xs p) :
      Condition .negation (.symbol .leftParen :: (xs ++ [.symbol .rightParen])) p
  | compare {op : BinaryOp} (hop : op.IsComparison) (a b : Expr) :
      Condition .negation (.atom a :: (op.symbols.map .symbol ++ [.atom b])) (.binary a op b)
  | isNull (a : Expr) (negated : Bool) :
      Condition .negation
        (.atom a :: .symbol .is :: ((Symbol.negation negated).map .symbol ++ [.symbol .null]))
        (.isNull a negated)
  | isIn (a : Expr) {es : List Expr} (hes : es ≠ []) (negated : Bool) :
      Condition .negation
        (.atom a :: ((Symbol.negation negated).map .symbol ++ .symbol .inList ::
          .symbol .leftParen :: (Item.commas es ++ [.symbol .rightParen])))
        (.isIn a es negated)
  | between (a low high : Expr) (negated : Bool) :
      Condition .negation
        (.atom a :: ((Symbol.negation negated).map .symbol ++
          [.symbol .between, .atom low, .symbol .and, .atom high]))
        (.between a low high negated)

/-! ## The reader -/

/-- An expression after the earlier ones of its chain. -/
def Expr.after (op : BinaryOp) (earlier : Option Expr) (e : Expr) : Expr :=
  match earlier with
  | none => e
  | some x => .binary x op e

/-- An expression under so many negations. -/
def Expr.negations : Nat → Expr → Expr
  | 0, e => e
  | n + 1, e => negations n (.unary .not e)

/-- What is read since a parenthesis was opened: the conditions joined by `OR`, those joined by
`AND` after them, and the number of `NOT`s after those. -/
structure Level where
  ors : Option Expr := none
  ands : Option Expr := none
  nots : Nat := 0

namespace Level

/-- One more operand. -/
def feed (l : Level) (e : Expr) : Level := ⟨l.ors, some (e.negations l.nots |>.after .and l.ands), 0⟩

/-- All that is read. -/
def value (l : Level) : Option Expr := l.ands.map (Expr.after .or l.ors)

end Level

/-- What a reader is in the middle of. -/
inductive Phase where
  /-- An operand must follow. -/
  | operand
  /-- An operand is complete. -/
  | done
  | tested (a : Expr)
  | testedNot (a : Expr)
  | compared (a : Expr) (op : BinaryOp)
  | is (a : Expr)
  | isNot (a : Expr)
  | inList (a : Expr) (negated : Bool)
  | listItem (a : Expr) (es : List Expr) (negated : Bool)
  | listNext (a : Expr) (es : List Expr) (negated : Bool)
  | low (a : Expr) (negated : Bool)
  | lowRead (a b : Expr) (negated : Bool)
  | high (a b : Expr) (negated : Bool)

/-- A reader inside a number of open parentheses. -/
structure Reader where
  outer : List Level := []
  level : Level := {}
  phase : Phase := .operand

namespace Reader

/-- One more item. -/
def step : Reader → Item → Option Reader
  | ⟨outer, l, .operand⟩, .symbol .not => some ⟨outer, { l with nots := l.nots + 1 }, .operand⟩
  | ⟨outer, l, .operand⟩, .symbol .leftParen => some ⟨l :: outer, {}, .operand⟩
  | ⟨outer, l, .operand⟩, .atom a => some ⟨outer, l, .tested a⟩
  | ⟨outer, l, .tested a⟩, .symbol (.compare op) => some ⟨outer, l, .compared a op⟩
  | ⟨outer, l, .tested a⟩, .symbol .like => some ⟨outer, l, .compared a .like⟩
  | ⟨outer, l, .tested a⟩, .symbol .is => some ⟨outer, l, .is a⟩
  | ⟨outer, l, .tested a⟩, .symbol .not => some ⟨outer, l, .testedNot a⟩
  | ⟨outer, l, .tested a⟩, .symbol .inList => some ⟨outer, l, .inList a false⟩
  | ⟨outer, l, .tested a⟩, .symbol .between => some ⟨outer, l, .low a false⟩
  | ⟨outer, l, .testedNot a⟩, .symbol .like => some ⟨outer, l, .compared a .notLike⟩
  | ⟨outer, l, .testedNot a⟩, .symbol .inList => some ⟨outer, l, .inList a true⟩
  | ⟨outer, l, .testedNot a⟩, .symbol .between => some ⟨outer, l, .low a true⟩
  | ⟨outer, l, .compared a op⟩, .atom b => some ⟨outer, l.feed (.binary a op b), .done⟩
  | ⟨outer, l, .is a⟩, .symbol .null => some ⟨outer, l.feed (.isNull a false), .done⟩
  | ⟨outer, l, .is a⟩, .symbol .not => some ⟨outer, l, .isNot a⟩
  | ⟨outer, l, .isNot a⟩, .symbol .null => some ⟨outer, l.feed (.isNull a true), .done⟩
  | ⟨outer, l, .inList a negated⟩, .symbol .leftParen => some ⟨outer, l, .listItem a [] negated⟩
  | ⟨outer, l, .listItem a es negated⟩, .atom b => some ⟨outer, l, .listNext a (es ++ [b]) negated⟩
  | ⟨outer, l, .listNext a es negated⟩, .symbol .comma => some ⟨outer, l, .listItem a es negated⟩
  | ⟨outer, l, .listNext a es negated⟩, .symbol .rightParen =>
    some ⟨outer, l.feed (.isIn a es negated), .done⟩
  | ⟨outer, l, .low a negated⟩, .atom b => some ⟨outer, l, .lowRead a b negated⟩
  | ⟨outer, l, .lowRead a b negated⟩, .symbol .and => some ⟨outer, l, .high a b negated⟩
  | ⟨outer, l, .high a b negated⟩, .atom c => some ⟨outer, l.feed (.between a b c negated), .done⟩
  | ⟨outer, l, .done⟩, .symbol .and => some ⟨outer, l, .operand⟩
  | ⟨outer, l, .done⟩, .symbol .or => l.value.map fun e => ⟨outer, { ors := some e }, .operand⟩
  | ⟨l' :: outer, l, .done⟩, .symbol .rightParen => l.value.map fun e => ⟨outer, l'.feed e, .done⟩
  | _, _ => none

/-- All of the items. -/
def run (s : Reader) (xs : List Item) : Option Reader := xs.foldlM step s

theorem run_append (s : Reader) (xs ys : List Item) :
    s.run (xs ++ ys) = (s.run xs).bind fun t => t.run ys :=
  List.foldlM_append

theorem run_cons {s t : Reader} {x : Item} (h : s.step x = some t) (xs : List Item) :
    s.run (x :: xs) = t.run xs := by
  rw [run, List.foldlM_cons, h]
  rfl

variable (outer : List Level) (l : Level)

theorem run_commas (a e : Expr) (read es : List Expr) (negated : Bool) :
    run ⟨outer, l, .listItem a read negated⟩ (Item.commas (e :: es) ++ [.symbol .rightParen]) =
      some ⟨outer, l.feed (.isIn a (read ++ e :: es) negated), .done⟩ := by
  induction es generalizing read e with
  | nil => rfl
  | cons f es ih =>
    have hcommas : Item.commas (e :: f :: es) =
        .atom e :: .symbol .comma :: Item.commas (f :: es) := rfl
    rw [hcommas, List.cons_append, List.cons_append, run_cons rfl, run_cons rfl, ih]
    simp

end Reader

/-! ## The reader finds what the grammar allows -/

/-- What a reader makes of items of a rank. -/
def Rank.Completes (xs : List Item) (p : Expr) : Rank → Prop
  | .negation => ∀ outer l, Reader.run ⟨outer, l, .operand⟩ xs = some ⟨outer, l.feed p, .done⟩
  | .conjunction => ∀ outer ors, Reader.run ⟨outer, ⟨ors, none, 0⟩, .operand⟩ xs =
      some ⟨outer, ⟨ors, some p, 0⟩, .done⟩
  | .disjunction => ∀ outer, ∃ l, Reader.run ⟨outer, {}, .operand⟩ xs = some ⟨outer, l, .done⟩ ∧
      l.value = some p

/-- The reader goes through whatever the grammar allows. -/
theorem Condition.run {rank : Rank} {xs : List Item} {p : Expr} (h : Condition rank xs p) :
    rank.Completes xs p := by
  induction h with
  | or hp hq ihp ihq =>
    intro outer
    obtain ⟨l, hrun, hvalue⟩ := ihp outer
    refine ⟨⟨some _, some _, 0⟩, ?_, rfl⟩
    rw [Reader.run_append, hrun, Option.bind_some, Reader.run_cons (t := ⟨outer, ⟨some _, none, 0⟩, _⟩)
      (by rw [Reader.step, hvalue]; rfl)]
    exact ihq outer _
  | ofConjunction hp ih => exact fun outer => ⟨_, ih outer none, rfl⟩
  | and hp hq ihp ihq =>
    intro outer ors
    rw [Reader.run_append, ihp outer ors, Option.bind_some, Reader.run_cons rfl, ihq]
    rfl
  | ofNegation hp ih => exact fun outer ors => ih outer ⟨ors, none, 0⟩
  | not hp ih =>
    intro outer l
    rw [Reader.run_cons rfl, ih]
    rfl
  | parens hp ih =>
    intro outer l
    obtain ⟨l', hrun, hvalue⟩ := ih (l :: outer)
    rw [Reader.run_cons rfl, Reader.run_append, hrun, Option.bind_some,
      Reader.run_cons (by rw [Reader.step, hvalue]; rfl)]
    rfl
  | compare hop a b =>
    intro outer l
    rcases hop.eq_or with rfl | rfl | rfl | rfl | rfl | rfl | rfl | rfl <;> rfl
  | isNull a negated =>
    intro outer l
    cases negated <;> rfl
  | isIn a hes negated =>
    intro outer l
    obtain ⟨e, es, rfl⟩ := List.exists_cons_of_ne_nil hes
    cases negated <;> exact Reader.run_commas outer l a e [] es _
  | between a low high negated =>
    intro outer l
    cases negated <;> rfl

/-- Items are read in one way at most. -/
theorem Condition.unique {xs : List Item} {p q : Expr} (hp : Condition .disjunction xs p)
    (hq : Condition .disjunction xs q) : p = q := by
  obtain ⟨l, hl, hp⟩ := hp.run []
  obtain ⟨l', hl', hq⟩ := hq.run []
  rw [hl, Option.some.injEq, Reader.mk.injEq] at hl'
  rw [hl'.2.1, hq] at hp
  exact (Option.some.inj hp).symm

end PolySql
