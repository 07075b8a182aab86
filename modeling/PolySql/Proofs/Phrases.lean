import PolySql.Proofs.Predicates
import PolySql.Proofs.Vocabulary

/-!
# The grammar of expressions

Expressions are read by how tightly their operators bind: `OR` weaker than `AND`, `AND` weaker than
`NOT`, `NOT` weaker than comparisons and the tests for null, for a list and for a range, and so on
as the operators' precedences have it. Operators of one level group to the left, parentheses group
as they stand, and the bounds of a range bind tighter than the test. The grammar is a relation; a
reader that goes from left to right with a stack of what waits for an operand shows that no words
can be read in two ways.

* `Sign`, `Word`, `Dialect.words` : the words of a text;
* `Phrase` : the grammar, level by level;
* `Parse`, `Parse.step` : the reader;
* `Phrase.completes` : the reader finds whatever the grammar allows;
* `Phrase.unique` : words have at most one reading.
-/

namespace PolySql

/-! ## Words -/

/-- What makes expressions and clauses out of atoms. -/
inductive Sign where
  /-- The sign of an operator; `NOT LIKE` has two signs. -/
  | op (op : BinaryOp)
  | not
  | is
  | null
  | inList
  | between
  | leftParen
  | rightParen
  | comma
  /-- Any other word. -/
  | keyword (cs : List Char)
deriving DecidableEq, Repr

namespace Sign

/-- The operators with a sign of their own. -/
def operators : List BinaryOp :=
  [.or, .and, .eq, .notEq, .lt, .ltEq, .gt, .gtEq, .like, .add, .sub, .concat, .mul, .div, .mod]

/-- The signs with their texts. -/
def table : List (String × Sign) :=
  operators.map (fun op => (op.text, .op op)) ++
    [("NOT", .not), ("IS", .is), ("NULL", .null), ("IN", .inList), ("BETWEEN", .between),
      ("(", .leftParen), (")", .rightParen), (",", .comma)]

/-- The sign with this text. -/
def ofText? (cs : List Char) : Option Sign :=
  (table.find? fun entry => entry.1.toList == cs).map Prod.snd

end Sign

/-- An atom, or a sign. -/
inductive Word where
  | atom (e : Expr)
  | sign (s : Sign)

/-- The signs of a lexeme that is neither a column nor a placeholder; a blank has none. -/
def Lexeme.signs? : Lexeme → Option (List Sign)
  | .blank => some []
  | .word cs => some [(Sign.ofText? cs).getD (.keyword cs)]
  | .operator cs => (Sign.ofText? cs).map ([·])
  | .mark c => (Sign.ofText? [c]).map ([·])
  | _ => none

/-- Lexemes are read as words. -/
def Word.vocabulary : Vocabulary Sign Word where
  atom := .atom
  symbol := .sign
  symbols? := Lexeme.signs?

/-- The words of a text with its binds. -/
def Dialect.words (d : Dialect) (r : Rendering) : Option (List Word) :=
  (d.scan r.sql.toList).bind fun marks =>
    Word.vocabulary.itemsFrom r.binds 0 (Lexeme.ofMarks marks)

/-- The signs of an operator. -/
def BinaryOp.signs : BinaryOp → List Sign
  | .notLike => [.not, .op .like]
  | op => [.op op]

/-- The sign in front of a test that is negated. -/
def Sign.negation (negated : Bool) : List Sign := if negated then [.not] else []

/-- Lists of words with commas between. -/
def Word.commas (xss : List (List Word)) : List Word := [Word.sign .comma].intercalate xss

@[simp] theorem Word.commas_nil : commas [] = [] := List.intercalate_nil

@[simp] theorem Word.commas_singleton (xs : List Word) : commas [xs] = xs :=
  List.intercalate_singleton

theorem Word.commas_cons_cons (xs ys : List Word) (xss : List (List Word)) :
    commas (xs :: ys :: xss) = xs ++ .sign .comma :: commas (ys :: xss) := by
  simp [commas]

/-! ## The grammar -/

/-- How tightly an operator binds. Between the levels of two operators there is room for what stands
to the right of the weaker one, and for `NOT`. -/
def BinaryOp.level (op : BinaryOp) : Nat := 2 * op.precedence

namespace Phrase

/-- `NOT` binds tighter than `AND` and weaker than any comparison. -/
def notLevel : Nat := BinaryOp.and.level + 1

/-- The tests for null, for a list and for a range bind like comparisons. -/
def testLevel : Nat := 2 * BinaryOp.comparisonPrecedence

/-- Nothing binds tighter than parentheses. -/
def atomLevel : Nat := 20

end Phrase

open Phrase in
/-- Words that are read as an expression that binds at least as tightly as a level. -/
inductive Phrase : Nat → List Word → Expr → Prop
  | atom {a : Expr} (ha : a.IsAtom) : Phrase atomLevel [.atom a] a
  | parens {xs : List Word} {p : Expr} (hp : Phrase 0 xs p) :
      Phrase atomLevel (.sign .leftParen :: (xs ++ [.sign .rightParen])) p
  | weaken {m n : Nat} {xs : List Word} {p : Expr} (hp : Phrase n xs p) (hle : m ≤ n) :
      Phrase m xs p
  | binary {op : BinaryOp} {xs ys : List Word} {p q : Expr} (hp : Phrase op.level xs p)
      (hq : Phrase (op.level + 1) ys q) :
      Phrase op.level (xs ++ (op.signs.map .sign ++ ys)) (.binary p op q)
  | not {xs : List Word} {p : Expr} (hp : Phrase notLevel xs p) :
      Phrase notLevel (.sign .not :: xs) (.unary .not p)
  | isNull {xs : List Word} {p : Expr} (hp : Phrase testLevel xs p) (negated : Bool) :
      Phrase testLevel
        (xs ++ .sign .is :: ((Sign.negation negated).map .sign ++ [.sign .null]))
        (.isNull p negated)
  | isIn {xs : List Word} {p : Expr} (hp : Phrase testLevel xs p)
      {parts : List (List Word × Expr)} (hne : parts ≠ [])
      (hparts : ∀ x ∈ parts, Phrase 0 x.1 x.2) (negated : Bool) :
      Phrase testLevel
        (xs ++ ((Sign.negation negated).map .sign ++ .sign .inList :: .sign .leftParen ::
          (Word.commas (parts.map Prod.fst) ++ [.sign .rightParen])))
        (.isIn p (parts.map Prod.snd) negated)
  | between {xs ys zs : List Word} {p low high : Expr} (hp : Phrase testLevel xs p)
      (hlow : Phrase (testLevel + 1) ys low) (hhigh : Phrase (testLevel + 1) zs high)
      (negated : Bool) :
      Phrase testLevel
        (xs ++ ((Sign.negation negated).map .sign ++ .sign .between ::
          (ys ++ .sign (.op .and) :: zs)))
        (.between p low high negated)

/-! ## The reader -/

/-- What waits for an operand to be complete. -/
inductive Frame where
  | binary (left : Expr) (op : BinaryOp)
  | not
  | low (tested : Expr) (negated : Bool)
  | high (tested lower : Expr) (negated : Bool)
  | paren
  | item (tested : Expr) (earlier : List Expr) (negated : Bool)

namespace Frame

/-- What the frame makes of its operand, and the strongest precedence of an operator to the right
that leaves it at that. The other frames wait for a word of their own. -/
def complete? : Frame → Expr → Option (Nat × Expr)
  | .binary left op, e => some (op.precedence, .binary left op e)
  | .not, e => some (BinaryOp.and.precedence, .unary .not e)
  | .high tested lower negated, e =>
    some (BinaryOp.comparisonPrecedence, .between tested lower e negated)
  | _, _ => none

/-- The weakest level of an operand. -/
def floor : Frame → Nat
  | .binary _ op => op.level + 1
  | .not => Phrase.notLevel
  | .low .. | .high .. => Phrase.testLevel + 1
  | .paren | .item .. => 0

/-- Operands at this level may follow the frames. -/
def Fits (n : Nat) : List Frame → Prop
  | [] => True
  | f :: _ => f.floor ≤ n

/-- Completes the frames on the top that bind at least as tightly as a precedence. -/
def collapse (m : Nat) : List Frame → Expr → List Frame × Expr
  | [], e => ([], e)
  | f :: fs, e =>
    match f.complete? e with
    | none => (f :: fs, e)
    | some (k, e') => if m ≤ k then collapse m fs e' else (f :: fs, e)

theorem Fits.mono {n n' : Nat} {fs : List Frame} (h : Fits n fs) (hle : n ≤ n') : Fits n' fs := by
  cases fs with
  | nil => trivial
  | cons f fs => exact Nat.le_trans h hle

theorem collapse_of_fits {m n : Nat} {fs : List Frame} (h : Fits n fs) (hle : n ≤ 2 * m)
    (e : Expr) : collapse m fs e = (fs, e) := by
  cases fs with
  | nil => rfl
  | cons f fs =>
    have hfloor : f.floor ≤ 2 * m := Nat.le_trans h hle
    cases f with
    | binary left op =>
      simp only [floor, BinaryOp.level] at hfloor
      simp only [collapse, complete?, if_neg (show ¬ m ≤ op.precedence by omega)]
    | not =>
      have hm : ¬ m ≤ BinaryOp.and.precedence := by
        simp only [floor, Phrase.notLevel, BinaryOp.level] at hfloor
        omega
      simp only [collapse, complete?, if_neg hm]
    | high tested lower negated =>
      have hm : ¬ m ≤ BinaryOp.comparisonPrecedence := by
        simp only [floor, Phrase.testLevel] at hfloor
        omega
      simp only [collapse, complete?, if_neg hm]
    | _ => rfl

theorem collapse_cons {m k : Nat} {f : Frame} {e e' : Expr} (h : f.complete? e = some (k, e'))
    (hle : m ≤ k) (fs : List Frame) : collapse m (f :: fs) e = collapse m fs e' := by
  simp only [collapse, h, if_pos hle]

end Frame

open PolySql.Frame

/-- What a reader has just read. -/
inductive Parse.Seen where
  /-- Nothing that an operand could end with: an operand must follow. -/
  | start
  | operand (e : Expr)
  | negated (e : Expr)
  | is (e : Expr)
  | isNot (e : Expr)
  | inList (e : Expr) (negated : Bool)

/-- A reader with what waits for an operand, the latest first. -/
structure Parse where
  frames : List Frame
  seen : Parse.Seen

namespace Parse

/-- An operator after an operand; the `AND` after a lower bound leads to the upper one. -/
def connect (op : BinaryOp) (fs : List Frame) (e : Expr) : Parse :=
  match op, collapse op.precedence fs e with
  | .and, (.low tested negated :: fs, e) => ⟨.high tested e negated :: fs, .start⟩
  | op, (fs, e) => ⟨.binary e op :: fs, .start⟩

/-- An expression made of all that binds like a test, complete again. -/
def test (make : Expr → Expr) (fs : List Frame) (e : Expr) : Parse :=
  let (fs, e) := collapse BinaryOp.comparisonPrecedence fs e
  ⟨fs, .operand (make e)⟩

/-- A test that waits for more. -/
def await (make : Expr → Frame) (fs : List Frame) (e : Expr) : Parse :=
  let (fs, e) := collapse BinaryOp.comparisonPrecedence fs e
  ⟨make e :: fs, .start⟩

/-- A comma, which only stands between the items of a list. -/
def comma (fs : List Frame) (e : Expr) : Option Parse :=
  match collapse 0 fs e with
  | (.item tested earlier negated :: fs, e) =>
    some ⟨.item tested (earlier ++ [e]) negated :: fs, .start⟩
  | _ => none

/-- The end of parentheses or of a list. -/
def close (fs : List Frame) (e : Expr) : Option Parse :=
  match collapse 0 fs e with
  | (.paren :: fs, e) => some ⟨fs, .operand e⟩
  | (.item tested earlier negated :: fs, e) =>
    some ⟨fs, .operand (.isIn tested (earlier ++ [e]) negated)⟩
  | _ => none

/-- One more word. -/
def step : Parse → Word → Option Parse
  | ⟨fs, .start⟩, .atom a => some ⟨fs, .operand a⟩
  | ⟨fs, .start⟩, .sign .not => some ⟨.not :: fs, .start⟩
  | ⟨fs, .start⟩, .sign .leftParen => some ⟨.paren :: fs, .start⟩
  | ⟨fs, .operand e⟩, .sign (.op op) => some (connect op fs e)
  | ⟨fs, .operand e⟩, .sign .not => some ⟨fs, .negated e⟩
  | ⟨fs, .operand e⟩, .sign .is => some ⟨fs, .is e⟩
  | ⟨fs, .operand e⟩, .sign .inList => some ⟨fs, .inList e false⟩
  | ⟨fs, .operand e⟩, .sign .between => some (await (.low · false) fs e)
  | ⟨fs, .operand e⟩, .sign .comma => comma fs e
  | ⟨fs, .operand e⟩, .sign .rightParen => close fs e
  | ⟨fs, .negated e⟩, .sign (.op .like) => some (connect .notLike fs e)
  | ⟨fs, .negated e⟩, .sign .inList => some ⟨fs, .inList e true⟩
  | ⟨fs, .negated e⟩, .sign .between => some (await (.low · true) fs e)
  | ⟨fs, .is e⟩, .sign .null => some (test (.isNull · false) fs e)
  | ⟨fs, .is e⟩, .sign .not => some ⟨fs, .isNot e⟩
  | ⟨fs, .isNot e⟩, .sign .null => some (test (.isNull · true) fs e)
  | ⟨fs, .inList e negated⟩, .sign .leftParen => some (await (.item · [] negated) fs e)
  | _, _ => none

/-- All of the words. -/
def run (s : Parse) (xs : List Word) : Option Parse := xs.foldlM step s

theorem run_append (s : Parse) (xs ys : List Word) :
    s.run (xs ++ ys) = (s.run xs).bind fun t => t.run ys :=
  List.foldlM_append

theorem run_cons {s t : Parse} {x : Word} (h : s.step x = some t) (xs : List Word) :
    s.run (x :: xs) = t.run xs := by
  rw [run, List.foldlM_cons, h]
  rfl

/-- The reader goes through the words, and all that binds at least as tightly as the level comes out
as the expression. -/
def Completes (n : Nat) (xs : List Word) (p : Expr) : Prop :=
  ∀ fs, Fits n fs → ∃ fs' e, run ⟨fs, .start⟩ xs = some ⟨fs', .operand e⟩ ∧
    ∀ m, 2 * m ≤ n → collapse m fs' e = collapse m fs p

theorem Completes.weaken {m n : Nat} {xs : List Word} {p : Expr} (h : Completes n xs p)
    (hle : m ≤ n) : Completes m xs p := by
  intro fs hfs
  obtain ⟨fs', e, hrun, hcollapse⟩ := h fs (hfs.mono hle)
  exact ⟨fs', e, hrun, fun k hk => hcollapse k (Nat.le_trans hk hle)⟩

/-- Words after an operand of a level. -/
theorem Completes.run_append {n : Nat} {xs : List Word} {p : Expr} (h : Completes n xs p)
    (fs : List Frame) (hfs : Fits n fs) (ys : List Word) :
    ∃ fs' e, run ⟨fs, .start⟩ (xs ++ ys) = run ⟨fs', .operand e⟩ ys ∧
      ∀ m, 2 * m ≤ n → collapse m fs' e = collapse m fs p := by
  obtain ⟨fs', e, hrun, hcollapse⟩ := h fs hfs
  exact ⟨fs', e, by rw [Parse.run_append, hrun]; rfl, hcollapse⟩

/-! ## The reader finds what the grammar allows -/

theorem connect_of_fits {op : BinaryOp} {fs fs' : List Frame} {e p : Expr}
    (hfs : Fits op.level fs)
    (hcollapse : collapse op.precedence fs' e = collapse op.precedence fs p) :
    connect op fs' e = ⟨.binary p op :: fs, .start⟩ := by
  rw [collapse_of_fits hfs (Nat.le_refl _)] at hcollapse
  unfold connect
  rw [hcollapse]
  split
  next heq =>
    obtain ⟨rfl, -⟩ := Prod.mk.inj heq
    exact absurd (show 7 ≤ 4 from hfs) (by decide)
  next => simp_all

theorem test_of_fits (make : Expr → Expr) {fs fs' : List Frame} {e p : Expr}
    (hfs : Fits Phrase.testLevel fs)
    (hcollapse : ∀ m, 2 * m ≤ Phrase.testLevel → collapse m fs' e = collapse m fs p) :
    test make fs' e = ⟨fs, .operand (make p)⟩ := by
  rw [test, hcollapse _ (Nat.le_refl _), collapse_of_fits hfs (Nat.le_refl _)]

theorem await_of_fits (make : Expr → Frame) {fs fs' : List Frame} {e p : Expr}
    (hfs : Fits Phrase.testLevel fs)
    (hcollapse : ∀ m, 2 * m ≤ Phrase.testLevel → collapse m fs' e = collapse m fs p) :
    await make fs' e = ⟨make p :: fs, .start⟩ := by
  rw [await, hcollapse _ (Nat.le_refl _), collapse_of_fits hfs (Nat.le_refl _)]

theorem Completes.parens {xs : List Word} {p : Expr} (hp : Completes 0 xs p) :
    Completes Phrase.atomLevel (.sign .leftParen :: (xs ++ [.sign .rightParen])) p := by
  intro fs _
  obtain ⟨fs', e, hrun, hcollapse⟩ :=
    hp.run_append (.paren :: fs) (Nat.le_refl 0) [.sign .rightParen]
  have hclose : step ⟨fs', .operand e⟩ (.sign .rightParen) = some ⟨fs, .operand p⟩ := by
    rw [step, close, hcollapse 0 (Nat.le_refl 0)]
    rfl
  refine ⟨fs, p, ?_, fun _ _ => rfl⟩
  rw [run_cons rfl, hrun, run_cons hclose]
  rfl

theorem Completes.binary {op : BinaryOp} {xs ys : List Word} {p q : Expr}
    (hp : Completes op.level xs p) (hq : Completes (op.level + 1) ys q) :
    Completes op.level (xs ++ (op.signs.map .sign ++ ys)) (.binary p op q) := by
  intro fs hfs
  obtain ⟨fs', e, hrun, hcollapse⟩ := hp.run_append fs hfs (op.signs.map .sign ++ ys)
  obtain ⟨fs'', e', hrun', hcollapse'⟩ := hq (.binary p op :: fs) (Nat.le_refl _)
  have hconnect := connect_of_fits hfs (hcollapse op.precedence (Nat.le_refl _))
  have hsigns : run ⟨fs', .operand e⟩ (op.signs.map .sign ++ ys) =
      (connect op fs' e).run ys := by
    cases op with
    | notLike => exact (run_cons rfl _).trans (run_cons rfl _)
    | _ => exact run_cons rfl _
  refine ⟨fs'', e', ?_, fun m hm => ?_⟩
  · rw [hrun, hsigns, hconnect, hrun']
  · rw [hcollapse' m (Nat.le_succ_of_le hm)]
    exact collapse_cons rfl (Nat.le_of_mul_le_mul_left hm Nat.two_pos) fs

theorem Completes.not {xs : List Word} {p : Expr} (hp : Completes Phrase.notLevel xs p) :
    Completes Phrase.notLevel (.sign .not :: xs) (.unary .not p) := by
  intro fs _
  obtain ⟨fs', e, hrun, hcollapse⟩ := hp (.not :: fs) (Nat.le_refl _)
  refine ⟨fs', e, by rw [run_cons rfl, hrun], fun m hm => ?_⟩
  have hle : m ≤ BinaryOp.and.precedence := by
    simp only [Phrase.notLevel, BinaryOp.level] at hm
    omega
  rw [hcollapse m hm]
  exact collapse_cons rfl hle fs

theorem Completes.isNull {xs : List Word} {p : Expr} (hp : Completes Phrase.testLevel xs p)
    (negated : Bool) :
    Completes Phrase.testLevel
      (xs ++ .sign .is :: ((Sign.negation negated).map .sign ++ [.sign .null]))
      (.isNull p negated) := by
  intro fs hfs
  obtain ⟨fs', e, hrun, hcollapse⟩ := hp.run_append fs hfs
    (.sign .is :: ((Sign.negation negated).map .sign ++ [.sign .null]))
  have hsigns : run ⟨fs', .operand e⟩
      (.sign .is :: ((Sign.negation negated).map .sign ++ [.sign .null])) =
        some (test (.isNull · negated) fs' e) := by
    cases negated <;> rfl
  refine ⟨fs, .isNull p negated, ?_, fun _ _ => rfl⟩
  rw [hrun, hsigns, test_of_fits _ hfs hcollapse]

/-- The items of a list, up to its end. -/
theorem run_items (tested : Expr) (negated : Bool) (fs : List Frame) {x : List Word × Expr}
    {parts : List (List Word × Expr)} (h : ∀ y ∈ x :: parts, Completes 0 y.1 y.2)
    (earlier : List Expr) :
    run ⟨.item tested earlier negated :: fs, .start⟩
        (Word.commas ((x :: parts).map Prod.fst) ++ [.sign .rightParen]) =
      some ⟨fs, .operand (.isIn tested (earlier ++ (x :: parts).map Prod.snd) negated)⟩ := by
  induction parts generalizing x earlier with
  | nil =>
    obtain ⟨fs', e, hrun, hcollapse⟩ := (h x (by simp)).run_append
      (.item tested earlier negated :: fs) (Nat.le_refl 0) [.sign .rightParen]
    have hclose : step ⟨fs', .operand e⟩ (.sign .rightParen) =
        some ⟨fs, .operand (.isIn tested (earlier ++ [x.2]) negated)⟩ := by
      rw [step, close, hcollapse 0 (Nat.le_refl 0)]
      rfl
    rw [List.map_singleton, Word.commas_singleton, hrun, run_cons hclose]
    rfl
  | cons y parts ih =>
    rw [List.forall_mem_cons] at h
    have hcommas : Word.commas ((x :: y :: parts).map Prod.fst) ++ [.sign .rightParen] =
        x.1 ++ .sign .comma ::
          (Word.commas ((y :: parts).map Prod.fst) ++ [.sign .rightParen]) := by
      simp [Word.commas_cons_cons]
    obtain ⟨fs', e, hrun, hcollapse⟩ := h.1.run_append
      (.item tested earlier negated :: fs) (Nat.le_refl 0)
      (.sign .comma :: (Word.commas ((y :: parts).map Prod.fst) ++ [.sign .rightParen]))
    have hcomma : step ⟨fs', .operand e⟩ (.sign .comma) =
        some ⟨.item tested (earlier ++ [x.2]) negated :: fs, .start⟩ := by
      rw [step, comma, hcollapse 0 (Nat.le_refl 0)]
      rfl
    rw [hcommas, hrun, run_cons hcomma, ih h.2]
    simp

theorem Completes.isIn {xs : List Word} {p : Expr} (hp : Completes Phrase.testLevel xs p)
    {parts : List (List Word × Expr)} (hne : parts ≠ [])
    (hparts : ∀ x ∈ parts, Completes 0 x.1 x.2) (negated : Bool) :
    Completes Phrase.testLevel
      (xs ++ ((Sign.negation negated).map .sign ++ .sign .inList :: .sign .leftParen ::
        (Word.commas (parts.map Prod.fst) ++ [.sign .rightParen])))
      (.isIn p (parts.map Prod.snd) negated) := by
  intro fs hfs
  obtain ⟨x, parts, rfl⟩ := List.exists_cons_of_ne_nil hne
  generalize hys : Word.commas ((x :: parts).map Prod.fst) ++ [.sign .rightParen] = ys
  obtain ⟨fs', e, hrun, hcollapse⟩ := hp.run_append fs hfs
    ((Sign.negation negated).map .sign ++ .sign .inList :: .sign .leftParen :: ys)
  have hsigns : run ⟨fs', .operand e⟩
      ((Sign.negation negated).map .sign ++ .sign .inList :: .sign .leftParen :: ys) =
        (await (.item · [] negated) fs' e).run ys := by
    cases negated
    · exact (run_cons rfl _).trans (run_cons rfl _)
    · exact (run_cons rfl _).trans ((run_cons rfl _).trans (run_cons rfl _))
  refine ⟨fs, _, ?_, fun _ _ => rfl⟩
  rw [hrun, hsigns, await_of_fits _ hfs hcollapse, ← hys]
  exact run_items p negated fs hparts []

theorem Completes.between {xs ys zs : List Word} {p low high : Expr}
    (hp : Completes Phrase.testLevel xs p) (hlow : Completes (Phrase.testLevel + 1) ys low)
    (hhigh : Completes (Phrase.testLevel + 1) zs high) (negated : Bool) :
    Completes Phrase.testLevel
      (xs ++ ((Sign.negation negated).map .sign ++ .sign .between ::
        (ys ++ .sign (.op .and) :: zs)))
      (.between p low high negated) := by
  intro fs hfs
  generalize htail : ys ++ .sign (.op .and) :: zs = tail
  obtain ⟨fs', e, hrun, hcollapse⟩ := hp.run_append fs hfs
    ((Sign.negation negated).map .sign ++ .sign .between :: tail)
  have hsigns : run ⟨fs', .operand e⟩
      ((Sign.negation negated).map .sign ++ .sign .between :: tail) =
        (await (.low · negated) fs' e).run tail := by
    cases negated
    · exact run_cons rfl _
    · exact (run_cons rfl _).trans (run_cons rfl _)
  obtain ⟨fs₁, e₁, hrun₁, hcollapse₁⟩ := hlow.run_append (.low p negated :: fs)
    (Nat.le_refl _) (.sign (.op .and) :: zs)
  have hconnect : connect .and fs₁ e₁ = ⟨.high p low negated :: fs, .start⟩ := by
    unfold connect
    rw [hcollapse₁ BinaryOp.and.precedence (by decide)]
    rfl
  obtain ⟨fs₂, e₂, hrun₂, hcollapse₂⟩ := hhigh (.high p low negated :: fs) (Nat.le_refl _)
  refine ⟨fs₂, e₂, ?_, fun m hm => ?_⟩
  · rw [hrun, hsigns, await_of_fits _ hfs hcollapse, ← htail, hrun₁, run_cons rfl, hconnect, hrun₂]
  · rw [hcollapse₂ m (Nat.le_succ_of_le hm)]
    exact collapse_cons rfl (Nat.le_of_mul_le_mul_left hm Nat.two_pos) fs

end Parse

namespace Phrase

/-- The reader goes through whatever the grammar allows. -/
theorem completes {n : Nat} {xs : List Word} {p : Expr} (h : Phrase n xs p) :
    Parse.Completes n xs p := by
  induction h with
  | @atom a ha => exact fun fs _ => ⟨fs, a, rfl, fun _ _ => rfl⟩
  | parens hp ih => exact ih.parens
  | weaken hp hle ih => exact ih.weaken hle
  | binary hp hq ihp ihq => exact ihp.binary ihq
  | not hp ih => exact ih.not
  | isNull hp negated ih => exact ih.isNull negated
  | isIn hp hne hparts negated ih ihs => exact ih.isIn hne ihs negated
  | between hp hlow hhigh negated ih ihlow ihhigh => exact ih.between ihlow ihhigh negated

/-- Words are read in one way at most. -/
theorem unique {xs : List Word} {p q : Expr} (hp : Phrase 0 xs p) (hq : Phrase 0 xs q) : p = q := by
  obtain ⟨fs, e, hrun, hcollapse⟩ := hp.completes [] trivial
  obtain ⟨fs', e', hrun', hcollapse'⟩ := hq.completes [] trivial
  rw [hrun] at hrun'
  cases hrun'
  have hsame : collapse 0 [] p = collapse 0 [] q :=
    (hcollapse 0 (Nat.le_refl 0)).symm.trans (hcollapse' 0 (Nat.le_refl 0))
  exact (Prod.mk.inj hsame).2

end Phrase

end PolySql
