import PolySql.Proofs.Expressible
import PolySql.Proofs.Quoting
import PolySql.Proofs.Vocabulary

/-!
# Where a text opens a line comment

Two minus signs in a row start a comment that takes the rest of the line with it. Text is written
with blanks around operators, so outside quotes a minus sign only touches another one where a
negation comes right before an operand that starts with one. Such operands stand between
parentheses if they are negations, operations or negative numbers themselves; but a list and an
alias show what their first part starts with, and get no parentheses.

* `Expr.StartsWithDash` : an expression whose text starts with a minus sign;
* `Expr.OpensComment` : an expression with two minus signs in a row;
* `Draft.Dashes` : what a draft starts with and has in it;
* `Expr.dashes_draft` : expressions;
* `Expr.opens_comment_iff` : the main statement.
-/

namespace PolySql

open Draft

theorem exists_mem_flatMap {α β : Type} {f : α → List β} {xs : List α} {P : β → Prop} :
    (∃ y ∈ xs.flatMap f, P y) ↔ ∃ x ∈ xs, ∃ y ∈ f x, P y := by
  constructor
  · rintro ⟨y, hy, h⟩
    obtain ⟨x, hx, hy⟩ := List.mem_flatMap.1 hy
    exact ⟨x, hx, y, hy, h⟩
  · rintro ⟨x, hx, y, hy, h⟩
    exact ⟨y, List.mem_flatMap.2 ⟨x, hx, hy⟩, h⟩

/-! ## Expressions -/

namespace Expr

/-- The child that starts the text of an expression, without a parenthesis in front of it. -/
@[simp] def leading? : Expr → Option Expr
  | .binary left op _ => if left.parensUnder op false then none else some left
  | .list items _ => items.head?
  | .aliased inner _ => some inner
  | .isNull tested _ | .isIn tested _ _ | .between tested _ _ _ => some tested
  | _ => none

/-- A negation, or a number below zero. -/
@[simp] def DashHere : Expr → Prop
  | .literal l => l.startsNegative = true
  | .unary .neg _ => True
  | _ => False

/-- The text of the expression starts with a minus sign. -/
inductive StartsWithDash : Expr → Prop
  | own {e : Expr} (h : e.DashHere) : StartsWithDash e
  | leading {e x : Expr} (h : x ∈ e.leading?) (hx : StartsWithDash x) : StartsWithDash e

theorem startsWithDash_iff {e : Expr} :
    e.StartsWithDash ↔ e.DashHere ∨ ∃ x ∈ e.leading?, x.StartsWithDash := by
  constructor
  · rintro (h | ⟨h, hx⟩)
    · exact .inl h
    · exact .inr ⟨_, h, hx⟩
  · rintro (h | ⟨x, h, hx⟩)
    · exact .own h
    · exact .leading h hx

/-- A negation right before a minus sign. -/
@[simp] def OpensCommentHere : Expr → Prop
  | .unary .neg operand => operand.parensAfter .neg = false ∧ operand.StartsWithDash
  | _ => False

/-- Somewhere in the expression a negation comes right before a minus sign. -/
def OpensComment (e : Expr) : Prop := ∃ x ∈ e.nodes, x.OpensCommentHere

theorem opensComment_iff {e : Expr} :
    e.OpensComment ↔ e.OpensCommentHere ∨ ∃ c ∈ e.children, c.OpensComment := by
  unfold OpensComment
  rw [nodes_eq, List.exists_mem_cons_iff, exists_mem_flatMap]

/-- Operands that start with a minus sign get parentheses, unless they are lists or aliases. -/
theorem StartsWithDash.parensAfter {e : Expr} (h : e.StartsWithDash)
    (hlist : ∀ items separator, e ≠ .list items separator)
    (haliased : ∀ inner n, e ≠ .aliased inner n) : e.parensAfter .neg = true := by
  rw [startsWithDash_iff] at h
  cases e with
  | list items separator => exact absurd rfl (hlist items separator)
  | aliased inner n => exact absurd rfl (haliased inner n)
  | _ => simp_all [DashHere, leading?, Expr.parensAfter]

end Expr

/-! ## Marks in a row -/

section Twice
variable {α : Type} {a : α}

theorem twice_infix_cons_iff {x : α} {xs : List α} :
    [a, a] <:+: x :: xs ↔ (x = a ∧ xs.head? = some a) ∨ [a, a] <:+: xs := by
  rw [List.infix_cons_iff, List.cons_prefix_cons, List.singleton_prefix_iff_head?_eq_some,
    eq_comm (a := a)]

/-- Nothing new comes of a continuation that starts with something else. -/
theorem twice_infix_append_iff {ys : List α} (hys : ys.head? ≠ some a) (xs : List α) :
    [a, a] <:+: xs ++ ys ↔ [a, a] <:+: xs ∨ [a, a] <:+: ys := by
  induction xs with
  | nil => simp
  | cons x xs ih =>
    have hhead : (xs ++ ys).head? = some a ↔ xs.head? = some a := by
      cases xs <;> simp [hys]
    rw [List.cons_append, twice_infix_cons_iff, twice_infix_cons_iff, hhead, ih, or_assoc]

theorem twice_infix_append_iff_of_notMem {xs : List α} (hxs : a ∉ xs) (ys : List α) :
    [a, a] <:+: xs ++ ys ↔ [a, a] <:+: ys := by
  induction xs with
  | nil => rfl
  | cons x xs ih =>
    rw [List.mem_cons, not_or] at hxs
    rw [List.cons_append, twice_infix_cons_iff, ih hxs.2]
    simp [Ne.symm hxs.1]

end Twice

/-! ## Numbers -/

theorem Digits.dash_notMem_ofNat (n : Nat) : '-' ∉ ofNat n := fun h =>
  absurd (ofNat_isDigit n _ h) (by decide)

theorem Decimal.dash_notMem_positional (x : Decimal) : '-' ∉ x.positional := by
  have hdigits := Digits.dash_notMem_ofNat x.digits
  have htake (n : Nat) : '-' ∉ (Digits.ofNat x.digits).take n := fun h =>
    hdigits (List.mem_of_mem_take h)
  have hdrop (n : Nat) : '-' ∉ (Digits.ofNat x.digits).drop n := fun h =>
    hdigits (List.mem_of_mem_drop h)
  unfold positional
  dsimp only
  split
  · simp [hdigits]
  · split
    · simp [htake, hdrop]
    · simp [hdigits]

/-- A literal without quotes has a minus sign in front of it, or none at all. -/
theorem Dialect.spelled_eq_sign (d : Dialect) {l : Literal} (hl : l.quotedText? = none)
    (hfinite : l.isFinite = true) :
    ∃ cs, '-' ∉ cs ∧ d.spelled l = (if l.startsNegative then ['-'] else []) ++ cs := by
  cases l with
  | null => exact ⟨_, by decide, rfl⟩
  | bool b =>
    refine ⟨d.spelledBool b, ?_, rfl⟩
    unfold spelledBool
    split <;> decide
  | int n =>
    have hnegative : (Literal.int n).startsNegative = decide (n.toInt < 0) := by
      simp [Literal.startsNegative, Int64.lt_iff_toInt_lt]
    rw [hnegative]
    show ∃ cs, '-' ∉ cs ∧ Digits.ofInt n.toInt = _
    cases n.toInt with
    | ofNat n => exact ⟨_, Digits.dash_notMem_ofNat n, rfl⟩
    | negSucc n =>
      rw [decide_eq_true (Int.negSucc_lt_zero n)]
      exact ⟨_, Digits.dash_notMem_ofNat (n + 1), rfl⟩
  | float x =>
    have hfinite : x.isFinite = true := hfinite
    have hnan : x.isNaN = false := by
      have hexponent : x.exponentField ≠ 2047 := bne_iff_ne.1 hfinite
      simp [Binary64.isNaN, hexponent]
    show ∃ cs, '-' ∉ cs ∧ (if x.isIntegral then x.exactText else x.text) = x.sign ++ cs
    split
    · exact ⟨_, by simp [Digits.dash_notMem_ofNat], List.append_assoc _ _ _⟩
    · refine ⟨_, x.shortest.dash_notMem_positional, ?_⟩
      rw [Binary64.text, hnan, if_neg Bool.false_ne_true, if_pos hfinite]
  | _ => cases hl

/-! ## Drafts -/

/-- A minus sign outside quotes. -/
abbrev Mark.dash : Mark := .code '-'

namespace Draft

/-- Unless it stops, the draft starts with a minus sign just if the first condition holds, and has
two of them in a row just if the second one does. -/
def Dashes (d : Dialect) (a : Draft) (starts twice : Prop) : Prop :=
  a.fault = none → ∀ count,
    ((Token.marks d count a.tokens).head? = some .dash ↔ starts) ∧
      ([.dash, .dash] <:+: Token.marks d count a.tokens ↔ twice)

variable {d : Dialect} {a b : Draft} {p p' q q' : Prop} {w : String}

/-! ### Single pieces -/

theorem Dashes.congr (h : a.Dashes d p q) (hp : p ↔ p') (hq : q ↔ q') : a.Dashes d p' q' := by
  rwa [← hp, ← hq]

theorem dashes_of_notMem (h : ∀ count, Mark.dash ∉ Token.marks d count a.tokens) :
    a.Dashes d False False := fun _ count =>
  ⟨iff_false_intro fun hhead => h count (List.mem_of_head? hhead),
    iff_false_intro fun htwice => h count (htwice.subset (by simp))⟩

theorem dashes_empty : empty.Dashes d False False := dashes_of_notMem fun _ => by
  simp [empty, Token.marks]

theorem dash_notMem_code (h : '-' ∉ w.toList) : Mark.dash ∉ w.toList.map .code := by
  simpa using h

theorem dashes_sql (h : '-' ∉ w.toList) : (sql w).Dashes d False False :=
  dashes_of_notMem fun _ => by simpa [sql, Token.marks, Token.mark?, Token.outside] using h

theorem dashes_name (n : String) : (name n).Dashes d False False :=
  dashes_of_notMem fun _ => by simp [name, Token.marks, Token.mark?, Token.outside]

theorem dashes_bind (v : Value) : (bind v).Dashes d False False := dashes_of_notMem fun count => by
  have hplaceholder : '-' ∉ d.placeholder (count + 1) := by
    unfold Dialect.placeholder
    split
    · decide
    · simpa using Digits.dash_notMem_ofNat (count + 1)
  simpa [bind, Token.marks, Token.mark?, Token.outside] using hplaceholder

theorem dashes_fail (e : Fault) : (fail e).Dashes d p q := fun h => by cases h

/-! ### One after the other -/

theorem Dashes.append (ha : a.Dashes d p q) (hb : b.Dashes d False q') :
    (a ++ b).Dashes d p (q ∨ q') := by
  intro hf count
  rw [fault_append_eq_none] at hf
  obtain ⟨hhead, htwice⟩ := ha hf.1 count
  obtain ⟨hhead', htwice'⟩ := hb hf.2 (count + (Token.binds a.tokens).length)
  rw [tokens_append hf.1, Token.marks_append]
  refine ⟨?_, ?_⟩
  · rw [← hhead]
    cases Token.marks d count a.tokens with
    | nil => simpa using hhead'
    | cons m ms => rfl
  · rw [twice_infix_append_iff (hhead'.not.2 id), htwice, htwice']

/-- After some text without a minus sign. -/
theorem Dashes.sql_append (hb : b.Dashes d p q) (h : '-' ∉ w.toList) (hne : w ≠ "") :
    (sql w ++ b).Dashes d False q := by
  intro hf count
  rw [fault_append_eq_none] at hf
  obtain ⟨-, htwice⟩ := hb hf.2 count
  have hmarks : Token.marks d count (sql w ++ b).tokens =
      w.toList.map .code ++ Token.marks d count b.tokens := by
    rw [tokens_append hf.1]
    rfl
  rw [hmarks, twice_infix_append_iff_of_notMem (dash_notMem_code h)]
  refine ⟨iff_false_intro fun hhead => ?_, htwice⟩
  cases hw : w.toList with
  | nil => exact hne (String.toList_eq_nil_iff.1 hw)
  | cons c cs => simp_all

/-- After a minus sign. -/
theorem Dashes.neg_append (hb : b.Dashes d p q) : (sql "-" ++ b).Dashes d True (p ∨ q) := by
  intro hf count
  rw [fault_append_eq_none] at hf
  obtain ⟨hhead, htwice⟩ := hb hf.2 count
  have hmarks : Token.marks d count (sql "-" ++ b).tokens =
      .dash :: Token.marks d count b.tokens := by
    rw [tokens_append hf.1]
    rfl
  rw [hmarks, twice_infix_cons_iff, hhead, htwice]
  simp

theorem Dashes.append_sql (ha : a.Dashes d p q) (h : '-' ∉ w.toList) :
    (a ++ sql w).Dashes d p q :=
  (ha.append (dashes_sql h)).congr Iff.rfl (by simp)

/-- After text that is only there under some condition. -/
theorem Dashes.only_append (hb : b.Dashes d p q) (h : '-' ∉ w.toList) (hne : w ≠ "")
    (condition : Bool) : (only condition (sql w) ++ b).Dashes d (condition = false ∧ p) q := by
  cases condition with
  | false => exact hb.congr (by simp) Iff.rfl
  | true => exact (hb.sql_append h hne).congr (by simp) Iff.rfl

theorem Dashes.parens (ha : a.Dashes d p q) : (parens a).Dashes d False q := by
  rw [Draft.parens, append_assoc]
  exact (ha.append_sql (by decide)).sql_append (by decide) (by decide)

theorem Dashes.parensIf (ha : a.Dashes d p q) (condition : Bool) :
    (parensIf condition a).Dashes d (condition = false ∧ p) q := by
  cases condition with
  | false => exact ha.congr (by simp) Iff.rfl
  | true => exact ha.parens.congr (by simp) Iff.rfl

theorem Dashes.require_append (ha : a.Dashes d p q) (condition : Bool) (e : Fault) :
    (require condition e ++ a).Dashes d p q := by
  cases condition with
  | true => rwa [require, if_pos rfl, empty_append]
  | false =>
    intro hf
    simp [fault_append] at hf

theorem Dashes.qualified (ha : a.Dashes d False False) (table : Option String) :
    (qualified table a).Dashes d False False := by
  cases table with
  | none => exact ha
  | some t =>
    exact (((dashes_name t).append_sql (by decide)).append ha).congr Iff.rfl (by simp)

/-! ### Several -/

section Lists
variable {α : Type} {f : α → Draft} {starts twice : α → Prop}

theorem dashes_all (xs : List α) (h : ∀ x ∈ xs, (f x).Dashes d False (twice x)) :
    (all (xs.map f)).Dashes d False (∃ x ∈ xs, twice x) := by
  induction xs with
  | nil => exact dashes_empty.congr Iff.rfl (by simp)
  | cons x xs ih =>
    rw [List.forall_mem_cons] at h
    exact (h.1.append (ih h.2)).congr Iff.rfl (by simp)

theorem dashes_joined (xs : List α) (h : ∀ x ∈ xs, (f x).Dashes d (starts x) (twice x)) :
    (joined ", " (xs.map f)).Dashes d (∃ x ∈ xs.head?, starts x) (∃ x ∈ xs, twice x) := by
  induction xs with
  | nil => exact dashes_empty.congr (by simp) (by simp)
  | cons x xs ih =>
    rw [List.forall_mem_cons] at h
    cases xs with
    | nil => exact h.1.congr (by simp) (by simp)
    | cons y ys =>
      exact (h.1.append ((ih h.2).sql_append (by decide) (by decide))).congr (by simp) (by simp)

theorem dashes_clause (xs : List α) (hw : '-' ∉ w.toList) (hne : w ≠ "")
    (h : ∀ x ∈ xs, (f x).Dashes d (starts x) (twice x)) :
    (clause w (xs.map f)).Dashes d False (∃ x ∈ xs, twice x) := by
  cases xs with
  | nil => exact dashes_empty.congr Iff.rfl (by simp)
  | cons x xs => exact (dashes_joined (x :: xs) h).sql_append hw hne

theorem dashes_led (x : Option α) (hw : '-' ∉ w.toList) (hne : w ≠ "")
    (h : ∀ y ∈ x.toList, (f y).Dashes d (starts y) (twice y)) :
    (led w (x.map f)).Dashes d False (∃ y ∈ x.toList, twice y) := by
  cases x with
  | none => exact dashes_empty.congr Iff.rfl (by simp)
  | some y => exact ((h y (by simp)).sql_append hw hne).congr Iff.rfl (by simp)

end Lists

theorem dashes_number (n : Nat) : (number n).Dashes d False False :=
  dashes_sql (by simpa using Digits.dash_notMem_ofNat n)

end Draft

variable (d : Dialect) (scope : Scope)

/-! ## Parts of expressions -/

theorem BinaryOp.dashes_text (op : BinaryOp) : (sql op.text).Dashes d (op = .sub) False := by
  cases op with
  | sub =>
    have hdash := (dashes_empty (d := d)).neg_append
    rw [append_empty] at hdash
    exact hdash.congr (by simp) (by simp)
  | _ => exact (dashes_sql (by decide)).congr (by simp) Iff.rfl

theorem Literal.dashes_draft (l : Literal) :
    (l.draft d).Dashes d (l.startsNegative = true) False := by
  cases hfinite : l.isFinite with
  | false =>
    intro hf
    simp [Literal.draft, fault_append, hfinite] at hf
  | true =>
    rw [Literal.draft, hfinite, require, if_pos rfl, empty_append]
    intro _ count
    cases hl : l.quotedText? with
    | some cs =>
      have hnegative : l.startsNegative = false := by
        cases l with
        | int n => cases hl
        | float x => cases hl
        | _ => rfl
      have hmarks : Token.marks d count (literal l).tokens = [.text (.ofList cs)] := by
        simp [literal, Token.marks, Token.mark?, Token.outside, hl]
      rw [hmarks, hnegative]
      simp [twice_infix_cons_iff]
    | none =>
      obtain ⟨cs, hcs, hspelled⟩ := d.spelled_eq_sign hl hfinite
      have hmarks : Token.marks d count (literal l).tokens =
          (if l.startsNegative then [.dash] else []) ++ cs.map .code := by
        rw [literal, Token.marks, Token.mark?, Token.outside, hl, hspelled]
        cases l.startsNegative <;> simp [Token.marks]
      have hcodes : Mark.dash ∉ cs.map .code := by
        simpa using hcs
      have htwice : ¬[Mark.dash, .dash] <:+: cs.map .code := fun h => hcodes (h.subset (by simp))
      have hhead : cs.head? ≠ some '-' := fun h => hcs (List.mem_of_head? h)
      rw [hmarks]
      cases l.startsNegative <;> simp [twice_infix_cons_iff, htwice, hhead]

theorem Dialect.dashes_excludedDraft (c : String) :
    (d.excludedDraft c).Dashes d False False := by
  unfold Dialect.excludedDraft
  cases d.upsertSyntax with
  | standard =>
    exact (((dashes_name _).append_sql (by decide)).append (dashes_name c)).congr Iff.rfl (by simp)
  | mySql =>
    rw [append_assoc]
    exact ((dashes_name c).append_sql (by decide)).sql_append (by decide) (by decide)
  | unsupported => exact dashes_fail _

theorem Lock.dashes_draft {l : Option Lock} (h : ∀ clause, l ≠ some (.raw clause)) :
    (all (l.toList.map Lock.draft)).Dashes d False False := by
  have hwords : ∀ x ∈ l.toList, x.draft.Dashes d False False := by
    intro x hx
    rw [Option.mem_toList] at hx
    cases x with
    | update => exact dashes_sql (by decide)
    | share => exact dashes_sql (by decide)
    | raw clause => exact absurd hx (h clause)
  exact (dashes_all l.toList hwords).congr Iff.rfl (by simp)

section Clauses
variable {starts twice : Expr → Prop}

theorem Join.dashes_draft_of {j : Join}
    (h : ∀ e ∈ j.exprs, (e.draft d scope).Dashes d (starts e) (twice e)) :
    (j.draft d scope).Dashes d False (∃ e ∈ j.exprs, twice e) := by
  rcases j with ⟨kind, table, condition⟩
  rw [Join.exprs, List.forall_mem_cons] at h
  have hkind : '-' ∉ kind.text.toList := by
    cases kind <;> decide
  have hne : kind.text ≠ "" := by
    cases kind <;> decide
  rw [Join.draft, Expr.draft?_eq_map]
  simp only [append_assoc]
  have htable := h.1.append (dashes_led (w := " ON ") condition (by decide) (by decide) h.2)
  have hwords := (htable.sql_append (w := " ") (by decide) (by decide)).sql_append hkind hne
  exact (hwords.sql_append (by decide) (by decide)).congr Iff.rfl (by simp [Join.exprs])

theorem Order.dashes_draft_of {o : Order}
    (h : (o.key.draft d scope).Dashes d (starts o.key) (twice o.key)) :
    (o.draft d scope).Dashes d (starts o.key) (twice o.key) := by
  rcases o with ⟨key, direction⟩
  have hdirection : '-' ∉ direction.text.toList := by
    cases direction <;> decide
  exact (h.append_sql (by decide)).append_sql hdirection

theorem Select.dashes_draft_of {s : Select} (hlock : s.TidyLock)
    (h : ∀ e ∈ s.exprs, (e.draft d scope).Dashes d (starts e) (twice e)) :
    (s.draft d scope).Dashes d False (∃ e ∈ s.exprs, twice e) := by
  rcases s with
    ⟨distinct, columns, sources, joins, condition, groupBy, having, orderBy, limit, offset, lock⟩
  simp only [Select.exprs, List.forall_mem_append, List.forall_mem_flatMap, List.forall_mem_map]
    at h
  obtain ⟨⟨⟨⟨⟨⟨hcolumns, hsources⟩, hjoins⟩, hcondition⟩, hgroupBy⟩, hhaving⟩, horderBy⟩ := h
  obtain ⟨p, hlist⟩ : ∃ p, (if columns.isEmpty then sql "*"
      else joined ", " (columns.map (Expr.draft d scope))).Dashes d p (∃ e ∈ columns, twice e) := by
    cases columns with
    | nil => exact ⟨False, (dashes_sql (by decide)).congr Iff.rfl (by simp)⟩
    | cons e es => exact ⟨_, dashes_joined (e :: es) hcolumns⟩
  have hstart := (hlist.only_append (w := "DISTINCT ") (by decide) (by decide) distinct).sql_append
    (w := "SELECT ") (by decide) (by decide)
  have hjoins' := dashes_all joins fun j hj => Join.dashes_draft_of d scope (hjoins j hj)
  have hread := ((hstart.append
    (dashes_clause (w := " FROM ") sources (by decide) (by decide) hsources)).append hjoins').append
      (dashes_led (w := " WHERE ") condition (by decide) (by decide) hcondition)
  have hgrouped := (hread.append
    (dashes_clause (w := " GROUP BY ") groupBy (by decide) (by decide) hgroupBy)).append
      (dashes_led (w := " HAVING ") having (by decide) (by decide) hhaving)
  have hordered := hgrouped.append (dashes_clause (w := " ORDER BY ") orderBy (by decide)
    (by decide) fun o ho => Order.dashes_draft_of d scope (horderBy o ho))
  have hlimit := (hordered.append (dashes_led (w := " LIMIT ") limit (by decide) (by decide)
    fun n _ => dashes_number n)).append (dashes_led (w := " OFFSET ") offset (by decide)
      (by decide) fun n _ => dashes_number n)
  have hall := hlimit.append (Lock.dashes_draft d hlock)
  simp only [Select.draft, Expr.drafts_eq_map, Join.drafts_eq_map, Order.drafts_eq_map,
    Expr.draft?_eq_map, append_assoc] at hall ⊢
  refine hall.congr Iff.rfl ?_
  have hjoined : (∃ e, (∃ j ∈ joins, e ∈ j.exprs) ∧ twice e) ↔
      ∃ j ∈ joins, ∃ e ∈ j.exprs, twice e := by
    simpa only [List.mem_flatMap] using exists_mem_flatMap
  simp [Select.exprs, or_and_right, exists_or, or_assoc, hjoined]

end Clauses

/-! ## Whole expressions -/

/-- A tidy expression starts with a minus sign, and has two of them in a row, just where its nodes
say so. -/
theorem Expr.dashes_draft {e : Expr} (he : e.Tidy) :
    (e.draft d scope).Dashes d e.StartsWithDash e.OpensComment := by
  induction e using Expr.children_induction with
  | step e ih =>
    obtain ⟨hhere, hbelow⟩ := tidy_iff.1 he
    have ih (c : Expr) (hc : c ∈ e.children) :
        (c.draft d scope).Dashes d c.StartsWithDash c.OpensComment := ih c hc (hbelow c hc)
    clear hbelow he
    rw [startsWithDash_iff, opensComment_iff]
    cases e with
    | name n => simpa [Expr.draft, children] using dashes_name n
    | column table n => simpa [Expr.draft, children] using (dashes_name n).qualified table
    | star table =>
      have hstar : (sql "*").Dashes d False False := dashes_sql (by decide)
      simpa [Expr.draft, children] using hstar.qualified table
    | literal l => simpa [Expr.draft, children] using l.dashes_draft d
    | bind v => simpa [Expr.draft, children] using dashes_bind v
    | raw pieces => exact hhere.elim
    | call function arguments distinct =>
      have hfunction : '-' ∉ function.toList := fun h => absurd (hhere _ h) (by decide)
      have harguments := (dashes_joined arguments ih).append_sql (w := ")") (by decide)
      have hdistinct := (harguments.only_append (w := "DISTINCT ") (by decide) (by decide)
        distinct).sql_append (w := "(") (by decide) (by decide)
      simpa [Expr.draft, append_assoc, children] using (dashes_sql hfunction).append hdistinct
    | binary left op right =>
      have hleft := (ih left (by simp [children])).parensIf (left.parensUnder op false)
      have hright := (ih right (by simp [children])).parensIf (right.parensUnder op true)
      -- the operator may be a minus sign itself, but stands between blanks
      have hop := (op.dashes_text d).append (hright.sql_append (w := " ") (by decide) (by decide))
      have hafter := hop.sql_append (w := " ") (by decide) (by decide)
      simpa [Expr.draft, append_assoc, children] using hleft.append hafter
    | unary op operand =>
      have hoperand := (ih operand (by simp [children])).parensIf (operand.parensAfter op)
      cases op with
      | neg => simpa [Expr.draft, UnaryOp.text, children] using hoperand.neg_append
      | not =>
        have hnot := hoperand.sql_append (w := "NOT ") (by decide) (by decide)
        simpa [Expr.draft, UnaryOp.text, children] using hnot
    | list items separator =>
      obtain rfl : separator = ", " := hhere
      simpa [Expr.draft, children] using dashes_joined items ih
    | group inner => simpa [Expr.draft, children] using (ih inner (by simp [children])).parens
    | aliased inner n =>
      have hname := (dashes_name n).sql_append (d := d) (w := " AS ") (by decide) (by decide)
      simpa [Expr.draft, append_assoc, children] using
        (ih inner (by simp [children])).append hname
    | isNull tested negated =>
      have hwords : '-' ∉ (if negated then " IS NOT NULL" else " IS NULL").toList := by
        cases negated <;> decide
      simpa [Expr.draft, children] using (ih tested (by simp [children])).append_sql hwords
    | isIn tested items negated =>
      rw [children, List.forall_mem_cons] at ih
      have hwords : '-' ∉ (if negated then " NOT IN (" else " IN (").toList := by
        cases negated <;> decide
      have hne : (if negated then " NOT IN (" else " IN (") ≠ "" := by
        cases negated <;> decide
      have hitems := ((dashes_joined items ih.2).append_sql (w := ")") (by decide)).sql_append
        hwords hne
      simpa [Expr.draft, append_assoc, children] using (ih.1.append hitems).require_append
        (!items.isEmpty) (.emptyClause scope .inList)
    | between tested low high negated =>
      have hwords : '-' ∉ (if negated then " NOT BETWEEN " else " BETWEEN ").toList := by
        cases negated <;> decide
      have hne : (if negated then " NOT BETWEEN " else " BETWEEN ") ≠ "" := by
        cases negated <;> decide
      have hhigh := (ih high (by simp [children])).sql_append (w := " AND ") (by decide) (by decide)
      have hrange := ((ih low (by simp [children])).append hhigh).sql_append hwords hne
      simpa [Expr.draft, append_assoc, children] using
        (ih tested (by simp [children])).append hrange
    | subquery select =>
      simpa [Expr.draft, children] using (Select.dashes_draft_of d scope hhere ih).parens
    | excluded c => simpa [Expr.draft, children] using d.dashes_excludedDraft c
    | default =>
      have hdefault : (sql "DEFAULT").Dashes d False False := dashes_sql (by decide)
      simpa [Expr.draft, children] using hdefault

/-! ## Texts -/

/-- Read outside quotes, the text of a tidy expression has two minus signs in a row just where a
negation comes right before an operand that starts with a minus sign. There is none if no operand
of a negation is a list or an alias. -/
theorem Expr.opens_comment_iff {d : Dialect} (hd : d.QuotesNames) {e : Expr} (he : e.Tidy)
    {r : Rendering} (hr : (e.render d).outcome = .ok r) :
    ∃ marks, d.scan r.sql.toList = some marks ∧
      ([.code '-', .code '-'] <:+: marks ↔ e.OpensComment) ∧
      ((∀ operand, .unary .neg operand ∈ e.nodes →
          (∀ items separator, operand ≠ .list items separator) ∧
            ∀ inner n, operand ≠ .aliased inner n) →
        ¬[.code '-', .code '-'] <:+: marks) := by
  obtain ⟨hf, rfl⟩ := Draft.finish_eq_ok hr
  obtain ⟨hscan, -⟩ := (Expr.isTerm_draft d .expression he).scan_rendering hd hf
  obtain ⟨-, htwice⟩ := Expr.dashes_draft d .expression he hf 0
  refine ⟨_, hscan, htwice, fun hplain => ?_⟩
  rw [htwice]
  rintro ⟨x, hx, hopens⟩
  cases x with
  | unary op operand =>
    cases op with
    | neg =>
      obtain ⟨hlist, haliased⟩ := hplain operand hx
      rw [OpensCommentHere, hopens.2.parensAfter hlist haliased] at hopens
      cases hopens.1
    | not => exact hopens
  | _ => exact hopens

/-- A negative number after a negation stands between parentheses. -/
theorem Expr.no_comment_before_negative_number :
    let e : Expr := .unary .neg (.literal (.int (-5)))
    e.Tidy ∧ (e.render .postgres).outcome = .ok ⟨"-(-5)", []⟩ ∧
      ∃ marks, Dialect.postgres.scan "-(-5)".toList = some marks ∧
        ¬[.code '-', .code '-'] <:+: marks := by
  intro e
  have he : e.Tidy := tidy_iff.2 ⟨trivial, fun c hc => by
    obtain rfl := List.mem_singleton.1 hc
    exact tidy_iff.2 ⟨trivial, by simp [children]⟩⟩
  have hr : (e.render .postgres).outcome = .ok ⟨"-(-5)", []⟩ := by cbv
  obtain ⟨marks, hscan, -, hplain⟩ := opens_comment_iff (d := .postgres) (by decide) he hr
  refine ⟨he, hr, marks, hscan, hplain fun operand hoperand => ?_⟩
  obtain rfl : operand = .literal (.int (-5)) := by
    simpa [e, nodes_eq, children] using hoperand
  exact ⟨by simp, by simp⟩

/-- In a list of one, the same number opens a comment. -/
theorem Expr.comment_before_list :
    let e : Expr := .unary .neg (.list [.literal (.int (-5))] ", ")
    Dialect.postgres.QuotesNames ∧ e.Tidy ∧ (e.render .postgres).outcome = .ok ⟨"--5", []⟩ ∧
      ∃ marks, Dialect.postgres.scan "--5".toList = some marks ∧
        [.code '-', .code '-'] <:+: marks := by
  intro e
  have he : e.Tidy := tidy_iff.2 ⟨trivial, fun c hc => by
    obtain rfl := List.mem_singleton.1 hc
    refine tidy_iff.2 ⟨rfl, fun x hx => ?_⟩
    obtain rfl := List.mem_singleton.1 hx
    exact tidy_iff.2 ⟨trivial, by simp [children]⟩⟩
  exact ⟨by decide, he, by cbv, [.code '-', .code '-', .code '5'], by decide, [], [.code '5'], rfl⟩

end PolySql
