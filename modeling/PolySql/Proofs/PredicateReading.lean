import PolySql.Proofs.PredicateText
import PolySql.Proofs.Quoting

/-!
# Predicates keep their logic

Whoever reads the text of a predicate and its binds as SQL does gets the predicate back, up to
grouping and parentheses; and there is no other way to read them. So predicates with the same text
and the same binds are true in the same cases.

* `Dialect.Reads` : a rendering is read as an expression;
* `Expr.reads_render` : the reading of a predicate;
* `Expr.render_keeps_logic` : the main statement.
-/

namespace PolySql

/-- Text and binds are read as this expression. -/
def Dialect.Reads (d : Dialect) (r : Rendering) (q : Expr) : Prop :=
  ∃ xs, d.items r = some xs ∧ Condition .disjunction xs q

theorem Dialect.Reads.unique {d : Dialect} {r : Rendering} {q q' : Expr} (h : d.Reads r q)
    (h' : d.Reads r q') : q' = q := by
  obtain ⟨xs, hxs, hq⟩ := h
  obtain ⟨ys, hys, hq'⟩ := h'
  rw [hxs, Option.some.injEq] at hys
  subst hys
  exact hq'.unique hq

namespace Expr

/-! ## Predicates copy nothing -/

theorem IsAtom.tidy {e : Expr} (he : e.IsAtom) : e.Tidy := by
  cases he <;> exact tidy_iff.2 ⟨trivial, by simp [children]⟩

theorem IsPredicate.tidy {p : Expr} (hp : p.IsPredicate) : p.Tidy := by
  induction hp with
  | compare ha hop hb =>
    refine tidy_iff.2 ⟨trivial, ?_⟩
    simpa [children] using ⟨ha.tidy, hb.tidy⟩
  | isNull ha negated =>
    refine tidy_iff.2 ⟨trivial, ?_⟩
    simpa [children] using ha.tidy
  | isIn ha hes hall negated =>
    exact tidy_iff.2 ⟨trivial, List.forall_mem_cons.2 ⟨ha.tidy, fun e he => (hall e he).tidy⟩⟩
  | between ha hlow hhigh negated =>
    refine tidy_iff.2 ⟨trivial, ?_⟩
    simpa [children] using ⟨ha.tidy, hlow.tidy, hhigh.tidy⟩
  | and hp hq ihp ihq =>
    refine tidy_iff.2 ⟨trivial, ?_⟩
    simpa [children] using ⟨ihp, ihq⟩
  | or hp hq ihp ihq =>
    refine tidy_iff.2 ⟨trivial, ?_⟩
    simpa [children] using ⟨ihp, ihq⟩
  | not hp ih =>
    refine tidy_iff.2 ⟨trivial, ?_⟩
    simpa [children] using ih
  | group hp ih =>
    refine tidy_iff.2 ⟨trivial, ?_⟩
    simpa [children] using ih

/-! ## Reading what is rendered -/

theorem reads_render {d : Dialect} (hd : d.QuotesNames) {p : Expr} (hp : p.IsPredicate) :
    ∃ r, (p.render d).outcome = .ok r ∧ ∃ q, d.Reads r q ∧ q.SameLogic p := by
  obtain ⟨xs, q, hsays, hq, hlogic⟩ := (hp.readable d .expression).disjunction
  obtain ⟨hf, hitems⟩ := hsays
  obtain ⟨hscan, -⟩ := (p.isTerm_draft d .expression hp.tidy).scan_rendering hd hf
  refine ⟨Token.rendering d (p.draft d .expression).tokens, ?_, q, ⟨xs, ?_, hq⟩, hlogic⟩
  · rw [Expr.render, Draft.finish, hf]
  · have hread := (hitems [] [] [] fun _ => rfl).2
    simp only [List.nil_append, List.append_nil] at hread
    rw [Dialect.items, hscan, Option.bind_some]
    refine Eq.trans hread ?_
    simp [Lexeme.itemsFrom]

/-- Every predicate, those that calls build included, is rendered, and its text and its binds are
read in one way, which says the same; so two predicates with the same text and binds have the same
truth value. -/
theorem render_keeps_logic {d : Dialect} (hd : d.QuotesNames) :
    (∀ p : Expr, p.IsPredicate ∨ p.IsAccumulated →
      ∃ r, (p.render d).outcome = .ok r ∧
        ∃ q, d.Reads r q ∧ (∀ q', d.Reads r q' → q' = q) ∧ q.SameLogic p) ∧
    (∀ (p p' : Expr) (r : Rendering), p.IsPredicate ∨ p.IsAccumulated →
      p'.IsPredicate ∨ p'.IsAccumulated → (p.render d).outcome = .ok r →
        (p'.render d).outcome = .ok r → ∀ i : Interpretation, i.truth p = i.truth p') := by
  have hpredicate {p : Expr} (hp : p.IsPredicate ∨ p.IsAccumulated) : p.IsPredicate :=
    hp.elim id IsAccumulated.isPredicate
  refine ⟨fun p hp => ?_, fun p p' r hp hp' hr hr' i => ?_⟩
  · obtain ⟨r, hr, q, hq, hlogic⟩ := reads_render hd (hpredicate hp)
    exact ⟨r, hr, q, hq, fun q' hq' => hq.unique hq', hlogic⟩
  · obtain ⟨s, hs, q, hq, hlogic⟩ := reads_render hd (hpredicate hp)
    obtain ⟨s', hs', q', hq', hlogic'⟩ := reads_render hd (hpredicate hp')
    obtain rfl : r = s := Except.ok.inj (hr.symm.trans hs)
    obtain rfl : r = s' := Except.ok.inj (hr'.symm.trans hs')
    obtain rfl : q' = q := hq.unique hq'
    rw [← hlogic.truth_eq i, hlogic'.truth_eq i]

/-- Two groupings of a chain with a range in it and an `OR` under a `NOT`. -/
theorem render_keeps_logic_of_chain :
    let range : Expr := .between (.column none "a") (.bind (.int 1)) (.bind (.int 2)) false
    let null : Expr := .isNull (.column (some "t") "b\" OR \"") true
    let either : Expr := .unary .not (.binary null .or range)
    let left : Expr := .binary (.binary range .and null) .and either
    let right : Expr := .binary range .and (.binary null .and either)
    Dialect.generic.QuotesNames ∧ left.IsPredicate ∧ right.IsPredicate ∧
      ∃ r, (left.render .generic).outcome = .ok r ∧ (right.render .generic).outcome = .ok r ∧
        (∃ q, Dialect.generic.Reads r q ∧ q.SameLogic right) ∧
        ∀ i : Interpretation, i.truth left = i.truth right := by
  intro range null either left right
  have hd : Dialect.generic.QuotesNames := by decide
  have hrange : range.IsPredicate := .between (.column _ _) (.bind _) (.bind _) false
  have hnull : null.IsPredicate := .isNull (.column _ _) true
  have heither : either.IsPredicate := .not (.or hnull hrange)
  have hleft : left.IsPredicate := .and (.and hrange hnull) heither
  have hright : right.IsPredicate := .and hrange (.and hnull heither)
  obtain ⟨hread, hsame⟩ := render_keeps_logic hd
  obtain ⟨r, hr, q, hq, -, hlogic⟩ := hread right (.inl hright)
  have hr' : (left.render .generic).outcome = .ok r := hr
  exact ⟨hd, hleft, hright, r, hr', hr, ⟨q, hq, hlogic⟩,
    hsame left right r (.inl hleft) (.inl hright) hr' hr⟩

end Expr

end PolySql
