import PolySql.Proofs.Predicates
import PolySql.Proofs.Tidy
import PolySql.Proofs.Vocabulary

/-!
# Reading the text of predicates

The draft of a predicate says items that the grammar reads as the same predicate. This is shown
piece by piece: a draft says items wherever it stands, if what follows is not glued to it, and the
items of drafts in a row are those of each of them.

* `Draft.Says` : the items that a draft says;
* `Draft.ReadsAs` : the items of a draft are read as a predicate;
* `Expr.IsPredicate.readsAs` : so are those of every predicate.
-/

namespace PolySql

open Text Lexeme

/-! ## Items of drafts -/

/-- Lexemes are read as items. -/
def Item.vocabulary : Vocabulary Symbol Item where
  atom := .atom
  symbol := .symbol
  symbols? := Lexeme.symbols?

theorem Lexeme.read_eq_vocabulary (binds : List Value) (next : Nat) (l : Lexeme) :
    l.read binds next = Item.vocabulary.read binds next l := by
  cases l <;> rfl

theorem Lexeme.itemsFrom_eq_vocabulary (binds : List Value) (next : Nat) (ls : List Lexeme) :
    itemsFrom binds next ls = Item.vocabulary.itemsFrom binds next ls := by
  induction ls generalizing next with
  | nil => rfl
  | cons l ls ih => simp only [itemsFrom, Vocabulary.itemsFrom, read_eq_vocabulary, ih]

theorem Lexeme.symbolsFrom_vocabulary {ls : List Lexeme} {xs : List Symbol}
    (h : symbolsFrom ls = some xs) : Item.vocabulary.symbolsFrom ls = some xs := by
  induction ls generalizing xs with
  | nil => exact h
  | cons l ls ih =>
    obtain ⟨ys, hys, hrest⟩ := Option.bind_eq_some_iff.1 h
    obtain ⟨zs, hzs, rfl⟩ := Option.map_eq_some_iff.1 hrest
    have hsymbols : Item.vocabulary.symbolsOf l = some ys := by
      cases l with
      | column table n => cases hys
      | _ => simpa [Vocabulary.symbolsOf, placeholder?_of_symbols? hys, Item.vocabulary] using hys
    rw [Vocabulary.symbolsFrom, hsymbols, Option.bind_some, ih hzs]
    rfl

/-- Text that says symbols; whether it must be kept apart from what follows, and whether it is
apart from what stands in front. -/
def Token.Spoken (w : String) (needs gives : Bool) (xs : List Symbol) : Prop :=
  (endsApart w.toList || needs) = true ∧
    (gives = true → ofMarks (w.toList.map .code) ≠ [] ∧
      clear (ofMarks (w.toList.map .code)) = true) ∧
    symbolsFrom (ofMarks (w.toList.map .code)) = some xs

instance (w : String) (needs gives : Bool) (xs : List Symbol) :
    Decidable (Token.Spoken w needs gives xs) := by
  unfold Token.Spoken
  infer_instance

namespace Draft

/-- A draft says these items wherever it stands. -/
def Says (d : Dialect) (a : Draft) (needs gives : Bool) (xs : List Item) : Prop :=
  a.fault = none ∧ ∀ (before later : List Value) (rest : List Lexeme),
    (needs = true → clear rest = true) →
      let binds := before ++ (Token.binds a.tokens ++ later)
      let lexemes := (Token.marks d before.length a.tokens).foldr glue rest
      (gives = true → clear lexemes = true) ∧
        itemsFrom binds before.length lexemes =
          (itemsFrom binds (before ++ Token.binds a.tokens).length rest).map (xs ++ ·)

variable {d : Dialect} {a b : Draft} {n n' g g' : Bool} {xs ys : List Item}

theorem says_iff_utters : a.Says d n g xs ↔ a.Utters Item.vocabulary d n g xs := by
  simp only [Says, Utters, itemsFrom_eq_vocabulary]

/-- What may be followed by anything may also be kept apart. -/
theorem Says.weaken (h : a.Says d n g xs) : a.Says d true false xs :=
  says_iff_utters.2 (says_iff_utters.1 h).weaken

theorem Says.append (ha : a.Says d n g xs) (hb : b.Says d n' g' ys) (h : n = true → g' = true) :
    (a ++ b).Says d n' g (xs ++ ys) :=
  says_iff_utters.2 ((says_iff_utters.1 ha).append (says_iff_utters.1 hb) h)

theorem says_sql (w : String) (n g : Bool) (ss : List Symbol) (h : Token.Spoken w n g ss) :
    (sql w).Says d n g (ss.map .symbol) :=
  says_iff_utters.2 (utters_sql ⟨h.1, h.2.1, symbolsFrom_vocabulary h.2.2⟩)

/-! ## Tests of atoms -/

variable (scope : Scope) {e : Expr}

theorem says_atom (he : e.IsAtom) : (e.draft d scope).Says d true false [.atom e] := by
  refine says_iff_utters.2 ?_
  cases he with
  | column table m => exact utters_column table m
  | bind v => exact utters_bind v

theorem Says.between (ha : a.Says d true false xs) (hb : b.Says d true false ys) {w : String}
    {ss : List Symbol} (hw : Token.Spoken w true false ss) :
    (a ++ sql " " ++ sql w ++ sql " " ++ b).Says d true false
      (xs ++ (ss.map .symbol ++ ys)) := by
  have hblank : (sql " ").Says d false true [] := says_sql " " false true [] (by decide)
  have hword := (hblank.append (says_sql w true false ss hw) (by simp)).append hblank (by simp)
  have hwhole := ha.append (hword.append hb (by simp)) (by simp)
  simpa [append_assoc] using hwhole

theorem spoken_comparison {op : BinaryOp} (hop : op.IsComparison) :
    Token.Spoken op.text true false op.symbols := by
  rcases hop.eq_or with rfl | rfl | rfl | rfl | rfl | rfl | rfl | rfl <;> decide

theorem says_commas (e : Expr) (es : List Expr) (h : ∀ a ∈ e :: es, a.IsAtom) :
    (joined ", " ((e :: es).map (Expr.draft d scope))).Says d true false
      (Item.commas (e :: es)) := by
  induction es generalizing e with
  | nil => exact says_atom scope (h e (by simp))
  | cons f es ih =>
    rw [List.forall_mem_cons] at h
    have hcomma : (sql ", ").Says d false true [.symbol .comma] :=
      says_sql ", " false true [.comma] (by decide)
    exact (says_atom scope h.1).append (hcomma.append (ih f h.2) (by simp)) (by simp)

/-! ## Drafts that are read as predicates -/

/-- The items of a draft are read as a predicate that says the same. -/
def ReadsAs (d : Dialect) (a : Draft) (rank : Rank) (p : Expr) : Prop :=
  ∃ xs q, a.Says d true false xs ∧ Condition rank xs q ∧ q.SameLogic p

end Draft

open Draft

/-- A chain of `AND` after a conjunction goes on with it. -/
theorem Condition.append_and {xs ys : List Item} {p q : Expr} (hp : Condition .conjunction xs p)
    (hq : Condition .conjunction ys q) :
    ∃ r, Condition .conjunction (xs ++ .symbol .and :: ys) r ∧ r.SameLogic (.binary p .and q) := by
  generalize hrank : Rank.conjunction = rank at hq
  induction hq with
  | and hq hq' ih _ =>
    obtain ⟨r, hr, hlogic⟩ := ih hrank
    refine ⟨_, ?_, (hlogic.and (.refl _)).trans (.and_assoc _ _ _)⟩
    simpa using hr.and hq'
  | ofNegation hq _ => exact ⟨_, hp.and hq, .refl _⟩
  | _ => cases hrank

/-- A chain of `OR` after a disjunction goes on with it. -/
theorem Condition.append_or {xs ys : List Item} {p q : Expr} (hp : Condition .disjunction xs p)
    (hq : Condition .disjunction ys q) :
    ∃ r, Condition .disjunction (xs ++ .symbol .or :: ys) r ∧ r.SameLogic (.binary p .or q) := by
  generalize hrank : Rank.disjunction = rank at hq
  induction hq with
  | or hq hq' ih _ =>
    obtain ⟨r, hr, hlogic⟩ := ih hrank
    refine ⟨_, ?_, (hlogic.or (.refl _)).trans (.or_assoc _ _ _)⟩
    simpa using hr.or hq'
  | ofConjunction hq _ => exact ⟨_, hp.or hq, .refl _⟩
  | _ => cases hrank

namespace Draft

variable {d : Dialect} {scope : Scope} {a b : Draft} {p q : Expr}

theorem ReadsAs.conjunction (h : a.ReadsAs d .negation p) : a.ReadsAs d .conjunction p := by
  obtain ⟨xs, r, hsays, hr, hlogic⟩ := h
  exact ⟨xs, r, hsays, .ofNegation hr, hlogic⟩

theorem ReadsAs.disjunction (h : a.ReadsAs d .conjunction p) : a.ReadsAs d .disjunction p := by
  obtain ⟨xs, r, hsays, hr, hlogic⟩ := h
  exact ⟨xs, r, hsays, .ofConjunction hr, hlogic⟩

theorem ReadsAs.parens (h : a.ReadsAs d .disjunction p) : (parens a).ReadsAs d .negation p := by
  obtain ⟨xs, r, hsays, hr, hlogic⟩ := h
  have hopen : (sql "(").Says d false true [.symbol .leftParen] :=
    says_sql "(" false true [.leftParen] (by decide)
  have hclose : (sql ")").Says d false true [.symbol .rightParen] :=
    says_sql ")" false true [.rightParen] (by decide)
  refine ⟨_, r, ((hopen.append hsays (by simp)).append hclose (by simp)).weaken, ?_, hlogic⟩
  exact .parens hr

theorem ReadsAs.and (ha : a.ReadsAs d .conjunction p) (hb : b.ReadsAs d .conjunction q) :
    (a ++ sql " " ++ sql "AND" ++ sql " " ++ b).ReadsAs d .conjunction (.binary p .and q) := by
  obtain ⟨xs, r, hsays, hr, hlogic⟩ := ha
  obtain ⟨ys, r', hsays', hr', hlogic'⟩ := hb
  obtain ⟨r'', hr'', hlogic''⟩ := hr.append_and hr'
  have hword : Token.Spoken "AND" true false [.and] := by decide
  exact ⟨_, r'', hsays.between hsays' hword, hr'', hlogic''.trans (hlogic.and hlogic')⟩

theorem ReadsAs.or (ha : a.ReadsAs d .disjunction p) (hb : b.ReadsAs d .disjunction q) :
    (a ++ sql " " ++ sql "OR" ++ sql " " ++ b).ReadsAs d .disjunction (.binary p .or q) := by
  obtain ⟨xs, r, hsays, hr, hlogic⟩ := ha
  obtain ⟨ys, r', hsays', hr', hlogic'⟩ := hb
  obtain ⟨r'', hr'', hlogic''⟩ := hr.append_or hr'
  have hword : Token.Spoken "OR" true false [.or] := by decide
  exact ⟨_, r'', hsays.between hsays' hword, hr'', hlogic''.trans (hlogic.or hlogic')⟩

theorem ReadsAs.not (ha : a.ReadsAs d .negation p) :
    (sql "NOT " ++ a).ReadsAs d .negation (.unary .not p) := by
  obtain ⟨xs, r, hsays, hr, hlogic⟩ := ha
  have hword : (sql "NOT ").Says d false false [.symbol .not] :=
    says_sql "NOT " false false [.not] (by decide)
  exact ⟨_, _, hword.append hsays (by simp), hr.not, hlogic.not⟩

theorem Says.readsAs {xs : List Item} (h : a.Says d true false xs) (hp : Condition .negation xs p) :
    a.ReadsAs d .negation p :=
  ⟨xs, p, h, hp, .refl p⟩

/-! ## Predicates -/

theorem readsAs_compare {op : BinaryOp} (hp : p.IsAtom) (hop : op.IsComparison) (hq : q.IsAtom) :
    ((Expr.binary p op q).draft d scope).ReadsAs d .negation (.binary p op q) := by
  have hleft : p.parensUnder op false = false := by
    cases hp <;> rfl
  have hright : q.parensUnder op true = false := by
    cases hq <;> rfl
  unfold Expr.draft
  rw [hleft, hright]
  exact ((says_atom scope hp).between (says_atom scope hq) (spoken_comparison hop)).readsAs (.compare hop p q)

theorem readsAs_isNull (hp : p.IsAtom) (negated : Bool) :
    ((Expr.isNull p negated).draft d scope).ReadsAs d .negation (.isNull p negated) := by
  have hwords : (sql (if negated then " IS NOT NULL" else " IS NULL")).Says d true true
      ((.is :: (Symbol.negation negated ++ [.null])).map .symbol) := by
    refine says_sql _ true true _ ?_
    cases negated <;> decide
  have hdraft := ((says_atom scope hp).append hwords (by simp)).weaken
  refine hdraft.readsAs ?_
  simpa using Condition.isNull p negated

theorem readsAs_isIn (hp : p.IsAtom) {es : List Expr} (hes : es ≠ [])
    (hall : ∀ e ∈ es, e.IsAtom) (negated : Bool) :
    ((Expr.isIn p es negated).draft d scope).ReadsAs d .negation (.isIn p es negated) := by
  obtain ⟨e, es, rfl⟩ := List.exists_cons_of_ne_nil hes
  have hwords : (sql (if negated then " NOT IN (" else " IN (")).Says d false true
      ((Symbol.negation negated ++ [Symbol.inList, .leftParen]).map .symbol) := by
    refine says_sql _ false true _ ?_
    cases negated <;> decide
  have hclose : (sql ")").Says d false true [.symbol .rightParen] :=
    says_sql ")" false true [.rightParen] (by decide)
  have hlist := ((says_atom scope hp).append hwords (by simp)).append
    (says_commas scope e es hall) (by simp)
  have hdraft : (Expr.isIn p (e :: es) negated).draft d scope =
      p.draft d scope ++ sql (if negated then " NOT IN (" else " IN (") ++
        joined ", " ((e :: es).map (Expr.draft d scope)) ++ sql ")" := by
    simp [Expr.draft, Draft.require]
  rw [hdraft]
  refine Says.readsAs (hlist.append hclose (by simp)).weaken ?_
  simpa using Condition.isIn p hes negated

theorem readsAs_between {low high : Expr} (hp : p.IsAtom) (hlow : low.IsAtom)
    (hhigh : high.IsAtom) (negated : Bool) :
    ((Expr.between p low high negated).draft d scope).ReadsAs d .negation
      (.between p low high negated) := by
  have hwords : (sql (if negated then " NOT BETWEEN " else " BETWEEN ")).Says d false true
      ((Symbol.negation negated ++ [Symbol.between]).map .symbol) := by
    refine says_sql _ false true _ ?_
    cases negated <;> decide
  have hand : (sql " AND ").Says d false true [.symbol .and] :=
    says_sql " AND " false true [.and] (by decide)
  have htested := ((says_atom scope hp).append hwords (by simp)).append
    (says_atom scope hlow) (by simp)
  have hwhole := (htested.append hand (by simp)).append (says_atom scope hhigh) (by simp)
  refine Says.readsAs (a := (Expr.between p low high negated).draft d scope) hwhole ?_
  simpa using Condition.between p low high negated

end Draft

/-- How a predicate is read: without parentheses as a disjunction, as a conjunction unless an `AND`
puts it between parentheses, and as an operand of `NOT` unless that does. -/
structure Expr.Readable (d : Dialect) (scope : Scope) (p : Expr) : Prop where
  disjunction : (p.draft d scope).ReadsAs d .disjunction p
  conjunction : ∀ right, p.parensUnder .and right = false →
    (p.draft d scope).ReadsAs d .conjunction p
  negation : p.parensAfter .not = false → (p.draft d scope).ReadsAs d .negation p

namespace Expr

variable {d : Dialect} {scope : Scope} {p q : Expr}

theorem Readable.of_negation (h : (p.draft d scope).ReadsAs d .negation p) :
    p.Readable d scope :=
  ⟨h.conjunction.disjunction, fun _ _ => h.conjunction, fun _ => h⟩

theorem Readable.underAnd (h : p.Readable d scope) (right : Bool) :
    (parensIf (p.parensUnder .and right) (p.draft d scope)).ReadsAs d .conjunction p := by
  cases hparens : p.parensUnder .and right with
  | false => exact h.conjunction right hparens
  | true => exact h.disjunction.parens.conjunction

theorem Readable.afterNot (h : p.Readable d scope) :
    (parensIf (p.parensAfter .not) (p.draft d scope)).ReadsAs d .negation p := by
  cases hparens : p.parensAfter .not with
  | false => exact h.negation hparens
  | true => exact h.disjunction.parens

/-- Nothing binds weaker than `OR`. -/
theorem IsPredicate.parensUnder_or (hp : p.IsPredicate) (right : Bool) :
    p.parensUnder .or right = false := by
  cases hp with
  | compare ha hop hb =>
    rcases hop.eq_or with rfl | rfl | rfl | rfl | rfl | rfl | rfl | rfl <;> cases right <;> rfl
  | _ => cases right <;> rfl

/-- A predicate is read as it is, up to grouping. -/
theorem IsPredicate.readable (d : Dialect) (scope : Scope) (hp : p.IsPredicate) :
    p.Readable d scope := by
  induction hp with
  | compare ha hop hb => exact .of_negation (readsAs_compare ha hop hb)
  | isNull ha negated => exact .of_negation (readsAs_isNull ha negated)
  | isIn ha hes hall negated => exact .of_negation (readsAs_isIn ha hes hall negated)
  | between ha hlow hhigh negated => exact .of_negation (readsAs_between ha hlow hhigh negated)
  | group hp ih =>
    obtain ⟨xs, q, hsays, hq, hlogic⟩ := ih.disjunction.parens
    exact .of_negation ⟨xs, q, hsays, hq, hlogic.trans (SameLogic.group _).symm⟩
  | not hp ih => exact .of_negation ih.afterNot.not
  | and hp hq ihp ihq =>
    have h := (ihp.underAnd false).and (ihq.underAnd true)
    exact ⟨h.disjunction, fun _ _ => h, fun hparens => by cases hparens⟩
  | or hp hq ihp ihq =>
    have h := ihp.disjunction.or ihq.disjunction
    refine ⟨?_, fun right hparens => ?_, fun hparens => by cases hparens⟩
    · unfold draft
      rw [hp.parensUnder_or, hq.parensUnder_or]
      exact h
    · cases right <;> cases hparens

end Expr

end PolySql
