import PolySql.Proofs.Phrases
import PolySql.Proofs.PredicateReading

/-!
# The text of formulas

A formula is built from columns and binds with any operators between two operands, with `NOT`, and
with the tests for null, for a list and for a range, where every operand may be a formula again. Its
words are those of its operands with the signs between them, and parentheses where the operators
around ask for them. Whoever reads its text finds just these words.

* `Expr.IsFormula` : formulas;
* `Expr.words` : the words of a formula;
* `Expr.IsFormula.utters` : the draft of a formula says its words;
* `Expr.IsFormula.words_render` : so does its text.
-/

namespace PolySql

open Draft

/-! ## Formulas and their words -/

/-- Words between parentheses where the condition asks for them. -/
def Word.parensIf (condition : Bool) (xs : List Word) : List Word :=
  if condition then .sign .leftParen :: (xs ++ [.sign .rightParen]) else xs

namespace Expr

/-- Operators and tests over columns and binds. -/
inductive IsFormula : Expr → Prop
  | atom {e : Expr} (he : e.IsAtom) : IsFormula e
  | binary {a b : Expr} (ha : IsFormula a) (op : BinaryOp) (hb : IsFormula b) :
      IsFormula (.binary a op b)
  | not {e : Expr} (he : IsFormula e) : IsFormula (.unary .not e)
  | isNull {e : Expr} (he : IsFormula e) (negated : Bool) : IsFormula (.isNull e negated)
  | isIn {e : Expr} (he : IsFormula e) {items : List Expr} (hne : items ≠ [])
      (hitems : ∀ x ∈ items, IsFormula x) (negated : Bool) : IsFormula (.isIn e items negated)
  | between {e low high : Expr} (he : IsFormula e) (hlow : IsFormula low) (hhigh : IsFormula high)
      (negated : Bool) : IsFormula (.between e low high negated)

mutual

/-- The words of a formula. -/
def words : Expr → List Word
  | .binary a op b =>
    Word.parensIf (a.parensUnder op false) a.words ++
      (op.signs.map .sign ++ Word.parensIf (b.parensUnder op true) b.words)
  | .unary .not e => .sign .not :: Word.parensIf (e.parensAfter .not) e.words
  | .isNull e negated =>
    e.words ++ .sign .is :: ((Sign.negation negated).map .sign ++ [.sign .null])
  | .isIn e items negated =>
    e.words ++ ((Sign.negation negated).map .sign ++ .sign .inList :: .sign .leftParen ::
      (Word.commas (wordLists items) ++ [.sign .rightParen]))
  | .between e low high negated =>
    e.words ++ ((Sign.negation negated).map .sign ++ .sign .between ::
      (low.words ++ .sign (.op .and) :: high.words))
  | e => [.atom e]

def wordLists : List Expr → List (List Word)
  | [] => []
  | e :: es => e.words :: wordLists es

end

@[simp] theorem wordLists_eq_map (es : List Expr) : wordLists es = es.map words := by
  induction es with
  | nil => rw [wordLists, List.map_nil]
  | cons e es ih => rw [wordLists, ih, List.map_cons]

theorem IsAtom.words_eq {e : Expr} (he : e.IsAtom) : e.words = [.atom e] := by
  cases he <;> rw [words] <;> simp

end Expr

/-! ## Drafts of words -/

namespace Draft

variable {d : Dialect} {a b : Draft} {xs ys : List Word}

theorem utters_signs (w : String) (n g : Bool) (ss : List Sign)
    (h : Word.vocabulary.Spoken w n g ss) :
    (sql w).Utters Word.vocabulary d n g (ss.map .sign) := utters_sql h

theorem Utters.between (ha : a.Utters Word.vocabulary d true false xs)
    (hb : b.Utters Word.vocabulary d true false ys) {w : String} {ss : List Sign}
    (hw : Word.vocabulary.Spoken w true false ss) :
    (a ++ sql " " ++ sql w ++ sql " " ++ b).Utters Word.vocabulary d true false
      (xs ++ (ss.map .sign ++ ys)) := by
  have hblank : (sql " ").Utters Word.vocabulary d false true [] :=
    utters_signs " " false true [] (by decide)
  have hword : (sql w).Utters Word.vocabulary d true false (ss.map .sign) := utters_sql hw
  have hright := ((hblank.append hword (by simp)).append hblank (by simp)).append hb (by simp)
  have hwhole := ha.append hright (by simp)
  simpa [append_assoc] using hwhole

theorem Utters.parensIf (ha : a.Utters Word.vocabulary d true false xs) (condition : Bool) :
    (parensIf condition a).Utters Word.vocabulary d true false (Word.parensIf condition xs) := by
  cases condition with
  | false => exact ha
  | true =>
    have hopen : (sql "(").Utters Word.vocabulary d false true [.sign .leftParen] :=
      utters_signs "(" false true [.leftParen] (by decide)
    have hclose : (sql ")").Utters Word.vocabulary d false true [.sign .rightParen] :=
      utters_signs ")" false true [.rightParen] (by decide)
    exact ((hopen.append ha (by simp)).append hclose (by simp)).weaken

theorem utters_joined {α : Type} (f : α → Draft) (g : α → List Word) (x : α) (es : List α)
    (h : ∀ e ∈ x :: es, (f e).Utters Word.vocabulary d true false (g e)) :
    (joined ", " ((x :: es).map f)).Utters Word.vocabulary d true false
      (Word.commas ((x :: es).map g)) := by
  induction es generalizing x with
  | nil => simpa [joined] using h x (by simp)
  | cons y es ih =>
    rw [List.forall_mem_cons] at h
    have hcomma : (sql ", ").Utters Word.vocabulary d false true [.sign .comma] :=
      utters_signs ", " false true [.comma] (by decide)
    have hcommas : Word.commas ((x :: y :: es).map g) =
        g x ++ ([.sign .comma] ++ Word.commas ((y :: es).map g)) := by
      simp [Word.commas_cons_cons]
    rw [hcommas]
    exact h.1.append (hcomma.append (ih y h.2) (by simp)) (by simp)

end Draft

theorem BinaryOp.spoken_text (op : BinaryOp) :
    Word.vocabulary.Spoken op.text true false op.signs := by
  cases op <;> decide

/-! ## The draft of a formula -/

namespace Expr

variable (d : Dialect) (scope : Scope)

theorem IsAtom.utters {e : Expr} (he : e.IsAtom) :
    (e.draft d scope).Utters Word.vocabulary d true false [.atom e] := by
  cases he with
  | column table m => exact utters_column table m
  | bind v => exact utters_bind v

/-- The draft of a formula says its words. -/
theorem IsFormula.utters {e : Expr} (he : e.IsFormula) :
    (e.draft d scope).Utters Word.vocabulary d true false e.words := by
  induction he with
  | atom he =>
    rw [he.words_eq]
    exact he.utters d scope
  | binary ha op hb iha ihb =>
    rw [draft, words]
    exact (iha.parensIf _).between (ihb.parensIf _) op.spoken_text
  | not he ih =>
    have hword : (sql "NOT ").Utters Word.vocabulary d false false [.sign .not] :=
      utters_signs "NOT " false false [.not] (by decide)
    rw [draft, words]
    exact hword.append (ih.parensIf _) (by simp)
  | isNull he negated ih =>
    have hwords : (sql (if negated then " IS NOT NULL" else " IS NULL")).Utters Word.vocabulary d
        true true ((Sign.is :: (Sign.negation negated ++ [.null])).map .sign) := by
      cases negated <;> exact utters_signs _ true true _ (by decide)
    rw [draft, words]
    simpa using (ih.append hwords (by simp)).weaken
  | isIn he hne hitems negated ih ihs =>
    obtain ⟨x, items, rfl⟩ := List.exists_cons_of_ne_nil hne
    have hwords : (sql (if negated then " NOT IN (" else " IN (")).Utters Word.vocabulary d
        false true ((Sign.negation negated ++ [Sign.inList, .leftParen]).map .sign) := by
      cases negated <;> exact utters_signs _ false true _ (by decide)
    have hclose : (sql ")").Utters Word.vocabulary d false true [.sign .rightParen] :=
      utters_signs ")" false true [.rightParen] (by decide)
    have hlist := ((ih.append hwords (by simp)).append
      (utters_joined (draft d scope) words x items ihs) (by simp)).append hclose (by simp)
    rw [draft, words]
    simpa [Draft.require] using hlist.weaken
  | between he hlow hhigh negated ih ihlow ihhigh =>
    have hwords : (sql (if negated then " NOT BETWEEN " else " BETWEEN ")).Utters Word.vocabulary d
        false true ((Sign.negation negated ++ [Sign.between]).map .sign) := by
      cases negated <;> exact utters_signs _ false true _ (by decide)
    have hand : (sql " AND ").Utters Word.vocabulary d false true [.sign (.op .and)] :=
      utters_signs " AND " false true [.op .and] (by decide)
    have htested := (ih.append hwords (by simp)).append ihlow (by simp)
    have hwhole := (htested.append hand (by simp)).append ihhigh (by simp)
    rw [draft, words]
    simpa using hwhole

/-! ## The text of a formula -/

theorem IsFormula.tidy {e : Expr} (he : e.IsFormula) : e.Tidy := by
  induction he with
  | atom he => exact he.tidy
  | binary ha op hb iha ihb =>
    refine tidy_iff.2 ⟨trivial, ?_⟩
    simpa [children] using ⟨iha, ihb⟩
  | not he ih =>
    refine tidy_iff.2 ⟨trivial, ?_⟩
    simpa [children] using ih
  | isNull he negated ih =>
    refine tidy_iff.2 ⟨trivial, ?_⟩
    simpa [children] using ih
  | isIn he hne hitems negated ih ihs =>
    exact tidy_iff.2 ⟨trivial, List.forall_mem_cons.2 ⟨ih, ihs⟩⟩
  | between he hlow hhigh negated ih ihlow ihhigh =>
    refine tidy_iff.2 ⟨trivial, ?_⟩
    simpa [children] using ⟨ih, ihlow, ihhigh⟩

variable {d}

/-- A formula is rendered, and its text and binds are its words. -/
theorem IsFormula.words_render (hd : d.QuotesNames) {e : Expr} (he : e.IsFormula) :
    ∃ r, (e.render d).outcome = .ok r ∧ d.words r = some e.words := by
  obtain ⟨hf, hitems⟩ := he.utters d .expression
  obtain ⟨hscan, -⟩ := (e.isTerm_draft d .expression he.tidy).scan_rendering hd hf
  refine ⟨Token.rendering d (e.draft d .expression).tokens, ?_, ?_⟩
  · rw [Expr.render, Draft.finish, hf]
  · have hread := (hitems [] [] [] fun _ => rfl).2
    simp only [List.nil_append, List.append_nil] at hread
    rw [Dialect.words, hscan, Option.bind_some]
    refine Eq.trans hread ?_
    simp [Vocabulary.itemsFrom]

end Expr

end PolySql
