import PolySql.Proofs.Inversion
import PolySql.Proofs.Logic

/-!
# The reading of logical formulas

Chains of `AND`s and of `OR`s have no parentheses but those of their operands, so however such a
chain is grouped, its operands are read one by one. With that the words of a logical formula are
taken apart from the top: where they are read as the formula, up to the grouping of chains, no
operand without parentheses binds weaker than its place asks. Parentheses are only written for the
operands of operators and of `NOT`; so an `OR` under a test for null is torn apart.

* `Expr.chainWords`, `Expr.reads_operands` : the words of a chain, and its operands one by one;
* `Expr.PlacedIfRead` : formulas that are placed if they are read;
* `Expr.IsLogical.placedIfRead` : logical formulas, by cases on what is on top;
* `Expr.logic_reads_iff_placed` : the main statement, about text and binds.
-/

namespace PolySql

theorem BinaryOp.signs_of_connective {op : BinaryOp} (hop : op ∈ BinaryOp.connectives) :
    op.signs = [.op op] := by
  revert hop
  cases op <;> decide

theorem BinaryOp.isAssociative_of_connective {op : BinaryOp} (hop : op ∈ BinaryOp.connectives) :
    op.isAssociative = true := by
  revert hop
  cases op <;> decide

namespace Expr

/-! ## The words of chains -/

theorem words_ne_nil (e : Expr) : e.words ≠ [] := by
  cases e with
  | binary a op b =>
    rw [words]
    cases op <;> simp [BinaryOp.signs]
  | unary op e => cases op <;> simp [words]
  | _ => simp [words]

/-- The words of an operand in a chain. -/
def operandWords (op : BinaryOp) (e : Expr) : List Word :=
  Word.parensIf (e.parensUnder op false) e.words

/-- The words of a chain of an operator with one sign. -/
def chainWords (op : BinaryOp) (es : List Expr) : List Word :=
  [Word.sign (.op op)].intercalate (es.map (operandWords op))

variable {op : BinaryOp}

theorem operandWords_ne_nil (op : BinaryOp) (e : Expr) : operandWords op e ≠ [] := by
  unfold operandWords
  cases e.parensUnder op false with
  | false => exact e.words_ne_nil
  | true => exact List.cons_ne_nil _ _

theorem chainWords_singleton (op : BinaryOp) (e : Expr) :
    chainWords op [e] = operandWords op e := by
  simp [chainWords]

theorem chainWords_cons (op : BinaryOp) (e : Expr) {es : List Expr} (hne : es ≠ []) :
    chainWords op (e :: es) = operandWords op e ++ .sign (.op op) :: chainWords op es := by
  obtain ⟨e', es, rfl⟩ := List.exists_cons_of_ne_nil hne
  exact Word.intercalate_cons_cons _ _ _ _

theorem chainWords_append {es es' : List Expr} (hne : es ≠ []) (hne' : es' ≠ []) :
    chainWords op (es ++ es') = chainWords op es ++ .sign (.op op) :: chainWords op es' := by
  induction es with
  | nil => exact absurd rfl hne
  | cons e es ih =>
    by_cases hes : es = []
    · rw [hes, chainWords_singleton, List.singleton_append, chainWords_cons op e hne']
    · rw [List.cons_append, chainWords_cons op e (List.append_ne_nil_of_left_ne_nil hes _), ih hes,
        chainWords_cons op e hes, List.append_assoc, List.cons_append]

theorem chainWords_ne_nil {es : List Expr} (hne : es ≠ []) : chainWords op es ≠ [] := by
  obtain ⟨e, es, rfl⟩ := List.exists_cons_of_ne_nil hne
  by_cases hes : es = []
  · rw [hes, chainWords_singleton]
    exact operandWords_ne_nil op e
  · rw [chainWords_cons op e hes]
    exact List.append_ne_nil_of_left_ne_nil (operandWords_ne_nil op e) _

theorem balanced_chainWords {es : List Expr} (h : ∀ e ∈ es, Word.Balanced e.words) :
    Word.Balanced (chainWords op es) :=
  Word.balanced_intercalate rfl (List.forall_mem_map.2 fun e he => (h e he).parensIf _)

theorem count_chainWords (es : List Expr) :
    Word.count (chainWords op es) = (es.map fun e => Word.count e.words).sum + (es.length - 1) := by
  rw [chainWords, Word.count_intercalate rfl, List.map_map, List.length_map]
  simp [Function.comp_def, operandWords]

theorem words_chain (hop : op ∈ BinaryOp.connectives) (a b : Expr) :
    (Expr.binary a op b).words = Word.parensIf (a.parensUnder op false) a.words ++
      .sign (.op op) :: Word.parensIf (b.parensUnder op true) b.words := by
  rw [words, BinaryOp.signs_of_connective hop]
  rfl

/-- A chain of connectives has no parentheses but those of its operands. -/
theorem IsLogical.words_operands (hop : op ∈ BinaryOp.connectives) {e : Expr} (he : e.IsLogical)
    (onRight : Bool) :
    Word.parensIf (e.parensUnder op onRight) e.words = chainWords op (e.operands op) := by
  induction e using operands_induction op generalizing onRight with
  | single e hne =>
    have hparens : e.parensUnder op onRight = e.parensUnder op false := by
      cases he with
      | binary ha ho hb =>
        rename_i o
        have hprecedence : o.precedence ≠ op.precedence := by
          have hne : o ≠ op := fun h => hne (congrArg some h)
          revert hop ho hne
          cases op <;> cases o <;> decide
        simp [parensUnder, hprecedence]
      | atom he => cases he <;> rfl
      | _ => rfl
    rw [hparens, operands_of_ne hne, chainWords_singleton, operandWords]
  | chain a b iha ihb =>
    cases he with
    | atom he => cases he
    | binary ha _ hb =>
      have hparens : (Expr.binary a op b).parensUnder op onRight = false := by
        simp [parensUnder, BinaryOp.isAssociative_of_connective hop]
      rw [hparens, operands_binary, chainWords_append (operands_ne_nil op a) (operands_ne_nil op b),
        ← iha ha false, ← ihb hb true, ← words_chain hop]
      rfl

theorem count_operands (hop : op ∈ BinaryOp.connectives) (e : Expr) :
    Word.count (chainWords op (e.operands op)) = Word.count e.words := by
  induction e using operands_induction op with
  | single e hne =>
    rw [operands_of_ne hne, chainWords_singleton, operandWords, Word.count_parensIf]
  | chain a b iha ihb =>
    rw [operands_binary, chainWords_append (operands_ne_nil op a) (operands_ne_nil op b),
      words_chain hop]
    simp only [Word.count_append, Word.count_parensIf, Word.count_cons (w := .sign (.op op)) rfl,
      iha, ihb]

/-- Regrouped operands make as many words. -/
theorem count_chainWords_eq {chains : List BinaryOp} (hop : op ∈ BinaryOp.connectives)
    {es : List Expr} {e : Expr} (h : List.Forall₂ (Regroups chains) es (e.operands op)) :
    Word.count (chainWords op es) = Word.count e.words := by
  have hcounts : es.map (fun e => Word.count e.words) =
      (e.operands op).map fun e => Word.count e.words :=
    List.forall₂_eq_eq_eq ▸ (List.forall₂_map_right_iff.2 (List.forall₂_map_left_iff.2
      (h.imp fun _ _ h => h.count_eq)))
  rw [← count_operands hop, count_chainWords, count_chainWords, hcounts, h.length_eq]

/-! ## Readings of chains -/

/-- Where the words of a chain are read as a chain of the same operands, each of them is read in its
place. -/
theorem reads_operands (hop : op ∈ BinaryOp.connectives) {n : Nat} {q : Expr} {es : List Expr}
    (h : Phrase n (chainWords op es) q) (hes : ∀ e ∈ es, Word.Balanced e.words)
    (hoperands : List.Forall₂ (Regroups BinaryOp.connectives) es (q.operands op)) :
    (q.operator? = some op → n ≤ op.level) ∧
      ∀ e ∈ es, ∃ y, y.Regroups BinaryOp.connectives e ∧
        Phrase (if q.operator? = some op then op.level else n) (operandWords op e) y := by
  induction q using operands_induction op generalizing n es with
  | single q hne =>
    rw [operands_of_ne hne] at hoperands
    obtain _ | ⟨hx, _ | _⟩ := hoperands
    rw [chainWords_singleton] at h
    simpa [hne] using ⟨q, hx.symm, h⟩
  | chain a b iha ihb =>
    rw [operands_binary] at hoperands
    obtain ⟨fs, gs, rfl, hfs, hgs⟩ : ∃ fs gs, es = fs ++ gs ∧
        List.Forall₂ (Regroups BinaryOp.connectives) fs (a.operands op) ∧
        List.Forall₂ (Regroups BinaryOp.connectives) gs (b.operands op) :=
      ⟨_, _, (List.take_append_drop _ es).symm, List.forall₂_take_append _ _ _ hoperands,
        List.forall₂_drop_append _ _ _ hoperands⟩
    rw [List.forall_mem_append] at hes
    have hnil {xs : List Expr} {e : Expr}
        (h : List.Forall₂ (Regroups BinaryOp.connectives) xs (e.operands op)) : xs ≠ [] := by
      rintro rfl
      exact operands_ne_nil op e (List.forall₂_nil_left_iff.1 h)
    rw [chainWords_append (hnil hfs) (hnil hgs)] at h
    obtain ⟨hlevel, ys, zs, hwords, ha, hb⟩ := h.bare fun ys hys =>
      (balanced_chainWords hes.1).append_ne_parens (chainWords_ne_nil (hnil hfs)) hys (by simp)
    rw [BinaryOp.signs_of_connective hop] at hwords
    have hcount : Word.count (chainWords op fs) = Word.count ys := by
      rw [count_chainWords_eq hop hfs, ha.count_eq]
    obtain ⟨rfl, htail⟩ := Word.append_inj_of_count rfl rfl hwords hcount
    obtain rfl := (List.cons.inj htail).2
    obtain ⟨-, hleft⟩ := iha ha hes.1 hfs
    obtain ⟨hright', hright⟩ := ihb hb hes.2 hgs
    -- The right operand has no parentheses, so it is not a chain of the same operator.
    have hsingle : b.operator? ≠ some op := fun hchain =>
      absurd (hright' hchain) (Nat.not_succ_le_self _)
    refine ⟨fun _ => hlevel, ?_⟩
    rw [if_pos (show (Expr.binary a op b).operator? = some op from rfl), List.forall_mem_append]
    refine ⟨by simpa using hleft, fun e he => ?_⟩
    obtain ⟨y, hy, hphrase⟩ := hright e he
    rw [if_neg hsingle] at hphrase
    exact ⟨y, hy, hphrase.weaken (Nat.le_succ _)⟩

/-! ## Formulas that are read are placed -/

/-- The expression is placed if its words are read as the expression. -/
def PlacedIfRead (e : Expr) : Prop :=
  ∀ (n : Nat) (q : Expr), Phrase n e.words q → q.Regroups BinaryOp.connectives e →
    e.Placed ∧ n ≤ e.strength

theorem IsFormula.balanced_words {e : Expr} (he : e.IsFormula) : Word.Balanced e.words := by
  induction he with
  | atom he =>
    rw [he.words_eq]
    rfl
  | binary ha op hb iha ihb =>
    rw [words]
    exact (iha.parensIf _).binary op (ihb.parensIf _)
  | not he ih =>
    rw [words]
    exact (ih.parensIf _).cons (.sign .not) rfl
  | isNull he negated ih =>
    rw [words]
    exact ih.isNull negated
  | isIn he hne hitems negated ih ihs =>
    rw [words, wordLists_eq_map]
    exact ih.isIn negated (List.forall_mem_map.2 ihs)
  | between he hlow hhigh negated ih ihlow ihhigh =>
    rw [words]
    exact ih.between negated ihlow ihhigh

/-- Parentheses to the left of an operator are wanted to its right too. -/
theorem parensUnder_left_of_right {op : BinaryOp} {e : Expr}
    (h : e.parensUnder op true = false) : e.parensUnder op false = false := by
  cases e <;> simp_all [parensUnder]

/-- Operands of a chain that may stand where they stand put the whole chain in its place. -/
theorem placed_of_operands {op : BinaryOp} {e : Expr} (h : ∀ x ∈ e.operands op,
    x.Placed ∧ (x.parensUnder op false = false → op.level ≤ x.strength)) :
    e.Placed ∧ ∀ onRight, e.parensUnder op onRight = false → op.level ≤ e.strength := by
  induction e using operands_induction op with
  | single e hne =>
    rw [operands_of_ne hne, List.forall_mem_singleton] at h
    refine ⟨h.1, fun onRight hparens => h.2 ?_⟩
    cases onRight with
    | false => exact hparens
    | true => exact parensUnder_left_of_right hparens
  | chain a b iha ihb =>
    rw [operands_binary, List.forall_mem_append] at h
    obtain ⟨hplaced, hlevel⟩ := iha h.1
    obtain ⟨hplaced', hlevel'⟩ := ihb h.2
    exact ⟨placed_binary.2 ⟨⟨hlevel false, hlevel' true⟩, hplaced, hplaced'⟩,
      fun _ _ => Nat.le_refl _⟩

namespace PlacedIfRead

variable {a b e low high : Expr}

theorem parensIf (he : e.PlacedIfRead) (hbalanced : Word.Balanced e.words) {condition : Bool}
    {n : Nat} {q : Expr} (h : Phrase n (Word.parensIf condition e.words) q)
    (hq : q.Regroups BinaryOp.connectives e) :
    e.Placed ∧ (condition = false → n ≤ e.strength) := by
  cases condition with
  | false =>
    obtain ⟨hplaced, hstrength⟩ := he n q h hq
    exact ⟨hplaced, fun _ => hstrength⟩
  | true => exact ⟨(he 0 q (h.of_parens hbalanced) hq).1, nofun⟩

theorem of_isAtom (he : e.IsAtom) : e.PlacedIfRead := by
  intro n q h hq
  rw [he.words_eq] at h
  obtain ⟨hstrength, -⟩ := h.bare (by simp)
  exact ⟨he.placed, hq.strength_eq ▸ hstrength⟩

theorem not (he : e.PlacedIfRead) (hbalanced : Word.Balanced e.words) :
    (Expr.unary .not e).PlacedIfRead := by
  intro n q h hq
  obtain ⟨hhead, hparts⟩ := hq.parts
  rw [words] at h
  obtain ⟨hstrength, hbare⟩ := h.bare (by simp)
  refine ⟨?_, hq.strength_eq ▸ hstrength⟩
  cases q <;> simp only [head, reduceCtorEq, unary.injEq] at hhead
  obtain ⟨rfl, -⟩ := hhead
  obtain ⟨ys, hwords, hphrase⟩ := hbare
  obtain rfl := (List.cons.inj hwords).2
  obtain _ | ⟨hq', -⟩ := hparts
  exact placed_not.2 (he.parensIf hbalanced hphrase hq').1

theorem isNull (he : e.PlacedIfRead) (hbalanced : Word.Balanced e.words) (negated : Bool) :
    (Expr.isNull e negated).PlacedIfRead := by
  intro n q h hq
  obtain ⟨hhead, hparts⟩ := hq.parts
  rw [words] at h
  obtain ⟨hstrength, hbare⟩ := h.bare fun ys hys =>
    hbalanced.append_ne_parens e.words_ne_nil hys (by simp)
  refine ⟨?_, hq.strength_eq ▸ hstrength⟩
  cases q <;> simp only [head, reduceCtorEq, isNull.injEq, true_and] at hhead
  subst hhead
  obtain ⟨ys, hwords, hphrase⟩ := hbare
  obtain rfl := List.append_cancel_right hwords
  obtain _ | ⟨hq', -⟩ := hparts
  obtain ⟨hplaced, hlevel⟩ := he _ _ hphrase hq'
  exact placed_isNull.2 ⟨hlevel, hplaced⟩

/-- Two operands of a binary operator that is no connective. -/
theorem compare (ha : a.PlacedIfRead) (hb : b.PlacedIfRead) (hbalanced : Word.Balanced a.words)
    (hbalanced' : Word.Balanced b.words) {op : BinaryOp} (hop : op ∉ BinaryOp.connectives) :
    (Expr.binary a op b).PlacedIfRead := by
  intro n q h hq
  obtain ⟨hhead, hparts⟩ := hq.parts
  rw [words] at h
  obtain ⟨hstrength, hbare⟩ := h.bare fun ys hys =>
    (hbalanced.parensIf _).append_ne_parens (operandWords_ne_nil op a) hys
      (by cases op <;> simp [BinaryOp.signs])
  refine ⟨?_, hq.strength_eq ▸ hstrength⟩
  cases q <;> simp only [head, reduceCtorEq, binary.injEq, true_and, and_true] at hhead
  subst hhead
  simp only [Expr.parts, if_neg hop] at hparts
  obtain _ | ⟨hleft, _ | ⟨hright, -⟩⟩ := hparts
  obtain ⟨ys, zs, hwords, hys, hzs⟩ := hbare
  have hcount (condition : Bool) :
      Word.count (Word.parensIf condition a.words) = Word.count ys := by
    rw [Word.count_parensIf, hys.count_eq, hleft.count_eq]
  obtain ⟨rfl, htail⟩ := Word.append_inj_of_count (Word.outline_signs _ _) (Word.outline_signs _ _)
    hwords (hcount _)
  obtain rfl := List.append_cancel_left htail
  obtain ⟨hplaced, hlevel⟩ := ha.parensIf hbalanced hys hleft
  obtain ⟨hplaced', hlevel'⟩ := hb.parensIf hbalanced' hzs hright
  exact placed_binary.2
    ⟨⟨hlevel, fun hparens => Nat.le_of_succ_le (hlevel' hparens)⟩, hplaced, hplaced'⟩

theorem between (he : e.PlacedIfRead) (hlow : low.PlacedIfRead) (hhigh : high.PlacedIfRead)
    (hbalanced : Word.Balanced e.words) (negated : Bool) :
    (Expr.between e low high negated).PlacedIfRead := by
  intro n q h hq
  obtain ⟨hhead, hparts⟩ := hq.parts
  rw [words] at h
  obtain ⟨hstrength, hbare⟩ := h.bare fun ys hys =>
    hbalanced.append_ne_parens e.words_ne_nil hys (by simp)
  refine ⟨?_, hq.strength_eq ▸ hstrength⟩
  cases q <;> simp only [head, reduceCtorEq, between.injEq, true_and] at hhead
  subst hhead
  obtain _ | ⟨hq₁, _ | ⟨hq₂, _ | ⟨hq₃, -⟩⟩⟩ := hparts
  obtain ⟨ys, zs, us, hwords, hys, hzs, hus⟩ := hbare
  have hcount : Word.count e.words = Word.count ys := by
    rw [hys.count_eq, hq₁.count_eq]
  obtain ⟨rfl, htail⟩ := Word.append_inj_of_count (Word.outline_negation _ rfl _)
    (Word.outline_negation _ rfl _) hwords hcount
  have hbounds := (List.cons.inj (List.append_cancel_left htail)).2
  have hcount' : Word.count low.words = Word.count zs := by
    rw [hzs.count_eq, hq₂.count_eq]
  obtain ⟨rfl, htail'⟩ := Word.append_inj_of_count rfl rfl hbounds hcount'
  obtain rfl := (List.cons.inj htail').2
  obtain ⟨hplaced₁, hlevel₁⟩ := he _ _ hys hq₁
  obtain ⟨hplaced₂, hlevel₂⟩ := hlow _ _ hzs hq₂
  obtain ⟨hplaced₃, hlevel₃⟩ := hhigh _ _ hus hq₃
  exact placed_between.2 ⟨⟨hlevel₁, hlevel₂, hlevel₃⟩, hplaced₁, hplaced₂, hplaced₃⟩

/-- The items of a list have as many words as they are read from. -/
theorem count_items {items : List Expr} {parts : List (List Word × Expr)}
    (hparts : ∀ x ∈ parts, Phrase 0 x.1 x.2)
    (h : List.Forall₂ (Regroups BinaryOp.connectives) (parts.map Prod.snd) items) :
    List.Forall₂ (fun xs ys => Word.count xs = Word.count ys) (items.map Expr.words)
      (parts.map Prod.fst) := by
  induction parts generalizing items with
  | nil =>
    obtain rfl := List.forall₂_nil_left_iff.1 h
    exact .nil
  | cons part parts ih =>
    obtain _ | ⟨hx, hrest⟩ := h
    rw [List.forall_mem_cons] at hparts
    exact .cons (by rw [hparts.1.count_eq, hx.count_eq]) (ih hparts.2 hrest)

/-- The items of a list, as they are read one by one. -/
theorem items {items : List Expr} (hitems : ∀ x ∈ items, x.PlacedIfRead)
    {parts : List (List Word × Expr)} (hwords : items.map Expr.words = parts.map Prod.fst)
    (hparts : ∀ x ∈ parts, Phrase 0 x.1 x.2)
    (h : List.Forall₂ (Regroups BinaryOp.connectives) (parts.map Prod.snd) items) :
    ∀ x ∈ items, x.Placed := by
  induction parts generalizing items with
  | nil =>
    obtain rfl := List.forall₂_nil_left_iff.1 h
    simp
  | cons part parts ih =>
    obtain _ | ⟨hx, hrest⟩ := h
    rw [List.forall_mem_cons] at hitems hparts ⊢
    obtain ⟨hfirst, hwords⟩ := List.cons.inj hwords
    exact ⟨(hitems.1 0 part.2 (hfirst ▸ hparts.1) hx).1, ih hitems.2 hwords hparts.2 hrest⟩

theorem isIn {items : List Expr} (he : e.PlacedIfRead) (hitems : ∀ x ∈ items, x.PlacedIfRead)
    (hbalanced : Word.Balanced e.words) (negated : Bool) :
    (Expr.isIn e items negated).PlacedIfRead := by
  intro n q h hq
  obtain ⟨hhead, hparts⟩ := hq.parts
  rw [words, wordLists_eq_map] at h
  obtain ⟨hstrength, hbare⟩ := h.bare fun ys hys =>
    hbalanced.append_ne_parens e.words_ne_nil hys (by simp)
  refine ⟨?_, hq.strength_eq ▸ hstrength⟩
  cases q <;> simp only [head, reduceCtorEq, isIn.injEq, true_and] at hhead
  subst hhead
  obtain _ | ⟨hq', hlist⟩ := hparts
  obtain ⟨ys, parts, hwords, rfl, hphrases, hys⟩ := hbare
  have hcount : Word.count e.words = Word.count ys := by
    rw [hys.count_eq, hq'.count_eq]
  obtain ⟨rfl, htail⟩ := Word.append_inj_of_count (Word.outline_negation _ rfl _)
    (Word.outline_negation _ rfl _) hwords hcount
  have hcommas := List.append_cancel_right
    (List.cons.inj (List.cons.inj (List.append_cancel_left htail)).2).2
  have hitemWords := Word.commas_inj_of_count (count_items hphrases hlist) hcommas
  obtain ⟨hplaced, hlevel⟩ := he _ _ hys hq'
  refine placed_iff.2 ⟨hlevel, List.forall_mem_cons.2 ⟨hplaced, ?_⟩⟩
  exact PlacedIfRead.items hitems hitemWords hphrases hlist

theorem chain {op : BinaryOp} (hop : op ∈ BinaryOp.connectives)
    (hlogical : (Expr.binary a op b).IsLogical)
    (h : ∀ x ∈ (Expr.binary a op b).operands op, x.PlacedIfRead ∧ Word.Balanced x.words) :
    (Expr.binary a op b).PlacedIfRead := by
  intro n q hphrase hq
  have hwords := hlogical.words_operands hop false
  have hparens : (Expr.binary a op b).parensUnder op false = false := by
    simp [parensUnder]
  rw [hparens, Word.parensIf, if_neg Bool.false_ne_true] at hwords
  rw [hwords] at hphrase
  obtain ⟨hlevel, hreads⟩ :=
    reads_operands hop hphrase (fun x hx => (h x hx).2) (hq.symm.operands hop)
  have hchain : q.operator? = some op := hq.operator?_eq
  rw [if_pos hchain] at hreads
  have hoperands : ∀ x ∈ (Expr.binary a op b).operands op,
      x.Placed ∧ (x.parensUnder op false = false → op.level ≤ x.strength) := by
    intro x hx
    obtain ⟨y, hy, hread⟩ := hreads x hx
    exact (h x hx).1.parensIf (h x hx).2 hread hy
  exact ⟨(placed_of_operands hoperands).1, hlevel hchain⟩

end PlacedIfRead

/-- A logical formula is placed if it is read, and so is each operand of its chains. -/
theorem IsLogical.placedIfRead {e : Expr} (he : e.IsLogical) :
    e.PlacedIfRead ∧ ∀ op ∈ BinaryOp.connectives, ∀ x ∈ e.operands op,
      x.PlacedIfRead ∧ Word.Balanced x.words := by
  have hsingle {e : Expr} {op : BinaryOp} (he : e.IsLogical) (h : e.PlacedIfRead)
      (hne : e.operator? ≠ some op) : ∀ x ∈ e.operands op,
        x.PlacedIfRead ∧ Word.Balanced x.words := by
    rw [operands_of_ne hne, List.forall_mem_singleton]
    exact ⟨h, he.isFormula.balanced_words⟩
  have hlogical := he
  induction he with
  | atom he =>
    have h := PlacedIfRead.of_isAtom he
    exact ⟨h, fun op _ => hsingle hlogical h (by cases he <;> exact nofun)⟩
  | @binary a b ha op hop hb iha ihb =>
    obtain ⟨hplaced, hoperands⟩ := iha ha
    obtain ⟨hplaced', hoperands'⟩ := ihb hb
    by_cases hchain : op ∈ BinaryOp.connectives
    · have hall : ∀ x ∈ (Expr.binary a op b).operands op,
          x.PlacedIfRead ∧ Word.Balanced x.words := by
        rw [operands_binary]
        exact List.forall_mem_append.2 ⟨hoperands op hchain, hoperands' op hchain⟩
      have h := PlacedIfRead.chain hchain hlogical hall
      refine ⟨h, fun op' hop' => ?_⟩
      by_cases heq : op = op'
      · exact heq ▸ hall
      · exact hsingle hlogical h fun hsome => heq (Option.some.inj hsome)
    · have h := hplaced.compare hplaced' ha.isFormula.balanced_words hb.isFormula.balanced_words
        hchain
      exact ⟨h, fun op' hop' => hsingle hlogical h fun hsome =>
        hchain (Option.some.inj hsome ▸ hop')⟩
  | not he ih =>
    have h := (ih he).1.not he.isFormula.balanced_words
    exact ⟨h, fun op _ => hsingle hlogical h nofun⟩
  | isNull he negated ih =>
    have h := (ih he).1.isNull he.isFormula.balanced_words negated
    exact ⟨h, fun op _ => hsingle hlogical h nofun⟩
  | isIn he hne hitems negated ih ihs =>
    have h := (ih he).1.isIn (fun x hx => (ihs x hx (hitems x hx)).1) he.isFormula.balanced_words
      negated
    exact ⟨h, fun op _ => hsingle hlogical h nofun⟩
  | between he hlow hhigh negated ih ihlow ihhigh =>
    have h := (ih he).1.between (ihlow hlow).1 (ihhigh hhigh).1 he.isFormula.balanced_words negated
    exact ⟨h, fun op _ => hsingle hlogical h nofun⟩

/-! ## Reading text and binds -/

/-- The text and the binds of a logical formula are read in at most one way, and that is the formula
up to the grouping of `AND` chains and of `OR` chains exactly if the formula is placed. So two
placed formulas with the same text and the same binds are equal up to such grouping. -/
theorem logic_reads_iff_placed {d : Dialect} (hd : d.QuotesNames) :
    (∀ e : Expr, e.IsLogical → ∃ r, (e.render d).outcome = .ok r ∧
      (∀ q q', d.Parses r q → d.Parses r q' → q = q') ∧
      ((∃ q, d.Parses r q ∧ q.Regroups BinaryOp.connectives e) ↔ e.Placed)) ∧
    (∀ (e e' : Expr) (r : Rendering), e.IsLogical → e'.IsLogical → e.Placed → e'.Placed →
      (e.render d).outcome = .ok r → (e'.render d).outcome = .ok r →
        e.Regroups BinaryOp.connectives e') := by
  refine ⟨fun e he => ?_, fun e e' r he he' hplaced hplaced' hr hr' => ?_⟩
  · obtain ⟨r, hr, hwords⟩ := he.isFormula.words_render hd
    refine ⟨r, hr, fun q q' hq hq' => hq'.unique hq, ?_, fun hplaced => ?_⟩
    · rintro ⟨q, ⟨xs, hxs, hphrase⟩, hregroups⟩
      obtain rfl : e.words = xs := Option.some.inj (hwords.symm.trans hxs)
      exact (he.placedIfRead.1 0 q hphrase hregroups).1
    · have hphrase := (he.isFormula.isRead hplaced).phrase.weaken (Nat.zero_le _)
      exact ⟨e.asRead, ⟨e.words, hwords, hphrase⟩, he.asRead_regroups⟩
  · obtain ⟨s, hs, hwords⟩ := he.isFormula.words_render hd
    obtain ⟨s', hs', hwords'⟩ := he'.isFormula.words_render hd
    obtain rfl : r = s := Except.ok.inj (hr.symm.trans hs)
    obtain rfl : r = s' := Except.ok.inj (hr'.symm.trans hs')
    exact he.regroups_of_words_eq he' hplaced hplaced' (Option.some.inj (hwords.symm.trans hwords'))

/-- Two groupings of a chain, with a formula under a comparison and one under `NOT`. -/
theorem logic_reads_chain :
    let null : Expr := .isNull (.column none "b") false
    let same : Expr := .binary (.column none "a") .eq null
    let range : Expr := .between (.column none "c") (.bind (.int 1)) (.bind (.int 2)) true
    let neither : Expr := .unary .not (.binary null .or range)
    let left : Expr := .binary (.binary same .and range) .and neither
    let right : Expr := .binary same .and (.binary range .and neither)
    Dialect.postgres.QuotesNames ∧ left.IsLogical ∧ right.IsLogical ∧ left.Placed ∧ right.Placed ∧
      ∃ r, (left.render .postgres).outcome = .ok r ∧ (right.render .postgres).outcome = .ok r ∧
        (∃ q, Dialect.postgres.Parses r q ∧ q.Regroups BinaryOp.connectives right) ∧
        left.Regroups BinaryOp.connectives right := by
  intro null same range neither left right
  have hcolumn (n : String) : (Expr.column none n).IsAtom := .column none n
  have hnull : null.IsLogical := .isNull (.atom (hcolumn "b")) false
  have hsame : same.IsLogical := .binary (.atom (hcolumn "a")) (by decide) hnull
  have hrange : range.IsLogical :=
    .between (.atom (hcolumn "c")) (.atom (.bind _)) (.atom (.bind _)) true
  have hneither : neither.IsLogical := .not (.binary hnull (by decide) hrange)
  have hleft : left.IsLogical := .binary (.binary hsame (by decide) hrange) (by decide) hneither
  have hright : right.IsLogical := .binary hsame (by decide) (.binary hrange (by decide) hneither)
  have hnull' : null.Placed := placed_isNull.2 ⟨by decide, (hcolumn "b").placed⟩
  have hsame' : same.Placed := (hcolumn "a").placed.binary hnull' (by decide) (by decide)
  have hrange' : range.Placed := placed_between.2
    ⟨(by decide : 6 ≤ 20 ∧ 6 < 20 ∧ 6 < 20), (hcolumn "c").placed, (IsAtom.bind _).placed,
      (IsAtom.bind _).placed⟩
  have hneither' : neither.Placed := placed_not.2 (hnull'.binary hrange' (by decide) (by decide))
  have hleft' : left.Placed :=
    (hsame'.binary hrange' (by decide) (by decide)).binary hneither' (by decide) (by decide)
  have hright' : right.Placed :=
    hsame'.binary (hrange'.binary hneither' (by decide) (by decide)) (by decide) (by decide)
  obtain ⟨hreads, hsame⟩ := logic_reads_iff_placed (d := .postgres) (by decide)
  obtain ⟨r, hr, -, hreads⟩ := hreads right hright
  have hdraft : left.draft .postgres .expression = right.draft .postgres .expression := by
    simp [left, right, draft, parensUnder, BinaryOp.precedence, BinaryOp.isAssociative, same, range,
      neither, BinaryOp.comparisonPrecedence, Draft.parensIf, Draft.append_assoc]
  have hr' : (left.render .postgres).outcome = .ok r := by
    rw [render, hdraft]
    exact hr
  exact ⟨by decide, hleft, hright, hleft', hright', r, hr', hr, hreads.2 hright',
    hsame left right r hleft hright hleft' hright' hr' hr⟩

/-! ## Operands that are torn apart -/

/-- An `OR` under a test for null is read as an `OR` of which one side is tested. -/
theorem disjunction_under_test_misread :
    let a : Expr := .column none "a"
    let b : Expr := .column none "b"
    let tested : Expr := .isNull (.binary a .or b) false
    let torn : Expr := .binary a .or (.isNull b false)
    tested.IsLogical ∧ torn.IsLogical ∧
      ∃ r, (tested.render .postgres).outcome = .ok r ∧ (torn.render .postgres).outcome = .ok r ∧
        (∀ q, Dialect.postgres.Parses r q ↔ q = torn) ∧
        ¬ torn.Regroups BinaryOp.connectives tested := by
  intro a b tested torn
  have ha : a.IsLogical := .atom (.column none "a")
  have hb : b.IsLogical := .atom (.column none "b")
  have htested : tested.IsLogical := .isNull (.binary ha (by decide) hb) false
  have htorn : torn.IsLogical := .binary ha (by decide) (.isNull hb false)
  have hplaced : torn.Placed := by
    have hright : (Expr.isNull b false).Placed :=
      placed_isNull.2 ⟨by decide, (IsAtom.column none "b").placed⟩
    exact (IsAtom.column none "a").placed.binary hright (by decide) (by decide)
  obtain ⟨r, hr, hparses⟩ := htorn.isFormula.parses_iff (d := .postgres) (by decide) hplaced
  have hr' : (tested.render .postgres).outcome = .ok r := hr
  have hread : torn.asRead = torn := rfl
  refine ⟨htested, htorn, r, hr', hr, hread ▸ hparses, fun h => ?_⟩
  have htop : some BinaryOp.or = none := h.operator?_eq
  cases htop

end Expr

end PolySql
