import Mathlib
import PolySql.Proofs.Chains

/-!
# Taking readings apart

Words that are read as an operation or a test have parentheses around the whole, or are those of the
operands with the signs between. Parentheses around the whole can be told from the beginning: no
part in front of an operator or a test is closed only at the end. And where the sign between two
operands stands is told by the number of words in front of it, parentheses apart, which regrouping
keeps.

* `Word.Balanced`, `Word.count` : parentheses, and how many other words there are;
* `Phrase.Bare`, `Phrase.parens_or_bare` : the two ways to read words as an expression;
* `Expr.operands`, `Expr.Regroups.parts` : what regrouping keeps of a chain and of a test.
-/

namespace PolySql

/-! ## Parentheses and other words -/

namespace Word

/-- The parenthesis that a word is, or a blank. -/
def outline : Word → Char
  | .sign .leftParen => '('
  | .sign .rightParen => ')'
  | _ => ' '

/-- The parentheses among the words are closed one by one. -/
def Balanced (xs : List Word) : Prop := Text.nesting 0 (xs.map outline) = some 0

/-- The number of words that are no parentheses. -/
def count (xs : List Word) : Nat := (xs.map outline).count ' '

theorem balanced_nil : Balanced [] := rfl

theorem Balanced.append {xs ys : List Word} (hxs : Balanced xs) (hys : Balanced ys) :
    Balanced (xs ++ ys) := by
  rw [Balanced, List.map_append, Text.nesting_append, hxs]
  exact hys

theorem Balanced.cons {xs : List Word} (hxs : Balanced xs) (w : Word) (hw : w.outline = ' ') :
    Balanced (w :: xs) := by
  rw [Balanced, List.map_cons, hw]
  exact hxs

theorem Balanced.parens {xs : List Word} (hxs : Balanced xs) :
    Balanced (.sign .leftParen :: (xs ++ [.sign .rightParen])) := by
  have hinner : Text.nesting 1 (xs.map outline) = some 1 := Text.nesting_add hxs 1
  show Text.nesting 1 ((xs ++ [Word.sign .rightParen]).map outline) = some 0
  rw [List.map_append, Text.nesting_append, hinner]
  rfl

theorem Balanced.parensIf {xs : List Word} (hxs : Balanced xs) (condition : Bool) :
    Balanced (parensIf condition xs) := by
  cases condition with
  | false => exact hxs
  | true => exact hxs.parens

theorem balanced_signs (op : BinaryOp) : Balanced (op.signs.map Word.sign) := by
  cases op <;> rfl

theorem balanced_negation (negated : Bool) :
    Balanced ((Sign.negation negated).map Word.sign) := by
  cases negated <;> rfl

theorem intercalate_cons_cons (s : Word) (xs ys : List Word) (xss : List (List Word)) :
    [s].intercalate (xs :: ys :: xss) = xs ++ s :: [s].intercalate (ys :: xss) := by
  simp

theorem balanced_intercalate {s : Word} (hs : s.outline = ' ') {xss : List (List Word)}
    (h : ∀ xs ∈ xss, Balanced xs) : Balanced ([s].intercalate xss) := by
  induction xss with
  | nil => exact balanced_nil
  | cons xs xss ih =>
    rw [List.forall_mem_cons] at h
    cases xss with
    | nil => simpa using h.1
    | cons ys xss =>
      rw [intercalate_cons_cons]
      exact h.1.append ((ih h.2).cons s hs)

/-! The words of operations and tests are balanced if those of their operands are. -/

theorem Balanced.binary {xs ys : List Word} (hxs : Balanced xs) (op : BinaryOp)
    (hys : Balanced ys) : Balanced (xs ++ (op.signs.map Word.sign ++ ys)) :=
  hxs.append ((balanced_signs op).append hys)

theorem Balanced.isNull {xs : List Word} (hxs : Balanced xs) (negated : Bool) :
    Balanced (xs ++ .sign .is :: ((Sign.negation negated).map .sign ++ [.sign .null])) := by
  have hnull : Balanced [.sign .null] := rfl
  exact hxs.append (((balanced_negation negated).append hnull).cons (.sign .is) rfl)

theorem Balanced.isIn {xs : List Word} (hxs : Balanced xs) (negated : Bool)
    {xss : List (List Word)} (h : ∀ ys ∈ xss, Balanced ys) :
    Balanced (xs ++ ((Sign.negation negated).map .sign ++ .sign .inList :: .sign .leftParen ::
      (commas xss ++ [.sign .rightParen]))) := by
  have hcommas : Balanced (commas xss) := balanced_intercalate rfl h
  have hlist := hcommas.parens.cons (.sign .inList) rfl
  exact hxs.append ((balanced_negation negated).append hlist)

theorem Balanced.between {xs ys zs : List Word} (hxs : Balanced xs) (negated : Bool)
    (hys : Balanced ys) (hzs : Balanced zs) :
    Balanced (xs ++ ((Sign.negation negated).map .sign ++ .sign .between ::
      (ys ++ .sign (.op .and) :: zs))) := by
  have hbounds := (hys.append (hzs.cons (.sign (.op .and)) rfl)).cons (.sign .between) rfl
  exact hxs.append ((balanced_negation negated).append hbounds)

/-- What is closed before the end has no parentheses around the whole. -/
theorem Balanced.append_ne_parens {xs ys zs : List Word} (hxs : Balanced xs) (hne : xs ≠ [])
    (hys : Balanced ys) (hzs : zs ≠ []) :
    xs ++ zs ≠ .sign .leftParen :: (ys ++ [.sign .rightParen]) := by
  intro h
  obtain ⟨x, xs, rfl⟩ := List.exists_cons_of_ne_nil hne
  rw [List.cons_append, List.cons.injEq] at h
  obtain ⟨rfl, h⟩ := h
  have hprefix : xs <+: ys := by
    obtain ⟨zs, z, rfl⟩ := List.eq_nil_or_concat zs |>.resolve_left hzs
    rw [List.concat_eq_append, ← List.append_assoc] at h
    exact ⟨zs, (List.append_inj' h rfl).1⟩
  obtain ⟨ys, rfl⟩ := hprefix
  rw [Balanced, List.map_append, Text.nesting_append] at hys
  obtain ⟨m, hm, -⟩ := Option.bind_eq_some_iff.1 hys
  -- Inside the outer parenthesis the depth stays above zero.
  have hinner : Text.nesting 1 (xs.map outline) = some (m + 1) := by
    simpa [Nat.add_comm] using Text.nesting_add hm 1
  have houter : Text.nesting 1 (xs.map outline) = some 0 := hxs
  rw [hinner] at houter
  cases houter

@[simp] theorem count_nil : count [] = 0 := rfl

@[simp] theorem count_append (xs ys : List Word) : count (xs ++ ys) = count xs + count ys := by
  simp [count]

@[simp] theorem count_cons_atom (e : Expr) (xs : List Word) :
    count (.atom e :: xs) = count xs + 1 := by
  simp [count, outline]

theorem count_cons {w : Word} (hw : w.outline = ' ') (xs : List Word) :
    count (w :: xs) = count xs + 1 := by
  simp [count, hw]

@[simp] theorem count_parens (xs : List Word) :
    count (.sign .leftParen :: (xs ++ [.sign .rightParen])) = count xs := by
  simp [count, outline]

@[simp] theorem count_parensIf (condition : Bool) (xs : List Word) :
    count (parensIf condition xs) = count xs := by
  cases condition with
  | false => rfl
  | true => exact count_parens xs

/-- Words between signs are counted apart. -/
theorem count_intercalate {s : Word} (hs : s.outline = ' ') (xss : List (List Word)) :
    count ([s].intercalate xss) = (xss.map count).sum + (xss.length - 1) := by
  induction xss with
  | nil => simp
  | cons xs xss ih =>
    cases xss with
    | nil => simp
    | cons ys xss =>
      rw [intercalate_cons_cons, count_append, count_cons hs, ih]
      simp only [List.map_cons, List.sum_cons, List.length_cons]
      omega

theorem count_commas_congr {α : Type} {f g : α → List Word} {xs : List α}
    (h : ∀ x ∈ xs, count (f x) = count (g x)) :
    count (commas (xs.map f)) = count (commas (xs.map g)) := by
  rw [commas, commas, count_intercalate rfl, count_intercalate rfl]
  have hcounts : (xs.map f).map count = (xs.map g).map count := by
    simpa using h
  rw [hcounts, List.length_map, List.length_map]

theorem outline_signs (op : BinaryOp) (ys : List Word) :
    (op.signs.map Word.sign ++ ys).head?.map outline = some ' ' := by
  cases op <;> rfl

theorem outline_negation (negated : Bool) {w : Word} (hw : w.outline = ' ') (ys : List Word) :
    ((Sign.negation negated).map Word.sign ++ w :: ys).head?.map outline = some ' ' := by
  cases negated with
  | false => exact congrArg some hw
  | true => rfl

/-- Where words go on with another word than a parenthesis is told by the words in front of it,
parentheses apart. -/
theorem append_inj_of_count {xs xs' ys ys' : List Word} (hys : ys.head?.map outline = some ' ')
    (hys' : ys'.head?.map outline = some ' ') (h : xs ++ ys = xs' ++ ys')
    (hcount : count xs = count xs') : xs = xs' ∧ ys = ys' := by
  have hnil {zs us : List Word} (hhead : (zs ++ us).head?.map outline = some ' ')
      (hcount : count zs = 0) : zs = [] := by
    cases zs with
    | nil => rfl
    | cons z zs =>
      have hz : z.outline = ' ' := by
        simpa using hhead
      rw [count_cons hz] at hcount
      cases hcount
  obtain ⟨zs, rfl, rfl⟩ | ⟨zs, rfl, rfl⟩ := List.append_eq_append_iff.1 h
  · rw [count_append] at hcount
    obtain rfl := hnil hys (by omega)
    simp
  · rw [count_append] at hcount
    obtain rfl := hnil hys' (by omega)
    simp

/-- Lists with as many words in each part are the same if they are the same with commas between. -/
theorem commas_inj_of_count {xss yss : List (List Word)}
    (h : List.Forall₂ (fun xs ys => count xs = count ys) xss yss)
    (heq : commas xss = commas yss) : xss = yss := by
  induction h with
  | nil => rfl
  | @cons xs ys xss yss hcount hrest ih =>
    cases hrest with
    | nil => simpa using heq
    | cons hcount' hrest =>
      rw [commas_cons_cons, commas_cons_cons] at heq
      obtain ⟨rfl, hcommas⟩ := append_inj_of_count rfl rfl heq hcount
      rw [ih (List.cons.inj hcommas).2]

end Word

/-! ## The two ways to read words as an expression -/

namespace Phrase

variable {n : Nat} {xs ys : List Word} {q : Expr}

theorem ne_nil (h : Phrase n xs q) : xs ≠ [] := by
  induction h with
  | weaken hp hle ih => exact ih
  | binary hp hq ihp => simp [ihp]
  | _ => simp

theorem balanced (h : Phrase n xs q) : Word.Balanced xs := by
  induction h with
  | atom ha => rfl
  | parens hp ih => exact ih.parens
  | weaken hp hle ih => exact ih
  | binary hp hq ihp ihq => exact ihp.binary _ ihq
  | not hp ih => exact ih.cons (.sign .not) rfl
  | isNull hp negated ih => exact ih.isNull negated
  | isIn hp hne hparts negated ih ihs => exact ih.isIn negated (List.forall_mem_map.2 ihs)
  | between hp hlow hhigh negated ih ihlow ihhigh => exact ih.between negated ihlow ihhigh

/-- Words that are read as an expression without parentheses around the whole. -/
def Bare (xs : List Word) : Expr → Prop
  | .binary p op q =>
    ∃ ys zs, xs = ys ++ (op.signs.map .sign ++ zs) ∧ Phrase op.level ys p ∧
      Phrase (op.level + 1) zs q
  | .unary .not p => ∃ ys, xs = .sign .not :: ys ∧ Phrase notLevel ys p
  | .isNull p negated =>
    ∃ ys, xs = ys ++ .sign .is :: ((Sign.negation negated).map .sign ++ [.sign .null]) ∧
      Phrase testLevel ys p
  | .isIn p items negated =>
    ∃ ys, ∃ parts : List (List Word × Expr),
      xs = ys ++ ((Sign.negation negated).map .sign ++ .sign .inList :: .sign .leftParen ::
        (Word.commas (parts.map Prod.fst) ++ [.sign .rightParen])) ∧
      parts.map Prod.snd = items ∧ (∀ x ∈ parts, Phrase 0 x.1 x.2) ∧ Phrase testLevel ys p
  | .between p low high negated =>
    ∃ ys zs us, xs = ys ++ ((Sign.negation negated).map .sign ++ .sign .between ::
        (zs ++ .sign (.op .and) :: us)) ∧
      Phrase testLevel ys p ∧ Phrase (testLevel + 1) zs low ∧ Phrase (testLevel + 1) us high
  | e => xs = [.atom e]

/-- What is read has parentheses around the whole, or binds as tightly as it has to. -/
theorem parens_or_bare (h : Phrase n xs q) :
    (∃ ys, xs = .sign .leftParen :: (ys ++ [.sign .rightParen]) ∧ Phrase 0 ys q) ∨
      n ≤ q.strength ∧ Bare xs q := by
  induction h with
  | atom ha =>
    refine .inr ⟨Nat.le_of_eq ha.strength_eq.symm, ?_⟩
    cases ha <;> rfl
  | parens hp ih => exact .inl ⟨_, rfl, hp⟩
  | weaken hp hle ih =>
    exact ih.imp_right fun ⟨hstrength, hbare⟩ => ⟨Nat.le_trans hle hstrength, hbare⟩
  | binary hp hq => exact .inr ⟨Nat.le_refl _, _, _, rfl, hp, hq⟩
  | not hp => exact .inr ⟨Nat.le_refl _, _, rfl, hp⟩
  | isNull hp negated => exact .inr ⟨Nat.le_refl _, _, rfl, hp⟩
  | isIn hp hne hparts negated => exact .inr ⟨Nat.le_refl _, _, _, rfl, rfl, hparts, hp⟩
  | between hp hlow hhigh negated => exact .inr ⟨Nat.le_refl _, _, _, _, rfl, hp, hlow, hhigh⟩

theorem Bare.ne_parens (h : Bare xs q) (hys : Word.Balanced ys) :
    xs ≠ .sign .leftParen :: (ys ++ [.sign .rightParen]) := by
  cases q with
  | binary p op q =>
    obtain ⟨zs, us, rfl, hp, -⟩ := h
    refine hp.balanced.append_ne_parens hp.ne_nil hys ?_
    cases op <;> simp [BinaryOp.signs]
  | unary op p =>
    cases op with
    | not =>
      obtain ⟨zs, rfl, -⟩ := h
      simp
    | neg =>
      obtain rfl := h
      simp
  | isNull p negated =>
    obtain ⟨zs, rfl, hp⟩ := h
    exact hp.balanced.append_ne_parens hp.ne_nil hys (by simp)
  | isIn p items negated =>
    obtain ⟨zs, parts, rfl, -, -, hp⟩ := h
    exact hp.balanced.append_ne_parens hp.ne_nil hys (by simp)
  | between p low high negated =>
    obtain ⟨zs, us, vs, rfl, hp, -⟩ := h
    exact hp.balanced.append_ne_parens hp.ne_nil hys (by simp)
  | _ =>
    obtain rfl := h
    simp

/-- Parentheses around the whole do not count. -/
theorem of_parens (h : Phrase n (.sign .leftParen :: (ys ++ [.sign .rightParen])) q)
    (hys : Word.Balanced ys) : Phrase 0 ys q := by
  obtain ⟨zs, heq, hphrase⟩ | ⟨-, hbare⟩ := h.parens_or_bare
  · obtain rfl : ys = zs := List.append_cancel_right (List.cons.inj heq).2
    exact hphrase
  · exact absurd rfl (hbare.ne_parens hys)

/-- Words that are no whole between parentheses are read without. -/
theorem bare (h : Phrase n xs q)
    (hxs : ∀ ys, Word.Balanced ys → xs ≠ .sign .leftParen :: (ys ++ [.sign .rightParen])) :
    n ≤ q.strength ∧ Bare xs q := by
  obtain ⟨ys, rfl, hphrase⟩ | hbare := h.parens_or_bare
  · exact absurd rfl (hxs ys hphrase.balanced)
  · exact hbare

/-- A reading has as many words as its text. -/
theorem count_eq (h : Phrase n xs q) : Word.count xs = Word.count q.words := by
  induction h with
  | atom ha => rw [ha.words_eq]
  | parens hp ih => rw [Word.count_parens, ih]
  | weaken hp hle ih => exact ih
  | binary hp hq ihp ihq =>
    rw [Expr.words]
    simp only [Word.count_append, Word.count_parensIf, ihp, ihq]
  | not hp ih =>
    rw [Expr.words, Word.count_cons rfl, Word.count_cons rfl, Word.count_parensIf, ih]
  | isNull hp negated ih =>
    rw [Expr.words, Word.count_append, Word.count_append, ih]
  | isIn hp hne hparts negated ih ihs =>
    have hcommas := Word.count_commas_congr (g := fun x : List Word × Expr => x.2.words) ihs
    rw [Expr.words, Expr.wordLists_eq_map, List.map_map]
    simp only [Word.count_append, Word.count_cons (w := .sign .inList) rfl, Word.count_parens, ih]
    rw [hcommas]
    rfl
  | between hp hlow hhigh negated ih ihlow ihhigh =>
    rw [Expr.words]
    simp only [Word.count_append, Word.count_cons (w := .sign .between) rfl, ih, ihlow, ihhigh,
      Word.count_cons (w := .sign (.op .and)) rfl]

end Phrase

/-! ## What regrouping keeps -/

theorem forall₂_trans {α : Type} {R : α → α → Prop} (hR : ∀ x y z, R x y → R y z → R x z)
    {xs ys zs : List α} (h : List.Forall₂ R xs ys) (h' : List.Forall₂ R ys zs) :
    List.Forall₂ R xs zs := by
  induction h generalizing zs with
  | nil => exact h'
  | cons hxy hxys ih =>
    obtain _ | ⟨hyz, hyzs⟩ := h'
    exact .cons (hR _ _ _ hxy hyz) (ih hyzs)

namespace Expr

/-- The operands of a chain of one operator. -/
def operands (op : BinaryOp) : Expr → List Expr
  | .binary a o b => if o = op then operands op a ++ operands op b else [.binary a o b]
  | e => [e]

/-- An expression without its operands. -/
def head : Expr → Expr
  | .binary _ op _ => .binary .default op .default
  | .unary op _ => .unary op .default
  | .isNull _ negated => .isNull .default negated
  | .isIn _ _ negated => .isIn .default [] negated
  | .between _ _ _ negated => .between .default .default .default negated
  | e => e

/-- The operands of an expression; those of a chain that may be regrouped are taken together. -/
def parts (chains : List BinaryOp) : Expr → List Expr
  | .binary a op b => if op ∈ chains then operands op a ++ operands op b else [a, b]
  | e => e.children

variable {chains : List BinaryOp} {op : BinaryOp} {e e' : Expr}

theorem operator?_head (e : Expr) : e.head.operator? = e.operator? := by
  cases e <;> rfl

theorem strength_head (e : Expr) : e.head.strength = e.strength := by
  cases e with
  | unary op e => cases op <;> rfl
  | _ => rfl

theorem operands_of_ne (h : e.operator? ≠ some op) : e.operands op = [e] := by
  cases e with
  | binary a o b =>
    rw [operands, if_neg]
    rintro rfl
    exact h rfl
  | _ => rfl

theorem operands_binary (op : BinaryOp) (a b : Expr) :
    (Expr.binary a op b).operands op = a.operands op ++ b.operands op := by
  rw [operands, if_pos rfl]

/-- A chain is one operand, or has a chain on each side. -/
@[elab_as_elim]
theorem operands_induction (op : BinaryOp) {motive : Expr → Prop}
    (single : ∀ e, e.operator? ≠ some op → motive e)
    (chain : ∀ a b, motive a → motive b → motive (.binary a op b)) (e : Expr) : motive e := by
  induction e using operands.induct op with
  | case1 a b iha ihb => exact chain a b iha ihb
  | case2 a o b hne => exact single _ fun h => hne (Option.some.inj h)
  | case3 e h =>
    refine single e fun hchain => ?_
    cases e <;> first | exact absurd rfl (h _ _ _) | cases hchain

theorem operands_ne_nil (op : BinaryOp) (e : Expr) : e.operands op ≠ [] := by
  induction e using operands_induction op with
  | single e h => simp [operands_of_ne h]
  | chain a b iha ihb => simp [operands_binary, iha]

theorem operands_eq_parts (h : e.operator? = some op) (hop : op ∈ chains) :
    e.operands op = e.parts chains := by
  cases e with
  | binary a o b =>
    obtain rfl := Option.some.inj h
    rw [operands, parts, if_pos rfl, if_pos hop]
  | _ => cases h

namespace Regroups

theorem operands_of_parts (h : e.Regroups chains e') (hhead : e.head = e'.head)
    (hparts : List.Forall₂ (Regroups chains) (e.parts chains) (e'.parts chains))
    (hop : op ∈ chains) : List.Forall₂ (Regroups chains) (e.operands op) (e'.operands op) := by
  have hsame : e.operator? = e'.operator? := by
    rw [← operator?_head e, hhead, operator?_head]
  by_cases hchain : e.operator? = some op
  · rwa [operands_eq_parts hchain hop, operands_eq_parts (hsame ▸ hchain) hop]
  · rw [operands_of_ne hchain, operands_of_ne (hsame ▸ hchain)]
    exact .cons h .nil

/-- Regrouping keeps what is on top, and regroups the operands one by one. -/
theorem parts (h : e.Regroups chains e') :
    e.head = e'.head ∧ List.Forall₂ (Regroups chains) (e.parts chains) (e'.parts chains) := by
  have hsame (xs : List Expr) : List.Forall₂ (Regroups chains) xs xs :=
    List.forall₂_same.2 fun x _ => refl x
  induction h with
  | refl e => exact ⟨rfl, hsame _⟩
  | symm h ih => exact ⟨ih.1.symm, .flip (ih.2.imp fun _ _ h => h.symm)⟩
  | trans h h' ih ih' =>
    exact ⟨ih.1.trans ih'.1, forall₂_trans (fun _ _ _ h h' => h.trans h') ih.2 ih'.2⟩
  | assoc hop a b c =>
    refine ⟨rfl, ?_⟩
    simp only [Expr.parts, Expr.operands, if_pos hop, if_true, List.append_assoc]
    exact hsame _
  | binary ha op hb iha ihb =>
    refine ⟨rfl, ?_⟩
    by_cases hop : op ∈ chains
    · simp only [Expr.parts, if_pos hop]
      exact List.rel_append (ha.operands_of_parts iha.1 iha.2 hop)
        (hb.operands_of_parts ihb.1 ihb.2 hop)
    · simp only [Expr.parts, if_neg hop]
      exact .cons ha (.cons hb .nil)
  | unary op h => exact ⟨rfl, .cons h .nil⟩
  | isNull h negated => exact ⟨rfl, .cons h .nil⟩
  | isIn h items negated => exact ⟨rfl, .cons h (hsame items)⟩
  | item e before after h negated =>
    exact ⟨rfl, .cons (refl e) (List.rel_append (hsame before) (.cons h (hsame after)))⟩
  | between h hlow hhigh negated => exact ⟨rfl, .cons h (.cons hlow (.cons hhigh .nil))⟩

theorem strength_eq (h : e.Regroups chains e') : e.strength = e'.strength := by
  rw [← strength_head e, h.parts.1, strength_head]

theorem operator?_eq (h : e.Regroups chains e') : e.operator? = e'.operator? := by
  rw [← operator?_head e, h.parts.1, operator?_head]

theorem operands (h : e.Regroups chains e') (hop : op ∈ chains) :
    List.Forall₂ (Regroups chains) (e.operands op) (e'.operands op) :=
  h.operands_of_parts h.parts.1 h.parts.2 hop

theorem count_eq (h : e.Regroups chains e') : Word.count e.words = Word.count e'.words := by
  induction h with
  | refl e => rfl
  | symm h ih => exact ih.symm
  | trans h h' ih ih' => exact ih.trans ih'
  | assoc hop a b c =>
    simp only [words, Word.count_append, Word.count_parensIf, Nat.add_assoc]
  | binary ha op hb iha ihb =>
    simp only [words, Word.count_append, Word.count_parensIf, iha, ihb]
  | @unary op e e' h ih =>
    cases op with
    | not => simp only [words, Word.count_cons (w := .sign .not) rfl, Word.count_parensIf, ih]
    | neg => rfl
  | isNull h negated ih => simp only [words, Word.count_append, ih]
  | isIn h items negated ih => simp only [words, Word.count_append, ih]
  | @item e before after x x' h negated ih =>
    have hcommas : Word.count (Word.commas ((before ++ x :: after).map words)) =
        Word.count (Word.commas ((before ++ x' :: after).map words)) := by
      rw [Word.commas, Word.commas, Word.count_intercalate rfl, Word.count_intercalate rfl]
      simp [ih]
    simp only [words, wordLists_eq_map, Word.count_append, Word.count_cons (w := .sign .inList) rfl,
      Word.count_parens, hcommas]
  | between h hlow hhigh negated ih ihlow ihhigh =>
    simp only [words, Word.count_append, Word.count_cons (w := .sign .between) rfl,
      Word.count_cons (w := .sign (.op .and)) rfl, ih, ihlow, ihhigh]

end Regroups

end Expr

end PolySql
