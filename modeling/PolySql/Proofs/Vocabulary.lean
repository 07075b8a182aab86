import PolySql.Proofs.Lexemes

/-!
# Readers of lexemes

A reader makes of a column, and of a placeholder with its bind, an atom; of any other lexeme it
makes the symbols that it has for it. What a draft says to a reader is said wherever the draft
stands, if what follows is not glued to it, and drafts in a row say what each of them says.

* `Vocabulary`, `Vocabulary.itemsFrom` : a reader, and what it makes of lexemes;
* `Vocabulary.Spoken` : text that says symbols;
* `Draft.Utters` : what a draft says;
* `Draft.Utters.append` : drafts in a row.
-/

namespace PolySql

open Text Lexeme

/-- What a reader makes of lexemes: atoms, and symbols of its own. -/
structure Vocabulary (σ ι : Type) where
  atom : Expr → ι
  symbol : σ → ι
  /-- The symbols of a lexeme that is neither a column nor a placeholder. -/
  symbols? : Lexeme → Option (List σ)

namespace Vocabulary

variable {σ ι : Type} (v : Vocabulary σ ι)

/-- The items of one lexeme, and the number of placeholders up to it. -/
def read (binds : List Value) (next : Nat) (l : Lexeme) : Option (List ι × Nat) :=
  match l with
  | .column table n => some ([v.atom (.column table n)], next)
  | l =>
    match l.placeholder? next with
    | some 0 => none
    | some (k + 1) => binds[k]?.map fun b => ([v.atom (.bind b)], next + 1)
    | none => (v.symbols? l).map fun xs => (xs.map v.symbol, next)

/-- The items of lexemes, if each of them has items. -/
def itemsFrom (binds : List Value) (next : Nat) : List Lexeme → Option (List ι)
  | [] => some []
  | l :: ls => (v.read binds next l).bind fun (xs, next') =>
    (itemsFrom binds next' ls).map (xs ++ ·)

/-- The symbols of a lexeme; columns and placeholders have none. -/
def symbolsOf (l : Lexeme) : Option (List σ) :=
  match l with
  | .column .. => none
  | l => if (l.placeholder? 0).isSome then none else v.symbols? l

/-- The symbols of lexemes among which there are no columns and no placeholders. -/
def symbolsFrom : List Lexeme → Option (List σ)
  | [] => some []
  | l :: ls => (v.symbolsOf l).bind fun xs => (symbolsFrom ls).map (xs ++ ·)

theorem placeholder?_eq_none {l : Lexeme} (h : l.placeholder? 0 = none) (next : Nat) :
    l.placeholder? next = none := by
  cases l with
  | mark c => simpa [placeholder?] using h
  | word cs => cases cs <;> exact h
  | _ => rfl

theorem read_of_symbolsOf {l : Lexeme} {xs : List σ} (h : v.symbolsOf l = some xs)
    (binds : List Value) (next : Nat) : v.read binds next l = some (xs.map v.symbol, next) := by
  unfold symbolsOf at h
  unfold read
  split at h
  · cases h
  · split_ifs at h with hplaceholder
    rw [Option.not_isSome_iff_eq_none] at hplaceholder
    simp [placeholder?_eq_none hplaceholder next, h]

theorem itemsFrom_append {ls : List Lexeme} {xs : List σ} (h : v.symbolsFrom ls = some xs)
    (binds : List Value) (next : Nat) (rest : List Lexeme) :
    v.itemsFrom binds next (ls ++ rest) =
      (v.itemsFrom binds next rest).map (xs.map v.symbol ++ ·) := by
  induction ls generalizing xs with
  | nil =>
    cases h
    simp
  | cons l ls ih =>
    obtain ⟨ys, hys, hrest⟩ := Option.bind_eq_some_iff.1 h
    obtain ⟨zs, hzs, rfl⟩ := Option.map_eq_some_iff.1 hrest
    rw [List.cons_append, itemsFrom, v.read_of_symbolsOf hys, Option.bind_some]
    simp [ih hzs, Function.comp_def]

/-- Text that says symbols; whether it must be kept apart from what follows, and whether it is apart
from what stands in front. -/
def Spoken (w : String) (needs gives : Bool) (xs : List σ) : Prop :=
  (endsApart w.toList || needs) = true ∧
    (gives = true → ofMarks (w.toList.map .code) ≠ [] ∧
      clear (ofMarks (w.toList.map .code)) = true) ∧
    v.symbolsFrom (ofMarks (w.toList.map .code)) = some xs

instance [DecidableEq σ] (w : String) (needs gives : Bool) (xs : List σ) :
    Decidable (v.Spoken w needs gives xs) := by
  unfold Spoken
  infer_instance

end Vocabulary

theorem Token.marks_append (d : Dialect) (count : Nat) (ts us : List Token) :
    marks d count (ts ++ us) = marks d count ts ++ marks d (count + (binds ts).length) us := by
  induction ts generalizing count with
  | nil => rfl
  | cons t ts ih =>
    have hcount : (binds (t :: ts)).length = t.bindCount + (binds ts).length := by
      cases t <;> simp [binds, bindCount, Nat.add_comm]
    rw [List.cons_append, marks, marks, ih, hcount, Nat.add_assoc]
    simp only [List.append_assoc]

namespace Draft

variable {σ ι : Type} {v : Vocabulary σ ι}

/-- A draft says these items to a reader, wherever it stands. -/
def Utters (v : Vocabulary σ ι) (d : Dialect) (a : Draft) (needs gives : Bool) (xs : List ι) :
    Prop :=
  a.fault = none ∧ ∀ (before later : List Value) (rest : List Lexeme),
    (needs = true → clear rest = true) →
      let binds := before ++ (Token.binds a.tokens ++ later)
      let lexemes := (Token.marks d before.length a.tokens).foldr glue rest
      (gives = true → clear lexemes = true) ∧
        v.itemsFrom binds before.length lexemes =
          (v.itemsFrom binds (before ++ Token.binds a.tokens).length rest).map (xs ++ ·)

variable {d : Dialect} {a b : Draft} {n n' g g' : Bool} {xs ys : List ι}

/-- What may be followed by anything may also be kept apart. -/
theorem Utters.weaken (h : a.Utters v d n g xs) : a.Utters v d true false xs :=
  ⟨h.1, fun before later rest hrest => ⟨by simp, (h.2 before later rest fun _ => hrest rfl).2⟩⟩

theorem Utters.append (ha : a.Utters v d n g xs) (hb : b.Utters v d n' g' ys)
    (h : n = true → g' = true) : (a ++ b).Utters v d n' g (xs ++ ys) := by
  refine ⟨by rw [fault_append, ha.1, hb.1]; rfl, fun before later rest hrest => ?_⟩
  obtain ⟨hclear, hitems⟩ := hb.2 (before ++ Token.binds a.tokens) later rest hrest
  obtain ⟨hclear', hitems'⟩ := ha.2 before (Token.binds b.tokens ++ later)
    ((Token.marks d (before ++ Token.binds a.tokens).length b.tokens).foldr glue rest)
    fun hn => hclear (h hn)
  have hmarks : (Token.marks d before.length (a ++ b).tokens).foldr glue rest =
      (Token.marks d before.length a.tokens).foldr glue
        ((Token.marks d (before ++ Token.binds a.tokens).length b.tokens).foldr glue rest) := by
    rw [tokens_append ha.1, Token.marks_append, List.foldr_append, List.length_append]
  have hbinds : Token.binds (a ++ b).tokens = Token.binds a.tokens ++ Token.binds b.tokens := by
    rw [tokens_append ha.1, Token.binds_append]
  simp only [hmarks, hbinds]
  refine ⟨hclear', ?_⟩
  simp only [List.append_assoc] at hitems hitems' ⊢
  rw [hitems', hitems]
  simp [Function.comp_def]

/-- Nothing says nothing. -/
theorem utters_empty : empty.Utters v d true true [] :=
  ⟨rfl, fun before later rest hrest =>
    ⟨fun _ => hrest rfl, by simp [empty, Token.marks, Token.binds]⟩⟩

theorem utters_sql {w : String} {n g : Bool} {ss : List σ} (h : v.Spoken w n g ss) :
    (sql w).Utters v d n g (ss.map v.symbol) := by
  obtain ⟨hends, hclear, hsymbols⟩ := h
  refine ⟨rfl, fun before later rest hrest => ?_⟩
  have hapart : endsApart w.toList = true ∨ clear rest = true := by
    rcases Bool.or_eq_true_iff.1 hends with h | h
    · exact .inl h
    · exact .inr (hrest h)
  have hglue : (Token.marks d before.length (sql w).tokens).foldr glue rest =
      ofMarks (w.toList.map .code) ++ rest := by
    rw [← foldr_glue_code hapart]
    simp [sql, Token.marks, Token.mark?, Token.outside]
  simp only [hglue]
  refine ⟨fun hg => ?_, ?_⟩
  · obtain ⟨hne, hclear⟩ := hclear hg
    obtain ⟨l, ls, hls⟩ := List.exists_cons_of_ne_nil hne
    rw [hls] at hclear ⊢
    cases l <;> first | rfl | cases hclear
  · rw [v.itemsFrom_append hsymbols]
    simp [sql, Token.binds]

/-! ## Atoms -/

theorem glue_name_of_clear {rest : List Lexeme} (h : clear rest = true) (m : String) :
    glue (.name m) rest = .column none m :: rest := by
  rcases rest with _ | ⟨l, rest⟩
  · rfl
  · cases l <;> first | rfl | cases h

theorem utters_column (table : Option String) (m : String) :
    (qualified table (name m)).Utters v d true false [v.atom (.column table m)] := by
  refine ⟨by simp, fun before later rest hrest => ⟨by simp, ?_⟩⟩
  have hglue : (Token.marks d before.length (qualified table (name m)).tokens).foldr glue rest =
      .column table m :: rest := by
    cases table with
    | none => exact glue_name_of_clear (hrest rfl) m
    | some t =>
      show glue (.name t) (glueCode '.' (glue (.name m) rest)) = _
      rw [glue_name_of_clear (hrest rfl)]
      rfl
  have hbinds : Token.binds (qualified table (name m)).tokens = [] := by
    cases table <;> rfl
  simp only [hglue, hbinds, List.append_nil, Vocabulary.itemsFrom, Vocabulary.read,
    Option.bind_some]

theorem isInWord_of_isDigit {c : Char} (h : c.isDigit = true) : isInWord c = true := by
  simp [isInWord, isWord_of_isDigit h]

theorem ofMarks_word (c : Char) (cs : List Char) (hc : isInWord c = true)
    (hcs : ∀ c ∈ cs, isInWord c = true) : ofMarks ((c :: cs).map .code) = [.word (c :: cs)] := by
  induction cs generalizing c with
  | nil => simp [ofMarks, glue, glueCode, hc]
  | cons c' cs ih =>
    rw [List.forall_mem_cons] at hcs
    have htail : ofMarks ((c' :: cs).map .code) = [.word (c' :: cs)] := ih c' hcs.1 hcs.2
    show glueCode c (ofMarks ((c' :: cs).map .code)) = _
    rw [htail, glueCode, if_pos hc]

/-- A placeholder is one lexeme, the number of its bind. -/
theorem ofMarks_placeholder (d : Dialect) (number : Nat) :
    ∃ l : Lexeme, ofMarks ((d.placeholder number).map .code) = [l] ∧
      (∀ next, next + 1 = number → l.placeholder? next = some number) ∧
      ∀ table c, l ≠ .column table c := by
  unfold Dialect.placeholder
  cases d.placeholderStyle with
  | question => exact ⟨.mark '?', rfl, fun next h => by simp [placeholder?, h], by simp⟩
  | dollar =>
    have hdigits := Digits.ofNat_isDigit number
    have hword : ofMarks (('$' :: Digits.ofNat number).map .code) =
        [.word ('$' :: Digits.ofNat number)] :=
      ofMarks_word '$' (Digits.ofNat number) (by decide) fun c hc =>
        isInWord_of_isDigit (hdigits c hc)
    refine ⟨.word ('$' :: Digits.ofNat number), hword, fun next _ => ?_, by simp⟩
    have hall : (Digits.ofNat number).all Char.isDigit = true := List.all_eq_true.2 hdigits
    simp [placeholder?, hall, Digits.value_ofNat]

theorem utters_bind (b : Value) : (bind b).Utters v d true false [v.atom (.bind b)] := by
  refine ⟨rfl, fun before later rest hrest => ⟨by simp, ?_⟩⟩
  obtain ⟨l, hl, hnumber, hcolumn⟩ := ofMarks_placeholder d (before.length + 1)
  have hglue : (Token.marks d before.length (bind b).tokens).foldr glue rest = l :: rest := by
    have h : ((d.placeholder (before.length + 1)).map Mark.code).foldr glue rest = _ :=
      foldr_glue_code (.inr (hrest rfl))
    rw [hl] at h
    simpa [bind, Token.marks, Token.mark?, Token.outside] using h
  have hread : v.read (before ++ ([b] ++ later)) before.length l =
      some ([v.atom (.bind b)], before.length + 1) := by
    unfold Vocabulary.read
    cases l with
    | column table c => exact absurd rfl (hcolumn table c)
    | _ => simp [hnumber _ rfl]
  simp only [hglue]
  show v.itemsFrom (before ++ ([b] ++ later)) before.length (l :: rest) = _
  have hlength : (before ++ Token.binds (bind b).tokens).length = before.length + 1 :=
    List.length_append
  rw [Vocabulary.itemsFrom, hread, hlength]
  rfl

end Draft

end PolySql
