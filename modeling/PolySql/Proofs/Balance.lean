import PolySql.Draft
import PolySql.Proofs.Scanning

/-!
# Drafts that keep their tokens apart

Between two names, literals or placeholders a statement has some text, and its parentheses are
balanced. Both are said of a draft by where it takes the writer from and to; what a draft says
before it stops keeps to it too.

* `Token.Opens` : text that opens and closes parentheses;
* `Draft.Moves` : where a draft takes the writer;
* `Draft.Moves.append` and its kin : one draft after the other.
-/

namespace PolySql

open Text Token

/-- Some plain text, which opens and closes parentheses. -/
def Token.Opens (text : String) (p q : Nat) : Prop :=
  text ≠ "" ∧ text.toList.all isPlain = true ∧ nesting p text.toList = some q

instance (text : String) (p q : Nat) : Decidable (Opens text p q) := by
  unfold Opens
  infer_instance

/-- A standing as another one describes it, between so many more parentheses. -/
structure Token.Standing.Within (k : Nat) (s t : Standing) : Prop where
  afterAtom : s.afterAtom = true → t.afterAtom = true
  depth : s.depth = t.depth + k

namespace Draft

/-- A draft takes the writer from the first standing to the second, between any parentheses around;
if it stops, it has at least kept the tokens apart. -/
def Moves (a : Draft) (t t' : Standing) : Prop :=
  ∀ (k : Nat) (s : Standing), s.Within k t →
    ∃ s', a.tokens.foldlM stand s = some s' ∧ (a.fault = none → s'.Within k t')

variable {a b : Draft} {t t' t'' : Standing} {p q : Nat} {w v : String}

/-! ## Single pieces -/

theorem moves_empty : empty.Moves t t := fun _ s hs => ⟨s, rfl, fun _ => hs⟩

theorem moves_note (e : Event) : (note e).Moves t t := fun _ s hs => ⟨s, rfl, fun _ => hs⟩

/-- A fault takes the writer anywhere. -/
theorem moves_fail (e : Fault) : (fail e).Moves t t' :=
  fun _ s _ => ⟨s, rfl, fun h => by simp at h⟩

theorem moves_require (condition : Bool) (e : Fault) : (require condition e).Moves t t := by
  cases condition
  · exact moves_fail e
  · exact moves_empty

theorem moves_sql (h : Opens w p q) (after : Bool) : (sql w).Moves ⟨after, p⟩ ⟨false, q⟩ := by
  intro k s hs
  obtain ⟨hne, hplain, hnesting⟩ := h
  have hdepth : nesting s.depth w.toList = some (q + k) := by
    rw [hs.depth]
    exact nesting_add hnesting k
  have hempty : w.isEmpty = false := by
    simpa using hne
  refine ⟨⟨false, q + k⟩, ?_, fun _ => ⟨by simp, rfl⟩⟩
  simp [sql, stand, hplain, hdepth, hempty]

/-- A word may be empty. -/
theorem moves_word (h : ∀ c ∈ w.toList, isWord c = true) : (sql w).Moves t t := by
  intro k s hs
  have hplain : w.toList.all isPlain = true :=
    List.all_eq_true.2 fun c hc => isPlain_of_isWord (h c hc)
  have hdepth : nesting s.depth w.toList = some s.depth :=
    nesting_of_isNumeral (fun c hc => isNumeral_of_isWord (h c hc)) s.depth
  refine ⟨⟨s.afterAtom && w.isEmpty, s.depth⟩, ?_, fun _ => ⟨fun h => ?_, hs.depth⟩⟩
  · simp [sql, stand, hplain, hdepth]
  · exact hs.afterAtom (Bool.and_eq_true_iff.1 h).1

theorem moves_atom {x : Token} (h : ∀ text, x ≠ .sql text) (hx : a.tokens = [x]) :
    a.Moves ⟨false, p⟩ ⟨true, p⟩ := by
  intro k s hs
  have hafter : s.afterAtom = false := by
    simpa using hs.afterAtom
  refine ⟨⟨true, s.depth⟩, ?_, fun _ => ⟨fun _ => rfl, hs.depth⟩⟩
  rw [hx]
  cases x with
  | sql text => exact absurd rfl (h text)
  | _ => simp [stand, hafter]

theorem moves_name (n : String) : (name n).Moves ⟨false, p⟩ ⟨true, p⟩ :=
  moves_atom (x := .name n) (by simp) rfl

theorem moves_literal (l : Literal) : (literal l).Moves ⟨false, p⟩ ⟨true, p⟩ :=
  moves_atom (x := .literal l) (by simp) rfl

theorem moves_bind (v : Value) : (bind v).Moves ⟨false, p⟩ ⟨true, p⟩ :=
  moves_atom (x := .bind v) (by simp) rfl

/-! ## One after the other -/

theorem Moves.append (ha : a.Moves t t') (hb : b.Moves t' t'') : (a ++ b).Moves t t'' := by
  intro k s hs
  obtain ⟨s₁, h₁, h₁'⟩ := ha k s hs
  cases hf : a.fault with
  | some e =>
    rw [append_of_fault hf]
    exact ⟨s₁, h₁, fun h => by simp [hf] at h⟩
  | none =>
    obtain ⟨s₂, h₂, h₂'⟩ := hb k s₁ (h₁' hf)
    rw [tokens_append hf, fault_append, hf]
    exact ⟨s₂, by simp [h₁, h₂], h₂'⟩

theorem Moves.inner {after after' : Bool} (h : a.Moves ⟨after, p⟩ ⟨after', q⟩) (k : Nat) :
    a.Moves ⟨after, p + k⟩ ⟨after', q + k⟩ := by
  intro j s hs
  obtain ⟨s', h₁, h₂⟩ := h (k + j) s ⟨hs.afterAtom, by rw [hs.depth, Nat.add_assoc]⟩
  exact ⟨s', h₁, fun hf => ⟨(h₂ hf).afterAtom, by rw [(h₂ hf).depth, Nat.add_assoc]⟩⟩

/-- What may follow an atom may also follow text. -/
theorem Moves.of_after (h : a.Moves ⟨true, p⟩ t) : a.Moves ⟨false, p⟩ t := fun k s hs =>
  h k s ⟨fun _ => rfl, hs.depth⟩

/-- Whatever a draft ends with, it may be taken for an atom. -/
theorem Moves.to_after {after : Bool} (h : a.Moves t ⟨after, q⟩) : a.Moves t ⟨true, q⟩ := by
  intro k s hs
  obtain ⟨s', h₁, h₂⟩ := h k s hs
  exact ⟨s', h₁, fun hf => ⟨fun _ => rfl, (h₂ hf).depth⟩⟩

theorem Moves.append_sql {after : Bool} (ha : a.Moves t ⟨after, p⟩) (h : Opens w p q) :
    (a ++ sql w).Moves t ⟨false, q⟩ :=
  ha.append (moves_sql h after)

theorem Moves.only (ha : a.Moves t t) (condition : Bool) : (only condition a).Moves t t := by
  cases condition
  · exact moves_empty
  · exact ha

/-! ## Terms and tails -/

/-- An expression: it follows text, and text follows it. -/
abbrev IsTerm (a : Draft) : Prop := a.Moves ⟨false, 0⟩ ⟨true, 0⟩

/-- A clause: it starts with text, if it is there at all. -/
abbrev IsTail (a : Draft) : Prop := a.Moves ⟨true, 0⟩ ⟨true, 0⟩

theorem IsTerm.parens (ha : a.IsTerm) (after : Bool) : (parens a).Moves ⟨after, 0⟩ ⟨false, 0⟩ :=
  ((moves_sql (by decide) after).append (ha.inner 1)).append_sql (by decide)

theorem IsTerm.parensIf (ha : a.IsTerm) (condition : Bool) : (parensIf condition a).IsTerm := by
  cases condition
  · exact ha
  · exact (ha.parens false).to_after

theorem IsTerm.qualified (ha : a.IsTerm) (table : Option String) : (qualified table a).IsTerm := by
  cases table with
  | none => exact ha
  | some n => exact ((moves_name n).append_sql (by decide)).append ha

theorem IsTerm.led (ha : a.IsTerm) (h : Opens w 0 0) : (sql w ++ a).IsTail :=
  (moves_sql h true).append ha

section Lists
variable {α : Type} {f : α → Draft}

theorem moves_all (xs : List α) (h : ∀ x ∈ xs, (f x).Moves t t) : (all (xs.map f)).Moves t t := by
  induction xs with
  | nil => exact moves_empty
  | cons x xs ih =>
    rw [List.forall_mem_cons] at h
    exact h.1.append (ih h.2)

theorem isTerm_joined (xs : List α) (h : ∀ x ∈ xs, (f x).IsTerm) :
    (joined ", " (xs.map f)).IsTerm := by
  induction xs with
  | nil => exact moves_empty.to_after
  | cons x xs ih =>
    rw [List.forall_mem_cons] at h
    cases xs with
    | nil => simpa [joined] using h.1
    | cons y ys => exact h.1.append ((ih h.2).led (by decide))

theorem isTail_clause (xs : List α) (ho : Opens w 0 0) (h : ∀ x ∈ xs, (f x).IsTerm) :
    (clause w (xs.map f)).IsTail := by
  cases xs with
  | nil => exact moves_empty
  | cons x xs => exact (isTerm_joined (x :: xs) h).led ho

theorem isTail_led (x : Option α) (ho : Opens w 0 0) (h : ∀ y ∈ x.toList, (f y).IsTerm) :
    (led w (x.map f)).IsTail := by
  cases x with
  | none => exact moves_empty
  | some y => exact (h y (by simp)).led ho

end Lists

theorem isTerm_names (ns : List String) : (names ns).IsTerm :=
  isTerm_joined ns fun n _ => moves_name n

theorem moves_parens_names (ns : List String) (h : Opens w 0 1) (h' : Opens v 1 0)
    (after : Bool) : (sql w ++ names ns ++ sql v).Moves ⟨after, 0⟩ ⟨false, 0⟩ :=
  ((moves_sql h after).append ((isTerm_names ns).inner 1)).append_sql h'

theorem isTerm_number (n : Nat) : (number n).IsTerm :=
  Moves.to_after <| moves_word (t := ⟨false, 0⟩) fun c hc =>
    isWord_of_isDigit (Digits.ofNat_isDigit n c (by simpa using hc))

end Draft

end PolySql
