import Mathlib.Data.List.TakeWhile
import PolySql.Proofs.TableMarks

/-!
# The reading of CREATE TABLE

The text of a bare CREATE TABLE tells the whole statement, but for the scale of a decimal number
without a precision, which the text leaves out. Each part is told apart from its left end: whatever
may stand behind a part, two texts that agree from its first mark on agree on the part and on what
stands behind it.

* `Mark.Apart`, `Mark.Begins` : words that no text can both begin with, and what a text begins with;
* `Mark.Tells` : a part is told in front of what may follow it;
* `Mark.tells_flatMap`, `Mark.tells_listed` : lists of parts;
* `DataType.tells`, `Reference.tells`, `ColumnDefinition.tells`, `TableConstraint.tells` : the parts
  of a table;
* `CreateTable.sql_eq_iff` : the main statement.
-/

namespace PolySql

namespace Mark

/-! ## Words in front -/

/-- Neither of the words starts with the other. -/
def Apart (v w : String) : Prop := ¬v.toList <+: w.toList ∧ ¬w.toList <+: v.toList

instance (v w : String) : Decidable (Apart v w) := by unfold Apart; infer_instance

/-- Marks that begin with one of the words. -/
def Begins (ws : List String) (ms : List Mark) : Prop := ∃ w ∈ ws, codes w <+: ms

variable {v w : String} {ws : List String} {ms ns : List Mark}

theorem isPrefix_of_codes (h : codes v <+: codes w) : v.toList <+: w.toList := by
  have hcodes := h.filterMap code?
  rwa [codes, codes, Token.filterMap_code?_code, Token.filterMap_code?_code] at hcodes

/-- No text begins with both of two words that are apart. -/
theorem Apart.codes_ne (h : Apart v w) (ms ns : List Mark) : codes v ++ ms ≠ codes w ++ ns := by
  intro heq
  have hw : codes w <+: codes v ++ ms := heq ▸ List.prefix_append _ _
  rcases List.prefix_or_prefix_of_prefix (List.prefix_append _ _) hw with hvw | hwv
  · exact h.1 (isPrefix_of_codes hvw)
  · exact h.2 (isPrefix_of_codes hwv)

/-- Words of which none starts with another one. -/
def AllApart (ws : List String) : Prop := ∀ v ∈ ws, ∀ w ∈ ws, v = w ∨ Apart v w

instance (ws : List String) : Decidable (AllApart ws) := by unfold AllApart; infer_instance

/-- Of words that are apart, a text tells the one that it begins with. -/
theorem AllApart.append_inj (h : AllApart ws) (hv : v ∈ ws) (hw : w ∈ ws)
    (heq : codes v ++ ms = codes w ++ ns) : v = w ∧ ms = ns := by
  rcases h v hv w hw with rfl | hapart
  · exact ⟨rfl, List.append_cancel_left heq⟩
  · exact absurd heq (hapart.codes_ne ms ns)

theorem begins_codes (hw : w ∈ ws) (ms : List Mark) : Begins ws (codes w ++ ms) :=
  ⟨w, hw, List.prefix_append _ _⟩

/-- What begins with a word begins with the start of the word. -/
theorem Begins.shorten {vs : List String} (h : Begins ws ms)
    (hvs : ∀ w ∈ ws, ∃ v ∈ vs, v.toList <+: w.toList) : Begins vs ms := by
  obtain ⟨w, hw, hms⟩ := h
  obtain ⟨v, hv, hvw⟩ := hvs w hw
  exact ⟨v, hv, (hvw.map code).trans hms⟩

theorem begins_comma (ms : List Mark) : Begins [",", ")"] (codes ", " ++ ms) :=
  (begins_codes (List.mem_singleton_self ", ") ms).shorten (by decide)

theorem Begins.ne_codes (h : Begins ws ms) (hv : ∀ w ∈ ws, Apart w v) (ns : List Mark) :
    ms ≠ codes v ++ ns := by
  obtain ⟨w, hw, ks, rfl⟩ := h
  exact (hv w hw).codes_ne ks ns

/-- A text that begins with a character outside quotes which is not of a kind. -/
theorem Begins.head_not {p : Char → Bool} (h : Begins ws ms)
    (hws : ∀ w ∈ ws, w.toList.head?.any (!p ·) = true) :
    ∃ c ns, ms = code c :: ns ∧ p c = false := by
  obtain ⟨w, hw, ks, rfl⟩ := h
  have hhead := hws w hw
  rw [codes]
  cases hcs : w.toList with
  | nil => simp [hcs] at hhead
  | cons c cs => exact ⟨c, cs.map code ++ ks, rfl, by simpa [hcs] using hhead⟩

theorem Begins.ne_name (h : Begins ws ms) (hws : "" ∉ ws) (n : String) (ns : List Mark) :
    ms ≠ name n :: ns := by
  obtain ⟨w, hw, ks, rfl⟩ := h
  have hne : w.toList ≠ [] := fun h => hws (String.toList_eq_nil_iff.1 h ▸ hw)
  obtain ⟨c, cs, hcs⟩ := List.exists_cons_of_ne_nil hne
  simp [codes, hcs]

/-! ## Parts that are told -/

section Tells

variable {α : Type} {valid : α → Prop} {f : α → List Mark} {follow follow' : List Mark → Prop}

/-- In front of what may follow it, a part tells what it is and where it ends. -/
def Tells (valid : α → Prop) (f : α → List Mark) (follow : List Mark → Prop) : Prop :=
  ∀ ⦃x y : α⦄ ⦃ms ns : List Mark⦄, valid x → valid y → follow ms → follow ns →
    f x ++ ms = f y ++ ns → x = y ∧ ms = ns

theorem Tells.after (hf : Tells valid f follow) (w : String) :
    Tells valid (fun x => codes w ++ f x) follow := by
  intro x y ms ns hx hy hms hns h
  simp only [List.append_assoc] at h
  exact hf hx hy hms hns (List.append_cancel_left h)

theorem tells_flag (w : String) :
    Tells (fun _ => True) (flag w) fun ms => ∀ ns, ms ≠ codes w ++ ns := by
  intro b b' ms ns _ _ hms hns h
  cases b with
  | false =>
    cases b' with
    | false => exact ⟨rfl, h⟩
    | true => exact absurd h (hms ns)
  | true =>
    cases b' with
    | false => exact absurd h.symm (hns ms)
    | true => exact ⟨rfl, List.append_cancel_left h⟩

theorem tells_led (w : String) (hf : Tells valid f follow) :
    Tells (fun x : Option α => ∀ y ∈ x, valid y) (fun x => led w (x.map f))
      fun ms => follow ms ∧ ∀ ns, ms ≠ codes w ++ ns := by
  intro x y ms ns hx hy hms hns h
  cases x with
  | none =>
    cases y with
    | none => exact ⟨rfl, h⟩
    | some y => exact absurd (h.trans (List.append_assoc _ _ _)) (hms.2 _)
  | some x =>
    cases y with
    | none => exact absurd (h.symm.trans (List.append_assoc _ _ _)) (hns.2 _)
    | some y =>
      simp only [Option.map_some, led, List.append_assoc] at h
      obtain ⟨rfl, hrest⟩ := hf (hx x rfl) (hy y rfl) hms.1 hns.1 (List.append_cancel_left h)
      exact ⟨rfl, hrest⟩

/-- Parts in a row are told, if what stands behind the last is no further part. -/
theorem tells_flatMap (hf : Tells valid f follow) (hfollow : ∀ ms, follow' ms → follow ms)
    (hstep : ∀ x ms, valid x → follow ms → follow (f x ++ ms))
    (hend : ∀ x ms ns, valid x → follow' ms → ms ≠ f x ++ ns) :
    Tells (fun xs : List α => ∀ x ∈ xs, valid x) (fun xs => xs.flatMap f) follow' := by
  have hbehind (xs : List α) (hxs : ∀ x ∈ xs, valid x) (ms : List Mark) (hms : follow' ms) :
      follow (xs.flatMap f ++ ms) := by
    induction xs with
    | nil => exact hfollow ms hms
    | cons x xs ih =>
      rw [List.forall_mem_cons] at hxs
      rw [List.flatMap_cons, List.append_assoc]
      exact hstep x _ hxs.1 (ih hxs.2)
  -- Both lists are taken apart together; where only one of them ends, what stands behind it would
  -- have to be a part of the other.
  intro xs
  induction xs with
  | nil =>
    intro ys ms ns _ hys hms _ h
    cases ys with
    | nil => exact ⟨rfl, h⟩
    | cons y ys =>
      exact absurd (h.trans (List.append_assoc _ _ _)) (hend y ms _ (hys y (by simp)) hms)
  | cons x xs ih =>
    intro ys ms ns hxs hys hms hns h
    rw [List.forall_mem_cons] at hxs
    simp only [List.flatMap_cons, List.append_assoc] at h
    cases ys with
    | nil => exact absurd h.symm (hend x ns _ hxs.1 hns)
    | cons y ys =>
      rw [List.forall_mem_cons] at hys
      rw [List.flatMap_cons, List.append_assoc] at h
      obtain ⟨rfl, hrest⟩ := hf hxs.1 hys.1 (hbehind xs hxs.2 ms hms) (hbehind ys hys.2 ns hns) h
      obtain ⟨rfl, hms⟩ := ih hxs.2 hys.2 hms hns hrest
      exact ⟨rfl, hms⟩

/-- Parts between commas are told, if what stands behind the last is no comma and a further
part. -/
theorem tells_listed (hf : Tells valid f follow) (hfollow : ∀ ms, follow' ms → follow ms)
    (hcomma : ∀ ms, follow (codes ", " ++ ms))
    (hend : ∀ x ms ns, valid x → follow' ms → ms ≠ codes ", " ++ (f x ++ ns)) :
    Tells (fun xs : List α => xs ≠ [] ∧ ∀ x ∈ xs, valid x) (fun xs => listed (xs.map f))
      follow' := by
  have htail := tells_flatMap (hf.after ", ") hfollow
    (fun x ms _ _ => List.append_assoc (codes ", ") (f x) ms ▸ hcomma _)
    (fun x ms ns hx hms h => hend x ms ns hx hms (h.trans (List.append_assoc _ _ _)))
  have hbehind (xs : List α) (ms : List Mark) (hms : follow' ms) :
      follow (xs.flatMap (fun x => codes ", " ++ f x) ++ ms) := by
    cases xs with
    | nil => exact hfollow ms hms
    | cons x xs =>
      rw [List.flatMap_cons, List.append_assoc, List.append_assoc]
      exact hcomma _
  rintro xs ys ms ns ⟨hne, hxs⟩ ⟨hne', hys⟩ hms hns h
  obtain ⟨x, xs, rfl⟩ := List.exists_cons_of_ne_nil hne
  obtain ⟨y, ys, rfl⟩ := List.exists_cons_of_ne_nil hne'
  rw [List.forall_mem_cons] at hxs hys
  simp only [List.map_cons, listed, List.flatMap_map, List.append_assoc] at h
  obtain ⟨rfl, hrest⟩ := hf hxs.1 hys.1 (hbehind xs ms hms) (hbehind ys ns hns) h
  obtain ⟨rfl, hms⟩ := htail hxs.2 hys.2 hms hns hrest
  exact ⟨rfl, hms⟩

end Tells

/-! ## Names and numbers -/

theorem tells_name : Tells (fun _ => True) (fun n => [name n]) fun _ => True := by
  intro n n' ms ns _ _ _ _ h
  simpa using h

theorem tells_names : Tells (fun _ => True) names (Begins [")"]) := by
  have hlisted : Tells (fun ns : List String => ns ≠ [] ∧ ∀ n ∈ ns, True) names (Begins [")"]) :=
    tells_listed tells_name (fun _ _ => trivial) (fun _ => trivial)
      fun _ _ _ _ hms => hms.ne_codes (by decide) _
  intro xs ys ms ns _ _ hms hns h
  cases xs with
  | nil =>
    cases ys with
    | nil => exact ⟨rfl, h⟩
    | cons y ys => exact absurd h (hms.ne_name (by simp) y _)
  | cons x xs =>
    cases ys with
    | nil => exact absurd h.symm (hns.ne_name (by simp) x _)
    | cons y ys => exact hlisted ⟨by simp, by simp⟩ ⟨by simp, by simp⟩ hms hns h

/-- The longest run of characters of a kind is told, if the next one is not of the kind. -/
theorem tells_run {p : Char → Bool} {cs ds : List Char} (hcs : ∀ c ∈ cs, p c = true)
    (hds : ∀ c ∈ ds, p c = true) (hms : ∃ c ks, ms = code c :: ks ∧ p c = false)
    (hns : ∃ c ks, ns = code c :: ks ∧ p c = false)
    (h : cs.map code ++ ms = ds.map code ++ ns) : cs = ds ∧ ms = ns := by
  let q (m : Mark) : Bool := m.code?.any p
  have hrun {cs : List Char} {ms : List Mark} (hcs : ∀ c ∈ cs, p c = true)
      (hms : ∃ c ks, ms = code c :: ks ∧ p c = false) :
      (cs.map code ++ ms).takeWhile q = cs.map code := by
    obtain ⟨c, ks, rfl, hc⟩ := hms
    have hall : ∀ m ∈ cs.map code, q m = true := List.forall_mem_map.2 hcs
    rw [List.takeWhile_append_of_pos hall,
      List.takeWhile_cons_of_neg (by simpa [q, code?] using hc), List.append_nil]
  have hmap : cs.map code = ds.map code := by
    rw [← hrun hcs hms, h, hrun hds hns]
  rw [hmap] at h
  exact ⟨List.map_injective_iff.2 (fun _ _ => code.inj) hmap, List.append_cancel_left h⟩

theorem tells_number : Tells (fun _ => True) number (Begins [",", ")"]) := by
  intro m n ms ns _ _ hms hns h
  obtain ⟨hdigits, hrest⟩ := tells_run (Digits.ofNat_isDigit m) (Digits.ofNat_isDigit n)
    (hms.head_not (by decide)) (hns.head_not (by decide)) h
  refine ⟨?_, hrest⟩
  rw [← Digits.value_ofNat m, hdigits, Digits.value_ofNat]

end Mark

open Mark

/-! ## Types -/

namespace DataType

theorem tells_sizes : Tells (fun _ => True) sizeMarks (Begins [" ", ",", ")"]) := by
  have hnumbers : Tells (fun ns : List Nat => ns ≠ [] ∧ ∀ n ∈ ns, True)
      (fun ns => listed (ns.map number)) (Begins [")"]) :=
    tells_listed tells_number (fun _ hms => hms.shorten (by decide)) begins_comma
      fun _ _ _ _ hms => hms.ne_codes (by decide) _
  intro xs ys ms ns _ _ hms hns h
  cases xs with
  | nil =>
    cases ys with
    | nil => exact ⟨rfl, h⟩
    | cons y ys =>
      simp only [sizeMarks, List.append_assoc] at h
      exact absurd h (hms.ne_codes (by decide) _)
  | cons x xs =>
    cases ys with
    | nil =>
      simp only [sizeMarks, List.append_assoc] at h
      exact absurd h.symm (hns.ne_codes (by decide) _)
    | cons y ys =>
      simp only [sizeMarks, List.append_assoc] at h
      obtain ⟨hsizes, hrest⟩ := hnumbers ⟨by simp, by simp⟩ ⟨by simp, by simp⟩
        (begins_codes (by simp) _) (begins_codes (by simp) _) (List.append_cancel_left h)
      exact ⟨hsizes, List.append_cancel_left hrest⟩

/-- The type of a word and numbers. -/
def ofParts (word : String) : List Nat → DataType
  | [p, s] => .decimal (some p) (some s)
  | [n] => if word = "DECIMAL" then .decimal (some n) none else .varchar (some n)
  | _ => ([.smallint, .integer, .bigint, .real, .double, .decimal none none, .varchar none, .text,
      .blob, .date, .time, .timestamp, .boolean].find? (·.word == word)).getD (.custom word)

/-- The word and the numbers of a type give the type as written. -/
theorem ofParts_word_sizes {t : DataType} (ht : ∀ text, t ≠ .custom text) :
    ofParts t.word t.sizes = t.asWritten := by
  cases t with
  | decimal precision scale =>
    cases precision with
    | none => rfl
    | some p => cases scale <;> rfl
  | varchar length => cases length <;> rfl
  | custom text => exact absurd rfl (ht text)
  | _ => rfl

theorem isUpper_of_mem_word {t : DataType} (ht : ∀ text, t ≠ .custom text) :
    ∀ c ∈ t.word.toList, c.isUpper = true := by
  cases t with
  | custom text => exact absurd rfl (ht text)
  | decimal => exact List.all_eq_true.1 (by decide : "DECIMAL".toList.all Char.isUpper = true)
  | varchar => exact List.all_eq_true.1 (by decide : "VARCHAR".toList.all Char.isUpper = true)
  | _ => exact List.all_eq_true.1 (by decide)

theorem head_sizeMarks (ns : List Nat) {ms : List Mark} (hms : Begins [" ", ",", ")"] ms) :
    Begins ["(", " ", ",", ")"] (sizeMarks ns ++ ms) := by
  cases ns with
  | nil => exact hms.shorten (by decide)
  | cons n ns =>
    rw [sizeMarks, List.append_assoc, List.append_assoc]
    exact begins_codes (by simp) _

/-- A type tells itself, as written. -/
theorem tells : Tells (fun t : DataType => (∀ text, t ≠ .custom text) ∧ t.asWritten = t)
    (fun t => codes t.spelled) (Begins [" ", ",", ")"]) := by
  rintro t u ms ns ⟨ht, ht'⟩ ⟨hu, hu'⟩ hms hns h
  simp only [codes_spelled, List.append_assoc] at h
  obtain ⟨hword, hrest⟩ := tells_run (isUpper_of_mem_word ht) (isUpper_of_mem_word hu)
    ((head_sizeMarks t.sizes hms).head_not (by decide))
    ((head_sizeMarks u.sizes hns).head_not (by decide)) h
  obtain ⟨hsizes, hms⟩ := tells_sizes trivial trivial hms hns hrest
  refine ⟨?_, hms⟩
  rw [← ht', ← hu', ← ofParts_word_sizes ht, ← ofParts_word_sizes hu, hsizes,
    String.toList_inj.1 hword]

end DataType

/-! ## References -/

/-- The words for the actions. -/
def ReferenceAction.texts : List String :=
  ["NO ACTION", "RESTRICT", "CASCADE", "SET NULL", "SET DEFAULT"]

theorem ReferenceAction.text_mem (a : ReferenceAction) : a.text ∈ texts := by
  cases a <;> simp [text, texts]

theorem ReferenceAction.text_inj {a b : ReferenceAction} (h : a.text = b.text) : a = b := by
  cases a <;> cases b <;> first | rfl | exact absurd h (by decide)

theorem ReferenceAction.tells :
    Tells (fun _ => True) (fun a : ReferenceAction => codes a.text) fun _ => True := by
  intro a b ms ns _ _ _ _ h
  have hwords : AllApart texts := by decide
  exact (hwords.append_inj a.text_mem b.text_mem h).imp_left text_inj

/-- The words in front of the actions of a reference. -/
def Reference.leads : List String := [" ON DELETE ", " ON UPDATE "]

/-- A reference tells itself, unless a further action stands behind it. -/
theorem Reference.tells : Tells (fun _ => True) Reference.marks
    fun ms => ∀ w ∈ leads, ∀ ns, ms ≠ codes w ++ ns := by
  have hdelete {ms : List Mark} (hms : ∀ ns, ms ≠ codes " ON DELETE " ++ ns)
      (a : Option ReferenceAction) (ns : List Mark) :
      led " ON UPDATE " (a.map fun a => codes a.text) ++ ms ≠ codes " ON DELETE " ++ ns := by
    cases a with
    | none => exact hms ns
    | some a =>
      rw [Option.map_some, led, List.append_assoc]
      exact Apart.codes_ne (by decide) _ _
  rintro ⟨table, columns, onDelete, onUpdate⟩ ⟨table', columns', onDelete', onUpdate'⟩ ms ns _ _
    hms hns h
  simp only [marks, List.cons_append, List.append_assoc, List.cons.injEq, Mark.name.injEq] at h
  obtain ⟨rfl, htable⟩ := h
  obtain ⟨rfl, hcolumns⟩ := tells_names trivial trivial (begins_codes (by simp) _)
    (begins_codes (by simp) _) (List.append_cancel_left htable)
  obtain ⟨rfl, honDelete⟩ := tells_led " ON DELETE " ReferenceAction.tells (by simp) (by simp)
    ⟨trivial, hdelete (hms _ (by simp [leads])) _⟩ ⟨trivial, hdelete (hns _ (by simp [leads])) _⟩
    (List.append_cancel_left hcolumns)
  obtain ⟨rfl, honUpdate⟩ := tells_led " ON UPDATE " ReferenceAction.tells (by simp) (by simp)
    ⟨trivial, hms _ (by simp [leads])⟩ ⟨trivial, hns _ (by simp [leads])⟩ honDelete
  exact ⟨rfl, honUpdate⟩

/-! ## Columns -/

/-- The words that the constraints of a bare column start with. -/
def ColumnConstraint.leads : List String :=
  [" NOT NULL", " NULL", " PRIMARY KEY", " UNIQUE", " REFERENCES "]

/-- What may stand behind a constraint of a column: a comma, the end, or a further constraint. -/
def ColumnConstraint.followers : List String := "," :: ")" :: leads

/-- The keyword for keys that count up, if there is one, is not taken for anything else that may
stand behind a key. -/
def Dialect.KeywordApart (d : Dialect) : Prop :=
  d.autoIncrement = true →
    ∀ w ∈ ColumnConstraint.followers, Apart w (" " ++ d.autoIncrementKeyword)

instance (d : Dialect) : Decidable d.KeywordApart := by
  unfold Dialect.KeywordApart
  infer_instance

variable {d : Dialect}

namespace ColumnConstraint

theorem IsBare.lead_mem {k : ColumnConstraint} (hk : k.IsBare) : k.lead ∈ leads := by
  cases k with
  | default value => exact hk.elim
  | check condition => exact hk.elim
  | collate collation => exact hk.elim
  | _ => simp [lead, leads]

/-- A constraint that the dialect can say. -/
def IsSaid (d : Dialect) (k : ColumnConstraint) : Prop :=
  k.IsBare ∧ (k = .primaryKey true → d.autoIncrement = true)

theorem tells (hd : d.KeywordApart) : Tells (IsSaid d) (marks d) (Begins followers) := by
  rintro k l ms ns ⟨hk, hauto⟩ ⟨hl, hauto'⟩ hms hns h
  have hwords : AllApart leads := by decide
  simp only [marks, List.append_assoc] at h
  obtain ⟨hlead, hrest⟩ := hwords.append_inj hk.lead_mem hl.lead_mem h
  cases k with
  | notNull => cases l <;> first | exact ⟨rfl, hrest⟩ | simp [lead] at hlead
  | null => cases l <;> first | exact ⟨rfl, hrest⟩ | simp [lead] at hlead
  | unique => cases l <;> first | exact ⟨rfl, hrest⟩ | simp [lead] at hlead
  | primaryKey auto =>
    cases l with
    | primaryKey auto' =>
      -- A dialect without the keyword has refused the keys that would need it.
      by_cases hkeyword : d.autoIncrement = true
      · obtain ⟨rfl, hms⟩ := tells_flag (" " ++ d.autoIncrementKeyword) trivial trivial
          (hms.ne_codes (hd hkeyword)) (hns.ne_codes (hd hkeyword)) hrest
        exact ⟨rfl, hms⟩
      · obtain rfl : auto = false := by simpa [hkeyword] using hauto
        obtain rfl : auto' = false := by simpa [hkeyword] using hauto'
        exact ⟨rfl, hrest⟩
    | _ => simp [lead] at hlead
  | references r =>
    cases l with
    | references r' =>
      have hapart : ∀ w ∈ Reference.leads, ∀ v ∈ followers, Apart v w := by decide
      obtain ⟨rfl, hms⟩ := Reference.tells trivial trivial
        (fun w hw => hms.ne_codes (hapart w hw)) (fun w hw => hns.ne_codes (hapart w hw)) hrest
      exact ⟨rfl, hms⟩
    | _ => simp [lead] at hlead
  | _ => exact hk.elim

theorem begins_flatMap_marks {ks : List ColumnConstraint} (hks : ∀ k ∈ ks, k.IsBare)
    {ms : List Mark} (hms : Begins [",", ")"] ms) :
    Begins followers (ks.flatMap (marks d) ++ ms) := by
  cases ks with
  | nil => exact hms.shorten (by decide)
  | cons k ks =>
    rw [List.flatMap_cons, List.append_assoc, marks, List.append_assoc]
    exact begins_codes (by simp [followers, (hks k (by simp)).lead_mem]) _

/-- The constraints of a column are told in front of a comma or the end. -/
theorem tells_all (hd : d.KeywordApart) :
    Tells (fun ks : List ColumnConstraint => ∀ k ∈ ks, IsSaid d k) (fun ks => ks.flatMap (marks d))
      (Begins [",", ")"]) := by
  refine tells_flatMap (tells hd) (fun ms hms => hms.shorten (by decide)) ?_ ?_
  · intro k ms hk _
    rw [marks, List.append_assoc]
    exact begins_codes (by simp [followers, hk.1.lead_mem]) _
  · intro k ms ns hk hms h
    have hapart : ∀ w ∈ leads, ∀ v ∈ [",", ")"], Apart v w := by decide
    rw [marks, List.append_assoc] at h
    exact hms.ne_codes (hapart _ hk.1.lead_mem) _ h

end ColumnConstraint

/-- The column as its text tells it. -/
def ColumnDefinition.asWritten (c : ColumnDefinition) : ColumnDefinition :=
  { c with type := c.type.asWritten }

/-- A column that the dialect can say in full. -/
structure ColumnDefinition.IsSaid (d : Dialect) (c : ColumnDefinition) : Prop where
  isBare : c.IsBare
  expressible : c.Expressible d
  asWritten : c.asWritten = c

theorem ColumnDefinition.tells (hd : d.KeywordApart) :
    Tells (IsSaid d) (marks d) (Begins [",", ")"]) := by
  have hbehind {ks : List ColumnConstraint} (hks : ∀ k ∈ ks, k.IsBare) {ms : List Mark}
      (hms : Begins [",", ")"] ms) :
      Begins [" ", ",", ")"] (ks.flatMap (ColumnConstraint.marks d) ++ ms) :=
    (ColumnConstraint.begins_flatMap_marks hks hms).shorten (by decide)
  rintro ⟨n, t, ks⟩ ⟨n', t', ks'⟩ ms ns hc hc' hms hns h
  have hconstraint {n : String} {t : DataType} {ks : List ColumnConstraint}
      (hc : ColumnDefinition.IsSaid d ⟨n, t, ks⟩) : ∀ k ∈ ks, ColumnConstraint.IsSaid d k :=
    fun k hk => ⟨hc.isBare.constraints k hk, fun heq => hc.expressible (heq ▸ hk)⟩
  simp only [marks, List.cons_append, List.append_assoc, List.cons.injEq, Mark.name.injEq] at h
  obtain ⟨rfl, hname⟩ := h
  obtain ⟨rfl, htype⟩ := DataType.tells
    ⟨hc.isBare.type, congrArg ColumnDefinition.type hc.asWritten⟩
    ⟨hc'.isBare.type, congrArg ColumnDefinition.type hc'.asWritten⟩
    (hbehind hc.isBare.constraints hms) (hbehind hc'.isBare.constraints hns)
    (List.append_cancel_left hname)
  obtain ⟨rfl, hconstraints⟩ :=
    ColumnConstraint.tells_all hd (hconstraint hc) (hconstraint hc') hms hns htype
  exact ⟨rfl, hconstraints⟩

/-! ## Constraints on the table -/

namespace TableConstraint

/-- The words that the rules of a bare table start with. -/
def Rule.leads : List String := ["PRIMARY KEY (", "UNIQUE (", "FOREIGN KEY ("]

theorem Rule.IsBare.lead_mem {rule : Rule} (hrule : rule.IsBare) : rule.lead ∈ Rule.leads := by
  cases rule with
  | check condition => exact hrule.elim
  | _ => simp [Rule.lead, Rule.leads]

theorem Rule.tells :
    Tells Rule.IsBare (fun rule => codes rule.lead ++ rule.rest) (Begins [",", ")"]) := by
  intro rule rule' ms ns hrule hrule' hms hns h
  have hwords : AllApart Rule.leads := by decide
  have hlisted {columns columns' : List String} {ks ls : List Mark}
      (h : names columns ++ (codes ")" ++ ks) = names columns' ++ (codes ")" ++ ls)) :
      columns = columns' ∧ ks = ls := by
    obtain ⟨hcolumns, hrest⟩ := tells_names trivial trivial (begins_codes (by simp) _)
      (begins_codes (by simp) _) h
    exact ⟨hcolumns, List.append_cancel_left hrest⟩
  simp only [List.append_assoc] at h
  obtain ⟨hlead, hrest⟩ := hwords.append_inj hrule.lead_mem hrule'.lead_mem h
  cases rule with
  | primaryKey columns =>
    cases rule' with
    | primaryKey columns' =>
      simp only [Rule.rest, List.append_assoc] at hrest
      obtain ⟨rfl, hms⟩ := hlisted hrest
      exact ⟨rfl, hms⟩
    | _ => simp [Rule.lead] at hlead
  | unique columns =>
    cases rule' with
    | unique columns' =>
      simp only [Rule.rest, List.append_assoc] at hrest
      obtain ⟨rfl, hms⟩ := hlisted hrest
      exact ⟨rfl, hms⟩
    | _ => simp [Rule.lead] at hlead
  | check condition => exact hrule.elim
  | foreignKey columns reference =>
    cases rule' with
    | foreignKey columns' reference' =>
      have hapart : ∀ w ∈ Reference.leads, ∀ v ∈ [",", ")"], Apart v w := by decide
      simp only [Rule.rest, List.append_assoc] at hrest
      obtain ⟨rfl, hreference⟩ := hlisted hrest
      obtain ⟨rfl, hms⟩ := Reference.tells trivial trivial
        (fun w hw => hms.ne_codes (hapart w hw)) (fun w hw => hns.ne_codes (hapart w hw))
        (List.append_cancel_left hreference)
      exact ⟨rfl, hms⟩
    | _ => simp [Rule.lead] at hlead

theorem tells :
    Tells (fun c => c.rule.IsBare) TableConstraint.marks (Begins [",", ")"]) := by
  have hname : Tells (fun _ => True) (fun n : String => Mark.name n :: codes " ")
      fun _ => True := by
    intro n n' ms ns _ _ _ _ h
    simpa using h
  have hrule {rule : Rule} (hrule : rule.IsBare) (ms : List Mark) (ns : List Mark) :
      codes rule.lead ++ rule.rest ++ ms ≠ codes "CONSTRAINT " ++ ns := by
    have hapart : ∀ w ∈ Rule.leads, Apart w "CONSTRAINT " := by decide
    rw [List.append_assoc]
    exact (hapart _ hrule.lead_mem).codes_ne _ _
  rintro ⟨n, rule⟩ ⟨n', rule'⟩ ms ns hc hc' hms hns h
  simp only [marks, List.append_assoc] at h
  simp only [← List.append_assoc (codes _)] at h
  obtain ⟨rfl, hrest⟩ := tells_led "CONSTRAINT " hname (by simp) (by simp)
    ⟨trivial, hrule hc ms⟩ ⟨trivial, hrule hc' ns⟩ h
  obtain ⟨rfl, hms⟩ := Rule.tells hc hc' hms hns hrest
  exact ⟨rfl, hms⟩

theorem begins_marks {c : TableConstraint} (hc : c.rule.IsBare) (ms : List Mark) :
    Begins ("CONSTRAINT " :: Rule.leads) (c.marks ++ ms) := by
  rcases c with ⟨_ | n, rule⟩
  · rw [marks, List.append_assoc, List.append_assoc]
    exact begins_codes (List.mem_cons_of_mem _ hc.lead_mem) _
  · rw [marks, List.append_assoc, Option.map_some, led, List.append_assoc]
    exact begins_codes List.mem_cons_self _

/-- The constraints of a table, each after a comma, are told in front of the end. -/
theorem tells_all : Tells (fun cs : List TableConstraint => ∀ c ∈ cs, c.rule.IsBare)
    (fun cs => cs.flatMap fun c => codes ", " ++ c.marks) (Begins [")"]) := by
  refine tells_flatMap (tells.after ", ") (fun ms hms => hms.shorten (by decide)) ?_ ?_
  · intro c ms _ _
    rw [List.append_assoc]
    exact begins_comma _
  · intro c ms ns _ hms
    rw [List.append_assoc]
    exact hms.ne_codes (by decide) _

end TableConstraint

/-! ## The whole statement -/

namespace CreateTable

/-- What may stand behind the columns: the end, or a constraint on the table. -/
def EndsColumns (ms : List Mark) : Prop :=
  Begins [")"] ms ∨ ∃ ns, ms = codes ", " ++ ns ∧
    Begins ("CONSTRAINT " :: TableConstraint.Rule.leads) ns

theorem tells_columns (hd : d.KeywordApart) :
    Tells (fun cs : List ColumnDefinition => cs ≠ [] ∧ ∀ c ∈ cs, c.IsSaid d)
      (fun cs => listed (cs.map (ColumnDefinition.marks d))) EndsColumns := by
  refine tells_listed (ColumnDefinition.tells hd) ?_ begins_comma ?_
  · rintro ms (hms | ⟨ns, rfl, -⟩)
    · exact hms.shorten (by decide)
    · exact begins_comma ns
  · rintro c ms ns - (hms | ⟨ks, rfl, hks⟩) h
    · exact hms.ne_codes (by decide) _ h
    · exact hks.ne_name (by decide) _ _ (List.append_cancel_left h)

/-- A table that the dialect can say in full. -/
structure IsSaid (d : Dialect) (t : CreateTable) : Prop where
  columns_ne_nil : t.columns ≠ []
  columns : ∀ c ∈ t.columns, c.IsSaid d
  constraints : ∀ c ∈ t.constraints, c.rule.IsBare

theorem eq_of_marks_eq (hd : d.KeywordApart) {t u : CreateTable} (ht : t.IsSaid d)
    (hu : u.IsSaid d) (h : t.marks d = u.marks d) : t = u := by
  have htable (ms ns : List Mark) : codes "TABLE " ++ ms ≠ codes "TEMPORARY " ++ ns :=
    Apart.codes_ne (by decide) ms ns
  have hguard (n : String) (ms ns : List Mark) : Mark.name n :: ms ≠ codes "IF NOT EXISTS " ++ ns :=
    fun h => by cases h
  have hends {cs : List TableConstraint} (hcs : ∀ c ∈ cs, c.rule.IsBare) :
      EndsColumns (cs.flatMap (fun c => codes ", " ++ c.marks) ++ codes ")") := by
    cases cs with
    | nil => exact .inl ⟨")", by simp, List.prefix_rfl⟩
    | cons c cs =>
      rw [List.flatMap_cons, List.append_assoc, List.append_assoc]
      exact .inr ⟨_, rfl, TableConstraint.begins_marks (hcs c (by simp)) _⟩
  -- From the left to the right, each clause is told by what can stand behind it.
  rcases t with ⟨n, temporary, guard, columns, constraints⟩
  rcases u with ⟨n', temporary', guard', columns', constraints'⟩
  simp only [marks] at h
  obtain ⟨rfl, htemporary⟩ := tells_flag "TEMPORARY " trivial trivial (htable _) (htable _)
    (List.append_cancel_left h)
  obtain ⟨rfl, hguarded⟩ := tells_flag "IF NOT EXISTS " trivial trivial (hguard n _) (hguard n' _)
    (List.append_cancel_left htemporary)
  simp only [List.cons.injEq, Mark.name.injEq] at hguarded
  obtain ⟨rfl, hname⟩ := hguarded
  obtain ⟨rfl, hcolumns⟩ := tells_columns hd ⟨ht.columns_ne_nil, ht.columns⟩
    ⟨hu.columns_ne_nil, hu.columns⟩ (hends ht.constraints) (hends hu.constraints)
    (List.append_cancel_left hname)
  obtain ⟨rfl, -⟩ := TableConstraint.tells_all ht.constraints hu.constraints
    ⟨")", by simp, List.prefix_rfl⟩ ⟨")", by simp, List.prefix_rfl⟩ hcolumns
  rfl

/-- The statement as its text tells it: a scale without a precision goes unsaid. -/
def asWritten (t : CreateTable) : CreateTable :=
  { t with columns := t.columns.map ColumnDefinition.asWritten }

theorem draft_asWritten (scope : Scope) (t : CreateTable) :
    t.asWritten.draft d scope = t.draft d scope := by
  have hcolumn (c : ColumnDefinition) : c.asWritten.draft d scope = c.draft d scope := by
    rw [ColumnDefinition.draft, ColumnDefinition.draft, ColumnDefinition.asWritten,
      DataType.spelled_asWritten]
  simp [draft, asWritten, Function.comp_def, hcolumn]

theorem render_asWritten (t : CreateTable) :
    (Statement.createTable t.asWritten).render d = (Statement.createTable t).render d :=
  congrArg (Draft.finish d) (draft_asWritten _ t)

theorem IsBare.asWritten {t : CreateTable} (ht : t.IsBare) : t.asWritten.IsBare := by
  refine ⟨List.forall_mem_map.2 fun c hc => ⟨fun text htext => ?_, ?_⟩, ht.constraints⟩
  · have htype := (ht.columns c hc).type
    cases h : c.type with
    | custom text' => exact htype text' h
    | decimal precision scale =>
      cases precision <;> simp [ColumnDefinition.asWritten, h, DataType.asWritten] at htext
    | _ => simp [ColumnDefinition.asWritten, h, DataType.asWritten] at htext
  · exact (ht.columns c hc).constraints

theorem IsBare.isSaid_asWritten {t : CreateTable} (ht : t.IsBare)
    (hexpressible : (Statement.createTable t).Expressible d) : t.asWritten.IsSaid d := by
  obtain ⟨⟨hne, hauto⟩, -⟩ := hexpressible
  have htwice (type : DataType) : type.asWritten.asWritten = type.asWritten := by
    cases type with
    | decimal precision scale => cases precision <;> rfl
    | _ => rfl
  refine ⟨by simpa [CreateTable.asWritten] using hne, ?_, ht.constraints⟩
  refine List.forall_mem_map.2 fun c hc => ⟨?_, hauto c hc, ?_⟩
  · exact ht.asWritten.columns _ (List.mem_map_of_mem hc)
  · rw [ColumnDefinition.asWritten, ColumnDefinition.asWritten, htwice]

end CreateTable

/-- What a dialect needs for the text of a table to tell the table. -/
structure Dialect.TellsTables (d : Dialect) : Prop where
  quotesNames : d.QuotesNames
  tidyKeyword : d.TidyKeyword
  keywordApart : d.KeywordApart
  ifExists : d.ifExists = true

/-- All presets tell tables. -/
theorem Dialect.tellsTables_of_mem_presets :
    ∀ d ∈ [generic, mysql, postgres, sqlite], d.TellsTables := by
  have hword {d : Dialect} (h : d.autoIncrementKeyword.toList.all Text.isWord = true) :
      d.TidyKeyword := List.all_eq_true.1 h
  simp only [List.forall_mem_cons, List.not_mem_nil, false_implies, implies_true, and_true]
  exact ⟨⟨by decide, hword (by decide), by decide, rfl⟩,
    ⟨by decide, hword (by decide), by decide, rfl⟩,
    ⟨by decide, hword (by decide), by decide, rfl⟩,
    ⟨by decide, hword (by decide), by decide, rfl⟩⟩

/-- Two bare CREATE TABLE statements have the same text just if they are the same but for scales
without a precision: the same name and flags, the same columns with their types and constraints in
order, and the same constraints on the table. -/
theorem CreateTable.sql_eq_iff (hd : d.TellsTables) {t u : CreateTable} (ht : t.IsBare)
    (hu : u.IsBare) {r s : Rendering} (hr : ((Statement.createTable t).render d).outcome = .ok r)
    (hs : ((Statement.createTable u).render d).outcome = .ok s) :
    r.sql = s.sql ↔ t.asWritten = u.asWritten := by
  have hexpressible {t : CreateTable} {r : Rendering}
      (hr : ((Statement.createTable t).render d).outcome = .ok r) :
      (Statement.createTable t).Expressible d :=
    CreateTable.fault_draft_eq_none.1 (Draft.finish_eq_ok hr).1
  have hscan {t : CreateTable} (ht : t.IsBare) {r : Rendering}
      (hr : ((Statement.createTable t).render d).outcome = .ok r) :
      d.scan r.sql.toList = some (t.asWritten.marks d) := by
    rw [← render_asWritten] at hr
    exact scan_sql hd.quotesNames hd.tidyKeyword hd.ifExists ht.asWritten hr
  constructor
  · intro h
    have hmarks := hscan ht hr
    rw [h, hscan hu hs, Option.some.injEq] at hmarks
    exact eq_of_marks_eq hd.keywordApart (ht.isSaid_asWritten (hexpressible hr))
      (hu.isSaid_asWritten (hexpressible hs)) hmarks.symm
  · intro h
    rw [← render_asWritten, h, render_asWritten, hs, Except.ok.injEq] at hr
    rw [hr]

/-- The same constraints in another order make another text. -/
theorem CreateTable.render_ne_of_reordered :
    let table (key : List ColumnConstraint) : CreateTable :=
      { name := "t"
        columns := [⟨"id", .integer, key⟩]
        constraints := [⟨none, .foreignKey ["id"] ⟨"u", ["id"], some .cascade, none⟩⟩] }
    Dialect.mysql.TellsTables ∧ (table [.notNull, .primaryKey true]).IsBare ∧
      (table [.primaryKey true, .notNull]).IsBare ∧ ∃ r s,
        ((Statement.createTable (table [.notNull, .primaryKey true])).render .mysql).outcome =
          .ok r ∧
        ((Statement.createTable (table [.primaryKey true, .notNull])).render .mysql).outcome =
          .ok s ∧ r.sql ≠ s.sql := by
  intro table
  have hd : Dialect.mysql.TellsTables := Dialect.tellsTables_of_mem_presets .mysql (by simp)
  have hbare {key : List ColumnConstraint} (hkey : ∀ k ∈ key, k.IsBare) : (table key).IsBare := by
    constructor
    · simpa [table] using ColumnDefinition.IsBare.mk (by simp) hkey
    · simp [table, TableConstraint.Rule.IsBare]
  have ht : (table [.notNull, .primaryKey true]).IsBare :=
    hbare (by simp [ColumnConstraint.IsBare])
  have hu : (table [.primaryKey true, .notNull]).IsBare :=
    hbare (by simp [ColumnConstraint.IsBare])
  obtain ⟨r, hr⟩ : ∃ r,
      ((Statement.createTable (table [.notNull, .primaryKey true])).render .mysql).outcome =
        .ok r := ⟨_, rfl⟩
  obtain ⟨s, hs⟩ : ∃ s,
      ((Statement.createTable (table [.primaryKey true, .notNull])).render .mysql).outcome =
        .ok s := ⟨_, rfl⟩
  have hne : (table [.notNull, .primaryKey true]).asWritten ≠
      (table [.primaryKey true, .notNull]).asWritten := by
    simp [table, asWritten, ColumnDefinition.asWritten]
  exact ⟨hd, ht, hu, r, s, hr, hs, fun h => hne ((sql_eq_iff hd ht hu hr hs).1 h)⟩

/-- A scale without a precision leaves no trace in the text. -/
theorem CreateTable.lone_scale_unsaid :
    let table (type : DataType) : CreateTable := { name := "t", columns := [⟨"c", type, []⟩] }
    (table (.decimal none (some 2))).IsBare ∧ (table (.decimal none none)).IsBare ∧
      table (.decimal none (some 2)) ≠ table (.decimal none none) ∧ ∃ r,
        ((Statement.createTable (table (.decimal none (some 2)))).render .generic).outcome =
          .ok r ∧
        ((Statement.createTable (table (.decimal none none))).render .generic).outcome = .ok r := by
  intro table
  have hbare (precision scale : Option Nat) : (table (.decimal precision scale)).IsBare := by
    constructor
    · simpa [table] using ColumnDefinition.IsBare.mk (by simp) (by simp)
    · simp [table]
  exact ⟨hbare _ _, hbare _ _, by simp [table], _, rfl, rfl⟩

end PolySql
