import PolySql.Json.Reading

/-!
# Written documents are read back

Reading goes from the front, so each part of a written document is read with any text behind it. A
number alone ends where the next character is no part of a number; in a document that is a comma, a
bracket or the end.

* `Json.Ends` : what may stand behind a number;
* `Json.Sure` : a reading step that is not led astray by what stands behind;
* `Json.ledBy` : a step that looks at the first character;
* `Json.Proper` : documents whose numbers are numbers;
* `Json.read?_write` : the main statement.
-/

namespace PolySql.Json

/-! ## Numbers -/

/-- The characters that numbers go on with. -/
def goesOn (c : Char) : Bool := Digits.isDigit c || c == '.' || c == 'e' || c == 'E'

/-- No number goes on with the text. -/
def Ends (rest : List Char) : Prop := ∀ c ∈ rest.head?, goesOn c = false

theorem ends_nil : Ends [] := fun _ h => by cases h

theorem ends_cons {c : Char} (h : goesOn c = false) (cs : List Char) : Ends (c :: cs) := by
  rintro _ ⟨⟩
  exact h

/-- What the step reads it also reads with more text behind it. -/
def Sure {α : Type} (step : List Char → Option (α × List Char)) : Prop :=
  ∀ cs a r rest, step cs = some (a, r) → Ends rest → step (cs ++ rest) = some (a, r ++ rest)

theorem Ends.not_isDigit {rest : List Char} (h : Ends rest) :
    ∀ c ∈ rest.head?, Digits.isDigit c = false := fun c hc => by
  have := h c hc
  simp only [goesOn, Bool.or_eq_false_iff] at this
  exact this.1.1.1

theorem Ends.takeWhile_append {rest : List Char} (h : Ends rest) (cs : List Char) :
    (cs ++ rest).takeWhile Digits.isDigit = cs.takeWhile Digits.isDigit := by
  induction cs with
  | nil =>
    cases rest with
    | nil => rfl
    | cons c rest => simp [h.not_isDigit c rfl]
  | cons c cs ih => simp [List.takeWhile_cons, ih]

theorem Ends.dropWhile_append {rest : List Char} (h : Ends rest) (cs : List Char) :
    (cs ++ rest).dropWhile Digits.isDigit = cs.dropWhile Digits.isDigit ++ rest := by
  induction cs with
  | nil =>
    cases rest with
    | nil => rfl
    | cons c rest => simp [h.not_isDigit c rfl]
  | cons c cs ih =>
    simp only [List.cons_append, List.dropWhile_cons, ih]
    split <;> rfl

theorem sure_digits : Sure digits? := by
  intro cs ds r rest h hrest
  simp only [digits?] at h ⊢
  rw [hrest.takeWhile_append, hrest.dropWhile_append]
  split at h
  · cases h
  · rw [if_neg ‹_›]
    cases h
    rfl

section Steps
variable {α β : Type} {step other : List Char → Option (α × List Char)}

theorem sure_done (a : α) : Sure fun cs => some (a, cs) := by
  rintro cs _ _ rest ⟨⟩ -
  rfl

theorem Sure.bind (h : Sure step) {next : α → List Char → Option (β × List Char)}
    (hnext : ∀ a, Sure (next a)) : Sure fun cs => (step cs).bind fun (a, r) => next a r := by
  intro cs b r rest hr hrest
  obtain ⟨⟨a, r'⟩, ha, hb⟩ := Option.bind_eq_some_iff.1 hr
  simp only [h _ _ _ _ ha hrest, Option.bind_some]
  exact hnext a _ _ _ _ hb hrest

theorem Sure.map (h : Sure step) (f : α → β) :
    Sure fun cs => (step cs).map fun (a, r) => (f a, r) := by
  intro cs b r rest hr hrest
  obtain ⟨⟨a, r'⟩, ha, hb⟩ := Option.map_eq_some_iff.1 hr
  cases hb
  simp only [h _ _ _ _ ha hrest, Option.map_some]

/-- A step that starts with a character of its own, or another step. -/
def ledBy (c : Char) (step other : List Char → Option (α × List Char)) (cs : List Char) :
    Option (α × List Char) :=
  if cs.head? = some c then step cs.tail else other cs

theorem ledBy_cons (c : Char) (r : List Char) : ledBy c step other (c :: r) = step r :=
  if_pos rfl

theorem ledBy_of_ne {c : Char} {cs : List Char} (h : ∀ r, cs ≠ c :: r) :
    ledBy c step other cs = other cs := by
  cases cs with
  | nil => rfl
  | cons x cs =>
    refine if_neg fun hx => h cs ?_
    rw [List.head?_cons, Option.some.injEq] at hx
    rw [hx]

/-- A step may look at the first character, if it does without one or numbers go on with it. -/
theorem Sure.ledBy {c : Char} (hstep : Sure step) (hother : Sure other)
    (hc : goesOn c = true ∨ other [] = none) : Sure (ledBy c step other) := by
  intro cs a r rest h hrest
  cases cs with
  | nil =>
    -- The step has read nothing, and sees the first character of what stands behind.
    rw [ledBy_of_ne (by simp)] at h
    have hgoes : goesOn c = true := hc.resolve_right (by simp [h])
    have hne : ∀ r, rest ≠ c :: r := by
      rintro r rfl
      simp [hrest c rfl] at hgoes
    rw [List.nil_append, ledBy_of_ne hne]
    exact hother _ _ _ _ h hrest
  | cons x cs =>
    by_cases hx : x = c
    · subst hx
      rw [ledBy_cons] at h
      rw [List.cons_append, ledBy_cons]
      exact hstep _ _ _ _ h hrest
    · rw [ledBy_of_ne (by simp [hx])] at h
      rw [ledBy_of_ne (by simp [hx])]
      exact hother _ _ _ _ h hrest

end Steps

theorem whole?_eq : whole? = ledBy '0' (fun r => some (['0'], r)) digits? := by
  funext cs
  unfold whole?
  split
  · rw [ledBy_cons]
  · rw [ledBy_of_ne (by assumption)]

theorem fraction?_eq : fraction? =
    ledBy '.' (fun r => (digits? r).map fun (ds, r) => ('.' :: ds, r)) fun cs => some ([], cs) := by
  funext cs
  unfold fraction?
  split
  · rw [ledBy_cons]
  · rw [ledBy_of_ne (by assumption)]

theorem signedDigits?_eq : signedDigits? =
    ledBy '+' (fun r => (digits? r).map fun (ds, r) => ('+' :: ds, r))
      (ledBy '-' (fun r => (digits? r).map fun (ds, r) => ('-' :: ds, r)) digits?) := by
  funext cs
  unfold signedDigits?
  split
  · rw [ledBy_cons]
  · rw [ledBy_of_ne (by simp), ledBy_cons]
  · rw [ledBy_of_ne (by assumption), ledBy_of_ne (by assumption)]

theorem exponent?_eq : exponent? =
    ledBy 'e' (fun r => (signedDigits? r).map fun (ds, r) => ('e' :: ds, r))
      (ledBy 'E' (fun r => (signedDigits? r).map fun (ds, r) => ('E' :: ds, r))
        fun cs => some ([], cs)) := by
  funext cs
  unfold exponent?
  split
  · rw [ledBy_cons]
  · rw [ledBy_of_ne (by simp), ledBy_cons]
  · rw [ledBy_of_ne (by assumption), ledBy_of_ne (by assumption)]

theorem number?_eq : number? =
    ledBy '-' (fun r => (unsigned? r).map fun (ds, r) => (.number ('-' :: ds), r))
      fun cs => (unsigned? cs).map fun (ds, r) => (.number ds, r) := by
  funext cs
  unfold number?
  split
  · rw [ledBy_cons]
  · rw [ledBy_of_ne (by assumption)]

theorem sure_whole : Sure whole? := by
  rw [whole?_eq]
  exact (sure_done ['0']).ledBy sure_digits (.inl (by decide))

theorem sure_fraction : Sure fraction? := by
  rw [fraction?_eq]
  exact (sure_digits.map _).ledBy (sure_done []) (.inl (by decide))

theorem sure_signedDigits : Sure signedDigits? := by
  rw [signedDigits?_eq]
  have hminus := (sure_digits.map ('-' :: ·)).ledBy (c := '-') sure_digits (.inr rfl)
  exact (sure_digits.map _).ledBy hminus (.inr rfl)

theorem sure_exponent : Sure exponent? := by
  rw [exponent?_eq]
  have hcapital := (sure_signedDigits.map ('E' :: ·)).ledBy (c := 'E') (sure_done [])
    (.inl (by decide))
  exact (sure_signedDigits.map _).ledBy hcapital (.inl (by decide))

theorem sure_unsigned : Sure unsigned? :=
  sure_whole.bind fun ds => sure_fraction.bind fun fs => sure_exponent.bind fun es =>
    sure_done (ds ++ fs ++ es)

theorem sure_number : Sure number? := by
  rw [number?_eq]
  have hminus := sure_unsigned.map fun ds => Json.number ('-' :: ds)
  exact hminus.ledBy (sure_unsigned.map Json.number) (.inr rfl)

/-! ## Strings -/

theorem hexDigit?_digitChar : ∀ n < 16, hexDigit? (Nat.digitChar n) = some n := by decide

/-- A character that needs no escape stands for itself. -/
theorem units?_cons {c : Char} (hquote : c ≠ '"') (hslash : c ≠ '\\') (h : 32 ≤ c.toNat)
    (r : List Char) : units? (c :: r) = (units? r).map fun (us, r) => (.char c :: us, r) := by
  rw [units?, if_neg (by omega)]
  · cases units? r <;> rfl
  · exact fun h => hquote h
  all_goals simp [hslash]

/-- A control character is the number of its escape. -/
theorem units?_control {c : Char} (h : c.toNat < 32) (r : List Char) :
    units? ('\\' :: 'u' :: '0' :: '0' :: Nat.digitChar (c.toNat / 16) ::
      Nat.digitChar (c.toNat % 16) :: r) = (units? r).map fun (us, r) => (.char c :: us, r) := by
  have hhigh := hexDigit?_digitChar (c.toNat / 16) (by omega)
  have hlow := hexDigit?_digitChar (c.toNat % 16) (by omega)
  have hzero : hexDigit? '0' = some 0 := rfl
  have hcode : ((0 * 16 + 0) * 16 + c.toNat / 16) * 16 + c.toNat % 16 = c.toNat := by omega
  have hunit : CodeUnit.ofNat c.toNat = .char c := by
    rw [CodeUnit.ofNat, if_neg (by omega), Char.ofNat_toNat]
  simp only [units?, hex?, hhigh, hlow, hzero, hcode, hunit, Option.bind_eq_bind, Option.bind_some,
    Option.pure_def]
  cases units? r <;> rfl

/-- A letter after a backslash stands for the character that it escapes. -/
theorem units?_escape {e c : Char} (h : escape? e = some c) (r : List Char) :
    units? ('\\' :: e :: r) = (units? r).map fun (us, r) => (.char c :: us, r) := by
  have hu : e ≠ 'u' := by
    rintro rfl
    cases h
  rw [units?]
  · simp only [h, Option.bind_eq_bind, Option.bind_some, Option.pure_def]
    cases units? r <;> rfl
  · simp [hu]

/-- A character inside a string is read as itself. -/
theorem units?_escapedChar (c : Char) (r : List Char) :
    units? (escapedChar c ++ r) = (units? r).map fun (us, r) => (.char c :: us, r) := by
  by_cases hescape : c ∈ ['"', '\\', '\x08', '\x0c', '\n', '\r', '\t']
  · simp only [List.mem_cons, List.not_mem_nil, or_false] at hescape
    rcases hescape with rfl | rfl | rfl | rfl | rfl | rfl | rfl <;> exact units?_escape rfl r
  · simp only [List.mem_cons, List.not_mem_nil, or_false, not_or] at hescape
    by_cases hcontrol : c.toNat < 32
    · simp only [escapedChar, hescape, hcontrol, if_true, if_false]
      exact units?_control hcontrol r
    · simp only [escapedChar, hescape, hcontrol, if_false]
      exact units?_cons hescape.1 hescape.2.1 (by omega) r

theorem units?_flatMap (cs r : List Char) :
    units? (cs.flatMap escapedChar ++ '"' :: r) = some (cs.map .char, r) := by
  induction cs with
  | nil => simp [units?]
  | cons c cs ih => simp [units?_escapedChar, ih]

theorem joinUnits?_map (cs : List Char) : joinUnits? (cs.map .char) = some cs := by
  induction cs with
  | nil => rfl
  | cons c cs ih => simp [joinUnits?, ih]

/-- A string starts with a quote, and is read up to its closing one. -/
theorem writeString_eq (s : Option String) :
    ∃ cs, writeString s = '"' :: cs ∧ ∀ r, string? (cs ++ r) = some (s, r) := by
  cases s with
  | none =>
    refine ⟨_, rfl, fun r => ?_⟩
    simp [string?, units?, hex?, hexDigit?, CodeUnit.ofNat, joinUnits?]
  | some s =>
    refine ⟨_, rfl, fun r => ?_⟩
    simp [string?, units?_flatMap, joinUnits?_map]

/-! ## Documents -/

/-- A text that is read as a number, and as nothing beside it. -/
def IsNumeral (ds : List Char) : Prop := number? ds = some (.number ds, [])

/-- All numbers of the document are numbers. -/
inductive Proper : Json → Prop
  | null : Proper .null
  | bool (b : Bool) : Proper (.bool b)
  | number {ds : List Char} (h : IsNumeral ds) : Proper (.number ds)
  | string (s : Option String) : Proper (.string s)
  | array {vs : List Json} (h : ∀ v ∈ vs, Proper v) : Proper (.array vs)
  | object {ms : List (Option String × Json)} (h : ∀ m ∈ ms, Proper m.2) : Proper (.object ms)

/-- The document is read where it is written, by enough steps. -/
def ReadsBack (v : Json) : Prop :=
  ∀ steps rest, v.write.length ≤ steps → Ends rest → value? steps (v.write ++ rest) = some (v, rest)

/-- Some text takes some step. -/
theorem readsBack_of_succ {v : Json} (hpos : 0 < v.write.length)
    (h : ∀ n rest, v.write.length ≤ n + 1 → Ends rest →
      value? (n + 1) (v.write ++ rest) = some (v, rest)) : v.ReadsBack := by
  intro steps rest hsteps hrest
  obtain ⟨n, rfl⟩ := Nat.exists_eq_add_one.2 (Nat.lt_of_lt_of_le hpos hsteps)
  exact h n rest hsteps hrest

theorem ends_writeItems (vs : List Json) (rest : List Char) : Ends (writeItems vs ++ rest) := by
  cases vs <;> exact ends_cons (by decide) _

theorem ends_writeMembers (ms : List (Option String × Json)) (rest : List Char) :
    Ends (writeMembers ms ++ rest) := by
  cases ms <;> exact ends_cons (by decide) _

theorem items?_write {v : Json} {vs : List Json} (h : ∀ w ∈ v :: vs, w.ReadsBack) {steps : Nat}
    (hsteps : (v.write ++ writeItems vs).length ≤ steps) (rest : List Char) :
    items? steps (v.write ++ (writeItems vs ++ rest)) = some (v :: vs, rest) := by
  induction vs generalizing v steps with
  | nil =>
    rw [writeItems, List.length_append, List.length_singleton] at hsteps
    obtain ⟨n, rfl⟩ := Nat.exists_eq_add_one.2 (Nat.lt_of_lt_of_le (Nat.succ_pos _) hsteps)
    have hv := h v (by simp) n (writeItems [] ++ rest) (by omega) (ends_writeItems [] rest)
    rw [items?, hv]
    rfl
  | cons w vs ih =>
    rw [writeItems, List.length_append, List.length_cons] at hsteps
    obtain ⟨n, rfl⟩ := Nat.exists_eq_add_one.2 (Nat.lt_of_lt_of_le (Nat.succ_pos _) hsteps)
    have hv := h v (by simp) n (writeItems (w :: vs) ++ rest) (by omega) (ends_writeItems _ rest)
    have hvs : items? n (w.write ++ (writeItems vs ++ rest)) = some (w :: vs, rest) :=
      ih (fun x hx => h x (List.mem_cons_of_mem _ hx)) (by omega)
    have hskip : skipSpace (writeItems (w :: vs) ++ rest) =
        ',' :: (w.write ++ (writeItems vs ++ rest)) := by
      rw [writeItems, ← List.append_assoc]
      rfl
    rw [items?, hv]
    simp only [hskip, hvs, Option.map_some]

theorem key?_writeString (key : Option String) (r : List Char) :
    key? (writeString key ++ ':' :: r) = some (key, r) := by
  obtain ⟨cs, hcs, hread⟩ := writeString_eq key
  have hskip : skipSpace ('"' :: (cs ++ ':' :: r)) = '"' :: (cs ++ ':' :: r) := rfl
  have hcolon : skipSpace (':' :: r) = ':' :: r := rfl
  rw [hcs, List.cons_append, key?, hskip]
  simp only [hread, hcolon]

theorem members?_write {m : Option String × Json} {ms : List (Option String × Json)}
    (h : ∀ n ∈ m :: ms, n.2.ReadsBack) {steps : Nat}
    (hsteps : (writeString m.1 ++ ':' :: (m.2.write ++ writeMembers ms)).length ≤ steps)
    (rest : List Char) :
    members? steps (writeString m.1 ++ ':' :: (m.2.write ++ (writeMembers ms ++ rest))) =
      some (m :: ms, rest) := by
  induction ms generalizing m steps with
  | nil =>
    simp only [writeMembers, List.length_append, List.length_cons, List.length_nil] at hsteps
    obtain ⟨n, rfl⟩ := Nat.exists_eq_add_one.2 (show 0 < steps by omega)
    have hv := h m (by simp) n (writeMembers [] ++ rest) (by omega) (ends_writeMembers [] rest)
    rw [members?, key?_writeString]
    simp only [hv]
    rfl
  | cons k ms ih =>
    simp only [writeMembers, List.length_append, List.length_cons] at hsteps
    obtain ⟨n, rfl⟩ := Nat.exists_eq_add_one.2 (show 0 < steps by omega)
    have hv := h m (by simp) n (writeMembers (k :: ms) ++ rest) (by omega)
      (ends_writeMembers _ rest)
    have hlength : (writeString k.1 ++ ':' :: (k.2.write ++ writeMembers ms)).length ≤ n := by
      simp only [List.length_append, List.length_cons]
      omega
    have hms := ih (fun x hx => h x (List.mem_cons_of_mem _ hx)) hlength
    have hskip : skipSpace (writeMembers (k :: ms) ++ rest) =
        ',' :: (writeString k.1 ++ ':' :: (k.2.write ++ (writeMembers ms ++ rest))) := by
      rw [writeMembers]
      simp [skipSpace]
    rw [members?, key?_writeString]
    simp only [hv, hskip, hms, Option.map_some]

theorem isDigit_head {cs ds r : List Char} (h : digits? cs = some (ds, r)) :
    ∃ c cs', cs = c :: cs' ∧ Digits.isDigit c = true := by
  cases cs with
  | nil => cases h
  | cons c cs =>
    refine ⟨c, cs, rfl, ?_⟩
    cases hc : Digits.isDigit c with
    | true => rfl
    | false => simp [digits?, hc] at h

/-- A number starts with a minus sign or a digit. -/
theorem number?_head {cs r : List Char} {v : Json} (h : number? cs = some (v, r)) :
    ∃ c cs', cs = c :: cs' ∧ (c = '-' ∨ Digits.isDigit c = true) := by
  unfold number? at h
  split at h
  · exact ⟨_, _, rfl, .inl rfl⟩
  · obtain ⟨⟨ds, r'⟩, hds, -⟩ := Option.map_eq_some_iff.1 h
    obtain ⟨⟨ws, r''⟩, hws, -⟩ := Option.bind_eq_some_iff.1 hds
    unfold whole? at hws
    split at hws
    · exact ⟨_, _, rfl, .inr (by decide)⟩
    · obtain ⟨c, cs', hcs, hc⟩ := isDigit_head hws
      exact ⟨c, cs', hcs, .inr hc⟩

/-- What is a number is nothing else. -/
theorem value?_of_number? {cs r : List Char} {v : Json} (h : number? cs = some (v, r))
    (steps : Nat) : value? (steps + 1) cs = some (v, r) := by
  obtain ⟨c, cs, rfl, hc⟩ := number?_head h
  have hother : c ∉ [' ', '\n', '\t', '\r', 'n', 't', 'f', '"', '[', '\x7b'] := by
    intro hmem
    simp only [List.mem_cons, List.not_mem_nil, or_false] at hmem
    rcases hmem with rfl | rfl | rfl | rfl | rfl | rfl | rfl | rfl | rfl | rfl <;>
      exact absurd hc (by decide)
  simp only [List.mem_cons, List.not_mem_nil, or_false, not_or] at hother
  have hskip : skipSpace (c :: cs) = c :: cs := by simp [skipSpace, hother]
  rw [value?, hskip]
  split
  case h_7 => exact h
  all_goals simp_all

theorem IsNumeral.readsBack {ds : List Char} (h : IsNumeral ds) : (Json.number ds).ReadsBack := by
  obtain ⟨c, cs, rfl, -⟩ := number?_head h
  refine readsBack_of_succ (Nat.succ_pos _) fun n rest _ hrest => ?_
  have hread : number? (c :: cs ++ rest) = some (.number (c :: cs), rest) :=
    sure_number _ _ _ _ h hrest
  exact value?_of_number? hread n

theorem readsBack_string (s : Option String) : (Json.string s).ReadsBack := by
  obtain ⟨cs, hcs, hread⟩ := writeString_eq s
  have hwrite : (Json.string s).write = '"' :: cs := by rw [write, hcs]
  refine readsBack_of_succ (by simp [hwrite]) fun n rest _ _ => ?_
  have hskip : skipSpace ('"' :: (cs ++ rest)) = '"' :: (cs ++ rest) := rfl
  rw [hwrite, List.cons_append, value?, hskip]
  simp only [hread, Option.map_some]

/-- An array that ends at once has no items. -/
theorem items?_of_bracket {cs r : List Char} (h : skipSpace cs = ']' :: r) (steps : Nat) :
    items? steps cs = none := by
  have hvalue (n : Nat) : value? n cs = none := by
    cases n with
    | zero => rfl
    | succ n =>
      rw [value?, h]
      rfl
  cases steps with
  | zero => rfl
  | succ n => rw [items?, hvalue]

/-- An object that ends at once has no members. -/
theorem members?_of_brace {cs r : List Char} (h : skipSpace cs = '\x7d' :: r) (steps : Nat) :
    members? steps cs = none := by
  have hkey : key? cs = none := by
    rw [key?, h]
    rfl
  cases steps with
  | zero => rfl
  | succ n => rw [members?, hkey]

theorem value?_array {n : Nat} {cs r : List Char} {vs : List Json}
    (h : items? n cs = some (vs, r)) : value? (n + 1) ('[' :: cs) = some (.array vs, r) := by
  have hskip : skipSpace ('[' :: cs) = '[' :: cs := rfl
  rw [value?, hskip]
  split
  case h_5 r hr =>
    cases hr
    -- A bracket that closes at once is looked for before any item.
    split
    · rw [items?_of_bracket ‹_›] at h
      cases h
    · rw [h, Option.map_some]
  all_goals simp_all

theorem value?_object {n : Nat} {cs r : List Char} {ms : List (Option String × Json)}
    (h : members? n cs = some (ms, r)) : value? (n + 1) ('\x7b' :: cs) = some (.object ms, r) := by
  have hskip : skipSpace ('\x7b' :: cs) = '\x7b' :: cs := rfl
  rw [value?, hskip]
  split
  case h_6 r hr =>
    cases hr
    split
    · rw [members?_of_brace ‹_›] at h
      cases h
    · rw [h, Option.map_some]
  all_goals simp_all

theorem readsBack_array {vs : List Json} (h : ∀ v ∈ vs, v.ReadsBack) :
    (Json.array vs).ReadsBack := by
  cases vs with
  | nil => exact readsBack_of_succ (by decide) fun _ _ _ _ => rfl
  | cons v vs =>
    refine readsBack_of_succ (Nat.succ_pos _) fun n rest hsteps _ => ?_
    rw [write] at hsteps ⊢
    have hitems := items?_write h (Nat.le_of_succ_le_succ hsteps) rest
    rw [List.cons_append, List.append_assoc]
    exact value?_array hitems

theorem readsBack_object {ms : List (Option String × Json)} (h : ∀ m ∈ ms, m.2.ReadsBack) :
    (Json.object ms).ReadsBack := by
  cases ms with
  | nil => exact readsBack_of_succ (by decide) fun _ _ _ _ => rfl
  | cons m ms =>
    refine readsBack_of_succ (Nat.succ_pos _) fun n rest hsteps _ => ?_
    rw [write] at hsteps ⊢
    have hlength : (writeString m.1 ++ ':' :: (m.2.write ++ writeMembers ms)).length ≤ n := by
      simpa using hsteps
    have hmembers := members?_write h hlength rest
    simp only [List.cons_append, List.append_assoc]
    exact value?_object hmembers

/-- A document whose numbers are numbers is read where it is written. -/
theorem Proper.readsBack {v : Json} (h : v.Proper) : v.ReadsBack := by
  induction h with
  | null => exact readsBack_of_succ (by decide) fun _ _ _ _ => rfl
  | bool b => cases b <;> exact readsBack_of_succ (by decide) fun _ _ _ _ => rfl
  | number h => exact h.readsBack
  | string s => exact readsBack_string s
  | array _ ih => exact readsBack_array ih
  | object _ ih => exact readsBack_object ih

/-- A document is read back from its text. -/
theorem read?_write {v : Json} (h : v.Proper) : read? v.write = some v := by
  have hread := h.readsBack (2 * v.write.length + 2) [] (by omega) ends_nil
  rw [List.append_nil] at hread
  simp only [read?, hread]
  rfl

end PolySql.Json
