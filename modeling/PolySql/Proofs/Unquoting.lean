import PolySql.Draft.Session
import PolySql.Proofs.UpsertCalls

/-!
# Quoted tokens delimit themselves

Whoever knows the dialect can take a quoted name or a text literal from the front of any text and
get back what was quoted and all that stands behind it, if the text behind does not go on with the
character that closes the token.

* `Text.readQuoted` : reads to the closing character, with pairs of characters that stand for
  something else on the way;
* `Text.readQuoted_doubled`, `Text.eq_doubled_of_readQuoted` : what was doubled is read, and with no
  pairs but doubled closing characters nothing else is;
* `Dialect.readName`, `Dialect.readNames`, `Dialect.readText` : names, names between commas, texts;
* `Dialect.names_delimit_themselves`, `Dialect.texts_delimit_themselves` : the main statements.
-/

namespace PolySql

namespace Text

/-- Reads the contents of a quoted token and leaves what stands behind it. Two characters that are a
pair stand for the text of the pair; the first closing character that starts no pair is the end. -/
def readQuoted (close : Char) (pair : Char → Char → Option (List Char)) :
    List Char → Option (List Char × List Char)
  | [] => none
  | [c] => if c = close then some ([], []) else none
  | c :: e :: cs =>
    match pair c e with
    | some xs => (readQuoted close pair cs).map (Prod.map (xs ++ ·) id)
    | none =>
      if c = close then some ([], e :: cs)
      else (readQuoted close pair (e :: cs)).map (Prod.map (c :: ·) id)

/-- A character twice in a row stands for itself. -/
def twice (close c e : Char) : Option (List Char) :=
  if c = close ∧ e = close then some [close] else none

section Reading

variable {close c : Char} {pair : Char → Char → Option (List Char)} {cs rest : List Char}

theorem readQuoted_close (h : ∀ e ∈ rest.head?, pair close e = none) :
    readQuoted close pair (close :: rest) = some ([], rest) := by
  cases rest with
  | nil => simp [readQuoted]
  | cons e rest => simp [readQuoted, h e rfl]

theorem readQuoted_pair {e : Char} {xs : List Char} (h : pair c e = some xs) :
    readQuoted close pair (c :: e :: cs) =
      (readQuoted close pair cs).map (Prod.map (xs ++ ·) id) := by
  simp [readQuoted, h]

theorem readQuoted_plain (hc : c ≠ close) (hpair : ∀ e, pair c e = none) :
    readQuoted close pair (c :: cs) =
      (readQuoted close pair cs).map (Prod.map (c :: ·) id) := by
  cases cs with
  | nil => simp [readQuoted, hc]
  | cons e cs => simp [readQuoted, hc, hpair]

/-- What was doubled is read back, whatever stands behind it, if no pair reaches across the closing
character. -/
theorem readQuoted_doubled {special : Char → Bool} (hclose : special close = true)
    (hspecial : ∀ c, special c = true → pair c c = some [c])
    (hplain : ∀ c e, special c = false → pair c e = none) (cs : List Char)
    (hrest : ∀ e ∈ rest.head?, pair close e = none) :
    readQuoted close pair (doubled special cs ++ close :: rest) = some (cs, rest) := by
  induction cs with
  | nil => exact readQuoted_close hrest
  | cons c cs ih =>
    rw [doubled]
    cases h : special c with
    | true => simp [readQuoted_pair (hspecial c h), ih]
    | false =>
      -- The closing character is special, so a plain one never ends the reading early.
      have hc : c ≠ close := by
        rintro rfl
        simp [h] at hclose
      simp [readQuoted_plain hc (fun e => hplain c e h), ih]

/-- If only a doubled closing character is a pair, then nothing is read but what was doubled. -/
theorem eq_doubled_of_readQuoted {text : List Char}
    (h : readQuoted close (twice close) text = some (cs, rest)) :
    text = doubled (· == close) cs ++ close :: rest ∧ rest.head? ≠ some close := by
  -- Along the reader: whatever it takes from the text is what doubling puts there.
  fun_induction readQuoted close (twice close) text generalizing cs with
  | case1 => cases h
  | case2 =>
    obtain ⟨rfl, rfl⟩ : [] = cs ∧ [] = rest := by simpa using h
    simp
  | case3 => cases h
  | case4 c e cs' xs hpair ih =>
    -- a closing character twice
    obtain ⟨⟨hc, he⟩, rfl⟩ : (c = close ∧ e = close) ∧ [close] = xs := by
      simpa [twice] using hpair
    subst hc he
    obtain ⟨⟨ys, _⟩, hread, heq⟩ := Option.map_eq_some_iff.1 h
    obtain ⟨rfl, rfl⟩ : e :: ys = cs ∧ _ = rest := by simpa using heq
    obtain ⟨rfl, hrest⟩ := ih hread
    exact ⟨by simp [doubled], hrest⟩
  | case5 e cs' hpair =>
    -- the end
    obtain ⟨rfl, rfl⟩ : [] = cs ∧ e :: cs' = rest := by simpa using h
    exact ⟨rfl, by simpa [twice] using hpair⟩
  | case6 c e cs' _ hc ih =>
    -- a plain character
    obtain ⟨⟨ys, _⟩, hread, heq⟩ := Option.map_eq_some_iff.1 h
    obtain ⟨rfl, rfl⟩ : c :: ys = cs ∧ _ = rest := by simpa using heq
    obtain ⟨htail, hrest⟩ := ih hread
    exact ⟨by simp [doubled, hc, htail], hrest⟩

end Reading

/-- Reads a quoted token that stands at the front. -/
def readEnclosed (left right : Char) (pair : Char → Char → Option (List Char)) :
    List Char → Option (List Char × List Char)
  | [] => none
  | c :: cs => if c = left then readQuoted right pair cs else none

theorem readEnclosed_eq_some_iff {left right : Char} {pair : Char → Char → Option (List Char)}
    {text cs rest : List Char} :
    readEnclosed left right pair text = some (cs, rest) ↔
      ∃ inner, text = left :: inner ∧ readQuoted right pair inner = some (cs, rest) := by
  cases text with
  | nil => simp [readEnclosed]
  | cons c inner => simp [readEnclosed, and_assoc, eq_comm]

theorem enclosed_append (left right : Char) (special : Char → Bool) (cs rest : List Char) :
    enclosed left right special cs ++ rest = left :: (doubled special cs ++ right :: rest) := by
  simp [enclosed]

end Text

open Text

namespace Dialect

/-! ## Names -/

/-- Reads a quoted name at the front of a text and leaves what stands behind it. -/
def readName (d : Dialect) (text : List Char) : Option (String × List Char) :=
  (readEnclosed d.quoteOpen d.quoteClose (twice d.quoteClose) text).map (Prod.map String.ofList id)

theorem readName_eq_some_iff {d : Dialect} {text rest : List Char} {n : String} :
    d.readName text = some (n, rest) ↔
      text = d.quoted n ++ rest ∧ rest.head? ≠ some d.quoteClose := by
  rw [readName, Option.map_eq_some_iff]
  constructor
  · rintro ⟨⟨cs, _⟩, hread, heq⟩
    obtain ⟨rfl, rfl⟩ : String.ofList cs = n ∧ _ = rest := by simpa using heq
    obtain ⟨inner, rfl, hinner⟩ := readEnclosed_eq_some_iff.1 hread
    obtain ⟨rfl, hrest⟩ := eq_doubled_of_readQuoted hinner
    exact ⟨by rw [quoted, enclosed_append, String.toList_ofList], hrest⟩
  · rintro ⟨rfl, hrest⟩
    refine ⟨(n.toList, rest), readEnclosed_eq_some_iff.2 ⟨_, enclosed_append .., ?_⟩, by simp⟩
    refine readQuoted_doubled (by simp) (fun c hc => ?_) (fun c e hc => ?_) _ (fun e he => ?_)
    · have hc : c = d.quoteClose := by simpa using hc
      simp [twice, hc]
    · have hc : c ≠ d.quoteClose := by simpa using hc
      simp [twice, hc]
    · have hne : e ≠ d.quoteClose := by
        rintro rfl
        exact hrest he
      simp [twice, hne]

/-- Reads names between commas up to the end of the text. -/
def readListed (d : Dialect) (text : List Char) : Option (List String) :=
  match _h : d.readName text with
  | some (n, []) => some [n]
  | some (n, ',' :: ' ' :: rest) => (d.readListed rest).map (n :: ·)
  | _ => none
termination_by text.length
decreasing_by
  rw [(readName_eq_some_iff.1 _h).1, List.length_append, List.length_cons, List.length_cons]
  omega

/-- Reads a list of names, which may be empty. -/
def readNames (d : Dialect) (text : List Char) : Option (List String) :=
  if text = [] then some [] else d.readListed text

theorem readListed_listed {d : Dialect} (hcomma : d.quoteClose ≠ ',') (n : String)
    (ns : List String) : d.readListed (d.listed (n :: ns)) = some (n :: ns) := by
  induction ns generalizing n with
  | nil =>
    have hread : d.readName (d.listed [n]) = some (n, []) :=
      readName_eq_some_iff.2 ⟨(List.append_nil _).symm, by simp⟩
    rw [readListed]
    split <;> simp_all
  | cons m ns ih =>
    -- Behind each name but the last is a comma, which cannot be taken for the closing quote.
    have hread : d.readName (d.listed (n :: m :: ns)) =
        some (n, ',' :: ' ' :: d.listed (m :: ns)) := by
      refine readName_eq_some_iff.2 ⟨by simp [listed], ?_⟩
      simpa using hcomma.symm
    rw [readListed]
    split <;> simp_all

theorem readNames_listed {d : Dialect} (hcomma : d.quoteClose ≠ ',') (ns : List String) :
    d.readNames (d.listed ns) = some ns := by
  cases ns with
  | nil => rfl
  | cons n ns =>
    have hne : d.listed (n :: ns) ≠ [] := by
      cases ns <;> simp [listed, quoted, enclosed]
    rw [readNames, if_neg hne, readListed_listed hcomma]

/-- Whatever the quotes are and whatever a name is made of, a quoted name at the front of a text is
read back together with the text behind it, just if that text does not start with the closing quote;
so two names are never quoted alike. If the closing quote is no comma, what a session writes for a
list of names is read back as that list. -/
theorem names_delimit_themselves (d : Dialect) :
    (∀ (n : String) (text rest : List Char), d.readName text = some (n, rest) ↔
      text = d.quoted n ++ rest ∧ rest.head? ≠ some d.quoteClose) ∧
    Function.Injective d.quoted ∧
    (d.quoteClose ≠ ',' → ∀ (x : Session) (ns : List String), ∃ text : List Char,
      (x.apply d (.names ns)).2 = none ∧
      ((x.apply d (.names ns)).1.rendering d).sql.toList = (x.rendering d).sql.toList ++ text ∧
      d.readNames text = some ns) := by
  refine ⟨fun n text rest => readName_eq_some_iff, fun n m h => ?_, fun hcomma x ns => ?_⟩
  · have hread (n : String) : d.readName (d.quoted n) = some (n, []) :=
      readName_eq_some_iff.2 ⟨(List.append_nil _).symm, by simp⟩
    have heq : some (n, []) = some (m, ([] : List Char)) := by rw [← hread n, h, hread m]
    exact (Prod.mk.inj (Option.some.inj heq)).1
  · refine ⟨d.listed ns, Draft.fault_names ns, ?_, readNames_listed hcomma ns⟩
    simp only [Session.apply, Session.Call.draft, Session.rendering, Token.rendering,
      String.toList_ofList, Token.layout_append, Token.layout_names]

theorem names_delimit_themselves_in_brackets :
    let d : Dialect := { generic with quoteOpen := '[', quoteClose := ']' }
    d.quoteClose ≠ ',' ∧
      (Session.apply d {} (.names ["a]", "", "], [b"])).1.rendering d =
        ⟨"[a]]], [], []], [b]", []⟩ ∧
      d.readNames "[a]]], [], []], [b]".toList = some ["a]", "", "], [b"] := by
  intro d
  have hcomma : d.quoteClose ≠ ',' := by decide
  obtain ⟨text, -, htext, hread⟩ :=
    (names_delimit_themselves d).2.2 hcomma {} ["a]", "", "], [b"]
  have hsql : (Session.apply d {} (.names ["a]", "", "], [b"])).1.rendering d =
      ⟨"[a]]], [], []], [b]", []⟩ := by cbv
  rw [hsql] at htext
  exact ⟨hcomma, hsql, by rwa [htext]⟩

/-! ## Texts -/

/-- What two characters inside a text literal stand for: an apostrophe twice for itself, a backslash
that escapes for whatever it makes of the next character. -/
def textPair (d : Dialect) (meaning : Char → List Char) (c e : Char) : Option (List Char) :=
  if d.escapeBackslash = true ∧ c = '\\' then some (meaning e) else twice '\'' c e

/-- Reads a text literal at the front of a text and leaves what stands behind it. -/
def readText (d : Dialect) (meaning : Char → List Char) (text : List Char) :
    Option (String × List Char) :=
  (readEnclosed '\'' '\'' (d.textPair meaning) text).map (Prod.map String.ofList id)

theorem readText_spelled (d : Dialect) {meaning : Char → List Char}
    (hmeaning : meaning '\\' = ['\\']) (s : String) {rest : List Char}
    (hrest : rest.head? ≠ some '\'') :
    d.readText meaning (d.spelled (.text s) ++ rest) = some (s, rest) := by
  rw [readText, Option.map_eq_some_iff]
  refine ⟨(s.toList, rest), readEnclosed_eq_some_iff.2 ⟨_, enclosed_append .., ?_⟩, by simp⟩
  refine readQuoted_doubled (by simp [doublesInText]) (fun c hc => ?_) (fun c e hc => ?_) _
    (fun e he => ?_)
  · obtain rfl | ⟨hesc, rfl⟩ : c = '\'' ∨ d.escapeBackslash = true ∧ c = '\\' := by
      simpa [doublesInText] using hc
    · simp [textPair, twice]
    · simp [textPair, hesc, hmeaning]
  · obtain ⟨hquote, hback⟩ : c ≠ '\'' ∧ ¬(d.escapeBackslash = true ∧ c = '\\') := by
      simpa [doublesInText] using hc
    rw [textPair, if_neg hback, twice, if_neg (fun h => hquote h.1)]
  · have hne : e ≠ '\'' := by
      rintro rfl
      exact hrest he
    simp [textPair, twice, hne]

/-- A text literal at the front of a text that does not go on with an apostrophe is read back
together with the rest, whatever the text is made of and whatever backslashes may escape besides
themselves; so two texts are never spelled alike. -/
theorem texts_delimit_themselves (d : Dialect) :
    (∀ meaning : Char → List Char, meaning '\\' = ['\\'] →
      ∀ (s : String) (rest : List Char), rest.head? ≠ some '\'' →
        d.readText meaning (d.spelled (.text s) ++ rest) = some (s, rest)) ∧
    Function.Injective fun s : String => d.spelled (.text s) := by
  refine ⟨fun meaning hmeaning s rest hrest => d.readText_spelled hmeaning s hrest, fun s t h => ?_⟩
  have hread (s : String) : d.readText List.singleton (d.spelled (.text s) ++ []) = some (s, []) :=
    d.readText_spelled rfl s (by simp)
  have heq : some (s, []) = some (t, ([] : List Char)) := by
    rw [← hread s, show d.spelled (.text s) = d.spelled (.text t) from h, hread t]
  exact (Prod.mk.inj (Option.some.inj heq)).1

/-- A backslash before an apostrophe and one at the end neither keep the literal open nor close it
early. -/
theorem texts_delimit_themselves_in_mysql :
    let meaning (c : Char) : List Char := if c = 'n' then ['\n'] else [c]
    meaning '\\' = ['\\'] ∧ " OR '1'".toList.head? ≠ some '\'' ∧
      mysql.spelled (.text "\\' --\\") = "'\\\\'' --\\\\'".toList ∧
      mysql.readText meaning "'\\\\'' --\\\\' OR '1'".toList =
        some ("\\' --\\", " OR '1'".toList) := by
  intro meaning
  have hmeaning : meaning '\\' = ['\\'] := rfl
  have hrest : " OR '1'".toList.head? ≠ some '\'' := by decide
  exact ⟨hmeaning, hrest, by decide,
    (texts_delimit_themselves mysql).1 meaning hmeaning "\\' --\\" _ hrest⟩

end Dialect

end PolySql
