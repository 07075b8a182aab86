import PolySql.Draft.Rendering
import PolySql.Proofs.Alphabet

/-!
# Scanning a text

A scanner reads a text from left to right and knows nothing of SQL but its two kinds of quoted
tokens: names between the dialect's quotes and texts between apostrophes. In both of them some
characters are doubled, and one such character alone must be the closing one.

* `Mark`, `Dialect.scan` : what a scanner makes of a text;
* `Token.marks` : what a list of tokens is meant to be;
* `Token.Standing`, `Token.stand` : where the writer stands between tokens;
* `Token.scan_layout` : a scanner finds the tokens, if no two quoted ones touch.
-/

namespace PolySql

open Text

/-- What a scanner finds: characters outside quotes, names, and texts. -/
inductive Mark where
  | code (c : Char)
  | name (n : String)
  | text (s : String)
deriving DecidableEq, Repr

/-- The kinds of quoted tokens. -/
inductive Quote where
  | name
  | text
deriving DecidableEq, Repr

/-- A quoted token with these contents. -/
def Quote.mark : Quote → List Char → Mark
  | .name, cs => .name (.ofList cs)
  | .text, cs => .text (.ofList cs)

/-- What a scanner is in the middle of. -/
inductive ScanMode where
  | outside
  | inside (q : Quote) (read : List Char)
  /-- After a character that is doubled if it belongs to the contents. -/
  | pending (q : Quote) (read : List Char) (c : Char)
deriving DecidableEq, Repr

namespace Dialect

/-- The characters that are doubled inside a quoted token: the closing quote in a name; in a text
the apostrophe, and the backslash if it escapes. -/
def doubles (d : Dialect) : Quote → Char → Bool
  | .name, c => c == d.quoteClose
  | .text, c => c == '\'' || (d.escapeBackslash && c == '\\')

/-- The last character of a quoted token. -/
def closing (d : Dialect) : Quote → Char
  | .name => d.quoteClose
  | .text => '\''

/-- One character outside quotes. -/
def scanOutside (d : Dialect) (c : Char) : ScanMode × List Mark :=
  if c = d.quoteOpen then (.inside .name [], [])
  else if c = '\'' then (.inside .text [], [])
  else (.outside, [.code c])

/-- One character, with the marks that it completes. -/
def scanStep (d : Dialect) : ScanMode → Char → Option (ScanMode × List Mark)
  | .outside, c => some (d.scanOutside c)
  | .inside q read, c =>
    some (if d.doubles q c then .pending q read c else .inside q (read ++ [c]), [])
  | .pending q read p, c =>
    if c = p then some (.inside q (read ++ [c]), [])
    else if p = d.closing q then some ((d.scanOutside c).1, q.mark read :: (d.scanOutside c).2)
    else none

/-- The end of the text, which must not be in the middle of a quoted token. -/
def scanEnd (d : Dialect) : ScanMode → Option (List Mark)
  | .outside => some []
  | .inside .. => none
  | .pending q read p => if p = d.closing q then some [q.mark read] else none

/-- The marks of the rest of a text. -/
def scanFrom (d : Dialect) (mode : ScanMode) : List Char → Option (List Mark)
  | [] => d.scanEnd mode
  | c :: cs =>
    match d.scanStep mode c with
    | none => none
    | some (mode', marks) => (d.scanFrom mode' cs).map (marks ++ ·)

/-- The marks of a text, unless it ends inside a quoted token. -/
def scan (d : Dialect) (text : List Char) : Option (List Mark) := d.scanFrom .outside text

example : mysql.scan "\x60a\x60\x60?\x60 = '\\\\''', ?".toList =
    some ([.name "a\x60?", .code ' ', .code '=', .code ' ', .text "\\'"] ++
      [.code ',', .code ' ', .code '?']) := by
  decide

example : mysql.scan "a = 'b\\".toList = none := by decide

/-- The dialect quotes names with double quotes, backticks or brackets. -/
def QuotesNames (d : Dialect) : Prop :=
  (d.quoteOpen, d.quoteClose) ∈ [('"', '"'), ('\x60', '\x60'), ('[', ']')]

instance (d : Dialect) : Decidable d.QuotesNames := by
  unfold QuotesNames
  infer_instance

end Dialect

namespace Text

/-- The first character of a placeholder. -/
def isPlaceholder (c : Char) : Bool := c == '?' || c == '$'

/-- A character outside quotes. -/
def isOutside (c : Char) : Bool := isPlain c || isPlaceholder c

theorem not_isPlaceholder_of_isPlain {c : Char} (h : isPlain c = true) :
    isPlaceholder c = false := by
  rw [isPlaceholder, Bool.or_eq_false_iff, beq_eq_false_iff_ne, beq_eq_false_iff_ne]
  constructor <;>
    · rintro rfl
      exact absurd h (by decide)

theorem isOutside_of_isPlain {c : Char} (h : isPlain c = true) : isOutside c = true := by
  simp [isOutside, h]

end Text

namespace Dialect

variable {d : Dialect}

theorem QuotesNames.not_isOutside_quoteOpen (hd : d.QuotesNames) :
    isOutside d.quoteOpen = false := by
  simp only [QuotesNames, List.mem_cons, Prod.mk.injEq, List.not_mem_nil, or_false] at hd
  rcases hd with h | h | h <;> rw [h.1] <;> decide

theorem QuotesNames.not_isOutside_closing (hd : d.QuotesNames) (q : Quote) :
    isOutside (d.closing q) = false := by
  cases q with
  | text => exact (by decide : isOutside '\'' = false)
  | name =>
    simp only [QuotesNames, List.mem_cons, Prod.mk.injEq, List.not_mem_nil, or_false] at hd
    rcases hd with h | h | h <;> rw [closing, h.2] <;> decide

theorem QuotesNames.quoteOpen_ne (hd : d.QuotesNames) : d.quoteOpen ≠ '\'' := by
  simp only [QuotesNames, List.mem_cons, Prod.mk.injEq, List.not_mem_nil, or_false] at hd
  rcases hd with h | h | h <;> rw [h.1] <;> decide

theorem doubles_closing (d : Dialect) (q : Quote) : d.doubles q (d.closing q) = true := by
  cases q <;> simp [doubles, closing]

theorem doubles_name (d : Dialect) : (fun c => c == d.quoteClose) = d.doubles .name := by
  funext c
  rw [doubles]

/-- The writing doubles in a text what the scanner takes for doubled. -/
theorem doublesInText_eq_doubles (d : Dialect) : d.doublesInText = d.doubles .text := by
  funext c
  rw [doublesInText, doubles]

/-! ## Scanning what is written -/

theorem scanFrom_outside (hd : d.QuotesNames) {cs : List Char}
    (h : ∀ c ∈ cs, isOutside c = true) (rest : List Char) :
    d.scanFrom .outside (cs ++ rest) =
      (d.scanFrom .outside rest).map (cs.map .code ++ ·) := by
  induction cs with
  | nil => simp
  | cons c cs ih =>
    obtain ⟨hc, hcs⟩ := List.forall_mem_cons.1 h
    have hopen : c ≠ d.quoteOpen := by
      rintro rfl
      rw [hd.not_isOutside_quoteOpen] at hc
      cases hc
    have happstrophe : c ≠ '\'' := by
      rintro rfl
      exact absurd hc (by decide)
    have hstep : d.scanStep .outside c = some (.outside, [.code c]) := by
      rw [scanStep, scanOutside, if_neg hopen, if_neg happstrophe]
    rw [List.cons_append, scanFrom, hstep]
    simp [ih hcs, Function.comp_def]

/-- After the closing character the token is complete, unless the same character follows. -/
theorem scanFrom_pending {q : Quote} (read : List Char) {rest : List Char}
    (h : ∀ c ∈ rest.head?, c ≠ d.closing q) :
    d.scanFrom (.pending q read (d.closing q)) rest =
      (d.scanFrom .outside rest).map (q.mark read :: ·) := by
  cases rest with
  | nil => simp [scanFrom, scanEnd]
  | cons c rest =>
    have hc : c ≠ d.closing q := h c rfl
    rw [scanFrom, scanStep, if_neg hc, if_pos rfl, scanFrom, scanStep]
    simp [Function.comp_def]

/-- The contents of a quoted token are read back from their doubled form. -/
theorem scanFrom_doubled {q : Quote} (read cs rest : List Char) :
    d.scanFrom (.inside q read) (doubled (d.doubles q) cs ++ d.closing q :: rest) =
      d.scanFrom (.pending q (read ++ cs) (d.closing q)) rest := by
  induction cs generalizing read with
  | nil =>
    rw [doubled_nil, List.nil_append, List.append_nil, scanFrom, scanStep,
      if_pos (d.doubles_closing q)]
    simp
  | cons c cs ih =>
    have happend : read ++ c :: cs = read ++ [c] ++ cs := by simp
    rw [happend, ← ih, doubled]
    by_cases hc : d.doubles q c = true
    · rw [if_pos hc, List.cons_append, List.cons_append, scanFrom, scanStep, if_pos hc]
      simp [scanFrom, scanStep]
    · rw [if_neg hc, List.cons_append, scanFrom, scanStep, if_neg hc]
      simp

theorem scanFrom_name (n : String) {rest : List Char}
    (h : ∀ c ∈ rest.head?, c ≠ d.quoteClose) :
    d.scanFrom .outside (d.quoted n ++ rest) =
      (d.scanFrom .outside rest).map (.name n :: ·) := by
  have hopen : d.quoted n ++ rest =
      d.quoteOpen :: (doubled (d.doubles .name) n.toList ++ d.closing .name :: rest) := by
    simp [quoted, enclosed, doubles_name, closing]
  rw [hopen, scanFrom, scanStep, scanOutside, if_pos rfl]
  simp only [scanFrom_doubled, List.nil_append]
  rw [scanFrom_pending n.toList h]
  simp [Quote.mark, Function.comp_def]

theorem scanFrom_text (hd : d.QuotesNames) (cs : List Char) {rest : List Char}
    (h : ∀ c ∈ rest.head?, c ≠ '\'') :
    d.scanFrom .outside (d.spelledText cs ++ rest) =
      (d.scanFrom .outside rest).map (.text (.ofList cs) :: ·) := by
  have hopen : d.spelledText cs ++ rest =
      '\'' :: (doubled (d.doubles .text) cs ++ d.closing .text :: rest) := by
    simp [spelledText, enclosed, doublesInText_eq_doubles, closing]
  rw [hopen, scanFrom, scanStep, scanOutside, if_neg hd.quoteOpen_ne.symm, if_pos rfl]
  simp only [scanFrom_doubled, List.nil_append]
  rw [scanFrom_pending cs h]
  simp [Quote.mark, Function.comp_def]

end Dialect

/-! ## Tokens and their marks -/

namespace Text

/-- The number of parentheses that are open after a text; none if one closes that is not open. -/
def nesting (depth : Nat) : List Char → Option Nat
  | [] => some depth
  | c :: cs =>
    if c = '(' then nesting (depth + 1) cs
    else if c = ')' then if depth = 0 then none else nesting (depth - 1) cs
    else nesting depth cs

theorem nesting_append (depth : Nat) (xs ys : List Char) :
    nesting depth (xs ++ ys) = (nesting depth xs).bind fun n => nesting n ys := by
  induction xs generalizing depth with
  | nil => rfl
  | cons c xs ih =>
    rw [List.cons_append, nesting, nesting]
    split
    · exact ih _
    · split
      · split
        · rfl
        · exact ih _
      · exact ih _

/-- More open parentheses around a text stay open. -/
theorem nesting_add {depth n : Nat} {cs : List Char} (h : nesting depth cs = some n) (k : Nat) :
    nesting (depth + k) cs = some (n + k) := by
  induction cs generalizing depth with
  | nil =>
    cases h
    rfl
  | cons c cs ih =>
    rw [nesting] at h ⊢
    split at h
    · rw [if_pos ‹_›, Nat.add_right_comm]
      exact ih h
    · rw [if_neg ‹_›]
      split at h
      · rw [if_pos ‹_›]
        split at h
        · cases h
        · rw [if_neg (by omega), show depth + k - 1 = depth - 1 + k by omega]
          exact ih h
      · rw [if_neg ‹_›]
        exact ih h

theorem nesting_of_forall {cs : List Char} (h : ∀ c ∈ cs, c ≠ '(' ∧ c ≠ ')') (depth : Nat) :
    nesting depth cs = some depth := by
  induction cs with
  | nil => rfl
  | cons c cs ih =>
    obtain ⟨hc, hcs⟩ := List.forall_mem_cons.1 h
    rw [nesting, if_neg hc.1, if_neg hc.2, ih hcs]

theorem nesting_of_isNumeral {cs : List Char} (h : ∀ c ∈ cs, isNumeral c = true) (depth : Nat) :
    nesting depth cs = some depth := by
  refine nesting_of_forall (fun c hc => ⟨?_, ?_⟩) depth
  all_goals
    rintro rfl
    exact absurd (h _ hc) (by decide)

end Text

namespace Mark

/-- A character outside quotes. -/
def code? : Mark → Option Char
  | .code c => some c
  | _ => none

/-- A quoted token. -/
def token? : Mark → Option Mark
  | .code _ => none
  | m => some m

end Mark

namespace Token

/-- The mark of a quoted token; other tokens are read outside quotes. -/
def mark? : Token → Option Mark
  | .name n => some (.name n)
  | .literal l => l.quotedText?.map fun cs => .text (.ofList cs)
  | _ => none

/-- The text of a token that is not quoted, after a number of earlier binds. -/
def outside (d : Dialect) (count : Nat) : Token → List Char
  | .sql text => text.toList
  | .name _ => []
  | .literal l => if l.quotedText?.isSome then [] else d.spelled l
  | .bind _ => d.placeholder (count + 1)

/-- The number of binds in a token. -/
def bindCount : Token → Nat
  | .bind _ => 1
  | _ => 0

/-- What a scanner should make of tokens that come after a number of binds. -/
def marks (d : Dialect) (count : Nat) : List Token → List Mark
  | [] => []
  | t :: ts => t.mark?.toList ++ (t.outside d count).map .code ++ marks d (count + t.bindCount) ts

/-- Where the writer stands between two tokens: right after a name, a literal or a placeholder or
not, and between how many open parentheses. -/
structure Standing where
  afterAtom : Bool
  depth : Nat
deriving DecidableEq, Repr

/-- Where the writer stands after one more token. Text must be plain and open the parentheses that
it closes; between two other tokens there must be some text. -/
def stand (s : Standing) : Token → Option Standing
  | .sql text =>
    if text.toList.all isPlain then
      (nesting s.depth text.toList).map fun n => ⟨s.afterAtom && text.isEmpty, n⟩
    else none
  | _ => if s.afterAtom then none else some ⟨true, s.depth⟩

variable {d : Dialect}

theorem placeholder_isOutside (d : Dialect) (number : Nat) :
    ∀ c ∈ d.placeholder number, isOutside c = true := by
  unfold Dialect.placeholder
  split
  · exact List.all_eq_true.1 (by decide)
  · refine List.forall_mem_cons.2 ⟨by decide, fun c h => ?_⟩
    exact isOutside_of_isPlain (isPlain_of_isNumeral (Digits.ofNat_isNumeral number c h))

theorem isPlain_of_stand {s s' : Standing} {text : String} (h : stand s (.sql text) = some s') :
    (∀ c ∈ text.toList, isPlain c = true) ∧ nesting s.depth text.toList = some s'.depth ∧
      s'.afterAtom = (s.afterAtom && text.isEmpty) := by
  rw [stand] at h
  split at h
  · obtain ⟨n, hn, rfl⟩ := Option.map_eq_some_iff.1 h
    exact ⟨List.all_eq_true.1 ‹_›, hn, rfl⟩
  · cases h

/-- After an atom the rest of a text does not start with a quote. -/
theorem isOutside_head_layout {ts : List Token} {s s' : Standing} (count : Nat)
    (h : ts.foldlM stand s = some s') (hs : s.afterAtom = true) :
    ∀ c ∈ (layout d count ts).head?, isOutside c = true := by
  induction ts generalizing s with
  | nil => simp [layout]
  | cons t ts ih =>
    rw [List.foldlM_cons] at h
    obtain ⟨s₁, h₁, h₂⟩ := Option.bind_eq_some_iff.1 h
    cases t with
    | sql text =>
      obtain ⟨hplain, -, hafter⟩ := isPlain_of_stand h₁
      rw [layout]
      cases hcs : text.toList with
      | nil =>
        obtain rfl : text = "" := String.toList_eq_nil_iff.1 hcs
        exact ih h₂ (by rw [hafter, hs]; rfl)
      | cons c cs =>
        rintro _ ⟨⟩
        exact isOutside_of_isPlain (hplain c (by simp [hcs]))
    | _ => simp [stand, hs] at h₁

/-- One token is scanned as it is meant, if no quote follows where one would be taken for a part
of it. -/
theorem scanFrom_token (hd : d.QuotesNames) {t : Token} {s s' : Standing}
    (h : stand s t = some s') (count : Nat) {rest : List Char}
    (hrest : s'.afterAtom = true → ∀ c ∈ rest.head?, isOutside c = true) :
    d.scanFrom .outside (layout d count [t] ++ rest) = (d.scanFrom .outside rest).map
      (t.mark?.toList ++ (t.outside d count).map .code ++ ·) := by
  have hatom (ht : s' = ⟨true, s.depth⟩) (q : Quote) : ∀ c ∈ rest.head?, c ≠ d.closing q := by
    rintro c hc rfl
    have := hrest (by rw [ht]) _ hc
    rw [hd.not_isOutside_closing] at this
    cases this
  cases t with
  | sql text =>
    obtain ⟨hplain, -, -⟩ := isPlain_of_stand h
    simp only [layout, List.append_nil]
    exact Dialect.scanFrom_outside hd (fun c hc => isOutside_of_isPlain (hplain c hc)) rest
  | name n =>
    have hs' : s' = ⟨true, s.depth⟩ := by
      simp only [stand] at h
      split at h <;> simp_all
    simp only [layout, List.append_nil]
    exact Dialect.scanFrom_name n (hatom hs' .name)
  | literal l =>
    have hs' : s' = ⟨true, s.depth⟩ := by
      simp only [stand] at h
      split at h <;> simp_all
    simp only [layout, List.append_nil, mark?, outside]
    cases hl : l.quotedText? with
    | none =>
      exact Dialect.scanFrom_outside hd
        (fun c hc => isOutside_of_isPlain (isPlain_of_isNumeral (d.spelled_isNumeral hl c hc))) rest
    | some cs =>
      rw [d.spelled_of_quotedText? hl]
      exact Dialect.scanFrom_text hd cs (hatom hs' .text)
  | bind v =>
    simp only [layout, List.append_nil]
    exact Dialect.scanFrom_outside hd (placeholder_isOutside d (count + 1)) rest

theorem scan_layout (hd : d.QuotesNames) {ts : List Token} {s s' : Standing} (count : Nat)
    (h : ts.foldlM stand s = some s') :
    d.scan (layout d count ts) = some (marks d count ts) := by
  induction ts generalizing s count with
  | nil => rfl
  | cons t ts ih =>
    rw [List.foldlM_cons] at h
    obtain ⟨s₁, h₁, h₂⟩ := Option.bind_eq_some_iff.1 h
    have hbinds : (binds [t]).length = t.bindCount := by
      cases t <;> rfl
    have hlayout : layout d count (t :: ts) =
        layout d count [t] ++ layout d (count + t.bindCount) ts := by
      rw [← hbinds, ← layout_append]
      rfl
    have hhead := isOutside_head_layout (d := d) (count + t.bindCount) h₂
    rw [Dialect.scan, hlayout, scanFrom_token hd h₁ count hhead, marks, ← Dialect.scan, ih _ h₂]
    rfl

/-! ## What is outside quotes, and what is inside -/

theorem filterMap_token?_code (cs : List Char) : (cs.map Mark.code).filterMap Mark.token? = [] := by
  induction cs with
  | nil => rfl
  | cons c cs ih => exact ih

theorem filterMap_code?_code (cs : List Char) : (cs.map Mark.code).filterMap Mark.code? = cs := by
  induction cs with
  | nil => rfl
  | cons c cs ih => exact congrArg (c :: ·) ih

theorem filterMap_mark? (t : Token) :
    t.mark?.toList.filterMap Mark.token? = t.mark?.toList ∧
      t.mark?.toList.filterMap Mark.code? = [] := by
  cases t with
  | literal l => cases h : l.quotedText? <;> simp [mark?, h, Mark.token?, Mark.code?]
  | _ => exact ⟨rfl, rfl⟩

theorem token?_marks (d : Dialect) (count : Nat) (ts : List Token) :
    (marks d count ts).filterMap Mark.token? = ts.filterMap mark? := by
  induction ts generalizing count with
  | nil => rfl
  | cons t ts ih =>
    rw [marks, List.filterMap_append, List.filterMap_append, filterMap_token?_code,
      (filterMap_mark? t).1, ih, List.append_nil]
    cases h : t.mark? <;> simp [h]

theorem code?_marks_cons (d : Dialect) (count : Nat) (t : Token) (ts : List Token) :
    (marks d count (t :: ts)).filterMap Mark.code? =
      t.outside d count ++ (marks d (count + t.bindCount) ts).filterMap Mark.code? := by
  rw [marks, List.filterMap_append, List.filterMap_append, filterMap_code?_code,
    (filterMap_mark? t).2, List.nil_append]

theorem countP_isPlaceholder_of_isPlain {cs : List Char} (h : ∀ c ∈ cs, isPlain c = true) :
    cs.countP isPlaceholder = 0 := by
  rw [List.countP_eq_zero]
  intro c hc
  simp [not_isPlaceholder_of_isPlain (h c hc)]

theorem placeholder_outside (d : Dialect) (number depth : Nat) :
    (d.placeholder number).countP isPlaceholder = 1 ∧
      nesting depth (d.placeholder number) = some depth := by
  unfold Dialect.placeholder
  split
  · exact ⟨rfl, rfl⟩
  · have hdigits := Digits.ofNat_isNumeral number
    constructor
    · rw [List.countP_cons_of_pos (by decide),
        countP_isPlaceholder_of_isPlain fun c hc => isPlain_of_isNumeral (hdigits c hc)]
    · rw [nesting, if_neg (by decide), if_neg (by decide), nesting_of_isNumeral hdigits]

/-- One token outside quotes: its characters, its placeholder and its parentheses. -/
theorem outside_of_stand (d : Dialect) {t : Token} {s s' : Standing} (h : stand s t = some s')
    (count : Nat) : (∀ c ∈ t.outside d count, isOutside c = true) ∧
      (t.outside d count).countP isPlaceholder = t.bindCount ∧
      nesting s.depth (t.outside d count) = some s'.depth := by
  have hdepth (ht : ∀ text, t ≠ .sql text) : s'.depth = s.depth := by
    cases t <;> simp_all [stand] <;> rw [← h.2]
  cases t with
  | sql text =>
    obtain ⟨hplain, hnesting, -⟩ := isPlain_of_stand h
    exact ⟨fun c hc => isOutside_of_isPlain (hplain c hc),
      countP_isPlaceholder_of_isPlain hplain, hnesting⟩
  | name n =>
    rw [hdepth (by simp)]
    exact ⟨by simp [outside], rfl, rfl⟩
  | literal l =>
    rw [hdepth (by simp), outside]
    split
    · exact ⟨by simp, rfl, rfl⟩
    · have hplain := d.spelled_isNumeral (l := l) (by simp_all)
      exact ⟨fun c hc => isOutside_of_isPlain (isPlain_of_isNumeral (hplain c hc)),
        countP_isPlaceholder_of_isPlain fun c hc => isPlain_of_isNumeral (hplain c hc),
        nesting_of_isNumeral hplain s.depth⟩
  | bind v =>
    rw [hdepth (by simp)]
    exact ⟨placeholder_isOutside d (count + 1), placeholder_outside d (count + 1) s.depth⟩

/-- Outside quotes there are plain characters and placeholders, one for each bind, and the
parentheses are those of the tokens. -/
theorem outside_marks (d : Dialect) {ts : List Token} {s s' : Standing}
    (h : ts.foldlM stand s = some s') (count : Nat) :
    (∀ c ∈ (marks d count ts).filterMap Mark.code?, isOutside c = true) ∧
      ((marks d count ts).filterMap Mark.code?).countP isPlaceholder = (binds ts).length ∧
      nesting s.depth ((marks d count ts).filterMap Mark.code?) = some s'.depth := by
  induction ts generalizing s count with
  | nil =>
    cases h
    exact ⟨by simp [marks], rfl, rfl⟩
  | cons t ts ih =>
    rw [List.foldlM_cons] at h
    obtain ⟨s₁, h₁, h₂⟩ := Option.bind_eq_some_iff.1 h
    obtain ⟨hchars, hcount, hnesting⟩ := outside_of_stand d h₁ count
    obtain ⟨hchars', hcount', hnesting'⟩ := ih h₂ (count + t.bindCount)
    rw [code?_marks_cons]
    refine ⟨List.forall_mem_append.2 ⟨hchars, hchars'⟩, ?_, ?_⟩
    · rw [List.countP_append, hcount, hcount']
      cases t <;> simp [bindCount, binds, Nat.add_comm]
    · rw [nesting_append, hnesting]
      exact hnesting'

end Token

end PolySql
