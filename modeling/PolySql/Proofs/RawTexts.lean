import Mathlib.Data.List.Chain
import Mathlib.Data.List.Induction
import PolySql.Draft.Session

/-!
# Raw queries do not depend on how their text is cut

Calls that differ only in where their text is cut build one query, and calls that differ in
anything else build different ones. The query has no two texts side by side, and writing it comes
to writing its calls one by one.

* `RawQuery.SameButCuts` : two lists of calls with the same text between their other calls;
* `RawQuery.ofCalls_eq_iff` : which calls build one query;
* `Draft.ReadsAlike` : drafts with the same text, the same binds and the same fault everywhere;
* `RawQuery.reached`, `RawQuery.textFrom` : the calls that are written, and their text;
* `RawQuery.cuts_do_not_matter` : the main statement.
-/

namespace PolySql

/-- A piece that is text. -/
def Piece.isText : Piece → Bool
  | .sql _ => true
  | _ => false

/-- Two pieces that are not both text. -/
def Piece.Apart (p q : Piece) : Prop := p.isText = false ∨ q.isText = false

namespace RawQuery

/-! ## The end of a query -/

/-- The piece that a call adds. -/
def Call.piece : Call → Piece
  | .sql text => .sql text
  | .bind v => .bind v
  | .name n => .name n
  | .expr e => .expr e

theorem Call.piece_inj {c c' : Call} : c.piece = c'.piece ↔ c = c' := by
  cases c <;> cases c' <;> simp [piece]

/-- A call that adds text. -/
def Call.isText (c : Call) : Bool := c.piece.isText

/-- What is in front of the last piece stays. -/
theorem addText_append (ps : List Piece) {qs : List Piece} (hqs : qs ≠ []) (text : String) :
    addText (ps ++ qs) text = ps ++ addText qs text := by
  induction ps with
  | nil => rfl
  | cons p ps ih =>
    rw [List.cons_append, addText, ih, List.cons_append]
    exact fun _ _ hps => List.append_ne_nil_of_right_ne_nil ps hqs hps

/-- A text at the end takes up any new text; where there is none, a new text is a piece of its
own. -/
theorem addText_cases (ps : List Piece) :
    (∃ front earlier, ps = front ++ [.sql earlier] ∧
      ∀ text, addText ps text = front ++ [.sql (earlier ++ text)]) ∨
    (∀ p ∈ ps.getLast?, p.isText = false) ∧ ∀ text, addText ps text = ps ++ [.sql text] := by
  obtain rfl | ⟨front, p, rfl⟩ := ps.eq_nil_or_concat'
  · exact .inr ⟨by simp, fun _ => rfl⟩
  · have hadded (text : String) : addText (front ++ [p]) text = front ++ addText [p] text :=
      addText_append front (List.cons_ne_nil _ _) text
    cases p with
    | sql earlier => exact .inl ⟨front, earlier, rfl, hadded⟩
    | _ => exact .inr ⟨by simp [Piece.isText], fun text => by simp [hadded, addText]⟩

/-- Two texts in a row come to one. -/
theorem addText_addText (ps : List Piece) (a b : String) :
    addText (addText ps a) b = addText ps (a ++ b) := by
  have hconcat (front : List Piece) (earlier : String) :
      addText (front ++ [.sql earlier]) b = front ++ [.sql (earlier ++ b)] :=
    addText_append front (List.cons_ne_nil _ _) b
  rcases addText_cases ps with ⟨front, earlier, rfl, hadded⟩ | ⟨-, hadded⟩
  · rw [hadded, hadded, hconcat, String.append_assoc]
  · rw [hadded, hadded, hconcat]

theorem ofCalls_concat (calls : List Call) (c : Call) :
    ofCalls (calls ++ [c]) = (ofCalls calls).apply c :=
  List.foldl_append

theorem apply_of_not_isText (q : RawQuery) {c : Call} (hc : c.isText = false) :
    q.apply c = ⟨q.pieces ++ [c.piece]⟩ := by
  cases c with
  | sql text => cases hc
  | _ => rfl

/-! ## No two texts side by side -/

/-- One call keeps texts apart. -/
theorem isChain_apply {q : RawQuery} (hq : List.IsChain Piece.Apart q.pieces) (c : Call) :
    List.IsChain Piece.Apart (q.apply c).pieces := by
  have hadd {p : Piece} (hp : ∀ x ∈ q.pieces.getLast?, x.Apart p) :
      List.IsChain Piece.Apart (q.pieces ++ [p]) :=
    List.isChain_append.2 ⟨hq, .singleton p, by simpa using hp⟩
  cases c with
  | sql text =>
    show List.IsChain Piece.Apart (addText q.pieces text)
    rcases addText_cases q.pieces with ⟨front, earlier, hpieces, hadded⟩ | ⟨hlast, hadded⟩
    · rw [hpieces, List.isChain_append] at hq
      rw [hadded]
      -- The text at the end is a longer one now, and still a text.
      have hfront : ∀ x ∈ front.getLast?, x.Apart (.sql (earlier ++ text)) := fun x hx =>
        hq.2.2 x hx (.sql earlier) rfl
      exact List.isChain_append.2 ⟨hq.1, .singleton _, by simpa using hfront⟩
    · rw [hadded]
      exact hadd fun p hp => .inl (hlast p hp)
  | _ => exact hadd fun _ _ => .inr rfl

theorem isChain_ofCalls (calls : List Call) :
    List.IsChain Piece.Apart (ofCalls calls).pieces := by
  induction calls using List.reverseRecOn with
  | nil => exact .nil
  | append_singleton calls c ih =>
    rw [ofCalls_concat]
    exact isChain_apply ih c

/-! ## Calls that differ in their cuts -/

/-- The same calls, but for where a text in several calls is cut. -/
inductive SameButCuts : List Call → List Call → Prop
  | nil : SameButCuts [] []
  | other {c : Call} {cs cs' : List Call} (hc : c.isText = false) (hcs : SameButCuts cs cs') :
      SameButCuts (c :: cs) (c :: cs')
  | texts {ts ts' : List String} {cs cs' : List Call} (hts : ts ≠ []) (hts' : ts' ≠ [])
      (htext : String.join ts = String.join ts') (hcs : SameButCuts cs cs') :
      SameButCuts (ts.map .sql ++ cs) (ts'.map .sql ++ cs')

theorem foldl_apply_texts (q : RawQuery) {ts : List String} (hts : ts ≠ []) :
    (ts.map Call.sql).foldl apply q = ⟨addText q.pieces (String.join ts)⟩ := by
  induction ts generalizing q with
  | nil => exact absurd rfl hts
  | cons t ts ih =>
    cases ts with
    | nil => simp [apply]
    | cons u us =>
      have htwo := addText_addText q.pieces t (String.join (u :: us))
      rw [← String.join_cons] at htwo
      rw [List.map_cons, List.foldl_cons, ih _ (List.cons_ne_nil u us)]
      exact congrArg mk htwo

theorem SameButCuts.foldl_apply_eq {calls calls' : List Call} (h : SameButCuts calls calls')
    (q : RawQuery) : calls.foldl apply q = calls'.foldl apply q := by
  induction h generalizing q with
  | nil => rfl
  | other hc hcs ih => exact ih _
  | texts hts hts' htext hcs ih =>
    rw [List.foldl_append, List.foldl_append, foldl_apply_texts q hts, foldl_apply_texts q hts',
      htext]
    exact ih _

/-! ## Calls that build one query -/

/-- A list of calls, cut into other calls and the longest runs of texts. -/
inductive Runs : List Call → Prop
  | nil : Runs []
  | other {c : Call} {cs : List Call} (hc : c.isText = false) (hcs : Runs cs) : Runs (c :: cs)
  | texts {ts : List String} {cs : List Call} (hts : ts ≠ [])
      (hhead : ∀ c ∈ cs.head?, c.isText = false) (hcs : Runs cs) : Runs (ts.map .sql ++ cs)

theorem runs (calls : List Call) : Runs calls := by
  induction calls with
  | nil => exact .nil
  | cons c cs ih =>
    cases c with
    | sql t =>
      cases ih with
      | nil => exact @Runs.texts [t] _ (List.cons_ne_nil t []) (by simp) .nil
      | other hc hcs =>
        exact @Runs.texts [t] _ (List.cons_ne_nil t []) (by simpa using hc) (.other hc hcs)
      | @texts ts _ _ hhead hcs => exact @Runs.texts (t :: ts) _ (List.cons_ne_nil t ts) hhead hcs
    | _ => exact .other rfl ih

/-- The pieces after calls, where there are pieces before them. -/
def built (ps : List Piece) (calls : List Call) : List Piece := (calls.foldl apply ⟨ps⟩).pieces

theorem apply_ne_nil (q : RawQuery) (c : Call) : (q.apply c).pieces ≠ [] := by
  cases c with
  | sql text =>
    show addText q.pieces text ≠ []
    rcases addText_cases q.pieces with ⟨_, _, _, hadded⟩ | ⟨_, hadded⟩ <;> simp [hadded]
  | _ => simp [apply]

theorem apply_append (ps : List Piece) {qs : List Piece} (hqs : qs ≠ []) (c : Call) :
    apply ⟨ps ++ qs⟩ c = ⟨ps ++ (apply ⟨qs⟩ c).pieces⟩ := by
  cases c with
  | sql text => exact congrArg mk (addText_append ps hqs text)
  | _ => simp [apply]

theorem built_append (ps : List Piece) {qs : List Piece} (hqs : qs ≠ []) (calls : List Call) :
    built (ps ++ qs) calls = ps ++ built qs calls := by
  induction calls generalizing qs with
  | nil => rfl
  | cons c cs ih =>
    show built (apply ⟨ps ++ qs⟩ c).pieces cs = _
    rw [apply_append ps hqs]
    exact ih (apply_ne_nil _ c)

/-- A piece stays by itself where the first call does not join it. -/
theorem built_singleton {p : Piece} {calls : List Call}
    (h : ∀ c ∈ calls.head?, p.Apart c.piece) : built [p] calls = p :: built [] calls := by
  cases calls with
  | nil => rfl
  | cons c cs =>
    have happly : apply ⟨[p]⟩ c = ⟨[p] ++ [c.piece]⟩ := by
      rcases h c rfl with hp | hc
      · cases p <;> cases c <;> first | rfl | cases hp
      · exact apply_of_not_isText _ hc
    have hempty : apply ⟨[]⟩ c = ⟨[c.piece]⟩ := by cases c <;> rfl
    show built (apply ⟨[p]⟩ c).pieces cs = p :: built (apply ⟨[]⟩ c).pieces cs
    rw [happly, hempty]
    exact built_append [p] (List.cons_ne_nil _ _) cs

theorem built_other {c : Call} (hc : c.isText = false) (cs : List Call) :
    built [] (c :: cs) = c.piece :: built [] cs := by
  show built (apply ⟨[]⟩ c).pieces cs = _
  rw [apply_of_not_isText _ hc]
  exact built_singleton fun _ _ => .inl hc

theorem built_texts {ts : List String} (hts : ts ≠ []) {cs : List Call}
    (hhead : ∀ c ∈ cs.head?, c.isText = false) :
    built [] (ts.map .sql ++ cs) = .sql (String.join ts) :: built [] cs := by
  rw [built, List.foldl_append, foldl_apply_texts _ hts]
  exact built_singleton fun c hc => .inr (hhead c hc)

/-- The pieces tell the calls, up to the cuts. -/
theorem sameButCuts_of_built_eq {calls calls' : List Call} (h : Runs calls) (h' : Runs calls')
    (heq : built [] calls = built [] calls') : SameButCuts calls calls' := by
  -- The first piece tells whether the calls start with texts, and all of what these come to.
  induction h generalizing calls' with
  | nil =>
    cases h' with
    | nil => exact .nil
    | other hc' => rw [built_other hc'] at heq; cases heq
    | texts hts' hhead' => rw [built_texts hts' hhead'] at heq; cases heq
  | @other c _ hc hcs ih =>
    rw [built_other hc] at heq
    cases h' with
    | nil => cases heq
    | other hc' hcs' =>
      rw [built_other hc', List.cons.injEq, Call.piece_inj] at heq
      obtain ⟨rfl, heq⟩ := heq
      exact .other hc (ih hcs' heq)
    | texts hts' hhead' =>
      rw [built_texts hts' hhead', List.cons.injEq] at heq
      rw [Call.isText, heq.1] at hc
      cases hc
  | texts hts hhead hcs ih =>
    rw [built_texts hts hhead] at heq
    cases h' with
    | nil => cases heq
    | other hc' =>
      rw [built_other hc', List.cons.injEq] at heq
      rw [Call.isText, ← heq.1] at hc'
      cases hc'
    | texts hts' hhead' hcs' =>
      rw [built_texts hts' hhead', List.cons.injEq, Piece.sql.injEq] at heq
      exact .texts hts hts' heq.1 (ih hcs' heq.2)

/-- Two lists of calls build one query just if they are the same but for cuts. -/
theorem ofCalls_eq_iff {calls calls' : List Call} :
    ofCalls calls = ofCalls calls' ↔ SameButCuts calls calls' :=
  ⟨fun h => sameButCuts_of_built_eq (runs calls) (runs calls') (congrArg pieces h),
    fun h => h.foldl_apply_eq {}⟩

end RawQuery

/-! ## Writing -/

/-- Drafts with the same text and the same binds wherever they are written, and the same fault. -/
structure Draft.ReadsAlike (d : Dialect) (a b : Draft) : Prop where
  layout : ∀ count, Token.layout d count a.tokens = Token.layout d count b.tokens
  binds : Token.binds a.tokens = Token.binds b.tokens
  fault : a.fault = b.fault

namespace Draft

variable {d : Dialect} {a a' b b' c : Draft}

theorem ReadsAlike.refl (a : Draft) : a.ReadsAlike d a := ⟨fun _ => rfl, rfl, rfl⟩

theorem ReadsAlike.trans (hab : a.ReadsAlike d b) (hbc : b.ReadsAlike d c) : a.ReadsAlike d c :=
  ⟨fun count => (hab.layout count).trans (hbc.layout count), hab.binds.trans hbc.binds,
    hab.fault.trans hbc.fault⟩

theorem ReadsAlike.append (ha : a.ReadsAlike d a') (hb : b.ReadsAlike d b') :
    (a ++ b).ReadsAlike d (a' ++ b') := by
  cases h : a.fault with
  | some e =>
    rw [append_of_fault h, append_of_fault (ha.fault ▸ h)]
    exact ha
  | none =>
    have h' : a'.fault = none := ha.fault ▸ h
    refine ⟨fun count => ?_, ?_, ?_⟩
    · rw [tokens_append h, tokens_append h', Token.layout_append, Token.layout_append,
        ha.layout count, ha.binds, hb.layout]
    · rw [tokens_append h, tokens_append h', Token.binds_append, Token.binds_append, ha.binds,
        hb.binds]
    · rw [fault_append, fault_append, ha.fault, hb.fault]

/-- A text in two parts reads like the whole. -/
theorem readsAlike_sql_append (s t : String) : (sql (s ++ t)).ReadsAlike d (sql s ++ sql t) := by
  refine ⟨fun count => ?_, rfl, rfl⟩
  show (s ++ t).toList ++ [] = s.toList ++ (t.toList ++ [])
  simp

theorem all_append (as bs : List Draft) : all (as ++ bs) = all as ++ all bs := by
  induction as with
  | nil => exact (empty_append _).symm
  | cons a as ih => rw [List.cons_append, all, ih, all, append_assoc]

end Draft

namespace RawQuery

open Draft

variable (d : Dialect) (scope : Scope)

/-- One call: the query with it reads like the query and then the call. -/
theorem readsAlike_apply (q : RawQuery) (c : Call) :
    (all ((q.apply c).pieces.map (Piece.draft d scope))).ReadsAlike d
      (all (q.pieces.map (Piece.draft d scope)) ++ c.piece.draft d scope) := by
  have hadd (p : Piece) : all ((q.pieces ++ [p]).map (Piece.draft d scope)) =
      all (q.pieces.map (Piece.draft d scope)) ++ p.draft d scope := by
    simp [all_append, all]
  cases c with
  | sql text =>
    show (all ((addText q.pieces text).map _)).ReadsAlike d _
    rcases addText_cases q.pieces with ⟨front, earlier, hpieces, hadded⟩ | ⟨-, hadded⟩
    · rw [hadded, hpieces]
      simp only [List.map_append, List.map_cons, List.map_nil, all_append, append_assoc, all,
        append_empty, Piece.draft, Call.piece]
      exact (ReadsAlike.refl _).append (readsAlike_sql_append earlier text)
    · rw [hadded, hadd]
      exact .refl _
  | _ =>
    rw [apply, hadd]
    exact .refl _

/-- All calls: the query reads like its calls one by one. -/
theorem readsAlike_ofCalls (calls : List Call) :
    ((ofCalls calls).expr.draft d scope).ReadsAlike d
      (all (calls.map fun c => c.piece.draft d scope)) := by
  rw [expr, Expr.draft, Piece.drafts_eq_map]
  induction calls using List.reverseRecOn with
  | nil => exact .refl _
  | append_singleton calls c ih =>
    have hlast := (readsAlike_apply d scope (ofCalls calls) c).trans (ih.append (.refl _))
    rw [ofCalls_concat]
    simpa [all_append, all] using hlast

/-! ## The text of calls -/

/-- The fault at which a call stops: only a nested expression has one. -/
def Call.fault? : Call → Option Fault
  | .expr e => (e.draft d scope).fault
  | _ => none

/-- The binds of a call: its value, or those of its nested expression. -/
def Call.binds : Call → List Value
  | .sql _ | .name _ => []
  | .bind v => [v]
  | .expr e => Token.binds (e.draft d scope).tokens

/-- The text of a call after `count` binds: text as it is, a placeholder, a quoted name, or the text
of the nested expression at the same place. -/
def Call.text (count : Nat) : Call → List Char
  | .sql text => text.toList
  | .bind _ => d.placeholder (count + 1)
  | .name n => d.quoted n
  | .expr e => Token.layout d count (e.draft d scope).tokens

/-- The calls that are written: all of them, or those up to the first that stops. -/
def reached : List Call → List Call
  | [] => []
  | c :: cs => c :: if (c.fault? d scope).isSome then [] else reached cs

/-- The texts of calls one after the other, after `count` binds. -/
def textFrom (count : Nat) : List Call → List Char
  | [] => []
  | c :: cs => c.text d scope count ++ textFrom (count + (c.binds d scope).length) cs

theorem Call.fault_draft (c : Call) : (c.piece.draft d scope).fault = c.fault? d scope := by
  cases c <;> rfl

theorem Call.binds_draft (c : Call) :
    Token.binds (c.piece.draft d scope).tokens = c.binds d scope := by
  cases c <;> rfl

theorem Call.layout_draft (count : Nat) (c : Call) :
    Token.layout d count (c.piece.draft d scope).tokens = c.text d scope count := by
  cases c with
  | expr e => rfl
  | _ => exact List.append_nil _

theorem fault_all_calls (calls : List Call) :
    (all (calls.map fun c => c.piece.draft d scope)).fault =
      calls.findSome? (Call.fault? d scope) := by
  simp [List.findSome?_map, Function.comp_def, Call.fault_draft]

theorem binds_all_calls (calls : List Call) :
    Token.binds (all (calls.map fun c => c.piece.draft d scope)).tokens =
      (reached d scope calls).flatMap (Call.binds d scope) := by
  induction calls with
  | nil => rfl
  | cons c cs ih =>
    rw [List.map_cons, all, reached, List.flatMap_cons]
    cases hfault : c.fault? d scope with
    | some e => simp [append_of_fault (c.fault_draft d scope ▸ hfault), Call.binds_draft]
    | none => simp [tokens_append (c.fault_draft d scope ▸ hfault), Call.binds_draft, ih]

theorem layout_all_calls (count : Nat) (calls : List Call) :
    Token.layout d count (all (calls.map fun c => c.piece.draft d scope)).tokens =
      textFrom d scope count (reached d scope calls) := by
  induction calls generalizing count with
  | nil => rfl
  | cons c cs ih =>
    rw [List.map_cons, all, reached, textFrom]
    cases hfault : c.fault? d scope with
    | some e =>
      simp [append_of_fault (c.fault_draft d scope ▸ hfault), Call.layout_draft, textFrom]
    | none =>
      simp [tokens_append (c.fault_draft d scope ▸ hfault), Token.layout_append,
        Call.layout_draft, Call.binds_draft, ih]

/-! ## Segments -/

/-- A call written down as a segment. -/
def Call.segment : Call → Segment
  | .sql text => .text text
  | .bind v => .bind v
  | .name n => .ident n
  | .expr e => .expr e

theorem addSegments_segments (q : RawQuery) (calls : List Call) :
    q.addSegments (calls.map Call.segment) = calls.foldl apply q := by
  induction calls generalizing q with
  | nil => rfl
  | cons c cs ih =>
    have hstep : q.addSegment c.segment = q.apply c := by cases c <;> rfl
    rw [List.map_cons, addSegments, hstep, ih, List.foldl_cons]

/-- No query has two texts side by side. Two lists of calls build one query just if they are the
same but for the cuts in runs of text. Written in any session, a query adds its calls in their
order, text as it is, placeholders, quoted names and nested expressions, and their binds in the same
order; it stops where the first nested expression does. Segments written down together build the
query of the same calls. -/
theorem cuts_do_not_matter (calls : List Call) :
    List.IsChain Piece.Apart (ofCalls calls).pieces ∧
    (∀ calls', ofCalls calls' = ofCalls calls ↔ SameButCuts calls' calls) ∧
    (∀ (d : Dialect) (x : Session),
      ((x.apply d (.expr (ofCalls calls).expr)).1.rendering d).sql = (x.rendering d).sql ++
        .ofList (textFrom d x.scope (x.rendering d).binds.length (reached d x.scope calls)) ∧
      ((x.apply d (.expr (ofCalls calls).expr)).1.rendering d).binds = (x.rendering d).binds ++
        (reached d x.scope calls).flatMap (Call.binds d x.scope) ∧
      (x.apply d (.expr (ofCalls calls).expr)).2 = calls.findSome? (Call.fault? d x.scope)) ∧
    addSegments {} (calls.map Call.segment) = ofCalls calls := by
  refine ⟨isChain_ofCalls calls, fun calls' => ofCalls_eq_iff, fun d x => ?_,
    addSegments_segments {} calls⟩
  have halike := readsAlike_ofCalls d x.scope calls
  refine ⟨?_, ?_, ?_⟩
  · rw [← String.toList_inj, String.toList_append]
    simp only [Session.rendering, Session.apply, Session.Call.draft, Token.rendering,
      String.toList_ofList, Token.layout_append, halike.layout, Nat.zero_add, layout_all_calls]
  · simp only [Session.rendering, Session.apply, Session.Call.draft, Token.rendering,
      Token.binds_append, halike.binds, binds_all_calls]
  · exact halike.fault.trans (fault_all_calls d x.scope calls)

end RawQuery

end PolySql
