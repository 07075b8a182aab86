import PolySql.Proofs.MaskedWriting
import PolySql.Proofs.Spelling
import PolySql.Proofs.Tidy

/-!
# Names and literals stay inside their quotes

A scanner that knows nothing but quotes reads from the text of a tidy statement exactly the names
and the literals that went into it, whatever characters they are made of. Outside the quotes it
finds nothing but plain characters, balanced parentheses and one placeholder for each bind, and it
finds the same there for every statement of the same shape.

* `Leaf.marks` : the quoted tokens that say a leaf;
* `Masking.contents`, `Mark.shape` : statements and marks without the contents of their quotes;
* `Draft.IsTerm.scan_rendering` : what a scanner finds in a draft;
* `Statement.scan_render` : the main statement.
-/

namespace PolySql

open Text

/-! ## The marks of a statement -/

/-- The quoted tokens that say a leaf. -/
def Leaf.marks (upsert : UpsertSyntax) : Leaf → List Mark
  | .name n => [.name n]
  | .target column => if upsert = .mySql then [] else [.name column]
  | .literal (.text s) => [.text s]
  | .literal (.date day) => [.text (.ofList day.text)]
  | .literal (.timestamp t) => [.text (.ofList t.text)]
  | .literal _ | .bind _ => []
  | .excluded column =>
    if upsert = .mySql then [.name column] else [.name "excluded", .name column]

theorem Leaf.filterMap_mark?_tokens (u : UpsertSyntax) (l : Leaf) :
    (l.tokens u).filterMap Token.mark? = l.marks u := by
  cases l with
  | literal l => cases l <;> simp [tokens, marks, Token.mark?, Literal.quotedText?]
  | target column => cases u <;> rfl
  | excluded column => cases u <;> rfl
  | _ => rfl

theorem Leaf.filterMap_mark?_flatMap (u : UpsertSyntax) (ls : List Leaf) :
    (ls.flatMap (tokens u)).filterMap Token.mark? = ls.flatMap (marks u) := by
  induction ls with
  | nil => rfl
  | cons l ls ih =>
    rw [List.flatMap_cons, List.filterMap_append, filterMap_mark?_tokens, ih, List.flatMap_cons]

theorem Token.filterMap_mark?_atoms (ts : List Token) :
    (atoms ts).filterMap mark? = ts.filterMap mark? := by
  induction ts with
  | nil => rfl
  | cons t ts ih =>
    cases t with
    | sql text => exact ih
    | _ =>
      show List.filterMap mark? (_ :: atoms ts) = _
      rw [List.filterMap_cons, List.filterMap_cons, ih]

/-! ## Contents out of sight -/

/-- Puts nothing in the place of names, and an empty text in the place of quoted literals. -/
def Masking.contents : Masking where
  name _ := ""
  literal l := if l.quotedText?.isSome then .text "" else l
  name_name _ := rfl
  literal_literal l := by cases l <;> rfl
  isFinite_literal l := by cases l <;> rfl
  startsNegative_literal l := by cases l <;> rfl

/-- A mark without the contents of its quotes. -/
def Mark.shape : Mark → Mark
  | .code c => .code c
  | .name _ => .name ""
  | .text _ => .text ""

theorem Mark.map_shape_code (cs : List Char) : (cs.map code).map shape = cs.map code := by
  rw [List.map_map]
  rfl

/-- The shape of the marks is a matter of the tokens without their contents. -/
theorem Token.map_shape_marks (d : Dialect) (count : Nat) (ts : List Token) :
    (marks d count ts).map Mark.shape = marks d count (ts.map (masked .contents)) := by
  induction ts generalizing count with
  | nil => rfl
  | cons t ts ih =>
    have hmark : t.mark?.toList.map Mark.shape = (t.masked .contents).mark?.toList := by
      cases t with
      | literal l => cases l <;> rfl
      | _ => rfl
    have houtside : t.outside d count = (t.masked .contents).outside d count := by
      cases t with
      | literal l => cases l <;> rfl
      | _ => rfl
    have hcount : t.bindCount = (t.masked .contents).bindCount := by
      cases t <;> rfl
    rw [List.map_cons, marks, marks, List.map_append, List.map_append, Mark.map_shape_code, ih,
      hmark, houtside, hcount]

theorem Statement.masked_draft_of_masked_eq (d : Dialect) (m : Masking) {s s' : Statement}
    (h : s.masked m = s'.masked m) : (s.draft d).masked m = (s'.draft d).masked m := by
  have hkind : s.kind = s'.kind := by
    rw [← s.kind_masked m, h, s'.kind_masked m]
  have hs := s.masked_draftIn m d d.placeholderStyle (.statement s.kind)
  have hs' := s'.masked_draftIn m d d.placeholderStyle (.statement s.kind)
  unfold Statement.draft
  rw [← hkind, ← hs, h, hs']

/-! ## What a scanner finds -/

theorem Draft.IsTerm.scan_rendering {d : Dialect} (hd : d.QuotesNames) {a : Draft} (ha : a.IsTerm)
    (hf : a.fault = none) :
    d.scan (Token.rendering d a.tokens).sql.toList = some (Token.marks d 0 a.tokens) ∧
      ∃ s : Token.Standing, a.tokens.foldlM Token.stand ⟨false, 0⟩ = some s ∧ s.depth = 0 := by
  obtain ⟨s, hs, hs'⟩ := ha 0 ⟨false, 0⟩ ⟨id, rfl⟩
  refine ⟨?_, s, hs, (hs' hf).depth⟩
  rw [Token.rendering, String.toList_ofList]
  exact Token.scan_layout hd 0 hs

theorem Draft.finish_eq_ok {d : Dialect} {a : Draft} {r : Rendering}
    (h : (a.finish d).outcome = .ok r) : a.fault = none ∧ r = Token.rendering d a.tokens := by
  unfold Draft.finish at h
  cases hf : a.fault with
  | some e => simp [hf] at h
  | none => simpa [hf, eq_comm] using h

/-- Scanned from left to right, the text of a tidy statement ends outside all quotes; the quoted
tokens are the names and the quoted literals of the statement in order. Outside them are plain
characters, balanced parentheses and a placeholder for each bind, and all of this is the same
for each tidy statement that differs only in the contents of its quotes. -/
theorem Statement.scan_render {d : Dialect} (hd : d.QuotesNames) (hk : d.TidyKeyword)
    {s : Statement} (hs : s.Tidy) {r : Rendering} (h : (s.render d).outcome = .ok r) :
    ∃ marks : List Mark, d.scan r.sql.toList = some marks ∧
      marks.filterMap Mark.token? = s.leaves.flatMap (Leaf.marks d.upsertSyntax) ∧
      (∀ c ∈ marks.filterMap Mark.code?, isOutside c = true) ∧
      nesting 0 (marks.filterMap Mark.code?) = some 0 ∧
      (marks.filterMap Mark.code?).countP isPlaceholder = r.binds.length ∧
      ∀ s' : Statement, s'.Tidy → s'.masked .contents = s.masked .contents →
        ∃ r' marks', (s'.render d).outcome = .ok r' ∧ d.scan r'.sql.toList = some marks' ∧
          marks'.map Mark.shape = marks.map Mark.shape := by
  obtain ⟨hf, rfl⟩ := Draft.finish_eq_ok h
  have hterm := Statement.isTerm_draftIn d (.statement s.kind) hk hs
  obtain ⟨hscan, standing, hstand, hdepth⟩ := hterm.scan_rendering hd hf
  obtain ⟨hchars, hcount, hnesting⟩ := Token.outside_marks d hstand 0
  refine ⟨_, hscan, ?_, hchars, ?_, hcount, fun s' hs' hshape => ?_⟩
  · have hspells := (s.draftIn_spells d (.statement s.kind)).1 hf
    rw [Token.token?_marks, ← Token.filterMap_mark?_atoms, hspells, Leaf.filterMap_mark?_flatMap]
  · rw [hnesting, hdepth]
  · have hdraft := Statement.masked_draft_of_masked_eq d .contents hshape
    have hf' : (s'.draft d).fault = none := by
      rw [← Draft.fault_masked (m := .contents), hdraft, Draft.fault_masked]
      exact hf
    have hterm' := Statement.isTerm_draftIn d (.statement s'.kind) hk hs'
    refine ⟨Token.rendering d (s'.draft d).tokens, _, ?_, (hterm'.scan_rendering hd hf').1, ?_⟩
    · rw [Statement.render, Draft.finish, hf']
    · rw [Token.map_shape_marks, Token.map_shape_marks]
      exact congrArg (fun a : Draft => Token.marks d 0 a.tokens) hdraft

/-- Quotes, backslashes and placeholders in a name and in a text stay there. -/
theorem Statement.scan_hostile_delete :
    let s : Statement := .delete
      { table := "t\x60; --"
        condition := some (.binary (.column none "a?") .eq (.literal (.text "\\' OR $1"))) }
    Dialect.mysql.QuotesNames ∧ Dialect.mysql.TidyKeyword ∧ s.Tidy ∧
      ∃ r, (s.render .mysql).outcome = .ok r ∧ ∃ marks, Dialect.mysql.scan r.sql.toList = some marks ∧
        marks.filterMap Mark.token? = [.name "t\x60; --", .name "a?", .text "\\' OR $1"] ∧
        (marks.filterMap Mark.code?).countP isPlaceholder = 0 := by
  intro s
  have hd : Dialect.mysql.QuotesNames := by decide
  have hk : Dialect.mysql.TidyKeyword :=
    List.all_eq_true.1 (by decide : "AUTO_INCREMENT".toList.all isWord = true)
  have hs : s.Tidy := by
    refine ⟨trivial, fun e he => ?_⟩
    obtain rfl := List.mem_singleton.1 he
    refine Expr.tidy_iff.2 ⟨trivial, fun c hc => Expr.tidy_iff.2 ?_⟩
    rcases List.mem_pair.1 hc with rfl | rfl <;> exact ⟨trivial, by simp [Expr.children]⟩
  obtain ⟨r, hr⟩ : ∃ r, (s.render .mysql).outcome = .ok r := ⟨_, rfl⟩
  obtain ⟨marks, hscan, htokens, -, -, hcount, -⟩ := scan_render hd hk hs hr
  have hleaves : s.leaves.flatMap (Leaf.marks Dialect.mysql.upsertSyntax) =
      [.name "t\x60; --", .name "a?", .text "\\' OR $1"] := by
    simp [s, leaves, Delete.leaves, Expr.leaves_eq, Expr.leavesBefore, Expr.leavesAfter,
      Expr.children, Leaf.marks]
  have hbinds : r.binds.length = 0 := by
    obtain ⟨-, rfl⟩ := Draft.finish_eq_ok hr
    rfl
  exact ⟨hd, hk, hs, r, hr, marks, hscan, htokens.trans hleaves, hcount.trans hbinds⟩

end PolySql
