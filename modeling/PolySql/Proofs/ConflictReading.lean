import PolySql.Proofs.ConflictWords

/-!
# The reading of conflict clauses

An INSERT is a word or two, the table with its columns and rows, the conflict clause, and what it
gives back. Of two INSERT statements that differ only in the clause, the text and the binds differ
only in the clause and in `IGNORE`. So where they are the same, the clauses have the same words, and
they do the same.

* `Draft.Utters.eq_of_layout_eq` : what the text of a draft says;
* `Insert.tokens_draft` : the parts of an INSERT;
* `Insert.words_eq_of_render_eq` : the words of a clause out of text and binds;
* `Insert.same_conflict_of_render_eq` : the main statement.
-/

namespace PolySql

open Draft

/-- Drafts that keep their tokens apart say the same if they have the same text after as many binds,
and the same binds. -/
theorem Draft.Utters.eq_of_layout_eq {σ ι : Type} {v : Vocabulary σ ι} {d : Dialect}
    (hd : d.QuotesNames) {a b : Draft} {g g' : Bool} {xs ys : List ι}
    (ha : a.Utters v d true g xs) (hb : b.Utters v d true g' ys) (hta : a.IsTail) (htb : b.IsTail)
    (before : List Value) (hbinds : Token.binds a.tokens = Token.binds b.tokens)
    (hlayout : Token.layout d before.length a.tokens = Token.layout d before.length b.tokens) :
    xs = ys := by
  obtain ⟨s, hs, -⟩ := hta 0 ⟨true, 0⟩ ⟨id, rfl⟩
  obtain ⟨s', hs', -⟩ := htb 0 ⟨true, 0⟩ ⟨id, rfl⟩
  have hmarks : Token.marks d before.length a.tokens = Token.marks d before.length b.tokens := by
    have hscan := Token.scan_layout hd before.length hs
    rw [hlayout, Token.scan_layout hd before.length hs'] at hscan
    exact (Option.some.inj hscan).symm
  have hread := (ha.2 before [] [] fun _ => rfl).2
  have hread' := (hb.2 before [] [] fun _ => rfl).2
  simp only [Vocabulary.itemsFrom, Option.map_some, List.append_nil] at hread hread'
  rw [hmarks, hbinds, hread'] at hread
  exact (Option.some.inj hread).symm

/-- Between the same tokens, what gives the same binds and the same text has the same binds and the
same text. -/
theorem Token.middle_eq {d : Dialect} {ts us us' vs : List Token}
    (hbinds : binds (ts ++ (us ++ vs)) = binds (ts ++ (us' ++ vs)))
    (hlayout : layout d 0 (ts ++ (us ++ vs)) = layout d 0 (ts ++ (us' ++ vs))) :
    binds us = binds us' ∧ layout d (binds ts).length us = layout d (binds ts).length us' := by
  have hmiddle : binds us = binds us' := by
    simpa using hbinds
  refine ⟨hmiddle, ?_⟩
  simpa [layout_append, hmiddle] using hlayout

theorem Token.rendering_inj {d : Dialect} {ts us : List Token}
    (h : rendering d ts = rendering d us) :
    layout d 0 ts = layout d 0 us ∧ binds ts = binds us := by
  rw [rendering, rendering, Rendering.mk.injEq, String.ofList_inj] at h
  exact h

/-! ## Checks have no text -/

namespace Draft

/-- A draft that writes nothing. -/
def Silent (a : Draft) : Prop := a.tokens = []

theorem silent_empty : empty.Silent := rfl

theorem silent_fail (e : Fault) : (fail e).Silent := rfl

theorem silent_require (condition : Bool) (e : Fault) : (require condition e).Silent := by
  cases condition <;> rfl

theorem silent_only_note (condition : Bool) (e : Event) : (only condition (note e)).Silent := by
  cases condition <;> rfl

theorem Silent.append {a b : Draft} (ha : a.Silent) (hb : b.Silent) : (a ++ b).Silent := by
  cases hf : a.fault with
  | none => rw [Silent, tokens_append hf, ha, hb, List.nil_append]
  | some e => rwa [append_of_fault hf]

theorem silent_all {α : Type} {f : α → Draft} (xs : List α) (h : ∀ x ∈ xs, (f x).Silent) :
    (all (xs.map f)).Silent := by
  induction xs with
  | nil => exact silent_empty
  | cons x xs ih =>
    rw [List.forall_mem_cons] at h
    exact h.1.append (ih h.2)

end Draft

theorem Conflict.silent_checks (d : Dialect) (c : Conflict) : (c.checks d).Silent := by
  unfold Conflict.checks
  cases d.upsertSyntax with
  | unsupported => exact silent_fail _
  | standard =>
    refine (silent_require _ _).append ?_
    cases c.action with
    | doNothing => exact silent_empty
    | doUpdate assignments condition => exact (silent_require _ _).append (silent_require _ _)
  | mySql =>
    refine ((silent_require _ _).append (silent_only_note _ _)).append ?_
    cases c.action with
    | doNothing => exact silent_empty
    | doUpdate assignments condition => exact (silent_require _ _).append (silent_require _ _)

theorem Insert.silent_checks (d : Dialect) (i : Insert) : (i.checks d).Silent :=
  ((silent_require _ _).append (silent_all _ fun e _ => silent_fail e)).append
    (silent_all _ fun c _ => c.silent_checks d)

/-! ## The parts of an INSERT -/

namespace Insert

variable (d : Dialect) (scope : Scope)

/-- The words in front of the table. -/
def head (ignores : Bool) : String := if ignores then "INSERT IGNORE INTO " else "INSERT INTO "

/-- The table with its columns, and the rows. -/
def body (i : Insert) : Draft :=
  name i.table ++ only (!i.columns.isEmpty) (sql " (" ++ names i.columns ++ sql ")") ++
    sql " VALUES " ++ joined ", " (i.rows.map (rowDraft d scope))

/-- The conflict clause after the rows, if there is one. -/
def clause (conflict : Option Conflict) : Draft :=
  all (conflict.toList.map (Conflict.draft d scope))

theorem draft_eq (i : Insert) :
    i.draft d scope = i.checks d ++ (sql (head (i.conflict.any (Conflict.becomesIgnore d))) ++
      (i.body d scope ++ (clause d scope i.conflict ++ d.returningDraft scope i.returning))) := by
  simp only [draft, checks, head, body, clause, append_assoc]

theorem tokens_draft {i : Insert} (hf : (i.draft d scope).fault = none) :
    (i.draft d scope).tokens = .sql (head (i.conflict.any (Conflict.becomesIgnore d))) ::
      ((i.body d scope).tokens ++ ((clause d scope i.conflict).tokens ++
        (d.returningDraft scope i.returning).tokens)) := by
  rw [draft_eq] at hf ⊢
  simp only [fault_append_eq_none] at hf
  obtain ⟨hchecks, hhead, hbody, hclause, -⟩ := hf
  rw [tokens_append hchecks, i.silent_checks d, tokens_append hhead, tokens_append hbody,
    tokens_append hclause]
  rfl

/-! ## The words of a clause out of text and binds -/

/-- The words of a clause, and none if there is no clause. -/
def clauseWords (u : UpsertSyntax) : Option Conflict → List Word
  | none => []
  | some c => c.words u

variable {d} {conflict : Option Conflict}

theorem utters_clause (scope : Scope) (hplain : ∀ c ∈ conflict, c.IsPlain)
    (hexpressible : ∀ c ∈ conflict, c.Expressible d) :
    (clause d scope conflict).Utters Word.vocabulary d true true
      (clauseWords d.upsertSyntax conflict) := by
  cases conflict with
  | none => exact utters_empty
  | some c =>
    simpa [clause, clauseWords, all] using (hplain c rfl).utters d scope (hexpressible c rfl)

theorem isTail_clause (scope : Scope) (hplain : ∀ c ∈ conflict, c.IsPlain) :
    (clause d scope conflict).IsTail :=
  moves_all conflict.toList fun c hc =>
    c.isTail_draft d scope (hplain c (Option.mem_toList.1 hc)).tidy

/-- The first words tell whether the statement ignores conflicts. -/
theorem head_inj {b b' : Bool} {xs ys : List Char}
    (h : (head b).toList ++ xs = (head b').toList ++ ys) : b = b' ∧ xs = ys := by
  cases b <;> cases b'
  case false.true => simp [head] at h
  case true.false => simp [head] at h
  all_goals exact ⟨rfl, List.append_cancel_left h⟩

variable {c c' : Option Conflict} {r : Rendering}

theorem expressible_of_render {i : Insert} (hr : ((Statement.insert i).render d).outcome = .ok r) :
    ∀ x ∈ i.conflict, x.Expressible d := by
  obtain ⟨hf, -⟩ := Draft.finish_eq_ok hr
  obtain ⟨⟨-, -, hexpressible, -⟩, -⟩ := Insert.fault_draft_eq_none.1 hf
  exact hexpressible

/-- The text and the binds of an INSERT give the words of its clause, and whether there is an
`IGNORE`. -/
theorem words_eq_of_render_eq (hd : d.QuotesNames) (i : Insert) (hc : ∀ x ∈ c, x.IsPlain)
    (hc' : ∀ x ∈ c', x.IsPlain)
    (hr : ((Statement.insert { i with conflict := c }).render d).outcome = .ok r)
    (hr' : ((Statement.insert { i with conflict := c' }).render d).outcome = .ok r) :
    c.any (Conflict.becomesIgnore d) = c'.any (Conflict.becomesIgnore d) ∧
      clauseWords d.upsertSyntax c = clauseWords d.upsertSyntax c' := by
  let scope : Scope := .statement .insert
  let before : List Value := Token.binds (i.body d scope).tokens
  have hutters := utters_clause scope hc (expressible_of_render hr)
  have hutters' := utters_clause scope hc' (expressible_of_render hr')
  obtain ⟨hf, rfl⟩ := Draft.finish_eq_ok hr
  obtain ⟨hf', heq⟩ := Draft.finish_eq_ok hr'
  obtain ⟨hlayout, hbinds⟩ := Token.rendering_inj heq
  have htokens := tokens_draft d scope hf
  have htokens' := tokens_draft d scope hf'
  simp only [Statement.draft, Statement.draftIn, Statement.kind] at hlayout hbinds
  rw [htokens, htokens'] at hlayout hbinds
  obtain ⟨hignore, hlayout⟩ := head_inj hlayout
  obtain ⟨hbinds, hlayout⟩ := Token.middle_eq hbinds hlayout
  exact ⟨hignore, hutters.eq_of_layout_eq hd hutters' (isTail_clause scope hc)
    (isTail_clause scope hc') before hbinds hlayout⟩

/-- Two INSERT statements that differ only in their plain conflict clauses, and have the same text
and the same binds, have the same clause: the same action, assignments and conditions, up to the
grouping of `AND` chains and of `OR` chains, and the same target columns where the text has them. -/
theorem same_conflict_of_render_eq (hd : d.QuotesNames) (i : Insert) (hc : ∀ x ∈ c, x.IsPlain)
    (hc' : ∀ x ∈ c', x.IsPlain)
    (hr : ((Statement.insert { i with conflict := c }).render d).outcome = .ok r)
    (hr' : ((Statement.insert { i with conflict := c' }).render d).outcome = .ok r) :
    Option.Rel (Conflict.Same d.upsertSyntax) c c' := by
  obtain ⟨hignore, hwords⟩ := words_eq_of_render_eq hd i hc hc' hr hr'
  have hexpressible := expressible_of_render hr
  have hexpressible' := expressible_of_render hr'
  cases c with
  | none =>
    cases c' with
    | none => exact .none
    | some y => exact absurd hwords.symm (Conflict.words_ne_nil (hexpressible' y rfl) hignore.symm)
  | some x =>
    cases c' with
    | none => exact absurd hwords (Conflict.words_ne_nil (hexpressible x rfl) hignore)
    | some y =>
      exact .some ((hc x rfl).same_of_words_eq (hc' y rfl) (hexpressible x rfl)
        (hexpressible' y rfl) hignore hwords)

/-- An update under two groupings of one condition. -/
theorem same_conflict_of_regrouped_update :
    let same (n : String) : Expr := .binary (.column none n) .eq (.bind (.int 1))
    let left : Expr := .binary (.binary (same "a") .and (same "b")) .and (same "c")
    let right : Expr := .binary (same "a") .and (.binary (same "b") .and (same "c"))
    let update (p : Expr) : Conflict :=
      ⟨⟨["id"], some (same "a")⟩,
        .doUpdate [⟨"id", .excluded "id"⟩, ⟨"a", .bind (.int 2)⟩] (some p)⟩
    let insert (p : Expr) : Insert :=
      { table := "t", rows := [[.bind (.int 7)]], conflict := some (update p) }
    Dialect.postgres.QuotesNames ∧ (update left).IsPlain ∧ (update right).IsPlain ∧
      ∃ r, ((Statement.insert (insert left)).render .postgres).outcome = .ok r ∧
        ((Statement.insert (insert right)).render .postgres).outcome = .ok r ∧
        Option.Rel (Conflict.Same .standard) (some (update left)) (some (update right)) := by
  intro same left right update insert
  have hsame (n : String) : (same n).IsFilter :=
    .compare (.column none n) (.head _) (.bind (.int 1))
  have hplain {p : Expr} (hp : p.IsFilter) : (update p).IsPlain := by
    constructor
    · simpa [update] using hsame "a"
    · simpa [update, ConflictAction.IsPlain, Assignment.IsPlain] using hp
  have hleft : (update left).IsPlain := hplain (.and (.and (hsame "a") (hsame "b")) (hsame "c"))
  have hright : (update right).IsPlain := hplain (.and (hsame "a") (.and (hsame "b") (hsame "c")))
  let r : Rendering :=
    Token.rendering .postgres ((Statement.insert (insert left)).draft .postgres).tokens
  have hr : ((Statement.insert (insert left)).render .postgres).outcome = .ok r := rfl
  have hcondition (scope : Scope) : left.draft .postgres scope = right.draft .postgres scope := by
    simp [left, right, same, Expr.draft, Expr.parensUnder, BinaryOp.precedence,
      BinaryOp.isAssociative, parensIf, append_assoc]
  have hdraft : (Statement.insert (insert left)).draft .postgres =
      (Statement.insert (insert right)).draft .postgres := by
    have hclause (scope : Scope) :
        (update left).draft .postgres scope = (update right).draft .postgres scope := by
      have hupsert : Dialect.postgres.upsertSyntax = .standard := rfl
      simp [update, Conflict.draft, hupsert, hcondition]
    have hchecks : (update left).checks .postgres = (update right).checks .postgres := rfl
    simp [Statement.draft, Statement.draftIn, Statement.kind, insert, Insert.draft,
      Insert.widthFault?, Conflict.becomesIgnore, hclause, hchecks]
  have hr' : ((Statement.insert (insert right)).render .postgres).outcome = .ok r := by
    rw [Statement.render, ← hdraft]
    exact hr
  have hrel := same_conflict_of_render_eq (d := .postgres) (by decide) (insert left)
    (by simpa using hleft) (by simpa using hright) hr hr'
  exact ⟨by decide, hleft, hright, r, hr, hr', hrel⟩

end Insert

end PolySql
