import PolySql.Proofs.Expressible
import PolySql.Proofs.Logic

/-!
# The words of conflict clauses

A plain conflict clause sets columns to binds and to values that were to be inserted, under
conditions that compare columns and binds. Its words start with `ON` and go on with the target, a
`DO` and the action; in the syntax of unique keys the target is missing. Keywords stand nowhere
else, so the first `DO` ends the target and the first `WHERE` a list.

* `Conflict.IsPlain` : plain clauses;
* `Conflict.words` : the words of a clause;
* `Conflict.IsPlain.utters` : the draft of a clause says its words;
* `Conflict.IsPlain.same_of_words_eq` : the words say what the clause does.
-/

namespace PolySql

open Draft

/-! ## Plain clauses -/

/-- Comparisons of columns and binds, joined by `AND` and `OR`. -/
inductive Expr.IsFilter : Expr → Prop
  | compare {a b : Expr} (ha : a.IsAtom) {op : BinaryOp} (hop : op.IsComparison) (hb : b.IsAtom) :
      IsFilter (.binary a op b)
  | and {p q : Expr} (hp : IsFilter p) (hq : IsFilter q) : IsFilter (.binary p .and q)
  | or {p q : Expr} (hp : IsFilter p) (hq : IsFilter q) : IsFilter (.binary p .or q)

namespace Expr.IsFilter

theorem isOperation {p : Expr} (hp : p.IsFilter) : p.IsOperation := by
  induction hp with
  | compare ha hop hb => exact .binary (.atom ha) _ (.atom hb)
  | and hp hq ihp ihq => exact .binary ihp .and ihq
  | or hp hq ihp ihq => exact .binary ihp .or ihq

theorem isLogical {p : Expr} (hp : p.IsFilter) : p.IsLogical := by
  induction hp with
  | compare ha hop hb =>
    refine .binary (.atom ha) ?_ (.atom hb)
    rcases hop.eq_or with rfl | rfl | rfl | rfl | rfl | rfl | rfl | rfl <;> decide
  | and hp hq ihp ihq => exact .binary ihp (by decide) ihq
  | or hp hq ihp ihq => exact .binary ihp (by decide) ihq

end Expr.IsFilter

/-- A column that is set to a bind, or to a value that was to be inserted. -/
def Assignment.IsPlain (a : Assignment) : Prop :=
  (∃ v, a.value = .bind v) ∨ ∃ column, a.value = .excluded column

def ConflictAction.IsPlain : ConflictAction → Prop
  | .doNothing => True
  | .doUpdate assignments condition =>
    (∀ a ∈ assignments, a.IsPlain) ∧ ∀ p ∈ condition, p.IsFilter

/-- A clause whose conditions compare columns and binds, and whose assignments are plain. -/
structure Conflict.IsPlain (c : Conflict) : Prop where
  target : ∀ p ∈ c.target.condition, p.IsFilter
  action : c.action.IsPlain

/-- Plain clauses copy nothing. -/
theorem Conflict.IsPlain.tidy {c : Conflict} (hc : c.IsPlain) : ∀ e ∈ c.exprs, e.Tidy := by
  have hfilter {condition : Option Expr} (h : ∀ p ∈ condition, p.IsFilter) :
      ∀ e ∈ condition.toList, e.Tidy :=
    fun e he => (h e (Option.mem_toList.1 he)).isLogical.isFormula.tidy
  have hvalue {a : Assignment} (ha : a.IsPlain) : a.value.Tidy := by
    obtain ⟨v, hv⟩ | ⟨column, hv⟩ := ha
    · exact hv ▸ (Expr.IsAtom.bind v).tidy
    · exact hv ▸ Expr.tidy_iff.2 ⟨trivial, by simp [Expr.children]⟩
  refine List.forall_mem_append.2 ⟨hfilter hc.target, ?_⟩
  have haction := hc.action
  cases h : c.action with
  | doNothing => simp [ConflictAction.exprs]
  | doUpdate assignments condition =>
    rw [h] at haction
    exact List.forall_mem_append.2
      ⟨List.forall_mem_map.2 fun a ha => hvalue (haction.1 a ha), hfilter haction.2⟩

/-! ## Words -/

/-- A word that is a keyword. -/
def Word.keyword (w : String) : Word := .sign (.keyword w.toList)

@[simp] theorem Word.keyword_inj {w w' : String} : keyword w = keyword w' ↔ w = w' := by
  simp [keyword, String.toList_inj]

@[simp] theorem Word.keyword_eq_sign {w : String} {s : Sign} :
    keyword w = .sign s ↔ s = .keyword w.toList := by
  simp [keyword, eq_comm]

@[simp] theorem Word.keyword_ne_atom {w : String} {e : Expr} : keyword w ≠ .atom e := by
  simp [keyword]

/-- Names between commas. -/
def Word.names (ns : List String) : List Word :=
  Word.commas (ns.map fun n => [.atom (.column none n)])

/-- A condition after its keyword, or nothing. -/
def Word.filter : Option Expr → List Word
  | none => []
  | some p => Word.keyword "WHERE" :: p.words

/-- The words of a value in an assignment. -/
def UpsertSyntax.valueWords (u : UpsertSyntax) : Expr → List Word
  | .excluded c =>
    if u = .mySql then
      [Word.keyword "VALUES", .sign .leftParen, .atom (.column none c), .sign .rightParen]
    else [.atom (.column (some "excluded") c)]
  | e => e.words

def Assignment.words (u : UpsertSyntax) (a : Assignment) : List Word :=
  .atom (.column none a.column) :: .sign (.op .eq) :: u.valueWords a.value

/-- Assignments between commas. -/
def Assignment.listWords (u : UpsertSyntax) (as : List Assignment) : List Word :=
  Word.commas (as.map (words u))

namespace Conflict

def targetWords (t : ConflictTarget) : List Word :=
  if t.columns = [] then []
  else .sign .leftParen :: (Word.names t.columns ++ .sign .rightParen :: Word.filter t.condition)

def actionWords (u : UpsertSyntax) : ConflictAction → List Word
  | .doNothing => [Word.keyword "NOTHING"]
  | .doUpdate assignments condition =>
    Word.keyword "UPDATE" :: Word.keyword "SET" ::
      (Assignment.listWords u assignments ++ Word.filter condition)

/-- The words of a clause after the rows. -/
def words (u : UpsertSyntax) (c : Conflict) : List Word :=
  match u, c.action with
  | .standard, action =>
    Word.keyword "ON" :: Word.keyword "CONFLICT" ::
      (targetWords c.target ++ Word.keyword "DO" :: actionWords .standard action)
  | .mySql, .doUpdate assignments _ =>
    Word.keyword "ON" :: Word.keyword "DUPLICATE" :: Word.keyword "KEY" :: Word.keyword "UPDATE" ::
      Assignment.listWords .mySql assignments
  | .mySql, .doNothing | .unsupported, _ => []

end Conflict

/-! ## The draft of a clause -/

section Drafts

variable (d : Dialect) (scope : Scope)

theorem utters_names (n : String) (ns : List String) :
    (names (n :: ns)).Utters Word.vocabulary d true false (Word.names (n :: ns)) :=
  utters_joined name (fun n => [.atom (.column none n)]) n ns fun m _ => utters_column none m

theorem utters_filter {condition : Option Expr} (h : ∀ p ∈ condition, p.IsFilter) :
    (led " WHERE " (condition.map (Expr.draft d scope))).Utters Word.vocabulary d true true
      (Word.filter condition) := by
  cases condition with
  | none => exact utters_empty
  | some p =>
    have hword : (sql " WHERE ").Utters Word.vocabulary d false true [Word.keyword "WHERE"] :=
      utters_signs " WHERE " false true [.keyword "WHERE".toList] (by decide)
    exact hword.append ((h p rfl).isLogical.isFormula.utters d scope) (by simp)

theorem Assignment.IsPlain.utters_value {a : Assignment} (ha : a.IsPlain)
    (hu : d.upsertSyntax ≠ .unsupported) :
    (a.value.draft d scope).Utters Word.vocabulary d true false
      (d.upsertSyntax.valueWords a.value) := by
  obtain ⟨v, hv⟩ | ⟨column, hv⟩ := ha
  · rw [hv]
    exact utters_bind v
  · rw [hv, Expr.draft, Dialect.excludedDraft]
    cases hupsert : d.upsertSyntax with
    | standard => exact utters_column (some "excluded") column
    | mySql =>
      have hopen : (sql "VALUES(").Utters Word.vocabulary d false false
          [Word.keyword "VALUES", .sign .leftParen] :=
        utters_signs "VALUES(" false false [.keyword "VALUES".toList, .leftParen] (by decide)
      have hclose : (sql ")").Utters Word.vocabulary d false true [.sign .rightParen] :=
        utters_signs ")" false true [.rightParen] (by decide)
      exact ((hopen.append (utters_column none column) (by simp)).append hclose (by simp)).weaken
    | unsupported => exact absurd hupsert hu

theorem Assignment.IsPlain.utters {a : Assignment} (ha : a.IsPlain)
    (hu : d.upsertSyntax ≠ .unsupported) :
    (a.draft d scope).Utters Word.vocabulary d true false (a.words d.upsertSyntax) := by
  have hequals : (sql " = ").Utters Word.vocabulary d false true [.sign (.op .eq)] :=
    utters_signs " = " false true [.op .eq] (by decide)
  exact ((utters_column none a.column).append hequals (by simp)).append
    (ha.utters_value d scope hu) (by simp)

theorem utters_assignments {as : List Assignment} (hne : as ≠ []) (h : ∀ a ∈ as, a.IsPlain)
    (hu : d.upsertSyntax ≠ .unsupported) :
    (Assignment.listDraft d scope as).Utters Word.vocabulary d true false
      (Assignment.listWords d.upsertSyntax as) := by
  obtain ⟨a, as, rfl⟩ := List.exists_cons_of_ne_nil hne
  exact utters_joined (Assignment.draft d scope) (Assignment.words d.upsertSyntax) a as
    fun a ha => (h a ha).utters d scope hu

theorem Conflict.IsPlain.utters_target {c : Conflict} (hc : c.IsPlain) :
    (targetDraft d scope c.target).Utters Word.vocabulary d true true (targetWords c.target) := by
  rcases c with ⟨⟨_ | ⟨n, ns⟩, condition⟩, action⟩
  · exact utters_empty
  · have hopen : (sql " (").Utters Word.vocabulary d false true [.sign .leftParen] :=
      utters_signs " (" false true [.leftParen] (by decide)
    have hclose : (sql ")").Utters Word.vocabulary d true true [.sign .rightParen] :=
      utters_signs ")" true true [.rightParen] (by decide)
    have hnames := (hopen.append (utters_names d n ns) (by simp)).append hclose (by simp)
    have hwhole := hnames.append (utters_filter d scope hc.target) (by simp)
    simpa [targetDraft, targetWords] using hwhole

theorem Conflict.IsPlain.utters {c : Conflict} (hc : c.IsPlain) (hexpressible : c.Expressible d) :
    (c.draft d scope).Utters Word.vocabulary d true true (c.words d.upsertSyntax) := by
  have hconflict : (sql " ON CONFLICT").Utters Word.vocabulary d true true
      [Word.keyword "ON", Word.keyword "CONFLICT"] :=
    utters_signs " ON CONFLICT" true true [.keyword "ON".toList, .keyword "CONFLICT".toList]
      (by decide)
  have htarget := hconflict.append (hc.utters_target d scope) (by simp)
  have hupdate : (sql " DO UPDATE  SET ").Utters Word.vocabulary d false true
      [Word.keyword "DO", Word.keyword "UPDATE", Word.keyword "SET"] :=
    utters_signs " DO UPDATE  SET " false true
      [.keyword "DO".toList, .keyword "UPDATE".toList, .keyword "SET".toList] (by decide)
  rcases c with ⟨target, _ | ⟨assignments, condition⟩⟩
  · cases hu : d.upsertSyntax with
    | standard =>
      have hnothing : (sql " DO NOTHING").Utters Word.vocabulary d true true
          [Word.keyword "DO", Word.keyword "NOTHING"] :=
        utters_signs " DO NOTHING" true true [.keyword "DO".toList, .keyword "NOTHING".toList]
          (by decide)
      simpa [Conflict.draft, Conflict.words, actionWords, hu] using
        htarget.append hnothing (by simp)
    | mySql => simpa [Conflict.draft, Conflict.words, hu] using utters_empty
    | unsupported => simp [Conflict.Expressible, hu] at hexpressible
  · obtain ⟨hassignments, hcondition⟩ := hc.action
    cases hu : d.upsertSyntax with
    | standard =>
      simp only [Conflict.Expressible, hu] at hexpressible
      have hlist := utters_assignments d scope hexpressible.2.1 hassignments (by simp [hu])
      have hset := (htarget.append hupdate (by simp)).append hlist (by simp)
      simpa [Conflict.draft, Conflict.words, actionWords, hu] using
        hset.append (utters_filter d scope hcondition) (by simp)
    | mySql =>
      simp only [Conflict.Expressible, hu] at hexpressible
      have hlist := utters_assignments d scope hexpressible.2.1 hassignments (by simp [hu])
      have hkey : (sql " ON DUPLICATE KEY UPDATE ").Utters Word.vocabulary d false true
          (["ON", "DUPLICATE", "KEY", "UPDATE"].map Word.keyword) :=
        utters_signs " ON DUPLICATE KEY UPDATE " false true [.keyword "ON".toList,
          .keyword "DUPLICATE".toList, .keyword "KEY".toList, .keyword "UPDATE".toList] (by decide)
      simpa [Conflict.draft, Conflict.words, hu] using hkey.append hlist (by simp)
    | unsupported => simp [Conflict.Expressible, hu] at hexpressible

end Drafts

/-! ## Where keywords stand -/

/-- Before the first occurrence of an element two lists are equal, and so they are after it. -/
theorem append_cons_inj {α : Type} {a : α} {xs ys xs' ys' : List α} (hxs : a ∉ xs) (hys : a ∉ ys)
    (h : xs ++ a :: xs' = ys ++ a :: ys') : xs = ys ∧ xs' = ys' := by
  obtain ⟨zs, rfl, hzs⟩ | ⟨zs, rfl, hzs⟩ := List.append_eq_append_iff.1 h
  all_goals
    cases zs with
    | nil => simp_all
    | cons z zs =>
      obtain ⟨rfl, -⟩ := List.cons.inj hzs
      simp at hxs hys

namespace Word

theorem mem_of_mem_commas {xss : List (List Word)} {x : Word} (h : x ∈ commas xss) :
    x = .sign .comma ∨ ∃ xs ∈ xss, x ∈ xs := by
  induction xss with
  | nil => simp at h
  | cons xs xss ih =>
    cases xss with
    | nil => exact .inr ⟨xs, by simp, by simpa using h⟩
    | cons ys xss =>
      rw [commas_cons_cons, List.mem_append, List.mem_cons] at h
      rcases h with h | h | h
      · exact .inr ⟨xs, by simp, h⟩
      · exact .inl h
      · exact (ih h).imp_right fun ⟨zs, hzs, hx⟩ => ⟨zs, List.mem_cons_of_mem _ hzs, hx⟩

/-- Commas tell where the parts of a list end. -/
theorem commas_inj {xss yss : List (List Word)} (hxs : ∀ xs ∈ xss, .sign .comma ∉ xs)
    (hys : ∀ ys ∈ yss, .sign .comma ∉ ys) (hne : xss ≠ []) (hne' : yss ≠ [])
    (h : commas xss = commas yss) : xss = yss := by
  induction xss generalizing yss with
  | nil => exact absurd rfl hne
  | cons xs xss ih =>
    obtain ⟨ys, yss, rfl⟩ := List.exists_cons_of_ne_nil hne'
    rw [List.forall_mem_cons] at hxs hys
    cases xss with
    | nil =>
      cases yss with
      | nil => simpa using h
      | cons ys' yss =>
        rw [commas_singleton, commas_cons_cons] at h
        exact absurd (h ▸ List.mem_append_right ys List.mem_cons_self) hxs.1
    | cons xs' xss =>
      cases yss with
      | nil =>
        rw [commas_singleton, commas_cons_cons] at h
        exact absurd (h ▸ List.mem_append_right xs List.mem_cons_self) hys.1
      | cons ys' yss =>
        rw [commas_cons_cons, commas_cons_cons] at h
        obtain ⟨rfl, hrest⟩ := append_cons_inj hxs.1 hys.1 h
        rw [ih hxs.2 hys.2 (by simp) (by simp) hrest]

end Word

/-- There are no keywords in an expression. -/
theorem Phrase.keyword_notMem {n : Nat} {xs : List Word} {p : Expr} (h : Phrase n xs p)
    (w : String) : Word.keyword w ∉ xs := by
  induction h with
  | atom ha => simp [Word.keyword]
  | parens hp ih => simpa [Word.keyword] using ih
  | weaken hp hle ih => exact ih
  | @binary op _ _ _ _ hp hq ihp ihq =>
    have hsigns : Word.keyword w ∉ op.signs.map .sign := by
      cases op <;> simp [Word.keyword, BinaryOp.signs]
    simp [ihp, ihq, hsigns]
  | not hp ih => simpa [Word.keyword] using ih
  | isNull hp negated ih => cases negated <;> simpa [Word.keyword, Sign.negation] using ih
  | @isIn _ _ _ parts hne hparts negated ih ihs =>
    have hcommas : Word.keyword w ∉ Word.commas (parts.map Prod.fst) := by
      intro hmem
      obtain h | ⟨xs, hxs, hw⟩ := Word.mem_of_mem_commas hmem
      · simp [Word.keyword] at h
      · obtain ⟨x, hx, rfl⟩ := List.mem_map.1 hxs
        exact ihs x hx hw
    cases negated <;> simpa [Word.keyword, Sign.negation] using ⟨ih, hcommas⟩
  | between hp hlow hhigh negated ih ihlow ihhigh =>
    cases negated <;> simpa [Word.keyword, Sign.negation] using ⟨ih, ihlow, ihhigh⟩

theorem Expr.IsFilter.keyword_notMem {p : Expr} (hp : p.IsFilter) (w : String) :
    Word.keyword w ∉ p.words :=
  (hp.isLogical.isFormula.isRead hp.isOperation.placed).phrase.keyword_notMem w

/-! ## The words say what a clause does -/

/-- The conditions are both missing, or equal up to the grouping of chains. -/
def SameCondition : Option Expr → Option Expr → Prop :=
  Option.Rel (Expr.Regroups BinaryOp.connectives)

/-- The same action, its condition up to the grouping of chains. -/
inductive ConflictAction.Same : ConflictAction → ConflictAction → Prop
  | doNothing : Same .doNothing .doNothing
  | doUpdate (assignments : List Assignment) {condition condition' : Option Expr}
      (h : SameCondition condition condition') :
      Same (.doUpdate assignments condition) (.doUpdate assignments condition')

/-- The same clause, up to the grouping of chains; where unique keys decide what conflicts, the
columns of the target do not count. -/
structure Conflict.Same (u : UpsertSyntax) (c c' : Conflict) : Prop where
  columns : u ≠ .mySql → c.target.columns = c'.target.columns
  condition : SameCondition c.target.condition c'.target.condition
  action : c.action.Same c'.action

namespace Word

variable {condition condition' : Option Expr}

theorem filter_inj (h : ∀ p ∈ condition, p.IsFilter) (h' : ∀ p ∈ condition', p.IsFilter)
    (heq : filter condition = filter condition') : SameCondition condition condition' := by
  cases condition with
  | none =>
    cases condition' with
    | none => exact .none
    | some q => cases heq
  | some p =>
    cases condition' with
    | none => cases heq
    | some q =>
      refine .some ((h p rfl).isLogical.regroups_of_words_eq (h' q rfl).isLogical
        (h p rfl).isOperation.placed (h' q rfl).isOperation.placed ?_)
      exact (List.cons.inj heq).2

theorem keyword_notMem_filter (h : ∀ p ∈ condition, p.IsFilter) {w : String} (hw : w ≠ "WHERE") :
    keyword w ∉ filter condition := by
  cases condition with
  | none => simp [filter]
  | some p => simpa [filter, hw] using (h p rfl).keyword_notMem w

/-- The first `WHERE` ends what stands in front of a condition. -/
theorem append_filter_inj {xs ys : List Word} (hxs : keyword "WHERE" ∉ xs)
    (hys : keyword "WHERE" ∉ ys) (h : xs ++ filter condition = ys ++ filter condition') :
    xs = ys ∧ filter condition = filter condition' := by
  cases condition with
  | none =>
    cases condition' with
    | none => simpa [filter] using h
    | some q =>
      refine absurd ?_ hxs
      simp only [filter, List.append_nil] at h
      simp [h]
  | some p =>
    cases condition' with
    | none =>
      refine absurd ?_ hys
      simp only [filter, List.append_nil] at h
      simp [← h]
    | some q =>
      obtain ⟨rfl, hwords⟩ := append_cons_inj hxs hys h
      exact ⟨rfl, by rw [filter, filter, hwords]⟩

theorem sign_notMem_names (s : Sign) (hs : s ≠ .comma) (ns : List String) :
    .sign s ∉ names ns := by
  intro hmem
  obtain h | ⟨xs, hxs, hx⟩ := mem_of_mem_commas hmem
  · exact hs (Word.sign.inj h)
  · obtain ⟨n, -, rfl⟩ := List.mem_map.1 hxs
    simp at hx

theorem names_inj {ns ns' : List String} (hne : ns ≠ []) (hne' : ns' ≠ [])
    (h : names ns = names ns') : ns = ns' := by
  have hmap := commas_inj (by simp) (by simp) (by simpa using hne) (by simpa using hne') h
  refine List.map_injective_iff.2 (fun n n' heq => ?_) hmap
  simpa using heq

end Word

namespace Assignment

variable {u : UpsertSyntax} {a a' : Assignment}

theorem IsPlain.words_inj (ha : a.IsPlain) (ha' : a'.IsPlain) (h : a.words u = a'.words u) :
    a = a' := by
  rcases a with ⟨n, value⟩
  rcases a' with ⟨n', value'⟩
  rcases ha with ⟨v, rfl⟩ | ⟨c, rfl⟩ <;> rcases ha' with ⟨v', rfl⟩ | ⟨c', rfl⟩ <;>
    by_cases hu : u = .mySql
  all_goals
    simp only [words, UpsertSyntax.valueWords, hu, (Expr.IsAtom.bind _).words_eq] at h
    simp_all

/-- Apart from the equals sign there are no signs in an assignment but those of `VALUES`. -/
theorem IsPlain.sign_notMem_words (ha : a.IsPlain) {s : Sign} (hequals : s ≠ .op .eq)
    (hvalues : s ∉ [.keyword "VALUES".toList, .leftParen, .rightParen]) : .sign s ∉ a.words u := by
  rcases a with ⟨n, value⟩
  rcases ha with ⟨v, rfl⟩ | ⟨c, rfl⟩ <;> by_cases hu : u = .mySql
  all_goals
    simp only [words, UpsertSyntax.valueWords, hu, (Expr.IsAtom.bind _).words_eq]
    simp_all [Word.keyword]

theorem where_notMem_listWords {as : List Assignment} (h : ∀ a ∈ as, a.IsPlain) :
    Word.keyword "WHERE" ∉ listWords u as := by
  intro hmem
  obtain heq | ⟨xs, hxs, hx⟩ := Word.mem_of_mem_commas hmem
  · simp [Word.keyword] at heq
  · obtain ⟨a, ha, rfl⟩ := List.mem_map.1 hxs
    exact (h a ha).sign_notMem_words (by decide) (by decide) hx

theorem listWords_inj {as as' : List Assignment} (h : ∀ a ∈ as, a.IsPlain)
    (h' : ∀ a ∈ as', a.IsPlain) (hne : as ≠ []) (hne' : as' ≠ [])
    (heq : listWords u as = listWords u as') : as = as' := by
  have hcomma {as : List Assignment} (h : ∀ a ∈ as, a.IsPlain) :
      ∀ xs ∈ as.map (words u), .sign .comma ∉ xs :=
    List.forall_mem_map.2 fun a ha => (h a ha).sign_notMem_words (by decide) (by decide)
  have hmap := Word.commas_inj (hcomma h) (hcomma h') (by simpa using hne) (by simpa using hne') heq
  refine List.ext_getElem (by simpa using congrArg List.length hmap) fun k hk hk' => ?_
  have hwords : as[k].words u = as'[k].words u := by
    simpa [hk, hk'] using congrArg (·[k]?) hmap
  exact (h _ (as.getElem_mem hk)).words_inj (h' _ (as'.getElem_mem hk')) hwords

end Assignment

namespace Conflict

theorem do_notMem_targetWords {t : ConflictTarget} (h : ∀ p ∈ t.condition, p.IsFilter) :
    Word.keyword "DO" ∉ targetWords t := by
  have hnames : Word.keyword "DO" ∉ Word.names t.columns :=
    Word.sign_notMem_names _ (by decide) t.columns
  have hfilter := Word.keyword_notMem_filter h (show "DO" ≠ "WHERE" by decide)
  unfold targetWords
  split
  · simp
  · simp [hnames, hfilter]

theorem targetWords_inj {t t' : ConflictTarget} (h : t.condition ≠ none → t.columns ≠ [])
    (h' : t'.condition ≠ none → t'.columns ≠ []) (heq : targetWords t = targetWords t') :
    t.columns = t'.columns ∧ Word.filter t.condition = Word.filter t'.condition := by
  have hclose (ns : List String) : .sign .rightParen ∉ Word.names ns :=
    Word.sign_notMem_names .rightParen (by decide) ns
  unfold targetWords at heq
  by_cases hempty : t.columns = [] <;> by_cases hempty' : t'.columns = []
  · have hnone : t.condition = none := by_contra fun hne => h hne hempty
    have hnone' : t'.condition = none := by_contra fun hne => h' hne hempty'
    rw [hempty, hempty', hnone, hnone']
    exact ⟨rfl, rfl⟩
  · simp [hempty, hempty'] at heq
  · simp [hempty, hempty'] at heq
  · rw [if_neg hempty, if_neg hempty'] at heq
    obtain ⟨hnames, hfilter⟩ :=
      append_cons_inj (hclose t.columns) (hclose t'.columns) (List.cons.inj heq).2
    exact ⟨Word.names_inj hempty hempty' hnames, hfilter⟩

theorem same_of_actionWords_eq {u : UpsertSyntax} {action action' : ConflictAction}
    (h : action.IsPlain) (h' : action'.IsPlain)
    (hne : ∀ as condition, action = .doUpdate as condition → as ≠ [])
    (hne' : ∀ as condition, action' = .doUpdate as condition → as ≠ [])
    (heq : actionWords u action = actionWords u action') : action.Same action' := by
  cases action with
  | doNothing =>
    cases action' with
    | doNothing => exact .doNothing
    | doUpdate as condition => simp [actionWords] at heq
  | doUpdate as condition =>
    cases action' with
    | doNothing => simp [actionWords] at heq
    | doUpdate as' condition' =>
      have hrest := (List.cons.inj (List.cons.inj heq).2).2
      obtain ⟨hlist, hfilter⟩ := Word.append_filter_inj (Assignment.where_notMem_listWords h.1)
        (Assignment.where_notMem_listWords h'.1) hrest
      obtain rfl := Assignment.listWords_inj h.1 h'.1 (hne _ _ rfl) (hne' _ _ rfl) hlist
      exact .doUpdate as (Word.filter_inj h.2 h'.2 hfilter)

variable {d : Dialect} {c c' : Conflict}

theorem Expressible.assignments_ne_nil (h : c.Expressible d) (as : List Assignment)
    (condition : Option Expr) (haction : c.action = .doUpdate as condition) : as ≠ [] := by
  unfold Expressible at h
  rw [haction] at h
  cases hu : d.upsertSyntax with
  | standard => exact (hu ▸ h).2.1
  | mySql => exact (hu ▸ h).2.1
  | unsupported => exact (hu ▸ h).elim

theorem Expressible.columns_ne_nil (h : c.Expressible d) (hu : d.upsertSyntax = .standard) :
    c.target.condition ≠ none → c.target.columns ≠ [] := by
  rcases c with ⟨target, _ | ⟨as, condition⟩⟩
  · simpa [Expressible, hu] using h
  · simp only [Expressible, hu] at h
    exact h.1

/-- Where unique keys decide what conflicts, there are no conditions. -/
theorem Expressible.conditions_eq_none (h : c.Expressible d) (hu : d.upsertSyntax = .mySql) :
    c.target.condition = none ∧
      ∀ as condition, c.action = .doUpdate as condition → condition = none := by
  rcases c with ⟨target, _ | ⟨as, condition⟩⟩
  · simpa [Expressible, hu] using h
  · simp only [Expressible, hu] at h
    refine ⟨h.1, ?_⟩
    rintro _ _ ⟨⟩
    exact h.2.2

theorem IsPlain.same_of_standard (hc : c.IsPlain) (hc' : c'.IsPlain) (h : c.Expressible d)
    (h' : c'.Expressible d) (hu : d.upsertSyntax = .standard)
    (heq : c.words .standard = c'.words .standard) : c.Same .standard c' := by
  have hrest := (List.cons.inj (List.cons.inj heq).2).2
  obtain ⟨htarget, haction⟩ := append_cons_inj (do_notMem_targetWords hc.target)
    (do_notMem_targetWords hc'.target) hrest
  obtain ⟨hcolumns, hfilter⟩ :=
    targetWords_inj (h.columns_ne_nil hu) (h'.columns_ne_nil hu) htarget
  exact ⟨fun _ => hcolumns, Word.filter_inj hc.target hc'.target hfilter,
    same_of_actionWords_eq hc.action hc'.action h.assignments_ne_nil h'.assignments_ne_nil haction⟩

theorem IsPlain.same_of_mySql (hc : c.IsPlain) (hc' : c'.IsPlain) (h : c.Expressible d)
    (h' : c'.Expressible d) (hu : d.upsertSyntax = .mySql)
    (hignore : c.becomesIgnore d = c'.becomesIgnore d)
    (heq : c.words .mySql = c'.words .mySql) : c.Same .mySql c' := by
  obtain ⟨htarget, hcondition⟩ := h.conditions_eq_none hu
  obtain ⟨htarget', hcondition'⟩ := h'.conditions_eq_none hu
  refine ⟨fun hne => absurd rfl hne, ?_, ?_⟩
  · rw [htarget, htarget']
    exact .none
  · have hassignments := h.assignments_ne_nil
    have hassignments' := h'.assignments_ne_nil
    rcases c with ⟨target, _ | ⟨as, condition⟩⟩ <;> rcases c' with ⟨target', _ | ⟨as', condition'⟩⟩
    · exact .doNothing
    · simp [becomesIgnore, hu] at hignore
    · simp [becomesIgnore, hu] at hignore
    · obtain rfl := hcondition as condition rfl
      obtain rfl := hcondition' as' condition' rfl
      have hlist := (List.cons.inj (List.cons.inj (List.cons.inj (List.cons.inj heq).2).2).2).2
      obtain rfl := Assignment.listWords_inj hc.action.1 hc'.action.1 (hassignments as none rfl)
        (hassignments' as' none rfl) hlist
      exact .doUpdate as .none

/-- The words of a plain clause, and whether it becomes an `IGNORE`, say what it does. -/
theorem IsPlain.same_of_words_eq (hc : c.IsPlain) (hc' : c'.IsPlain) (h : c.Expressible d)
    (h' : c'.Expressible d) (hignore : c.becomesIgnore d = c'.becomesIgnore d)
    (heq : c.words d.upsertSyntax = c'.words d.upsertSyntax) : c.Same d.upsertSyntax c' := by
  cases hu : d.upsertSyntax with
  | standard => exact hc.same_of_standard hc' h h' hu (hu ▸ heq)
  | mySql => exact hc.same_of_mySql hc' h h' hu hignore (hu ▸ heq)
  | unsupported => simp [Expressible, hu] at h

/-- A clause that does not become an `IGNORE` has words. -/
theorem words_ne_nil (h : c.Expressible d) (hignore : c.becomesIgnore d = false) :
    c.words d.upsertSyntax ≠ [] := by
  rcases c with ⟨target, _ | ⟨as, condition⟩⟩ <;> cases hu : d.upsertSyntax <;>
    simp [words, Expressible, becomesIgnore, hu] at h hignore ⊢

end Conflict

end PolySql
