import PolySql.Proofs.Placeholders

/-!
# A sub-select is the query between parentheses

An expression is written in the same way wherever it stands: the scope around it is only named in
the fault of an empty list, and what stands in front of it only moves the numbers of its
placeholders. So a sub-select writes what its query comes to on its own, between parentheses and
counting on from the binds that are there; and a raw query is the expression that it is turned into.

* `Fault.inScope`, `Draft.inScope` : a fault, and a draft, as another scope names it;
* `Expr.inScope_draft`, `Select.inScope_draft` : the scope decides nothing else;
* `Select.chunks` : the text of a SELECT around its placeholders;
* `Session.subselect_as_query` : the main statement.
-/

namespace PolySql

open Draft

/-- The fault as another scope names it; only an empty list is named after its scope. -/
def Fault.inScope (scope : Scope) : Fault → Fault
  | .emptyClause _ .inList => .emptyClause scope .inList
  | e => e

namespace Draft

variable (scope : Scope)

/-- The draft with its fault as another scope names it. -/
def inScope (a : Draft) : Draft := { a with fault := a.fault.map (Fault.inScope scope) }

@[simp] theorem inScope_empty : empty.inScope scope = empty := rfl

@[simp] theorem inScope_sql (text : String) : (sql text).inScope scope = sql text := rfl

@[simp] theorem inScope_name (n : String) : (name n).inScope scope = name n := rfl

@[simp] theorem inScope_literal (l : Literal) : (literal l).inScope scope = literal l := rfl

@[simp] theorem inScope_bind (v : Value) : (bind v).inScope scope = bind v := rfl

@[simp] theorem inScope_number (n : Nat) : (number n).inScope scope = number n := rfl

@[simp] theorem inScope_fail (e : Fault) : (fail e).inScope scope = fail (e.inScope scope) := rfl

@[simp] theorem inScope_append (a b : Draft) :
    (a ++ b).inScope scope = a.inScope scope ++ b.inScope scope := by
  rcases a with ⟨_, _, _ | _⟩ <;> simp [append_def, append, inScope]

@[simp] theorem inScope_require (condition : Bool) (e : Fault) :
    (require condition e).inScope scope = require condition (e.inScope scope) := by
  cases condition <;> rfl

@[simp] theorem inScope_only (condition : Bool) (a : Draft) :
    (only condition a).inScope scope = only condition (a.inScope scope) := by
  cases condition <;> rfl

@[simp] theorem inScope_parens (a : Draft) :
    (parens a).inScope scope = parens (a.inScope scope) := by
  simp [parens]

@[simp] theorem inScope_parensIf (condition : Bool) (a : Draft) :
    (parensIf condition a).inScope scope = parensIf condition (a.inScope scope) := by
  cases condition <;> simp [parensIf]

@[simp] theorem inScope_qualified (table : Option String) (a : Draft) :
    (qualified table a).inScope scope = qualified table (a.inScope scope) := by
  cases table <;> simp [qualified]

@[simp] theorem inScope_all (as : List Draft) :
    (all as).inScope scope = all (as.map (inScope scope)) := by
  induction as with
  | nil => rfl
  | cons a as ih => simp [all, ih]

@[simp] theorem inScope_joined (separator : String) (as : List Draft) :
    (joined separator as).inScope scope = joined separator (as.map (inScope scope)) := by
  induction as using joined.induct with
  | case1 => rfl
  | case2 a => rfl
  | case3 a b as ih => simp [joined, ih]

@[simp] theorem inScope_clause (keyword : String) (as : List Draft) :
    (clause keyword as).inScope scope = clause keyword (as.map (inScope scope)) := by
  cases as <;> simp [clause]

@[simp] theorem inScope_led (keyword : String) (a : Option Draft) :
    (led keyword a).inScope scope = led keyword (a.map (inScope scope)) := by
  cases a <;> simp [led]

end Draft

/-! ## Expressions in another scope -/

section Expressions
variable (d : Dialect) (scope scope' : Scope)

theorem Literal.inScope_draft (l : Literal) : (l.draft d).inScope scope' = l.draft d := by
  simp [Literal.draft, Fault.inScope]

theorem Dialect.inScope_excludedDraft (c : String) :
    (d.excludedDraft c).inScope scope' = d.excludedDraft c := by
  unfold Dialect.excludedDraft
  cases d.upsertSyntax <;> simp [Fault.inScope]

theorem Lock.inScope_draft (l : Lock) : l.draft.inScope scope' = l.draft := by
  cases l <;> simp [Lock.draft]

theorem Expr.map_inScope_draft {x : Option Expr}
    (h : ∀ e ∈ x.toList, (e.draft d scope).inScope scope' = e.draft d scope') :
    (x.map fun e => (e.draft d scope).inScope scope') = x.map (draft d scope') :=
  Option.map_congr fun e he => h e (Option.mem_toList.2 he)

theorem Join.inScope_draft_of {j : Join}
    (h : ∀ e ∈ j.exprs, (e.draft d scope).inScope scope' = e.draft d scope') :
    (j.draft d scope).inScope scope' = j.draft d scope' := by
  rcases j with ⟨kind, table, condition⟩
  rw [Join.exprs, List.forall_mem_cons] at h
  have hcondition := Expr.map_inScope_draft d scope scope' h.2
  simp [Join.draft, h.1, Function.comp_def, hcondition]

theorem Order.inScope_draft_of {o : Order}
    (h : (o.key.draft d scope).inScope scope' = o.key.draft d scope') :
    (o.draft d scope).inScope scope' = o.draft d scope' := by
  rcases o with ⟨key, direction⟩
  simp [Order.draft, h]

theorem Select.inScope_draft_of {s : Select}
    (h : ∀ e ∈ s.exprs, (e.draft d scope).inScope scope' = e.draft d scope') :
    (s.draft d scope).inScope scope' = s.draft d scope' := by
  rcases s with
    ⟨distinct, columns, sources, joins, condition, groupBy, having, orderBy, limit, offset, lock⟩
  simp only [Select.exprs, List.forall_mem_append, List.forall_mem_flatMap, List.forall_mem_map]
    at h
  obtain ⟨⟨⟨⟨⟨⟨hcolumns, hsources⟩, hjoins⟩, hcondition⟩, hgroupBy⟩, hhaving⟩, horderBy⟩ := h
  have hjoins' := List.map_congr_left fun j hj => Join.inScope_draft_of d scope scope' (hjoins j hj)
  have horderBy' := List.map_congr_left fun o ho =>
    Order.inScope_draft_of d scope scope' (horderBy o ho)
  simp [Select.draft, Function.comp_def, apply_ite (Draft.inScope scope'), Lock.inScope_draft,
    hjoins', horderBy', List.map_congr_left hcolumns, List.map_congr_left hsources,
    List.map_congr_left hgroupBy, Expr.map_inScope_draft d scope scope' hcondition,
    Expr.map_inScope_draft d scope scope' hhaving]

theorem Piece.inScope_draft_of {p : Piece}
    (h : ∀ e ∈ p.expr?.toList, (e.draft d scope).inScope scope' = e.draft d scope') :
    (p.draft d scope).inScope scope' = p.draft d scope' := by
  cases p with
  | expr inner => exact h inner (by simp [Piece.expr?])
  | _ => rfl

/-- An expression is written alike in all scopes, up to the scope that an empty list names. -/
theorem Expr.inScope_draft (e : Expr) : (e.draft d scope).inScope scope' = e.draft d scope' := by
  induction e using Expr.children_induction with
  | step e ih =>
    cases e with
    | literal l => exact l.inScope_draft d scope'
    | excluded c => exact d.inScope_excludedDraft scope' c
    | raw pieces =>
      have hpieces : ∀ p ∈ pieces, (p.draft d scope).inScope scope' = p.draft d scope' :=
        fun p hp => Piece.inScope_draft_of d scope scope' fun e he =>
          ih e (List.mem_filterMap.2 ⟨p, hp, Option.mem_toList.1 he⟩)
      simp [Expr.draft, Function.comp_def, List.map_congr_left hpieces]
    | call function arguments distinct =>
      have harguments := List.map_congr_left (l := arguments) ih
      simp [Expr.draft, Function.comp_def, harguments]
    | list items separator =>
      have hitems := List.map_congr_left (l := items) ih
      simp [Expr.draft, Function.comp_def, hitems]
    | isIn tested items negated =>
      rw [children, List.forall_mem_cons] at ih
      simp [Expr.draft, Function.comp_def, ih.1, List.map_congr_left ih.2, Fault.inScope]
    | subquery select => simp [Expr.draft, Select.inScope_draft_of d scope scope' ih]
    | _ => simp_all [Expr.draft, children]

theorem Select.inScope_draft (s : Select) :
    (s.draft d scope).inScope scope' = s.draft d scope' :=
  Select.inScope_draft_of d scope scope' fun e _ => e.inScope_draft d scope scope'

end Expressions

/-! ## Between parentheses -/

theorem Draft.tokens_parens {a : Draft} (h : a.fault = none) :
    (parens a).tokens = .sql "(" :: (a.tokens ++ [.sql ")"]) := by
  have hopen : (sql "(" ++ a).fault = none := by simp [fault_append, h]
  rw [parens, tokens_append hopen, tokens_append (fault_sql _)]
  rfl

/-- Text between parentheses counts on from the binds in front of it. -/
theorem Token.layout_parens (d : Dialect) (ts us : List Token) :
    layout d 0 (ts ++ .sql "(" :: (us ++ [.sql ")"])) =
      layout d 0 ts ++ '(' :: (d.woven (binds ts).length (chunks d us) ++ [')']) := by
  have hopen : "(".toList = ['('] := rfl
  have hclose : ")".toList = [')'] := rfl
  rw [layout_append, layout, layout_append, layout_eq_woven d (0 + _) us, Nat.zero_add]
  simp [layout, hopen, hclose]

/-- The text of a SELECT in front of each of its binds, and after the last one. -/
def Select.chunks (d : Dialect) (s : Select) : List (List Char) :=
  Token.chunks d (s.draft d (.statement .select)).tokens

theorem Select.outcome_build (d : Dialect) (s : Select) :
    ((Query.select s).build d).outcome =
      ((s.draft d (.statement .select)).finish d).outcome := rfl

theorem RawQuery.outcome_build (d : Dialect) (q : RawQuery) :
    ((Query.raw q).build d).outcome = ((q.expr.draft d (.statement .raw)).finish d).outcome := rfl

theorem Draft.outcome_finish_eq_ok_iff {d : Dialect} {a : Draft} {r : Rendering} :
    (a.finish d).outcome = .ok r ↔ a.fault = none ∧ r = Token.rendering d a.tokens := by
  rw [finish]
  cases a.fault <;> simp [eq_comm]

theorem Draft.outcome_finish_eq_error_iff {d : Dialect} {a : Draft} {e : Fault} :
    (a.finish d).outcome = .error e ↔ a.fault = some e := by
  rw [finish]
  cases a.fault <;> simp

/-- A draft in another scope comes to the same text and binds, or to the fault in that scope. -/
theorem Draft.outcome_finish_inScope (d : Dialect) (scope : Scope) (a : Draft) :
    ((a.inScope scope).finish d).outcome =
      (a.finish d).outcome.mapError (Fault.inScope scope) := by
  rcases a with ⟨tokens, events, fault⟩
  cases fault <;> rfl

namespace Session

variable {d : Dialect} {x : Session} {s : Select}

theorem fault_apply_subquery (d : Dialect) (x : Session) (s : Select) :
    (x.apply d (.expr (.subquery s))).2 = (s.draft d x.scope).fault :=
  fault_parensIf true _

theorem tokens_apply_subquery (h : (s.draft d x.scope).fault = none) :
    (x.apply d (.expr (.subquery s))).1.tokens =
      x.tokens ++ .sql "(" :: ((s.draft d (.statement .select)).tokens ++ [.sql ")"]) := by
  have hsame : (s.draft d x.scope).tokens = (s.draft d (.statement .select)).tokens := by
    rw [← s.inScope_draft d (.statement .select) x.scope]
    rfl
  rw [← hsame, ← Draft.tokens_parens h]
  rfl

theorem fault_apply_subquery_eq_map (d : Dialect) (x : Session) (s : Select) :
    (x.apply d (.expr (.subquery s))).2 =
      (s.draft d (.statement .select)).fault.map (Fault.inScope x.scope) := by
  rw [fault_apply_subquery, ← s.inScope_draft d (.statement .select) x.scope]
  rfl

/-- A sub-select is written exactly if its query can be built on its own, and then as the text of
the query between parentheses, with placeholders that count on from the binds in front of it, and
with the binds of the query; otherwise the fault is that of the query, where an empty list is named
after the scope around. A raw query builds as the expression that it is turned into. -/
theorem subselect_as_query (d : Dialect) (x : Session) (calls : List Select.Call) (q : RawQuery) :
    let s := Select.ofCalls calls
    let y := x.apply d (.expr (.subquery s))
    (y.2 = none ↔ ∃ r, ((Query.select s).build d).outcome = .ok r) ∧
    (∀ r, ((Query.select s).build d).outcome = .ok r →
      (s.chunks d).length = r.binds.length + 1 ∧ r.sql.toList = d.woven 0 (s.chunks d) ∧
      (y.1.rendering d).sql.toList = (x.rendering d).sql.toList ++
        '(' :: (d.woven (x.rendering d).binds.length (s.chunks d) ++ [')']) ∧
      (y.1.rendering d).binds = (x.rendering d).binds ++ r.binds) ∧
    (∀ e, ((Query.select s).build d).outcome = .error e → y.2 = some (e.inScope x.scope)) ∧
    (q.expr.render d).outcome =
      ((Query.raw q).build d).outcome.mapError (Fault.inScope .expression) := by
  intro s y
  have hfault := fault_apply_subquery_eq_map d x s
  rw [Select.outcome_build]
  refine ⟨?_, fun r hr => ?_, fun e he => ?_, ?_⟩
  · rw [hfault, Option.map_eq_none_iff]
    constructor
    · exact fun hnone => ⟨_, Draft.outcome_finish_eq_ok_iff.2 ⟨hnone, rfl⟩⟩
    · exact fun ⟨r, hr⟩ => (Draft.outcome_finish_eq_ok_iff.1 hr).1
  · obtain ⟨hnone, rfl⟩ := Draft.outcome_finish_eq_ok_iff.1 hr
    have hwritten : (s.draft d x.scope).fault = none := by
      rw [← fault_apply_subquery, hfault, hnone]
      rfl
    have htokens := tokens_apply_subquery hwritten
    refine ⟨Token.length_chunks d _, ?_, ?_, ?_⟩
    · rw [Token.rendering, String.toList_ofList, Token.layout_eq_woven]
      rfl
    · simp only [rendering, Token.rendering, String.toList_ofList]
      rw [htokens, Token.layout_parens]
      rfl
    · simp only [rendering, Token.rendering]
      rw [htokens]
      simp [Token.binds]
  · rw [hfault, Draft.outcome_finish_eq_error_iff.1 he]
    rfl
  · rw [RawQuery.outcome_build, ← Draft.outcome_finish_inScope, Expr.inScope_draft]
    rfl

/-- After a bind, a sub-select starts with the second placeholder; an empty list in it is named
after the statement around. -/
theorem subselect_counts_on_in_postgres :
    let moons (test : Expr) : List Select.Call :=
      [.columns ["id"], .source "moons", .andWhere test]
    let found := moons (.binary (.col "planet") .eq (.bind (.int 3)))
    let lost := moons (.isIn (.col "planet") [] false)
    let x : Session := ⟨.statement .delete, [.sql "mass > ", .bind (.int 7), .sql " AND id IN "]⟩
    let y := x.apply .postgres (.expr (.subquery (.ofCalls found)))
    ((Query.select (.ofCalls found)).build .postgres).outcome =
        .ok ⟨"SELECT \"id\" FROM \"moons\" WHERE \"planet\" = $1", [.int 3]⟩ ∧
      y.2 = none ∧ (y.1.rendering .postgres).binds = [.int 7, .int 3] ∧
      (y.1.rendering .postgres).sql.toList =
        "mass > $1 AND id IN (SELECT \"id\" FROM \"moons\" WHERE \"planet\" = $2)".toList ∧
      ((Query.select (.ofCalls lost)).build .postgres).outcome =
        .error (.emptyClause (.statement .select) .inList) ∧
      (x.apply .postgres (.expr (.subquery (.ofCalls lost)))).2 =
        some (.emptyClause (.statement .delete) .inList) := by
  intro moons found lost x y
  have hbuild : ((Query.select (.ofCalls found)).build .postgres).outcome =
      .ok ⟨"SELECT \"id\" FROM \"moons\" WHERE \"planet\" = $1", [.int 3]⟩ := by cbv
  have hrefused : ((Query.select (.ofCalls lost)).build .postgres).outcome =
      .error (.emptyClause (.statement .select) .inList) := by cbv
  obtain ⟨hwritten, hok, -, -⟩ := subselect_as_query .postgres x found {}
  obtain ⟨-, -, htext, hbinds⟩ := hok _ hbuild
  obtain ⟨-, -, herror, -⟩ := subselect_as_query .postgres x lost {}
  refine ⟨hbuild, hwritten.2 ⟨_, hbuild⟩, hbinds, ?_, hrefused, herror _ hrefused⟩
  rw [htext]
  cbv

end Session

end PolySql
