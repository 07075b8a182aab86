import PolySql.Proofs.Balance
import PolySql.Proofs.Children

/-!
# Tidy statements

Some parts of a statement are copied as they are: raw text, locking clauses, names of functions,
types and collations, and separators of lists. A statement is tidy if what is copied is nothing but
words and commas. Whatever a tidy statement is about, its draft keeps the tokens apart and balances
the parentheses.

* `Expr.Tidy`, `Select.Tidy`, `Statement.Tidy` : what may be copied;
* `Expr.isTerm_draft`, `Select.isTerm_draft` : expressions and SELECT statements;
* `Statement.isTerm_draftIn` : all statements.
-/

namespace PolySql

open Text Draft

/-! ## What is copied -/

/-- A locking clause that is not copied. -/
def Select.TidyLock (s : Select) : Prop := ∀ clause, s.lock ≠ some (.raw clause)

/-- An expression that copies no more than words and commas, apart from its children. -/
def Expr.TidyHere : Expr → Prop
  | .raw _ => False
  | .call function _ _ => ∀ c ∈ function.toList, isWord c = true
  | .list _ separator => separator = ", "
  | .subquery select => select.TidyLock
  | _ => True

/-- An expression in which everything is tidy. -/
def Expr.Tidy (e : Expr) : Prop := ∀ x ∈ e.nodes, x.TidyHere

theorem Expr.tidy_iff {e : Expr} : e.Tidy ↔ e.TidyHere ∧ ∀ c ∈ e.children, c.Tidy := by
  unfold Expr.Tidy
  rw [nodes_eq, List.forall_mem_cons, List.forall_mem_flatMap]

/-- A SELECT in which everything is tidy. -/
def Select.Tidy (s : Select) : Prop := s.TidyLock ∧ ∀ e ∈ s.exprs, e.Tidy

/-- A column without a type or a collation that is copied. -/
def ColumnDefinition.TidyHere (c : ColumnDefinition) : Prop :=
  (∀ text, c.type ≠ .custom text) ∧ ∀ collation, .collate collation ∉ c.constraints

/-- A statement that copies nothing, apart from its expressions. -/
def Statement.TidyHere : Statement → Prop
  | .select s => s.TidyLock
  | .createTable t => ∀ c ∈ t.columns, c.TidyHere
  | .alterTable t => ∀ c, .addColumn c ∈ t.actions → c.TidyHere
  | _ => True

/-- A statement in which everything is tidy. -/
def Statement.Tidy (s : Statement) : Prop := s.TidyHere ∧ ∀ e ∈ s.exprs, e.Tidy

/-- The dialect's keyword for keys that count up is a word. -/
def Dialect.TidyKeyword (d : Dialect) : Prop :=
  ∀ c ∈ d.autoIncrementKeyword.toList, isWord c = true

variable (d : Dialect) (scope : Scope)

/-! ## Expressions -/

theorem BinaryOp.opens_text (op : BinaryOp) : Token.Opens op.text 0 0 := by
  cases op <;> decide

theorem Literal.isTerm_draft (l : Literal) : (l.draft d).IsTerm :=
  (moves_require _ _).append (moves_literal l)

theorem Dialect.isTerm_excludedDraft (c : String) : (d.excludedDraft c).IsTerm := by
  unfold Dialect.excludedDraft
  cases d.upsertSyntax with
  | standard => exact ((moves_name _).append_sql (by decide)).append (moves_name c)
  | mySql =>
    have hopen := (moves_sql (w := "VALUES(") (p := 0) (q := 1) (by decide) false).append
      (moves_name c)
    exact (hopen.append_sql (by decide)).to_after
  | unsupported => exact moves_fail _

theorem Lock.isTail_draft {l : Option Lock} (h : ∀ clause, l ≠ some (.raw clause)) :
    (all (l.toList.map Lock.draft)).IsTail := by
  refine moves_all _ fun x hx => ?_
  rw [Option.mem_toList] at hx
  cases x with
  | update => exact (moves_sql (by decide) true).to_after
  | share => exact (moves_sql (by decide) true).to_after
  | raw clause => exact absurd hx (h clause)

theorem Join.isTail_draft_of {j : Join} (h : ∀ e ∈ j.exprs, (e.draft d scope).IsTerm) :
    (j.draft d scope).IsTail := by
  rcases j with ⟨kind, table, condition⟩
  rw [Join.exprs, List.forall_mem_cons] at h
  have hkind : Token.Opens kind.text 0 0 := by
    cases kind <;> decide
  have hstart := ((moves_sql (w := " ") (p := 0) (q := 0) (by decide) true).append_sql
    hkind).append_sql (w := " ") (q := 0) (by decide)
  simpa [Join.draft] using (hstart.append h.1).append (isTail_led condition (by decide) h.2)

theorem Order.isTerm_draft_of {o : Order} (h : (o.key.draft d scope).IsTerm) :
    (o.draft d scope).IsTerm := by
  rcases o with ⟨key, direction⟩
  have hdirection : Token.Opens direction.text 0 0 := by
    cases direction <;> decide
  exact ((h.append_sql (w := " ") (q := 0) (by decide)).append_sql hdirection).to_after

theorem Select.isTerm_draft_of {s : Select} (hlock : s.TidyLock)
    (h : ∀ e ∈ s.exprs, (e.draft d scope).IsTerm) : (s.draft d scope).IsTerm := by
  rcases s with
    ⟨distinct, columns, sources, joins, condition, groupBy, having, orderBy, limit, offset, lock⟩
  simp only [Select.exprs, List.forall_mem_append, List.forall_mem_flatMap, List.forall_mem_map]
    at h
  obtain ⟨⟨⟨⟨⟨⟨hcolumns, hsources⟩, hjoins⟩, hcondition⟩, hgroupBy⟩, hhaving⟩, horderBy⟩ := h
  have hlist : (if columns.isEmpty then sql "*"
      else joined ", " (columns.map (Expr.draft d scope))).IsTerm := by
    split
    · exact (moves_sql (by decide) false).to_after
    · exact isTerm_joined columns hcolumns
  have hstart := ((moves_sql (w := "SELECT ") (p := 0) (q := 0) (by decide) false).append
    ((moves_sql (w := "DISTINCT ") (by decide) false).only distinct)).append hlist
  have hjoins' := moves_all joins fun j hj => Join.isTail_draft_of d scope (hjoins j hj)
  have hread := ((hstart.append (isTail_clause (w := " FROM ") sources (by decide) hsources)).append
    hjoins').append (isTail_led (w := " WHERE ") condition (by decide) hcondition)
  have hgrouped := (hread.append
    (isTail_clause (w := " GROUP BY ") groupBy (by decide) hgroupBy)).append
      (isTail_led (w := " HAVING ") having (by decide) hhaving)
  have hordered := hgrouped.append (isTail_clause (w := " ORDER BY ") orderBy (by decide)
    fun o ho => Order.isTerm_draft_of d scope (horderBy o ho))
  have hlimit := (hordered.append
    (isTail_led (w := " LIMIT ") limit (by decide) fun n _ => isTerm_number n)).append
      (isTail_led (w := " OFFSET ") offset (by decide) fun n _ => isTerm_number n)
  simpa [Select.draft] using hlimit.append (Lock.isTail_draft hlock)

/-- A tidy expression keeps its tokens apart and balances its parentheses. -/
theorem Expr.isTerm_draft {e : Expr} (he : e.Tidy) : (e.draft d scope).IsTerm := by
  induction e using Expr.children_induction with
  | step e ih =>
    obtain ⟨hhere, hbelow⟩ := tidy_iff.1 he
    have ih (c : Expr) (hc : c ∈ e.children) : (c.draft d scope).IsTerm := ih c hc (hbelow c hc)
    clear hbelow he
    cases e with
    | name n => exact moves_name n
    | column table n => exact IsTerm.qualified (moves_name n) table
    | star table => exact IsTerm.qualified (moves_sql (by decide) false).to_after table
    | literal l => exact l.isTerm_draft d
    | bind v => exact moves_bind v
    | raw pieces => exact hhere.elim
    | call function arguments distinct =>
      have hopen := (moves_word hhere).append_sql (t := ⟨false, 0⟩) (w := "(") (q := 1) (by decide)
      have hdistinct := hopen.append
        ((moves_sql (w := "DISTINCT ") (by decide) false).only distinct)
      have harguments := hdistinct.append (Moves.inner (isTerm_joined arguments ih) 1)
      simpa [Expr.draft] using (harguments.append_sql (w := ")") (q := 0) (by decide)).to_after
    | binary left op right =>
      have hleft := (ih left (by simp [children])).parensIf (left.parensUnder op false)
      have hright := (ih right (by simp [children])).parensIf (right.parensUnder op true)
      have hop := ((hleft.append_sql (w := " ") (q := 0) (by decide)).append_sql
        op.opens_text).append_sql (w := " ") (q := 0) (by decide)
      simpa [Expr.draft] using hop.append hright
    | unary op operand =>
      have hop : Token.Opens op.text 0 0 := by
        cases op <;> decide
      exact (moves_sql hop false).append
        ((ih operand (by simp [children])).parensIf (operand.parensAfter op))
    | list items separator =>
      obtain rfl : separator = ", " := hhere
      simpa [Expr.draft] using isTerm_joined items ih
    | group inner => exact ((ih inner (by simp [children])).parens false).to_after
    | aliased inner n =>
      exact ((ih inner (by simp [children])).append_sql (by decide)).append (moves_name n)
    | isNull tested negated =>
      have hwords : Token.Opens (if negated then " IS NOT NULL" else " IS NULL") 0 0 := by
        cases negated <;> decide
      exact ((ih tested (by simp [children])).append_sql hwords).to_after
    | isIn tested items negated =>
      rw [children, List.forall_mem_cons] at ih
      have hwords : Token.Opens (if negated then " NOT IN (" else " IN (") 0 1 := by
        cases negated <;> decide
      have htested := ((moves_require (!items.isEmpty) (.emptyClause scope .inList)).append
        ih.1).append_sql hwords
      have hitems := htested.append (Moves.inner (isTerm_joined items ih.2) 1)
      simpa [Expr.draft] using (hitems.append_sql (w := ")") (q := 0) (by decide)).to_after
    | between tested low high negated =>
      have hwords : Token.Opens (if negated then " NOT BETWEEN " else " BETWEEN ") 0 0 := by
        cases negated <;> decide
      have hlow := ((ih tested (by simp [children])).append_sql hwords).append
        (ih low (by simp [children]))
      exact (hlow.append_sql (by decide)).append (ih high (by simp [children]))
    | subquery select =>
      exact ((Select.isTerm_draft_of d scope hhere ih).parens false).to_after
    | excluded c => exact d.isTerm_excludedDraft c
    | default => exact (moves_sql (by decide) false).to_after

theorem Select.isTerm_draft {s : Select} (hs : s.Tidy) : (s.draft d scope).IsTerm :=
  Select.isTerm_draft_of d scope hs.1 fun e he => e.isTerm_draft d scope (hs.2 e he)

/-! ## Clauses of other statements -/

theorem isTail_led_condition (condition : Option Expr) (h : ∀ e ∈ condition.toList, e.Tidy) :
    (led " WHERE " (condition.map (Expr.draft d scope))).IsTail :=
  isTail_led condition (by decide) fun e he => e.isTerm_draft d scope (h e he)

theorem Assignment.isTerm_listDraft (as : List Assignment) (h : ∀ a ∈ as, a.value.Tidy) :
    (listDraft d scope as).IsTerm := by
  unfold listDraft
  refine isTerm_joined as fun a ha => ?_
  have hname := (moves_name a.column (p := 0)).append_sql (w := " = ") (q := 0) (by decide)
  exact hname.append (a.value.isTerm_draft d scope (h a ha))

theorem Conflict.moves_checks (c : Conflict) (t : Token.Standing) : (c.checks d).Moves t t := by
  unfold Conflict.checks
  cases d.upsertSyntax with
  | unsupported => exact moves_fail _
  | standard =>
    refine (moves_require _ _).append ?_
    cases c.action with
    | doNothing => exact moves_empty
    | doUpdate assignments condition => exact (moves_require _ _).append (moves_require _ _)
  | mySql =>
    refine ((moves_require _ _).append (Moves.only (moves_note _) _)).append ?_
    cases c.action with
    | doNothing => exact moves_empty
    | doUpdate assignments condition => exact (moves_require _ _).append (moves_require _ _)

theorem Conflict.isTail_targetDraft (t : ConflictTarget) (h : ∀ e ∈ t.condition.toList, e.Tidy) :
    (targetDraft d scope t).IsTail := by
  unfold targetDraft
  split
  · exact moves_empty
  · exact (moves_parens_names t.columns (by decide) (by decide) true).to_after.append
      (isTail_led_condition d scope t.condition h)

theorem Conflict.isTail_draft (c : Conflict) (h : ∀ e ∈ c.exprs, e.Tidy) :
    (c.draft d scope).IsTail := by
  rcases c with ⟨target, action⟩
  rw [Conflict.exprs, List.forall_mem_append] at h
  obtain ⟨htarget, haction⟩ := h
  have hconflict := (moves_sql (w := " ON CONFLICT") (p := 0) (q := 0) (by decide) true).append
    (Conflict.isTail_targetDraft d scope target htarget).of_after
  unfold Conflict.draft
  cases action with
  | doNothing =>
    cases d.upsertSyntax with
    | standard => exact (hconflict.append_sql (by decide)).to_after
    | mySql => exact moves_empty
    | unsupported => exact moves_fail _
  | doUpdate assignments condition =>
    rw [ConflictAction.exprs, List.forall_mem_append, List.forall_mem_map] at haction
    have hlist := Assignment.isTerm_listDraft d scope assignments haction.1
    cases d.upsertSyntax with
    | standard =>
      exact ((hconflict.append_sql (by decide)).append hlist).append
        (isTail_led_condition d scope condition haction.2)
    | mySql => exact hlist.led (by decide)
    | unsupported => exact moves_fail _

theorem Dialect.isTail_returningDraft (returning : List Expr) (h : ∀ e ∈ returning, e.Tidy) :
    (d.returningDraft scope returning).IsTail :=
  (moves_require _ _).append
    (isTail_clause returning (by decide) fun e he => e.isTerm_draft d scope (h e he))

/-! ## Statements that change rows -/

theorem Insert.isTerm_rowDraft (row : List Expr) (h : ∀ e ∈ row, e.Tidy) :
    (rowDraft d scope row).IsTerm := by
  have hrow := isTerm_joined row fun e he => e.isTerm_draft d scope (h e he)
  exact (hrow.parens false).to_after

theorem Insert.isTerm_draft (i : Insert) (h : ∀ e ∈ i.exprs, e.Tidy) :
    (i.draft d scope).IsTerm := by
  rw [Insert.exprs, List.forall_mem_append, List.forall_mem_append] at h
  obtain ⟨⟨hrows, hconflict⟩, hreturning⟩ := h
  have hwords : Token.Opens (if i.conflict.any (Conflict.becomesIgnore d) then
      "INSERT IGNORE INTO " else "INSERT INTO ") 0 0 := by
    split <;> decide
  have hchecks := ((moves_require (t := ⟨false, 0⟩) (!i.rows.isEmpty)
    (.emptyClause (.statement .insert) .valuesRows)).append
      (moves_all i.widthFault?.toList fun e _ => moves_fail e)).append
        (moves_all i.conflict.toList fun c _ => c.moves_checks d _)
  have hname := (hchecks.append_sql hwords).append (moves_name i.table)
  have hcolumns := hname.append (Moves.only
    (moves_parens_names i.columns (w := " (") (v := ")") (by decide) (by decide)
      true).to_after (!i.columns.isEmpty))
  have hvalues := (hcolumns.append_sql (w := " VALUES ") (q := 0) (by decide)).append
    (isTerm_joined i.rows fun row hrow => Insert.isTerm_rowDraft d scope row fun e he =>
      hrows e (List.mem_flatten.2 ⟨row, hrow, he⟩))
  have hclause := hvalues.append (moves_all i.conflict.toList fun c hc =>
    c.isTail_draft d scope fun e he => hconflict e (List.mem_flatMap.2 ⟨c, hc, he⟩))
  exact hclause.append (d.isTail_returningDraft scope i.returning hreturning)

theorem Update.isTerm_draft (u : Update) (h : ∀ e ∈ u.exprs, e.Tidy) :
    (u.draft d scope).IsTerm := by
  rw [Update.exprs, List.forall_mem_append, List.forall_mem_append, List.forall_mem_map] at h
  obtain ⟨⟨hassignments, hcondition⟩, hreturning⟩ := h
  have hchecks := (moves_require (t := ⟨false, 0⟩) (!u.assignments.isEmpty)
    (.emptyClause (.statement .update) .setAssignments)).append
      (moves_require (u.returning.isEmpty || d.returning) (.unsupported d.name .returning))
  have hname := (hchecks.append_sql (w := "UPDATE ") (q := 0) (by decide)).append
    (moves_name u.table)
  have hset := (hname.append_sql (w := " SET ") (q := 0) (by decide)).append
    (Assignment.isTerm_listDraft d scope u.assignments hassignments)
  exact (hset.append (isTail_led_condition d scope u.condition hcondition)).append
    (d.isTail_returningDraft scope u.returning hreturning)

theorem Delete.isTerm_draft (x : Delete) (h : ∀ e ∈ x.exprs, e.Tidy) :
    (x.draft d scope).IsTerm := by
  rw [Delete.exprs, List.forall_mem_append] at h
  have hname := ((moves_require (t := ⟨false, 0⟩) (x.returning.isEmpty || d.returning)
    (.unsupported d.name .returning)).append_sql (w := "DELETE FROM ") (q := 0)
      (by decide)).append (moves_name x.table)
  exact (hname.append (isTail_led_condition d scope x.condition h.1)).append
    (d.isTail_returningDraft scope x.returning h.2)

/-! ## Statements about tables -/

/-- What may stand between the parentheses of a type. -/
def SizeChars (cs : List Char) : Prop := ∀ c ∈ cs, isPlain c = true ∧ c ≠ '(' ∧ c ≠ ')'

theorem sizeChars_ofNat (n : Nat) : SizeChars (Digits.ofNat n) := by
  intro c hc
  have hdigit := Digits.ofNat_isDigit n c hc
  refine ⟨isPlain_of_isWord (isWord_of_isDigit hdigit), ?_, ?_⟩
  all_goals
    rintro rfl
    exact absurd hdigit (by decide)

theorem opens_sized (keyword : String) {size : List Char} (hk : Token.Opens keyword 0 0)
    (hsize : SizeChars size) : Token.Opens (keyword ++ "(" ++ .ofList size ++ ")") 0 0 := by
  obtain ⟨hne, hplain, hnesting⟩ := hk
  have hlist : (keyword ++ "(" ++ .ofList size ++ ")").toList =
      keyword.toList ++ '(' :: (size ++ [')']) := by
    simp
  refine ⟨?_, ?_, ?_⟩
  · intro h
    rw [h] at hlist
    simp at hlist
  · have hinside : size.all isPlain = true := List.all_eq_true.2 fun c hc => (hsize c hc).1
    have hopen : isPlain '(' = true := by decide
    have hclose : isPlain ')' = true := by decide
    rw [hlist]
    simp [hplain, hinside, hopen, hclose]
  · rw [hlist, nesting_append, hnesting, Option.bind_some, nesting, if_pos rfl, nesting_append,
      nesting_of_forall fun c hc => (hsize c hc).2]
    rfl

/-- A type that is not copied is written in words and numbers. -/
theorem DataType.opens_spelled {type : DataType} (h : ∀ text, type ≠ .custom text) :
    Token.Opens type.spelled 0 0 := by
  cases type with
  | decimal precision scale =>
    cases precision with
    | none => exact (by decide : Token.Opens "DECIMAL" 0 0)
    | some p =>
      cases scale with
      | none => exact opens_sized "DECIMAL" (by decide) (sizeChars_ofNat p)
      | some s =>
        have hcomma : SizeChars [',', ' '] :=
          List.forall_mem_cons.2 ⟨by decide, List.forall_mem_singleton.2 (by decide)⟩
        have hboth := List.forall_mem_append.2 ⟨sizeChars_ofNat p, hcomma⟩
        exact opens_sized "DECIMAL" (by decide)
          (List.forall_mem_append.2 ⟨hboth, sizeChars_ofNat s⟩)
  | varchar length =>
    cases length with
    | none => exact (by decide : Token.Opens "VARCHAR" 0 0)
    | some n => exact opens_sized "VARCHAR" (by decide) (sizeChars_ofNat n)
  | custom text => exact absurd rfl (h text)
  | _ => decide

theorem ReferenceAction.isTail_led {keyword : String} (hk : Token.Opens keyword 0 0)
    (action : Option ReferenceAction) : (led keyword (action.map fun a => sql a.text)).IsTail := by
  refine Draft.isTail_led action hk fun a _ => ?_
  have hwords : Token.Opens a.text 0 0 := by
    cases a <;> decide
  exact (moves_sql hwords false).to_after

theorem Reference.moves_draft (r : Reference) (after : Bool) :
    r.draft.Moves ⟨after, 0⟩ ⟨true, 0⟩ := by
  have hname := (moves_sql (w := "REFERENCES ") (p := 0) (q := 0) (by decide) after).append
    (moves_name r.table)
  have hcolumns := ((hname.append_sql (w := " (") (q := 1) (by decide)).append
    (Moves.inner (isTerm_names r.columns) 1)).append_sql (w := ")") (q := 0) (by decide)
  exact (hcolumns.to_after.append (ReferenceAction.isTail_led (by decide) r.onDelete)).append
    (ReferenceAction.isTail_led (by decide) r.onUpdate)

variable {d} in
theorem Dialect.TidyKeyword.isTail_autoIncrementDraft (hd : d.TidyKeyword) :
    d.autoIncrementDraft.IsTail :=
  (((moves_require _ _).append_sql (by decide)).append (moves_word hd)).to_after

theorem Expr.isTerm_check {e : Expr} (he : e.Tidy) :
    (sql "CHECK (" ++ e.draft d scope ++ sql ")").IsTerm := by
  have hopen := (moves_sql (w := "CHECK (") (p := 0) (q := 1) (by decide) false).append
    ((e.isTerm_draft d scope he).inner 1)
  exact (hopen.append_sql (by decide)).to_after

theorem ColumnConstraint.isTerm_draft {k : ColumnConstraint} (hd : d.TidyKeyword)
    (hcollate : ∀ collation, k ≠ .collate collation) (h : ∀ e ∈ k.exprs, e.Tidy) :
    (k.draft d scope).IsTerm := by
  cases k with
  | notNull => exact (moves_sql (by decide) false).to_after
  | null => exact (moves_sql (by decide) false).to_after
  | primaryKey auto =>
    exact (moves_sql (by decide) false).to_after.append (Moves.only hd.isTail_autoIncrementDraft auto)
  | unique => exact (moves_sql (by decide) false).to_after
  | default value =>
    exact (moves_sql (by decide) false).append (value.isTerm_draft d scope (h value (by simp [exprs])))
  | check condition => exact condition.isTerm_check d scope (h condition (by simp [exprs]))
  | references reference => exact reference.moves_draft false
  | collate collation => exact absurd rfl (hcollate collation)

theorem ColumnDefinition.isTerm_draft {c : ColumnDefinition} (hd : d.TidyKeyword)
    (hc : c.TidyHere) (h : ∀ e ∈ c.exprs, e.Tidy) : (c.draft d scope).IsTerm := by
  obtain ⟨htype, hcollate⟩ := hc
  rw [exprs, List.forall_mem_flatMap] at h
  have htyped := ((moves_name c.name (p := 0)).append_sql (w := " ") (q := 0)
    (by decide)).append_sql (DataType.opens_spelled htype)
  refine htyped.to_after.append (moves_all c.constraints fun k hk => ?_)
  refine IsTerm.led (ColumnConstraint.isTerm_draft d scope hd ?_ (h k hk)) (by decide)
  rintro collation rfl
  exact hcollate collation hk

theorem TableConstraint.isTerm_draft {c : TableConstraint} (h : ∀ e ∈ c.exprs, e.Tidy) :
    (c.draft d scope).IsTerm := by
  have hname : (led "CONSTRAINT " (c.name.map fun n => Draft.name n ++ sql " ")).Moves
      ⟨false, 0⟩ ⟨false, 0⟩ := by
    cases c.name with
    | none => exact moves_empty
    | some n =>
      exact (moves_sql (q := 0) (by decide) false).append
        ((moves_name n).append_sql (by decide))
  refine hname.append ?_
  rcases c with ⟨constraintName, rule⟩
  cases rule with
  | primaryKey columns =>
    exact (moves_parens_names columns (by decide) (by decide) false).to_after
  | unique columns => exact (moves_parens_names columns (by decide) (by decide) false).to_after
  | check condition => exact condition.isTerm_check d scope (h condition (by simp [exprs]))
  | foreignKey columns reference =>
    exact (moves_parens_names columns (by decide) (by decide) false).append
      (reference.moves_draft false)

theorem Dialect.moves_guardDraft {g : String} (hg : Token.Opens g 0 0) :
    (d.guardDraft g).Moves ⟨false, 0⟩ ⟨false, 0⟩ := by
  unfold Dialect.guardDraft
  split
  · exact (moves_sql hg false).append_sql (by decide)
  · exact moves_note _

theorem CreateTable.isTerm_draft {t : CreateTable} (hd : d.TidyKeyword)
    (ht : ∀ c ∈ t.columns, c.TidyHere) (h : ∀ e ∈ t.exprs, e.Tidy) :
    (t.draft d scope).IsTerm := by
  rw [exprs, List.forall_mem_append, List.forall_mem_flatMap, List.forall_mem_flatMap] at h
  have hstart := (((moves_require (t := ⟨false, 0⟩) (!t.columns.isEmpty)
    (.emptyClause (.statement .createTable) .columnDefinitions)).append_sql (w := "CREATE ")
      (q := 0) (by decide)).append ((moves_sql (w := "TEMPORARY ") (by decide) false).only
        t.temporary)).append_sql (w := "TABLE ") (q := 0) (by decide)
  have hname := ((hstart.append ((d.moves_guardDraft (g := "IF NOT EXISTS")
    (by decide)).only t.ifNotExists)).append (moves_name t.name)).append_sql (w := " (") (q := 1)
      (by decide)
  have hcolumns := hname.append (Moves.inner (isTerm_joined t.columns fun c hc =>
    ColumnDefinition.isTerm_draft d scope hd (ht c hc) (h.1 c hc)) 1)
  have hconstraints := hcolumns.append (Moves.inner (moves_all t.constraints fun c hc =>
    (TableConstraint.isTerm_draft d scope (h.2 c hc)).led (w := ", ") (by decide)) 1)
  exact (hconstraints.append_sql (by decide)).to_after

theorem AlterTable.Action.isTerm_draft {a : Action} (hd : d.TidyKeyword)
    (ha : ∀ c, a = .addColumn c → c.TidyHere) (h : ∀ e ∈ a.exprs, e.Tidy) :
    (a.draft d scope).IsTerm := by
  cases a with
  | addColumn c =>
    exact (moves_sql (by decide) false).append (c.isTerm_draft d scope hd (ha c rfl) h)
  | dropColumn n => exact (moves_sql (by decide) false).append (moves_name n)
  | renameColumn old new =>
    have hold := (moves_sql (w := "RENAME COLUMN ") (p := 0) (q := 0) (by decide) false).append
      (moves_name old)
    exact (hold.append_sql (by decide)).append (moves_name new)
  | renameTo n => exact (moves_sql (by decide) false).append (moves_name n)

theorem AlterTable.isTerm_draft {t : AlterTable} (hd : d.TidyKeyword)
    (ht : ∀ c, .addColumn c ∈ t.actions → c.TidyHere)
    (h : ∀ e ∈ t.actions.flatMap Action.exprs, e.Tidy) : (t.draft d scope).IsTerm := by
  rw [List.forall_mem_flatMap] at h
  have hchecks := (moves_require (t := ⟨false, 0⟩) (!t.actions.isEmpty)
    (.emptyClause (.statement .alterTable) .alterActions)).append
      (moves_require (t.actions.length ≤ 1 || d.multipleAlterActions)
        (.unsupported d.name .multipleAlterActions))
  have hname := ((hchecks.append_sql (w := "ALTER TABLE ") (q := 0) (by decide)).append
    (moves_name t.name)).append_sql (w := " ") (q := 0) (by decide)
  refine hname.append (isTerm_joined t.actions fun a ha => ?_)
  exact Action.isTerm_draft d scope hd (fun c hc => ht c (hc ▸ ha)) (h a ha)

theorem DropTable.isTerm_draft (t : DropTable) : (t.draft d).IsTerm := by
  have hstart := ((moves_require (t := ⟨false, 0⟩) (!t.names.isEmpty)
    (.emptyClause (.statement .dropTable) .tableNames)).append_sql (w := "DROP TABLE ") (q := 0)
      (by decide)).append ((d.moves_guardDraft (g := "IF EXISTS") (by decide)).only t.ifExists)
  refine (hstart.append (isTerm_names t.names)).append (moves_all t.behavior.toList fun b _ => ?_)
  have hwords : Token.Opens b.text 0 0 := by
    cases b <;> decide
  unfold Behavior.draft
  split
  · exact ((moves_sql (w := " ") (p := 0) (q := 0) (by decide) true).append_sql hwords).to_after
  · exact moves_note _

/-- A tidy statement keeps its tokens apart and balances its parentheses. -/
theorem Statement.isTerm_draftIn {s : Statement} (hd : d.TidyKeyword) (hs : s.Tidy) :
    (s.draftIn d scope).IsTerm := by
  obtain ⟨hhere, hexprs⟩ := hs
  cases s with
  | select s => exact s.isTerm_draft d scope ⟨hhere, hexprs⟩
  | insert i => exact i.isTerm_draft d scope hexprs
  | update u => exact u.isTerm_draft d scope hexprs
  | delete x => exact x.isTerm_draft d scope hexprs
  | createTable t => exact CreateTable.isTerm_draft d scope hd hhere hexprs
  | alterTable t => exact AlterTable.isTerm_draft d scope hd hhere hexprs
  | dropTable t => exact t.isTerm_draft d
  | raw e => exact e.isTerm_draft d scope (hexprs e (by simp [exprs]))

end PolySql
