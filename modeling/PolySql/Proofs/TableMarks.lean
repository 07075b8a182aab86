import PolySql.Proofs.Expressible
import PolySql.Proofs.Quoting
import PolySql.Proofs.Vocabulary

/-!
# The marks of a CREATE TABLE

A CREATE TABLE of keys, references and types that have a name of their own holds no binds and no
literals. What a scanner finds in its text are keywords, numbers and quoted names, and they follow
from the statement clause by clause.

* `CreateTable.IsBare` : tables without expressions and without anything copied;
* `DataType.word`, `DataType.sizes` : a type as a word and numbers;
* `Reference.marks`, `ColumnDefinition.marks`, `TableConstraint.marks`, `CreateTable.marks` : what
  is written;
* `Draft.Writes` : a draft writes these marks, wherever it stands;
* `CreateTable.writes_marks`, `CreateTable.scan_sql` : the marks of a statement.
-/

namespace PolySql

/-! ## Tables without expressions -/

/-- A constraint of keywords and names. -/
def ColumnConstraint.IsBare : ColumnConstraint → Prop
  | .default _ | .check _ | .collate _ => False
  | _ => True

/-- A column of a type with a name of its own, with constraints of keywords and names. -/
structure ColumnDefinition.IsBare (c : ColumnDefinition) : Prop where
  type : ∀ text, c.type ≠ .custom text
  constraints : ∀ k ∈ c.constraints, k.IsBare

/-- A rule of keywords and names. -/
def TableConstraint.Rule.IsBare : TableConstraint.Rule → Prop
  | .check _ => False
  | _ => True

/-- A table without expressions and without anything that is copied. -/
structure CreateTable.IsBare (t : CreateTable) : Prop where
  columns : ∀ c ∈ t.columns, c.IsBare
  constraints : ∀ c ∈ t.constraints, c.rule.IsBare

theorem ColumnConstraint.IsBare.exprs_eq {k : ColumnConstraint} (hk : k.IsBare) : k.exprs = [] := by
  cases k with
  | default value => exact hk.elim
  | check condition => exact hk.elim
  | _ => rfl

theorem TableConstraint.exprs_eq {c : TableConstraint} (hc : c.rule.IsBare) : c.exprs = [] := by
  rcases c with ⟨name, rule⟩
  cases rule with
  | check condition => exact hc.elim
  | _ => rfl

/-- Nothing in a bare table is copied as it is, so a scanner can tell its tokens apart. -/
theorem CreateTable.IsBare.tidy {t : CreateTable} (ht : t.IsBare) :
    (Statement.createTable t).Tidy := by
  refine ⟨fun c hc => ⟨(ht.columns c hc).type, fun collation hcollate => ?_⟩, ?_⟩
  · exact (ht.columns c hc).constraints _ hcollate
  · have hcolumns : t.columns.flatMap ColumnDefinition.exprs = [] :=
      List.flatMap_eq_nil_iff.2 fun c hc => List.flatMap_eq_nil_iff.2 fun k hk =>
        ((ht.columns c hc).constraints k hk).exprs_eq
    have hconstraints : t.constraints.flatMap TableConstraint.exprs = [] :=
      List.flatMap_eq_nil_iff.2 fun c hc => TableConstraint.exprs_eq (ht.constraints c hc)
    have hexprs : (Statement.createTable t).exprs = [] := by
      rw [Statement.exprs, CreateTable.exprs, hcolumns, hconstraints, List.append_nil]
    rw [hexprs]
    simp

/-! ## Types -/

namespace DataType

/-- The type as its text tells it: a scale without a precision goes unsaid. -/
def asWritten : DataType → DataType
  | .decimal none _ => .decimal none none
  | t => t

/-- The word that a type starts with. -/
def word : DataType → String
  | .smallint => "SMALLINT"
  | .integer => "INTEGER"
  | .bigint => "BIGINT"
  | .real => "REAL"
  | .double => "DOUBLE"
  | .decimal _ _ => "DECIMAL"
  | .varchar _ => "VARCHAR"
  | .text => "TEXT"
  | .blob => "BLOB"
  | .date => "DATE"
  | .time => "TIME"
  | .timestamp => "TIMESTAMP"
  | .boolean => "BOOLEAN"
  | .custom verbatim => verbatim

/-- The numbers after the word. -/
def sizes : DataType → List Nat
  | .decimal (some p) (some s) => [p, s]
  | .decimal (some p) none => [p]
  | .varchar (some n) => [n]
  | _ => []

theorem spelled_asWritten (t : DataType) : t.asWritten.spelled = t.spelled := by
  cases t with
  | decimal precision scale => cases precision <;> rfl
  | _ => rfl

end DataType

/-! ## Marks -/

namespace Mark

/-- Text outside quotes. -/
def codes (w : String) : List Mark := w.toList.map code

/-- The digits of a number. -/
def number (n : Nat) : List Mark := (Digits.ofNat n).map code

/-- Marks of several parts, with commas between them. -/
def listed : List (List Mark) → List Mark
  | [] => []
  | ms :: parts => ms ++ parts.flatMap (codes ", " ++ ·)

/-- Names between commas. -/
def names (ns : List String) : List Mark := listed (ns.map fun n => [name n])

/-- A word and what is led by it, or nothing. -/
def led (w : String) : Option (List Mark) → List Mark
  | none => []
  | some ms => codes w ++ ms

/-- A word that is there or not. -/
def flag (w : String) (b : Bool) : List Mark := if b then codes w else []

@[simp] theorem codes_append (v w : String) : codes (v ++ w) = codes v ++ codes w := by
  simp [codes]

end Mark

open Mark

/-- Numbers between parentheses, or nothing. -/
def DataType.sizeMarks : List Nat → List Mark
  | [] => []
  | n :: ns => codes "(" ++ listed ((n :: ns).map number) ++ codes ")"

/-- A type is a word, with its numbers in parentheses if it has any. -/
theorem DataType.codes_spelled (t : DataType) :
    codes t.spelled = codes t.word ++ sizeMarks t.sizes := by
  have hsized (w : String) (ds : List Char) :
      codes (w ++ "(" ++ .ofList ds ++ ")") =
        codes w ++ (codes "(" ++ (ds.map code ++ codes ")")) := by
    simp [codes]
  cases t with
  | decimal precision scale =>
    cases precision with
    | none => simp [spelled, word, sizes, sizeMarks]
    | some p =>
      cases scale with
      | none =>
        refine (hsized "DECIMAL" (Digits.ofNat p)).trans ?_
        simp [word, sizes, sizeMarks, listed, Mark.number]
      | some s =>
        refine (hsized "DECIMAL" (Digits.ofNat p ++ [',', ' '] ++ Digits.ofNat s)).trans ?_
        simp [word, sizes, sizeMarks, listed, Mark.number, codes]
  | varchar length =>
    cases length with
    | none => simp [spelled, word, sizes, sizeMarks]
    | some n =>
      refine (hsized "VARCHAR" (Digits.ofNat n)).trans ?_
      simp [word, sizes, sizeMarks, listed, Mark.number]
  | _ => simp [spelled, word, sizes, sizeMarks]

/-- A reference after its keyword. -/
def Reference.marks (r : Reference) : List Mark :=
  .name r.table :: (codes " (" ++ (names r.columns ++ (codes ")" ++
    (led " ON DELETE " (r.onDelete.map fun a => codes a.text) ++
      led " ON UPDATE " (r.onUpdate.map fun a => codes a.text)))))

namespace ColumnConstraint

/-- The words that a constraint starts with, after those in front of it. -/
def lead : ColumnConstraint → String
  | .notNull => " NOT NULL"
  | .null => " NULL"
  | .primaryKey _ => " PRIMARY KEY"
  | .unique => " UNIQUE"
  | .default _ => " DEFAULT "
  | .check _ => " CHECK ("
  | .references _ => " REFERENCES "
  | .collate _ => " COLLATE "

/-- What follows these words. -/
def rest (d : Dialect) : ColumnConstraint → List Mark
  | .primaryKey auto => flag (" " ++ d.autoIncrementKeyword) auto
  | .references r => r.marks
  | _ => []

def marks (d : Dialect) (k : ColumnConstraint) : List Mark := codes k.lead ++ k.rest d

end ColumnConstraint

def ColumnDefinition.marks (d : Dialect) (c : ColumnDefinition) : List Mark :=
  .name c.name :: (codes " " ++ (codes c.type.spelled ++
    c.constraints.flatMap (ColumnConstraint.marks d)))

namespace TableConstraint

/-- The words that a rule starts with. -/
def Rule.lead : Rule → String
  | .primaryKey _ => "PRIMARY KEY ("
  | .unique _ => "UNIQUE ("
  | .check _ => "CHECK ("
  | .foreignKey _ _ => "FOREIGN KEY ("

/-- What follows these words. -/
def Rule.rest : Rule → List Mark
  | .primaryKey columns | .unique columns => names columns ++ codes ")"
  | .check _ => []
  | .foreignKey columns reference =>
    names columns ++ (codes ")" ++ (codes " REFERENCES " ++ reference.marks))

def marks (c : TableConstraint) : List Mark :=
  led "CONSTRAINT " (c.name.map fun n => .name n :: codes " ") ++ (codes c.rule.lead ++ c.rule.rest)

end TableConstraint

def CreateTable.marks (d : Dialect) (t : CreateTable) : List Mark :=
  codes "CREATE " ++ (flag "TEMPORARY " t.temporary ++ (codes "TABLE " ++
    (flag "IF NOT EXISTS " t.ifNotExists ++ (.name t.name :: (codes " (" ++
      (listed (t.columns.map (ColumnDefinition.marks d)) ++
        (t.constraints.flatMap (fun c => codes ", " ++ c.marks) ++ codes ")")))))))

/-! ## Drafts that write marks -/

open Draft

namespace Draft

/-- A draft writes these marks, wherever it stands, and no binds. -/
structure Writes (d : Dialect) (a : Draft) (ms : List Mark) : Prop where
  fault : a.fault = none
  binds : Token.binds a.tokens = []
  marks : ∀ count, Token.marks d count a.tokens = ms

section Leaves

variable (d : Dialect)

theorem writes_empty : empty.Writes d [] := ⟨rfl, rfl, fun _ => rfl⟩

theorem writes_sql (w : String) : (sql w).Writes d (codes w) :=
  ⟨rfl, rfl, fun _ => List.append_nil _⟩

theorem writes_name (n : String) : (name n).Writes d [.name n] := ⟨rfl, rfl, fun _ => rfl⟩

theorem writes_require {condition : Bool} (h : condition = true) (e : Fault) :
    (require condition e).Writes d [] := by
  rw [h]
  exact writes_empty d

end Leaves

variable {d : Dialect} {a b : Draft} {ms ns : List Mark}

/-- Drafts in a row write their marks in a row, since the first of them does not stop. -/
theorem Writes.append (ha : a.Writes d ms) (hb : b.Writes d ns) :
    (a ++ b).Writes d (ms ++ ns) := by
  refine ⟨fault_append_eq_none.2 ⟨ha.fault, hb.fault⟩, ?_, fun count => ?_⟩
  · rw [tokens_append ha.fault, Token.binds_append, ha.binds, hb.binds, List.nil_append]
  · rw [tokens_append ha.fault, Token.marks_append, ha.marks, ha.binds, hb.marks]

theorem Writes.flag {w : String} (ha : a.Writes d (codes w)) (condition : Bool) :
    (only condition a).Writes d (Mark.flag w condition) := by
  cases condition
  · exact writes_empty d
  · exact ha

section Lists
variable {α : Type} {f : α → Draft} {g : α → List Mark}

theorem writes_all (xs : List α) (h : ∀ x ∈ xs, (f x).Writes d (g x)) :
    (all (xs.map f)).Writes d (xs.flatMap g) := by
  induction xs with
  | nil => exact writes_empty d
  | cons x xs ih =>
    rw [List.forall_mem_cons] at h
    exact h.1.append (ih h.2)

theorem writes_joined (xs : List α) (h : ∀ x ∈ xs, (f x).Writes d (g x)) :
    (joined ", " (xs.map f)).Writes d (listed (xs.map g)) := by
  induction xs with
  | nil => exact writes_empty d
  | cons x xs ih =>
    rw [List.forall_mem_cons] at h
    cases xs with
    | nil => simpa [joined, listed] using h.1
    | cons y ys =>
      have hwhole := h.1.append ((writes_sql d ", ").append (ih h.2))
      simpa [joined, listed] using hwhole

theorem writes_led (w : String) (x : Option α) (h : ∀ y ∈ x, (f y).Writes d (g y)) :
    (Draft.led w (x.map f)).Writes d (Mark.led w (x.map g)) := by
  cases x with
  | none => exact writes_empty d
  | some y => exact (writes_sql d w).append (h y rfl)

end Lists

theorem writes_names (d : Dialect) (ns : List String) :
    (Draft.names ns).Writes d (Mark.names ns) :=
  writes_joined ns fun n _ => writes_name d n

end Draft

/-! ## The marks of a statement -/

variable {d : Dialect} (scope : Scope)

theorem Reference.writes_marks (r : Reference) :
    r.draft.Writes d (codes "REFERENCES " ++ r.marks) := by
  have haction (w : String) (a : Option ReferenceAction) :
      (Draft.led w (a.map fun a => sql a.text)).Writes d
        (Mark.led w (a.map fun a => codes a.text)) := writes_led w a fun a _ => writes_sql d a.text
  have hcolumns := ((((writes_sql d "REFERENCES ").append (writes_name d r.table)).append
    (writes_sql d " (")).append (writes_names d r.columns)).append (writes_sql d ")")
  have hwhole := (hcolumns.append (haction " ON DELETE " r.onDelete)).append
    (haction " ON UPDATE " r.onUpdate)
  simpa [Reference.draft, marks] using hwhole

theorem ColumnConstraint.writes_marks {k : ColumnConstraint} (hk : k.IsBare)
    (hauto : k = .primaryKey true → d.autoIncrement = true) :
    (sql " " ++ k.draft d scope).Writes d (k.marks d) := by
  cases k with
  | notNull => exact (writes_sql d " ").append (writes_sql d "NOT NULL")
  | null => exact (writes_sql d " ").append (writes_sql d "NULL")
  | unique => exact (writes_sql d " ").append (writes_sql d "UNIQUE")
  | primaryKey auto =>
    have hkey : (sql " " ++ sql "PRIMARY KEY").Writes d (codes " PRIMARY KEY") :=
      (writes_sql d " ").append (writes_sql d "PRIMARY KEY")
    have hkeyword : (only auto d.autoIncrementDraft).Writes d
        (flag (" " ++ d.autoIncrementKeyword) auto) := by
      cases auto with
      | false => exact writes_empty d
      | true =>
        have hwhole := ((writes_require d (hauto rfl)
          (.unsupported d.name .autoIncrement)).append (writes_sql d " ")).append
            (writes_sql d d.autoIncrementKeyword)
        simpa [only, flag, Dialect.autoIncrementDraft] using hwhole
    have hwhole := hkey.append hkeyword
    rw [append_assoc] at hwhole
    exact hwhole
  | references r =>
    have hwords : codes " " ++ codes "REFERENCES " = codes " REFERENCES " := rfl
    have hwhole := (writes_sql d " ").append r.writes_marks
    rw [← List.append_assoc, hwords] at hwhole
    exact hwhole
  | _ => exact hk.elim

theorem ColumnDefinition.writes_marks {c : ColumnDefinition} (hc : c.IsBare)
    (hauto : c.Expressible d) : (c.draft d scope).Writes d (c.marks d) := by
  have hconstraints := writes_all c.constraints fun k hk =>
    ColumnConstraint.writes_marks scope (hc.constraints k hk)
      fun heq => hauto (heq ▸ hk)
  have htyped := ((writes_name d c.name).append (writes_sql d " ")).append
    (writes_sql d c.type.spelled)
  simpa [ColumnDefinition.draft, marks] using htyped.append hconstraints

theorem TableConstraint.writes_marks {c : TableConstraint} (hc : c.rule.IsBare) :
    (c.draft d scope).Writes d c.marks := by
  have hname := writes_led (f := fun n => Draft.name n ++ sql " ") "CONSTRAINT " c.name
    fun n _ => (writes_name d n).append (writes_sql d " ")
  refine hname.append ?_
  rcases c with ⟨constraintName, rule⟩
  cases rule with
  | primaryKey columns =>
    simpa [Rule.draft, Rule.lead, Rule.rest] using
      ((writes_sql d "PRIMARY KEY (").append (writes_names d columns)).append (writes_sql d ")")
  | unique columns =>
    simpa [Rule.draft, Rule.lead, Rule.rest] using
      ((writes_sql d "UNIQUE (").append (writes_names d columns)).append (writes_sql d ")")
  | check condition => exact hc.elim
  | foreignKey columns reference =>
    have hkey := ((writes_sql d "FOREIGN KEY (").append (writes_names d columns)).append
      (writes_sql d ") ")
    have hwords : codes ") " ++ codes "REFERENCES " = codes ")" ++ codes " REFERENCES " := rfl
    have hwhole := hkey.append reference.writes_marks
    rw [List.append_assoc, ← List.append_assoc (codes ") "), hwords] at hwhole
    simpa [Rule.draft, Rule.lead, Rule.rest] using hwhole

theorem Dialect.writes_guardDraft (hguard : d.ifExists = true) (w : String) :
    (d.guardDraft w).Writes d (codes (w ++ " ")) := by
  rw [Dialect.guardDraft, if_pos hguard, codes_append]
  exact (writes_sql d w).append (writes_sql d " ")

/-- A bare table that its dialect can say writes its marks, from the first keyword to the closing
parenthesis. -/
theorem CreateTable.writes_marks {t : CreateTable} (ht : t.IsBare) (hguard : d.ifExists = true)
    (hexpressible : (Statement.createTable t).Expressible d) :
    (t.draft d scope).Writes d (t.marks d) := by
  obtain ⟨⟨hne, hauto⟩, -⟩ := hexpressible
  have hcondition : (!t.columns.isEmpty) = true := by simpa using hne
  have hstart := (((writes_require d hcondition
    (.emptyClause (.statement .createTable) .columnDefinitions)).append
      (writes_sql d "CREATE ")).append ((writes_sql d "TEMPORARY ").flag t.temporary)).append
        (writes_sql d "TABLE ")
  have hname := ((hstart.append ((d.writes_guardDraft hguard "IF NOT EXISTS").flag
    t.ifNotExists)).append (writes_name d t.name)).append (writes_sql d " (")
  have hcolumns := hname.append (writes_joined t.columns fun c hc =>
    ColumnDefinition.writes_marks scope (ht.columns c hc) (hauto c hc))
  have hconstraints := hcolumns.append (writes_all t.constraints fun c hc =>
    (writes_sql d ", ").append (TableConstraint.writes_marks scope (ht.constraints c hc)))
  simpa [CreateTable.draft, marks] using hconstraints.append (writes_sql d ")")

/-- What a scanner finds in the text of a bare table. -/
theorem CreateTable.scan_sql (hd : d.QuotesNames) (hkeyword : d.TidyKeyword)
    (hguard : d.ifExists = true) {t : CreateTable} (ht : t.IsBare) {r : Rendering}
    (hr : ((Statement.createTable t).render d).outcome = .ok r) :
    d.scan r.sql.toList = some (t.marks d) := by
  obtain ⟨hf, rfl⟩ := Draft.finish_eq_ok hr
  have hterm : ((Statement.createTable t).draft d).IsTerm :=
    Statement.isTerm_draftIn d (.statement .createTable) hkeyword ht.tidy
  have hwrites := CreateTable.writes_marks (.statement .createTable) ht hguard
    (CreateTable.fault_draft_eq_none.1 hf)
  rw [(hterm.scan_rendering hd hf).1]
  exact congrArg some (hwrites.marks 0)

end PolySql
