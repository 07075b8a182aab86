import PolySql.Row

/-!
# Rows under a prefix

Reading a row with a text in front of the names is the same as reading, without it, the row of the
columns that have it, and of these the first of a name is the first in both. Only the name of a
column that is missing is told as it was looked up.

* `Row.strippedName?`, `Row.stripped` : the columns with a text in front, without it;
* `DecodeFault.under` : a fault as it is told of names with a text in front;
* `Row.Refuses` : a field that a row does not give;
* `Row.readAll_eq_error_iff` : which fault is reported;
* `Row.decode_as_stripped` : the main statement.
-/

namespace PolySql

/-- The fault as it is told if the names that were looked up have a text in front. -/
def DecodeFault.under (lead : String) : DecodeFault → DecodeFault
  | .missingColumn field key => .missingColumn field (lead ++ key)
  | .typeMismatch field expected found => .typeMismatch field expected found

namespace Row

/-! ## Names without their prefix -/

/-- What is left of a name without the text in front, if the name starts with it. -/
def strippedName? (lead name : String) : Option String :=
  if lead.toList.isPrefixOf name.toList then some (.ofList (name.toList.drop lead.toList.length))
  else none

theorem strippedName?_eq_some_iff {lead name rest : String} :
    strippedName? lead name = some rest ↔ name = lead ++ rest := by
  unfold strippedName?
  constructor
  · intro h
    split at h
    · rename_i hprefix
      obtain ⟨cs, hcs⟩ := List.isPrefixOf_iff_prefix.1 hprefix
      rw [← hcs, List.drop_left, Option.some.injEq] at h
      rw [← String.toList_inj, ← hcs, ← h, String.toList_append, String.toList_ofList]
    · cases h
  · rintro rfl
    simp

/-- The columns whose names start with the text, in order, without the text. -/
def stripped (lead : String) (r : Row) : Row :=
  ⟨r.columns.filterMap fun c => (strippedName? lead c.1).map fun name => (name, c.2)⟩

example : stripped "p_" ⟨[("p_id", .int 1), ("id", .int 2), ("p_p_id", .int 3), ("p_", .null),
    ("p_id", .int 4)]⟩ =
    ⟨[("id", .int 1), ("p_id", .int 3), ("", .null), ("id", .int 4)]⟩ := by
  decide

/-- The first column of a name is the first one of the name with the text in front. -/
theorem get?_stripped (r : Row) (lead key : String) :
    (r.stripped lead).get? key = r.get? (lead ++ key) := by
  rcases r with ⟨columns⟩
  simp only [get?, stripped]
  induction columns with
  | nil => rfl
  | cons c columns ih =>
    rw [List.filterMap_cons]
    cases hname : strippedName? lead c.1 with
    | none =>
      have hother : c.1 ≠ lead ++ key := fun h => by
        rw [strippedName?_eq_some_iff.2 h] at hname
        cases hname
      simpa [List.find?_cons, hother] using ih
    | some rest =>
      have hsame : c.1 = lead ++ key ↔ rest = key := by
        rw [strippedName?_eq_some_iff.1 hname, String.append_right_inj]
      by_cases hkey : rest = key
      · simp [hsame.2 hkey, hkey]
      · simpa [List.find?_cons, hsame, hkey] using ih

/-! ## Reading -/

theorem read_as_stripped (r : Row) (lead field : String) (t : FieldType) :
    r.read lead field t = ((r.stripped lead).read "" field t).mapError (.under lead) := by
  rw [read, read, String.empty_append, get?_stripped]
  cases r.get? (lead ++ field) with
  | some v => cases hread : t.read? v <;> simp only [hread] <;> rfl
  | none => cases t.whenMissing <;> rfl

theorem readAll_as_stripped (r : Row) (lead : String) (fs : List Field) :
    r.readAll lead fs = ((r.stripped lead).readAll "" fs).mapError (.under lead) := by
  induction fs with
  | nil => rfl
  | cons f fs ih =>
    rw [readAll, readAll, ih, read_as_stripped]
    cases (r.stripped lead).read "" f.column f.type with
    | error e => rfl
    | ok v => cases (r.stripped lead).readAll "" fs <;> rfl

/-! ## The field that is reported -/

/-- The row does not give the field, under a name with a text in front: it has no column of the
name and the field must have one, or the first column of the name has a value that the type of the
field does not accept. -/
inductive Refuses (r : Row) (lead : String) (f : Field) : DecodeFault → Prop
  | missing {s : Scalar} (hcolumns : ∀ c ∈ r.columns, c.1 ≠ lead ++ f.column)
      (hrequired : f.type = .required s) :
      Refuses r lead f (.missingColumn f.column (lead ++ f.column))
  | mismatch {before after : List (String × Value)} {v : Value}
      (hcolumns : r.columns = before ++ (lead ++ f.column, v) :: after)
      (hfirst : ∀ c ∈ before, c.1 ≠ lead ++ f.column) (hvalue : f.type.read? v = none) :
      Refuses r lead f (.typeMismatch f.column f.type.scalar v.kind)

theorem get?_eq_none_iff {r : Row} {name : String} :
    r.get? name = none ↔ ∀ c ∈ r.columns, c.1 ≠ name := by
  simp [get?]

theorem get?_eq_some_iff_first {r : Row} {name : String} {v : Value} :
    r.get? name = some v ↔ ∃ before after, r.columns = before ++ (name, v) :: after ∧
      ∀ c ∈ before, c.1 ≠ name := by
  simp only [get?, Option.map_eq_some_iff, List.find?_eq_some_iff_append]
  constructor
  · rintro ⟨c, ⟨hname, before, after, hcolumns, hfirst⟩, rfl⟩
    obtain rfl : c.1 = name := by simpa using hname
    exact ⟨before, after, hcolumns, by simpa using hfirst⟩
  · rintro ⟨before, after, hcolumns, hfirst⟩
    exact ⟨_, ⟨by simp, before, after, hcolumns, by simpa using hfirst⟩, rfl⟩

theorem whenMissing_eq_none_iff {t : FieldType} : t.whenMissing = none ↔ ∃ s, t = .required s := by
  cases t <;> simp [FieldType.whenMissing]

theorem read_eq_error_iff {r : Row} {lead : String} {f : Field} {e : DecodeFault} :
    r.read lead f.column f.type = .error e ↔ r.Refuses lead f e := by
  rw [read]
  constructor
  · intro h
    cases hget : r.get? (lead ++ f.column) with
    | some v =>
      obtain ⟨before, after, hcolumns, hfirst⟩ := get?_eq_some_iff_first.1 hget
      cases hvalue : f.type.read? v with
      | some w => simp [hget, hvalue] at h
      | none =>
        obtain rfl : _ = e := by simpa [hget, hvalue] using h
        exact .mismatch hcolumns hfirst hvalue
    | none =>
      cases hmissing : f.type.whenMissing with
      | some w => simp [hget, hmissing] at h
      | none =>
        obtain ⟨s, hrequired⟩ := whenMissing_eq_none_iff.1 hmissing
        obtain rfl : _ = e := by simpa [hget, hmissing] using h
        exact .missing (get?_eq_none_iff.1 hget) hrequired
  · rintro (⟨hcolumns, hrequired⟩ | ⟨hcolumns, hfirst, hvalue⟩)
    · simp [get?_eq_none_iff.2 hcolumns, whenMissing_eq_none_iff.2 ⟨_, hrequired⟩]
    · simp [get?_eq_some_iff_first.2 ⟨_, _, hcolumns, hfirst⟩, hvalue]

theorem readAll_cons_eq_error_iff {r : Row} {lead : String} {f : Field} {fs : List Field}
    {e : DecodeFault} : r.readAll lead (f :: fs) = .error e ↔
      r.Refuses lead f e ∨ (∀ e', ¬r.Refuses lead f e') ∧ r.readAll lead fs = .error e := by
  simp only [← read_eq_error_iff]
  rw [readAll]
  cases r.read lead f.column f.type with
  | error e' => simp
  | ok v => cases r.readAll lead fs <;> simp

/-- Of several fields the first that the row does not give is reported. -/
theorem readAll_eq_error_iff {r : Row} {lead : String} {fs : List Field} {e : DecodeFault} :
    r.readAll lead fs = .error e ↔ ∃ before f after, fs = before ++ f :: after ∧
      (∀ g ∈ before, ∀ e', ¬r.Refuses lead g e') ∧ r.Refuses lead f e := by
  induction fs with
  | nil => simp [readAll]
  | cons f fs ih =>
    rw [readAll_cons_eq_error_iff, ih]
    constructor
    · rintro (hrefuses | ⟨hgiven, before, g, after, rfl, hbefore, hrefuses⟩)
      · exact ⟨[], f, fs, rfl, by simp, hrefuses⟩
      · exact ⟨f :: before, g, after, rfl, List.forall_mem_cons.2 ⟨hgiven, hbefore⟩, hrefuses⟩
    · rintro ⟨_ | ⟨g, before⟩, f', after, hfs, hbefore, hrefuses⟩
      · obtain ⟨rfl, -⟩ := List.cons.inj hfs
        exact .inl hrefuses
      · obtain ⟨rfl, rfl⟩ := List.cons.inj hfs
        obtain ⟨hgiven, hbefore⟩ := List.forall_mem_cons.1 hbefore
        exact .inr ⟨hgiven, before, f', after, rfl, hbefore, hrefuses⟩

/-- Decoding with a text in front of the names comes to the same as decoding, without it, the row
of the columns that have it: to the same record, or to the same fault, where only the name of a
missing column has the text in front. The fault is that of the first field that the row does not
give. -/
theorem decode_as_stripped (r : Row) (lead : String) (m : Model) :
    r.decode lead m = ((r.stripped lead).decode "" m).mapError (.under lead) ∧
    ∀ e, r.decode lead m = .error e ↔ ∃ before f after, m.fields = before ++ f :: after ∧
      (∀ g ∈ before, ∀ e', ¬r.Refuses lead g e') ∧ r.Refuses lead f e := by
  refine ⟨?_, fun e => decode_eq_error.trans readAll_eq_error_iff⟩
  have hread := r.readAll_as_stripped lead m.fields
  cases hdecode : (r.stripped lead).decode "" m with
  | error e =>
    rw [decode_eq_error.1 hdecode] at hread
    exact decode_eq_error.2 hread
  | ok x =>
    rw [decode_eq_ok.1 hdecode] at hread
    exact decode_eq_ok.2 hread

end Row

end PolySql
