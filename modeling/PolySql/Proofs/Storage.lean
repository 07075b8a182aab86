import Mathlib.Data.List.Nodup
import PolySql.Proofs.Binds
import PolySql.Proofs.Expressible
import PolySql.Proofs.Upserts
import PolySql.Value.Conversion

/-!
# Items survive being stored

An INSERT of items binds their values one after the other. Cut into rows of the width of the model
and put under its columns, the values are read as the items again. A row may list its columns in
any order and among others, for a field is looked up by name and the first column of the name
counts.

* `PlainType`, `StoredType`, `Schema` : the types of items, field by field;
* `Schema.record` : an item as a record of its model, which no other item gives;
* `Row.cut`, `Row.Shows` : rows out of a list of values, and rows that show the same;
* `Row.get?_of_shows` : what is found under a name;
* `Schema.items_survive_storage` : the main statement.
-/

namespace PolySql

/-! ## Types of fields -/

/-- The types that values are read as. There is no way to bind a `UInt64`. -/
inductive PlainType where
  | bool
  | int8
  | int16
  | int32
  | int64
  | uint8
  | uint16
  | uint32
  | float
  | text
  | bytes
  | date
  | timestamp
deriving DecidableEq, Repr

namespace PlainType

/-- The elements of a type. -/
def Element : PlainType → Type
  | .bool => Bool
  | .int8 => Int8
  | .int16 => Int16
  | .int32 => Int32
  | .int64 => Int64
  | .uint8 => UInt8
  | .uint16 => UInt16
  | .uint32 => UInt32
  | .float => Binary64
  | .text => String
  | .bytes => List UInt8
  | .date => Date
  | .timestamp => Timestamp

instance : (t : PlainType) → ToValue t.Element
  | .bool => inferInstanceAs (ToValue Bool)
  | .int8 => inferInstanceAs (ToValue Int8)
  | .int16 => inferInstanceAs (ToValue Int16)
  | .int32 => inferInstanceAs (ToValue Int32)
  | .int64 => inferInstanceAs (ToValue Int64)
  | .uint8 => inferInstanceAs (ToValue UInt8)
  | .uint16 => inferInstanceAs (ToValue UInt16)
  | .uint32 => inferInstanceAs (ToValue UInt32)
  | .float => inferInstanceAs (ToValue Binary64)
  | .text => inferInstanceAs (ToValue String)
  | .bytes => inferInstanceAs (ToValue (List UInt8))
  | .date => inferInstanceAs (ToValue Date)
  | .timestamp => inferInstanceAs (ToValue Timestamp)

/-- The type as the type of a field. -/
def scalar : PlainType → Scalar
  | .bool => .bool
  | .int8 => .int .int8
  | .int16 => .int .int16
  | .int32 => .int .int32
  | .int64 => .int .int64
  | .uint8 => .int .uint8
  | .uint16 => .int .uint16
  | .uint32 => .int .uint32
  | .float => .float
  | .text => .text
  | .bytes => .bytes
  | .date => .date
  | .timestamp => .timestamp

end PlainType

/-- The types of the fields of an item. -/
inductive StoredType where
  | required (type : PlainType)
  /-- A field that may be without a value. -/
  | optional (type : PlainType)
deriving DecidableEq, Repr

namespace StoredType

/-- The elements of a type. -/
def Element : StoredType → Type
  | .required t => t.Element
  | .optional t => Option t.Element

instance : (t : StoredType) → ToValue t.Element
  | .required t => inferInstanceAs (ToValue t.Element)
  | .optional t => inferInstanceAs (ToValue (Option t.Element))

/-- The type as the type of a field. -/
def fieldType : StoredType → FieldType
  | .required t => .required t.scalar
  | .optional t => .optional (.required t.scalar)

end StoredType

/-! ## Values of elements -/

theorem IntType.holds_iff {t : IntType} {n : Int64} :
    t.holds n ↔ t.least ≤ n.toInt ∧ n.toInt ≤ t.greatest := by
  simp [holds]

theorem toInt_ofNat_of_le {n : Nat} (h : n ≤ 0xffffffff) : (Int64.ofNat n).toInt = n :=
  Int64.toInt_ofNat_of_lt (by omega)

theorem IntType.holds_ofNat {t : IntType} {n : Nat} (h : n ≤ 0xffffffff) (hleast : t.least = 0)
    (hgreatest : (n : Int) ≤ t.greatest) : t.holds (.ofNat n) := by
  rw [holds_iff, toInt_ofNat_of_le h, hleast]
  exact ⟨Int.natCast_nonneg n, hgreatest⟩

theorem eq_of_ofNat_eq {m n : Nat} (hm : m ≤ 0xffffffff) (hn : n ≤ 0xffffffff)
    (h : Value.int (.ofNat m) = .int (.ofNat n)) : m = n := by
  have hint := congrArg Int64.toInt (Value.int.inj h)
  rw [toInt_ofNat_of_le hm, toInt_ofNat_of_le hn] at hint
  exact Int.ofNat.inj hint

namespace PlainType

theorem holds_toValue : (t : PlainType) → (a : t.Element) → t.scalar.Holds (toValue a)
  | .int8, (n : Int8) => IntType.holds_iff.2 <| by
    rw [Int8.toInt_toInt64]
    exact ⟨n.le_toInt, Int.le_of_lt_add_one n.toInt_lt⟩
  | .int16, (n : Int16) => IntType.holds_iff.2 <| by
    rw [Int16.toInt_toInt64]
    exact ⟨n.le_toInt, Int.le_of_lt_add_one n.toInt_lt⟩
  | .int32, (n : Int32) => IntType.holds_iff.2 <| by
    rw [Int32.toInt_toInt64]
    exact ⟨n.le_toInt, Int.le_of_lt_add_one n.toInt_lt⟩
  | .int64, (n : Int64) => IntType.holds_iff.2 ⟨n.le_toInt, Int.le_of_lt_add_one n.toInt_lt⟩
  | .uint8, (n : UInt8) => by
    have := n.toNat_lt
    exact IntType.holds_ofNat (by omega) rfl (by simp only [IntType.greatest]; omega)
  | .uint16, (n : UInt16) => by
    have := n.toNat_lt
    exact IntType.holds_ofNat (by omega) rfl (by simp only [IntType.greatest]; omega)
  | .uint32, (n : UInt32) => by
    have := n.toNat_lt
    exact IntType.holds_ofNat (by omega) rfl (by simp only [IntType.greatest]; omega)
  | .bool, _ | .float, _ | .text, _ | .bytes, _ | .date, _ | .timestamp, _ => trivial

theorem toValue_injective : (t : PlainType) → Function.Injective (toValue : t.Element → Value)
  | .int8, (a : Int8), (b : Int8), h => Int8.toInt_inj.1 <| by
    rw [← Int8.toInt_toInt64 a, ← Int8.toInt_toInt64 b, Value.int.inj h]
  | .int16, (a : Int16), (b : Int16), h => Int16.toInt_inj.1 <| by
    rw [← Int16.toInt_toInt64 a, ← Int16.toInt_toInt64 b, Value.int.inj h]
  | .int32, (a : Int32), (b : Int32), h => Int32.toInt_inj.1 <| by
    rw [← Int32.toInt_toInt64 a, ← Int32.toInt_toInt64 b, Value.int.inj h]
  | .uint8, (a : UInt8), (b : UInt8), h => UInt8.toNat_inj.1 <| by
    have ha := a.toNat_lt
    have hb := b.toNat_lt
    exact eq_of_ofNat_eq (by omega) (by omega) h
  | .uint16, (a : UInt16), (b : UInt16), h => UInt16.toNat_inj.1 <| by
    have ha := a.toNat_lt
    have hb := b.toNat_lt
    exact eq_of_ofNat_eq (by omega) (by omega) h
  | .uint32, (a : UInt32), (b : UInt32), h => UInt32.toNat_inj.1 <| by
    have ha := a.toNat_lt
    have hb := b.toNat_lt
    exact eq_of_ofNat_eq (by omega) (by omega) h
  | .bool, _, _, rfl | .int64, _, _, rfl | .float, _, _, rfl | .text, _, _, rfl
  | .bytes, _, _, rfl | .date, _, _, rfl | .timestamp, _, _, rfl => rfl

theorem toValue_ne_null (t : PlainType) (a : t.Element) : toValue a ≠ .null := by
  cases t <;> exact nofun

end PlainType

namespace StoredType

theorem holds_toValue : (t : StoredType) → (a : t.Element) → t.fieldType.Holds (toValue a)
  | .required t, a => t.holds_toValue a
  | .optional _, none => .inl rfl
  | .optional t, some a => .inr (t.holds_toValue a)

/-- The absent value is null, and no other value is. -/
theorem toValue_injective : (t : StoredType) → Function.Injective (toValue : t.Element → Value)
  | .required t, _, _, h => t.toValue_injective h
  | .optional _, none, none, _ => rfl
  | .optional t, none, some b, h => absurd h.symm (t.toValue_ne_null b)
  | .optional t, some a, none, h => absurd h (t.toValue_ne_null a)
  | .optional t, some _, some _, h => congrArg some (t.toValue_injective h)

end StoredType

/-! ## Items and their records -/

/-- The columns of a table of items, of different names, with the types of their fields. -/
structure Schema where
  table : String
  columns : List (String × StoredType)
  distinct : (columns.map Prod.fst).Nodup
  nonempty : columns ≠ []

namespace Schema

/-- One element for each column. -/
def ItemOf : List (String × StoredType) → Type
  | [] => Unit
  | c :: cs => c.2.Element × ItemOf cs

/-- The values of the elements. -/
def valuesOf : (cs : List (String × StoredType)) → ItemOf cs → List Value
  | [], _ => []
  | _ :: cs, (a, rest) => toValue a :: valuesOf cs rest

/-- A column as a field of a model. -/
def field (c : String × StoredType) : Field := ⟨c.1, c.2.fieldType⟩

theorem fits_valuesOf : (cs : List (String × StoredType)) → (item : ItemOf cs) →
    Model.Fits (cs.map field) (valuesOf cs item)
  | [], _ => trivial
  | c :: cs, (a, rest) => ⟨c.2.holds_toValue a, fits_valuesOf cs rest⟩

theorem valuesOf_injective : (cs : List (String × StoredType)) → Function.Injective (valuesOf cs)
  | [], _, _, _ => rfl
  | c :: cs, (a, rest), (b, rest'), h => by
    obtain ⟨hvalue, hvalues⟩ := List.cons.inj h
    rw [c.2.toValue_injective hvalue, valuesOf_injective cs hvalues]

variable (s : Schema)

/-- The model of the items. -/
def model : Model := ⟨s.table, s.columns.map field⟩

/-- What a row of the table holds for a program. -/
def Item : Type := ItemOf s.columns

/-- An item as a record of the model. -/
def record (item : s.Item) : Record s.model :=
  ⟨valuesOf s.columns item, fits_valuesOf s.columns item⟩

theorem record_injective : Function.Injective s.record := fun _ _ h =>
  valuesOf_injective s.columns (congrArg Record.values h)

theorem columns_model : s.model.columns = s.columns.map Prod.fst := by
  rw [Model.columns, model, List.map_map]
  rfl

theorem nodup_columns_model : s.model.columns.Nodup := s.columns_model ▸ s.distinct

end Schema

/-! ## Rows -/

namespace Row

/-- Rows out of values: so many, each with the next values under the columns. -/
def cutRows (columns : List String) : Nat → List Value → List Row
  | 0, _ => []
  | n + 1, vs => ⟨columns.zip vs⟩ :: cutRows columns n (vs.drop columns.length)

/-- The values cut into rows of the width of the columns. -/
def cut (columns : List String) (vs : List Value) : List Row :=
  cutRows columns (vs.length / columns.length) vs

theorem cutRows_append {columns : List String} {vs : List Value} (h : vs.length = columns.length)
    (n : Nat) (rest : List Value) :
    cutRows columns (n + 1) (vs ++ rest) = ⟨columns.zip vs⟩ :: cutRows columns n rest := by
  have hzip : columns.zip (vs ++ rest) = columns.zip vs := by
    rw [← List.append_nil columns, List.zip_append h.symm, List.append_nil, List.zip_nil_left,
      List.append_nil]
  rw [cutRows, hzip, ← h, List.drop_left]

theorem cut_flatMap {α : Type} {columns : List String} {f : α → List Value} {xs : List α}
    (hcolumns : columns ≠ []) (h : ∀ x ∈ xs, (f x).length = columns.length) :
    cut columns (xs.flatMap f) = xs.map fun x => ⟨columns.zip (f x)⟩ := by
  have hrows : (xs.flatMap f).length = xs.length * columns.length ∧
      cutRows columns xs.length (xs.flatMap f) = xs.map fun x => ⟨columns.zip (f x)⟩ := by
    induction xs with
    | nil => exact ⟨(Nat.zero_mul _).symm, rfl⟩
    | cons x xs ih =>
      obtain ⟨hx, hxs⟩ := List.forall_mem_cons.1 h
      obtain ⟨hlength, hcut⟩ := ih hxs
      rw [List.flatMap_cons, List.length_append, hx, hlength, List.length_cons, List.map_cons,
        cutRows_append hx, hcut, Nat.succ_mul, Nat.add_comm]
      exact ⟨rfl, rfl⟩
  rw [cut, hrows.1, Nat.mul_div_cancel _ (List.length_pos_iff.2 hcolumns), hrows.2]

/-- The row with a text in front of every name. -/
def led (lead : String) (r : Row) : Row := ⟨r.columns.map fun c => (lead ++ c.1, c.2)⟩

/-- The columns of a stored row in any order, with columns of other names anywhere among them, and
with further columns of a name anywhere after the first of that name. -/
inductive Shows (stored : Row) : Row → Prop
  | listed {row : Row} (h : row.columns.Perm stored.columns) : Shows stored row
  | other (before after : List (String × Value)) {name : String} (v : Value)
    (hname : name ∉ stored.names) (h : Shows stored ⟨before ++ after⟩) :
    Shows stored ⟨before ++ (name, v) :: after⟩
  | again (before after : List (String × Value)) {name : String} (v : Value)
    (hname : name ∈ before.map Prod.fst) (h : Shows stored ⟨before ++ after⟩) :
    Shows stored ⟨before ++ (name, v) :: after⟩

theorem Shows.refl (stored : Row) : Shows stored stored := .listed (.refl _)

theorem names_led (lead : String) (r : Row) : (r.led lead).names = r.names.map (lead ++ ·) := by
  simp [led, names]

/-- A text in front of every name keeps apart what was apart. -/
theorem Shows.led {stored row : Row} (h : Shows stored row) (lead : String) :
    Shows (stored.led lead) (row.led lead) := by
  induction h with
  | listed h => exact .listed (h.map _)
  | @other before after name v hname h ih =>
    have hled : lead ++ name ∉ (stored.led lead).names := by
      rw [names_led, List.mem_map]
      rintro ⟨n, hn, heq⟩
      exact hname (String.append_right_inj lead |>.1 heq ▸ hn)
    simp only [Row.led, List.map_append, List.map_cons] at ih ⊢
    exact .other _ _ v hled ih
  | @again before after name v hname h ih =>
    simp only [Row.led, List.map_append, List.map_cons] at ih ⊢
    refine .again _ _ v ?_ ih
    rw [List.map_map]
    obtain ⟨c, hc, rfl⟩ := List.mem_map.1 hname
    exact List.mem_map.2 ⟨c, hc, rfl⟩

/-! ## Reading rows -/

/-- One more column changes nothing under another name, or after a column of its name. -/
theorem get?_insert {before after : List (String × Value)} {name key : String} {v : Value}
    (h : name = key → key ∈ before.map Prod.fst) :
    (⟨before ++ (name, v) :: after⟩ : Row).get? key = (⟨before ++ after⟩ : Row).get? key := by
  simp only [get?, List.find?_append]
  by_cases hkey : name = key
  · obtain ⟨c, hc, hname⟩ := List.mem_map.1 (h hkey)
    obtain ⟨found, hfound⟩ : ∃ found, before.find? (fun c => c.1 == key) = some found :=
      Option.isSome_iff_exists.1 (List.find?_isSome.2 ⟨c, hc, by simp [hname]⟩)
    rw [hfound]
    rfl
  · rw [List.find?_cons_of_neg (by simpa using hkey)]

theorem get?_eq_some_iff {r : Row} (h : r.names.Nodup) {name : String} {v : Value} :
    r.get? name = some v ↔ (name, v) ∈ r.columns := by
  constructor
  · intro hget
    obtain ⟨⟨name', v'⟩, hfind, rfl⟩ := Option.map_eq_some_iff.1 hget
    obtain rfl : name' = name := by simpa using List.find?_some hfind
    exact List.mem_of_find?_eq_some hfind
  · intro hmem
    obtain ⟨found, hfound⟩ : ∃ found, r.columns.find? (fun c => c.1 == name) = some found :=
      Option.isSome_iff_exists.1 (List.find?_isSome.2 ⟨_, hmem, by simp⟩)
    have hname : found.1 = name := by simpa using List.find?_some hfound
    have hsame : found = (name, v) :=
      List.inj_on_of_nodup_map h (List.mem_of_find?_eq_some hfound) hmem hname
    rw [get?, hfound, hsame]
    rfl

/-- A row that shows a stored row shows its values under its names. -/
theorem get?_of_shows {stored row : Row} (hnodup : stored.names.Nodup) (h : Shows stored row)
    {name : String} (hname : name ∈ stored.names) : row.get? name = stored.get? name := by
  induction h with
  | @listed row h =>
    have hrow : row.names.Nodup := (h.map Prod.fst).nodup_iff.2 hnodup
    ext v
    rw [get?_eq_some_iff hrow, get?_eq_some_iff hnodup, h.mem_iff]
  | other _ _ v hother h ih => exact (get?_insert fun heq => absurd (heq ▸ hname) hother).trans ih
  | again _ _ v hagain h ih => exact (get?_insert fun heq => heq ▸ hagain).trans ih

/-- Values of the right types under the names of the fields are read as the record of them. -/
theorem readAll_eq_ok {row : Row} {lead : String} {fs : List Field} {vs : List Value}
    (hfits : Model.Fits fs vs)
    (h : ∀ c ∈ (fs.map Field.column).zip vs, row.get? (lead ++ c.1) = some c.2) :
    row.readAll lead fs = .ok vs := by
  induction fs generalizing vs with
  | nil =>
    obtain rfl := List.length_eq_zero_iff.1 hfits.length_eq
    rfl
  | cons f fs ih =>
    cases vs with
    | nil => exact hfits.elim
    | cons v vs =>
      obtain ⟨hfield, hrest⟩ := List.forall_mem_cons.1 h
      have hread : row.read lead f.column f.type = .ok v := by
        simp only [read, hfield, FieldType.read?_eq_self hfits.1]
      simp only [readAll, hread, ih hfits.2 hrest]

/-- A row that shows the values of a record, with a text in front of the names, is read as the
record. -/
theorem decode_of_shows {m : Model} (hnodup : m.columns.Nodup) (x : Record m) {lead : String}
    {row : Row} (h : Shows (led lead ⟨m.columns.zip x.values⟩) row) :
    row.decode lead m = .ok x := by
  have hnames : (led lead ⟨m.columns.zip x.values⟩).names = m.columns.map (lead ++ ·) := by
    rw [names_led, names, List.map_fst_zip (Nat.le_of_eq x.length_values.symm)]
  have hled : (led lead ⟨m.columns.zip x.values⟩).names.Nodup := by
    rw [hnames]
    exact List.Nodup.map (fun _ _ => (String.append_right_inj lead).1) hnodup
  refine decode_eq_ok.2 (readAll_eq_ok x.fits fun c hc => ?_)
  have hmem : (lead ++ c.1, c.2) ∈ (led lead ⟨m.columns.zip x.values⟩).columns :=
    List.mem_map.2 ⟨c, hc, rfl⟩
  rw [get?_of_shows hled h (List.mem_map.2 ⟨_, hmem, rfl⟩), get?_eq_some_iff hled]
  exact hmem

end Row

/-! ## Storing records -/

theorem Statement.exists_render {d : Dialect} {s : Statement} (h : s.Expressible d) :
    ∃ r, (s.render d).outcome = .ok r ∧ r.binds = s.binds := by
  have hfault : (s.draft d).fault = none := Statement.fault_draftIn_eq_none.2 h
  refine ⟨Token.rendering d (s.draft d).tokens, ?_, ?_⟩
  · rw [render, Draft.finish, hfault]
  · exact (s.draftIn_spells d (.statement s.kind)).binds_eq hfault

namespace Insert
variable {m : Model} {rs : List (Record m)}

theorem length_of_mem_recordRows {row : List Expr} (h : row ∈ recordRows rs) :
    row.length = m.columns.length := by
  obtain ⟨r, -, rfl⟩ := List.mem_map.1 h
  rw [List.length_map, r.length_values]

/-- The INSERT of some records and of nothing else. -/
def ofRecords (table : String) (rs : List (Record m)) : Insert :=
  { table, columns := m.columns, rows := recordRows rs }

theorem widthFault?_ofRecords (table : String) (rs : List (Record m)) :
    (ofRecords table rs).widthFault? = none :=
  widthFault?_eq_none.2 (.inr fun _ => length_of_mem_recordRows)

/-- The INSERT of some records can be said in every dialect. -/
theorem expressible_ofRecords (d : Dialect) (table : String) (hne : rs ≠ []) :
    (Statement.insert (ofRecords table rs)).Expressible d := by
  have hsayable (v : Value) : (Expr.bind v).Sayable d :=
    Expr.sayable_iff.2 ⟨trivial, by simp [Expr.children]⟩
  refine ⟨⟨?_, fun _ _ => length_of_mem_recordRows, ?_, ?_⟩, fun e he => ?_⟩
  · simpa [ofRecords, recordRows] using hne
  · simp [ofRecords]
  · simp [ofRecords, Dialect.CanReturn]
  · have hrows : e ∈ (recordRows rs).flatten := by
      simpa [Statement.exprs, Insert.exprs, ofRecords] using he
    obtain ⟨row, hrow, hmem⟩ := List.mem_flatten.1 hrows
    obtain ⟨r, -, rfl⟩ := List.mem_map.1 hrow
    obtain ⟨v, -, rfl⟩ := List.mem_map.1 hmem
    exact hsayable v

theorem binds_ofRecords (table : String) (rs : List (Record m)) :
    (Statement.insert (ofRecords table rs)).binds = rs.flatMap Record.values := by
  have hbind (v : Value) : (Expr.bind v).binds = [v] := by
    rw [Expr.binds_eq]
    rfl
  rw [Statement.binds, Statement.leaves, filterMap_leaves]
  simp [ofRecords, recordRows, List.flatMap_map, hbind]

theorem finish_ofCalls_records (table : String) (hne : rs ≠ []) :
    (Query.insert (ofCalls table [.records m rs])).finish =
      .ok (.insert (ofRecords table rs)) := by
  have hcalls : ofCalls table [.records m rs] = ofRecords table rs := by
    refine (foldl_addRecord rs { table }).trans ?_
    simp [ofRecords, hne]
  rw [hcalls, Query.finish, widthFault?_ofRecords]

end Insert

/-! ## Reading what was stored -/

theorem Row.led_empty (r : Row) : r.led "" = r := by
  simp [led]

namespace Schema
variable (s : Schema)

/-- The row is read as the item, and as no other one, under names with a text in front. -/
def ReadsAs (lead : String) (row : Row) (item : s.Item) : Prop :=
  ∀ other, row.decode lead s.model = .ok (s.record other) ↔ other = item

/-- The row in which an item is stored. -/
def stored (item : s.Item) : Row := ⟨s.model.columns.zip (s.record item).values⟩

theorem readsAs_of_shows {lead : String} {row : Row} {item : s.Item}
    (h : Row.Shows ((s.stored item).led lead) row) : s.ReadsAs lead row item := fun other => by
  rw [Row.decode_of_shows s.nodup_columns_model (s.record item) h]
  constructor
  · exact fun h => (s.record_injective (Except.ok.inj h)).symm
  · rintro rfl
    rfl

theorem cut_values (items : List s.Item) :
    Row.cut s.model.columns (items.flatMap fun item => (s.record item).values) =
      items.map s.stored := by
  refine Row.cut_flatMap ?_ fun item _ => (s.record item).length_values
  rw [s.columns_model]
  simpa using s.nonempty

/-- Some items become one INSERT, from either builder and in every dialect, which binds their
values in order. -/
theorem builds_items (d : Dialect) (table : String) {items : List s.Item} (hne : items ≠ []) :
    let call : Insert.Call := .records s.model (items.map s.record)
    let insert : Query := .insert (.ofCalls table [call])
    let upsert : Query := .upsert (.ofCalls table [.insert call])
    ∃ i r, insert.finish = .ok (.insert i) ∧ upsert.finish = insert.finish ∧
      i.columns = s.model.columns ∧ ((Statement.insert i).render d).outcome = .ok r ∧
      r.binds = items.flatMap fun item => (s.record item).values := by
  intro call insert upsert
  have hrecords : items.map s.record ≠ [] := by simpa using hne
  obtain ⟨r, hr, hbinds⟩ :=
    Statement.exists_render (Insert.expressible_ofRecords d table hrecords)
  rw [Insert.binds_ofRecords, List.flatMap_map] at hbinds
  exact ⟨_, r, Insert.finish_ofCalls_records table hrecords,
    Query.finish_ofInsert (Insert.conflict_ofCalls table [call]), rfl, hr, hbinds⟩

/-- Some items become one INSERT, from either builder and in every dialect. It lists the columns
of their model and binds their values in order. Cut into rows of that width, the binds are read as
the items; so is every list of rows that show the same values, also under names that got a text in
front. -/
theorem items_survive_storage (d : Dialect) (table : String) {items : List s.Item}
    (hne : items ≠ []) :
    let call : Insert.Call := .records s.model (items.map s.record)
    let insert : Query := .insert (.ofCalls table [call])
    let upsert : Query := .upsert (.ofCalls table [.insert call])
    ∃ i r, insert.finish.outcome = .ok (.insert i) ∧ upsert.finish.outcome = .ok (.insert i) ∧
      i.columns = s.model.columns ∧ (insert.build d).outcome = .ok r ∧
      (upsert.build d).outcome = .ok r ∧
      r.binds = items.flatMap (fun item => (s.record item).values) ∧
      List.Forall₂ (s.ReadsAs "") (Row.cut i.columns r.binds) items ∧
      (∀ lead rows, List.Forall₂ (fun stored row => Row.Shows (stored.led lead) row)
        (Row.cut i.columns r.binds) rows → List.Forall₂ (s.ReadsAs lead) rows items) ∧
      (∀ lead rows, List.Forall₂ Row.Shows (Row.cut i.columns r.binds) rows →
        List.Forall₂ (s.ReadsAs lead) (rows.map (Row.led lead)) items) := by
  intro call insert upsert
  obtain ⟨i, r, hinsert, hupsert, hcolumns, hr, hbinds⟩ := s.builds_items d table hne
  have hbuild : (insert.build d).outcome = .ok r := by
    rw [Query.build, Logged.outcome_bind, hinsert]
    exact hr
  have hread (lead : String) (rows : List Row) (h : List.Forall₂
      (fun stored row => Row.Shows (stored.led lead) row) (Row.cut i.columns r.binds) rows) :
      List.Forall₂ (s.ReadsAs lead) rows items := by
    rw [hcolumns, hbinds, s.cut_values, List.forall₂_map_left_iff] at h
    exact h.flip.imp fun _ _ => s.readsAs_of_shows
  refine ⟨i, r, ?_, ?_, hcolumns, hbuild, ?_, hbinds, ?_, hread, ?_⟩
  · rw [hinsert]
    rfl
  · rw [hupsert, hinsert]
    rfl
  · rw [Query.build, hupsert]
    exact hbuild
  · refine hread "" _ (List.forall₂_same.2 fun row _ => ?_)
    rw [Row.led_empty]
    exact .refl row
  · intro lead rows h
    refine hread lead _ (List.forall₂_map_right_iff.2 (h.imp fun _ _ hshows => ?_))
    exact hshows.led lead

/-- Two people, one without a name, are read from rows that list the columns in another order, with
one of another name and one that comes too late among them. -/
theorem people_survive_storage :
    let s : Schema := ⟨"people", [("id", .required .int32), ("name", .optional .text)],
      by decide, by decide⟩
    let person (id : Int32) (name : Option String) : s.Item := (id, name, ())
    let ann := person 7 (some "Ann")
    let bob := person (-8) none
    ∃ r, ((Query.insert (.ofCalls "people"
        [.records s.model [s.record ann, s.record bob]])).build .mysql).outcome = .ok r ∧
      r.binds = [.int 7, .text "Ann", .int (-8), .null] ∧
      List.Forall₂ (s.ReadsAs "p_")
        [⟨[("p_name", .text "Ann"), ("id", .int 1), ("p_id", .int 7), ("p_name", .null)]⟩,
          ⟨[("p_name", .null), ("p_id", .int (-8))]⟩] [ann, bob] := by
  intro s person ann bob
  obtain ⟨i, r, -, -, hcolumns, hbuild, -, hbinds, -, hread, -⟩ :=
    s.items_survive_storage .mysql "people" (List.cons_ne_nil ann [bob])
  have hvalues : r.binds = [.int 7, .text "Ann", .int (-8), .null] := hbinds
  refine ⟨r, hbuild, hvalues, hread "p_" _ ?_⟩
  have hcut : Row.cut s.model.columns [.int 7, .text "Ann", .int (-8), .null] =
      [⟨[("id", .int 7), ("name", .text "Ann")]⟩, ⟨[("id", .int (-8)), ("name", .null)]⟩] := by
    decide
  have hann : Row.Shows (.led "p_" ⟨[("id", .int 7), ("name", .text "Ann")]⟩)
      ⟨[("p_name", .text "Ann"), ("id", .int 1), ("p_id", .int 7)]⟩ :=
    .other [("p_name", .text "Ann")] [("p_id", .int 7)] (.int 1) (by decide) (.listed (by decide))
  rw [hcolumns, hvalues, hcut]
  refine .cons ?_ (.cons (.listed (by decide)) .nil)
  exact .again [("p_name", .text "Ann"), ("id", .int 1), ("p_id", .int 7)] [] .null (.head _) hann

end Schema

end PolySql
