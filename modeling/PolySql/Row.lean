import PolySql.Model

/-!
# Rows of a result

A `Row` is a list of named values. A field is looked up under its column, with a given text in
front of it, and the first column of that name counts.

* `Row.get?` : the value under a name;
* `Row.read` : one field of a given type;
* `Row.decode` : a record of a model, or the fault of its first field that cannot be read.
-/

namespace PolySql

/-- One row of a result. -/
structure Row where
  columns : List (String × Value)
deriving DecidableEq, Repr

/-- Why a field cannot be read. -/
inductive DecodeFault where
  | missingColumn (field key : String)
  | typeMismatch (field : String) (expected : Scalar) (found : Value.Kind)
deriving DecidableEq, Repr

/-- The fault in words; the column goes by the name that was looked up. -/
def DecodeFault.message : DecodeFault → String
  | .missingColumn field key => "missing column '" ++ key ++ "' for field '" ++ field ++ "'"
  | .typeMismatch field expected found =>
    "field '" ++ field ++ "' expected " ++ expected.label ++ ", found " ++ found.label

namespace Row

/-- The row without columns. -/
def empty : Row := ⟨[]⟩

/-- One more column at the end. -/
def push (r : Row) (name : String) (v : Value) : Row := ⟨r.columns ++ [(name, v)]⟩

/-- The first value under a name. -/
def get? (r : Row) (name : String) : Option Value :=
  (r.columns.find? fun c => c.1 == name).map (·.2)

@[simp] theorem get?_empty (name : String) : empty.get? name = none := rfl

/-- Whether there is a column of the name. -/
def contains (r : Row) (name : String) : Bool := (r.get? name).isSome

/-- The names of the columns in order. -/
def names (r : Row) : List String := r.columns.map (·.1)

/-- The number of columns, those of one name counted each. -/
def length (r : Row) : Nat := r.columns.length

/-- The field of a column as a value of its type; the column's name in the row has `lead` in front
of it. -/
def read (r : Row) (lead field : String) (t : FieldType) : Except DecodeFault Value :=
  match r.get? (lead ++ field) with
  | some v =>
    match t.read? v with
    | some w => .ok w
    | none => .error (.typeMismatch field t.scalar v.kind)
  | none =>
    match t.whenMissing with
    | some w => .ok w
    | none => .error (.missingColumn field (lead ++ field))

theorem holds_of_read {r : Row} {lead field : String} {t : FieldType} {v : Value}
    (h : r.read lead field t = .ok v) : t.Holds v := by
  unfold read at h
  split at h
  · split at h <;> cases h
    exact FieldType.holds_of_read? (by assumption)
  · split at h <;> cases h
    exact FieldType.holds_of_whenMissing (by assumption)

/-- The fields in order, up to the first that cannot be read. -/
def readAll (r : Row) (lead : String) : List Field → Except DecodeFault (List Value)
  | [] => .ok []
  | f :: fs =>
    match r.read lead f.column f.type with
    | .error e => .error e
    | .ok v =>
      match r.readAll lead fs with
      | .error e => .error e
      | .ok vs => .ok (v :: vs)

theorem fits_of_readAll {r : Row} {lead : String} :
    ∀ {fs : List Field} {vs : List Value}, r.readAll lead fs = .ok vs → Model.Fits fs vs
  | [], vs, h => by cases h; trivial
  | f :: fs, vs, h => by
    unfold readAll at h
    split at h
    · cases h
    · split at h <;> cases h
      exact ⟨holds_of_read (by assumption), fits_of_readAll (by assumption)⟩

/-- A record of a model out of the columns whose names have `lead` in front. -/
def decode (r : Row) (lead : String) (m : Model) : Except DecodeFault (Record m) :=
  match h : r.readAll lead m.fields with
  | .error e => .error e
  | .ok vs => .ok ⟨vs, fits_of_readAll h⟩

theorem decode_eq_ok {r : Row} {lead : String} {m : Model} {x : Record m} :
    r.decode lead m = .ok x ↔ r.readAll lead m.fields = .ok x.values := by
  unfold decode
  split
  · simp_all
  · simp_all [Record.ext_iff, eq_comm]

theorem decode_eq_error {r : Row} {lead : String} {m : Model} {e : DecodeFault} :
    r.decode lead m = .error e ↔ r.readAll lead m.fields = .error e := by
  unfold decode
  split <;> simp_all

end Row

end PolySql
