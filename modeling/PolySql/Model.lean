import PolySql.Row.Field

/-!
# Models and their records

A `Model` says how the rows of a table look to a program: the table, and a type for every column.
A `Record` of a model has one value of the right type for each field.
-/

namespace PolySql

/-- A column and the type its values have. -/
structure Field where
  column : String
  type : FieldType
deriving DecidableEq, Repr

/-- A table with its columns. -/
structure Model where
  table : String
  fields : List Field
deriving DecidableEq, Repr

namespace Model

/-- The columns in field order. -/
def columns (m : Model) : List String := m.fields.map (·.column)

/-- The values are those of the fields, one for each, in order. -/
def Fits : List Field → List Value → Prop
  | [], [] => True
  | f :: fs, v :: vs => f.type.Holds v ∧ Fits fs vs
  | _, _ => False

theorem Fits.length_eq {fs : List Field} {vs : List Value} (h : Fits fs vs) :
    vs.length = fs.length := by
  induction fs generalizing vs with
  | nil => cases vs <;> simp_all [Fits]
  | cons f fs ih =>
    cases vs with
    | nil => simp [Fits] at h
    | cons v vs => simpa using ih h.2

end Model

/-- One value for each field of a model. -/
structure Record (m : Model) where
  values : List Value
  fits : Model.Fits m.fields values

namespace Record

theorem length_values {m : Model} (r : Record m) : r.values.length = m.columns.length := by
  simp [r.fits.length_eq, Model.columns]

@[ext] theorem ext {m : Model} {r s : Record m} (h : r.values = s.values) : r = s := by
  cases r; cases s; cases h; rfl

end Record

end PolySql
