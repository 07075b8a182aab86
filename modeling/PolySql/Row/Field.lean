import PolySql.Calendar.Reading
import PolySql.Value

/-!
# Field types

A field of a model has a `FieldType`: a scalar type, or one that may be absent. Reading a stored
value as a field type gives the value that the field then has, always of the field's own kind, or
nothing if the stored value does not fit.

* `Scalar.read?`, `FieldType.read?` : a stored value as a field;
* `Scalar.Holds`, `FieldType.Holds` : the values a field can have;
* `FieldType.whenMissing` : the value of a field without a column;
* `FieldType.read?_eq_self`, `FieldType.holds_of_read?` : reading gives values of the type, and
  leaves those alone.
-/

namespace PolySql

/-- The integer types, by sign and width. -/
inductive IntType where
  | int8
  | int16
  | int32
  | int64
  | uint8
  | uint16
  | uint32
  | uint64
deriving DecidableEq, Repr

namespace IntType

/-- The least integer of the type. -/
def least : IntType → Int
  | .int8 => -0x80
  | .int16 => -0x8000
  | .int32 => -0x80000000
  | .int64 => -0x8000000000000000
  | .uint8 | .uint16 | .uint32 | .uint64 => 0

/-- The greatest integer of the type. -/
def greatest : IntType → Int
  | .int8 => 0x7f
  | .int16 => 0x7fff
  | .int32 => 0x7fffffff
  | .int64 => 0x7fffffffffffffff
  | .uint8 => 0xff
  | .uint16 => 0xffff
  | .uint32 => 0xffffffff
  | .uint64 => 0xffffffffffffffff

/-- Whether an integer is one of the type. -/
def holds (t : IntType) (n : Int64) : Bool := t.least ≤ n.toInt && n.toInt ≤ t.greatest

end IntType

/-- The types of fields that are always present. -/
inductive Scalar where
  | any
  | bool
  | int (type : IntType)
  | float
  | text
  | bytes
  | date
  | timestamp
deriving DecidableEq, Repr

namespace Scalar

/-- The type's name in messages. -/
def label : Scalar → String
  | .any => "any"
  | .bool => Value.Kind.bool.label
  | .int _ => Value.Kind.integer.label
  | .float => Value.Kind.float.label
  | .text => Value.Kind.text.label
  | .bytes => Value.Kind.blob.label
  | .date => Value.Kind.date.label
  | .timestamp => Value.Kind.timestamp.label

/-- The values of the type. -/
def Holds : Scalar → Value → Prop
  | .any, _ => True
  | .bool, .bool _ => True
  | .int t, .int n => t.holds n
  | .float, .float _ => True
  | .text, .text _ => True
  | .bytes, .blob _ => True
  | .date, .date _ => True
  | .timestamp, .timestamp _ => True
  | _, _ => False

/-- A stored value as one of the type. Zero and one are truth values, integers are floating point
numbers, and text can be bytes, a date or a timestamp. -/
def read? : Scalar → Value → Option Value
  | .any, v => some v
  | .bool, .bool b => some (.bool b)
  | .bool, .int n => if n = 0 then some (.bool false) else if n = 1 then some (.bool true) else none
  | .int t, .int n => if t.holds n then some (.int n) else none
  | .float, .float x => some (.float x)
  | .float, .int n => some (.float (.ofInt n.toInt))
  | .text, .text s => some (.text s)
  | .bytes, .blob content => some (.blob content)
  | .bytes, .text s => some (.blob s.toUTF8.toList)
  | .date, .date d => some (.date d)
  | .date, .text s => (Date.read? s.toList).map .date
  | .timestamp, .timestamp t => some (.timestamp t)
  | .timestamp, .text s => (Timestamp.read? s.toList).map .timestamp
  | _, _ => none

theorem read?_eq_self {t : Scalar} {v : Value} (h : t.Holds v) : t.read? v = some v := by
  cases t <;> cases v <;> simp_all [Holds, read?]

theorem holds_of_read? {t : Scalar} {v w : Value} (h : t.read? v = some w) : t.Holds w := by
  cases t <;> cases v <;> simp only [read?, reduceCtorEq, Option.some.injEq] at h
  case bool.int =>
    split at h
    · cases h; trivial
    · split at h <;> cases h; trivial
  case int.int => split at h <;> cases h; assumption
  case date.text => obtain ⟨_, _, rfl⟩ := Option.map_eq_some_iff.1 h; trivial
  case timestamp.text => obtain ⟨_, _, rfl⟩ := Option.map_eq_some_iff.1 h; trivial
  all_goals subst h; trivial

end Scalar

/-- The types of fields. -/
inductive FieldType where
  | required (scalar : Scalar)
  /-- A field that null or an absent column leaves without a value. -/
  | optional (type : FieldType)
deriving DecidableEq, Repr

namespace FieldType

/-- The scalar type beneath the options. -/
def scalar : FieldType → Scalar
  | .required s => s
  | .optional t => t.scalar

/-- The values of the type; null is the absent value. -/
def Holds : FieldType → Value → Prop
  | .required s, v => s.Holds v
  | .optional t, v => v = .null ∨ t.Holds v

/-- A stored value as one of the type. -/
def read? : FieldType → Value → Option Value
  | .required s, v => s.read? v
  | .optional _, .null => some .null
  | .optional t, v => t.read? v

/-- The value of a field whose column is missing; only an optional field has one. -/
def whenMissing : FieldType → Option Value
  | .required _ => none
  | .optional _ => some .null

theorem read?_eq_self {t : FieldType} {v : Value} (h : t.Holds v) : t.read? v = some v := by
  induction t with
  | required s => exact Scalar.read?_eq_self h
  | optional t ih =>
    rcases h with rfl | h
    · rfl
    · cases v <;> simp_all [read?]

theorem holds_of_read? {t : FieldType} {v w : Value} (h : t.read? v = some w) : t.Holds w := by
  induction t with
  | required s => exact Scalar.holds_of_read? h
  | optional t ih =>
    cases v <;> simp only [read?, Option.some.injEq] at h
    case null => exact .inl h.symm
    all_goals exact .inr (ih h)

theorem holds_of_whenMissing {t : FieldType} {v : Value} (h : t.whenMissing = some v) :
    t.Holds v := by
  cases t with
  | required s => simp [whenMissing] at h
  | optional t => simp only [whenMissing, Option.some.injEq] at h; exact .inl h.symm

end FieldType

end PolySql
