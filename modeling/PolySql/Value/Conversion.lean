import PolySql.Value

/-!
# Values of other types

`ToValue` turns the types that a statement can be given into values. Every integer type fits into
64 bits with a sign, a 32-bit number is widened, and an absent value is null.
-/

namespace PolySql

/-- Types whose elements can be bound. -/
class ToValue (α : Type) where
  toValue : α → Value

export ToValue (toValue)

instance : ToValue Value := ⟨id⟩
instance : ToValue Bool := ⟨.bool⟩
instance : ToValue Int8 := ⟨fun n => .int n.toInt64⟩
instance : ToValue Int16 := ⟨fun n => .int n.toInt64⟩
instance : ToValue Int32 := ⟨fun n => .int n.toInt64⟩
instance : ToValue Int64 := ⟨.int⟩
instance : ToValue UInt8 := ⟨fun n => .int (.ofNat n.toNat)⟩
instance : ToValue UInt16 := ⟨fun n => .int (.ofNat n.toNat)⟩
instance : ToValue UInt32 := ⟨fun n => .int (.ofNat n.toNat)⟩
instance : ToValue Binary64 := ⟨.float⟩
instance : ToValue Binary32 := ⟨fun x => .float x.widen⟩
instance : ToValue String := ⟨.text⟩
instance : ToValue (List UInt8) := ⟨.blob⟩
instance : ToValue Date := ⟨.date⟩
instance : ToValue Timestamp := ⟨.timestamp⟩

instance {α : Type} [ToValue α] : ToValue (Option α) where
  toValue
    | some a => toValue a
    | none => .null

@[simp] theorem toValue_some {α : Type} [ToValue α] (a : α) : toValue (some a) = toValue a := rfl

@[simp] theorem toValue_none {α : Type} [ToValue α] : toValue (none : Option α) = .null := rfl

end PolySql
