import SqlClient.Calendar
import SqlClient.Value

/-! # Conversion to values

Numbers keep their sign class and are widened to 64 bits; dates, times and identifiers become text;
a missing value becomes null.
-/
namespace SqlClient

class ToValue (α : Type) where
  toValue : α → Value

export ToValue (toValue)

instance : ToValue Value := ⟨id⟩
instance : ToValue Bool := ⟨.bool⟩
instance : ToValue Int8 := ⟨fun i => .int i.toInt64⟩
instance : ToValue Int16 := ⟨fun i => .int i.toInt64⟩
instance : ToValue Int32 := ⟨fun i => .int i.toInt64⟩
instance : ToValue Int64 := ⟨.int⟩
instance : ToValue UInt8 := ⟨fun u => .uint u.toUInt64⟩
instance : ToValue UInt16 := ⟨fun u => .uint u.toUInt64⟩
instance : ToValue UInt32 := ⟨fun u => .uint u.toUInt64⟩
instance : ToValue UInt64 := ⟨.uint⟩
instance : ToValue Binary32 := ⟨fun x => .float x.widen⟩
instance : ToValue Binary64 := ⟨.float⟩
instance : ToValue String := ⟨.text⟩
instance : ToValue (List UInt8) := ⟨.bytes⟩
instance : ToValue Date := ⟨fun d => .text d.text⟩
instance : ToValue DateTime := ⟨fun t => .text t.text⟩
instance : ToValue ZonedDateTime := ⟨fun t => .text t.utc.text⟩

instance {α : Type} [ToValue α] : ToValue (Option α) :=
  ⟨fun a => (a.map toValue).getD .null⟩

/-- A universally unique identifier: sixteen bytes. -/
structure Uuid where
  bytes : List UInt8
  deriving DecidableEq

/-- Small hexadecimal digits in groups of eight, four, four, four and twelve. -/
def Uuid.text (u : Uuid) : String :=
  let group := fun start count =>
    String.ofList (Text.Hex.encode Text.Hex.digit ((u.bytes.drop start).take count))
  "-".intercalate [group 0 4, group 4 2, group 6 2, group 8 2, group 10 6]

instance : ToValue Uuid := ⟨fun u => .text u.text⟩

end SqlClient
