import QueryKit.Row.Basic
import QueryKit.Value.Conversion
import QueryKit.Error
set_option autoImplicit false

/-! # Typed reads

Reading a column as a native type. A column that is absent, null or of a kind that does not stand
for the type is refused with the reason. -/

namespace QueryKit

/-- Reads native values of a type. -/
abbrev Reader (α : Type) := Value → Except ReadFault α

namespace Reader

/-- Turns a partial reading into a reader that names what it expected. -/
def expecting {α : Type} (expected : String) (read? : Value → Option α) : Reader α := fun v =>
  match read? v with
  | some a => .ok a
  | none => .error (.wrongKind expected v)

/-- Turns a partial reading of a text into a result. -/
def parsed {α : Type} (expected : String) : Option α → Except ReadFault α
  | some a => .ok a
  | none => .error (.malformed expected)

/-- Any value. -/
def value : Reader Value := fun v => .ok v

/-- A 64-bit integer. -/
def int64 : Reader Int64 := expecting "integer" Value.int64?

/-- A 32-bit integer. -/
def int32 : Reader Int32 := fun v => do
  let n ← int64 v
  if Int32.minValue.toInt ≤ n.toInt && n.toInt ≤ Int32.maxValue.toInt then .ok (Int32.ofInt n.toInt)
  else .error .outOfRange

/-- A floating-point number. -/
def binary : Reader Binary64 := expecting "number" Value.binary?

/-- An exact decimal. -/
def decimal : Reader Decimal
  | .decimal d => .ok d
  | .int n => .ok (Decimal.ofInt64 n)
  | .float x => parsed "decimal" (Decimal.ofBinary? x)
  | .text s => parsed "decimal" (Decimal.ofText? (Text.trim s.toList))
  | v => .error (.wrongKind "decimal" v)

/-- A truth value. -/
def bool : Reader Bool := expecting "bool" Value.bool?

/-- A text; every value other than null has one. -/
def text : Reader String
  | .null => .error .null
  | v => .ok v.display

/-- An identifier. -/
def uuid : Reader Uuid
  | .uuid u => .ok u
  | .text s => parsed "uuid" (Uuid.ofText? s.toList)
  | v => .error (.wrongKind "uuid" v)

/-- An instant. -/
def timestamp : Reader Timestamp
  | .timestamp t => .ok t
  | .text s => parsed "timestamp" (Timestamp.ofText? s.toList)
  | v => .error (.wrongKind "timestamp" v)

/-- The JSON form, which every value has. -/
def json : Reader Json := fun v => .ok v.toJson

/-- Nothing for null, and otherwise what the reader reads. -/
def optional {α : Type} (reader : Reader α) : Reader (Option α)
  | .null => .ok none
  | v => (reader v).map some

end Reader

/-- Reads a column of a row. -/
def Row.read {α : Type} (reader : Reader α) (column : String) (row : Row) : Except Error α :=
  match row.get? column with
  | none => .error (.decode column .absent)
  | some v =>
    match reader v with
    | .ok a => .ok a
    | .error fault => .error (.decode column fault)

end QueryKit
