import QueryKit.Value.Printer
import QueryKit.Decimal.Binary
import QueryKit.Decimal.Reading
import QueryKit.Binary64.Reading
import QueryKit.Text.Blank
set_option autoImplicit false

/-! # Conversions of values

A value becomes JSON for documents and cache keys, and JSON becomes a value again when a document
store answers. The readings `int64?`, `binary?`, `text?` and `bool?` give the native value that a
value can stand for. -/

namespace QueryKit.Value

/-! ## JSON -/

mutual

/-- The JSON form of a value. Decimals, identifiers and instants are texts, bytes a list of numbers;
    numbers that JSON does not have are null. -/
def toJson : Value → Json
  | .null => .null
  | .bool b => .bool b
  | .int n => .int n.toInt
  | .float x => .float x
  | .decimal d => .string d.toText
  | .text s => .string s
  | .bytes data => .array (data.map fun b => .int b.toNat)
  | .json j => j
  | .uuid u => .string u.toText
  | .timestamp t => .string t.toText
  | .array items => .array (toJsonItems items)

/-- The JSON form of every item. -/
def toJsonItems : List Value → List Json
  | [] => []
  | item :: rest => item.toJson :: toJsonItems rest

end

mutual

/-- The value for JSON that a document store answers. Objects stay JSON. -/
def ofJson : Json → Value
  | .null => .null
  | .bool b => .bool b
  | .number n =>
    match n.toInt64? with
    | some i => .int i
    | none => .float n.toBinary
  | .string s => .text s
  | .array items => .array (ofJsonItems items)
  | .object fields => .json (.object fields)

/-- The value for every item. -/
def ofJsonItems : List Json → List Value
  | [] => []
  | item :: rest => ofJson item :: ofJsonItems rest

end

/-! ## Native values -/

/-- The integer a floating-point number stands for: integral numbers beyond the range stand for the
    end of it. -/
def clampedInt64? (x : Binary64) : Option Int64 :=
  x.integer?.map fun n =>
    Int64.ofInt (max Int64.minValue.toInt (min Int64.maxValue.toInt n))

/-- The value as a 64-bit integer. -/
def int64? : Value → Option Int64
  | .int n => some n
  | .decimal d => if d.isIntegral then d.toInt64? else none
  | .text s => Text.readInt64? (Text.trim s.toList)
  | .float x => clampedInt64? x
  | _ => none

/-- The value as a floating-point number. -/
def binary? : Value → Option Binary64
  | .int n => some (Binary64.ofInt n.toInt)
  | .float x => some x
  | .decimal d => some d.toBinary
  | .text s => Binary64.ofText? (Text.trim s.toList)
  | _ => none

/-- The value as a text. -/
def text? : Value → Option String
  | .text s => some s
  | _ => none

/-- The value as a truth value; a number is true unless it is zero. -/
def bool? : Value → Option Bool
  | .bool b => some b
  | .int n => some (n != 0)
  | _ => none

end QueryKit.Value
