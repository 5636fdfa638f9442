import QueryKit.Value.Conversion
set_option autoImplicit false

/-! # Grouping keys

Stores disagree on how identifiers come back: as a number or as its digits, in upper or lower case.
Two values with one key identify the same thing, so rows are grouped by key and not by value. -/

namespace QueryKit

/-- What identifies a value for grouping. -/
inductive Key
  | int (n : Int64)
  | text (s : String)
  | bool (b : Bool)
deriving DecidableEq

namespace Key

/-- Integers come before texts and texts before truth values; texts go by their characters. -/
def lt : Key → Key → Bool
  | .int m, .int n => m < n
  | .int _, _ => true
  | .text _, .int _ => false
  | .text s, .text t => s < t
  | .text _, .bool _ => true
  | .bool a, .bool b => !a && b
  | .bool _, _ => false

/-- The key of a text: an integer where it reads as one, an identifier in its written form where it
    reads as one, and otherwise the text as it is. -/
def ofText (s : String) : Key :=
  let trimmed := Text.trim s.toList
  match Text.readInt64? trimmed with
  | some n => .int n
  | none =>
    match Uuid.ofText? trimmed with
    | some u => .text u.toText
    | none => .text s

/-- The key of a floating-point number: an integral number strictly within 64 bits is an integer. -/
def ofBinary (x : Binary64) : Key :=
  match x.integer? with
  | some n =>
    if n.natAbs < Int64.minValue.toInt.natAbs then .int (Int64.ofInt n)
    else .text (FloatLayout.plain.write x)
  | none => .text (FloatLayout.plain.write x)

/-- The key of a decimal, which does not depend on its scale. -/
def ofDecimal (d : Decimal) : Key :=
  let n := d.normalize
  if n.scale = 0 then
    match n.toInt64? with
    | some i => .int i
    | none => .text n.toText
  else .text n.toText

/-- The key of a JSON value: numbers held as integers and texts have those keys, all else goes by its
    compact text. -/
def ofJson : Json → Key
  | .number n =>
    match n.toInt64? with
    | some i => .int i
    | none => .text n.toText
  | .string s => ofText s
  | other => .text other.compact

end Key

namespace Value

/-- The key of a value; null and arrays identify nothing. -/
def key? : Value → Option Key
  | .null => none
  | .bool b => some (.bool b)
  | .int n => some (.int n)
  | .float x => some (Key.ofBinary x)
  | .decimal d => some (Key.ofDecimal d)
  | .text s => some (Key.ofText s)
  | .uuid u => some (.text u.toText)
  | .bytes data => some (.text (byteList data))
  | .timestamp t => some (.text t.toText)
  | .json j => some (Key.ofJson j)
  | .array _ => none

/-- The form in which an identifier is bound: whatever has an integer for a key becomes it. -/
def canonical (v : Value) : Value :=
  match v.key? with
  | some (.int n) => .int n
  | _ => v

/-- Has this key. -/
def hasKey (v : Value) (k : Key) : Bool :=
  v.key? == some k

end Value

end QueryKit
