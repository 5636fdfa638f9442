import QueryKit.Decimal.Reading
import QueryKit.Exchange.Basic
import QueryKit.Timestamp.Text
import QueryKit.Value.Key
set_option autoImplicit false

/-! # Values in exchange

Null, truth values, integers and texts stand for themselves. A value of any other kind is an object
with one field, whose name tells the kind. -/

namespace QueryKit

instance : Encode Decimal := ⟨fun d => .string d.toText⟩

instance : Decode Decimal where
  decode? j := (decode? j : Option String).bind fun s => Decimal.ofText? s.toList

instance : Encode Uuid := ⟨fun u => .string u.toText⟩

instance : Decode Uuid where
  decode? j := (decode? j : Option String).bind fun s => Uuid.ofText? s.toList

instance : Encode Timestamp := ⟨fun t => .string t.toText⟩

instance : Decode Timestamp where
  decode? j := (decode? j : Option String).bind fun s => Timestamp.ofText? s.toList

/-- The number that is given by its bits in hexadecimal. -/
def Binary64.ofHex? (j : Json) : Option Binary64 := do
  let digits ← (decode? j : Option String)
  let bits ← Text.hexNumber? digits.toList
  return ⟨UInt64.ofNat bits⟩

/-- The bytes that are written as pairs of hexadecimal digits. -/
def bytesOfHex? : List Char → Option (List UInt8)
  | [] => some []
  | a :: b :: rest => do
    let n ← Text.hexNumber? [a, b]
    let tail ← bytesOfHex? rest
    return UInt8.ofNat n :: tail
  | _ => none

namespace Value

mutual

/-- The exchange form of a value. -/
def toExchange : Value → Json
  | .null => .null
  | .bool b => .bool b
  | .int n => encode n
  | .float x => encode x
  | .decimal d => .tagged "dec" (encode d)
  | .text s => .string s
  | .bytes data => .tagged "bytes" (.string (Text.hexBytes data))
  | .json j => .tagged "json" (encode j)
  | .uuid u => .tagged "uuid" (encode u)
  | .timestamp t => .tagged "ts" (encode t)
  | .array items => .tagged "array" (.array (toExchangeItems items))

/-- Item by item. -/
def toExchangeItems : List Value → List Json
  | [] => []
  | v :: rest => v.toExchange :: toExchangeItems rest

end

/-- The value of a kind other than array, from its tag and its payload. -/
def ofTagged? (tag : String) (payload : Json) : Option Value :=
  match tag with
  | "float" => (Binary64.ofHex? payload).map .float
  | "dec" => (decode? payload).map .decimal
  | "bytes" => do
    let digits ← (decode? payload : Option String)
    return .bytes (← bytesOfHex? digits.toList)
  | "json" => some (.json payload)
  | "uuid" => (decode? payload).map .uuid
  | "ts" => (decode? payload).map .timestamp
  | _ => none

mutual

/-- The value with an exchange form. -/
def ofExchange? : Json → Option Value
  | .null => some .null
  | .bool b => some (.bool b)
  | .number (.integer n) => (Text.int64? n).map .int
  | .string s => some (.text s)
  | .object fields => ofFields? fields
  | _ => none

/-- The value of a kind that is told by a tag. -/
def ofFields? : List (String × Json) → Option Value
  | [(tag, .array items)] =>
    if tag == "array" then (ofItems? items).map .array else ofTagged? tag (.array items)
  | [(tag, payload)] => ofTagged? tag payload
  | _ => none

/-- Item by item. -/
def ofItems? : List Json → Option (List Value)
  | [] => some []
  | item :: rest => do return (← ofExchange? item) :: (← ofItems? rest)

end

end Value

instance : Encode Value := ⟨Value.toExchange⟩

instance : Decode Value := ⟨Value.ofExchange?⟩

/-- Null is a value, so an optional value is a list of at most one. -/
instance : Encode (Option Value) := ⟨fun v => v.elim .null fun v => .array [encode v]⟩

instance : Encode Key where
  encode
    | .int n => .tagged "int" (encode n)
    | .text s => .tagged "text" (.string s)
    | .bool b => .tagged "bool" (.bool b)

end QueryKit
