import QueryKit.Value.Conversion
set_option autoImplicit false

/-! # Binary parameters

How values are sent to a Postgres server: as the bytes of the type that the server expects for a
parameter. Numbers are converted to the expected type where that loses nothing that the type can
hold, and are refused where they are out of its range. -/

namespace QueryKit

/-- The types of single parameters. -/
inductive ScalarType
  | bool
  | int2
  | int4
  | int8
  | float4
  | float8
  | numeric
  | text
  | varchar
  | uuid
  | timestamp
  | timestamptz
  | bytea
  | json
  | jsonb
deriving DecidableEq, Repr

/-- The types of parameters. -/
inductive ParameterType
  | scalar (type : ScalarType)
  | array (member : ScalarType)
deriving DecidableEq, Repr

namespace ScalarType

/-- The number by which the server knows the type. -/
def oid : ScalarType → Nat
  | .bool => 16
  | .int2 => 21
  | .int4 => 23
  | .int8 => 20
  | .float4 => 700
  | .float8 => 701
  | .numeric => 1700
  | .text => 25
  | .varchar => 1043
  | .uuid => 2950
  | .timestamp => 1114
  | .timestamptz => 1184
  | .bytea => 17
  | .json => 114
  | .jsonb => 3802

/-- The name of the type. -/
def name : ScalarType → String
  | .bool => "bool"
  | .int2 => "int2"
  | .int4 => "int4"
  | .int8 => "int8"
  | .float4 => "float4"
  | .float8 => "float8"
  | .numeric => "numeric"
  | .text => "text"
  | .varchar => "varchar"
  | .uuid => "uuid"
  | .timestamp => "timestamp"
  | .timestamptz => "timestamptz"
  | .bytea => "bytea"
  | .json => "json"
  | .jsonb => "jsonb"

/-- Every type. -/
def all : List ScalarType :=
  [.bool, .int2, .int4, .int8, .float4, .float8, .numeric, .text, .varchar, .uuid, .timestamp,
    .timestamptz, .bytea, .json, .jsonb]

end ScalarType

/-- The type of a name; a pair of brackets behind the name of a type makes it an array. -/
def ParameterType.ofName? (name : String) : Option ParameterType :=
  match ScalarType.all.find? fun t => t.name == name with
  | some t => some (.scalar t)
  | none => (ScalarType.all.find? fun t => t.name ++ "[]" == name).map .array

/-- What is sent for a parameter. -/
inductive Payload
  | null
  | bytes (data : List UInt8)
deriving DecidableEq

namespace Payload

/-! ## Forms of single values -/

/-- The last `count` bytes of a number, the most significant first. -/
def bigEndian (count n : Nat) : List UInt8 :=
  (List.range count).map fun i => UInt8.ofNat (n / Nat.pow 256 (count - 1 - i))

/-- An integer in two's complement. -/
def signed (count : Nat) (n : Int) : List UInt8 :=
  bigEndian count (n % Nat.pow 256 count).toNat

/-- The bytes of a text. -/
def utf8 (s : String) : List UInt8 :=
  s.toUTF8.toList

/-- The digits of a number to the base ten thousand, the most significant first. -/
def groups : Nat → Nat → List Nat
  | 0, _ => []
  | fuel + 1, n => if n = 0 then [] else groups fuel (n / 10000) ++ [n % 10000]

/-- Groups without the zeros at the end of those after the point. A number less than one keeps
    them. -/
def trimGroups (whole : Nat) (all : List Nat) : List Nat :=
  if whole = 0 then all
  else all.take whole ++ ((all.drop whole).reverse.dropWhile (· = 0)).reverse

/-- The form of a decimal: the number of its groups, the weight of the first one, the sign, the scale
    and the groups. The point lies between two groups. -/
def numeric (d : Decimal) : List UInt8 :=
  if d.isZero then List.replicate 8 0
  else
    let placeGroups := (d.scale + 3) / 4
    let all := groups 16 (d.mantissa * Nat.pow 10 (4 * placeGroups - d.scale))
    let kept := trimGroups (all.length - placeGroups) all
    let weight : Int := (all.length : Int) - placeGroups - 1
    bigEndian 2 kept.length ++ signed 2 weight ++ bigEndian 2 (if d.negative then 0x4000 else 0)
      ++ bigEndian 2 d.scale ++ kept.flatMap (bigEndian 2)

/-- The form of a floating-point number. -/
def float8 (x : Binary64) : List UInt8 :=
  bigEndian 8 x.canonical.bits.toNat

/-- The form of a floating-point number of half the size. -/
def float4 (x : Binary64) : List UInt8 :=
  bigEndian 4 x.toSingle.toNat

/-- The form of an instant. -/
def instant (t : Timestamp) : List UInt8 :=
  signed 8 t.microsSince2000

/-- An integer of a size, if it is in range. -/
def inRange? (count : Nat) (n : Int) : Option (List UInt8) :=
  let half := Int.pow 2 (8 * count - 1)
  if -half ≤ n && n < half then some (signed count n) else none

/-! ## Values by type -/

/-- An integer as a parameter. -/
def ofInt (type : ScalarType) (n : Int64) : Option (List UInt8) :=
  match type with
  | .int2 => inRange? 2 n.toInt
  | .int4 => inRange? 4 n.toInt
  | .float4 => some (bigEndian 4 (BinaryFormat.single.write (.finite (n < 0) n.toInt.natAbs)))
  | .float8 => some (float8 (Binary64.ofInt n.toInt))
  | .numeric => some (numeric (Decimal.ofInt64 n))
  | .text | .varchar => some (utf8 (toString n.toInt))
  | _ => some (signed 8 n.toInt)

/-- A floating-point number as a parameter. -/
def ofBinary (type : ScalarType) (x : Binary64) : Option (List UInt8) :=
  match type with
  | .float4 => some (float4 x)
  | .numeric => (Decimal.ofBinary? x).map numeric
  | _ => some (float8 x)

/-- A text as a parameter: numbers, identifiers and instants are read from it where such a type is
    expected. -/
def ofText (type : ScalarType) (s : String) : Option (List UInt8) :=
  let trimmed := Text.trim s.toList
  match type with
  | .int2 | .int4 | .int8 => (Text.readInt64? trimmed).bind (ofInt type)
  | .numeric => (Decimal.ofText? trimmed).map numeric
  | .uuid => (Uuid.ofText? s.toList).map Uuid.bytes
  | .timestamp | .timestamptz => (Timestamp.ofText? s.toList).map instant
  | _ => some (utf8 s)

/-- A decimal as a parameter. -/
def ofDecimal (type : ScalarType) (d : Decimal) : Option (List UInt8) :=
  match type with
  | .float4 | .float8 => ofBinary type d.toBinary
  | .text | .varchar => some (utf8 d.toText)
  | _ => some (numeric d)

/-- A JSON value as a parameter. -/
def ofJson (type : ScalarType) (j : Json) : List UInt8 :=
  match type with
  | .jsonb => 1 :: utf8 j.compact
  | _ => utf8 j.compact

/-- A single value as a parameter; none if it cannot be sent. -/
def ofScalar? (type : ScalarType) : Value → Option Payload
  | .null => some .null
  | .bool b => some (.bytes [if b then 1 else 0])
  | .int n => (ofInt type n).map .bytes
  | .float x => (ofBinary type x).map .bytes
  | .text s => (ofText type s).map .bytes
  | .decimal d => (ofDecimal type d).map .bytes
  | .bytes data => some (.bytes data)
  | .json j => some (.bytes (ofJson type j))
  | .uuid u => some (.bytes u.bytes)
  | .timestamp t => some (.bytes (instant t))
  | .array _ => none

/-! ## Arrays -/

/-- A member of an array: its length and its bytes, or the length -1 for null. -/
def member : Payload → List UInt8
  | .null => signed 4 (-1)
  | .bytes data => bigEndian 4 data.length ++ data

/-- The form of an array of one dimension, whose first index is one. -/
def array (type : ScalarType) (members : List Payload) : List UInt8 :=
  let hasNull := members.any (· == .null)
  bigEndian 4 1 ++ bigEndian 4 (if hasNull then 1 else 0) ++ bigEndian 4 type.oid
    ++ bigEndian 4 members.length ++ bigEndian 4 1 ++ members.flatMap member

/-- A value as a parameter; none if it cannot be sent. A single value takes the same form where an
    array is expected. -/
def encode? : ParameterType → Value → Option Payload
  | .array type, .array items =>
    (items.mapM (ofScalar? type)).map fun members => .bytes (array type members)
  | .scalar type, v => ofScalar? type v
  | .array _, v => ofScalar? .bytea v

end Payload

end QueryKit
