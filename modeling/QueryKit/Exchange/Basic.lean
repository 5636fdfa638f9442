import QueryKit.Json.Basic
import QueryKit.Text.Hex
import QueryKit.Text.Numeral
set_option autoImplicit false

/-! # Exchange forms

The exchange form of a domain value is a JSON value from which it can be rebuilt, so that queries,
rows and errors can be kept, sent and compared. An absent value is null, a list that is not given is
empty, and a floating-point number is given by its bits, which no decimal notation can lose. -/

namespace QueryKit

/-- Types with an exchange form. -/
class Encode (α : Type) where
  /-- The exchange form of a value. -/
  encode : α → Json

/-- Types whose exchange form can be read. -/
class Decode (α : Type) where
  /-- The value with an exchange form, if it is one. -/
  decode? : Json → Option α

export Encode (encode)
export Decode (decode?)

/-- The value of a field of an object; a field that is not there counts as null. -/
def Json.read? {α : Type} [Decode α] (key : String) (j : Json) : Option α :=
  decode? ((j.field? key).getD .null)

/-- The value of a field of an object, or a fallback if the field is not there or null. -/
def Json.readOr {α : Type} [Decode α] (fallback : α) (key : String) (j : Json) : Option α :=
  match (j.field? key).getD .null with
  | .null => some fallback
  | v => decode? v

/-! ## Simple values -/

instance : Encode Unit := ⟨fun _ => .null⟩

instance : Encode Bool := ⟨.bool⟩

instance : Decode Bool where
  decode?
    | .bool b => some b
    | _ => none

instance : Encode String := ⟨.string⟩

instance : Decode String where
  decode?
    | .string s => some s
    | _ => none

instance : Encode Int := ⟨.int⟩

instance : Decode Int where
  decode?
    | .number (.integer n) => some n
    | _ => none

instance : Encode Nat := ⟨fun n => .int n⟩

instance : Decode Nat where
  decode? j := (decode? j : Option Int).bind fun n => if 0 ≤ n then some n.toNat else none

instance : Encode UInt64 := ⟨fun n => .int n.toNat⟩

instance : Decode UInt64 where
  decode? j := (decode? j : Option Nat).bind fun n =>
    if n < UInt64.size then some (UInt64.ofNat n) else none

instance : Encode Int64 := ⟨fun n => .int n.toInt⟩

instance : Decode Int64 where
  decode? j := (decode? j : Option Int).bind Text.int64?

instance : Encode Int32 := ⟨fun n => .int n.toInt⟩

instance : Decode Int32 where
  decode? j := (decode? j : Option Int).bind fun n =>
    if Int32.minValue.toInt ≤ n && n ≤ Int32.maxValue.toInt then some (Int32.ofInt n) else none

instance : Encode UInt32 := ⟨fun n => .int n.toNat⟩

instance : Decode UInt32 where
  decode? j := (decode? j : Option Nat).bind fun n =>
    if n < UInt32.size then some (UInt32.ofNat n) else none

/-- The object with one field. -/
def Json.tagged (tag : String) (payload : Json) : Json :=
  .object [(tag, payload)]

instance : Encode Binary64 where
  encode x := .tagged "float" (.string (String.ofList (Text.hexFixed 16 x.canonical.bits.toNat)))

/-! ## Lists, pairs and absent values -/

instance {α : Type} [Encode α] : Encode (List α) where
  encode xs := .array (xs.map encode)

instance {α : Type} [Decode α] : Decode (List α) where
  decode?
    | .null => some []
    | .array xs => xs.mapM decode?
    | _ => none

instance {α β : Type} [Encode α] [Encode β] : Encode (α × β) where
  encode p := .array [encode p.1, encode p.2]

/-- A part that is not given counts as null. -/
instance {α β : Type} [Decode α] [Decode β] : Decode (α × β) where
  decode?
    | .array parts => do
      return (← decode? (parts.getD 0 .null), ← decode? (parts.getD 1 .null))
    | _ => none

instance {α : Type} [Encode α] : Encode (Option α) where
  encode
    | some a => encode a
    | none => .null

instance {α : Type} [Decode α] : Decode (Option α) where
  decode?
    | .null => some none
    | j => (decode? j).map some

/-! ## JSON itself -/

namespace Json

mutual

/-- The JSON value with its floating-point numbers given by their bits. -/
def bitwise : Json → Json
  | .number (.float x) => encode x
  | .array items => .array (bitwiseItems items)
  | .object fields => .object (bitwiseFields fields)
  | other => other

/-- Item by item. -/
def bitwiseItems : List Json → List Json
  | [] => []
  | item :: rest => item.bitwise :: bitwiseItems rest

/-- Field by field. -/
def bitwiseFields : List (String × Json) → List (String × Json)
  | [] => []
  | (k, v) :: rest => (k, v.bitwise) :: bitwiseFields rest

end

end Json

instance : Encode Json := ⟨Json.bitwise⟩

instance : Decode Json := ⟨some⟩

end QueryKit
