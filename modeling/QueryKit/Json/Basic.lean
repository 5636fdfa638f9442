import QueryKit.Binary64.Basic
set_option autoImplicit false

/-! # JSON values

A number is either an integer or a floating-point number, and the two stay apart even when they
denote the same quantity. The fields of an object are kept in increasing order of their names, one
field for a name. -/

namespace QueryKit

/-- A JSON number. Reading a text makes integers of those within 64 bits, signed or unsigned. -/
inductive JsonNumber
  | integer (n : Int)
  | float (x : Binary64)
deriving DecidableEq

/-- A JSON value. -/
inductive Json
  | null
  | bool (b : Bool)
  | number (n : JsonNumber)
  | string (s : String)
  | array (items : List Json)
  | object (fields : List (String × Json))

namespace JsonNumber

/-- The same kind of number and the same quantity. -/
def same : JsonNumber → JsonNumber → Bool
  | .integer m, .integer n => m == n
  | .float x, .float y => x.same y
  | _, _ => false

/-- The 64-bit signed integer that the number is held as, if it is one. -/
def toInt64? : JsonNumber → Option Int64
  | .integer n =>
    if Int64.minValue.toInt ≤ n && n ≤ Int64.maxValue.toInt then some (Int64.ofInt n) else none
  | .float _ => none

/-- The nearest floating-point number. -/
def toBinary : JsonNumber → Binary64
  | .integer n => Binary64.ofInt n
  | .float x => x

end JsonNumber

namespace Json

/-- An integer as a JSON value. -/
def int (n : Int) : Json := .number (.integer n)

/-- A finite floating-point number as a JSON value; JSON has no other, so the rest are null. -/
def float (x : Binary64) : Json :=
  if x.value?.isSome then .number (.float x) else .null

/-! ## Objects -/

/-- Sets a field among fields in increasing order of their names. -/
def insertField (key : String) (value : Json) : List (String × Json) → List (String × Json)
  | [] => [(key, value)]
  | (k, v) :: rest =>
    if key == k then (key, value) :: rest
    else if key < k then (key, value) :: (k, v) :: rest
    else (k, v) :: insertField key value rest

/-- Fields in increasing order of their names; the last value given for a name counts. -/
def sortFields (fields : List (String × Json)) : List (String × Json) :=
  fields.foldl (fun acc (k, v) => insertField k v acc) []

/-- The object with these fields. -/
def ofFields (fields : List (String × Json)) : Json :=
  .object (sortFields fields)

/-- The value of a field. -/
def field? (key : String) : Json → Option Json
  | .object fields => fields.lookup key
  | _ => none

mutual

/-- Puts the fields of every object into order, keeping the last value given for a name. -/
def ordered : Json → Json
  | .array items => .array (orderedItems items)
  | .object fields => .object (sortFields (orderedFields fields))
  | other => other

/-- Orders every item. -/
def orderedItems : List Json → List Json
  | [] => []
  | item :: rest => item.ordered :: orderedItems rest

/-- Orders the value of every field. -/
def orderedFields : List (String × Json) → List (String × Json)
  | [] => []
  | (k, v) :: rest => (k, v.ordered) :: orderedFields rest

end

/-! ## Equality -/

mutual

/-- Equality of values, in which numbers are compared as `JsonNumber.same` does. -/
def same : Json → Json → Bool
  | .null, .null => true
  | .bool a, .bool b => a == b
  | .number m, .number n => m.same n
  | .string s, .string t => s == t
  | .array xs, .array ys => sameItems xs ys
  | .object xs, .object ys => sameFields xs ys
  | _, _ => false

/-- Item by item. -/
def sameItems : List Json → List Json → Bool
  | [], [] => true
  | x :: xs, y :: ys => x.same y && sameItems xs ys
  | _, _ => false

/-- Field by field. -/
def sameFields : List (String × Json) → List (String × Json) → Bool
  | [], [] => true
  | (k, x) :: xs, (l, y) :: ys => k == l && x.same y && sameFields xs ys
  | _, _ => false

end

end Json

end QueryKit
