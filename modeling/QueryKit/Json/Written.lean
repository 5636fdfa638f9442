import QueryKit.Json.Basic
set_option autoImplicit false

/-! # JSON as it is written

The grammar holds of a text as a whole, but not all that is well written has a value: a string may
hold one half of a pair that only together makes a character, and a number may be too large. Such a
part does no harm as long as nobody asks for it, and neither do repeated names nor lists within lists
to any depth. `Written` keeps a text in this state, and `toJson?` asks for the value of all of it. -/

namespace QueryKit.Json

/-- A value as it is written. A string or a number that has no value is `none`, and an object lists
    its fields as they stand, repeated names included. -/
inductive Written
  | null
  | bool (b : Bool)
  | number (n : Option JsonNumber)
  | string (s : Option String)
  | array (items : List Written)
  | object (fields : List (Option String × Written))

namespace Written

/-- Lists and objects that are asked for as a whole are nested less deep than this. -/
def depthLimit : Nat := 128

mutual

/-- The value, in which the fields of objects keep their order, if every part of it has one and
    lists and objects are nested less than `depth` deep. -/
def toJson? : Written → Nat → Option Json
  | .null, _ => some .null
  | .bool b, _ => some (.bool b)
  | .number n, _ => n.map .number
  | .string s, _ => s.map .string
  | .array items, depth =>
    if depth ≤ 1 then none else (toItems? items (depth - 1)).map .array
  | .object fields, depth =>
    if depth ≤ 1 then none else (toFields? fields (depth - 1)).map .object

/-- The value of every item. -/
def toItems? : List Written → Nat → Option (List Json)
  | [], _ => some []
  | item :: rest, depth =>
    (item.toJson? depth).bind fun v => (toItems? rest depth).map fun vs => v :: vs

/-- The name and the value of every field. -/
def toFields? : List (Option String × Written) → Nat → Option (List (String × Json))
  | [], _ => some []
  | (name, item) :: rest, depth =>
    name.bind fun k =>
      (item.toJson? depth).bind fun v => (toFields? rest depth).map fun vs => (k, v) :: vs

end

end Written

end QueryKit.Json
