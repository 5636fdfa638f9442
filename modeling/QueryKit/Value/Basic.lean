import QueryKit.Decimal.Basic
import QueryKit.Json.Basic
import QueryKit.Timestamp.Basic
import QueryKit.Uuid
set_option autoImplicit false

/-! # Bound values

A value is what a placeholder of a statement stands for, and what a column of a row holds. -/

namespace QueryKit

/-- A value of one of eleven kinds. -/
inductive Value
  | null
  | bool (b : Bool)
  | int (n : Int64)
  | float (x : Binary64)
  | decimal (d : Decimal)
  | text (s : String)
  | bytes (data : List UInt8)
  | json (j : Json)
  | uuid (u : Uuid)
  | timestamp (t : Timestamp)
  /-- A list that is bound as a single value. -/
  | array (items : List Value)

instance : Inhabited Value := ⟨.null⟩

namespace Value

/-- The absent value. -/
def isNull : Value → Bool
  | .null => true
  | _ => false

mutual

/-- Equality of values of one kind. Floating-point numbers and decimals are compared as numbers, so
    that "no number" differs from itself and `1.5` equals `1.50`. -/
def same : Value → Value → Bool
  | .null, .null => true
  | .bool a, .bool b => a == b
  | .int m, .int n => m == n
  | .float x, .float y => x.same y
  | .decimal c, .decimal d => c.same d
  | .text s, .text t => s == t
  | .bytes a, .bytes b => a == b
  | .json i, .json j => i.same j
  | .uuid u, .uuid v => u == v
  | .timestamp s, .timestamp t => s == t
  | .array xs, .array ys => sameItems xs ys
  | _, _ => false

/-- Item by item. -/
def sameItems : List Value → List Value → Bool
  | [], [] => true
  | x :: xs, y :: ys => x.same y && sameItems xs ys
  | _, _ => false

end

end Value

end QueryKit
