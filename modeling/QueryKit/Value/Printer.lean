import QueryKit.Value.Basic
import QueryKit.Json.Printer
import QueryKit.Timestamp.Text
set_option autoImplicit false

/-! # Texts of values

The plain text is what a reader of text columns gets. The text in messages names the kind of every
part, so that `7` the number and `7` the text can be told apart. -/

namespace QueryKit.Value

mutual

/-- The plain text of a value. -/
def display : Value → String
  | .null => "NULL"
  | .bool b => if b then "true" else "false"
  | .int n => toString n.toInt
  | .float x => FloatLayout.plain.write x
  | .decimal d => d.toText
  | .text s => s
  | .bytes data => "<" ++ toString data.length ++ " bytes>"
  | .json j => j.compact
  | .uuid u => u.toText
  | .timestamp t => t.toText
  | .array items => "[" ++ String.intercalate ", " (displayItems items) ++ "]"

/-- The plain text of every item. -/
def displayItems : List Value → List String
  | [] => []
  | item :: rest => item.display :: displayItems rest

end

/-- A list of bytes as decimal numbers. -/
def byteList (data : List UInt8) : String :=
  "[" ++ String.intercalate ", " (data.map fun b => toString b.toNat) ++ "]"

mutual

/-- The text of a value in messages. -/
def shown : Value → String
  | .null => "Null"
  | .bool b => "Bool(" ++ (if b then "true" else "false") ++ ")"
  | .int n => "Int(" ++ toString n.toInt ++ ")"
  | .float x => "Float(" ++ FloatLayout.explicit.write x ++ ")"
  | .decimal d => "Decimal(" ++ d.toText ++ ")"
  | .text s => "Text(" ++ Text.quoted s ++ ")"
  | .bytes data => "Bytes(" ++ byteList data ++ ")"
  | .json j => "Json(" ++ j.shown ++ ")"
  | .uuid u => "Uuid(" ++ u.toText ++ ")"
  | .timestamp t => "Timestamp(" ++ t.toZuluText ++ ")"
  | .array items => "Array([" ++ String.intercalate ", " (shownItems items) ++ "])"

/-- Every item as messages show it. -/
def shownItems : List Value → List String
  | [] => []
  | item :: rest => item.shown :: shownItems rest

end

end QueryKit.Value
