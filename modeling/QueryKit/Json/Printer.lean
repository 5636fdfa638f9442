import QueryKit.Json.Basic
import QueryKit.Binary64.Layout
import QueryKit.Text.Hex
import QueryKit.Text.Quoted
set_option autoImplicit false

/-! # JSON texts

Three texts of a value: the compact one without any blank, the one with a line for every item and
field, and the one in which messages show it. -/

namespace QueryKit

/-- The text of a number. -/
def JsonNumber.toText : JsonNumber → String
  | .integer n => toString n
  | .float x => FloatLayout.json.write x

namespace Json

/-- One character inside a JSON string: quotes, backslashes and controls are escaped. -/
def escapeChar (c : Char) : List Char :=
  match c with
  | '"' => ['\\', '"']
  | '\\' => ['\\', '\\']
  | '\x08' => ['\\', 'b']
  | '\x0c' => ['\\', 'f']
  | '\n' => ['\\', 'n']
  | '\r' => ['\\', 'r']
  | '\t' => ['\\', 't']
  | c => if c.toNat < 0x20 then '\\' :: 'u' :: Text.hexFixed 4 c.toNat else [c]

/-- A string between quotes. -/
def quote (s : String) : String :=
  String.ofList ('"' :: s.toList.flatMap escapeChar ++ ['"'])

/-! ## Compact text -/

mutual

/-- The compact text of a value. -/
def compact : Json → String
  | .null => "null"
  | .bool b => if b then "true" else "false"
  | .number n => n.toText
  | .string s => quote s
  | .array items => "[" ++ String.intercalate "," (compactItems items) ++ "]"
  | .object fields => "\x7b" ++ String.intercalate "," (compactFields fields) ++ "\x7d"

/-- The compact text of every item. -/
def compactItems : List Json → List String
  | [] => []
  | item :: rest => item.compact :: compactItems rest

/-- The name and the compact text of every field. -/
def compactFields : List (String × Json) → List String
  | [] => []
  | (k, v) :: rest => (quote k ++ ":" ++ v.compact) :: compactFields rest

end

/-! ## Text with line breaks -/

/-- A bracketed list with one entry a line, indented by two spaces for every level. -/
def block (level : Nat) (opening closing : String) : List String → String
  | [] => opening ++ closing
  | entries =>
    let margin := "\n" ++ String.ofList (List.replicate (2 * (level + 1)) ' ')
    let last := "\n" ++ String.ofList (List.replicate (2 * level) ' ')
    opening ++ margin ++ String.intercalate ("," ++ margin) entries ++ last ++ closing

mutual

/-- The text with a line for every item and field. -/
def pretty (level : Nat) : Json → String
  | .array items => block level "[" "]" (prettyItems (level + 1) items)
  | .object fields => block level "\x7b" "\x7d" (prettyFields (level + 1) fields)
  | .null => "null"
  | .bool b => if b then "true" else "false"
  | .number n => n.toText
  | .string s => quote s

/-- The lines of every item. -/
def prettyItems (level : Nat) : List Json → List String
  | [] => []
  | item :: rest => item.pretty level :: prettyItems level rest

/-- The lines of every field. -/
def prettyFields (level : Nat) : List (String × Json) → List String
  | [] => []
  | (k, v) :: rest => (quote k ++ ": " ++ v.pretty level) :: prettyFields level rest

end

/-! ## Text in messages -/

mutual

/-- The text that names the kind of every part. -/
def shown : Json → String
  | .null => "Null"
  | .bool b => "Bool(" ++ (if b then "true" else "false") ++ ")"
  | .number n => "Number(" ++ n.toText ++ ")"
  | .string s => "String(" ++ Text.quoted s ++ ")"
  | .array items => "Array [" ++ String.intercalate ", " (shownItems items) ++ "]"
  | .object fields =>
    "Object \x7b" ++ String.intercalate ", " (shownFields fields) ++ "\x7d"

/-- Every item as messages show it. -/
def shownItems : List Json → List String
  | [] => []
  | item :: rest => item.shown :: shownItems rest

/-- Every field as messages show it. -/
def shownFields : List (String × Json) → List String
  | [] => []
  | (k, v) :: rest => (Text.quoted k ++ ": " ++ v.shown) :: shownFields rest

end

end Json

end QueryKit
