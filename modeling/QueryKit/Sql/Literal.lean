import QueryKit.Sql.Spelling
import QueryKit.Value.Printer
set_option autoImplicit false

/-! # Literals

A value as it is written into SQL text. Statements with literals in place of placeholders are for
reading only. -/

namespace QueryKit.Dialect

mutual

/-- The literal for a value. -/
def literal (d : Dialect) : Value → String
  | .null => "NULL"
  | .bool b => if b then "TRUE" else "FALSE"
  | .int n => toString n.toInt
  | .float x => FloatLayout.plain.write x
  | .decimal x => x.toText
  | .text s => d.textLiteral s
  | .bytes data => d.bytesLiteral data
  | .json j => d.textLiteral j.compact
  | .uuid u => "'" ++ u.toText ++ "'"
  | .timestamp t => "'" ++ t.toText ++ "'"
  | .array items => "(" ++ String.intercalate ", " (literals d items) ++ ")"

/-- The literal for every item. -/
def literals (d : Dialect) : List Value → List String
  | [] => []
  | item :: rest => literal d item :: literals d rest

end

end QueryKit.Dialect
