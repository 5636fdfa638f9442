import QueryKit.Text.CharClass
import QueryKit.Text.Hex
set_option autoImplicit false

/-! # Quoted text

How a text is shown inside a message: between double quotes, with escapes for the quote, the
backslash, tab, return, newline and NUL, and a code point in braces for every other character that
does not print on its own. -/

namespace QueryKit.Text

/-- One character as it stands between double quotes. -/
def showChar (c : Char) : List Char :=
  match c with
  | '\t' => ['\\', 't']
  | '\r' => ['\\', 'r']
  | '\n' => ['\\', 'n']
  | '\x00' => ['\\', '0']
  | '"' => ['\\', '"']
  | '\\' => ['\\', '\\']
  | c =>
    if isHidden c then ['\\', 'u', '\x7b'] ++ hex c.toNat ++ ['\x7d'] else [c]

/-- A text between double quotes. -/
def quoted (s : String) : String :=
  String.ofList ('"' :: s.toList.flatMap showChar ++ ['"'])

end QueryKit.Text
