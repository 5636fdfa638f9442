import QueryKit.Sql.Marker
import QueryKit.Text.Hex
import QueryKit.Query.Clause
import QueryKit.Dialect
set_option autoImplicit false

/-! # Spellings of dialects

What the dialects write differently: quotes, placeholders, operators, limits, locks and literals.
Suffixes of statements begin with a blank, so that an absent one is the empty text. -/

namespace QueryKit.Dialect

/-- The character that quotes identifiers. -/
def identifierQuote : Dialect → Char
  | .mysql => Sql.backquote
  | _ => Sql.doubleQuote

/-- The placeholder of the value with this index, counted from one. -/
def placeholder (d : Dialect) (index : Nat) : String :=
  match d with
  | .postgres => "$" ++ toString index
  | _ => "?"

/-- An insert can return the generated key. -/
def supportsReturning : Dialect → Bool
  | .mysql => false
  | _ => true

/-- A subquery can refer to the rows beside it. -/
def supportsLateral : Dialect → Bool
  | .postgres => true
  | _ => false

/-- The suffix that locks the rows read; empty where rows cannot be locked. -/
def lockSuffix : Dialect → Lock → String
  | .postgres, .forUpdate => " FOR UPDATE"
  | .postgres, .shared => " FOR SHARE"
  | .mysql, .forUpdate => " FOR UPDATE"
  | .mysql, .shared => " LOCK IN SHARE MODE"
  | .sqlite, _ => ""

/-- The spelling of a comparison operator. Where comparison by pattern ignores case anyway, the
    operator that ignores case is the plain one. -/
def operator (d : Dialect) (op : String) : String :=
  match d with
  | .postgres => op
  | _ => if op == "ILIKE" then "LIKE" else if op == "NOT ILIKE" then "NOT LIKE" else op

/-- The limit that stands for no limit where an offset needs one in front of it. -/
def unlimited : Dialect → Option String
  | .postgres => none
  | .mysql => some "18446744073709551615"
  | .sqlite => some "-1"

/-- The suffix for a limit and an offset. -/
def limitSuffix (d : Dialect) (limit offset : Option UInt64) : String :=
  let offsetSuffix := match offset with
    | some o => " OFFSET " ++ toString o.toNat
    | none => ""
  match limit, offset with
  | some l, _ => " LIMIT " ++ toString l.toNat ++ offsetSuffix
  | none, some _ =>
    (match d.unlimited with
      | some all => " LIMIT " ++ all
      | none => "") ++ offsetSuffix
  | none, none => ""

/-- One character inside a text literal. -/
def escapeChar (d : Dialect) (c : Char) : List Char :=
  if c == Sql.apostrophe then [c, c]
  else if c == '\\' && d == .mysql then [c, c]
  else [c]

/-- The body of a text literal. -/
def escapeText (d : Dialect) (s : String) : String :=
  String.ofList (s.toList.flatMap d.escapeChar)

/-- A text literal. -/
def textLiteral (d : Dialect) (s : String) : String :=
  String.ofList (Sql.apostrophe :: s.toList.flatMap d.escapeChar ++ [Sql.apostrophe])

/-- A literal for bytes. -/
def bytesLiteral (d : Dialect) (data : List UInt8) : String :=
  match d with
  | .postgres => "'\\x" ++ Text.hexBytes data ++ "'::bytea"
  | _ => "X'" ++ Text.hexBytes data ++ "'"

/-- What follows the table in an insert of a row without columns. -/
def defaultRow : Dialect → String
  | .mysql => "() VALUES ()"
  | _ => "DEFAULT VALUES"

end QueryKit.Dialect
