set_option autoImplicit false

/-! # Dialects

The relational dialects that statements are compiled for. -/

namespace QueryKit

/-- A dialect of SQL. -/
inductive Dialect
  | postgres
  | mysql
  | sqlite
deriving DecidableEq, Repr

namespace Dialect

/-- The name of a dialect in messages and settings. -/
def name : Dialect → String
  | .postgres => "postgres"
  | .mysql => "mysql"
  | .sqlite => "sqlite"

/-- The dialect of a name. -/
def ofName? : String → Option Dialect
  | "postgres" => some .postgres
  | "mysql" => some .mysql
  | "sqlite" => some .sqlite
  | _ => none

end Dialect

end QueryKit
