import QueryKit.Row.Reading
import QueryKit.Schema.Registry
set_option autoImplicit false

/-! # Introspection

Tables described by the catalog of their own store. The catalogs differ, but the statements name the
columns of their results alike. -/

namespace QueryKit

/-- The statement that lists the columns of a table. -/
def Dialect.columnsSql : Dialect → String
  | .postgres =>
    "
SELECT
  column_name,
  data_type,
  is_nullable,
  column_default,
  ordinal_position
FROM information_schema.columns
WHERE table_schema = current_schema()
  AND table_name = $1
ORDER BY ordinal_position
"
  | .mysql =>
    "
SELECT
  column_name AS column_name,
  data_type AS data_type,
  is_nullable AS is_nullable,
  column_default AS column_default,
  ordinal_position AS ordinal_position
FROM information_schema.columns
WHERE table_schema = DATABASE()
  AND table_name = ?
ORDER BY ordinal_position
"
  | .sqlite =>
    "
SELECT
  name AS column_name,
  type AS data_type,
  CASE WHEN \"notnull\" = 1 THEN 'NO' ELSE 'YES' END AS is_nullable,
  dflt_value AS column_default,
  cid + 1 AS ordinal_position
FROM pragma_table_info(?)
ORDER BY cid
"

namespace Column

/-- A text that says no, in letters of any case. -/
def saysNo (text : String) : Bool :=
  text.toList.map Char.toUpper == ['N', 'O']

/-- Reads a column from a row of the catalog. -/
def ofRow (row : Row) : Except Error Column := do
  let isNullable ← row.read Reader.text "is_nullable"
  let position ← row.read Reader.int64 "ordinal_position"
  let name ← row.read Reader.text "column_name"
  let dataType ← row.read Reader.text "data_type"
  let defaultExpr ← row.read Reader.text.optional "column_default"
  let ordinal ← row.read (fun _ => Reader.int32 (.int position)) "ordinal_position"
  return { name, dataType, notNull := saysNo isNullable, defaultExpr, ordinal }

end Column

/-- The description of a table by its store; none if the store lists no columns of it. -/
def Driver.describe {σ : Type} (driver : Driver σ) (table : String) : Action σ (Option Table) := do
  let result ← driver.query ⟨driver.dialect.columnsSql, [.text table]⟩
  if result.rows.isEmpty then return none
  else
    let columns ← Action.ofExcept (result.rows.mapM Column.ofRow)
    return some { name := table, columns }

/-- The store of a driver as a source. -/
def SchemaSource.ofDriver {σ : Type} (driver : Driver σ) (now : σ → Timestamp) : SchemaSource σ where
  loadTable := driver.describe
  now

end QueryKit
