import QueryKit.Dialect
import QueryKit.Query.Clause
import QueryKit.Text.Search
import QueryKit.Value.Printer
set_option autoImplicit false

/-! # Errors

An error is a cause; `Error.message` is the one place where causes become text. Compile errors are
those that arise before anything is sent to a store. -/

namespace QueryKit

/-- What a validation refuses. -/
inductive Fault
  | operator (text : String)
  | identifier (text : String)
  | markerCount (markers values : Nat) (sql : String)
  | relationPath (text : String)
  | setting (name value : String)
  | insertWithoutRows
  | insertWithoutColumns
  | insertColumnsDiffer (row : Nat)
  | updateWithoutColumns
  | joinInMutation (dialect : Dialect) (verb : String)
  | limitInMutation (dialect : Dialect)
  | conflictWithoutTarget
  | lateralWithoutParents
  | deleteWithoutConditions (table : String)
  | insertWithoutDocuments
  | updateWithoutFields
  | relationWithoutTypeColumn (relation : String)
  | relationWithoutPivot (relation : String)
  | relationWithoutModel (relation : String)
  | limitOnPivot (relation : String)
  /-- A refusal that a store reports in its own words. -/
  | reported (text : String)

/-- The text of a refusal. -/
def Fault.message : Fault → String
  | .operator text => "invalid operator: " ++ Text.quoted text
  | .identifier text => "invalid identifier: " ++ Text.quoted text
  | .markerCount markers values sql =>
    "raw fragment has " ++ toString markers ++ " placeholder(s) but " ++ toString values
      ++ " binding(s): " ++ Text.quoted sql
  | .relationPath text => "invalid relation path: " ++ Text.quoted text
  | .setting name value =>
    name ++ " must be a non-negative integer, got " ++ Text.quoted value
  | .insertWithoutRows => "INSERT requires at least one row"
  | .insertWithoutColumns => "multi-row INSERT requires at least one column"
  | .insertColumnsDiffer row =>
    "INSERT row " ++ toString row ++ " has different columns than row 0"
  | .updateWithoutColumns => "UPDATE requires at least one SET column"
  | .joinInMutation dialect verb =>
    dialect.name ++ " does not support JOIN in " ++ verb ++ " statements"
  | .limitInMutation dialect => dialect.name ++ " does not support LIMIT on UPDATE/DELETE"
  | .conflictWithoutTarget => "ON CONFLICT DO UPDATE requires the unique_by columns"
  | .lateralWithoutParents => "lateral query requires at least one parent id"
  | .deleteWithoutConditions table =>
    "DELETE on " ++ table ++ " without WHERE; use truncate() to clear the table"
  | .insertWithoutDocuments => "insert requires at least one document"
  | .updateWithoutFields => "update requires at least one field"
  | .relationWithoutTypeColumn relation =>
    "morph_to relation " ++ relation ++ " has no type column"
  | .relationWithoutPivot relation =>
    "belongs_to_many relation " ++ relation ++ " has no pivot table"
  | .relationWithoutModel relation => "relation " ++ relation ++ " has no related model"
  | .limitOnPivot relation =>
    "per-parent limit is not supported on many-to-many relation " ++ relation
  | .reported text => text

/-- What a target of compilation cannot express. -/
inductive Construct
  | distinct
  | groupBy
  | having
  | rowLock
  | aggregate (function : Aggregate)
  | joinInUpdate
  | joinInDelete
  | patternNotText
  | operator (text : String)
  | rawWhere
  | nestedWhere
  | columnComparison
  | rawSelect
  | rawOrder
  | rightJoin
  | crossJoin
  | joinWithoutCondition
  | joinNotByEquality
  | joinOnJoined
  | upsert
  /-- A construct that a store reports in its own words. -/
  | reported (text : String)

/-- The name of a construct. -/
def Construct.name : Construct → String
  | .distinct => "distinct"
  | .groupBy => "group by"
  | .having => "having"
  | .rowLock => "row lock"
  | .aggregate function => function.word ++ " aggregate"
  | .joinInUpdate => "join in update"
  | .joinInDelete => "join in delete"
  | .patternNotText => "LIKE with a non-string pattern"
  | .operator text => "operator " ++ text
  | .rawWhere => "raw where"
  | .nestedWhere => "nested where group"
  | .columnComparison => "column comparison"
  | .rawSelect => "raw select"
  | .rawOrder => "raw order"
  | .rightJoin => "right join"
  | .crossJoin => "cross join"
  | .joinWithoutCondition => "join without condition"
  | .joinNotByEquality => "non-equality join"
  | .joinOnJoined => "join on a joined collection"
  | .upsert => "upsert"
  | .reported text => text

/-- Why a column cannot be read as a native value. -/
inductive ReadFault
  | absent
  | null
  | wrongKind (expected : String) (got : Value)
  | outOfRange
  | malformed (expected : String)
  /-- A refusal that a store reports in its own words. -/
  | reported (text : String)

/-- The text of a read fault. -/
def ReadFault.message : ReadFault → String
  | .absent => "column not present in row"
  | .null => "unexpected NULL"
  | .wrongKind expected got => "expected " ++ expected ++ ", got " ++ got.shown
  | .outOfRange => "out of range integral type conversion attempted"
  | .malformed expected => "invalid " ++ expected
  | .reported text => text

/-- Why an operation failed. -/
inductive Error
  | connection (message : String)
  | query (message : String)
  | notFound (message : String)
  | uniqueViolation (message : String)
  | foreignKeyViolation (message : String)
  | notNullViolation (message : String)
  | tableNotFound (table : String)
  | decode (column : String) (fault : ReadFault)
  | validation (fault : Fault)
  | unsupportedConstruct (target : String) (construct : Construct)
  | lateralUnsupported (dialect : String)
  | unknownRelation (model relation : String)
  | unknownModel (name : String)
  | unknownMorphType (tag : String)
  | transactionAlreadyActive
  | noActiveTransaction
  | serialization (message : String)
  | pool (message : String)
  | other (message : String)

namespace Error

/-- The text of an error. -/
def message : Error → String
  | .connection m => "Connection error: " ++ m
  | .query m => "Query error: " ++ m
  | .notFound m => "Not found: " ++ m
  | .uniqueViolation m => "Unique constraint violation: " ++ m
  | .foreignKeyViolation m => "Foreign key violation: " ++ m
  | .notNullViolation m => "Not-null violation: " ++ m
  | .tableNotFound table => "Table not found: " ++ table
  | .decode column fault => "Decode error on column '" ++ column ++ "': " ++ fault.message
  | .validation fault => "Validation error: " ++ fault.message
  | .unsupportedConstruct target construct =>
    "Unsupported construct for " ++ target ++ ": " ++ construct.name
  | .lateralUnsupported dialect =>
    "Dialect '" ++ dialect ++ "' does not support lateral per-parent queries"
  | .unknownRelation model relation =>
    "Relation '" ++ relation ++ "' is not defined on model '" ++ model ++ "'"
  | .unknownModel name => "Model '" ++ name ++ "' is not registered"
  | .unknownMorphType tag => "No model registered for morph type '" ++ tag ++ "'"
  | .transactionAlreadyActive => "A transaction is already active on this connection"
  | .noActiveTransaction => "No active transaction"
  | .serialization m => "Serialization error: " ++ m
  | .pool m => "Pool error: " ++ m
  | .other m => m

/-- Raised before anything is sent to a store. -/
def isCompileError : Error → Bool
  | .validation _ => true
  | .unsupportedConstruct .. => true
  | .lateralUnsupported _ => true
  | _ => false

/-- A row with the same unique key exists. -/
def isUniqueViolation : Error → Bool
  | .uniqueViolation _ => true
  | _ => false

/-- A row that should exist does not. -/
def isNotFound : Error → Bool
  | .notFound _ => true
  | _ => false

/-- The phrases by which stores report a column or a table that is not there. -/
def reportsMissingSchema (text : String) : Bool :=
  let lower := String.ofList (text.toList.map Char.toLower)
  (Text.occurs "column" lower && Text.occurs "does not exist" lower) || Text.occurs "no such column" lower
    || Text.occurs "unknown column" lower || Text.occurs "no such table" lower

/-- Suggests that the known table description no longer matches the store. -/
def isSchemaMismatch : Error → Bool
  | .tableNotFound _ => true
  | .query m => reportsMissingSchema m
  | _ => false

end Error

end QueryKit
