import QueryKit.Document.Command
import QueryKit.Document.Field
import QueryKit.Document.Pattern
import QueryKit.Driver.Basic
set_option autoImplicit false

/-! # Queries as document commands

Only what a document store can do as faithfully as a store of rows is compiled. All else is refused
before anything is sent. -/

namespace QueryKit.Document

/-- Refuses a construct. -/
def unsupported {α : Type} (construct : Construct) : Except Error α :=
  .error (.unsupportedConstruct "document" construct)

/-! ## Filters -/

/-- The test for a comparison with a value. -/
def comparePredicate (op : String) (value : Value) : Except Error Predicate :=
  let json := value.toJson
  match op with
  | "=" => .ok (.equals json)
  | "!=" => .ok (.compares .notEqual json)
  | "<>" => .ok (.compares .notEqual json)
  | ">" => .ok (.compares .greater json)
  | ">=" => .ok (.compares .greaterOrEqual json)
  | "<" => .ok (.compares .less json)
  | "<=" => .ok (.compares .lessOrEqual json)
  | "LIKE" => pattern false false
  | "ILIKE" => pattern true false
  | "NOT LIKE" => pattern false true
  | "NOT ILIKE" => pattern true true
  | other => unsupported (.operator other)
where
  pattern (ignoreCase negated : Bool) : Except Error Predicate :=
    match value.text? with
    | some text => .ok (.matchesRegex (patternRegex text) ignoreCase negated)
    | none => unsupported .patternNotText

/-- The test for a condition. -/
def fieldTest (q : Query) : Condition → Except Error FieldTest
  | .compare column op value =>
    (comparePredicate op value).map fun p => ⟨fieldOf q column, p⟩
  | .oneOf column values negated =>
    .ok ⟨fieldOf q column, .oneOf (values.map Value.toJson) negated⟩
  | .isNull column negated => .ok ⟨fieldOf q column, .present negated⟩
  | .between column low high negated =>
    .ok ⟨fieldOf q column, .between low.toJson high.toJson negated⟩
  | .raw .. => unsupported .rawWhere
  | .nested .. => unsupported .nestedWhere
  | .compareColumns .. => unsupported .columnComparison

/-- Splits conditions into alternatives: every condition joined by OR begins a new one. -/
def alternatives {α : Type} : List (Connective × α) → List (List α)
  | [] => []
  | (_, first) :: rest =>
    match alternatives rest, rest with
    | branch :: branches, (.and, _) :: _ => (first :: branch) :: branches
    | branches, _ => [first] :: branches

/-- The filter for the conditions of a query. -/
def filterOf (q : Query) : Except Error Filter := do
  let tests ← q.wheres.mapM fun w => (fieldTest q w.condition).map fun t => (w.connective, t)
  .ok (alternatives tests)

/-! ## Options -/

/-- The fields to keep. Once the star is selected all fields are kept. -/
def projectionOf (q : Query) : List SelectColumn → Except Error (Option (List String))
  | [] => .ok (some [])
  | .raw .. :: _ => unsupported .rawSelect
  | .column name :: rest =>
    if name == "*" then .ok none
    else (projectionOf q rest).map fun fields => fields.map (fieldOf q name :: ·)

/-- The sort key for an order key. -/
def sortKey (q : Query) : Order → Except Error (String × Direction)
  | .column name direction => .ok (fieldOf q name, direction)
  | .raw .. => unsupported .rawOrder

/-- Whether a join keeps documents without a match. -/
def keepsUnmatched : JoinKind → Except Error Bool
  | .inner => .ok false
  | .left => .ok true
  | .right => unsupported .rightJoin
  | .cross => unsupported .crossJoin

/-- The field of a joined collection, whose key is taken to be called `id`. -/
def foreignFieldOf (column : String) : String :=
  let bare := withoutQualifier column
  if bare == "id" then idField else bare

/-- The lookup for a join. The side of the condition that the joined collection qualifies is the
    foreign one. -/
def lookupOf (q : Query) (j : Join) : Except Error Lookup := do
  let preserveUnmatched ← keepsUnmatched j.kind
  match j.condition with
  | none => unsupported .joinWithoutCondition
  | some on =>
    if on.operator != "=" then unsupported .joinNotByEquality
    else
      let joined := Sql.tableReference j.table
      let (own, foreign) :=
        if qualifier? on.first == some joined then (on.second, on.first) else (on.first, on.second)
      if (qualifier? own).any (· != Sql.tableReference q.table) then unsupported .joinOnJoined
      else
        .ok
          { source := tableName j.table
            localField := fieldOf q own
            foreignField := foreignFieldOf foreign
            target := joined
            preserveUnmatched }

/-! ## Commands -/

/-- Refuses a construct if it is there. -/
def refuseIf (found : Bool) (construct : Construct) : Except Error Unit :=
  if found then unsupported construct else .ok ()

/-- The command of a read. -/
def compileFind (q : Query) : Except Error Command := do
  refuseIf q.distinct .distinct
  refuseIf (!q.groups.isEmpty) .groupBy
  refuseIf (!q.havings.isEmpty) .having
  refuseIf q.lock.isSome .rowLock
  let projection ← projectionOf q q.columns
  let sort ← q.orders.mapM (sortKey q)
  let lookups ← q.joins.mapM (lookupOf q)
  let filter ← filterOf q
  .ok
    { collection := q.table
      operation := .find
      filter
      options :=
        { projection := projection.filter (!·.isEmpty)
          sort
          limit := q.limit
          skip := q.offset
          lookups } }

/-- The command that counts what a read finds. -/
def compileCount (q : Query) : Except Error Command :=
  (compileFind q).map fun c =>
    { c with operation := .count, options := { c.options with projection := none, sort := [] } }

/-- The command of an aggregate, of which only the count has an equivalent. -/
def compileAggregate (q : Query) (function : Aggregate) : Except Error Command :=
  match function with
  | .count => compileCount q
  | other => unsupported (.aggregate other)

/-- The command that tests whether a read finds anything. -/
def compileExists (q : Query) : Except Error Command :=
  (compileCount q).map fun c => { c with options := { c.options with limit := some 1 } }

/-- The command of an insert. -/
def compileInsert (q : Query) (rows : List Row) : Except Error Command :=
  if rows.isEmpty then .error (.validation .insertWithoutDocuments)
  else
    .ok
      { collection := q.table
        operation := .insertMany
        payload := some (.array (rows.map fun row => documentOf q row.entries)) }

/-- The command of an update. -/
def compileUpdate (q : Query) (values : List (String × Value)) : Except Error Command := do
  if values.isEmpty then .error (.validation .updateWithoutFields)
  refuseIf (!q.joins.isEmpty) .joinInUpdate
  let filter ← filterOf q
  .ok
    { collection := q.table
      operation := .updateMany
      filter
      payload := some (single "$set" (documentOf q values)) }

/-- The command of a delete. -/
def compileDelete (q : Query) : Except Error Command := do
  refuseIf (!q.joins.isEmpty) .joinInDelete
  let filter ← filterOf q
  .ok { collection := q.table, operation := .deleteMany, filter }

/-! ## Reading from a store -/

/-- What the library needs of a document store. A read answers documents as rows; counts and writes
    answer their number. -/
structure Store (σ : Type) where
  send : Command → Action σ QueryResult

/-- The rows that a query finds. -/
def find {σ : Type} (store : Store σ) (q : Query) : Action σ (List Row) := do
  let command ← Action.ofExcept (compileFind q)
  let result ← store.send command
  return result.rows.map (restoreKey q.primaryKey)

/-- The number of documents that a query finds. -/
def count {σ : Type} (store : Store σ) (q : Query) : Action σ Nat := do
  let command ← Action.ofExcept (compileCount q)
  let result ← store.send command
  return result.rowCount

end QueryKit.Document
