import QueryKit.Eager.Multimap
import QueryKit.Eager.Path
import QueryKit.Execution
import QueryKit.Model.Registry
import QueryKit.Sql.Lateral
import QueryKit.Text.Names
set_option autoImplicit false

/-! # Loading a relation

The related records of many records of one model are read together: their keys are bound as a list,
and what is found is handed out by key. The records are part of the state, and a loader changes them in
place: it sends its statements first and assigns what they have answered then. -/

namespace QueryKit

/-- What loading needs to know. -/
structure LoadContext (σ : Type) where
  driver : Driver σ
  registry : ModelRegistry
  fallback : LateralFallback

/-- What changes records by what a store answers. -/
abbrev Loading (σ α : Type) := Action (σ × List Record) α

namespace Loading

variable {σ : Type}

/-- The records as they are. -/
def records : Loading σ (List Record) :=
  Action.ofRun fun (s, records) => (.ok records, (s, records))

/-- Changes the records one by one. -/
def forEach (change : Record → Record) : Loading σ Unit :=
  Action.ofRun fun (s, records) => (.ok (), (s, records.map change))

/-- Loads on records and answers the records. -/
def on (loading : Loading σ Unit) (records : List Record) : Action σ (List Record) :=
  Action.ofRun fun s =>
    let (result, s, records) := loading.runFrom (s, records)
    (result.map fun _ => records, s)

end Loading

/-! ## Keys -/

/-- One value for every key, in the form in which it is bound. Values without a key are left out. -/
def distinctKeys (values : List Value) : List Value :=
  let first : FirstOfKeys := values.foldl (fun first v =>
    match v.key? with
    | some k => first.add k v.canonical
    | none => first) {}
  first.kept

/-- The values to bind for records, from one of their columns. -/
def parentKeys (column : String) (parents : List Record) : List Value :=
  distinctKeys (parents.filterMap (·.raw? column))

namespace Relation

variable {σ : Type}

/-- The related model. -/
def relatedModel (r : Relation) (registry : ModelRegistry) : Except Error Model :=
  match r.related with
  | some name => registry.get name
  | none => .error (.validation (.relationWithoutModel r.name))

/-- A query under a constraint. Its conditions become one, so that conditions added later narrow
    it. -/
def constrained (constraint : Option Constraint) (b : Builder) : Builder :=
  match constraint with
  | some f => (f b).groupWheres
  | none => b

/-! ## Assigning -/

/-- Assigns to every record what it is loaded with. -/
def assign (r : Relation) (loadedOf : Record → Loaded Record) : Loading σ Unit :=
  Loading.forEach fun parent => parent.attach r.name (loadedOf parent)

/-- Assigns nothing found to every record. -/
def assignEmpty (r : Relation) : Loading σ Unit :=
  r.assign fun _ => r.loaded []

/-- What was found for a record, by its key. -/
def foundFor (r : Relation) (found : Multimap Key Record) (parent : Record) : List Record :=
  match parent.keyOf? r.parentKey with
  | some k => found.get k
  | none => []

/-- Hands found records out to those whose column has the key they were found under. -/
def distribute (r : Relation) (found : List (Key × Record)) : Loading σ Unit :=
  let byKey := Multimap.ofEntries found
  r.assign fun parent => r.loaded (r.foundFor byKey parent)

/-! ## Limits on the rows of every record -/

/-- The rows of a lateral read with the keys that they carry. -/
def lateralRows (rows : List Row) : List (Key × Row) :=
  rows.filterMap fun row =>
    let (id, rest) := row.take Sql.parentKeyColumn
    (id.bind Value.key?).map fun k => (k, rest)

/-- Rows with their keys in a column. -/
def rowsByColumn (column : String) (rows : List Row) : List (Key × Row) :=
  rows.filterMap fun row => ((row.get? column).bind Value.key?).map fun k => (k, row)

/-- The rows of one record, by a statement of its own. -/
def rowsOfParent (ctx : LoadContext σ) (r : Relation) (query : Builder) (id : Value) :
    Action σ (List (Key × Row)) :=
  match id.key? with
  | none => return []
  | some k => do
    let rows ← (query.whereEq r.relatedKey id).get ctx.driver
    return rows.map fun row => (k, row)

/-- The related rows under a limit for every record, with the keys of the records. -/
def limitedRows (ctx : LoadContext σ) (r : Relation) (query : Builder) (ids : List Value) :
    Action σ (List (Key × Row)) :=
  if query.dialect.supportsLateral then do
    let q ← Action.ofExcept query.toQuery
    let statement ← Action.ofExcept (Sql.compileLateral query.dialect q r.relatedKey ids)
    let result ← ctx.driver.query statement
    return lateralRows result.rows
  else
    match ctx.fallback with
    | .error => throw (.lateralUnsupported query.dialect.name)
    | .unbounded => do
      let rows ← (query.whereIn r.relatedKey ids).get ctx.driver
      return rowsByColumn r.relatedKey rows
    | .perParent => do
      let batches ← ids.mapM (rowsOfParent ctx r query)
      return batches.flatten

/-! ## The kinds of relations -/

/-- The query for the related rows of records of a model, before their keys are bound. -/
def directQuery (ctx : LoadContext σ) (parent related : Model) (r : Relation)
    (constraint : Option Constraint) : Builder :=
  let query := related.query ctx.driver.dialect
  constrained constraint
    (match r.typeColumn with
      | some column => query.whereEq column (.text parent.morphType)
      | none => query)

/-- The related rows of ids, with the keys of the records they belong to. -/
def directRows (ctx : LoadContext σ) (r : Relation) (query : Builder) (ids : List Value) :
    Action σ (List (Key × Row)) :=
  if query.isPaginated then limitedRows ctx r query ids
  else do
    let rows ← (query.whereIn r.relatedKey ids).get ctx.driver
    return rowsByColumn r.relatedKey rows

/-- Loads a relation whose related rows are found by one of their columns. -/
def loadDirect (ctx : LoadContext σ) (parent : Model) (r : Relation)
    (constraint : Option Constraint) : Loading σ Unit := do
  let related ← Action.ofExcept (r.relatedModel ctx.registry)
  let parents ← Loading.records
  let ids := parentKeys r.parentKey parents
  if ids.isEmpty then r.assignEmpty
  else
    let query := directQuery ctx parent related r constraint
    let rows ← (directRows ctx r query ids).onFirst
    r.distribute (rows.map fun (k, row) => (k, Record.ofRow related row))

/-- The type that a record names in a column. -/
def tagOf? (column : String) (parent : Record) : Option String :=
  (parent.raw? column).bind Value.text?

/-- The owners of one type, each with its type and key. -/
def ownersOfType (ctx : LoadContext σ) (r : Relation) (constraint : Option Constraint)
    (column : String) (parents : List Record) (tag : String) :
    Action σ (List ((String × Key) × Record)) := do
  let ids := parentKeys r.parentKey (parents.filter fun p => tagOf? column p == some tag)
  if ids.isEmpty then return []
  else
    let model ← Action.ofExcept (ctx.registry.resolveMorph tag)
    let query := constrained constraint (model.query ctx.driver.dialect)
    let rows ← (query.whereIn model.primaryKey ids).get ctx.driver
    return (rowsByColumn model.primaryKey rows).map fun (k, row) => ((tag, k), Record.ofRow model row)

/-- The owner of a record among those that were found. -/
def ownerOf (r : Relation) (column : String) (owners : List ((String × Key) × Record))
    (parent : Record) : Option Record :=
  match tagOf? column parent, parent.keyOf? r.parentKey with
  | some tag, some k => owners.lookup (tag, k)
  | _, _ => none

/-- Loads the owners of records that name the types of their owners. -/
def loadOwners (ctx : LoadContext σ) (r : Relation) (constraint : Option Constraint) :
    Loading σ Unit := do
  match r.typeColumn with
  | none => throw (.validation (.relationWithoutTypeColumn r.name))
  | some column =>
    let parents ← Loading.records
    let tags := Text.sortedNames (parents.filterMap (tagOf? column))
    let owners ← (tags.mapM (ownersOfType ctx r constraint column parents)).onFirst
    r.assign fun parent => .one (r.ownerOf column owners.flatten parent)

/-- What the rows of a pivot table say. -/
structure PivotIndex where
  /-- By the key of a related row, the keys of the records it is linked to. -/
  owners : Multimap Key Key := []
  /-- The related ids. -/
  related : FirstOfKeys := {}

/-- Adds a row of a pivot table. A row without one of the keys is passed over. -/
def PivotIndex.addRow (p : Pivot) (index : PivotIndex) (row : Row) : PivotIndex :=
  match row.get? p.parentColumn, row.get? p.relatedColumn with
  | some parent, some related =>
    match parent.key?, related.key? with
    | some parentKey, some relatedKey =>
      { owners := index.owners.push relatedKey parentKey
        related := index.related.add relatedKey related }
    | _, _ => index
  | _, _ => index

/-- Puts every record that was found under the keys of those it is linked to. -/
def PivotIndex.byOwner (index : PivotIndex) (found : List (Key × Record)) : Multimap Key Record :=
  found.foldl (fun byOwner (k, record) =>
    (index.owners.get k).foldl (fun byOwner owner => byOwner.push owner record) byOwner) []

/-- The query for the rows of a pivot table, before the keys are bound. -/
def pivotQuery (d : Dialect) (p : Pivot) : Builder :=
  (Builder.new d p.table).select [p.parentColumn, p.relatedColumn]

/-- The related rows of links, with their keys. Nothing is read for no links. -/
def linkedRows (ctx : LoadContext σ) (related : Model) (query : Builder) (ids : List Value) :
    Action σ (List (Key × Row)) :=
  if ids.isEmpty then return []
  else do
    let rows ← (query.whereIn related.primaryKey ids).get ctx.driver
    return rowsByColumn related.primaryKey rows

/-- Loads a relation by way of a pivot table. -/
def loadPivot (ctx : LoadContext σ) (r : Relation) (constraint : Option Constraint) :
    Loading σ Unit := do
  match r.pivot with
  | none => throw (.validation (.relationWithoutPivot r.name))
  | some pivot =>
    let related ← Action.ofExcept (r.relatedModel ctx.registry)
    let parents ← Loading.records
    let ids := parentKeys r.parentKey parents
    if ids.isEmpty then r.assignEmpty
    else
      let query := constrained constraint (related.query ctx.driver.dialect)
      if query.isPaginated then throw (.validation (.limitOnPivot r.name))
      else
        let rows ← (((pivotQuery ctx.driver.dialect pivot).whereIn pivot.parentColumn ids).get
          ctx.driver).onFirst
        let index : PivotIndex := rows.foldl (PivotIndex.addRow pivot) {}
        let found ← (linkedRows ctx related query index.related.kept).onFirst
        let byOwner := index.byOwner (found.map fun (k, row) => (k, Record.ofRow related row))
        r.assign fun parent => .many (r.foundFor byOwner parent)

/-- Loads a relation on records of one model. -/
def load (ctx : LoadContext σ) (parent : Model) (r : Relation) (constraint : Option Constraint) :
    Loading σ Unit :=
  match r.kind with
  | .morphTo => r.loadOwners ctx constraint
  | .belongsToMany => r.loadPivot ctx constraint
  | _ => r.loadDirect ctx parent constraint

end Relation

end QueryKit
