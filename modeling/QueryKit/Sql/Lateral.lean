import QueryKit.Sql.Select
import QueryKit.Value.Key
import QueryKit.Error
set_option autoImplicit false

/-! # Lateral reads

The first rows for each of many parents in one statement: the parents' ids are bound as one array,
and a subquery is run for every element of it. Each row of the result carries the id of its parent. -/

namespace QueryKit.Sql

/-- The column that carries the id of the parent. -/
def parentKeyColumn : String := "__parent_key"

/-- The type of the array that holds the ids. -/
def arrayCast (ids : List Value) : String :=
  if ids.all (fun | .int _ => true | _ => false) then "bigint[]"
  else if ids.all (fun | .uuid _ => true | _ => false) then "uuid[]"
  else "text[]"

/-- The query for the rows of one parent: the rows correlated with it, under the query's own
    conditions as one group. -/
def correlated (d : Dialect) (q : Query) (foreignKey : String) : Query :=
  let correlation : Where :=
    { connective := .and
      condition :=
        .compareColumns (tableReference q.table ++ "." ++ foreignKey) "="
          ("__parent." ++ parentKeyColumn) }
  let own : List Where :=
    if q.wheres.isEmpty then [] else [{ connective := .and, condition := group d q.wheres }]
  { q with wheres := correlation :: own, lock := none }

/-- A lateral read, where the dialect has it. Ids are bound in canonical form. -/
def Emitter.lateral (e : Emitter) (q : Query) (foreignKey : String) (ids : List Value) :
    ExceptT Error Emit String :=
  let ids := ids.map Value.canonical
  let parent := e.dialect.identifier "__parent"
  let parentKey := e.dialect.identifier parentKeyColumn
  let child := e.dialect.identifier "__child"
  if e.dialect.supportsLateral then
    if ids.isEmpty then throw (.validation .lateralWithoutParents)
    else do
      let array ← e.bind (.array ids)
      let sql ← e.select (correlated e.dialect q foreignKey)
      return "SELECT " ++ parent ++ "." ++ parentKey ++ ", " ++ child ++ ".* FROM unnest(" ++ array
        ++ "::" ++ arrayCast ids ++ ") AS " ++ parent ++ "(" ++ parentKey
        ++ ") CROSS JOIN LATERAL (" ++ sql ++ ") AS " ++ child
  else throw (.lateralUnsupported e.dialect.name)

/-- The statement of a lateral read. -/
def compileLateral (d : Dialect) (q : Query) (foreignKey : String) (ids : List Value) :
    Except Error Statement :=
  Emit.statement? (Emitter.lateral { dialect := d } q foreignKey ids)

end QueryKit.Sql
