import QueryKit.Builder.Call
import QueryKit.Exchange.Invocation
import QueryKit.Exchange.Query
set_option autoImplicit false

/-! # Calls in exchange

A call is the invocation of its name. A name that starts with `or_` is the call without it whose
condition is combined by `OR`. -/

namespace QueryKit

/-- The connective and the name of a call without its connective. -/
def splitConnective (name : String) : Connective × String :=
  if Text.startsWith "or_" name then (.or, String.ofList (name.toList.drop 3)) else (.and, name)

/-- The calls that an invocation stands for, if none of them has a body. -/
def Call.ofInvocation? (i : Invocation) : Option (List Call) := do
  let (c, name) := splitConnective i.name
  match name with
  | "primary_key" => return [.primaryKey (← i.read? 0)]
  | "select" => return [.select (← i.read? 0)]
  | "add_select" => return [.addSelect (← i.read? 0)]
  | "select_raw" => return [.selectRaw (← i.read? 0) (← i.read? 1)]
  | "distinct" => return [.distinct]
  | "where_eq" => return [.compare c (← i.read? 0) "=" (← i.read? 1)]
  | "where_op" => return [.compare c (← i.read? 0) (← i.read? 1) (← i.read? 2)]
  | "where_all" =>
    return (← i.read? 0 : List (String × Value)).map fun (col, v) => .compare .and col "=" v
  | "where_in" => return [.oneOf c (← i.read? 0) (← i.read? 1) false]
  | "where_not_in" => return [.oneOf c (← i.read? 0) (← i.read? 1) true]
  | "where_null" => return [.isNull c (← i.read? 0) false]
  | "where_not_null" => return [.isNull c (← i.read? 0) true]
  | "where_between" => return [.between c (← i.read? 0) (← i.read? 1) (← i.read? 2) false]
  | "where_not_between" => return [.between c (← i.read? 0) (← i.read? 1) (← i.read? 2) true]
  | "where_raw" => return [.whereRaw c (← i.read? 0) (← i.read? 1)]
  | "where_column" => return [.compareColumns c (← i.read? 0) (← i.read? 1) (← i.read? 2)]
  | "join" => return [.join .inner (← i.read? 0) (← i.read? 1) (← i.read? 2) (← i.read? 3)]
  | "left_join" => return [.join .left (← i.read? 0) (← i.read? 1) (← i.read? 2) (← i.read? 3)]
  | "right_join" => return [.join .right (← i.read? 0) (← i.read? 1) (← i.read? 2) (← i.read? 3)]
  | "cross_join" => return [.crossJoin (← i.read? 0)]
  | "group_by" => return [.groupBy (← i.read? 0)]
  | "having" => return [.having c (← i.read? 0) (← i.read? 1) (← i.read? 2)]
  | "having_raw" => return [.havingRaw (← i.read? 0) (← i.read? 1)]
  | "order_by" => return [.orderBy (← i.read? 0) .ascending]
  | "order_by_desc" => return [.orderBy (← i.read? 0) .descending]
  | "order_by_raw" => return [.orderByRaw (← i.read? 0) (← i.read? 1)]
  | "limit" => return [.limit (← i.read? 0)]
  | "offset" => return [.offset (← i.read? 0)]
  | "paginate" => return [.paginate (← Page.of? (← i.read? 0) (← i.read? 1))]
  | "lock_for_update" => return [.lock .forUpdate]
  | "shared_lock" => return [.lock .shared]
  | "without_scope" => return [.withoutScope (← i.read? 0)]
  | "without_scopes" => return [.withoutScopes]
  | _ => none

end QueryKit
