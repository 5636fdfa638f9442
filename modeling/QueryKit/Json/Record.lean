import QueryKit.Exchange.Basic
import QueryKit.Json.Written
set_option autoImplicit false

/-! # Records in JSON

A record has named fields in a fixed order. It is written as an object, and read from an object or
from a list of its fields' values in that order. Whatever else an object holds is passed over, so it
need not have a value. -/

namespace QueryKit.Json.Written

/-- A field's value, as the type that the record has there. -/
def read? {α : Type} [Decode α] (w : Written) : Option α :=
  (w.toJson? depthLimit).bind decode?

/-- What is written for the fields of a record, in the order of their names. An object may leave
    fields out and have others besides, but gives none of these twice; a list gives all of them and
    nothing else. -/
def recordFields? (names : List String) : Written → Option (List (Option Written))
  | .object fields =>
    if fields.all fun field => field.1.isSome then
      names.mapM fun name =>
        match fields.filter fun field => field.1 == some name with
        | [] => some none
        | [(_, w)] => some (some w)
        | _ => none
    else none
  | .array items => if items.length = names.length then some (items.map some) else none
  | _ => none

/-- A list of records. -/
def records? {α : Type} (read : Written → Option α) : Written → Option (List α)
  | .array items => items.mapM read
  | _ => none

end QueryKit.Json.Written
