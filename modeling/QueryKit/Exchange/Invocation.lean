import QueryKit.Exchange.Basic
set_option autoImplicit false

/-! # Invocations in exchange

An invocation is a list of the name of what is invoked and its arguments. Arguments that are null
can be left out at the end of the list. -/

namespace QueryKit

/-- The name of what is invoked and the arguments that are given. -/
structure Invocation where
  name : String
  arguments : List Json

instance : Decode Invocation where
  decode?
    | .array (.string name :: arguments) => some ⟨name, arguments⟩
    | _ => none

namespace Invocation

/-- The argument at a place; an argument that is not given counts as null. -/
def read? {α : Type} [Decode α] (place : Nat) (call : Invocation) : Option α :=
  decode? (call.arguments.getD place .null)

end Invocation

end QueryKit
