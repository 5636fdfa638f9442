set_option autoImplicit false

/-! # Sorted names -/

namespace QueryKit.Text

/-- Adds a name to names in increasing order, unless it is one of them. -/
def insertName (name : String) : List String → List String
  | [] => [name]
  | n :: rest =>
    if name = n then n :: rest
    else if name < n then name :: n :: rest
    else n :: insertName name rest

/-- The names that occur in a list, each of them once and in increasing order. -/
def sortedNames (names : List String) : List String :=
  names.foldl (fun acc name => insertName name acc) []

end QueryKit.Text
