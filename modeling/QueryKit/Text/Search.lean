set_option autoImplicit false

/-! # Search in texts -/

namespace QueryKit.Text

/-- The text before and after the first place at which `part` stands. -/
def splitFirst? (part : List Char) : List Char → Option (List Char × List Char)
  | [] => if part.isEmpty then some ([], []) else none
  | c :: cs =>
    if part.isPrefixOf (c :: cs) then some ([], (c :: cs).drop part.length)
    else (splitFirst? part cs).map fun (before, after) => (c :: before, after)

/-- Stands somewhere in a text. -/
def occurs (part whole : String) : Bool :=
  (splitFirst? part.toList whole.toList).isSome

/-- Begins with a text. -/
def startsWith (start whole : String) : Bool :=
  start.toList.isPrefixOf whole.toList

end QueryKit.Text
