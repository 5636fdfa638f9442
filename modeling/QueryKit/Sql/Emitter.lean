import QueryKit.Error
import QueryKit.Sql.Literal
set_option autoImplicit false

/-! # Emitters

SQL text is put together while its values are bound. A value is bound when its placeholder is asked
for, and the placeholder is text like any other: whether it ends up in the place of its value is up to
those who put the text together. They ask for placeholders in the order of the text. -/

namespace QueryKit

/-- SQL text together with the values of its placeholders, in the order of the text. -/
structure Statement where
  sql : String
  bindings : List Value

namespace Sql

/-- What stands in a text for a value. -/
inductive Mode
  /-- A placeholder of the dialect. -/
  | placeholder
  /-- A neutral marker. -/
  | marker
  /-- The value as a literal. -/
  | literal

/-- What emissions have in common from their first value to their last. -/
structure Emitter where
  dialect : Dialect
  mode : Mode := .placeholder
  /-- The number of placeholders before the first one. -/
  offset : Nat := 0

/-- Answers something while it binds values. -/
abbrev Emit := StateM (List Value)

/-- The text of an emission, with the values that it has bound. -/
def Emit.statement (emission : Emit String) : Statement :=
  let (sql, bindings) := emission.run []
  ⟨sql, bindings⟩

/-- The text of an emission that can fail, with the values that it has bound. -/
def Emit.statement? (emission : ExceptT Error Emit String) : Except Error Statement :=
  let (result, bindings) := emission.run.run []
  result.map fun sql => ⟨sql, bindings⟩

/-- Text with words in front of it, or nothing if there is no text. -/
def headed (words text : String) : String :=
  if text.isEmpty then "" else words ++ text

namespace Emitter

/-- What stands for a value, with the index of its placeholder. -/
def place (e : Emitter) (index : Nat) (v : Value) : String :=
  match e.mode with
  | .placeholder => e.dialect.placeholder index
  | .marker => "?"
  | .literal => e.dialect.literal v

/-- Binds a value and answers what stands for it. -/
def bind (e : Emitter) (v : Value) : Emit String := do
  modify (· ++ [v])
  return e.place (e.offset + (← get).length) v

/-- Binds values for the markers of SQL text that begins inside `span`, in order and as long as there
    are values, and answers the text with what stands for them in place of the markers. -/
def substituteFrom (e : Emitter) (span : Span) : List Char → List Value → Emit String
  | [], _ => return ""
  | c :: cs, values =>
    if span.isMarker c then
      match values with
      | [] => return String.singleton c ++ (← e.substituteFrom (span.next c) cs [])
      | v :: rest => do
        let text ← e.bind v
        return text ++ (← e.substituteFrom (span.next c) cs rest)
    else return String.singleton c ++ (← e.substituteFrom (span.next c) cs values)

/-- Binds values for the markers of SQL text. -/
def substitute (e : Emitter) (sql : String) (values : List Value) : Emit String :=
  e.substituteFrom none sql.toList values

end Emitter

end Sql

end QueryKit
