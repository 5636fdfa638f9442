set_option autoImplicit false

/-! # Markers

In SQL text that is not tied to a dialect, a `?` stands for a value unless it lies inside a quoted
span. An apostrophe, a double quote or a backquote opens a span, and the same character closes it. -/

namespace QueryKit.Sql

/-- Opens and closes texts. -/
def apostrophe : Char := Char.ofNat 39

/-- Opens and closes identifiers in one dialect. -/
def backquote : Char := Char.ofNat 96

/-- Opens and closes identifiers in the other dialects. -/
def doubleQuote : Char := '"'

/-- Opens a quoted span. -/
def isQuote (c : Char) : Bool :=
  c == apostrophe || c == doubleQuote || c == backquote

/-- The quote that has to close the current span, if a span is open. -/
abbrev Span := Option Char

/-- The span that is open after one more character. -/
def Span.next (span : Span) (c : Char) : Span :=
  match span with
  | none => if isQuote c then some c else none
  | some q => if c == q then none else some q

/-- The span that is open after a text. -/
def Span.after (span : Span) (cs : List Char) : Span :=
  cs.foldl Span.next span

/-- Stands for a value. -/
def Span.isMarker (span : Span) (c : Char) : Bool :=
  span.isNone && c == '?'

/-- The number of markers in a text that begins inside `span`. -/
def countFrom (span : Span) : List Char → Nat
  | [] => 0
  | c :: cs => (if span.isMarker c then 1 else 0) + countFrom (span.next c) cs

/-- The number of markers in a text. -/
def countMarkers (sql : String) : Nat :=
  countFrom none sql.toList

end QueryKit.Sql
