import QueryKit.Binary64.Basic
import QueryKit.Text.Numeral
set_option autoImplicit false

/-! # Reading floating-point text

The accepted texts are an optional sign followed by a decimal number with an optional point and an
optional exponent, or by one of the words for infinity and for no number in any case. The result is
the floating-point number nearest to the decimal. -/

namespace QueryKit.Binary64

/-- A decimal number as it is written: the digits without the point, and the power of ten that the
    last of them counts. -/
structure Literal where
  digits : List Char
  exponent : Int

/-- The exponent part of a literal, which may be absent. -/
def exponentPart? : List Char → Option Int
  | [] => some 0
  | c :: rest => if c = 'e' || c = 'E' then Text.integer? rest else none

/-- Splits a decimal literal. At least one digit stands beside the point. -/
def literal? (cs : List Char) : Option Literal :=
  let whole := cs.takeWhile Char.isDigit
  let rest := cs.dropWhile Char.isDigit
  let (fraction, rest) := match rest with
    | '.' :: after => (after.takeWhile Char.isDigit, after.dropWhile Char.isDigit)
    | _ => ([], rest)
  if whole.isEmpty && fraction.isEmpty then none
  else (exponentPart? rest).map fun e => ⟨whole ++ fraction, e - fraction.length⟩

/-- The number nearest to a literal. Literals far outside the range of the format are settled by
    the position of their leading digit. -/
def ofLiteral (negative : Bool) (l : Literal) : Binary64 :=
  let ds := l.digits.dropWhile (· = '0')
  let leading := l.exponent + ds.length
  if ds.isEmpty || leading < -400 then ofReading (.finite negative 0)
  else if 400 < leading then infinity negative
  else
    let n := (Text.natural? ds).getD 0
    ofReading (.finite negative (n * (10 : Rat) ^ l.exponent))

/-- Reads a number without its sign. -/
def ofUnsigned? (negative : Bool) (cs : List Char) : Option Binary64 :=
  let word := String.ofList (cs.map Char.toLower)
  if word == "inf" || word == "infinity" then some (infinity negative)
  else if word == "nan" then some nan
  else (literal? cs).map (ofLiteral negative)

/-- Reads a floating-point number. -/
def ofText? : List Char → Option Binary64
  | '-' :: cs => ofUnsigned? true cs
  | '+' :: cs => ofUnsigned? false cs
  | cs => ofUnsigned? false cs

end QueryKit.Binary64
