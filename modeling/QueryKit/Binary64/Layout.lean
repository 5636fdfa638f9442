import QueryKit.Binary64.Shortest
set_option autoImplicit false

/-! # Layouts of floating-point text

All texts of a floating-point number show its shortest digits. They differ in where positional
writing ends, in whether an integral number keeps a zero after the point, in the sign of the
exponent and in the tie between two equally near decimals. -/

namespace QueryKit

/-- The decisions that one text form of floating-point numbers makes. -/
structure FloatLayout where
  /-- The decimal exponents of the leading digit that are written positionally, as inclusive
      bounds; all of them if absent. -/
  positional : Option (Int × Int)
  /-- An integral number in positional form ends in `.0`. -/
  pointZero : Bool
  /-- A positive exponent has a plus sign. -/
  plusSign : Bool
  tie : Tie

namespace FloatLayout

/-- Always positional, with no more digits than needed. -/
def plain : FloatLayout where
  positional := none
  pointZero := false
  plusSign := false
  tie := .up

/-- Recognisable as floating-point, with exponents for very large and very small numbers. -/
def explicit : FloatLayout where
  positional := some (-4, 15)
  pointZero := true
  plusSign := false
  tie := .up

/-- The number form of JSON texts. -/
def json : FloatLayout where
  positional := some (-5, 15)
  pointZero := true
  plusSign := true
  tie := .toEven

/-- Whether a leading digit at this exponent is written positionally. -/
def isPositional (l : FloatLayout) (e : Int) : Bool :=
  match l.positional with
  | none => true
  | some (lo, hi) => lo ≤ e && e ≤ hi

/-- Digits with the point after the one that stands for `10 ^ 0`. -/
def writePositional (l : FloatLayout) (ds : List Char) (e : Int) : List Char :=
  if e < 0 then
    ['0', '.'] ++ List.replicate (-e - 1).toNat '0' ++ ds
  else
    let whole := e.toNat + 1
    if ds.length ≤ whole then
      ds ++ List.replicate (whole - ds.length) '0' ++ (if l.pointZero then ['.', '0'] else [])
    else
      ds.take whole ++ '.' :: ds.drop whole

/-- Digits with the point after the first one, and the exponent. -/
def writeScientific (l : FloatLayout) (ds : List Char) (e : Int) : List Char :=
  let fraction := match ds.drop 1 with
    | [] => []
    | rest => '.' :: rest
  let sign := if e < 0 then ['-'] else if l.plusSign then ['+'] else []
  ds.take 1 ++ fraction ++ 'e' :: sign ++ Nat.toDigits 10 e.natAbs

/-- A finite number other than zero, without its sign. -/
def writeDigits (l : FloatLayout) (d : DecimalDigits) : List Char :=
  let ds := Nat.toDigits 10 d.digits
  let e := d.exponent + ds.length - 1
  if l.isPositional e then l.writePositional ds e else l.writeScientific ds e

/-- The text of a floating-point number. -/
def write (l : FloatLayout) (x : Binary64) : String :=
  match x.reading with
  | .nan => "NaN"
  | .infinite negative => if negative then "-inf" else "inf"
  | .finite negative magnitude =>
    let body := if magnitude == 0 then l.writePositional ['0'] 0 else l.writeDigits (x.shortest l.tie)
    String.ofList (if negative then '-' :: body else body)

end FloatLayout

end QueryKit
