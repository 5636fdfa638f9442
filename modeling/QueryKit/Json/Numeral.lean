import QueryKit.Json.Basic
import QueryKit.Text.Numeral
set_option autoImplicit false

/-! # JSON numbers as text

Reading keeps the leading digits that fit in an unsigned 64-bit significand, counts the digits left
out before the point in the exponent, and multiplies or divides once by a power of ten. The result is
within rounding of the decimal that is written, not always the nearest number to it. A number without
point and exponent that fits in 64 bits, signed or unsigned, is an integer. -/

namespace QueryKit.JsonNumber

/-- The parts of a number text. -/
structure Parts where
  negative : Bool
  whole : List Char
  /-- The digits after the point, if there is a point. -/
  fraction : Option (List Char)
  exponent : Option Int

/-- A significand and the power of ten that it counts. -/
structure Significand where
  digits : Nat
  exponent : Int

/-- Takes digits while the significand fits in 64 bits, and says how many are left. -/
def takeDigits (acc : Nat) : List Char → Nat × Nat
  | [] => (acc, 0)
  | c :: cs =>
    let next := acc * 10 + (c.toNat - 48)
    if next < UInt64.size then takeDigits next cs else (acc, cs.length + 1)

/-- The significand of a number text. Digits left out before the point raise the exponent, digits
    left out after it do not count. -/
def Parts.significand (p : Parts) : Significand :=
  let (whole, skipped) := takeDigits 0 p.whole
  let fraction := p.fraction.getD []
  let (digits, ignored) := takeDigits whole fraction
  ⟨digits, (skipped : Int) - (fraction.length - ignored : Nat) + p.exponent.getD 0⟩

/-- The magnitude of a floating-point number that is known to be finite. -/
def magnitude (x : Binary64) : Rat :=
  (x.value?).getD 0

/-- Divides by `10 ^ 308` until the exponent is at least -308, then scales once. -/
def scaleDown : Nat → Binary64 → Int → Binary64
  | 0, x, _ => x
  | fuel + 1, x, e =>
    let table (k : Nat) : Rat := magnitude (Binary64.ofRat (Nat.pow 10 k : Nat))
    if -308 ≤ e then Binary64.ofRat (magnitude x / table e.natAbs)
    else if magnitude x == 0 then x
    else scaleDown fuel (Binary64.ofRat (magnitude x / table 308)) (e + 308)

/-- The floating-point number for a significand; none if it is too large. -/
def Significand.toBinary? (s : Significand) : Option Binary64 :=
  let x := Binary64.ofInt s.digits
  if s.digits = 0 then some x
  else if s.exponent < 0 then some (scaleDown 5 x s.exponent)
  else if 308 < s.exponent then none
  else
    let scaled := Binary64.ofRat
      (magnitude x * magnitude (Binary64.ofRat (Nat.pow 10 s.exponent.toNat : Nat)))
    if scaled.value?.isSome then some scaled else none

/-- The number for the parts of a text; none if it is too large for a floating-point number. -/
def Parts.toNumber? (p : Parts) : Option JsonNumber :=
  let (whole, skipped) := takeDigits 0 p.whole
  if p.fraction.isNone && p.exponent.isNone && skipped = 0
      && (!p.negative || (0 < whole && whole ≤ Int64.minValue.toInt.natAbs)) then
    some (.integer (if p.negative then -(whole : Int) else whole))
  else
    p.significand.toBinary?.map fun x => .float (if p.negative then x.neg else x)

/-- Splits the number at the front of a text: an optional minus sign, a whole part without leading
    zeros, an optional point followed by digits, an optional exponent. -/
def split? (cs : List Char) : Option (Parts × List Char) :=
  let (negative, cs) := match cs with
    | '-' :: rest => (true, rest)
    | rest => (false, rest)
  let whole := cs.takeWhile Char.isDigit
  let cs := cs.dropWhile Char.isDigit
  if whole.isEmpty || (whole.head? == some '0' && whole.length != 1) then none
  else
    let fraction? : Option (Option (List Char) × List Char) := match cs with
      | '.' :: rest =>
        let places := rest.takeWhile Char.isDigit
        if places.isEmpty then none else some (some places, rest.dropWhile Char.isDigit)
      | rest => some (none, rest)
    fraction?.bind fun (fraction, cs) =>
      match cs with
      | [] => some (⟨negative, whole, fraction, none⟩, [])
      | c :: rest =>
        if c = 'e' || c = 'E' then
          let (sign, rest) := match rest with
            | '-' :: after => (-1, after)
            | '+' :: after => (1, after)
            | after => ((1 : Int), after)
          let ds := rest.takeWhile Char.isDigit
          (Text.natural? ds).map fun e =>
            (⟨negative, whole, fraction, some (sign * e)⟩, rest.dropWhile Char.isDigit)
        else some (⟨negative, whole, fraction, none⟩, c :: rest)

end QueryKit.JsonNumber
