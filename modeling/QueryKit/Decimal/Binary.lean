import QueryKit.Decimal.Basic
import QueryKit.Binary64.Basic
set_option autoImplicit false

/-! # Decimals and floating-point numbers

Both conversions round. A floating-point number with places becomes a decimal of fifteen to sixteen
significant digits, and one without is exact; a decimal becomes a floating-point number through its whole part and its places, rounded
once more at its own scale. -/

namespace QueryKit.Decimal

/-! ## From floating-point numbers -/

/-- A number `mantissa * 10 ^ exponent` on its way to a decimal. -/
structure Scaled where
  mantissa : Nat
  exponent : Int

/-- Divides by two `count` times, where each division that is not exact is traded for a
    multiplication by five and a place, unless the mantissa has no room for it. -/
def halve : Nat → Scaled → Scaled
  | 0, s => s
  | count + 1, s =>
    if s.mantissa % 2 = 0 then halve count ⟨s.mantissa / 2, s.exponent + 1⟩
    else if s.mantissa * 5 < Nat.pow 2 96 then halve count ⟨s.mantissa * 5, s.exponent⟩
    else halve count ⟨s.mantissa / 2, s.exponent + 1⟩

/-- Drops the last digit, rounding half up. -/
def Scaled.dropDigit (s : Scaled) : Scaled :=
  ⟨s.mantissa / 10 + (if 5 ≤ s.mantissa % 10 then 1 else 0), s.exponent + 1⟩

/-- Drops digits until at most 28 places are left. A number that vanishes on the way is zero. -/
def toPlaces : Nat → Scaled → Scaled
  | 0, s => s
  | fuel + 1, s =>
    if s.exponent < -28 then
      if s.mantissa / 10 = 0 then ⟨0, 0⟩ else toPlaces fuel s.dropDigit
    else s

/-- Drops places while the mantissa has more than 52 bits. -/
def toSignificant : Nat → Scaled → Scaled
  | 0, s => s
  | fuel + 1, s =>
    if s.exponent < 0 && Nat.pow 2 52 ≤ s.mantissa then toSignificant fuel s.dropDigit else s

/-- The decimal for a positive number `m * 2 ^ q`. -/
def ofScaled? (negative : Bool) (m : Nat) (q : Int) : Option Decimal :=
  if 0 ≤ q then ofParts? negative (m * Nat.pow 2 q.toNat) 0
  else
    let kept := toSignificant 96 (toPlaces 1200 (halve (-q).toNat ⟨m, q⟩))
    let stripped := strip (-kept.exponent).toNat kept.mantissa
    ofParts? negative stripped.1 stripped.2

/-- The decimal for a floating-point number, if it is finite and not too large. -/
def ofBinary? (x : Binary64) : Option Decimal :=
  match x.reading with
  | .finite negative magnitude =>
    if magnitude == 0 then ofParts? negative 0 0
    else
      let f := BinaryFormat.double
      let (m, q) := f.significand (x.bits.toNat % f.signUnit)
      ofScaled? negative m q
  | _ => none

/-! ## To floating-point numbers -/

/-- The nearest integer to a number that is not negative, a half going up. -/
def nearestUp (x : Rat) : Int :=
  (x + 1 / 2).floor

/-- The rounded value of a rational number. -/
def rounded (x : Rat) : Rat :=
  ((Binary64.ofRat x).value?).getD 0

/-- The floating-point number for a decimal. Every intermediate result is rounded: the whole part,
    the places as a fraction, their sum, the sum in units of the last place, and the quotient. -/
def toBinary (d : Decimal) : Binary64 :=
  if d.scale = 0 then Binary64.ofInt d.truncate
  else
    let unit := Nat.pow 10 d.scale
    let whole := rounded (d.mantissa / unit : Nat)
    let places := rounded (rounded (d.mantissa % unit : Nat) / rounded (unit : Nat))
    let magnitude :=
      if places == 0 then whole
      else
        let sum := rounded (whole + places)
        let inUnits := nearestUp (rounded (sum * rounded (unit : Nat)))
        inUnits / rounded (unit : Nat)
    let result := Binary64.ofRat magnitude
    if d.negative then result.neg else result

end QueryKit.Decimal
