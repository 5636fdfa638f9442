set_option autoImplicit false

/-! # Binary floating-point numbers

A 64-bit floating-point number is its bit pattern. What a pattern stands for is an exact rational
number, an infinity or no number at all, and every operation here is exact rational arithmetic
followed by one rounding to the nearest representable number, a tie going to the even pattern. -/

namespace QueryKit

/-- A binary interchange layout: the significand has `precision` bits with its leading one, and
    the smallest positive number is `2 ^ minExponent`. -/
structure BinaryFormat where
  precision : Nat
  exponentBits : Nat
  minExponent : Int

namespace BinaryFormat

/-- The 64-bit layout. -/
def double : BinaryFormat := ⟨53, 11, -1074⟩

/-- The 32-bit layout. -/
def single : BinaryFormat := ⟨24, 8, -149⟩

/-- What a bit pattern stands for. -/
inductive Reading
  | nan
  | infinite (negative : Bool)
  /-- The number `magnitude`, negated if `negative`; the two zeros differ by it alone. -/
  | finite (negative : Bool) (magnitude : Rat)

/-- The weight of the exponent field's unit. -/
def exponentUnit (f : BinaryFormat) : Nat := Nat.pow 2 (f.precision - 1)

/-- The pattern of positive infinity. -/
def infinityBits (f : BinaryFormat) : Nat := (Nat.pow 2 f.exponentBits - 1) * f.exponentUnit

/-- The weight of the sign bit. -/
def signUnit (f : BinaryFormat) : Nat := Nat.pow 2 f.exponentBits * f.exponentUnit

/-- The significand and the power of two of a pattern without sign that is below infinity. -/
def significand (f : BinaryFormat) (bits : Nat) : Nat × Int :=
  let field := bits / f.exponentUnit
  let fraction := bits % f.exponentUnit
  if field = 0 then (fraction, f.minExponent)
  else (f.exponentUnit + fraction, f.minExponent + (field - 1 : Nat))

/-- The meaning of a bit pattern. -/
def read (f : BinaryFormat) (bits : Nat) : Reading :=
  let negative := bits / f.signUnit % 2 = 1
  let unsigned := bits % f.signUnit
  if unsigned < f.infinityBits then
    let (m, q) := f.significand unsigned
    .finite negative (m * (2 : Rat) ^ q)
  else if unsigned = f.infinityBits then .infinite negative
  else .nan

/-- The nearest integer, a half going to the even neighbour. -/
def nearestEven (x : Rat) : Int :=
  let below := x.floor
  let rest := x - below
  if rest < 1 / 2 then below
  else if 1 / 2 < rest then below + 1
  else if below % 2 = 0 then below else below + 1

/-- The exponent `e` with `2 ^ e ≤ x < 2 ^ (e + 1)`, for positive `x`. -/
def floorLog2 (x : Rat) : Int :=
  let guess : Int := (x.num.natAbs.log2 : Int) - x.den.log2
  if x < (2 : Rat) ^ guess then guess - 1 else guess

/-- The pattern nearest to a number that is not negative. Beyond the largest finite number it is
    infinity. A significand that rounds up to the next power of two carries into the exponent. -/
def roundMagnitude (f : BinaryFormat) (x : Rat) : Nat :=
  if x ≤ 0 then 0
  else
    let q := max f.minExponent (floorLog2 x - (f.precision - 1 : Nat))
    let m := (nearestEven (x / (2 : Rat) ^ q)).toNat
    min ((q - f.minExponent).toNat * f.exponentUnit + m) f.infinityBits

/-- The pattern of a reading. -/
def write (f : BinaryFormat) : Reading → Nat
  | .nan => f.infinityBits + f.exponentUnit / 2
  | .infinite negative => (if negative then f.signUnit else 0) + f.infinityBits
  | .finite negative x => (if negative then f.signUnit else 0) + f.roundMagnitude x

end BinaryFormat

/-- A 64-bit floating-point number. -/
structure Binary64 where
  bits : UInt64
deriving DecidableEq, Repr

namespace Binary64

/-! ## Meaning -/

/-- What the number stands for. -/
def reading (x : Binary64) : BinaryFormat.Reading :=
  BinaryFormat.double.read x.bits.toNat

/-- The number nearest to a reading. -/
def ofReading (r : BinaryFormat.Reading) : Binary64 :=
  ⟨UInt64.ofNat (BinaryFormat.double.write r)⟩

/-- The one pattern that all operations answer for "no number". -/
def nan : Binary64 := ofReading .nan

/-- Positive or negative infinity. -/
def infinity (negative : Bool) : Binary64 := ofReading (.infinite negative)

/-- Positive zero. -/
def zero : Binary64 := ⟨0⟩

/-- Stands for no number. -/
def isNaN (x : Binary64) : Bool :=
  match x.reading with
  | .nan => true
  | _ => false

/-- The exact value of a finite number. -/
def value? (x : Binary64) : Option Rat :=
  match x.reading with
  | .finite negative magnitude => some (if negative then -magnitude else magnitude)
  | _ => none

/-- The same number, with every pattern that stands for none replaced by one. -/
def canonical (x : Binary64) : Binary64 :=
  if x.isNaN then nan else x

/-! ## Rounding into the format -/

/-- The number nearest to a rational; its zero is positive. -/
def ofRat (x : Rat) : Binary64 :=
  ofReading (.finite (x < 0) x.abs)

/-- The number nearest to an integer. -/
def ofInt (n : Int) : Binary64 :=
  ofRat n

/-- The number that a 32-bit pattern stands for, which this format always holds. -/
def ofSingle (bits : UInt32) : Binary64 :=
  ofReading (BinaryFormat.single.read bits.toNat)

/-- The 32-bit pattern nearest to the number. -/
def toSingle (x : Binary64) : UInt32 :=
  UInt32.ofNat (BinaryFormat.single.write x.reading)

/-- The number with the other sign. -/
def neg (x : Binary64) : Binary64 :=
  ⟨x.bits ^^^ 0x8000000000000000⟩

/-! ## Integers -/

/-- The integer that the number is, if it is one. -/
def integer? (x : Binary64) : Option Int :=
  match x.value? with
  | some v => if v.den = 1 then some v.num else none
  | none => none

/-- Numeric equality: no number differs from everything, and the two zeros are equal. -/
def same (x y : Binary64) : Bool :=
  match x.reading, y.reading with
  | .nan, _ => false
  | _, .nan => false
  | .infinite s, .infinite t => s == t
  | .finite .., .finite .. => x.value? == y.value?
  | _, _ => false

end Binary64

end QueryKit
