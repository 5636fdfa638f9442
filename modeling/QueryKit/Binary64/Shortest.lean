import QueryKit.Binary64.Basic
set_option autoImplicit false

/-! # Shortest decimals

The shortest decimal that reads back as a given floating-point number, and among those of one
length the nearest to it. The numbers that read back form an interval around the exact value, whose
ends belong to it exactly when the significand is even. For one digit, two digits, and so on, the
two multiples of a power of ten around the value are tried, and the first that lies in the interval
is taken. -/

namespace QueryKit

/-- The decimal number `digits * 10 ^ exponent`. -/
structure DecimalDigits where
  digits : Nat
  exponent : Int
deriving DecidableEq, Repr

/-- Which of two equally near decimals is taken. -/
inductive Tie
  | toEven
  | up
deriving DecidableEq, Repr

namespace Binary64

/-- The numbers that round to one positive floating-point number. -/
structure Basin where
  centre : Rat
  low : Rat
  high : Rat
  closed : Bool

/-- The numbers that round to the number with this pattern, its sign left aside: half-way to the
    neighbours on both sides, where the lower neighbour of a power of two is twice as near. -/
def basin (x : Binary64) : Basin :=
  let f := BinaryFormat.double
  let (m, q) := f.significand (x.bits.toNat % f.signUnit)
  let unit := (2 : Rat) ^ q
  let gapBelow := if m = f.exponentUnit && f.minExponent < q then unit / 2 else unit
  { centre := m * unit
    low := m * unit - gapBelow / 2
    high := m * unit + unit / 2
    closed := m % 2 = 0 }

/-- Lies in the interval. -/
def Basin.holds (b : Basin) (v : Rat) : Bool :=
  if b.closed then b.low ≤ v && v ≤ b.high else b.low < v && v < b.high

/-- The least `k` with `v < 10 ^ k`, for positive `v`. -/
def decimalMagnitude (v : Rat) : Int :=
  let guess : Int :=
    ((Nat.toDigits 10 v.num.natAbs).length : Int) - (Nat.toDigits 10 v.den).length
  if v < (10 : Rat) ^ guess then guess else guess + 1

/-- The multiple of `10 ^ exponent` nearest to the centre among those that read back. -/
def Basin.onGrid (b : Basin) (tie : Tie) (exponent : Int) : Option DecimalDigits :=
  let unit := (10 : Rat) ^ exponent
  let d := (b.centre / unit).floor.toNat
  let below := b.holds (d * unit)
  let above := b.holds ((d + 1 : Nat) * unit)
  let twice := 2 * b.centre / unit
  let middle := ((2 * d + 1 : Nat) : Rat)
  let takeBelow :=
    below && (!above || twice < middle ||
      (twice == middle && (match tie with | .toEven => d % 2 == 0 | .up => false)))
  if takeBelow then some ⟨d, exponent⟩
  else if above then some ⟨d + 1, exponent⟩
  else none

/-- Moves the zeros at the end of the digits into the exponent. -/
def stripZeros : Nat → DecimalDigits → DecimalDigits
  | 0, d => d
  | fuel + 1, d =>
    if d.digits ≠ 0 && d.digits % 10 = 0 then
      stripZeros fuel ⟨d.digits / 10, d.exponent + 1⟩
    else d

/-- The shortest decimal that reads back as a finite number other than zero, its sign left aside.
    Seventeen digits always suffice. -/
def shortest (tie : Tie) (x : Binary64) : DecimalDigits :=
  let b := x.basin
  let k := decimalMagnitude b.centre
  let found := (List.range 17).findSome? fun (n : Nat) => b.onGrid tie (k - (n + 1 : Nat))
  stripZeros 20 (found.getD ⟨(b.centre / (10 : Rat) ^ (k - 17)).floor.toNat, k - 17⟩)

end Binary64

end QueryKit
