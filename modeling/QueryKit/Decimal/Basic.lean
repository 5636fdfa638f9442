import QueryKit.Text.Numeral
set_option autoImplicit false

/-! # Exact decimals

A decimal is a mantissa of at most 96 bits, a scale of at most 28 that says how many of its digits
stand after the point, and a sign. The scale is part of the value as it is written, so `1.5` and
`1.50` are different decimals that denote the same number. -/

namespace QueryKit

/-- The decimal number `mantissa / 10 ^ scale`, negated if `negative`. -/
structure Decimal where
  negative : Bool
  mantissa : Nat
  scale : Nat
  mantissa_lt : mantissa < Nat.pow 2 96
  scale_le : scale ≤ 28
deriving DecidableEq

namespace Decimal

/-- The decimal with these parts, if they are in range. -/
def ofParts? (negative : Bool) (mantissa scale : Nat) : Option Decimal :=
  if h : mantissa < Nat.pow 2 96 ∧ scale ≤ 28 then some ⟨negative, mantissa, scale, h.1, h.2⟩ else none

/-- Positive zero without places. -/
def zero : Decimal := ⟨false, 0, 0, by decide, by decide⟩

/-- An integer without places. -/
def ofInt64 (n : Int64) : Decimal :=
  (ofParts? (n < 0) n.toInt.natAbs 0).getD zero

/-- The number that the decimal denotes. -/
def value (d : Decimal) : Rat :=
  let magnitude := (d.mantissa : Rat) / (Nat.pow 10 d.scale : Nat)
  if d.negative then -magnitude else magnitude

/-- Denotes zero. -/
def isZero (d : Decimal) : Bool :=
  d.mantissa == 0

/-- Denotes an integer. -/
def isIntegral (d : Decimal) : Bool :=
  d.mantissa % Nat.pow 10 d.scale == 0

/-- The integer that is left when the places are cut off. -/
def truncate (d : Decimal) : Int :=
  let whole : Int := (d.mantissa / Nat.pow 10 d.scale : Nat)
  if d.negative then -whole else whole

/-- The integer left of the point, if it fits in 64 bits. -/
def toInt64? (d : Decimal) : Option Int64 :=
  Text.int64? d.truncate

/-- The same number with the zeros at the end of its places removed. -/
def strip : Nat → Nat → Nat × Nat
  | 0, m => (m, 0)
  | scale + 1, m => if m % 10 = 0 then strip scale (m / 10) else (m, scale + 1)

theorem strip_le (scale m : Nat) : (strip scale m).1 ≤ m ∧ (strip scale m).2 ≤ scale := by
  induction scale generalizing m with
  | zero => simp [strip]
  | succ scale ih =>
    unfold strip
    split
    · have := ih (m / 10)
      omega
    · simp

/-- The decimal of the least scale that denotes the same number; zero loses its sign. -/
def normalize (d : Decimal) : Decimal :=
  if d.isZero then zero
  else
    let stripped := strip d.scale d.mantissa
    { negative := d.negative
      mantissa := stripped.1
      scale := stripped.2
      mantissa_lt := Nat.lt_of_le_of_lt (strip_le d.scale d.mantissa).1 d.mantissa_lt
      scale_le := Nat.le_trans (strip_le d.scale d.mantissa).2 d.scale_le }

/-- Denotes the same number. -/
def same (a b : Decimal) : Bool :=
  a.value == b.value

/-- The text of a decimal, with as many places as its scale says. -/
def toText (d : Decimal) : String :=
  let ds := Text.padded (d.scale + 1) d.mantissa
  let whole := ds.take (ds.length - d.scale)
  let places := ds.drop (ds.length - d.scale)
  let body := if d.scale = 0 then whole else whole ++ '.' :: places
  String.ofList (if d.negative then '-' :: body else body)

end Decimal

end QueryKit
