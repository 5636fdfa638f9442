set_option autoImplicit false

/-! # Integers as text

An integer is written in decimal with an optional sign. Reading takes a leading plus as well, any
number of leading zeros, and nothing else: no blanks, no separators. -/

namespace QueryKit.Text

/-- The value of a decimal digit. -/
def digitValue? (c : Char) : Option Nat :=
  if '0' ≤ c && c ≤ '9' then some (c.toNat - 48) else none

/-- The number that a non-empty text of digits denotes. -/
def natural? : List Char → Option Nat
  | [] => none
  | cs => cs.foldlM (fun acc c => (digitValue? c).map (acc * 10 + ·)) 0

/-- An integer with an optional sign. -/
def integer? : List Char → Option Int
  | '-' :: cs => (natural? cs).map fun n => -(n : Int)
  | '+' :: cs => (natural? cs).map fun n => (n : Int)
  | cs => (natural? cs).map fun n => (n : Int)

/-- The 64-bit signed integer that is exactly `n`, if there is one. -/
def int64? (n : Int) : Option Int64 :=
  if Int64.minValue.toInt ≤ n && n ≤ Int64.maxValue.toInt then some (Int64.ofInt n) else none

/-- Reads a 64-bit signed integer. -/
def readInt64? (cs : List Char) : Option Int64 :=
  (integer? cs).bind int64?

/-- Reads a natural number, which may have a plus but no minus sign. -/
def readNatural? : List Char → Option Nat
  | '+' :: cs => natural? cs
  | cs => natural? cs

/-- Reads a 64-bit unsigned integer, which may have a plus but no minus sign. -/
def readUInt64? (cs : List Char) : Option UInt64 :=
  (readNatural? cs).bind fun n => if n < UInt64.size then some (UInt64.ofNat n) else none

/-- The decimal digits of a number, the most significant first. -/
def digits (n : Nat) : List Char :=
  Nat.toDigits 10 n

/-- At least `width` digits, with zeros in front where they are needed. -/
def padded (width n : Nat) : List Char :=
  let ds := digits n
  List.replicate (width - ds.length) '0' ++ ds

end QueryKit.Text
