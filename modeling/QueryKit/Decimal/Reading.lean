import QueryKit.Decimal.Basic
set_option autoImplicit false

/-! # Reading decimals

A decimal is written as an optional sign and digits with at most one point among them; underscores
may follow a digit. Digits before the point must fit in the mantissa. Digits after the point are
kept while mantissa and scale have room; the first digit beyond rounds the last one kept, and only
digits and underscores may follow. An exponent of ten may stand behind the digits: it moves the
point, and fills the places that it leaves empty with zeros. -/

namespace QueryKit.Decimal

/-- What has been read so far. -/
structure Scan where
  mantissa : Nat
  scale : Nat
  /-- The point has been read. -/
  pointed : Bool
  /-- Some digit has been read. -/
  started : Bool

/-- The decimal read; zero has no sign. -/
def Scan.finish (negative : Bool) (s : Scan) : Option Decimal :=
  if s.started then ofParts? (negative && s.mantissa != 0) s.mantissa s.scale else none

/-- Takes one more digit. -/
def Scan.push (s : Scan) (d : Nat) : Scan :=
  { mantissa := s.mantissa * 10 + d
    scale := if s.pointed then s.scale + 1 else 0
    pointed := s.pointed
    started := true }

/-- A digit or an underscore. -/
def isFiller (c : Char) : Bool :=
  c == '_' || (Text.digitValue? c).isSome

/-- Rounds at the first character beyond the room that mantissa and scale have, where an underscore
    is a zero. A mantissa that rounding carries out of range gives up its last digit. -/
def Scan.round (negative : Bool) (s : Scan) (c : Char) (rest : List Char) : Option Decimal :=
  let digit := if c = '_' then some 0 else Text.digitValue? c
  digit.bind fun d =>
    if !rest.all isFiller then none
    else if d < 5 then s.finish negative
    else if s.mantissa + 1 < Nat.pow 2 96 then { s with mantissa := s.mantissa + 1 }.finish negative
    else if s.scale = 0 then none
    else { s with mantissa := (s.mantissa + 5) / 10, scale := s.scale - 1 }.finish negative

/-- The places are used up. -/
def Scan.isFull (s : Scan) : Bool :=
  s.pointed && 28 ≤ s.scale

/-- Before its last digit the mantissa was within 255 of the size from which a further digit need not
    fit in 64 bits. -/
def Scan.isLong (s : Scan) : Bool :=
  (UInt64.size - 1) / 10 - 255 ≤ s.mantissa / 10

/-- Reads the digits, the point and the underscores. Once the places are used up the next character
    rounds, but underscores behind a long mantissa are passed over. -/
def scan (negative : Bool) : Scan → List Char → Option Decimal
  | s, [] => s.finish negative
  | s, c :: cs =>
    if s.isFull then
      if c = '_' && s.isLong then scan negative s cs else s.round negative c cs
    else if c = '.' && !s.pointed then scan negative { s with pointed := true } cs
    else if c = '_' && s.started then scan negative s cs
    else
      (Text.digitValue? c).bind fun d =>
        if (s.push d).mantissa < Nat.pow 2 96 then scan negative (s.push d) cs
        else if s.pointed then s.round negative c cs
        else none

/-- Reads a decimal without an exponent. -/
def ofPlain? : List Char → Option Decimal
  | '-' :: cs => scan true ⟨0, 0, false, false⟩ cs
  | '+' :: cs => scan false ⟨0, 0, false, false⟩ cs
  | cs => scan false ⟨0, 0, false, false⟩ cs

/-! ## Exponents -/

/-- Moves the point to the right. -/
def scaleUp (d : Decimal) (places : Nat) : Option Decimal :=
  if places ≤ d.scale then ofParts? d.negative d.mantissa (d.scale - places)
  else if places ≤ 28 then ofParts? d.negative (d.mantissa * Nat.pow 10 (places - d.scale)) 0
  else none

/-- Moves the point to the left. Digits for which there is no place are rounded away, a half going
    up; what is left keeps its sign, also if it is zero. -/
def scaleDown (d : Decimal) (places : Nat) : Option Decimal :=
  if 28 < places then none
  else if d.scale + places ≤ 28 then ofParts? d.negative d.mantissa (d.scale + places)
  else
    let unit := Nat.pow 10 (d.scale + places - 28)
    ofParts? d.negative ((2 * d.mantissa + unit) / (2 * unit)) 28

/-- Moves the point as an exponent says. Its places are a natural number, which may have a plus of
    its own, also behind a minus. -/
def withExponent? (d : Decimal) : List Char → Option Decimal
  | '-' :: cs => (Text.readNatural? cs).bind d.scaleDown
  | cs => (Text.readNatural? cs).bind d.scaleUp

/-- Marks an exponent. -/
def isExponentMark (c : Char) : Bool :=
  c == 'e' || c == 'E'

/-- Reads a decimal. -/
def ofText? (cs : List Char) : Option Decimal :=
  let base := cs.takeWhile fun c => !isExponentMark c
  match cs.drop base.length with
  | [] => ofPlain? base
  | _ :: exponent => (ofPlain? base).bind fun d => d.withExponent? exponent

end QueryKit.Decimal
