import QueryKit.Text.Hex
set_option autoImplicit false

/-! # Universally unique identifiers

An identifier is 128 bits. It is written as 32 hexadecimal digits in five groups; reading also
accepts the digits without hyphens, the groups in braces, and the groups behind the URN scheme in
letters of any case. -/

namespace QueryKit

/-- A 128-bit identifier. -/
structure Uuid where
  bits : BitVec 128
deriving DecidableEq

namespace Uuid

/-- The 32 digits. -/
def digits (u : Uuid) : List Char :=
  Text.hexFixed 32 u.bits.toNat

/-- The digits in groups of 8, 4, 4, 4 and 12. -/
def toText (u : Uuid) : String :=
  let ds := u.digits
  String.ofList (ds.take 8 ++ '-' :: (ds.drop 8).take 4 ++ '-' :: (ds.drop 12).take 4
    ++ '-' :: (ds.drop 16).take 4 ++ '-' :: ds.drop 20)

/-- The sixteen bytes, the most significant first. -/
def bytes (u : Uuid) : List UInt8 :=
  (List.range 16).map fun i => UInt8.ofNat (u.bits.toNat / Nat.pow 256 (15 - i))

/-- The identifier with these 32 digits. -/
def ofDigits? (ds : List Char) : Option Uuid :=
  if ds.length = 32 then (Text.hexNumber? ds).map fun n => ⟨BitVec.ofNat 128 n⟩ else none

/-- The identifier with these five groups. -/
def ofGroups? (cs : List Char) : Option Uuid :=
  let groups := cs.splitOn '-'
  if groups.map List.length = [8, 4, 4, 4, 12] then ofDigits? groups.flatten else none

/-- Reads an identifier in any of its forms. -/
def ofText? (cs : List Char) : Option Uuid :=
  if cs.length = 32 then ofDigits? cs
  else if cs.length = 36 then ofGroups? cs
  else if cs.length = 38 && cs.head? == some '\x7b' && cs.getLast? == some '\x7d' then
    ofGroups? ((cs.drop 1).take 36)
  else if cs.length = 45 && (cs.take 9).map Char.toLower == "urn:uuid:".toList then ofGroups? (cs.drop 9)
  else none

end Uuid

end QueryKit
