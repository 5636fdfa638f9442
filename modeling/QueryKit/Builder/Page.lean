set_option autoImplicit false

/-! # Pages

A page is a window of rows, given by the size of the pages and the number of this one. -/

namespace QueryKit

/-- A page of a size. Pages are counted from one, and page zero is the first one too. The number of
    rows before a page is counted in 64 bits. -/
structure Page where
  size : UInt64
  number : UInt64
  fits : (number.toNat - 1) * size.toNat < UInt64.size
deriving DecidableEq

namespace Page

/-- The page of this size and number. There is none if the rows before it are too many to be
    counted. -/
def of? (size number : UInt64) : Option Page :=
  if fits : (number.toNat - 1) * size.toNat < UInt64.size then some ⟨size, number, fits⟩ else none

/-- The number of rows before a page. -/
def offset (p : Page) : UInt64 :=
  (max p.number 1 - 1) * p.size

end Page

end QueryKit
