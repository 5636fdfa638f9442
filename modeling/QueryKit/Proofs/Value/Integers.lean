import QueryKit.Proofs.Steps
import QueryKit.Proofs.Value.Keys
import QueryKit.Row.Reading

set_option autoImplicit false

/-! # Integers read from columns

A column is read as an integer if it holds an integer, a decimal, a floating-point number or a text that
denotes one (`Value.IsInteger`), and what is read is this integer. There is one exception: for a
floating-point number beyond 64 bits a read of 64 bits answers the end of the range that it is beyond
(`Value.Clamps`). A read of 32 bits refuses it, as these ends are out of its own range. Whatever else a
column holds is an error of the column (`integers_read_iff`). -/

namespace QueryKit

/-! ## Numerals -/

namespace Text

/-- Digits denote an integer, with or without a sign in front of them. -/
inductive IsNumeral : List Char → Int → Prop
  | unsigned {ds : List Char} (hne : ds ≠ []) (hdigits : ∀ d ∈ ds, d.isDigit = true) :
      IsNumeral ds (Nat.ofDigitChars 10 ds 0)
  | plus {ds : List Char} (hne : ds ≠ []) (hdigits : ∀ d ∈ ds, d.isDigit = true) :
      IsNumeral ('+' :: ds) (Nat.ofDigitChars 10 ds 0)
  | minus {ds : List Char} (hne : ds ≠ []) (hdigits : ∀ d ∈ ds, d.isDigit = true) :
      IsNumeral ('-' :: ds) (-(Nat.ofDigitChars 10 ds 0 : Nat))

/-- A numeral of the integer, with any blanks around it. -/
def Denotes (s : String) (n : Int) : Prop :=
  ∃ front cs back, AllBlank front ∧ AllBlank back ∧ IsNumeral cs n ∧ s.toList = front ++ cs ++ back

theorem isDigit_of_digitValue? {c : Char} {n : Nat} (h : digitValue? c = some n) :
    c.isDigit = true := by
  unfold digitValue? at h
  split at h
  · next hrange =>
    unfold Char.isDigit
    simpa [Char.le_def] using hrange
  · cases h

/-- Only digits are read as a natural number. -/
theorem natural?_eq_some_iff {cs : List Char} {n : Nat} :
    natural? cs = some n
      ↔ cs ≠ [] ∧ (∀ c ∈ cs, c.isDigit = true) ∧ n = Nat.ofDigitChars 10 cs 0 := by
  have hfold : ∀ (cs : List Char) (acc : Nat),
      cs.foldlM (fun acc c => (digitValue? c).map (acc * 10 + ·)) acc = some n →
        ∀ c ∈ cs, c.isDigit = true := by
    intro cs
    induction cs with
    | nil => exact fun _ _ c hc => nomatch hc
    | cons c rest ih =>
        intro acc h
        rw [List.foldlM_cons] at h
        obtain ⟨next, hnext, hrest⟩ := Option.bind_eq_some_iff.1 h
        obtain ⟨value, hvalue, -⟩ := Option.map_eq_some_iff.1 hnext
        exact List.forall_mem_cons.2 ⟨isDigit_of_digitValue? hvalue, ih next hrest⟩
  constructor
  · intro h
    have hne : cs ≠ [] := by
      rintro rfl
      cases h
    have hdigits : ∀ c ∈ cs, c.isDigit = true := by
      obtain ⟨c, rest, rfl⟩ := List.exists_cons_of_ne_nil hne
      exact hfold _ 0 h
    rw [natural?_of_isDigit hne hdigits, Option.some.injEq] at h
    exact ⟨hne, hdigits, h.symm⟩
  · rintro ⟨hne, hdigits, rfl⟩
    exact natural?_of_isDigit hne hdigits

/-- Exactly the numerals of an integer are read as it. -/
theorem integer?_eq_some_iff {cs : List Char} {n : Int} :
    integer? cs = some n ↔ IsNumeral cs n := by
  have hread : ∀ (ds : List Char) (value : Int),
      ((natural? ds).bind fun m => some (m : Int)) = some value →
        ds ≠ [] ∧ (∀ d ∈ ds, d.isDigit = true) ∧ value = (Nat.ofDigitChars 10 ds 0 : Nat) := by
    intro ds value h
    obtain ⟨m, hm, hvalue⟩ := Option.bind_eq_some_iff.1 h
    obtain ⟨hne, hdigits, rfl⟩ := natural?_eq_some_iff.1 hm
    exact ⟨hne, hdigits, (Option.some.inj hvalue).symm⟩
  constructor
  · intro h
    unfold integer? at h
    split at h
    · next ds =>
      obtain ⟨value, hvalue, rfl⟩ := Option.map_eq_some_iff.1 h
      obtain ⟨hne, hdigits, rfl⟩ := hread ds value hvalue
      exact .minus hne hdigits
    · next ds =>
      obtain ⟨value, hvalue, rfl⟩ := Option.map_eq_some_iff.1 h
      obtain ⟨hne, hdigits, rfl⟩ := hread ds value hvalue
      exact .plus hne hdigits
    · obtain ⟨value, hvalue, rfl⟩ := Option.map_eq_some_iff.1 h
      obtain ⟨hne, hdigits, rfl⟩ := hread cs value hvalue
      exact .unsigned hne hdigits
  · intro h
    cases h with
    | @unsigned ds hne hdigits =>
        obtain ⟨d, rest, rfl⟩ := List.exists_cons_of_ne_nil hne
        have hd := hdigits d (List.mem_cons_self ..)
        have hminus : d ≠ '-' := by
          rintro rfl
          cases hd
        have hplus : d ≠ '+' := by
          rintro rfl
          cases hd
        rw [integer?.eq_3 _ (by simpa using hminus) (by simpa using hplus),
          natural?_of_isDigit hne hdigits]
        rfl
    | plus hne hdigits => rw [integer?, natural?_of_isDigit hne hdigits]; rfl
    | minus hne hdigits => rw [integer?, natural?_of_isDigit hne hdigits]; rfl

theorem IsNumeral.solid {cs : List Char} {n : Int} (h : IsNumeral cs n) : Solid cs := by
  have hsigned : ∀ {sign : Char} {ds : List Char}, isBlank sign = false →
      (∀ d ∈ ds, d.isDigit = true) → Solid (sign :: ds) := fun hsign hdigits =>
    ⟨List.cons_ne_nil _ _,
      List.forall_mem_cons.2 ⟨hsign, fun d hd => isBlank_of_isDigit (hdigits d hd)⟩⟩
  cases h with
  | unsigned hne hdigits => exact ⟨hne, fun d hd => isBlank_of_isDigit (hdigits d hd)⟩
  | plus _ hdigits => exact hsigned rfl hdigits
  | minus _ hdigits => exact hsigned rfl hdigits

theorem int64?_eq_some_iff {m : Int} {n : Int64} : int64? m = some n ↔ m = n.toInt := by
  constructor
  · intro h
    unfold int64? at h
    split at h
    · next hrange =>
      rw [Bool.and_eq_true, decide_eq_true_iff, decide_eq_true_iff] at hrange
      cases h
      exact (Int64.toInt_ofInt_of_le hrange.1 (Int.lt_of_le_sub_one hrange.2)).symm
    · cases h
  · rintro rfl
    exact int64?_toInt n

/-- Exactly the texts that denote a 64-bit integer are read as it. -/
theorem readInt64?_trim_eq_some_iff {s : String} {n : Int64} :
    readInt64? (trim s.toList) = some n ↔ Denotes s n.toInt := by
  rw [readInt64?, Option.bind_eq_some_iff]
  simp only [integer?_eq_some_iff, int64?_eq_some_iff, exists_eq_right]
  constructor
  · intro h
    obtain ⟨front, back, hs, hfront, hback⟩ := exists_trim s.toList
    exact ⟨front, _, back, hfront, hback, h, hs⟩
  · rintro ⟨front, cs, back, hfront, hback, hnumeral, hs⟩
    rwa [hs, hnumeral.solid.trim_append hfront hback]

end Text

/-! ## Integral decimals and floating-point numbers -/

/-- A decimal is integral exactly if it denotes an integer, and this is what is left of it without its
    places. -/
theorem Decimal.value_eq_intCast_iff {d : Decimal} {n : Int} :
    d.value = (n : Rat) ↔ d.isIntegral = true ∧ d.truncate = n := by
  have hpos : 0 < Nat.pow 10 d.scale := Nat.pow_pos (by decide)
  constructor
  · intro h
    obtain ⟨whole, hmantissa, rfl⟩ := exists_whole_of_value h
    rw [isIntegral, truncate, hmantissa, Nat.mul_mod_left, Nat.mul_div_cancel _ hpos]
    exact ⟨rfl, rfl⟩
  · rintro ⟨hintegral, rfl⟩
    rw [isIntegral, beq_iff_eq] at hintegral
    have hunit : ((Nat.pow 10 d.scale : Nat) : Rat) ≠ 0 := by exact_mod_cast hpos.ne'
    have hwhole : (d.mantissa : Rat) / (Nat.pow 10 d.scale : Nat)
        = ((d.mantissa / Nat.pow 10 d.scale : Nat) : Rat) := by
      rw [div_eq_iff hunit]
      exact_mod_cast (Nat.div_mul_cancel (Nat.dvd_of_mod_eq_zero hintegral)).symm
    rw [value, truncate, hwhole]
    generalize d.mantissa / Nat.pow 10 d.scale = whole
    cases d.negative with
    | true => simp
    | false => simp

theorem Binary64.integer?_eq_some_iff {x : Binary64} {n : Int} :
    x.integer? = some n ↔ x.value? = some (n : Rat) := by
  unfold integer?
  cases x.value? with
  | none => simp
  | some v =>
      rw [Option.some.injEq]
      show (if v.den = 1 then some v.num else none) = some n ↔ v = n
      constructor
      · intro h
        split at h
        · next hden => rw [← Option.some.inj h, (Rat.den_eq_one_iff v).1 hden]
        · cases h
      · rintro rfl
        exact if_pos (Rat.den_intCast n)

/-! ## Values that denote integers -/

namespace Value

/-- The value denotes exactly this integer. -/
def IsInteger (n : Int) : Value → Prop
  | .int m => m.toInt = n
  | .float x => x.value? = some (n : Rat)
  | .decimal d => d.value = (n : Rat)
  | .text s => Text.Denotes s n
  | _ => False

/-- The value is a floating-point number that denotes an integer beyond 64 bits, and the other is the
    end of the range on its side. -/
def Clamps (n : Int64) : Value → Prop
  | .float x =>
    ∃ m : Int, x.value? = some (m : Rat)
      ∧ (Int64.maxValue.toInt < m ∧ n = Int64.maxValue ∨ m < Int64.minValue.toInt ∧ n = Int64.minValue)
  | _ => False

/-- The ends of the range of 64 bits are out of the range of 32 bits. -/
theorem Clamps.not_int32 {n : Int64} {v : Value} (h : v.Clamps n) :
    ¬(Int32.minValue.toInt ≤ n.toInt ∧ n.toInt ≤ Int32.maxValue.toInt) := by
  cases v with
  | float x =>
      obtain ⟨m, -, ⟨-, rfl⟩ | ⟨-, rfl⟩⟩ := h
      · decide
      · decide
  | _ => exact h.elim

/-- An integer is held within the range of 64 bits by the nearest end. -/
theorem ofInt_clamp_eq_iff {m : Int} {n : Int64} :
    Int64.ofInt (max Int64.minValue.toInt (min Int64.maxValue.toInt m)) = n
      ↔ m = n.toInt ∨ (Int64.maxValue.toInt < m ∧ n = Int64.maxValue)
        ∨ (m < Int64.minValue.toInt ∧ n = Int64.minValue) := by
  have hmax := Int64.toInt_maxValue
  have hmin := Int64.toInt_minValue
  have hlow := n.minValue_le_toInt
  have hhigh := n.toInt_le
  rw [← Int64.toInt_inj, ← Int64.toInt_inj, ← Int64.toInt_inj,
    Int64.toInt_ofInt_of_le (by omega) (by omega)]
  omega

/-- Which integer a value is converted to. -/
theorem int64?_eq_some_iff {v : Value} {n : Int64} :
    v.int64? = some n ↔ v.IsInteger n.toInt ∨ v.Clamps n := by
  cases v with
  | int m => simp [int64?, IsInteger, Clamps, ← Int64.toInt_inj]
  | float x =>
      rw [int64?, clampedInt64?, Option.map_eq_some_iff]
      simp only [Binary64.integer?_eq_some_iff, ofInt_clamp_eq_iff, IsInteger, Clamps]
      constructor
      · rintro ⟨m, hm, rfl | hend⟩
        · exact .inl hm
        · exact .inr ⟨m, hm, hend⟩
      · rintro (h | ⟨m, hm, hend⟩)
        · exact ⟨_, h, .inl rfl⟩
        · exact ⟨m, hm, .inr hend⟩
  | decimal d =>
      have hread : (Value.decimal d).int64? = some n ↔ d.isIntegral = true ∧ d.truncate = n.toInt := by
        rw [int64?]
        split
        · next hintegral => simp [hintegral, Decimal.toInt64?, Text.int64?_eq_some_iff]
        · next hintegral => simp [hintegral]
      simp [hread, ← Decimal.value_eq_intCast_iff, IsInteger, Clamps]
  | text s => simp [int64?, IsInteger, Clamps, Text.readInt64?_trim_eq_some_iff]
  | null | bool | bytes | json | uuid | timestamp | array =>
      simp [int64?, IsInteger, Clamps]

end Value

/-! ## Reads -/

/-- A read succeeds with what the reader makes of the column. -/
theorem Row.read_eq_ok_iff {α : Type} {reader : Reader α} {column : String} {row : Row} {a : α} :
    row.read reader column = .ok a ↔ ∃ v, row.get? column = some v ∧ reader v = .ok a := by
  unfold read
  cases row.get? column with
  | none => simp
  | some v =>
      simp only [Option.some.injEq, exists_eq_left']
      cases reader v <;> simp

/-- A read that does not succeed is an error of the column. -/
theorem Row.read_eq_ok_or_decode {α : Type} (reader : Reader α) (column : String) (row : Row) :
    (∃ a, row.read reader column = .ok a)
      ∨ ∃ fault, row.read reader column = .error (.decode column fault) := by
  cases h : row.read reader column with
  | ok a => exact .inl ⟨a, rfl⟩
  | error e =>
      right
      unfold read at h
      split at h
      · cases h
        exact ⟨_, rfl⟩
      · split at h
        · cases h
        · cases h
          exact ⟨_, rfl⟩

namespace Reader

theorem int64_eq_ok_iff {v : Value} {n : Int64} :
    int64 v = .ok n ↔ v.IsInteger n.toInt ∨ v.Clamps n := by
  rw [← Value.int64?_eq_some_iff, int64, expecting]
  cases v.int64? <;> simp

/-- The ends of the range of 64 bits are refused, and so are the numbers that are read as them. -/
theorem int32_eq_ok_iff {v : Value} {n : Int32} : int32 v = .ok n ↔ v.IsInteger n.toInt := by
  rw [int32, bind_eq_ok_iff]
  simp only [int64_eq_ok_iff]
  constructor
  · rintro ⟨m, hm, h⟩
    split at h
    · next hrange =>
      rw [Bool.and_eq_true, decide_eq_true_iff, decide_eq_true_iff] at hrange
      cases h
      rw [Int32.toInt_ofInt_of_le hrange.1 (Int.lt_of_le_sub_one hrange.2)]
      exact hm.resolve_right fun hclamps => hclamps.not_int32 hrange
    · cases h
  · intro h
    refine ⟨n.toInt64, .inl ?_, ?_⟩
    · rwa [Int32.toInt_toInt64]
    · rw [Int32.toInt_toInt64, decide_eq_true n.minValue_le_toInt, decide_eq_true n.toInt_le,
        Int32.ofInt_toInt]
      rfl

end Reader

/-- **Columns are read as the integers that they denote.** A read of 64 bits answers an integer exactly
    if the column has a value that denotes it, or a floating-point number beyond the range on the side of
    that integer; a read of 32 bits does exactly if the column has a value that denotes it. All else is
    an error of the column. -/
theorem integers_read_iff (row : Row) (column : String) :
    (∀ n : Int64, row.read Reader.int64 column = .ok n
        ↔ ∃ v, row.get? column = some v ∧ (v.IsInteger n.toInt ∨ v.Clamps n))
      ∧ (∀ n : Int32, row.read Reader.int32 column = .ok n
        ↔ ∃ v, row.get? column = some v ∧ v.IsInteger n.toInt)
      ∧ ((∃ n, row.read Reader.int64 column = .ok n)
        ∨ ∃ fault, row.read Reader.int64 column = .error (.decode column fault))
      ∧ ((∃ n, row.read Reader.int32 column = .ok n)
        ∨ ∃ fault, row.read Reader.int32 column = .error (.decode column fault)) := by
  refine ⟨fun n => ?_, fun n => ?_, row.read_eq_ok_or_decode .., row.read_eq_ok_or_decode ..⟩
  · simp only [Row.read_eq_ok_iff, Reader.int64_eq_ok_iff]
  · simp only [Row.read_eq_ok_iff, Reader.int32_eq_ok_iff]

/-- A decimal and a text are read as the integers that they denote, ten to the power of nineteen as the
    greatest integer of 64 bits and not as one of 32 bits. -/
theorem integers_read_iff_clamped :
    ∃ row : Row,
      row.entries = [("far", .float ⟨0x43e158e460913d00⟩),
          ("decimal", .decimal ⟨true, 4200, 2, by decide, by decide⟩), ("text", .text " +007 ")]
        ∧ (Value.float ⟨0x43e158e460913d00⟩).IsInteger (10 ^ 19)
        ∧ row.read Reader.int64 "far" = .ok Int64.maxValue
        ∧ (∃ fault, row.read Reader.int32 "far" = .error (.decode "far" fault))
        ∧ row.read Reader.int32 "decimal" = .ok (-42)
        ∧ row.read Reader.int64 "text" = .ok 7 := by
  let row : Row := ⟨[("far", .float ⟨0x43e158e460913d00⟩),
    ("decimal", .decimal ⟨true, 4200, 2, by decide, by decide⟩), ("text", .text " +007 ")], by decide⟩
  have hfar : (Value.float ⟨0x43e158e460913d00⟩).IsInteger (10 ^ 19) := by
    show Binary64.value? _ = some _
    decide +kernel
  have hdecimal : (Value.decimal ⟨true, 4200, 2, by decide, by decide⟩).IsInteger
      (-42 : Int32).toInt := by
    show Decimal.value _ = _
    decide +kernel
  have htext : (Value.text " +007 ").IsInteger (7 : Int64).toInt :=
    Text.readInt64?_trim_eq_some_iff.1 (by decide +kernel)
  obtain ⟨hread, -, -, hfailed⟩ := integers_read_iff row "far"
  refine ⟨row, rfl, hfar, (hread _).2 ⟨_, rfl, .inr ⟨_, hfar, .inl ⟨by decide, rfl⟩⟩⟩, ?_,
    ((integers_read_iff row "decimal").2.1 _).2 ⟨_, rfl, hdecimal⟩,
    ((integers_read_iff row "text").1 _).2 ⟨_, rfl, .inl htext⟩⟩
  refine hfailed.resolve_left ?_
  rintro ⟨n, hn⟩
  obtain ⟨v, hv, hinteger⟩ := ((integers_read_iff row "far").2.1 n).1 hn
  cases hv
  have heq : ((10 ^ 19 : Int) : Rat) = (n.toInt : Rat) := Option.some.inj (hfar.symm.trans hinteger)
  have hbound := n.toInt_le
  rw [Int32.toInt_maxValue, ← Int.cast_inj.1 heq] at hbound
  exact absurd hbound (by decide)

end QueryKit
