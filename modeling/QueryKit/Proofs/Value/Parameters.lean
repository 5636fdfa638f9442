import QueryKit.Parameter
import QueryKit.Proofs.Binary64.Patterns
import QueryKit.Proofs.Value.Integers

set_option autoImplicit false

/-! # Integer parameters

Where the server expects an integer of two, four or eight bytes, it reads what is sent as such an integer
(`Payload.integer`). Integers and the texts that denote one are sent as that integer if it fits and are
refused otherwise. Floating-point numbers, bytes, JSON values and instants are sent in a form of their
own, whatever integer type is expected (`Value.HasOwnForm`); if that has the length of the type, the
server reads a number out of it that was never there (`integer_parameters`). -/

namespace QueryKit

/-- The number of bytes of an integer type. -/
def ScalarType.integerWidth? : ScalarType → Option Nat
  | .int2 => some 2
  | .int4 => some 4
  | .int8 => some 8
  | _ => none

namespace Payload

/-! ## Bytes as integers -/

/-- The number that bytes are, the most significant first. -/
def natural (data : List UInt8) : Nat :=
  Nat.ofDigits 256 (data.reverse.map UInt8.toNat)

/-- The integer that bytes are in two's complement. -/
def integer (data : List UInt8) : Int :=
  (natural data : Int).bmod (256 ^ data.length)

/-- The integer fits in so many bytes in two's complement. -/
def Fits (width : Nat) (n : Int) : Prop :=
  -(2 ^ (8 * width - 1) : Int) ≤ n ∧ n < 2 ^ (8 * width - 1)

@[simp] theorem length_bigEndian (count n : Nat) : (bigEndian count n).length = count := by
  rw [bigEndian, List.length_map, List.length_range]

@[simp] theorem length_signed (count : Nat) (n : Int) : (signed count n).length = count :=
  length_bigEndian ..

theorem bigEndian_succ (count n : Nat) :
    bigEndian (count + 1) n = UInt8.ofNat (n / 256 ^ count) :: bigEndian count n := by
  rw [bigEndian, List.range_succ_eq_map, List.map_cons, List.map_map, bigEndian]
  congr 1
  refine List.map_congr_left fun i _ => ?_
  rw [Function.comp_apply, Nat.add_sub_cancel, Nat.succ_eq_add_one, Nat.sub_add_eq, Nat.sub_right_comm]

/-- Only the last bytes of a number are written. -/
theorem natural_bigEndian (count n : Nat) : natural (bigEndian count n) = n % 256 ^ count := by
  induction count with
  | zero => simp [bigEndian, natural, Nat.mod_one]
  | succ count ih =>
      rw [natural] at ih ⊢
      rw [bigEndian_succ, List.reverse_cons, List.map_append, Nat.ofDigits_append, ih,
        List.length_map, List.length_reverse, length_bigEndian, Nat.mod_pow_succ]
      simp

theorem pow_width {width : Nat} (h : 0 < width) :
    ((256 ^ width : Nat) : Int) = 2 * 2 ^ (8 * width - 1) := by
  rw [← pow_succ', show 8 * width - 1 + 1 = 8 * width by omega, pow_mul]
  norm_num

/-- An integer that fits is read from its form. -/
theorem integer_signed {width : Nat} {n : Int} (hwidth : 0 < width) (h : Fits width n) :
    integer (signed width n) = n := by
  have hpos : (0 : Int) < ((Nat.pow 256 width : Nat) : Int) := by
    exact_mod_cast Nat.pow_pos (by decide)
  rw [integer, length_signed, signed, natural_bigEndian, Int.natCast_emod,
    Int.toNat_of_nonneg (Int.emod_nonneg _ hpos.ne'), Int.emod_bmod, Nat.pow_eq, Int.emod_bmod]
  rw [Fits] at h
  apply Int.bmod_eq_of_le <;> rw [pow_width hwidth] <;> omega

/-! ## Integers as parameters -/

theorem integerWidth?_pos {type : ScalarType} {width : Nat} (h : type.integerWidth? = some width) :
    0 < width := by
  cases type <;> cases h <;> decide

theorem inRange?_eq_some_iff {width : Nat} {n : Int} {data : List UInt8} :
    inRange? width n = some data ↔ Fits width n ∧ data = signed width n := by
  rw [inRange?, Fits, Int.pow_eq]
  split
  · next h =>
    rw [Bool.and_eq_true, decide_eq_true_iff, decide_eq_true_iff] at h
    rw [Option.some.injEq, eq_comm, and_iff_right h]
  · next h =>
    rw [Bool.and_eq_true, decide_eq_true_iff, decide_eq_true_iff] at h
    simp [h]

theorem fits_int64 (n : Int64) : Fits 8 n.toInt :=
  ⟨n.le_toInt, n.toInt_lt⟩

/-- What fits in an integer type fits in 64 bits. -/
theorem toInt_ofInt_of_fits {type : ScalarType} {width : Nat} (htype : type.integerWidth? = some width)
    {n : Int} (h : Fits width n) : (Int64.ofInt n).toInt = n := by
  have hmin := Int64.toInt_minValue
  have hmax := Int64.toInt_maxValue
  unfold Fits at h
  cases type with
  | int2 | int4 | int8 =>
      cases htype
      exact Int64.toInt_ofInt_of_le (by omega) (by omega)
  | _ => cases htype

/-- An integer is sent exactly if it fits in the type. -/
theorem ofInt_eq_some_iff {type : ScalarType} {width : Nat} (htype : type.integerWidth? = some width)
    {n : Int64} {data : List UInt8} :
    ofInt type n = some data ↔ Fits width n.toInt ∧ data = signed width n.toInt := by
  cases type with
  | int2 =>
      cases htype
      exact inRange?_eq_some_iff
  | int4 =>
      cases htype
      exact inRange?_eq_some_iff
  | int8 =>
      cases htype
      rw [and_iff_right (fits_int64 n), eq_comm]
      exact Option.some_inj
  | _ => cases htype

/-- A text is sent exactly if it denotes an integer that fits in the type. -/
theorem ofText_eq_some_iff {type : ScalarType} {width : Nat} (htype : type.integerWidth? = some width)
    {s : String} {data : List UInt8} :
    ofText type s = some data ↔ ∃ n, Text.Denotes s n ∧ Fits width n ∧ data = signed width n := by
  have hread : ofText type s = (Text.readInt64? (Text.trim s.toList)).bind (ofInt type) := by
    cases type with
    | int2 | int4 | int8 => rfl
    | _ => cases htype
  rw [hread, Option.bind_eq_some_iff]
  simp only [Text.readInt64?_trim_eq_some_iff, ofInt_eq_some_iff htype]
  constructor
  · rintro ⟨n, hn, hfits, hdata⟩
    exact ⟨_, hn, hfits, hdata⟩
  · rintro ⟨n, hn, hfits, hdata⟩
    refine ⟨Int64.ofInt n, ?_⟩
    rw [toInt_ofInt_of_fits htype hfits]
    exact ⟨hn, hfits, hdata⟩

/-! ## Decimals as parameters -/

theorem groups_ne_nil {fuel n : Nat} (hn : n ≠ 0) : groups (fuel + 1) n ≠ [] := by
  rw [groups, if_neg hn]
  exact List.append_ne_nil_of_right_ne_nil _ (List.cons_ne_nil _ _)

theorem trimGroups_ne_nil {whole : Nat} {all : List Nat} (h : all ≠ []) : trimGroups whole all ≠ [] := by
  rw [trimGroups]
  split
  · exact h
  · next hwhole =>
    refine List.append_ne_nil_of_left_ne_nil ?_ _
    simp [hwhole, h]

/-- The form of a decimal other than zero is longer than every integer type. -/
theorem lt_length_numeric {d : Decimal} (h : d.isZero = false) : 8 < (numeric d).length := by
  have hn : d.mantissa * Nat.pow 10 (4 * ((d.scale + 3) / 4) - d.scale) ≠ 0 :=
    Nat.mul_ne_zero (by simpa [Decimal.isZero] using h) (Nat.pow_pos (by decide)).ne'
  have hkept (whole : Nat) : 0 < (trimGroups whole (groups 16 (d.mantissa
      * Nat.pow 10 (4 * ((d.scale + 3) / 4) - d.scale)))).length :=
    List.length_pos_iff.2 (trimGroups_ne_nil (groups_ne_nil hn))
  simp only [numeric, h, Bool.false_eq_true, if_false, List.length_append, length_bigEndian,
    length_signed, List.length_flatMap, List.map_const', List.sum_replicate, smul_eq_mul]
  exact Nat.lt_add_of_pos_right (Nat.mul_pos (hkept _) (by decide))

/-- Zero is sent as eight zeros, the form of the integer. -/
theorem integer_numeric_of_isZero {d : Decimal} (h : d.isZero = true) :
    (Value.decimal d).IsInteger (integer (numeric d)) := by
  have hvalue : d.value = ((0 : Int) : Rat) := by
    rw [Decimal.isZero, beq_iff_eq] at h
    simp [Decimal.value, h]
  have hform : integer (List.replicate 8 0) = 0 := by decide +kernel
  rw [numeric, if_pos h, hform]
  exact hvalue

/-! ## Floating-point numbers as parameters -/

/-- The form of a floating-point number is that of its pattern taken for an integer. -/
theorem float8_eq_signed (x : Binary64) : float8 x = signed 8 x.canonical.bits.toInt64.toInt := by
  have hbits : x.canonical.bits.toNat < 2 ^ 64 := x.canonical.bits.toNat_lt
  have hpow : Nat.pow 256 8 = 2 ^ 64 := by decide
  rw [float8, signed, Binary64.toInt_pattern, hpow]
  congr 1
  split <;> omega

/-- The form of a floating-point number is read as the integer that it denotes for positive zero only. -/
theorem isInteger_float8_iff {x : Binary64} :
    (Value.float x).IsInteger (integer (float8 x)) ↔ x = .zero := by
  rw [float8_eq_signed, integer_signed (by decide) (fits_int64 _), Value.IsInteger, Binary64.canonical]
  split
  · next hnan =>
    rw [Binary64.value?_eq_none_of_isNaN hnan]
    refine iff_of_false (Option.some_ne_none _).symm ?_
    rintro rfl
    exact absurd hnan (by decide +kernel)
  · exact Binary64.value?_eq_pattern_iff

end Payload

/-! ## Values as integer parameters -/

namespace Value

/-- The value is converted to the integer type that is expected. -/
def IsConverted : Value → Prop
  | .int _ | .text _ => True
  | _ => False

/-- The value is sent in a form of its own, which is not that of an integer. -/
def HasOwnForm : Value → Prop
  | .float x => x ≠ .zero
  | .bytes _ | .json _ | .timestamp _ => True
  | _ => False

end Value

namespace Payload

variable {type : ScalarType} {width : Nat} {v : Value} {data : List UInt8}

/-- What is converted is sent exactly if it denotes an integer that fits in the type. -/
theorem encode?_converted_iff (htype : type.integerWidth? = some width) (hv : v.IsConverted) :
    encode? (.scalar type) v = some (.bytes data)
      ↔ ∃ n, v.IsInteger n ∧ Fits width n ∧ data = signed width n := by
  cases v with
  | int m =>
      rw [encode?, ofScalar?, Option.map_eq_some_iff]
      simp only [bytes.injEq, exists_eq_right, ofInt_eq_some_iff htype, Value.IsInteger,
        exists_eq_left']
  | text s =>
      rw [encode?, ofScalar?, Option.map_eq_some_iff]
      simp only [bytes.injEq, exists_eq_right, ofText_eq_some_iff htype, Value.IsInteger]
  | _ => exact hv.elim

/-- What is converted is refused if it denotes no integer that fits in the type. -/
theorem encode?_converted_eq_none (htype : type.integerWidth? = some width) (hv : v.IsConverted)
    (h : ∀ n, v.IsInteger n → ¬Fits width n) : encode? (.scalar type) v = none := by
  have hbytes : ∃ sent : Option (List UInt8), encode? (.scalar type) v = sent.map .bytes := by
    cases v with
    | int | text => exact ⟨_, rfl⟩
    | _ => exact hv.elim
  obtain ⟨sent, hsent⟩ := hbytes
  cases sent with
  | none => exact hsent
  | some data =>
      obtain ⟨n, hn, hfits, -⟩ := (encode?_converted_iff htype hv).1 hsent
      exact absurd hfits (h n hn)

/-- What has a form of its own is sent in it, whatever integer type is expected. -/
theorem exists_encode?_of_hasOwnForm (hv : v.HasOwnForm) :
    ∃ data, ∀ (type : ScalarType) (width : Nat), type.integerWidth? = some width →
      encode? (.scalar type) v = some (.bytes data) := by
  refine ⟨match v with
    | .float x => float8 x
    | .bytes data => data
    | .json j => utf8 j.compact
    | .timestamp t => instant t
    | _ => [], fun type width htype => ?_⟩
  cases v with
  | float | bytes | json | timestamp =>
      cases type with
      | int2 | int4 | int8 => rfl
      | _ => cases htype
  | _ => exact hv.elim

/-- Bytes of the length of the type are those of the integer that the value denotes, unless they are a
    form of its own. -/
theorem isInteger_integer_iff (htype : type.integerWidth? = some width)
    (hsent : encode? (.scalar type) v = some (.bytes data)) (hlength : data.length = width) :
    v.IsInteger (integer data) ↔ ¬v.HasOwnForm := by
  have hconverted (hv : v.IsConverted) : v.IsInteger (integer data) := by
    obtain ⟨n, hn, hfits, rfl⟩ := (encode?_converted_iff htype hv).1 hsent
    rwa [integer_signed (integerWidth?_pos htype) hfits]
  have hwidth : width = 2 ∨ width = 4 ∨ width = 8 := by
    cases type <;> cases htype <;> decide
  cases v with
  | int | text => exact iff_of_true (hconverted trivial) id
  | float x =>
      have hdata : data = float8 x := by
        cases type with
        | int2 | int4 | int8 => exact (bytes.inj (Option.some.inj hsent)).symm
        | _ => cases htype
      rw [hdata, isInteger_float8_iff]
      exact not_not.symm
  | decimal d =>
      have hdata : data = numeric d := by
        cases type with
        | int2 | int4 | int8 => exact (bytes.inj (Option.some.inj hsent)).symm
        | _ => cases htype
      subst hdata
      cases hzero : d.isZero with
      | true => exact iff_of_true (integer_numeric_of_isZero hzero) id
      | false =>
          have hlong := lt_length_numeric hzero
          omega
  | bytes | json | timestamp => exact iff_of_false id (not_not.2 trivial)
  | bool b =>
      cases hsent
      rw [List.length_singleton] at hlength
      omega
  | uuid u =>
      cases hsent
      rw [Uuid.bytes, List.length_map, List.length_range] at hlength
      omega
  | null | array => cases hsent

end Payload

/-- **Integer parameters are faithful but for forms of their own.** Bytes of the length of an integer
    type are those of the integer that the value denotes exactly if the value has no form of its own; a
    value that has one is sent in it, whatever integer type is expected. An integer or a text is sent as
    the integer that it denotes exactly if that fits in the type, and is refused otherwise. -/
theorem integer_parameters {type : ScalarType} {width : Nat}
    (htype : type.integerWidth? = some width) (v : Value) :
    (∀ data, Payload.encode? (.scalar type) v = some (.bytes data) → data.length = width →
        (v.IsInteger (Payload.integer data) ↔ ¬v.HasOwnForm))
      ∧ (v.HasOwnForm → ∃ data, ∀ (other : ScalarType) (length : Nat),
        other.integerWidth? = some length →
          Payload.encode? (.scalar other) v = some (.bytes data))
      ∧ (v.IsConverted →
        (∀ n, v.IsInteger n ∧ Payload.Fits width n
          ↔ ∃ data, Payload.encode? (.scalar type) v = some (.bytes data)
            ∧ data.length = width ∧ Payload.integer data = n)
        ∧ ((∀ n, v.IsInteger n → ¬Payload.Fits width n) → Payload.encode? (.scalar type) v = none)) := by
  refine ⟨fun data => Payload.isInteger_integer_iff htype, Payload.exists_encode?_of_hasOwnForm,
    fun hv => ⟨fun n => ⟨?_, ?_⟩, Payload.encode?_converted_eq_none htype hv⟩⟩
  · rintro ⟨hn, hfits⟩
    exact ⟨_, (Payload.encode?_converted_iff htype hv).2 ⟨n, hn, hfits, rfl⟩,
      Payload.length_signed .., Payload.integer_signed (Payload.integerWidth?_pos htype) hfits⟩
  · rintro ⟨data, hsent, -, rfl⟩
    obtain ⟨m, hm, hfits, rfl⟩ := (Payload.encode?_converted_iff htype hv).1 hsent
    rw [Payload.integer_signed (Payload.integerWidth?_pos htype) hfits]
    exact ⟨hm, hfits⟩

/-- Three halves reach an integer of eight bytes as another number, the text of an integer reaches one
    of two bytes as that integer, and seventy thousand are refused there. -/
theorem integer_parameters_halves :
    ∃ data, Payload.encode? (.scalar .int8) (.float ⟨0x3ff8000000000000⟩) = some (.bytes data)
      ∧ data.length = 8 ∧ Payload.integer data = 0x3ff8000000000000
      ∧ ¬(Value.float ⟨0x3ff8000000000000⟩).IsInteger (Payload.integer data)
      ∧ (∃ text, Payload.encode? (.scalar .int2) (.text " +007 ") = some (.bytes text)
        ∧ text.length = 2 ∧ Payload.integer text = 7)
      ∧ Payload.encode? (.scalar .int2) (.int 70000) = none := by
  have hown : (Value.float ⟨0x3ff8000000000000⟩).HasOwnForm := by
    show (⟨0x3ff8000000000000⟩ : Binary64) ≠ .zero
    decide
  have hsent : Payload.encode? (.scalar .int8) (.float ⟨0x3ff8000000000000⟩)
      = some (.bytes [0x3f, 0xf8, 0, 0, 0, 0, 0, 0]) := by
    decide +kernel
  have htext : (Value.text " +007 ").IsInteger (7 : Int64).toInt :=
    Text.readInt64?_trim_eq_some_iff.1 (by decide +kernel)
  refine ⟨_, hsent, rfl, by decide +kernel, fun hinteger => ?_, ?_, ?_⟩
  · exact ((@integer_parameters .int8 8 rfl _).1 _ hsent rfl).1 hinteger hown
  · exact (((@integer_parameters .int2 2 rfl (.text " +007 ")).2.2 trivial).1 7).1
      ⟨htext, by decide, by decide⟩
  · refine ((@integer_parameters .int2 2 rfl (.int 70000)).2.2 trivial).2 fun n hn hfits => ?_
    have hn : (70000 : Int64).toInt = n := hn
    have hhigh := hfits.2
    rw [← hn] at hhigh
    exact absurd hhigh (by decide)

end QueryKit
