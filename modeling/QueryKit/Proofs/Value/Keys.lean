import QueryKit.Proofs.Text.Numerals
import QueryKit.Proofs.Text.Uuid
import QueryKit.Value.Key

set_option autoImplicit false

/-! # Keys of numbers

A number comes back from a store as an integer, as its digits, as a decimal of any scale, as a
floating-point number or within JSON (`Value.Denotes`). All of these have the integer for their key, but
for two: a JSON number that is held as a floating-point number goes by its text, and so does the
floating-point number at the lower end of the 64-bit range (`key_of_number_iff`). -/

namespace QueryKit

/-! ## Decimals -/

namespace Decimal

/-- What is left of a mantissa whose places are all zeros. -/
theorem strip_mul (scale whole : Nat) : strip scale (whole * Nat.pow 10 scale) = (whole, 0) := by
  induction scale with
  | zero => exact congrArg (·, 0) (Nat.mul_one whole)
  | succ scale ih =>
      have htenfold : whole * Nat.pow 10 (scale + 1) = whole * Nat.pow 10 scale * 10 := by
        rw [Nat.mul_assoc]
        rfl
      rw [strip, htenfold, if_pos (Nat.mul_mod_left _ _), Nat.mul_div_cancel _ (by decide), ih]

/-- The whole part of a decimal that denotes an integer: all places of the mantissa are zeros, and the
    decimal has the sign of the integer. -/
theorem exists_whole_of_value {d : Decimal} {n : Int} (h : d.value = (n : Rat)) :
    ∃ whole : Nat, d.mantissa = whole * Nat.pow 10 d.scale
      ∧ n = if d.negative then -(whole : Int) else whole := by
  have hpos : 0 < Nat.pow 10 d.scale := Nat.pow_pos (by decide)
  have hunit : ((Nat.pow 10 d.scale : Nat) : Rat) ≠ 0 := by exact_mod_cast hpos.ne'
  -- the integer without the sign of the decimal is not negative, as the mantissa is not
  have hwhole : ∀ k : Int, (d.mantissa : Rat) / (Nat.pow 10 d.scale : Nat) = k →
      d.mantissa = k.toNat * Nat.pow 10 d.scale ∧ (k.toNat : Int) = k := by
    intro k hk
    have hmantissa : (d.mantissa : Int) = k * (Nat.pow 10 d.scale : Nat) := by
      exact_mod_cast (div_eq_iff hunit).1 hk
    have hnonneg : 0 ≤ k := by
      refine nonneg_of_mul_nonneg_left (b := ((Nat.pow 10 d.scale : Nat) : Int)) ?_ ?_
      · rw [← hmantissa]
        exact Int.natCast_nonneg _
      · exact_mod_cast hpos
    have hk' : (k.toNat : Int) = k := Int.toNat_of_nonneg hnonneg
    refine ⟨?_, hk'⟩
    rw [← hk'] at hmantissa
    exact_mod_cast hmantissa
  rw [value] at h
  split at h
  · next hnegative =>
    have hk : (d.mantissa : Rat) / (Nat.pow 10 d.scale : Nat) = ((-n : Int) : Rat) := by
      rw [Int.cast_neg, ← h, neg_neg]
    obtain ⟨hmantissa, hsign⟩ := hwhole (-n) hk
    exact ⟨_, hmantissa, by rw [if_pos hnegative, hsign, neg_neg]⟩
  · next hnegative =>
    obtain ⟨hmantissa, hsign⟩ := hwhole n h
    exact ⟨_, hmantissa, by rw [if_neg hnegative, hsign]⟩

/-- A decimal that denotes an integer is written without places once it is normalized. -/
theorem normalize_of_value {d : Decimal} {n : Int} (h : d.value = (n : Rat)) :
    d.normalize.scale = 0 ∧ d.normalize.truncate = n := by
  obtain ⟨whole, hmantissa, hn⟩ := exists_whole_of_value h
  rw [normalize]
  split
  · next hzero =>
    have hwhole : whole = 0 := by
      rw [isZero, beq_iff_eq, hmantissa] at hzero
      exact (Nat.mul_eq_zero.1 hzero).resolve_right (Nat.pow_pos (by decide)).ne'
    refine ⟨rfl, ?_⟩
    rw [hn, hwhole]
    cases d.negative <;> rfl
  · next hzero =>
    simp only [truncate, hmantissa, strip_mul]
    refine ⟨trivial, ?_⟩
    rw [show Nat.pow 10 0 = 1 from rfl, Nat.div_one, hn]

end Decimal

/-! ## Texts -/

namespace Text

/-- The decimal text of an integer, with any blanks around it. -/
def Spells (s : String) (n : Int) : Prop :=
  ∃ front back, AllBlank front ∧ AllBlank back ∧ s.toList = front ++ (toString n).toList ++ back

theorem solid_toString (n : Int) : Solid (toString n).toList := by
  rw [toList_toString]
  refine ⟨List.append_ne_nil_of_right_ne_nil _ (digits_ne_nil _), fun c hc => ?_⟩
  rcases List.mem_append.1 hc with hminus | hdigit
  · split at hminus
    · rw [List.mem_singleton.1 hminus]
      rfl
    · cases hminus
  · exact isBlank_of_isDigit (isDigit_of_mem_digits hdigit)

/-- An integer is read from its decimal text between blanks. -/
theorem readInt64?_trim_of_spells {s : String} {n : Int64} (h : Spells s n.toInt) :
    readInt64? (trim s.toList) = some n := by
  obtain ⟨front, back, hfront, hback, hs⟩ := h
  rw [hs, (solid_toString n.toInt).trim_append hfront hback, readInt64?_toString]

end Text

/-! ## Keys of one kind of numbers -/

namespace Key

theorem ofDecimal_of_value {d : Decimal} {n : Int64} (h : d.value = (n.toInt : Rat)) :
    ofDecimal d = .int n := by
  obtain ⟨hscale, htruncate⟩ := Decimal.normalize_of_value h
  have hint : d.normalize.toInt64? = some n := by
    rw [Decimal.toInt64?, htruncate, Text.int64?_toInt]
  simp only [ofDecimal, hscale, hint, if_true]

theorem ofText_of_readInt64? {s : String} {n : Int64}
    (h : Text.readInt64? (Text.trim s.toList) = some n) : ofText s = .int n := by
  simp only [ofText, h]

/-- An integral floating-point number within 64 bits has the integer for its key, unless it is at the
    lower end. -/
theorem ofBinary_of_value {x : Binary64} {n : Int64} (h : x.value? = some (n.toInt : Rat)) :
    ofBinary x = if n = Int64.minValue then .text (FloatLayout.plain.write x) else .int n := by
  have hint : x.integer? = some n.toInt := by
    rw [Binary64.integer?, h]
    exact if_pos (Rat.den_intCast _)
  have hbounds := Int64.le_toInt n
  have hupper := Int64.toInt_lt n
  have hrange : n.toInt.natAbs < Int64.minValue.toInt.natAbs ↔ n ≠ Int64.minValue := by
    rw [ne_eq, ← Int64.toInt_inj, Int64.toInt_minValue]
    omega
  rw [ofBinary, hint]
  by_cases hmin : n = Int64.minValue
  · rw [if_pos hmin]
    exact if_neg fun hlt => hrange.1 hlt hmin
  · rw [if_neg hmin]
    show (if _ then _ else _) = _
    rw [if_pos (hrange.2 hmin), Int64.ofInt_toInt]

end Key

/-! ## Keys of numbers -/

namespace Value

/-- The values that denote a 64-bit integer. -/
inductive Denotes (n : Int64) : Value → Prop
  | int : Denotes n (.int n)
  | text {s : String} (h : Text.Spells s n.toInt) : Denotes n (.text s)
  | jsonText {s : String} (h : Text.Spells s n.toInt) : Denotes n (.json (.string s))
  | decimal {d : Decimal} (h : d.value = (n.toInt : Rat)) : Denotes n (.decimal d)
  | float {x : Binary64} (h : x.value? = some (n.toInt : Rat)) : Denotes n (.float x)
  | jsonInteger : Denotes n (.json (.number (.integer n.toInt)))
  | jsonFloat {x : Binary64} (h : x.value? = some (n.toInt : Rat)) :
      Denotes n (.json (.number (.float x)))

/-- The numbers that go by their text: the floating-point number at the lower end of the 64-bit range,
    and all floating-point numbers within JSON. -/
def GoesByText : Value → Prop
  | .float x => x.value? = some (Int64.minValue.toInt : Rat)
  | .json (.number (.float _)) => True
  | _ => False

/-- Whatever has an integer for its key is bound as this integer. -/
theorem canonical_of_key?_int {v : Value} {n : Int64} (h : v.key? = some (.int n)) :
    v.canonical = .int n := by
  rw [canonical, h]

theorem canonical_of_key?_text {v : Value} {s : String} (h : v.key? = some (.text s)) :
    v.canonical = v := by
  rw [canonical, h]

/-- The key of a value that denotes an integer is the integer or a text. -/
theorem key?_of_denotes {v : Value} {n : Int64} (h : v.Denotes n) :
    (v.GoesByText ∧ ∃ s, v.key? = some (.text s)) ∨ (¬v.GoesByText ∧ v.key? = some (.int n)) := by
  cases h with
  | int => exact .inr ⟨id, rfl⟩
  | text h =>
      exact .inr ⟨id, congrArg some (Key.ofText_of_readInt64? (Text.readInt64?_trim_of_spells h))⟩
  | jsonText h =>
      exact .inr ⟨id, congrArg some (Key.ofText_of_readInt64? (Text.readInt64?_trim_of_spells h))⟩
  | decimal h => exact .inr ⟨id, congrArg some (Key.ofDecimal_of_value h)⟩
  | @float x h =>
      have hkey : (Value.float x).key? = some _ := congrArg some (Key.ofBinary_of_value h)
      by_cases hmin : n = Int64.minValue
      · rw [if_pos hmin] at hkey
        exact .inl ⟨by rwa [GoesByText, ← hmin], _, hkey⟩
      · rw [if_neg hmin] at hkey
        refine .inr ⟨fun htext => hmin ?_, hkey⟩
        rw [GoesByText, h, Option.some.injEq] at htext
        exact Int64.toInt_inj.1 (by exact_mod_cast htext)
  | jsonInteger =>
      have hint : (JsonNumber.integer n.toInt).toInt64? = some n := Text.int64?_toInt n
      refine .inr ⟨id, ?_⟩
      rw [key?, Key.ofJson, hint]
  | jsonFloat => exact .inl ⟨trivial, _, rfl⟩

end Value

/-- **Values that denote one 64-bit integer have it for their key and are bound as it**, exactly unless
    they go by their text. Those have a text for their key and are bound as they are. -/
theorem key_of_number_iff (n : Int64) (v : Value) (h : v.Denotes n) :
    ((v.key? = some (.int n) ∧ v.canonical = .int n) ↔ ¬v.GoesByText)
      ∧ (v.GoesByText → ∃ s, v.key? = some (.text s) ∧ v.canonical = v) := by
  rcases Value.key?_of_denotes h with ⟨hby, s, hkey⟩ | ⟨hby, hkey⟩
  · refine ⟨⟨fun hint => ?_, fun hnot => absurd hby hnot⟩,
      fun _ => ⟨s, hkey, Value.canonical_of_key?_text hkey⟩⟩
    rw [hint.1] at hkey
    cases hkey
  · exact ⟨⟨fun _ => hby, fun _ => ⟨hkey, Value.canonical_of_key?_int hkey⟩⟩,
      fun hnot => absurd hnot hby⟩

/-- A decimal with places has the integer for its key, the JSON number `7.0` has its text. -/
theorem key_of_number_iff_decimal_and_json :
    ∃ (d : Decimal) (x : Binary64), d.toText = "-42.00" ∧ (Value.decimal d).Denotes (-42)
      ∧ (Value.decimal d).key? = some (.int (-42)) ∧ (Value.decimal d).canonical = .int (-42)
      ∧ (Value.json (.number (.float x))).Denotes 7
      ∧ (Value.json (.number (.float x))).key? = some (.text "7.0")
      ∧ (Value.json (.number (.float x))).key? ≠ some (.int 7) := by
  have hdecimal : (Value.decimal ⟨true, 4200, 2, by decide, by decide⟩).Denotes (-42) :=
    .decimal (by decide +kernel)
  have hjson : (Value.json (.number (.float ⟨0x401c000000000000⟩))).Denotes 7 :=
    .jsonFloat (by decide +kernel)
  obtain ⟨hkey, hcanonical⟩ := (key_of_number_iff _ _ hdecimal).1.2 id
  have hnot := mt (key_of_number_iff _ _ hjson).1.1 (not_not_intro trivial)
  have htext : (Value.json (.number (.float ⟨0x401c000000000000⟩))).key? = some (.text "7.0") := by
    decide +kernel
  refine ⟨_, _, by decide +kernel, hdecimal, hkey, hcanonical, hjson, htext, fun hint => ?_⟩
  exact hnot ⟨hint, Value.canonical_of_key?_int hint⟩

end QueryKit
