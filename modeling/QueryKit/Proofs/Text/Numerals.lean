import Mathlib
import QueryKit.Text.Numeral

set_option autoImplicit false

/-! # Numbers written and read

The digits that a number is written with are read as that number again (`natural?_digits`), also
behind zeros (`natural?_padded`) and in front of something that is no digit
(`takeWhile_isDigit_append`), and so is an integer with its sign (`readInt64?_toString`). -/

namespace QueryKit.Text

/-- Does not begin with a digit. -/
def StopsDigits (cs : List Char) : Prop :=
  ∀ c ∈ cs.head?, c.isDigit = false

theorem takeWhile_isDigit_append {ds rest : List Char} (hdigits : ∀ d ∈ ds, d.isDigit = true)
    (hrest : StopsDigits rest) : (ds ++ rest).takeWhile Char.isDigit = ds := by
  rw [List.takeWhile_append_of_pos hdigits]
  cases rest with
  | nil => simp
  | cons c rest => rw [List.takeWhile_cons_of_neg (by simp [hrest c rfl]), List.append_nil]

theorem dropWhile_isDigit_append {ds rest : List Char} (hdigits : ∀ d ∈ ds, d.isDigit = true)
    (hrest : StopsDigits rest) : (ds ++ rest).dropWhile Char.isDigit = rest := by
  rw [List.dropWhile_append_of_pos hdigits]
  cases rest with
  | nil => rfl
  | cons c rest => rw [List.dropWhile_cons_of_neg (by simp [hrest c rfl])]

/-! ## Digits -/

theorem digitValue?_of_isDigit {c : Char} (h : c.isDigit = true) :
    digitValue? c = some (c.toNat - '0'.toNat) := by
  unfold Char.isDigit at h
  unfold digitValue?
  rw [if_pos (by simpa [Char.le_def] using h)]
  rfl

/-- A text of digits is read as what its digits amount to. -/
theorem natural?_of_isDigit {ds : List Char} (hne : ds ≠ [])
    (hdigits : ∀ d ∈ ds, d.isDigit = true) : natural? ds = some (Nat.ofDigitChars 10 ds 0) := by
  have hfold : ∀ acc, ds.foldlM (fun acc c => (digitValue? c).map (acc * 10 + ·)) acc
      = some (Nat.ofDigitChars 10 ds acc) := by
    clear hne
    induction ds with
    | nil =>
      intro acc
      simp
    | cons d ds ih =>
      intro acc
      obtain ⟨hd, hds⟩ := List.forall_mem_cons.1 hdigits
      rw [List.foldlM_cons, digitValue?_of_isDigit hd, Nat.ofDigitChars_cons, Nat.mul_comm]
      exact ih hds _
  obtain ⟨d, ds, rfl⟩ := List.exists_cons_of_ne_nil hne
  exact hfold 0

theorem isDigit_of_mem_digits {n : Nat} {c : Char} (h : c ∈ digits n) : c.isDigit = true :=
  Nat.isDigit_of_mem_toDigits (by decide) (by decide) h

theorem digits_ne_nil (n : Nat) : digits n ≠ [] :=
  Nat.toDigits_ne_nil

theorem exists_digits_eq_cons (n : Nat) : ∃ d ds, digits n = d :: ds ∧ d.isDigit = true := by
  obtain ⟨d, ds, hds⟩ := List.exists_cons_of_ne_nil (digits_ne_nil n)
  exact ⟨d, ds, hds, isDigit_of_mem_digits (n := n) (hds ▸ List.mem_cons_self)⟩

/-- An integer is written as its digits, behind a minus if it is negative. -/
theorem toList_toString (n : Int) :
    (toString n).toList = (if n < 0 then ['-'] else []) ++ digits n.natAbs := by
  rw [Int.toString_eq_repr, Int.repr_eq_if]
  by_cases hsign : n < 0
  · rw [if_neg (by omega), if_pos hsign, String.toList_append, Nat.repr_eq_ofList_toDigits,
      String.toList_ofList, String.toList_ofList, show (-n).toNat = n.natAbs by omega]
    rfl
  · rw [if_pos (by omega), if_neg hsign, Nat.repr_eq_ofList_toDigits, String.toList_ofList,
      show n.toNat = n.natAbs by omega]
    rfl

@[simp] theorem natural?_digits (n : Nat) : natural? (digits n) = some n := by
  rw [natural?_of_isDigit (digits_ne_nil n) fun _ h => isDigit_of_mem_digits h, digits,
    Nat.ofDigitChars_toDigits (by decide) (by decide)]

theorem head?_digits (n : Nat) : (digits n).head? = some '0' ↔ n = 0 := by
  constructor
  · intro h
    induction n using Nat.strongRecOn with
    | ind n ih =>
      by_cases hn : n < 10
      · rw [digits, Nat.toDigits_of_lt_base hn] at h
        exact Nat.digitChar_eq_zero.1 (Option.some.inj h)
      · have hfirst : (digits (n / 10)).head? = some '0' := by
          rw [digits, Nat.toDigits_of_base_le (by decide) (by omega), List.head?_append] at h
          obtain ⟨d, ds, hds, -⟩ := exists_digits_eq_cons (n / 10)
          rw [digits] at hds ⊢
          rw [hds] at h ⊢
          exact h
        have := ih (n / 10) (by omega) hfirst
        omega
  · rintro rfl
    rfl

/-! ## Integers -/

/-- An integer is read back from its decimal text. -/
theorem integer?_toString (n : Int) : integer? (toString n).toList = some n := by
  rw [toList_toString]
  by_cases hsign : n < 0
  · rw [if_pos hsign, List.singleton_append, integer?, natural?_digits]
    show some (-(n.natAbs : Int)) = some n
    rw [Int.ofNat_natAbs_of_nonpos (Int.le_of_lt hsign), Int.neg_neg]
  · obtain ⟨d, ds, hds, hd⟩ := exists_digits_eq_cons n.natAbs
    have hminus : d ≠ '-' := by
      rintro rfl
      cases hd
    have hplus : d ≠ '+' := by
      rintro rfl
      cases hd
    rw [if_neg hsign, List.nil_append, hds,
      integer?.eq_3 _ (by simpa using hminus) (by simpa using hplus), ← hds, natural?_digits]
    show some (n.natAbs : Int) = some n
    rw [Int.natAbs_of_nonneg (Int.not_lt.1 hsign)]

theorem int64?_toInt (n : Int64) : int64? n.toInt = some n := by
  have hrange : (Int64.minValue.toInt ≤ n.toInt && n.toInt ≤ Int64.maxValue.toInt) = true :=
    Bool.and_eq_true_iff.2
      ⟨decide_eq_true (Int64.minValue_le_toInt n), decide_eq_true (Int64.toInt_le n)⟩
  rw [int64?, if_pos hrange, Int64.ofInt_toInt]

/-- A 64-bit integer is read back from its decimal text. -/
theorem readInt64?_toString (n : Int64) : readInt64? (toString n.toInt).toList = some n := by
  rw [readInt64?, integer?_toString, Option.bind_some, int64?_toInt]

/-! ## Digits behind zeros -/

theorem isDigit_of_mem_padded {width n : Nat} {c : Char} (h : c ∈ padded width n) :
    c.isDigit = true := by
  rcases List.mem_append.1 h with hzero | hdigit
  · rw [List.eq_of_mem_replicate hzero]
    rfl
  · exact isDigit_of_mem_digits hdigit

theorem padded_ne_nil (width n : Nat) : padded width n ≠ [] :=
  List.append_ne_nil_of_right_ne_nil _ (digits_ne_nil n)

theorem exists_padded_eq_cons (width n : Nat) :
    ∃ d ds, padded width n = d :: ds ∧ d.isDigit = true := by
  obtain ⟨d, ds, hds⟩ := List.exists_cons_of_ne_nil (padded_ne_nil width n)
  exact ⟨d, ds, hds, isDigit_of_mem_padded (n := n) (hds ▸ List.mem_cons_self)⟩

@[simp] theorem natural?_padded (width n : Nat) : natural? (padded width n) = some n := by
  rw [natural?_of_isDigit (padded_ne_nil width n) fun _ h => isDigit_of_mem_padded h, padded,
    Nat.ofDigitChars_append, Nat.ofDigitChars_replicate_zero, Nat.mul_zero, digits,
    Nat.ofDigitChars_toDigits (by decide) (by decide)]

theorem length_padded {width n : Nat} (hwidth : 0 < width) (hn : n < 10 ^ width) :
    (padded width n).length = width := by
  have hle : (digits n).length ≤ width := (Nat.length_toDigits_le_iff (by decide) hwidth).2 hn
  rw [padded, List.length_append, List.length_replicate]
  omega

end QueryKit.Text
