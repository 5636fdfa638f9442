import Mathlib
import QueryKit.Proofs.Text.Words
import QueryKit.Uuid

set_option autoImplicit false

/-! # Identifiers are read back

Hexadecimal digits are read as the number that they are written for (`hexNumber?_hexFixed`), and the
text of an identifier, five groups of them with hyphens between, as that identifier
(`ofText?_toText`). -/

namespace QueryKit

/-! ## Hexadecimal digits -/

namespace Text

theorem hexDigit_spec :
    ∀ n < 16, hexValue? (hexDigit n) = some n ∧ hexDigit n ≠ '-' ∧ isBlank (hexDigit n) = false := by
  decide

theorem length_hexFixed (count n : Nat) : (hexFixed count n).length = count := by
  induction count generalizing n with
  | zero => rfl
  | succ count ih => rw [hexFixed, List.length_append, ih, List.length_singleton]

theorem exists_of_mem_hexFixed {count n : Nat} {c : Char} (h : c ∈ hexFixed count n) :
    ∃ m < 16, c = hexDigit m := by
  induction count generalizing n with
  | zero => cases h
  | succ count ih =>
      rw [hexFixed, List.mem_append, List.mem_singleton] at h
      rcases h with h | h
      · exact ih h
      · exact ⟨n % 16, Nat.mod_lt _ (by decide), h⟩

theorem hexNumber?_concat (cs : List Char) (c : Char) :
    hexNumber? (cs ++ [c])
      = (hexNumber? cs).bind fun acc => (hexValue? c).map (acc * 16 + ·) := by
  rw [hexNumber?, List.foldlM_append]
  congr 1
  funext acc
  simp only [List.foldlM_cons, List.foldlM_nil, bind_pure]

/-- Digits are read as the number that they are written for, as far as they show it. -/
theorem hexNumber?_hexFixed (count n : Nat) :
    hexNumber? (hexFixed count n) = some (n % Nat.pow 16 count) := by
  induction count generalizing n with
  | zero => exact congrArg some (Nat.mod_one n).symm
  | succ count ih =>
      have hdigit := (hexDigit_spec (n % 16) (Nat.mod_lt _ (by decide))).1
      have hsize : n % Nat.pow 16 (count + 1) = n / 16 % Nat.pow 16 count * 16 + n % 16 := by
        have hpow : Nat.pow 16 (count + 1) = 16 * Nat.pow 16 count := Nat.mul_comm _ _
        rw [hpow, Nat.mod_mul]
        omega
      rw [hexFixed, hexNumber?_concat, ih, Option.bind_some, hdigit, Option.map_some, hsize]

end Text

namespace Uuid

variable (u : Uuid)

/-- The digits in five groups. -/
def groups : List (List Char) :=
  [u.digits.take 8, (u.digits.drop 8).take 4, (u.digits.drop 12).take 4, (u.digits.drop 16).take 4,
    u.digits.drop 20]

theorem toList_toText : u.toText.toList = ['-'].intercalate u.groups := by
  simp [toText, groups, List.intercalate]

theorem length_digits : u.digits.length = 32 :=
  Text.length_hexFixed _ _

theorem map_length_groups : u.groups.map List.length = [8, 4, 4, 4, 12] := by
  simp [groups, length_digits]

/-- The groups follow each other without a gap. -/
theorem flatten_groups : u.groups.flatten = u.digits := by
  have hnext : ∀ n, (u.digits.drop n).take 4 ++ u.digits.drop (n + 4) = u.digits.drop n := by
    intro n
    rw [← List.drop_drop, List.take_append_drop]
  simp only [groups, List.flatten_cons, List.flatten_nil, List.append_nil]
  rw [hnext 16, hnext 12, hnext 8, List.take_append_drop]

theorem mem_digits_of_mem_groups {group : List Char} {c : Char} (hgroup : group ∈ u.groups)
    (hc : c ∈ group) : c ∈ u.digits := by
  rw [← flatten_groups]
  exact List.mem_flatten_of_mem hgroup hc

theorem ofDigits?_digits : ofDigits? u.digits = some u := by
  have hsize : u.bits.toNat % Nat.pow 16 32 = u.bits.toNat := Nat.mod_eq_of_lt u.bits.isLt
  rw [ofDigits?, if_pos u.length_digits, digits, Text.hexNumber?_hexFixed, hsize, Option.map_some,
    BitVec.ofNat_toNat, BitVec.setWidth_eq]

/-- An identifier is read back from its text. -/
theorem ofText?_toText : ofText? u.toText.toList = some u := by
  have hsplit : (['-'].intercalate u.groups).splitOn '-' = u.groups := by
    refine List.splitOn_intercalate '-' (fun group hgroup hmem => ?_) (List.cons_ne_nil _ _)
    obtain ⟨m, hm, hc⟩ := Text.exists_of_mem_hexFixed (u.mem_digits_of_mem_groups hgroup hmem)
    exact (Text.hexDigit_spec m hm).2.1 hc.symm
  have hlength : u.toText.toList.length = 36 := by
    rw [toList_toText]
    simp [groups, List.intercalate, length_digits]
  have hgroups : ofGroups? u.toText.toList = some u := by
    rw [ofGroups?, toList_toText, hsplit, if_pos u.map_length_groups, flatten_groups, ofDigits?_digits]
  rw [ofText?, if_neg (by omega), if_pos hlength, hgroups]

/-- The text of an identifier has no blanks. -/
theorem solid_toText : Text.Solid u.toText.toList := by
  constructor
  · rw [toList_toText]
    simp [groups, List.intercalate]
  · intro c hc
    have hchar : c ∈ u.digits ∨ c = '-' := by
      rw [toText, String.toList_ofList] at hc
      simp only [List.mem_append, List.mem_cons] at hc
      grind [List.mem_of_mem_take, List.mem_of_mem_drop]
    rcases hchar with hdigit | rfl
    · obtain ⟨m, hm, rfl⟩ := Text.exists_of_mem_hexFixed hdigit
      exact (Text.hexDigit_spec m hm).2.2
    · rfl

end Uuid

end QueryKit
