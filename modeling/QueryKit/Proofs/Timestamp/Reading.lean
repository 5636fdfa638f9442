import Mathlib
import QueryKit.Proofs.Text.Numerals
import QueryKit.Proofs.Text.Words
import QueryKit.Proofs.Timestamp.Calendar
import QueryKit.Timestamp.Lenient

set_option autoImplicit false

/-! # Instants are read back

The text of an instant is read as that instant (`ofLenientText?_toZuluText`), for every instant that
there can be (`IsInstant`). -/

namespace QueryKit.Timestamp

open Text

/-- There is such an instant: its year is a known one, and only the last second of a minute can be a
    leap second. -/
structure IsInstant (t : Timestamp) : Prop where
  year : isKnownYear t.year = true
  nanos : t.nanos < 2 * nanosPerSecond
  leap : t.isLeap = true → t.seconds % 60 = 59

/-! ## Parts -/

theorem dropWhile_isBlank_padded (width n : Nat) (rest : List Char) :
    (padded width n ++ rest).dropWhile isBlank = padded width n ++ rest := by
  obtain ⟨d, ds, hds, hdigit⟩ := exists_padded_eq_cons width n
  rw [hds]
  exact List.dropWhile_cons_of_neg (by simp [isBlank_of_isDigit hdigit])

theorem lenientNumber?_padded {width n : Nat} (hwidth : 0 < width) (hn : n < 10 ^ width)
    (rest : List Char) : lenientNumber? width (padded width n ++ rest) = some (n, rest) := by
  have hlength := length_padded hwidth hn
  have htake : (padded width n ++ rest).take width = padded width n := by
    rw [List.take_append_of_le_length (by omega), List.take_of_length_le (by omega)]
  have hdigits : (padded width n).takeWhile Char.isDigit = padded width n :=
    List.takeWhile_eq_self_iff.2 fun _ h => isDigit_of_mem_padded h
  unfold lenientNumber?
  dsimp only
  rw [dropWhile_isBlank_padded, htake, hdigits, natural?_padded, List.drop_left]
  rfl

theorem signed_padded (width n : Nat) {rest : List Char} (hrest : StopsDigits rest) :
    lenientYear?.signed (padded width n ++ rest) = some (n, rest) := by
  unfold lenientYear?.signed
  rw [takeWhile_isDigit_append (fun _ h => isDigit_of_mem_padded h) hrest,
    dropWhile_isDigit_append (fun _ h => isDigit_of_mem_padded h) hrest, natural?_padded]
  rfl

theorem lenientYear?_yearText (year : Int) {rest : List Char} (hrest : StopsDigits rest) :
    lenientYear? (yearText year ++ rest) = some (year, rest) := by
  unfold yearText
  by_cases hshort : 0 ≤ year ∧ year ≤ 9999
  · rw [if_pos (by simpa using hshort)]
    have hnumber : lenientNumber? 4 (padded 4 year.toNat ++ rest) = some (year.toNat, rest) :=
      lenientNumber?_padded (by decide) (by omega) rest
    obtain ⟨d, ds, hds, hdigit⟩ := exists_padded_eq_cons 4 year.toNat
    unfold lenientYear?
    rw [dropWhile_isBlank_padded]
    split
    · next heq =>
      rw [hds, List.cons_append] at heq
      rw [(List.cons.inj heq).1] at hdigit
      cases hdigit
    · next heq =>
      rw [hds, List.cons_append] at heq
      rw [(List.cons.inj heq).1] at hdigit
      cases hdigit
    · rw [hnumber, Option.map_some]
      dsimp only
      rw [Int.toNat_of_nonneg hshort.1]
  · rw [if_neg (by simpa using hshort)]
    by_cases hsign : year < 0
    · rw [if_pos hsign]
      show (lenientYear?.signed (padded 4 year.natAbs ++ rest)).map _ = _
      rw [signed_padded 4 year.natAbs hrest, Option.map_some]
      dsimp only
      rw [show -(year.natAbs : Int) = year by omega]
    · rw [if_neg hsign]
      show (lenientYear?.signed (padded 4 year.natAbs ++ rest)).map _ = _
      rw [signed_padded 4 year.natAbs hrest, Option.map_some]
      dsimp only
      rw [show (year.natAbs : Int) = year by omega]

theorem fraction?_padded {width n : Nat} (hwidth : 0 < width) (hmost : width ≤ 9)
    (hn : n < 10 ^ width) {rest : List Char} (hrest : StopsDigits rest) :
    fraction? ('.' :: (padded width n ++ rest)) = some (n * 10 ^ (9 - width), rest) := by
  have hlength := length_padded hwidth hn
  show (natural? (((padded width n ++ rest).takeWhile Char.isDigit).take 9)).map _ = _
  rw [takeWhile_isDigit_append (fun _ h => isDigit_of_mem_padded h) hrest,
    List.take_of_length_le (by omega), natural?_padded, Option.map_some, hlength,
    dropWhile_isDigit_append (fun _ h => isDigit_of_mem_padded h) hrest]
  rfl

theorem fraction?_fractionText {nanos : Nat} (hnanos : nanos < nanosPerSecond) {rest : List Char}
    (hrest : StopsDigits rest) (hpoint : ∀ cs, rest ≠ '.' :: cs) :
    fraction? (fractionText nanos ++ rest) = some (nanos, rest) := by
  have hsecond : nanos < 1000000000 := hnanos
  unfold fractionText
  split
  · next hzero =>
    subst hzero
    show fraction? rest = _
    unfold fraction?
    split
    · next cs => exact absurd rfl (hpoint cs)
    · rfl
  · split
    · rw [List.cons_append, fraction?_padded (by decide) (by decide) (by omega) hrest,
        show nanos / 1000000 * 10 ^ (9 - 3) = nanos by omega]
    · split
      · rw [List.cons_append, fraction?_padded (by decide) (by decide) (by omega) hrest,
          show nanos / 1000 * 10 ^ (9 - 6) = nanos by omega]
      · rw [List.cons_append, fraction?_padded (by decide) (by decide) hsecond hrest,
          show nanos * 10 ^ (9 - 9) = nanos by omega]

/-! ## Instants -/

/-- The time of day is read from its parts. -/
theorem ofLenientText?_parts {date : CalendarDay} {hour minute second nanos : Nat}
    (hyear : isKnownYear date.year = true) (hmonth : date.month < 10 ^ 2) (hday : date.day < 10 ^ 2)
    (hhour : hour < 10 ^ 2) (hminute : minute < 10 ^ 2) (hsecond : second < 10 ^ 2)
    (hnanos : nanos < nanosPerSecond) :
    ofLenientText? (yearText date.year ++ '-' :: padded 2 date.month ++ '-' :: padded 2 date.day
        ++ 'T' :: padded 2 hour ++ ':' :: padded 2 minute ++ ':' :: padded 2 second
        ++ fractionText nanos ++ ['Z'])
      = (ofCivil? date hour minute second nanos 0).filter fun t => isKnownYear t.year := by
  have hstops : ∀ c cs, c.isDigit = false → StopsDigits (c :: cs) := by
    intro c cs hc d hd
    cases hd
    exact hc
  have hmark : ∀ c cs, isBlank c = false → lenientMark? c (c :: cs) = some cs := by
    intro c cs hc
    unfold lenientMark?
    rw [List.dropWhile_cons_of_neg (by simp [hc])]
    exact if_pos rfl
  have hnumber : ∀ n cs, n < 10 ^ 2 → lenientNumber? 2 (padded 2 n ++ cs) = some (n, cs) :=
    fun n cs hn => lenientNumber?_padded (by decide) hn cs
  have hzone : lenientZone? (['Z'].dropWhile isBlank) = some (0, []) := by decide
  have hletter : ∀ cs, expect? 'T' ('T' :: cs) = some cs := fun _ => rfl
  have hfraction : fraction? (fractionText nanos ++ ['Z']) = some (nanos, ['Z']) :=
    fraction?_fractionText hnanos (hstops _ _ (by decide)) (fun _ h => by cases h)
  simp only [List.append_assoc, List.cons_append]
  unfold ofLenientText?
  rw [lenientYear?_yearText _ (hstops _ _ (by decide))]
  dsimp only [bind]
  rw [Option.bind_some, hmark '-' _ (by decide), Option.bind_some, hnumber _ _ hmonth,
    Option.bind_some, hmark '-' _ (by decide), Option.bind_some, hnumber _ _ hday, Option.bind_some,
    hletter, Option.orElse_some, Option.bind_some, hnumber _ _ hhour, Option.bind_some,
    hmark ':' _ (by decide), Option.bind_some, hnumber _ _ hminute, Option.bind_some,
    hmark ':' _ (by decide), Option.bind_some, hnumber _ _ hsecond, Option.bind_some, hfraction,
    Option.bind_some, hzone, Option.bind_some]
  dsimp only
  rw [hyear]
  rfl

/-- The parts of an instant make that instant. -/
theorem ofCivil?_parts {t : Timestamp} (h : t.IsInstant) :
    ofCivil? (CalendarDay.ofDays (t.seconds / 86400)) ((t.seconds % 86400).toNat / 3600)
        ((t.seconds % 86400).toNat / 60 % 60)
        ((t.seconds % 86400).toNat % 60 + if t.isLeap then 1 else 0) (t.nanos % nanosPerSecond) 0
      = some t := by
  obtain ⟨seconds, nanos⟩ := t
  obtain ⟨hmonth, hmonth', hday, hday'⟩ := CalendarDay.ofDays_valid (seconds / 86400)
  have hnanos : nanos < 2000000000 := h.nanos
  have hleap : isLeap ⟨seconds, nanos⟩ = true → seconds % 60 = 59 := h.leap
  have hhour : (seconds % 86400).toNat / 3600 ≤ 23 := by omega
  have hminute : (seconds % 86400).toNat / 60 % 60 ≤ 59 := by omega
  unfold ofCivil?
  by_cases hlong : 1000000000 ≤ nanos
  · have hisLeap : isLeap ⟨seconds, nanos⟩ = true := decide_eq_true hlong
    have hsecond := hleap hisLeap
    have hshown : (seconds % 86400).toNat % 60 + (if isLeap ⟨seconds, nanos⟩ = true then 1 else 0)
        = 60 := by
      rw [if_pos hisLeap]
      omega
    dsimp only
    rw [hshown]
    rw [if_pos (by simp [hmonth, hmonth', hday, hday', hhour, hminute]), CalendarDay.toDays_ofDays,
      if_pos rfl]
    congr 2
    · omega
    · unfold nanosPerSecond
      omega
  · have hisLeap : isLeap ⟨seconds, nanos⟩ = false := decide_eq_false hlong
    have hshown : (seconds % 86400).toNat % 60 + (if isLeap ⟨seconds, nanos⟩ = true then 1 else 0)
        = (seconds % 86400).toNat % 60 := by
      rw [hisLeap]
      rfl
    have hsecond : (seconds % 86400).toNat % 60 ≤ 59 := by omega
    dsimp only
    rw [hshown]
    rw [if_pos (by simp [hmonth, hmonth', hday, hday', hhour, hminute]; omega),
      CalendarDay.toDays_ofDays, if_neg (by omega)]
    congr 2
    · omega
    · unfold nanosPerSecond
      omega

/-- **The text of an instant is read as that instant.** -/
theorem ofLenientText?_toZuluText {t : Timestamp} (h : t.IsInstant) :
    ofLenientText? t.toZuluText.toList = some t := by
  obtain ⟨hmonth, hmonth', hday, hday'⟩ := CalendarDay.ofDays_valid (t.seconds / 86400)
  have hdays : CalendarDay.daysInMonth (CalendarDay.ofDays (t.seconds / 86400)).year
      (CalendarDay.ofDays (t.seconds / 86400)).month ≤ 31 := by
    unfold CalendarDay.daysInMonth
    split <;> split <;> omega
  unfold toZuluText civilText
  rw [String.toList_ofList]
  dsimp only
  rw [ofLenientText?_parts h.year (by omega) (by omega) (by omega) (by omega) (by split <;> omega)
    (Nat.mod_lt _ (by decide)), ofCivil?_parts h]
  exact if_pos h.year

end QueryKit.Timestamp
