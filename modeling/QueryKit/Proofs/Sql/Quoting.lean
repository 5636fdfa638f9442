import QueryKit.Proofs.Sql.Emission

set_option autoImplicit false

/-! # Quoted references

References are written between quotes part by part. A scan for markers finds none in what is written
for a reference without a parenthesis, and is outside of quotes again behind it, whatever characters
the reference holds. -/

namespace QueryKit

theorem Text.trim_sublist (cs : List Char) : (Text.trim cs).Sublist cs := by
  have hend : ∀ xs : List Char, (Text.trimEnd xs).Sublist xs := by
    intro xs
    have h := (List.dropWhile_sublist Text.isBlank (l := xs.reverse)).reverse
    rwa [List.reverse_reverse] at h
  exact (hend _).trans (List.dropWhile_sublist Text.isBlank)

namespace Sql

/-! ## Neutral texts -/

/-- Scanned from outside of quotes, the text has no markers and no quote is open behind it. -/
structure Neutral (cs : List Char) : Prop where
  closed : Span.after none cs = none
  unmarked : countFrom none cs = 0

theorem Neutral.nil : Neutral [] := ⟨rfl, rfl⟩

theorem Neutral.append {xs ys : List Char} (hxs : Neutral xs) (hys : Neutral ys) :
    Neutral (xs ++ ys) := by
  constructor
  · rw [Span.after_append, hxs.closed, hys.closed]
  · rw [countFrom_append, hxs.closed, hxs.unmarked, hys.unmarked]

theorem Neutral.cons {c : Char} {cs : List Char} (hquote : isQuote c = false) (hmarker : c ≠ '?')
    (h : Neutral cs) : Neutral (c :: cs) := by
  have hnext : Span.next none c = none := by
    simp [Span.next, hquote]
  constructor
  · rw [Span.after_cons, hnext, h.closed]
  · rw [countFrom, hnext, h.unmarked]
    simp [Span.isMarker, hmarker]

/-! ## Parts -/

section Quote

variable {q : Char} (hq : isQuote q = true)

include hq

theorem ne_marker_of_isQuote : q ≠ '?' := by
  intro hmarker
  rw [hmarker] at hq
  exact absurd hq (by decide)

/-- Inside of quotes, doubled quotes close and open the quotes again. -/
theorem scan_doubled (part : List Char) :
    Span.after (some q) (doubled q part) = some q ∧ countFrom (some q) (doubled q part) = 0 := by
  induction part with
  | nil => exact ⟨rfl, rfl⟩
  | cons c rest ih =>
      obtain ⟨hafter, hcount⟩ := ih
      rw [doubled, List.flatMap_cons, ← doubled]
      by_cases hc : c = q
      · -- the first of the two closes the quotes, the second one opens them again
        have hmarker := ne_marker_of_isQuote hq
        subst hc
        simp [Span.after_cons, countFrom, Span.next, Span.isMarker, hq, hmarker, hafter, hcount]
      · simp [Span.after_cons, countFrom, Span.next, Span.isMarker, hc, hafter, hcount]

theorem neutral_quotePart (part : List Char) : Neutral (quotePart q part) := by
  unfold quotePart
  split
  · next hstar =>
      rw [hstar]
      exact .cons (by decide) (by decide) .nil
  · obtain ⟨hafter, hcount⟩ := scan_doubled hq part
    have hmarker := ne_marker_of_isQuote hq
    have hopen : Span.next none q = some q := by
      simp [Span.next, hq]
    have hclose : Span.next (some q) q = none := by
      simp [Span.next]
    constructor
    · rw [List.cons_append, Span.after_cons, hopen, Span.after_append, hafter]
      exact hclose
    · rw [List.cons_append, countFrom, hopen, countFrom_append, hcount, hafter]
      simp [countFrom, Span.isMarker, hmarker]

end Quote

/-! ## References -/

section References

variable {q : Char} {P : List Char → Prop} (nil : P []) (part : ∀ cs, P (quotePart q cs))
  (point : ∀ xs ys, P xs → P ys → P (xs ++ '.' :: ys))
  (suffix : ∀ xs cs, P xs → P (xs ++ aliasSuffix q cs))

include nil part point

theorem quoteDotted_induction (reference : List Char) : P (quoteDotted q reference) := by
  rw [quoteDotted]
  induction reference.splitOn '.' with
  | nil => exact nil
  | cons first rest ih =>
      cases rest with
      | nil => simpa [List.intercalate] using part first
      | cons second rest =>
          have hsplit : List.intercalate ['.'] ((first :: second :: rest).map (quotePart q))
              = quotePart q first
                ++ '.' :: List.intercalate ['.'] ((second :: rest).map (quotePart q)) := by
            simp [List.intercalate]
          rw [hsplit]
          exact point _ _ (part first) ih

include suffix

theorem quoteAliased_induction (reference : List Char) : P (quoteAliased q reference) := by
  unfold quoteAliased
  split
  · exact suffix _ _ (quoteDotted_induction nil part point _)
  · exact quoteDotted_induction nil part point _

/-- What holds of quoted parts, and is kept by points between them and by aliases behind them, holds of
    what is written for a reference without a parenthesis. -/
theorem quoteColumn_induction (reference : List Char) (h : '(' ∉ reference) :
    P (quoteColumn q reference) := by
  have htrim : (Text.trim reference).contains '(' = false := by
    rw [List.contains_eq_mem, decide_eq_false_iff_not]
    exact fun hmem => h ((Text.trim_sublist reference).mem hmem)
  simp only [quoteColumn, htrim, Bool.false_eq_true, if_false]
  split
  · exact suffix _ _ (quoteAliased_induction nil part point suffix _)
  · exact quoteDotted_induction nil part point _

end References

/-- **What is written for a reference without a parenthesis is neutral.** -/
theorem neutral_quoteColumn {q : Char} (hq : isQuote q = true) (reference : List Char)
    (h : '(' ∉ reference) : Neutral (quoteColumn q reference) := by
  refine quoteColumn_induction .nil (neutral_quotePart hq) (fun xs ys hxs hys => ?_)
    (fun xs label hxs => ?_) reference h
  · exact hxs.append (.cons (by decide) (by decide) hys)
  · exact hxs.append (.append ⟨by decide, by decide⟩ (neutral_quotePart hq label))

theorem isQuote_identifierQuote (d : Dialect) : isQuote d.identifierQuote = true := by
  cases d <;> decide

theorem neutral_column (d : Dialect) (reference : String) (h : '(' ∉ reference.toList) :
    Neutral (d.column reference).toList := by
  rw [Dialect.column, String.toList_ofList]
  exact neutral_quoteColumn (isQuote_identifierQuote d) reference.toList h

end Sql

end QueryKit
