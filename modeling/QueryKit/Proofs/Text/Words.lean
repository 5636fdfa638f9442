import Mathlib
import QueryKit.Text.Blank

set_option autoImplicit false

/-! # Blanks and words

A text is its trimmed form between blanks, and it is its words between blanks: a word has no blank, and
what follows it begins with one (`exists_of_words_eq_cons`). -/

namespace QueryKit.Text

/-- Nothing but blanks, or nothing at all. -/
def AllBlank (cs : List Char) : Prop :=
  ∀ c ∈ cs, isBlank c = true

/-- Has a character, and none that is blank. -/
structure Solid (word : List Char) : Prop where
  ne_nil : word ≠ []
  no_blank : ∀ c ∈ word, isBlank c = false

theorem isBlank_of_isDigit {c : Char} (h : c.isDigit = true) : isBlank c = false := by
  have hrange : 48 ≤ c.toNat ∧ c.toNat ≤ 57 := by
    simpa [Char.isDigit, UInt32.le_iff_toNat_le] using h
  unfold isBlank
  simp
  omega

theorem AllBlank.append {xs ys : List Char} (hxs : AllBlank xs) (hys : AllBlank ys) :
    AllBlank (xs ++ ys) := by
  intro c hc
  exact (List.mem_append.1 hc).elim (hxs c) (hys c)

theorem allBlank_takeWhile (cs : List Char) : AllBlank (cs.takeWhile isBlank) :=
  fun _ hc => List.mem_takeWhile_imp hc

/-- A text is its trimmed form between blanks. -/
theorem exists_trim (cs : List Char) :
    ∃ front back, cs = front ++ trim cs ++ back ∧ AllBlank front ∧ AllBlank back := by
  have hend : ∀ xs : List Char, xs = trimEnd xs ++ (xs.reverse.takeWhile isBlank).reverse := by
    intro xs
    rw [trimEnd, ← List.reverse_append, List.takeWhile_append_dropWhile, List.reverse_reverse]
  refine ⟨cs.takeWhile isBlank, ((cs.dropWhile isBlank).reverse.takeWhile isBlank).reverse, ?_,
    allBlank_takeWhile cs, fun c hc => List.mem_takeWhile_imp (List.mem_reverse.1 hc)⟩
  rw [trim, List.append_assoc, ← hend, List.takeWhile_append_dropWhile]

theorem trim_infix (cs : List Char) : trim cs <:+: cs := by
  obtain ⟨front, back, heq, -, -⟩ := exists_trim cs
  exact ⟨front, back, heq.symm⟩

/-- Blanks around a text without any are trimmed. -/
theorem Solid.trim_append {front word back : List Char} (h : Solid word) (hfront : AllBlank front)
    (hback : AllBlank back) : trim (front ++ word ++ back) = word := by
  obtain ⟨first, rest, hfirst⟩ := List.exists_cons_of_ne_nil h.ne_nil
  obtain ⟨last, before, hlast⟩ : ∃ last before, word.reverse = last :: before :=
    List.exists_cons_of_ne_nil fun hnil => h.ne_nil (List.reverse_eq_nil_iff.1 hnil)
  have hsolid : ∀ c ∈ word, ¬isBlank c = true := fun c hc => by simp [h.no_blank c hc]
  rw [trim, trimEnd, List.append_assoc, List.dropWhile_append_of_pos hfront, hfirst, List.cons_append,
    List.dropWhile_cons_of_neg (hsolid first (hfirst ▸ List.mem_cons_self)), ← List.cons_append,
    ← hfirst, List.reverse_append,
    List.dropWhile_append_of_pos fun c hc => hback c (List.mem_reverse.1 hc), hlast,
    List.dropWhile_cons_of_neg (hsolid last (List.mem_reverse.1 (hlast ▸ List.mem_cons_self))), ← hlast,
    List.reverse_reverse]

/-- A text without blanks is its trimmed form. -/
theorem Solid.trim_eq {word : List Char} (h : Solid word) : trim word = word := by
  have hnone : AllBlank [] := fun _ hc => nomatch hc
  have happend := h.trim_append hnone hnone
  rwa [List.nil_append, List.append_nil] at happend

/-- A text that begins and ends with a word is its trimmed form. -/
theorem Solid.trim_between {first last : List Char} (hfirst : Solid first) (hlast : Solid last)
    (between : List Char) : trim (first ++ (between ++ last)) = first ++ (between ++ last) := by
  obtain ⟨c, rest, rfl⟩ := List.exists_cons_of_ne_nil hfirst.ne_nil
  obtain ⟨d, front, hlastreverse⟩ : ∃ d front, last.reverse = d :: front :=
    List.exists_cons_of_ne_nil fun hnil => hlast.ne_nil (List.reverse_eq_nil_iff.1 hnil)
  have hc : ¬isBlank c = true := by simp [hfirst.no_blank c List.mem_cons_self]
  have hd : ¬isBlank d = true := by
    simp [hlast.no_blank d (List.mem_reverse.1 (hlastreverse ▸ List.mem_cons_self))]
  have hreverse : (c :: rest ++ (between ++ last)).reverse
      = d :: (front ++ between.reverse ++ (c :: rest).reverse) := by
    rw [List.reverse_append, List.reverse_append, hlastreverse, List.cons_append, List.cons_append]
  rw [trim, List.cons_append, List.dropWhile_cons_of_neg hc, trimEnd, ← List.cons_append, hreverse,
    List.dropWhile_cons_of_neg hd, ← hreverse, List.reverse_reverse]

/-! ## Words -/

theorem words_blank_cons {c : Char} (h : isBlank c = true) (cs : List Char) :
    words (c :: cs) = words cs := by
  rw [words, words, runs, runs, List.splitOnP_cons_eq_if_modifyHead, if_pos h, List.filter_cons]
  rfl

theorem words_blank_append {front : List Char} (h : AllBlank front) (cs : List Char) :
    words (front ++ cs) = words cs := by
  induction front with
  | nil => rfl
  | cons c rest ih =>
      rw [List.cons_append, words_blank_cons (h c (List.mem_cons_self ..))]
      exact ih fun d hd => h d (List.mem_cons_of_mem _ hd)

theorem Solid.words_eq {word : List Char} (h : Solid word) : words word = [word] := by
  rw [Text.words, runs, List.splitOnP_eq_singleton h.no_blank]
  simp [h.ne_nil]

theorem Solid.words_append_cons {word : List Char} (h : Solid word) {c : Char} (hc : isBlank c = true)
    (cs : List Char) : words (word ++ c :: cs) = word :: words cs := by
  rw [Text.words, runs, List.splitOnP_append_cons_of_forall_mem h.no_blank c hc, List.filter_cons]
  simp [h.ne_nil, Text.words, runs]

/-- A text begins with blanks and, unless there is nothing else, with a word that ends at a blank or at
    the end of the text. -/
theorem exists_front (cs : List Char) :
    AllBlank cs ∨ ∃ front word rest, cs = front ++ (word ++ rest) ∧ AllBlank front ∧ Solid word
      ∧ (rest = [] ∨ ∃ c others, rest = c :: others ∧ isBlank c = true) := by
  have hcs : cs.takeWhile isBlank ++ cs.dropWhile isBlank = cs := List.takeWhile_append_dropWhile
  rcases hbehind : cs.dropWhile isBlank with _ | ⟨first, others⟩
  · left
    exact List.dropWhile_eq_nil_iff.1 hbehind
  · right
    have hfirst : isBlank first = false := by
      have h := List.head?_dropWhile_not isBlank cs
      rwa [hbehind] at h
    refine ⟨cs.takeWhile isBlank, (first :: others).takeWhile (!isBlank ·),
      (first :: others).dropWhile (!isBlank ·), ?_, allBlank_takeWhile cs, ⟨?_, ?_⟩, ?_⟩
    · rw [List.takeWhile_append_dropWhile, ← hbehind, hcs]
    · simp [hfirst]
    · intro c hc
      simpa using List.mem_takeWhile_imp hc
    · have h := List.head?_dropWhile_not (!isBlank ·) (first :: others)
      rcases hrest : (first :: others).dropWhile (!isBlank ·) with _ | ⟨c, rest⟩
      · exact .inl rfl
      · rw [hrest] at h
        exact .inr ⟨c, rest, rfl, by simpa using h⟩

theorem allBlank_of_words_eq_nil {cs : List Char} (h : words cs = []) : AllBlank cs := by
  rcases exists_front cs with hblank | ⟨front, word, rest, rfl, hfront, hword, hrest⟩
  · exact hblank
  · rw [words_blank_append hfront] at h
    rcases hrest with rfl | ⟨c, others, rfl, hc⟩
    · rw [List.append_nil, hword.words_eq] at h
      cases h
    · rw [hword.words_append_cons hc] at h
      cases h

theorem AllBlank.words_eq {cs : List Char} (h : AllBlank cs) : words cs = [] := by
  rw [← List.append_nil cs, words_blank_append h]
  rfl

/-- The first word stands behind blanks, and a blank or nothing stands behind it. -/
theorem exists_of_words_eq_cons {cs word : List Char} {others : List (List Char)}
    (h : words cs = word :: others) :
    ∃ front rest, cs = front ++ (word ++ rest) ∧ AllBlank front ∧ Solid word ∧ words rest = others
      ∧ (rest = [] ∨ ∃ c behind, rest = c :: behind ∧ isBlank c = true) := by
  rcases exists_front cs with hblank | ⟨front, first, rest, rfl, hfront, hfirst, hrest⟩
  · rw [hblank.words_eq] at h
    cases h
  · rw [words_blank_append hfront] at h
    have hwords : words (first ++ rest) = first :: words rest := by
      rcases hrest with rfl | ⟨c, behind, rfl, hc⟩
      · rw [List.append_nil, hfirst.words_eq]
        rfl
      · rw [hfirst.words_append_cons hc, words_blank_cons hc]
    rw [hwords, List.cons.injEq] at h
    obtain ⟨rfl, hothers⟩ := h
    exact ⟨front, rest, rfl, hfront, hfirst, hothers, hrest⟩

/-- Two words have blanks around them and between them. -/
theorem exists_of_words_eq_two {cs first second : List Char} (h : words cs = [first, second]) :
    ∃ front gap back, cs = front ++ (first ++ (gap ++ (second ++ back))) ∧ AllBlank front
      ∧ AllBlank gap ∧ gap ≠ [] ∧ AllBlank back ∧ Solid first ∧ Solid second := by
  obtain ⟨front, rest, rfl, hfront, hfirst, hothers, hrest⟩ := exists_of_words_eq_cons h
  obtain ⟨gap, back, rfl, hgap, hsecond, hback, -⟩ := exists_of_words_eq_cons hothers
  refine ⟨front, gap, back, rfl, hfront, hgap, ?_, allBlank_of_words_eq_nil hback, hfirst, hsecond⟩
  rintro rfl
  -- without a gap the second word would have to begin with a blank
  rcases hrest with hnil | ⟨c, behind, hc, hblank⟩
  · exact hsecond.ne_nil (List.append_eq_nil_iff.1 ((List.nil_append _).symm.trans hnil)).1
  · obtain ⟨d, ds, hd⟩ := List.exists_cons_of_ne_nil hsecond.ne_nil
    rw [hd, List.nil_append, List.cons_append, List.cons.injEq] at hc
    have hsolid := hsecond.no_blank d (hd ▸ List.mem_cons_self ..)
    rw [hc.1, hblank] at hsolid
    cases hsolid

end QueryKit.Text
