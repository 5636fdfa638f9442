import QueryKit.Proofs.Builder.Windows

set_option autoImplicit false

/-! # Pages of one size

A page is a window of the rows: pages of one size should part the rows between them, each beginning
where the one before it ends. Those that there are do. But a page exists only as long as the number of
rows before it fits into 64 bits, so not every number has its page (`pages_part_rows_iff`). -/

namespace QueryKit

/-! ## Rows of a window -/

/-- The places of the rows that a draft keeps, counted from zero among all rows in their order. -/
def Draft.places (d : Draft) : Set Nat :=
  {place | (d.offset.getD 0).toNat ≤ place
    ∧ ∀ count ∈ d.limit, place < (d.offset.getD 0).toNat + count.toNat}

namespace Builder

variable (b : Builder)

theorem window_paginate (page : Page) :
    (b.paginate page).draft.window = (some page.size, some page.offset) := by
  rw [paginate, modify, Draft.ensureKeyOrder_eq]
  rfl

theorem mem_places_paginate {page : Page} {place : Nat} :
    place ∈ (b.paginate page).draft.places
      ↔ page.offset.toNat ≤ place ∧ place < page.offset.toNat + page.size.toNat := by
  have hwindow := b.window_paginate page
  rw [Draft.window, Prod.mk.injEq] at hwindow
  rw [Draft.places, Set.mem_ofPred_eq, hwindow.1, hwindow.2]
  simp

end Builder

/-! ## Pages that there are -/

namespace Page

variable {size number last : UInt64} {p q : Page}

/-- The rows before the page of this number are too many to be counted in 64 bits. -/
def Overruns (size number : UInt64) : Prop :=
  UInt64.size ≤ (number.toNat - 1) * size.toNat

theorem of?_eq_none_iff : of? size number = none ↔ Overruns size number := by
  rw [of?, Overruns, dite_eq_right_iff, ← Nat.not_lt]
  exact ⟨fun h fits => Option.some_ne_none _ (h fits), fun h fits => absurd fits h⟩

theorem of?_eq_some_iff : of? size number = some p ↔ p.size = size ∧ p.number = number := by
  rw [of?]
  constructor
  · intro h
    split at h
    · cases h
      exact ⟨rfl, rfl⟩
    · exact absurd h.symm (Option.some_ne_none p)
  · rintro ⟨rfl, rfl⟩
    exact dif_pos p.fits

theorem exists_of?_eq_some (h : ¬Overruns size number) : ∃ p, of? size number = some p :=
  Option.ne_none_iff_exists'.1 (mt of?_eq_none_iff.1 h)

/-- A page before one that exists exists too. -/
theorem not_overruns_of_le (h : ¬Overruns size last) (hle : number ≤ last) :
    ¬Overruns size number := by
  have hnumber : number.toNat ≤ last.toNat := UInt64.le_iff_toNat_le.1 hle
  have hrows : (number.toNat - 1) * size.toNat ≤ (last.toNat - 1) * size.toNat :=
    Nat.mul_le_mul_right _ (by omega)
  rw [Overruns] at h ⊢
  omega

theorem isSome_of?_upto_iff :
    (∀ number ≤ last, (of? size number).isSome = true) ↔ ¬Overruns size last := by
  refine ⟨fun h => ?_, fun h number hle => ?_⟩
  · rw [← of?_eq_none_iff, ← Option.not_isSome_iff_eq_none, not_not]
    exact h last (UInt64.le_refl last)
  · obtain ⟨p, hp⟩ := exists_of?_eq_some (not_overruns_of_le h hle)
    rw [hp, Option.isSome_some]

/-! ## Offsets -/

/-- The offset of a page is the number of rows on the pages before it: it does not wrap around. -/
theorem toNat_offset (p : Page) : p.offset.toNat = (p.number.toNat - 1) * p.size.toNat := by
  have hnumber : (max p.number 1 - 1).toNat = p.number.toNat - 1 := by
    rw [UInt64.max_def]
    split
    · next h =>
        have hle : p.number.toNat ≤ 1 := UInt64.le_iff_toNat_le.1 h
        rw [UInt64.sub_self, UInt64.toNat_zero]
        omega
    · next h =>
        have hlt : ¬p.number.toNat ≤ 1 := fun hle => h (UInt64.le_iff_toNat_le.2 hle)
        exact UInt64.toNat_sub_of_le _ _ (UInt64.le_iff_toNat_le.2 (Nat.le_of_not_le hlt))
  rw [offset, UInt64.toNat_mul, hnumber]
  exact Nat.mod_eq_of_lt p.fits

theorem toNat_succ (h : number < last) : (number + 1).toNat = number.toNat + 1 := by
  have hlt : number.toNat < last.toNat := UInt64.lt_iff_toNat_lt.1 h
  have hlast : last.toNat < UInt64.size := UInt64.toNat_lt_size last
  rw [UInt64.toNat_add]
  exact Nat.mod_eq_of_lt (Nat.lt_of_le_of_lt hlt hlast)

/-- A page ends where the page of the next number begins. -/
theorem toNat_offset_next (hsize : q.size = p.size) (hp : 1 ≤ p.number) (hlt : p.number < last)
    (hq : q.number = p.number + 1) : q.offset.toNat = p.offset.toNat + p.size.toNat := by
  have hone : 1 ≤ p.number.toNat := UInt64.le_iff_toNat_le.1 hp
  rw [toNat_offset, toNat_offset, hq, toNat_succ hlt, hsize, ← Nat.succ_mul]
  congr 1
  omega

/-- A page ends before a page of a later number begins. -/
theorem end_le_offset (hsize : q.size = p.size) (hp : 1 ≤ p.number) (hlt : p.number < q.number) :
    p.offset.toNat + p.size.toNat ≤ q.offset.toNat := by
  have hone : 1 ≤ p.number.toNat := UInt64.le_iff_toNat_le.1 hp
  have hnumbers : p.number.toNat < q.number.toNat := UInt64.lt_iff_toNat_lt.1 hlt
  rw [toNat_offset, toNat_offset, hsize, ← Nat.succ_mul]
  exact Nat.mul_le_mul_right _ (by omega)

end Page

/-! ## Pages part the rows -/

namespace Builder

variable (b : Builder) {size last : UInt64}

theorem disjoint_places {p q : Page} (hsize : q.size = p.size) (hp : 1 ≤ p.number)
    (hlt : p.number < q.number) :
    Disjoint (b.paginate p).draft.places (b.paginate q).draft.places := by
  have hends := Page.end_le_offset hsize hp hlt
  rw [Set.disjoint_left]
  intro place hplace hplace'
  rw [mem_places_paginate] at hplace hplace'
  omega

/-- Every row before the end of the last page is on one of the pages. -/
theorem exists_mem_places (h : ¬Page.Overruns size last) {place : Nat}
    (hplace : place < last.toNat * size.toNat) :
    ∃ number page, 1 ≤ number ∧ number ≤ last ∧ Page.of? size number = some page
      ∧ place ∈ (b.paginate page).draft.places := by
  have hpos : 0 < size.toNat := Nat.pos_of_mul_pos_left (Nat.zero_lt_of_lt hplace)
  have hbefore : place / size.toNat < last.toNat := (Nat.div_lt_iff_lt_mul hpos).2 hplace
  have hlast : last.toNat < UInt64.size := UInt64.toNat_lt_size last
  have hnumber : (UInt64.ofNat (place / size.toNat + 1)).toNat = place / size.toNat + 1 :=
    UInt64.toNat_ofNat_of_lt' (by omega)
  have hle : UInt64.ofNat (place / size.toNat + 1) ≤ last := by
    rw [UInt64.le_iff_toNat_le, hnumber]
    exact hbefore
  obtain ⟨page, hpage⟩ := Page.exists_of?_eq_some (Page.not_overruns_of_le h hle)
  refine ⟨_, page, ?_, hle, hpage, ?_⟩
  · rw [UInt64.le_iff_toNat_le, hnumber]
    exact Nat.succ_le_succ (Nat.zero_le _)
  · obtain ⟨hsize, hpage⟩ := Page.of?_eq_some_iff.1 hpage
    rw [mem_places_paginate, Page.toNat_offset, hpage, hsize, hnumber, Nat.add_sub_cancel]
    exact ⟨Nat.div_mul_le_self _ _, Nat.lt_div_mul_add hpos⟩

end Builder

/-- **Pages part the rows, as far as there are pages.** The page of a number exists exactly if the rows
    before it can be counted in 64 bits. Its window then begins behind as many rows as stand on the
    pages before it, and page zero is the first page. Pages of two numbers are disjoint, each begins
    where the one before it ends, and no row before the end of a page that exists is left out. So the
    pages of all numbers up to the last one part the rows exactly if the last one does not overrun. -/
theorem pages_part_rows_iff (b : Builder) (size last : UInt64) :
    (∀ number, Page.of? size number = none ↔ UInt64.size ≤ (number.toNat - 1) * size.toNat)
      ∧ (∀ number page, Page.of? size number = some page →
          (b.paginate page).draft.window = (some size, some page.offset)
          ∧ page.offset.toNat = (number.toNat - 1) * size.toNat)
      ∧ (∃ page, (Page.of? size 0).map b.paginate = some page
          ∧ (Page.of? size 1).map b.paginate = some page)
      ∧ (∀ p q first second, 1 ≤ p → p < q →
          Page.of? size p = some first → Page.of? size q = some second →
            Disjoint (b.paginate first).draft.places (b.paginate second).draft.places)
      ∧ (∀ number page next, 1 ≤ number → number < last →
          Page.of? size number = some page → Page.of? size (number + 1) = some next →
            next.offset.toNat = page.offset.toNat + size.toNat)
      ∧ ((∀ number ≤ last, (Page.of? size number).isSome = true) ↔ ¬Page.Overruns size last)
      ∧ (¬Page.Overruns size last → ∀ place < last.toNat * size.toNat,
          ∃ number page, 1 ≤ number ∧ number ≤ last ∧ Page.of? size number = some page
            ∧ place ∈ (b.paginate page).draft.places) := by
  have hzero : (0 : UInt64).toNat - 1 = 0 := rfl
  have hone : (1 : UInt64).toNat - 1 = 0 := rfl
  have hsize : 0 < UInt64.size := by decide
  refine ⟨fun number => Page.of?_eq_none_iff, fun number page h => ?_, ?_,
    fun p q first second hp hlt hfirst hsecond => ?_,
    fun number page next hnumber hlt hpage hnext => ?_, Page.isSome_of?_upto_iff,
    fun h place => b.exists_mem_places h⟩
  · obtain ⟨rfl, rfl⟩ := Page.of?_eq_some_iff.1 h
    exact ⟨b.window_paginate page, page.toNat_offset⟩
  · refine ⟨b.paginate ⟨size, 1, ?_⟩, ?_, ?_⟩
    · rwa [hone, Nat.zero_mul]
    · rw [Page.of?, dif_pos (by rwa [hzero, Nat.zero_mul])]
      rfl
    · rw [Page.of?, dif_pos (by rwa [hone, Nat.zero_mul])]
      rfl
  · obtain ⟨rfl, rfl⟩ := Page.of?_eq_some_iff.1 hfirst
    obtain ⟨hsame, rfl⟩ := Page.of?_eq_some_iff.1 hsecond
    exact b.disjoint_places hsame hp hlt
  · obtain ⟨rfl, rfl⟩ := Page.of?_eq_some_iff.1 hpage
    obtain ⟨hsame, hnext⟩ := Page.of?_eq_some_iff.1 hnext
    exact Page.toNat_offset_next hsame hnumber hlt hnext

/-- Pages of four rows: the one with 2 to the power of 64 rows before it does not exist, though the one
    before it does. -/
theorem pages_part_rows_iff_overrun :
    ∃ size last : UInt64, size = 4 ∧ last = 4611686018427387905
      ∧ (last.toNat - 1) * size.toNat = UInt64.size
      ∧ (Page.of? size (last - 1)).isSome = true
      ∧ (Page.of? size last).map (Builder.new .postgres "t").paginate = none
      ∧ ¬∀ number ≤ last, (Page.of? size number).isSome = true := by
  obtain ⟨hnone, -, -, -, -, hall, -⟩ :=
    pages_part_rows_iff (Builder.new .postgres "t") 4 4611686018427387905
  refine ⟨4, 4611686018427387905, rfl, rfl, by decide, by decide, ?_, fun h => ?_⟩
  · rw [(hnone _).2 (by decide), Option.map_none]
  · exact hall.1 h (by rw [Page.Overruns]; decide)

end QueryKit
