import QueryKit.Proofs.Filter.Basic

set_option autoImplicit false

/-! # Filters one after another

Filters that stand one after another in one list narrow each other only as long as no OR stands
behind the first condition, or if there is nothing to mix (`Filter.Unmixed`). Otherwise the OR makes
alternatives of what stands on its two sides, and one of them leaves a filter out. -/

namespace QueryKit

/-! ## Uniform truth -/

/-- No group in the clause is empty. -/
inductive Clause.Full : Clause → Prop
  | leaf (k : Connective) (c : Condition) : Full (.leaf k c)
  | group (k : Connective) (members : Filter) : members ≠ [] → (∀ m ∈ members, Full m) →
    Full (.group k members)

theorem Filter.holds_of_forall (ρ : Condition → Bool) (f : Filter)
    (h : ∀ c ∈ f, (c.truth ρ).2 = true) : f.holds ρ = true := by
  apply Connective.truth_true_of_forall
  intro p hp
  obtain ⟨c, hc, rfl⟩ := List.mem_map.1 hp
  exact h c hc

theorem Filter.not_holds_of_forall (ρ : Condition → Bool) (f : Filter) (hne : f ≠ [])
    (h : ∀ c ∈ f, (c.truth ρ).2 = false) : f.holds ρ = false := by
  apply Connective.truth_false_of_forall
  · exact fun hnil => hne (List.map_eq_nil_iff.1 hnil)
  · intro p hp
    obtain ⟨c, hc, rfl⟩ := List.mem_map.1 hp
    exact h c hc

theorem Clause.truth_of_forall (ρ : Condition → Bool) (c : Clause)
    (h : ∀ x ∈ c.conditions, ρ x = true) : (c.truth ρ).2 = true := by
  induction c with
  | leaf k x => exact h x (List.mem_singleton_self x)
  | group k members ih =>
      rw [conditions_group] at h
      rw [truth_group]
      apply Filter.holds_of_forall
      intro m hm
      exact ih m hm fun x hx => h x (Filter.mem_conditions hm hx)

theorem Clause.Full.not_truth_of_forall {c : Clause} (hc : c.Full) (ρ : Condition → Bool)
    (h : ∀ x ∈ c.conditions, ρ x = false) : (c.truth ρ).2 = false := by
  induction hc with
  | leaf k x => exact h x (List.mem_singleton_self x)
  | group k members hne _ ih =>
      rw [conditions_group] at h
      rw [truth_group]
      apply Filter.not_holds_of_forall ρ members hne
      intro m hm
      exact ih m hm fun x hx => h x (Filter.mem_conditions hm hx)

namespace Filter

/-- A filter is true where all of its conditions are. -/
theorem holds_of_conditions (ρ : Condition → Bool) (f : Filter)
    (h : ∀ x ∈ f.conditions, ρ x = true) : f.holds ρ = true :=
  holds_of_forall ρ f fun c hc => c.truth_of_forall ρ fun x hx => h x (mem_conditions hc hx)

/-- A filter that is not empty is false where all of its conditions are. -/
theorem not_holds_of_conditions (ρ : Condition → Bool) (f : Filter) (hne : f ≠ [])
    (hfull : ∀ c ∈ f, c.Full) (h : ∀ x ∈ f.conditions, ρ x = false) : f.holds ρ = false :=
  not_holds_of_forall ρ f hne fun c hc =>
    (hfull c hc).not_truth_of_forall ρ fun x hx => h x (mem_conditions hc hx)

/-- An OR splits a filter into alternatives. -/
theorem holds_append_or (ρ : Condition → Bool) (f : Filter) (c : Clause) (g : Filter) (hf : f ≠ [])
    (hc : c.connective = .or) : holds ρ (f ++ c :: g) = (f.holds ρ || holds ρ (c :: g)) := by
  rw [holds, holds, holds, List.map_append, List.map_cons]
  have hor : c.truth ρ = (.or, (c.truth ρ).2) := by
    rw [← hc, ← Clause.truth_fst ρ c]
  rw [hor]
  exact Connective.truth_append_or _ _ _ fun hnil => hf (List.map_eq_nil_iff.1 hnil)

/-! ## Mixing -/

/-- Put one after another, the filters cannot be mixed by OR: at most one of them has conditions, or
    no condition behind the first of all is joined by OR. -/
def Unmixed (fs : List Filter) : Prop :=
  (fs.filter fun f => !f.isEmpty).length ≤ 1 ∨ ∀ c ∈ fs.flatten.tail, c.connective = .and

/-- Filters that cannot be mixed are all true where they are true one after another. -/
theorem Unmixed.holds_each {fs : List Filter} (h : Unmixed fs) (ρ : Condition → Bool)
    (hall : holds ρ fs.flatten = true) : ∀ f ∈ fs, f.holds ρ = true := by
  intro f hf
  rcases h with hone | hand
  · by_cases hempty : f = []
    · rw [hempty]
      rfl
    · -- the only filter with conditions is the whole list
      have hmem : f ∈ fs.filter fun f => !f.isEmpty := by
        rw [List.mem_filter]
        exact ⟨hf, by simpa using hempty⟩
      have hsingle : (fs.filter fun f => !f.isEmpty) = [f] := by
        obtain ⟨g, hg⟩ := List.length_eq_one_iff.1
          (Nat.le_antisymm hone (List.length_pos_of_mem hmem))
        rw [hg] at hmem ⊢
        rw [List.mem_singleton.1 hmem]
      have hflat : fs.flatten = f := by
        rw [← List.flatten_filter_not_isEmpty, hsingle, List.flatten_singleton]
      rwa [hflat] at hall
  · rw [holds_of_forall_and ρ _ hand, List.all_eq_true] at hall
    exact holds_of_forall ρ f fun c hc => hall c (List.mem_flatten.2 ⟨f, hf, hc⟩)

open Classical in
/-- True outside of a list of conditions. -/
noncomputable def outside (xs : List Condition) (x : Condition) : Bool :=
  decide (x ∉ xs)

theorem outside_of_mem {xs : List Condition} {x : Condition} (h : x ∈ xs) : outside xs x = false := by
  simp [outside, h]

theorem outside_of_notMem {xs : List Condition} {x : Condition} (h : x ∉ xs) :
    outside xs x = true := by
  simp [outside, h]

theorem holds_outside {xs : List Condition} {f : Filter} (h : ∀ x ∈ f.conditions, x ∉ xs) :
    f.holds (outside xs) = true :=
  holds_of_conditions _ f fun x hx => outside_of_notMem (h x hx)

/-- A filter stays true where only a condition is false that it does not have. -/
theorem holds_outside_singleton {x : Condition} {f : Filter} (h : x ∉ f.conditions) :
    f.holds (outside [x]) = true := by
  apply holds_outside
  intro y hy hyx
  rw [List.mem_singleton.1 hyx] at hy
  exact h hy

theorem flatten_of_not_unmixed {fs : List Filter} (h : ¬Unmixed fs) :
    ∃ (f g : Filter) (rest : Filter), f ∈ fs ∧ g ∈ fs ∧ f ≠ [] ∧ g ≠ []
      ∧ fs.flatten = f ++ (g ++ rest) := by
  have hmem : ∀ f ∈ fs.filter fun f => !f.isEmpty, f ∈ fs ∧ f ≠ [] := by
    intro f hf
    simpa using List.mem_filter.1 hf
  rw [← List.flatten_filter_not_isEmpty]
  match hfilter : fs.filter fun f => !f.isEmpty with
  | [] => exact absurd (Or.inl (by simp [hfilter])) h
  | [f] => exact absurd (Or.inl (by simp [hfilter])) h
  | f :: g :: rest =>
      rw [hfilter] at hmem ⊢
      obtain ⟨hf, hfne⟩ := hmem f (by simp)
      obtain ⟨hg, hgne⟩ := hmem g (by simp)
      exact ⟨f, g, rest.flatten, hf, hg, hfne, hgne, rfl⟩

/-- An OR behind the first condition has conditions before it. -/
theorem exists_split_of_or {f : Filter} (h : ¬∀ c ∈ f.tail, c.connective = .and) :
    ∃ (before : Filter) (c : Clause) (behind : Filter), before ≠ [] ∧ c.connective = .or
      ∧ f = before ++ c :: behind := by
  obtain ⟨c, hc, hk⟩ : ∃ c ∈ f.tail, c.connective = .or := by
    by_contra hnone
    refine h fun c hc => ?_
    cases hk : c.connective with
    | and => rfl
    | or => exact absurd ⟨c, hc, hk⟩ hnone
  cases f with
  | nil => exact absurd hc List.not_mem_nil
  | cons first rest =>
      rw [List.tail_cons] at hc
      obtain ⟨s, t, rfl⟩ := List.append_of_mem hc
      exact ⟨first :: s, c, t, List.cons_ne_nil _ _, hk, rfl⟩

/-- **Mixed filters leave one of them out.** If filters without repeated conditions can be mixed, then
    some conditions can be false so that the filters are true one after another, but not all of them
    on their own. -/
theorem exists_holds_not_each {fs : List Filter} (h : ¬Unmixed fs)
    (hfull : ∀ c ∈ fs.flatten, c.Full) (hnodup : (conditions fs.flatten).Nodup) :
    ∃ xs : List Condition, (∀ x ∈ xs, x ∈ conditions fs.flatten)
      ∧ holds (outside xs) fs.flatten = true ∧ ∃ f ∈ fs, f.holds (outside xs) = false := by
  obtain ⟨f, g, rest, hf, hg, hfne, hgne, hfg⟩ := flatten_of_not_unmixed h
  obtain ⟨before, c, behind, hbefore, hc, hsplit⟩ :=
    exists_split_of_or fun hand => h (.inr hand)
  have hdisjoint : ∀ x ∈ conditions before, x ∉ conditions (c :: behind) := by
    rw [hsplit, conditions_append, List.nodup_append'] at hnodup
    exact fun x hx hx' => hnodup.2.2 hx hx'
  -- a part is false where all of its conditions are
  have hout : ∀ (xs : List Condition) (p : Filter), (∀ x ∈ conditions p, x ∈ xs) → p ≠ [] →
      (∀ c ∈ p, c ∈ fs.flatten) → p.holds (outside xs) = false := by
    intro xs p hp hne hmem
    exact not_holds_of_conditions _ p hne (fun c hc => hfull c (hmem c hc))
      fun x hx => outside_of_mem (hp x hx)
  rw [hsplit] at hfg hout ⊢
  simp only [holds_append_or _ before c behind hbefore hc, conditions_append, List.mem_append]
  rcases List.append_eq_append_iff.1 hfg.symm with ⟨w, hw, hw'⟩ | ⟨w, hw, hw'⟩
  · -- the first filter stands before the OR, and is false where all that stands there is
    refine ⟨conditions before, fun x hx => Or.inl hx, ?_, f, hf, ?_⟩
    · have hbehind : holds (outside (conditions before)) (c :: behind) = true :=
        holds_outside fun x hx hx' => hdisjoint x hx' hx
      rw [hbehind, Bool.or_true]
    · subst hw
      rw [conditions_append]
      exact hout _ f (fun x hx => List.mem_append_left _ hx) hfne fun c hc => by simp [hc]
  · -- the second filter stands behind the OR, and is false where all that stands there is
    refine ⟨conditions (c :: behind), fun x hx => Or.inr hx, ?_, g, hg, ?_⟩
    · rw [holds_outside hdisjoint, Bool.true_or]
    · rw [hw'] at hout ⊢
      rw [conditions_append, conditions_append]
      exact hout _ g (fun x hx => List.mem_append_right _ (List.mem_append_left _ hx)) hgne
        fun c hc => by simp [hc]

end Filter

end QueryKit
