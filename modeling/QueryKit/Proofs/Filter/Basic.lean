import Mathlib
import QueryKit.Sql.Condition

set_option autoImplicit false

/-! # Filters

A filter is a list of conditions in which groups are still lists. It is what the conditions of a query
mean before groups are written as text: `Filter.toWheres` writes them, `Filter.conditions` lists the
single conditions, and `Filter.holds` is the truth of the filter when each of them has a truth. -/

namespace QueryKit

/-! ## Truth of a list of conditions -/

/-- The truth of a list behind a run of conditions whose truth is `current`. AND continues the run and
    OR ends it, so AND binds tighter. -/
def Connective.truthFrom (current : Bool) : List (Connective × Bool) → Bool
  | [] => current
  | (.and, b) :: rest => truthFrom (current && b) rest
  | (.or, b) :: rest => current || truthFrom b rest

/-- The truth of a list of conditions. The first connective does not count, and the empty list is
    true. -/
def Connective.truth : List (Connective × Bool) → Bool
  | [] => true
  | (_, b) :: rest => truthFrom b rest

namespace Connective

theorem truthFrom_of_forall_and (b : Bool) (xs : List (Connective × Bool))
    (h : ∀ p ∈ xs, p.1 = .and) : truthFrom b xs = (b && xs.all (·.2)) := by
  induction xs generalizing b with
  | nil => simp [truthFrom]
  | cons p rest ih =>
      obtain ⟨k, x⟩ := p
      have hk : k = .and := h (k, x) (List.mem_cons_self ..)
      subst hk
      rw [truthFrom, ih _ fun p hp => h p (List.mem_cons_of_mem _ hp), List.all_cons, Bool.and_assoc]

/-- Without OR behind the first condition, a list is true if all of its conditions are. -/
theorem truth_of_forall_and (xs : List (Connective × Bool)) (h : ∀ p ∈ xs.tail, p.1 = .and) :
    truth xs = xs.all (·.2) := by
  cases xs with
  | nil => rfl
  | cons p rest => rw [truth, truthFrom_of_forall_and _ rest h, List.all_cons]

theorem truthFrom_append_or (b y : Bool) (xs ys : List (Connective × Bool)) :
    truthFrom b (xs ++ (.or, y) :: ys) = (truthFrom b xs || truthFrom y ys) := by
  induction xs generalizing b with
  | nil => rfl
  | cons p rest ih =>
      obtain ⟨k, x⟩ := p
      cases k with
      | and => rw [List.cons_append, truthFrom, truthFrom, ih]
      | or => rw [List.cons_append, truthFrom, truthFrom, ih, Bool.or_assoc]

/-- An OR splits a list into alternatives. -/
theorem truth_append_or (y : Bool) (xs ys : List (Connective × Bool)) (h : xs ≠ []) :
    truth (xs ++ (.or, y) :: ys) = (truth xs || truth ((.or, y) :: ys)) := by
  cases xs with
  | nil => exact absurd rfl h
  | cons p rest =>
      obtain ⟨k, x⟩ := p
      rw [List.cons_append, truth, truth, truth, truthFrom_append_or]

/-- Without OR, entries go on with the truth of the run in front of them. -/
theorem truthFrom_append_of_and (b : Bool) {xs : List (Connective × Bool)} (h : ∀ p ∈ xs, p.1 = .and)
    (ys : List (Connective × Bool)) : truthFrom b (xs ++ ys) = truthFrom (truthFrom b xs) ys := by
  induction xs generalizing b with
  | nil => rfl
  | cons p rest ih =>
      obtain ⟨k, x⟩ := p
      rw [List.forall_mem_cons] at h
      obtain ⟨rfl, hrest⟩ := h
      rw [List.cons_append, truthFrom, truthFrom, ih _ hrest]

/-- Entries that begin with an OR are an alternative to what stands in front of them. -/
theorem truthFrom_append_of_or (b : Bool) (xs : List (Connective × Bool))
    {ys : List (Connective × Bool)} (h : ∀ p ∈ ys.head?, p.1 = .or) :
    truthFrom b (xs ++ ys) = (truthFrom b xs || truthFrom false ys) := by
  cases ys with
  | nil => simp [truthFrom]
  | cons p rest =>
      obtain ⟨k, y⟩ := p
      have hk : k = .or := h _ rfl
      subst hk
      rw [truthFrom_append_or, truthFrom, Bool.false_or]

theorem truthFrom_true_of_forall (xs : List (Connective × Bool)) (h : ∀ p ∈ xs, p.2 = true) :
    truthFrom true xs = true := by
  induction xs with
  | nil => rfl
  | cons p rest ih =>
      obtain ⟨k, x⟩ := p
      have hx : x = true := h (k, x) (List.mem_cons_self ..)
      subst hx
      cases k with
      | and => exact ih fun p hp => h p (List.mem_cons_of_mem _ hp)
      | or => rfl

theorem truth_true_of_forall (xs : List (Connective × Bool)) (h : ∀ p ∈ xs, p.2 = true) :
    truth xs = true := by
  cases xs with
  | nil => rfl
  | cons p rest =>
      obtain ⟨k, x⟩ := p
      have hx : x = true := h (k, x) (List.mem_cons_self ..)
      subst hx
      exact truthFrom_true_of_forall rest fun p hp => h p (List.mem_cons_of_mem _ hp)

theorem truthFrom_false_of_forall (xs : List (Connective × Bool)) (h : ∀ p ∈ xs, p.2 = false) :
    truthFrom false xs = false := by
  induction xs with
  | nil => rfl
  | cons p rest ih =>
      obtain ⟨k, x⟩ := p
      have hx : x = false := h (k, x) (List.mem_cons_self ..)
      subst hx
      cases k with
      | and => exact ih fun p hp => h p (List.mem_cons_of_mem _ hp)
      | or => exact ih fun p hp => h p (List.mem_cons_of_mem _ hp)

theorem truth_false_of_forall (xs : List (Connective × Bool)) (hne : xs ≠ [])
    (h : ∀ p ∈ xs, p.2 = false) : truth xs = false := by
  cases xs with
  | nil => exact absurd rfl hne
  | cons p rest =>
      obtain ⟨k, x⟩ := p
      have hx : x = false := h (k, x) (List.mem_cons_self ..)
      subst hx
      exact truthFrom_false_of_forall rest fun p hp => h p (List.mem_cons_of_mem _ hp)

section Mono

variable {α : Type} (k : α → Connective) {p r : α → Bool}

theorem truthFrom_mono {xs : List α} (h : ∀ x ∈ xs, p x = true → r x = true) {a b : Bool}
    (hab : a = true → b = true) (ha : truthFrom a (xs.map fun x => (k x, p x)) = true) :
    truthFrom b (xs.map fun x => (k x, r x)) = true := by
  induction xs generalizing a b with
  | nil => exact hab ha
  | cons x rest ih =>
      rw [List.forall_mem_cons] at h
      rw [List.map_cons] at ha ⊢
      cases hk : k x with
      | and =>
        rw [hk, truthFrom] at ha
        rw [truthFrom]
        refine ih h.2 (fun hax => ?_) ha
        rw [Bool.and_eq_true] at hax ⊢
        exact ⟨hab hax.1, h.1 hax.2⟩
      | or =>
        rw [hk, truthFrom, Bool.or_eq_true] at ha
        rw [truthFrom, Bool.or_eq_true]
        exact ha.imp hab fun hrest => ih h.2 h.1 hrest

/-- A list stays true if conditions that are false become true. -/
theorem truth_mono {xs : List α} (h : ∀ x ∈ xs, p x = true → r x = true)
    (hp : truth (xs.map fun x => (k x, p x)) = true) : truth (xs.map fun x => (k x, r x)) = true := by
  cases xs with
  | nil => rfl
  | cons x rest =>
      rw [List.forall_mem_cons] at h
      exact truthFrom_mono k h.2 h.1 hp

end Mono

end Connective

/-! ## Clauses -/

/-- A condition in a list of conditions, or a group of them. -/
inductive Clause
  | leaf (connective : Connective) (condition : Condition)
  | group (connective : Connective) (members : List Clause)

/-- A list of conditions with its groups kept as lists. -/
abbrev Filter := List Clause

namespace Clause

@[induction_eliminator]
theorem induction {motive : Clause → Prop} (leaf : ∀ k c, motive (.leaf k c))
    (group : ∀ k members, (∀ m ∈ members, motive m) → motive (.group k members))
    (c : Clause) : motive c :=
  match c with
  | .leaf k c => leaf k c
  | .group k members => group k members fun m _ => induction leaf group m
termination_by sizeOf c
decreasing_by
  rename_i hm
  have hlt : sizeOf m < sizeOf members := List.sizeOf_lt_of_mem hm
  simp only [Clause.group.sizeOf_spec]
  omega

section Fold

variable {α : Type} (leaf : Connective → Condition → α) (group : Connective → List α → α)

mutual

/-- What the parts of a clause make of it, from the single conditions up. -/
def fold : Clause → α
  | .leaf k c => leaf k c
  | .group k members => group k (foldAll members)

/-- What the parts of every clause make of it. -/
def foldAll : List Clause → List α
  | [] => []
  | c :: rest => fold c :: foldAll rest

end

theorem foldAll_eq_map (members : List Clause) :
    foldAll leaf group members = members.map (fold leaf group) := by
  induction members with
  | nil => rfl
  | cons c rest ih => rw [foldAll, ih, List.map_cons]

theorem fold_group (k : Connective) (members : List Clause) :
    fold leaf group (.group k members) = group k (members.map (fold leaf group)) := by
  rw [fold, foldAll_eq_map]

end Fold

/-- How a clause combines with those before it. -/
def connective : Clause → Connective
  | .leaf k _ => k
  | .group k _ => k

/-- The clause with its groups written as text. -/
def toWhere (d : Dialect) : Clause → Where :=
  fold (fun k c => ⟨k, c⟩) fun k wheres => ⟨k, Sql.group d wheres⟩

/-- The single conditions of a clause in order. -/
def conditions : Clause → List Condition :=
  fold (fun _ c => [c]) fun _ parts => parts.flatten

/-- The truth of a clause, with its connective. -/
def truth (ρ : Condition → Bool) : Clause → Connective × Bool :=
  fold (fun k c => (k, ρ c)) fun k truths => (k, Connective.truth truths)

end Clause

namespace Filter

/-- The conditions of a query that the filter stands for. -/
def toWheres (d : Dialect) (f : Filter) : List Where :=
  f.map (Clause.toWhere d)

/-- The single conditions in order. -/
def conditions (f : Filter) : List Condition :=
  f.flatMap Clause.conditions

/-- The truth of a filter when every single condition has the truth that `ρ` gives it. -/
def holds (ρ : Condition → Bool) (f : Filter) : Bool :=
  Connective.truth (f.map (Clause.truth ρ))

/-- Some clause is joined by OR. -/
def hasOr (f : Filter) : Bool :=
  f.any fun c => c.connective == .or

end Filter

namespace Clause

@[simp] theorem toWhere_leaf (d : Dialect) (k : Connective) (c : Condition) :
    toWhere d (.leaf k c) = ⟨k, c⟩ := rfl

@[simp] theorem toWhere_group (d : Dialect) (k : Connective) (members : Filter) :
    toWhere d (.group k members) = ⟨k, Sql.group d (members.toWheres d)⟩ := by
  rw [toWhere, fold_group]
  rfl

@[simp] theorem conditions_leaf (k : Connective) (c : Condition) :
    conditions (.leaf k c) = [c] := rfl

@[simp] theorem conditions_group (k : Connective) (members : Filter) :
    conditions (.group k members) = Filter.conditions members := by
  rw [conditions, fold_group, Filter.conditions, List.flatMap_def]
  rfl

@[simp] theorem truth_leaf (ρ : Condition → Bool) (k : Connective) (c : Condition) :
    truth ρ (.leaf k c) = (k, ρ c) := rfl

@[simp] theorem truth_group (ρ : Condition → Bool) (k : Connective) (members : Filter) :
    truth ρ (.group k members) = (k, members.holds ρ) := by
  rw [truth, fold_group]
  rfl

@[simp] theorem truth_fst (ρ : Condition → Bool) (c : Clause) :
    (c.truth ρ).1 = c.connective := by
  cases c with
  | leaf k c => rfl
  | group k members => rw [truth_group, connective]

@[simp] theorem toWhere_connective (d : Dialect) (c : Clause) :
    (c.toWhere d).connective = c.connective := by
  cases c with
  | leaf k c => rfl
  | group k members => rw [toWhere_group, connective]

end Clause

namespace Filter

variable (d : Dialect) (ρ : Condition → Bool)

@[simp] theorem toWheres_nil : toWheres d [] = [] := rfl

@[simp] theorem toWheres_append (f g : Filter) :
    toWheres d (f ++ g) = f.toWheres d ++ g.toWheres d :=
  List.map_append

@[simp] theorem length_toWheres (f : Filter) : (f.toWheres d).length = f.length :=
  List.length_map _

@[simp] theorem conditions_nil : conditions [] = [] := rfl

@[simp] theorem conditions_cons (c : Clause) (f : Filter) :
    conditions (c :: f) = c.conditions ++ conditions f := rfl

@[simp] theorem conditions_append (f g : Filter) :
    conditions (f ++ g) = f.conditions ++ g.conditions :=
  List.flatMap_append

theorem mem_conditions {f : Filter} {c : Clause} {x : Condition} (hc : c ∈ f)
    (hx : x ∈ c.conditions) : x ∈ f.conditions :=
  List.mem_flatMap.2 ⟨c, hc, hx⟩

@[simp] theorem holds_nil : holds ρ [] = true := rfl

@[simp] theorem holds_singleton (c : Clause) : holds ρ [c] = (c.truth ρ).2 := by
  rw [holds, List.map_cons, List.map_nil]
  obtain ⟨k, b⟩ := c.truth ρ
  rfl

/-- Without OR behind its first clause, a filter is true if all of its clauses are. -/
theorem holds_of_forall_and (f : Filter) (h : ∀ c ∈ f.tail, c.connective = .and) :
    f.holds ρ = f.all fun c => (c.truth ρ).2 := by
  rw [holds, Connective.truth_of_forall_and, List.all_map]
  · rfl
  · intro p hp
    rw [← List.map_tail] at hp
    obtain ⟨c, hc, rfl⟩ := List.mem_map.1 hp
    rw [Clause.truth_fst]
    exact h c hc

theorem hasOr_toWheres (f : Filter) :
    ((f.toWheres d).any fun w => w.connective == .or) = f.hasOr := by
  rw [toWheres, List.any_map, hasOr]
  congr 1
  funext c
  simp

theorem connective_of_hasOr_eq_false (f : Filter) (h : f.hasOr = false) :
    ∀ c ∈ f, c.connective = .and := by
  intro c hc
  have hor := (List.any_eq_false.1 h) c hc
  cases hk : c.connective with
  | and => rfl
  | or => simp [hk] at hor

/-! ## Two filters side by side -/

/-- Both filters as one list of conditions: one list after the other, or two groups if there are both
    and OR could mix them. -/
def isolate (own others : Filter) : Filter :=
  if own.isEmpty || others.isEmpty || !(own ++ others).hasOr then own ++ others
  else [.group .and own, .group .and others]

theorem conditions_isolate (own others : Filter) :
    (isolate own others).conditions = own.conditions ++ others.conditions := by
  unfold isolate
  split
  · exact conditions_append own others
  · simp

/-- **Isolation.** Put side by side, two filters are true together exactly if each of them is true on
    its own. -/
theorem holds_isolate (own others : Filter) :
    (isolate own others).holds ρ = (own.holds ρ && others.holds ρ) := by
  unfold isolate
  split
  · next h =>
      simp only [Bool.or_eq_true, List.isEmpty_iff, Bool.not_eq_true'] at h
      -- one side is empty, or no OR is anywhere
      obtain (rfl | rfl) | hor := h
      · simp
      · simp
      · have hand := connective_of_hasOr_eq_false _ hor
        have htail : ∀ {f : Filter}, (∀ c ∈ f, c ∈ own ++ others) →
            ∀ c ∈ f.tail, c.connective = .and :=
          fun hf c hc => hand c (hf c (List.mem_of_mem_tail hc))
        rw [holds_of_forall_and ρ _ (htail fun _ => id),
          holds_of_forall_and ρ own (htail fun _ => List.mem_append_left _),
          holds_of_forall_and ρ others (htail fun _ => List.mem_append_right _), List.all_append]
  · rw [holds, List.map_cons, List.map_cons, List.map_nil, Clause.truth_group, Clause.truth_group]
    rfl

end Filter

end QueryKit
