import QueryKit.Proofs.Filter.Basic
import QueryKit.Proofs.Sql.Scanning

set_option autoImplicit false

/-! # Values of filters

A filter binds the values of its single conditions. Those inside of groups are bound through the
markers of the group's text, so a group whose text hides markers between quotes loses values
(`Clause.KeepsMarkers`). A group does not, if none of its conditions leaves a quote open. -/

namespace QueryKit

theorem flatMap_eq_iff_of_sublist {α β : Type} (xs : List α) {f g : α → List β}
    (h : ∀ x ∈ xs, (f x).Sublist (g x)) :
    xs.flatMap f = xs.flatMap g ↔ ∀ x ∈ xs, f x = g x := by
  induction xs with
  | nil => simp
  | cons x rest ih =>
      have hx : (f x).Sublist (g x) := h x (List.mem_cons_self ..)
      have hrest : ∀ y ∈ rest, (f y).Sublist (g y) := fun y hy => h y (List.mem_cons_of_mem _ hy)
      rw [List.flatMap_cons, List.flatMap_cons, List.forall_mem_cons, ← ih hrest]
      constructor
      · intro heq
        -- neither part can be shorter, as both together are not
        have hle := (List.Sublist.flatMap_right rest hrest).length_le
        have hlength := congrArg List.length heq
        rw [List.length_append, List.length_append] at hlength
        have hfirst : f x = g x := hx.eq_of_length_le (by omega)
        rw [hfirst] at heq
        exact ⟨hfirst, List.append_cancel_left heq⟩
      · rintro ⟨hfirst, htail⟩
        rw [hfirst, htail]

namespace Filter

/-- The values of the single conditions. -/
def values (f : Filter) : List Value :=
  f.conditions.flatMap Condition.values

end Filter

namespace Clause

/-- The values of the single conditions. -/
def values (c : Clause) : List Value :=
  c.conditions.flatMap Condition.values

/-- The values that are bound for the clause, its groups written in the first dialect and the
    statement in the second. -/
def bound (d d' : Dialect) (c : Clause) : List Value :=
  (Sql.conditionTemplate d' (c.toWhere d).condition).values

/-- Every group in the clause has as many markers in its text as its conditions have values. -/
inductive KeepsMarkers (d : Dialect) : Clause → Prop
  | leaf (k : Connective) (c : Condition) : KeepsMarkers d (.leaf k c)
  | group (k : Connective) (members : Filter) : (∀ m ∈ members, KeepsMarkers d m) →
    members.values.length ≤ Sql.countMarkers (Sql.fragment d (members.toWheres d)).sql →
    KeepsMarkers d (.group k members)

@[simp] theorem values_leaf (k : Connective) (c : Condition) : values (.leaf k c) = c.values := by
  simp [values]

@[simp] theorem values_group (k : Connective) (members : Filter) :
    values (.group k members) = members.values := by
  rw [values, conditions_group, Filter.values]

end Clause

namespace Filter

theorem values_eq_flatMap (f : Filter) : f.values = f.flatMap Clause.values := by
  rw [values, conditions, List.flatMap_assoc]
  rfl

@[simp] theorem values_append (f g : Filter) : values (f ++ g) = f.values ++ g.values := by
  rw [values, conditions_append, List.flatMap_append]
  rfl

theorem values_wheresTemplate (d d' : Dialect) (f : Filter) :
    (Sql.wheresTemplate d' (f.toWheres d)).values = f.flatMap (Clause.bound d d') := by
  rw [Sql.values_wheresTemplate, toWheres, List.flatMap_map]
  rfl

/-- The conditions are checked ones. -/
def Valid (f : Filter) : Prop :=
  ∀ x ∈ f.conditions, x.Valid

theorem Valid.of_mem {f : Filter} (h : f.Valid) {c : Clause} (hc : c ∈ f) :
    ∀ x ∈ c.conditions, x.Valid :=
  fun x hx => h x (mem_conditions hc hx)

end Filter

namespace Clause

variable (d d' : Dialect)

theorem bound_leaf (k : Connective) {c : Condition} (hvalid : c.Valid) :
    bound d d' (.leaf k c) = c.values := by
  rw [bound, toWhere_leaf]
  cases c with
  | compare column op value => rfl
  | oneOf column values negated =>
      simp [Sql.conditionTemplate, Sql.Template.values_join, List.flatMap_map, Condition.values]
  | isNull column negated => rfl
  | between column low high negated => rfl
  | raw sql values =>
      have hcount : Sql.countMarkers sql = values.length := hvalid
      rw [Sql.conditionTemplate, Sql.Template.values_fill, hcount, List.take_length]
      rfl
  | nested fragment values => exact hvalid.elim
  | compareColumns left op right => rfl

theorem bound_group (k : Connective) (members : Filter) :
    bound d d' (.group k members)
      = (members.flatMap (bound d d)).take
          (Sql.countMarkers (Sql.fragment d (members.toWheres d)).sql) := by
  have hvalues : (Sql.fragment d (members.toWheres d)).bindings = members.flatMap (bound d d) := by
    rw [Sql.fragment_eq]
    exact Filter.values_wheresTemplate d d members
  rw [bound, toWhere_group, Sql.group, hvalues]
  simp [Sql.conditionTemplate, Sql.Template.values_fill]

/-- No more values are bound than the conditions have. -/
theorem bound_sublist {c : Clause} (hvalid : ∀ x ∈ c.conditions, x.Valid) :
    (c.bound d d').Sublist c.values := by
  induction c generalizing d' with
  | leaf k x =>
      rw [bound_leaf d d' k (hvalid x (List.mem_singleton_self x)), values_leaf]
  | group k members ih =>
      rw [conditions_group] at hvalid
      rw [bound_group, values_group, Filter.values_eq_flatMap]
      refine (List.take_sublist _ _).trans (List.Sublist.flatMap_right members fun m hm => ?_)
      exact ih m hm d (Filter.Valid.of_mem hvalid hm)

theorem flatMap_bound_eq_iff {f : Filter} (hvalid : f.Valid) :
    f.flatMap (bound d d') = f.values ↔ ∀ m ∈ f, m.bound d d' = m.values := by
  rw [Filter.values_eq_flatMap]
  exact flatMap_eq_iff_of_sublist f fun m hm => bound_sublist d d' (hvalid.of_mem hm)

/-- **Groups that keep their markers, and only they, bind the values of their conditions.** -/
theorem bound_eq_values_iff {c : Clause} (hvalid : ∀ x ∈ c.conditions, x.Valid) :
    c.bound d d' = c.values ↔ c.KeepsMarkers d := by
  induction c generalizing d' with
  | leaf k x =>
      rw [bound_leaf d d' k (hvalid x (List.mem_singleton_self x)), values_leaf]
      exact ⟨fun _ => .leaf k x, fun _ => rfl⟩
  | group k members ih =>
      rw [conditions_group] at hvalid
      have hmembers : members.flatMap (bound d d) = Filter.values members
          ↔ ∀ m ∈ members, m.KeepsMarkers d := by
        rw [flatMap_bound_eq_iff d d hvalid]
        exact forall₂_congr fun m hm => ih m hm d (Filter.Valid.of_mem hvalid hm)
      have hsublist : (members.flatMap (bound d d)).Sublist (Filter.values members) := by
        rw [Filter.values_eq_flatMap]
        exact List.Sublist.flatMap_right members fun m hm =>
          bound_sublist d d (Filter.Valid.of_mem hvalid hm)
      rw [bound_group, values_group]
      constructor
      · intro heq
        have hlength := congrArg List.length heq
        rw [List.length_take] at hlength
        -- a prefix of fewer values cannot be all of them
        have hall := hsublist.eq_of_length_le (by omega)
        exact .group k members (hmembers.1 hall) (by omega)
      · intro hkeeps
        cases hkeeps with
        | group _ _ hall hcount => rw [hmembers.2 hall, List.take_of_length_le hcount]

/-- The values that are collected for a clause are those of its conditions, if those that are bound
    for it are. -/
theorem values_toWhere_of_keeps {c : Clause} (hvalid : ∀ x ∈ c.conditions, x.Valid)
    (h : c.KeepsMarkers d) : (c.toWhere d).values = c.values := by
  cases h with
  | leaf k x =>
      rw [toWhere_leaf, values_leaf]
      rfl
  | group k members hmembers hcount =>
      rw [conditions_group] at hvalid
      have hbound : members.flatMap (bound d d) = Filter.values members :=
        (flatMap_bound_eq_iff d d hvalid).2 fun m hm =>
          (bound_eq_values_iff d d (Filter.Valid.of_mem hvalid hm)).2 (hmembers m hm)
      rw [toWhere_group, values_group, ← hbound, Sql.group_eq]
      exact Filter.values_wheresTemplate d d members

end Clause

theorem Filter.values_toWheres_of_keeps (d : Dialect) {f : Filter} (hvalid : f.Valid)
    (h : ∀ c ∈ f, c.KeepsMarkers d) : (f.toWheres d).flatMap Where.values = f.values := by
  rw [toWheres, List.flatMap_map, values_eq_flatMap]
  exact List.flatMap_congr fun c hc => Clause.values_toWhere_of_keeps d (hvalid.of_mem hc) (h c hc)

/-! ## Closed conditions -/

/-- A clause whose conditions close their quotes is clean as text, and keeps its markers. -/
theorem Clause.clean_of_closed (d : Dialect) {c : Clause} (hvalid : ∀ x ∈ c.conditions, x.Valid)
    (hclosed : ∀ x ∈ c.conditions, x.Closed d) :
    (Sql.conditionTemplate d (c.toWhere d).condition).Clean ∧ c.KeepsMarkers d := by
  induction c with
  | leaf k x =>
      have hx := List.mem_singleton_self x
      exact ⟨Sql.clean_conditionTemplate d (hvalid x hx) (hclosed x hx), .leaf k x⟩
  | group k members ih =>
      rw [conditions_group] at hvalid hclosed
      have hmembers : ∀ m ∈ members, (Sql.conditionTemplate d (m.toWhere d).condition).Clean
          ∧ m.KeepsMarkers d := fun m hm =>
        ih m hm (Filter.Valid.of_mem hvalid hm)
          fun x hx => hclosed x (Filter.mem_conditions hm hx)
      have hclean : (Sql.wheresTemplate d (Filter.toWheres d members)).Clean := by
        apply Sql.clean_connected
        intro p hp
        rw [Filter.toWheres, List.map_map] at hp
        obtain ⟨m, hm, rfl⟩ := List.mem_map.1 hp
        exact (hmembers m hm).1
      have hvalues : (Sql.wheresTemplate d (Filter.toWheres d members)).values
          = Filter.values members := by
        rw [Filter.values_wheresTemplate, flatMap_bound_eq_iff d d hvalid]
        exact fun m hm => (bound_eq_values_iff d d (Filter.Valid.of_mem hvalid hm)).2 (hmembers m hm).2
      refine ⟨?_, .group k members (fun m hm => (hmembers m hm).2) ?_⟩
      · rw [toWhere_group, Sql.group_eq]
        exact Sql.clean_nested d hclean.closed _
      · rw [← hvalues, Sql.fragment_eq]
        exact Sql.Template.length_values_le none _ hclean.exposed

end QueryKit
