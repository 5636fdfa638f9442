import QueryKit.Proofs.Sql.Atoms

set_option autoImplicit false

/-! # Filters read as text

The text of a filter is read as the texts of its conditions, one after another, with a group as what
stands between its parentheses (`Filter.reads`). A raw condition is written without parentheses, so the
parts of its text stand beside the other conditions (`Filter.textTruth_wheresTemplate`). It counts as
one condition as long as no OR in it stands beside an AND outside of it (`Filter.Apart`). -/

namespace QueryKit

namespace Sql

variable {α : Type} (k : α → Connective) (t : α → Template) (ns : α → List Node)

/-- Templates that are connected are read one after another, with the words between them. -/
theorem reads_connected {xs : List α} (h : ∀ x ∈ xs, Reads (t x).symbols (ns x)) :
    Reads (connected (xs.map fun x => (k x, t x))).symbols
      (joinedNodes (xs.map fun x => (k x, ns x))) := by
  induction xs with
  | nil => exact .nil
  | cons x rest ih =>
    rw [List.forall_mem_cons] at h
    obtain ⟨hx, hrest⟩ := h
    cases rest with
    | nil => simpa [connected, joinedNodes] using hx
    | cons y rest =>
      have hconnect := hx.connect (k y) (ih hrest)
      simpa [connected, joinedNodes] using hconnect

end Sql

/-! ## Conditions that can be read -/

namespace Condition

variable {d : Dialect} {c : Condition}

/-- The nodes of a condition. -/
def nodes (d : Dialect) (c : Condition) : List Sql.Node :=
  Sql.nodesOf (Sql.conditionTemplate d c).symbols

/-- The text of a condition, which is not blank, closes its quotes and its parentheses, and no BETWEEN in
    it lacks its AND. -/
structure Readable (d : Dialect) (c : Condition) : Prop where
  neutral : c.Neutral d
  reads : Sql.Reads (Sql.conditionTemplate d c).symbols (c.nodes d)
  nonempty : c.nodes d ≠ []
  settled : Sql.Settled (c.nodes d)

theorem Readable.of_reads {ns : List Sql.Node} (hneutral : c.Neutral d)
    (hreads : Sql.Reads (Sql.conditionTemplate d c).symbols ns) (hne : ns ≠ [])
    (hsettled : Sql.Settled ns) : c.Readable d := by
  have hnodes : c.nodes d = ns := hreads.nodesOf_eq
  subst hnodes
  exact ⟨hneutral, hreads, hne, hsettled⟩

namespace Plain

theorem isOne (h : c.Plain) (d : Dialect) : Sql.IsOne (c.nodes d) := by
  obtain ⟨ns, hns, hone⟩ := h.reads d
  rwa [nodes, hns.nodesOf_eq]

theorem readable (h : c.Plain) (d : Dialect) : c.Readable d := by
  obtain ⟨ns, hns, hone⟩ := h.reads d
  exact .of_reads (h.neutral d) hns (Sql.ne_nil_of_leaf hone.leaf) hone.settled

end Plain

end Condition

/-! ## Clauses -/

namespace Clause

variable (d : Dialect) (ρ : List Sql.Node → Bool)

/-- The nodes of a clause, with its connective. -/
def nodes : Clause → Connective × List Sql.Node :=
  fold (fun k c => (k, c.nodes d)) fun k parts => (k, [.paren (Sql.joinedNodes parts)])

/-- The parts that a clause adds to the text around it, with their truths. A group is a single part. -/
def entries : Clause → List (Connective × Bool) :=
  fold (fun k c => Sql.entries ρ k (c.nodes d)) fun k parts => [(k, Connective.truth parts.flatten)]

/-- Some OR stands at the top of the text of a clause. -/
def opens : Clause → Bool
  | .leaf _ c => Sql.opens (c.nodes d)
  | .group .. => false

@[simp] theorem nodes_leaf (k : Connective) (c : Condition) : nodes d (.leaf k c) = (k, c.nodes d) := rfl

@[simp] theorem nodes_group (k : Connective) (members : Filter) :
    nodes d (.group k members) = (k, [.paren (Sql.joinedNodes (members.map (nodes d)))]) := by
  rw [nodes, fold_group]

@[simp] theorem entries_leaf (k : Connective) (c : Condition) :
    entries d ρ (.leaf k c) = Sql.entries ρ k (c.nodes d) := rfl

@[simp] theorem entries_group (k : Connective) (members : Filter) :
    entries d ρ (.group k members) = [(k, Connective.truth (members.flatMap (entries d ρ)))] := by
  rw [entries, fold_group, List.flatMap_def]

@[simp] theorem nodes_fst (c : Clause) : (c.nodes d).1 = c.connective := by
  cases c with
  | leaf k c => rfl
  | group k members => rw [nodes_group, connective]

theorem nodes_eq (c : Clause) : c.nodes d = (c.connective, (c.nodes d).2) := by
  rw [← nodes_fst d c]

end Clause

/-! ## Reading -/

namespace Filter

variable (d : Dialect)

/-- The nodes of a filter. -/
def nodes (f : Filter) : List Sql.Node :=
  Sql.joinedNodes (f.map (Clause.nodes d))

theorem reads_of_forall {f : Filter}
    (h : ∀ c ∈ f, Sql.Reads (Sql.conditionTemplate d (c.toWhere d).condition).symbols (c.nodes d).2) :
    Sql.Reads (Sql.wheresTemplate d (f.toWheres d)).symbols (f.nodes d) := by
  have hreads := Sql.reads_connected Clause.connective
    (fun c => Sql.conditionTemplate d (c.toWhere d).condition) (fun c => (c.nodes d).2) h
  have hnodes : (f.map fun c => (c.connective, (c.nodes d).2)) = f.map (Clause.nodes d) :=
    List.map_congr_left fun c _ => (c.nodes_eq d).symm
  have hwheres : ((f.toWheres d).map fun w => (w.connective, Sql.conditionTemplate d w.condition))
      = f.map fun c => (c.connective, Sql.conditionTemplate d (c.toWhere d).condition) := by
    simp [toWheres, Function.comp_def]
  rw [hnodes] at hreads
  rwa [Sql.wheresTemplate, hwheres]

end Filter

theorem Clause.reads (d : Dialect) {c : Clause} (hvalid : ∀ x ∈ c.conditions, x.Valid)
    (hreadable : ∀ x ∈ c.conditions, x.Readable d) :
    Sql.Reads (Sql.conditionTemplate d (c.toWhere d).condition).symbols (c.nodes d).2 := by
  induction c with
  | leaf k x => exact (hreadable x (List.mem_singleton_self x)).reads
  | group k members ih =>
    rw [conditions_group] at hvalid hreadable
    have hmembers := Filter.reads_of_forall d fun m hm =>
      ih m hm (fun x hx => hvalid x (Filter.mem_conditions hm hx))
        fun x hx => hreadable x (Filter.mem_conditions hm hx)
    have hscannable := Filter.scannable_wheresTemplate d hvalid fun x hx => (hreadable x hx).neutral
    rw [toWhere_group, nodes_group, Sql.symbols_group d hscannable]
    exact hmembers.paren

/-- **A filter is read as its conditions are**, one after another, with a group between parentheses. -/
theorem Filter.reads (d : Dialect) {f : Filter} (hvalid : f.Valid)
    (hreadable : ∀ x ∈ f.conditions, x.Readable d) :
    Sql.Reads (Sql.wheresTemplate d (f.toWheres d)).symbols (f.nodes d) :=
  reads_of_forall d fun c hc =>
    c.reads d (hvalid.of_mem hc) fun x hx => hreadable x (mem_conditions hc hx)

/-! ## Truth of the text -/

namespace Clause

variable (d : Dialect) (ρ : List Sql.Node → Bool) {c : Clause}

theorem nodes_whole (h : ∀ x ∈ c.conditions, x.Readable d) :
    (c.nodes d).2 ≠ [] ∧ Sql.Settled (c.nodes d).2 := by
  cases c with
  | leaf k x =>
    have hx := h x (List.mem_singleton_self x)
    exact ⟨hx.nonempty, hx.settled⟩
  | group k members =>
    rw [nodes_group]
    exact ⟨List.cons_ne_nil _ _, rfl⟩

end Clause

namespace Filter

variable (d : Dialect) (ρ : List Sql.Node → Bool) {f : Filter}

theorem nodesTruth_nodes_of_forall (hreadable : ∀ x ∈ f.conditions, x.Readable d)
    (h : ∀ c ∈ f, Sql.entries ρ c.connective (c.nodes d).2 = c.entries d ρ) :
    Sql.nodesTruth ρ (f.nodes d) = Connective.truth (f.flatMap (Clause.entries d ρ)) := by
  cases f with
  | nil => rfl
  | cons c rest =>
    have hwhole : ∀ e ∈ c.nodes d :: rest.map (Clause.nodes d), e.2 ≠ [] ∧ Sql.Settled e.2 := by
      intro e he
      rw [← List.map_cons] at he
      obtain ⟨m, hm, rfl⟩ := List.mem_map.1 he
      exact m.nodes_whole d fun x hx => hreadable x (mem_conditions hm hx)
    have hentries := Sql.entries_joinedNodes ρ _ _ hwhole
    rw [← List.map_cons, List.flatMap_map] at hentries
    rw [nodes, ← Sql.truth_entries ρ (c.nodes d).1, hentries]
    congr 1
    refine List.flatMap_congr fun m hm => ?_
    rw [Clause.nodes_fst]
    exact h m hm

end Filter

theorem Clause.entries_nodes (d : Dialect) (ρ : List Sql.Node → Bool) {c : Clause}
    (h : ∀ x ∈ c.conditions, x.Readable d) :
    Sql.entries ρ c.connective (c.nodes d).2 = c.entries d ρ := by
  induction c with
  | leaf k x => rfl
  | group k members ih =>
    rw [conditions_group] at h
    have hmembers := Filter.nodesTruth_nodes_of_forall d ρ h fun m hm =>
      ih m hm fun x hx => h x (Filter.mem_conditions hm hx)
    rw [Filter.nodes] at hmembers
    rw [nodes_group, entries_group, Sql.entries_paren, hmembers, connective]

/-- **The text of a filter is true as its parts are**: the parts of a condition stand beside the other
    conditions, and only a group keeps its parts together. -/
theorem Filter.textTruth_wheresTemplate (d : Dialect) (ρ : List Sql.Node → Bool) {f : Filter}
    (hvalid : f.Valid) (hreadable : ∀ x ∈ f.conditions, x.Readable d) :
    Sql.textTruth ρ (Sql.wheresTemplate d (f.toWheres d)).symbols
      = Connective.truth (f.flatMap (Clause.entries d ρ)) := by
  rw [Sql.textTruth, (f.reads d hvalid hreadable).nodesOf_eq]
  exact nodesTruth_nodes_of_forall d ρ hreadable fun c hc =>
    c.entries_nodes d ρ fun x hx => hreadable x (mem_conditions hc hx)

/-! ## Conditions that stay one -/

/-- No condition in a group of the clause has an OR at the top of its text beside an AND. -/
inductive Clause.Apart (d : Dialect) : Clause → Prop
  | leaf (k : Connective) (c : Condition) : Apart d (.leaf k c)
  | group (k : Connective) (members : Filter) :
    Connective.separated true (members.map fun m => (m.connective, m.opens d)) = true →
    (∀ m ∈ members, Apart d m) → Apart d (.group k members)

/-- No condition with an OR at the top of its text stands beside an AND. -/
structure Filter.Apart (d : Dialect) (f : Filter) : Prop where
  separated : Connective.separated true (f.map fun c => (c.connective, c.opens d)) = true
  clauses : ∀ c ∈ f, c.Apart d

namespace Filter

variable (d : Dialect) (ρ : List Sql.Node → Bool) {f : Filter}

/-- The truth of a condition whose text stands by itself, as if between parentheses. -/
def judge (c : Condition) : Bool :=
  Sql.nodesTruth ρ (c.nodes d)

/-- A condition on columns has the truth that `ρ` gives it. -/
theorem judge_of_plain {c : Condition} (h : c.Plain) : judge d ρ c = ρ (c.nodes d) := by
  rw [judge, Sql.nodesTruth, (h.isOne d).entries]
  rfl

theorem extends_entries {c : Clause} (h : ∀ x ∈ c.conditions, x.Readable d) :
    Connective.Extends Clause.connective (Clause.opens d) (Clause.entries d ρ) c := by
  cases c with
  | leaf k x => exact Sql.exists_entries ρ (h x (List.mem_singleton_self x)).nonempty k
  | group k members => exact ⟨_, [], Clause.entries_group d ρ k members, fun _ => nofun⟩

theorem truth_entries_of_forall (hreadable : ∀ x ∈ f.conditions, x.Readable d)
    (hseparated : Connective.separated true (f.map fun c => (c.connective, c.opens d)) = true)
    (h : ∀ c ∈ f, Connective.truth (c.entries d ρ) = (c.truth (judge d ρ)).2) :
    Connective.truth (f.flatMap (Clause.entries d ρ)) = f.holds (judge d ρ) := by
  have hextends : ∀ c ∈ f, Connective.Extends Clause.connective (Clause.opens d)
      (Clause.entries d ρ) c :=
    fun c hc => extends_entries d ρ fun x hx => hreadable x (mem_conditions hc hx)
  rw [Connective.truth_flatMap hextends hseparated, holds]
  congr 1
  refine List.map_congr_left fun c hc => ?_
  rw [h c hc, ← c.truth_fst (judge d ρ)]

end Filter

theorem Clause.Apart.truth_entries {d : Dialect} {c : Clause} (hapart : c.Apart d)
    (ρ : List Sql.Node → Bool) (h : ∀ x ∈ c.conditions, x.Readable d) :
    Connective.truth (c.entries d ρ) = (c.truth (Filter.judge d ρ)).2 := by
  induction hapart with
  | leaf k x => exact Sql.truth_entries ρ k (x.nodes d)
  | group k members hseparated _ ih =>
    rw [conditions_group] at h
    have hmembers := Filter.truth_entries_of_forall d ρ h hseparated fun m hm =>
      ih m hm fun x hx => h x (Filter.mem_conditions hm hx)
    rw [entries_group, truth_group, hmembers]
    rfl

/-- **If no condition opens beside an AND, then the parts are true as the conditions are**, each of them
    as if it stood between parentheses. -/
theorem Filter.Apart.truth_entries {d : Dialect} {f : Filter} (hapart : f.Apart d)
    (ρ : List Sql.Node → Bool) (h : ∀ x ∈ f.conditions, x.Readable d) :
    Connective.truth (f.flatMap (Clause.entries d ρ)) = f.holds (Filter.judge d ρ) :=
  truth_entries_of_forall d ρ h hapart.separated fun c hc =>
    (hapart.clauses c hc).truth_entries ρ fun x hx => h x (mem_conditions hc hx)

/-! ## Texts without OR -/

theorem Connective.separated_of_forall {first : Bool} {xs : List (Connective × Bool)}
    (h : ∀ e ∈ xs, e.2 = false) : separated first xs = true := by
  induction xs generalizing first with
  | nil => rfl
  | cons e rest ih =>
    obtain ⟨k, opens⟩ := e
    rw [List.forall_mem_cons] at h
    obtain ⟨rfl, hrest⟩ := h
    rw [separated, ih hrest]
    rfl

namespace Filter

variable {d : Dialect} {f : Filter}

theorem separated_of_forall (h : ∀ x ∈ f.conditions, Sql.opens (x.nodes d) = false) :
    Connective.separated true (f.map fun c => (c.connective, c.opens d)) = true := by
  apply Connective.separated_of_forall
  intro e he
  obtain ⟨c, hc, rfl⟩ := List.mem_map.1 he
  cases c with
  | leaf k x => exact h x (mem_conditions hc (List.mem_singleton_self x))
  | group k members => rfl

end Filter

theorem Clause.apart_of_forall {d : Dialect} {c : Clause}
    (h : ∀ x ∈ c.conditions, Sql.opens (x.nodes d) = false) : c.Apart d := by
  induction c with
  | leaf k x => exact .leaf k x
  | group k members ih =>
    rw [conditions_group] at h
    exact .group k members (Filter.separated_of_forall h) fun m hm =>
      ih m hm fun x hx => h x (Filter.mem_conditions hm hx)

/-- Where no text has an OR at its top, no condition opens. -/
theorem Filter.apart_of_forall {d : Dialect} {f : Filter}
    (h : ∀ x ∈ f.conditions, Sql.opens (x.nodes d) = false) : f.Apart d :=
  ⟨separated_of_forall h, fun _ hc => Clause.apart_of_forall fun x hx => h x (mem_conditions hc hx)⟩

/-! ## Two filters side by side -/

/-- Two filters that OR could mix are two groups, so the parts of neither stand beside those of the
    other. -/
theorem Filter.truth_entries_isolate (d : Dialect) (ρ : List Sql.Node → Bool) {own others : Filter}
    (h : hasOr (own ++ others) = true) :
    Connective.truth ((isolate own others).flatMap (Clause.entries d ρ))
      = (Connective.truth (own.flatMap (Clause.entries d ρ))
        && Connective.truth (others.flatMap (Clause.entries d ρ))) := by
  by_cases hown : own = []
  · subst hown
    simp [isolate, Connective.truth]
  by_cases hothers : others = []
  · subst hothers
    simp [isolate, Connective.truth]
  rw [isolate, if_neg (by simp [hown, hothers, h]), List.flatMap_cons, List.flatMap_singleton,
    Clause.entries_group, Clause.entries_group]
  rfl

end QueryKit
