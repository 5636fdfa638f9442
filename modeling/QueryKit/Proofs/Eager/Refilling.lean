import QueryKit.Proofs.Eager.Keys
import QueryKit.Proofs.Eager.Levels

set_option autoImplicit false

/-! # Putting records back

What has been loaded below a record is put back in its place. Records of the next level are handed back
model by model, and a record takes as many of them as it led to. So what every record leads to afterwards
is among what has been put back (`Record.refillLevel_refilled`): none is left as it was before. Nothing
else about a record changes (`Record.AgreesBut`). -/

namespace QueryKit

/-! ## Lists side by side -/

theorem forall₂_trans {α β γ : Type} {R : α → β → Prop} {S : β → γ → Prop} {T : α → γ → Prop}
    (h : ∀ a b c, R a b → S b c → T a c) {as : List α} {bs : List β} {cs : List γ}
    (has : List.Forall₂ R as bs) (hbs : List.Forall₂ S bs cs) : List.Forall₂ T as cs := by
  induction has generalizing cs with
  | nil =>
      cases hbs
      exact .nil
  | cons hfirst _ ih =>
      cases hbs with
      | cons hsecond hrest => exact .cons (h _ _ _ hfirst hsecond) (ih hrest)

theorem exists_mem_of_forall₂ {α β : Type} {R : α → β → Prop} {as : List α} {bs : List β}
    (h : List.Forall₂ R as bs) {b : β} (hb : b ∈ bs) : ∃ a ∈ as, R a b := by
  induction h with
  | nil => cases hb
  | cons hfirst _ ih =>
      rcases List.mem_cons.1 hb with rfl | hb
      · exact ⟨_, List.mem_cons_self .., hfirst⟩
      · obtain ⟨a, ha, hab⟩ := ih hb
        exact ⟨a, List.mem_cons_of_mem _ ha, hab⟩

/-! ## Kinds of values -/

/-- Is of the form of relations to many. -/
def Loaded.isMany {α : Type} : Loaded α → Bool
  | .one _ => false
  | .many _ => true

@[simp] theorem Loaded.isMany_refill {α : Type} (loaded : Loaded α) (records : List α) :
    (loaded.refill records).isMany = loaded.isMany := by
  cases loaded with
  | one record => cases record <;> rfl
  | many _ => rfl

theorem Loaded.mem_of_mem_refill {α : Type} {loaded : Loaded α} {records : List α} {x : α}
    (h : x ∈ (loaded.refill records).records) : x ∈ records := by
  cases loaded with
  | one record =>
      cases record with
      | none => cases h
      | some _ => exact List.mem_of_mem_head? (Option.mem_toList.1 h)
  | many _ => exact h

/-! ## Records and their relations -/

namespace Record

/-- The same record, but for what some of its relations have been loaded with. -/
structure AgreesBut (names : List String) (r r' : Record) : Prop where
  model : r'.model = r.model
  attributes : r'.attributes = r.attributes
  stored : r'.stored = r.stored
  others : ∀ name ∉ names, r'.loaded? name = r.loaded? name

/-- The relation of a name has been loaded on the record, as the kind of the relation asks. -/
def HasLoaded (registry : ModelRegistry) (name : String) (r : Record) : Prop :=
  ∃ m relation loaded, registry.get r.model.name = .ok m ∧ m.relation name = .ok relation
    ∧ r.loaded? name = some loaded ∧ loaded.isMany = relation.kind.isMany

/-- The records that names lead to, one relation after another. -/
def reached : List String → List Record → List Record
  | [], records => records
  | name :: rest, records => reached rest (records.flatMap (related name))

theorem related_congr {name : String} {r r' : Record} (h : r'.loaded? name = r.loaded? name) :
    r'.related name = r.related name := by
  rw [related, related, h]

namespace AgreesBut

theorem refl (names : List String) (r : Record) : AgreesBut names r r :=
  ⟨rfl, rfl, rfl, fun _ _ => rfl⟩

theorem trans {names : List String} {r₁ r₂ r₃ : Record} (h : AgreesBut names r₁ r₂)
    (h' : AgreesBut names r₂ r₃) : AgreesBut names r₁ r₃ :=
  ⟨h'.model.trans h.model, h'.attributes.trans h.attributes, h'.stored.trans h.stored,
    fun name hname => (h'.others name hname).trans (h.others name hname)⟩

theorem mono {names others : List String} {r r' : Record} (h : AgreesBut names r r')
    (hnames : names ⊆ others) : AgreesBut others r r' :=
  ⟨h.model, h.attributes, h.stored, fun name hname => h.others name fun hmem => hname (hnames hmem)⟩

theorem attach (name : String) (loaded : Loaded Record) (r : Record) :
    AgreesBut [name] r (r.attach name loaded) := by
  refine ⟨rfl, rfl, rfl, fun other hother => ?_⟩
  rw [loaded?_attach, if_neg fun h => hother (List.mem_singleton.2 h)]

theorem refill (name : String) (records : List Record) (r : Record) :
    AgreesBut [name] r (r.refill name records) := by
  rw [Record.refill]
  split
  · exact attach name _ r
  · exact refl _ r

end AgreesBut

theorem loaded?_refill (name : String) (records : List Record) (r : Record) :
    (r.refill name records).loaded? name = (r.loaded? name).map (·.refill records) := by
  rw [refill]
  split
  · next loaded h => rw [loaded?_attach, if_pos rfl, h]; rfl
  · next h => rw [h]; rfl

namespace HasLoaded

variable {registry : ModelRegistry} {name : String} {r r' : Record}

theorem congr (h : r.HasLoaded registry name) (hmodel : r'.model = r.model)
    (hloaded : r'.loaded? name = r.loaded? name) : r'.HasLoaded registry name := by
  obtain ⟨m, relation, loaded, hm, hrelation, hname, hmany⟩ := h
  exact ⟨m, relation, loaded, hmodel ▸ hm, hrelation, hloaded.trans hname, hmany⟩

theorem refill (h : r.HasLoaded registry name) (records : List Record) :
    (r.refill name records).HasLoaded registry name := by
  obtain ⟨m, relation, loaded, hm, hrelation, hname, hmany⟩ := h
  refine ⟨m, relation, loaded.refill records, ?_, hrelation, ?_, ?_⟩
  · rw [(AgreesBut.refill name records r).model]
    exact hm
  · rw [loaded?_refill, hname]
    rfl
  · rw [Loaded.isMany_refill, hmany]

end HasLoaded

theorem mem_of_mem_related_refill {name : String} {records : List Record} {r x : Record}
    (h : x ∈ (r.refill name records).related name) : x ∈ records := by
  rw [related, loaded?_refill] at h
  cases hr : r.loaded? name with
  | none =>
      rw [hr] at h
      cases h
  | some loaded =>
      rw [hr] at h
      exact Loaded.mem_of_mem_refill h

theorem reached_nil (names : List String) : reached names [] = [] := by
  induction names with
  | nil => rfl
  | cons name rest ih => exact ih

theorem reached_mono {names : List String} {records others : List Record} (h : records ⊆ others) :
    reached names records ⊆ reached names others := by
  induction names generalizing records others with
  | nil => exact h
  | cons name rest ih =>
      refine ih fun x hx => ?_
      obtain ⟨r, hr, hx⟩ := List.mem_flatMap.1 hx
      exact List.mem_flatMap.2 ⟨r, h hr, hx⟩

/-! ## The next level -/

theorem mem_models {r : Record} {records : List Record} (h : r ∈ records) :
    r.model.name ∈ models records :=
  Text.mem_sortedNames.2 (List.mem_map_of_mem h)

theorem related_subset_nextLevel (name : String) (records : List Record) :
    records.flatMap (related name) ⊆ nextLevel name records := by
  intro x hx
  obtain ⟨r, hr, hx⟩ := List.mem_flatMap.1 hx
  refine List.mem_flatMap.2 ⟨r.model.name, mem_models hr, ?_⟩
  exact List.mem_flatMap.2 ⟨r, List.mem_filter.2 ⟨hr, beq_self_eq_true _⟩, hx⟩

/-! ## Putting the next level back -/

/-- What putting records of the next level back does to a record: only one of its relations changes,
    it stays loaded if it was, and what it leads to then is among these records if it was before. -/
structure Refilled (name : String) (next : List Record) (r r' : Record) : Prop where
  agrees : AgreesBut [name] r r'
  loaded : ∀ registry, r.HasLoaded registry name → r'.HasLoaded registry name
  related : r.related name ⊆ next → r'.related name ⊆ next

namespace Refilled

variable {name : String} {next : List Record}

theorem refl (r : Record) : Refilled name next r r :=
  ⟨.refl _ r, fun _ h => h, fun h => h⟩

theorem trans {r₁ r₂ r₃ : Record} (h : Refilled name next r₁ r₂) (h' : Refilled name next r₂ r₃) :
    Refilled name next r₁ r₃ :=
  ⟨h.agrees.trans h'.agrees, fun registry hr => h'.loaded registry (h.loaded registry hr),
    fun hr => h'.related (h.related hr)⟩

theorem refill {records : List Record} (h : records ⊆ next) (r : Record) :
    Refilled name next r (r.refill name records) :=
  ⟨.refill name records r, fun _ hr => hr.refill records,
    fun _ _ hx => h (mem_of_mem_related_refill hx)⟩

end Refilled

theorem refillModel_refilled (name model : String) {next : List Record} (records : List Record)
    {left : List Record} (hleft : left ⊆ next) :
    (refillModel name model records left).2 ⊆ next
      ∧ List.Forall₂ (fun r r' => Refilled name next r r'
          ∧ (r.isOf model = true → r'.related name ⊆ next))
        records (refillModel name model records left).1 := by
  induction records generalizing left with
  | nil => exact ⟨hleft, .nil⟩
  | cons r rest ih =>
      rw [refillModel]
      cases hof : r.isOf model with
      | true =>
          simp only [if_true]
          have htaken : left.take (r.related name).length ⊆ next :=
            List.Subset.trans (List.take_subset _ left) hleft
          obtain ⟨hbehind, hrest⟩ := ih (List.Subset.trans (List.drop_subset _ left) hleft)
          refine ⟨hbehind, .cons ⟨.refill htaken r, fun _ => ?_⟩ hrest⟩
          exact fun _ hx => htaken (mem_of_mem_related_refill hx)
      | false =>
          simp only [Bool.false_eq_true, if_false, List.drop_zero]
          obtain ⟨hbehind, hrest⟩ := ih hleft
          exact ⟨hbehind, .cons ⟨.refl r, fun h => absurd (hof.symm.trans h) Bool.false_ne_true⟩ hrest⟩

/-- **The next level is put back on all records.** -/
theorem refillLevel_refilled (name : String) (records next : List Record) :
    List.Forall₂ (fun r r' => Refilled name next r r' ∧ r'.related name ⊆ next)
      records (refillLevel name records next) := by
  have hfold : ∀ (names : List String) (filled left : List Record), left ⊆ next →
      List.Forall₂ (fun r r' => Refilled name next r r'
          ∧ (r.model.name ∈ names → r'.related name ⊆ next)) filled
        (names.foldl (fun state model => refillModel name model state.1 state.2)
          (filled, left)).1 := by
    intro names
    induction names with
    | nil =>
        intro filled left _
        exact List.forall₂_same.2 fun r _ => ⟨.refl r, fun h => absurd h List.not_mem_nil⟩
    | cons model rest ih =>
        intro filled left hleft
        obtain ⟨hbehind, hmodel⟩ := refillModel_refilled name model filled hleft
        refine forall₂_trans ?_ hmodel (ih _ _ hbehind)
        rintro r₁ r₂ r₃ ⟨hrefilled, hof⟩ ⟨hrefilled', hrest⟩
        refine ⟨hrefilled.trans hrefilled', fun hmem => ?_⟩
        rcases List.mem_cons.1 hmem with heq | hmem
        · exact hrefilled'.related (hof (by rw [isOf, heq, beq_self_eq_true]))
        · exact hrest (by rwa [hrefilled.agrees.model])
  have hall := hfold (models records) records next (List.Subset.refl next)
  exact ((List.forall₂_and_left _ _).2 ⟨fun _ => mem_models, hall⟩).imp
    fun _ _ h => ⟨h.2.1, h.2.2 h.1⟩

end Record

end QueryKit
