import QueryKit.Proofs.Eager.Assignment

set_option autoImplicit false

/-! # Levels of records

The records of a level lead to those of the next one, and what has been done to these is put back in
their places. Nothing changes if nothing has been done to them (`refillLevel_nextLevel`). So a loader of
a single relation does to records of one model what the relation is loaded with. -/

namespace QueryKit

theorem Loaded.refill_records {α : Type} (loaded : Loaded α) :
    loaded.refill loaded.records = loaded := by
  cases loaded with
  | one record => cases record <;> rfl
  | many records => rfl

namespace Record

/-- A relation that is refilled with its own records stays as it is. -/
theorem refill_related (name : String) (r : Record) : r.refill name (r.related name) = r := by
  rw [refill, related]
  cases h : r.loaded? name with
  | none => rfl
  | some loaded =>
      simp only
      rw [Loaded.refill_records, attach, Assoc.set_of_get? h]
      cases r
      rfl

theorem relatedOf_cons (name : String) (r : Record) (rest : List Record) (model : String) :
    relatedOf name (r :: rest) model
      = (if r.isOf model then r.related name else []) ++ relatedOf name rest model := by
  rw [relatedOf, relatedOf, List.filter_cons]
  split
  · rfl
  · rfl

theorem refillModel_relatedOf (name model : String) (records others : List Record) :
    refillModel name model records (relatedOf name records model ++ others) = (records, others) := by
  induction records with
  | nil => rfl
  | cons r rest ih =>
      rw [relatedOf_cons, refillModel]
      cases hof : r.isOf model with
      | true =>
          simp only [if_true, List.append_assoc, List.drop_left, ih, List.take_left, refill_related]
      | false => simp only [Bool.false_eq_true, if_false, List.nil_append, List.drop_zero, ih]

/-- **The records of a level stay as they are** when what they lead to is put back unchanged. -/
theorem refillLevel_nextLevel (name : String) (records : List Record) :
    refillLevel name records (nextLevel name records) = records := by
  rw [refillLevel, nextLevel]
  generalize models records = names
  induction names with
  | nil => rfl
  | cons model rest ih =>
      rw [List.flatMap_cons, List.foldl_cons]
      simp only [refillModel_relatedOf, ih]

/-! ## Records of one model -/

/-- What is done to the records of a model is done in their places. -/
theorem putBack_map (model : String) (f : Record → Record) (records : List Record) :
    putBack model records ((records.filter (isOf model)).map f)
      = records.map fun r => if r.isOf model then f r else r := by
  induction records with
  | nil => rfl
  | cons r rest ih =>
      rw [List.map_cons, List.filter_cons]
      cases hof : r.isOf model with
      | true => simp only [putBack, hof, if_true, List.map_cons, ih]
      | false => simp only [putBack, hof, Bool.false_eq_true, if_false, ih]

theorem putBack_filter (model : String) (records : List Record) :
    putBack model records (records.filter (isOf model)) = records := by
  have hmap := putBack_map model id records
  simpa only [List.map_id, id_eq, ite_self, List.map_id'] using hmap

theorem models_of_forall {model : String} {records : List Record} (hne : records ≠ [])
    (h : ∀ r ∈ records, r.isOf model = true) : models records = [model] := by
  have hfold : ∀ names : List String, (∀ n ∈ names, n = model) →
      names.foldl (fun acc name => Text.insertName name acc) [model] = [model] := by
    intro names hnames
    induction names with
    | nil => rfl
    | cons first rest ih =>
        rw [List.foldl_cons, hnames first (List.mem_cons_self ..), Text.insertName, if_pos rfl]
        exact ih fun n hn => hnames n (List.mem_cons_of_mem _ hn)
  cases records with
  | nil => exact absurd rfl hne
  | cons r rest =>
      have hname : ∀ p ∈ r :: rest, p.model.name = model := fun p hp => eq_of_beq (h p hp)
      rw [models, Text.sortedNames, List.map_cons, List.foldl_cons, hname r (List.mem_cons_self ..)]
      apply hfold
      intro n hn
      obtain ⟨p, hp, rfl⟩ := List.mem_map.1 hn
      exact hname p (List.mem_cons_of_mem _ hp)

end Record

namespace Loading

variable {σ : Type} {name model : String}

theorem runFrom_onModel (loading : Loading σ Unit) (s : σ) (records : List Record) :
    (loading.onModel model).runFrom (s, records)
      = match loading.runFrom (s, records.filter (Record.isOf model)) with
        | (result, s, changed) => (result, (s, Record.putBack model records changed)) := rfl

theorem runFrom_onNextLevel (loading : Loading σ Unit) (s : σ) (records : List Record) :
    (loading.onNextLevel name).runFrom (s, records)
      = if (Record.nextLevel name records).isEmpty then (.ok (), (s, records))
        else
          match loading.runFrom (s, Record.nextLevel name records) with
          | (result, s, next) => (result, (s, Record.refillLevel name records next)) := rfl

theorem runFrom_onNextLevel_pure (s : σ) (records : List Record) :
    (Loading.onNextLevel name (pure ()) : Loading σ Unit).runFrom (s, records)
      = (.ok (), (s, records)) := by
  rw [runFrom_onNextLevel]
  split
  · rfl
  · show (Except.ok (), (s, Record.refillLevel name records (Record.nextLevel name records))) = _
    rw [Record.refillLevel_nextLevel]

end Loading

namespace PathNode

variable {σ : Type} {ctx : LoadContext σ} {name model : String} {constraint : Option Constraint}

/-- What the records of a model are loaded with. -/
def assignment (ctx : LoadContext σ) (name : String) (constraint : Option Constraint) (model : String)
    (records : List Record) : Action σ Assignment := do
  let m ← Action.ofExcept (ctx.registry.get model)
  let r ← Action.ofExcept (m.relation name)
  r.assignment ctx m constraint (records.filter (Record.isOf model))

theorem runFrom_loadModel (s : σ) (records : List Record) :
    (loadModel ctx name constraint model).runFrom (s, records)
      = match (assignment ctx name constraint model records).runFrom s with
        | (.ok assign, s) =>
          (.ok (), (s, records.map fun r => if r.isOf model then r.attach name (assign r) else r))
        | (.error e, s) => (.error e, (s, records)) := by
  rw [loadModel, assignment]
  cases ctx.registry.get model with
  | error e => rfl
  | ok m =>
      rw [Action.ofExcept_ok_bind, Action.ofExcept_ok_bind]
      cases hr : m.relation name with
      | error e => rfl
      | ok r =>
          rw [Action.ofExcept_ok_bind, Action.ofExcept_ok_bind, Loading.runFrom_onModel,
            Relation.load_assigns s]
          rcases (r.assignment ctx m constraint (records.filter (Record.isOf model))).runFrom s
            with ⟨e | assign, s'⟩
          · simp only
            rw [Record.putBack_filter]
          · simp only
            rw [Relation.assigned, Record.putBack_map, Model.name_of_relation hr]

end PathNode

namespace PathNode

variable {σ : Type} {ctx : LoadContext σ} {name model : String} {constraint : Option Constraint}
  {m : Model} {r : Relation} (hm : ctx.registry.get model = .ok m) (hr : m.relation name = .ok r)
  {records : List Record} (hne : records ≠ []) (hrecords : ∀ p ∈ records, p.isOf model = true)

include hm hr hrecords in
theorem runFrom_loadModel_of_forall (s : σ) :
    (loadModel ctx name constraint model).runFrom (s, records)
      = match (r.assignment ctx m constraint records).runFrom s with
        | (.ok assign, s) => (.ok (), (s, records.map fun p => p.attach name (assign p)))
        | (.error e, s) => (.error e, (s, records)) := by
  have hfilter : records.filter (Record.isOf model) = records := List.filter_eq_self.2 hrecords
  rw [runFrom_loadModel, assignment, hm, Action.ofExcept_ok_bind, hr, Action.ofExcept_ok_bind, hfilter]
  rcases (r.assignment ctx m constraint records).runFrom s with ⟨e | assign, s'⟩
  · rfl
  · have hmap : (records.map fun p => if p.isOf model then p.attach name (assign p) else p)
        = records.map fun p => p.attach name (assign p) :=
      List.map_congr_left fun p hp => if_pos (hrecords p hp)
    simp only [hmap]

include hne hrecords in
theorem runFrom_loadLevel_of_forall (s : σ) :
    (loadLevel ctx name constraint).runFrom (s, records)
      = (loadModel ctx name constraint model).runFrom (s, records) := by
  have hmodels := Record.models_of_forall hne hrecords
  rw [loadLevel, Action.runFrom_bind]
  show ((Record.models records).forM (loadModel ctx name constraint)).runFrom (s, records) = _
  rw [hmodels]
  show (loadModel ctx name constraint model >>= fun _ => pure ()).runFrom (s, records) = _
  rw [Action.runFrom_bind]
  rcases (loadModel ctx name constraint model).runFrom (s, records) with ⟨e | _, s'⟩
  · rfl
  · rfl

end PathNode

theorem EagerLoader.runFrom_load {σ : Type} {loader : EagerLoader} (h : loader.malformed = none)
    (driver : Driver σ) (registry : ModelRegistry) (s : σ) (records : List Record) :
    (loader.load driver registry).runFrom (s, records)
      = if records.isEmpty then (.ok (), (s, records))
        else
          (PathNode.loadAll { driver, registry, fallback := loader.fallback } loader.nodes).runFrom
            (s, records) := by
  rw [load, h]
  rfl

/-- **A loader of one relation** leaves the records of a model with what the relation is loaded with. -/
theorem EagerLoader.runFrom_loaded {σ : Type} {name model : String} {constraint : Option Constraint}
    {fallback : LateralFallback} {driver : Driver σ} {registry : ModelRegistry} {m : Model}
    {r : Relation} (hm : registry.get model = .ok m) (hr : m.relation name = .ok r)
    {records : List Record} (hne : records ≠ []) (hrecords : ∀ p ∈ records, p.isOf model = true)
    (s : σ) :
    (({ nodes := [{ name, constraint }], fallback } : EagerLoader).loaded driver registry
        records).runFrom s
      = match (r.assignment { driver, registry, fallback } m constraint records).runFrom s with
        | (.ok assign, s) => (.ok (records.map fun p => p.attach name (assign p)), s)
        | (.error e, s) => (.error e, s) := by
  have hm' : ({ driver, registry, fallback } : LoadContext σ).registry.get model = .ok m := hm
  have hload : (({ nodes := [{ name, constraint }], fallback } : EagerLoader).load driver
        registry).runFrom (s, records)
      = (PathNode.loadAll { driver, registry, fallback } [{ name, constraint }]).runFrom
          (s, records) := by
    have hempty : ¬records.isEmpty = true := fun h => hne (List.isEmpty_iff.1 h)
    exact if_neg hempty
  have hkept : ∀ ended : Except Error Unit × σ × List Record,
      (({ nodes := [{ name, constraint }], fallback } : EagerLoader).load driver
        registry).runFrom (s, records) = ended →
      (({ nodes := [{ name, constraint }], fallback } : EagerLoader).loaded driver registry
        records).runFrom s = (ended.1.map fun _ => ended.2.2, ended.2.1) := by
    rintro _ rfl
    rfl
  rw [hkept _ rfl, hload, PathNode.loadAll, PathNode.load, bind_assoc, Action.runFrom_bind,
    PathNode.runFrom_loadLevel_of_forall hne hrecords,
    PathNode.runFrom_loadModel_of_forall hm' hr hrecords]
  rcases (r.assignment { driver, registry, fallback } m constraint records).runFrom s
    with ⟨e | assign, s'⟩
  · rfl
  · simp only
    rw [PathNode.loadAll, Action.runFrom_bind, Loading.runFrom_onNextLevel_pure]
    rfl

end QueryKit
