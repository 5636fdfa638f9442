import QueryKit.Eager.Loader
import QueryKit.Proofs.Driver.Action
import QueryKit.Proofs.Eager.Grouping

set_option autoImplicit false

/-! # What loaders assign

A loader has the records in its hands while it sends its statements. What it makes of them is said here
without them: an action that touches no record ends in what each record is to be loaded with
(`Relation.assignment`). The loader does just that: if the action ends in an assignment, every record
has it, and if it fails the records are as they were (`Relation.load_assigns`). So no loader assigns
anything before the last of its steps that can fail. -/

namespace QueryKit

variable {σ τ α : Type}

/-! ## Actions on a part of the state -/

theorem Action.runFrom_onFirst_bind {β : Type} (action : Action σ α)
    (next : α → Action (σ × τ) β) (s : σ) (t : τ) :
    (action.onFirst >>= next).runFrom (s, t) = match action.runFrom s with
      | (.ok a, s) => (next a).runFrom (s, t)
      | (.error e, s) => (.error e, (s, t)) := by
  have hfirst : (action.onFirst : Action (σ × τ) α).runFrom (s, t)
      = ((action.runFrom s).1, ((action.runFrom s).2, t)) := rfl
  rw [Action.runFrom_bind, hfirst]
  rcases action.runFrom s with ⟨_ | _, s'⟩ <;> rfl

theorem Loading.runFrom_on (loading : Loading σ Unit) (records : List Record) (s : σ) :
    (loading.on records).runFrom s
      = ((loading.runFrom (s, records)).1.map fun _ => (loading.runFrom (s, records)).2.2,
          (loading.runFrom (s, records)).2.1) := rfl

/-! ## Assignments -/

theorem Record.loaded?_attach (name other : String) (loaded : Loaded Record) (r : Record) :
    (r.attach name loaded).loaded? other = if other = name then some loaded else r.loaded? other :=
  Assoc.get?_set name other loaded r.relations

theorem Record.related_attach (name : String) (loaded : Loaded Record) (r : Record) :
    (r.attach name loaded).related name = loaded.records := by
  rw [related, loaded?_attach, if_pos rfl]

/-- What each record is loaded with. -/
abbrev Assignment := Record → Loaded Record

/-- The records with what a relation has been assigned. -/
def Relation.assigned (r : Relation) (assign : Assignment) (records : List Record) : List Record :=
  records.map fun p => p.attach r.name (assign p)

/-! ## Loaders that assign last -/

/-- The loader does to these records what the action ends in, and nothing if it fails. -/
def Loading.Assigns (r : Relation) (records : List Record) (loading : Loading σ Unit)
    (action : Action σ Assignment) : Prop :=
  ∀ s, loading.runFrom (s, records) = match action.runFrom s with
    | (.ok assign, s) => (.ok (), (s, r.assigned assign records))
    | (.error e, s) => (.error e, (s, records))

namespace Loading.Assigns

variable {r : Relation} {records : List Record}

theorem assign (f : Assignment) : Assigns r records (r.assign f : Loading σ Unit) (pure f) :=
  fun _ => rfl

theorem throw (e : Error) :
    Assigns r records (MonadExcept.throw e : Loading σ Unit) (MonadExcept.throw e) :=
  fun _ => rfl

theorem records_bind {next : List Record → Loading σ Unit} {action : Action σ Assignment}
    (h : Assigns r records (next records) action) :
    Assigns r records (Loading.records >>= next) action := by
  intro s
  rw [Action.runFrom_bind]
  exact h s

theorem ofExcept_bind {result : Except Error α} {next : α → Loading σ Unit}
    {next' : α → Action σ Assignment} (h : ∀ a, Assigns r records (next a) (next' a)) :
    Assigns r records (Action.ofExcept result >>= next) (Action.ofExcept result >>= next') := by
  cases result with
  | error e => exact .throw e
  | ok a => exact h a

/-- Statements leave the records alone. -/
theorem onFirst_bind {action : Action σ α} {next : α → Loading σ Unit}
    {next' : α → Action σ Assignment} (h : ∀ a, Assigns r records (next a) (next' a)) :
    Assigns r records (action.onFirst >>= next) (action >>= next') := by
  intro s
  rw [Action.runFrom_onFirst_bind, Action.runFrom_bind]
  rcases action.runFrom s with ⟨e | a, s'⟩
  · rfl
  · exact h a s'

theorem congr {loading : Loading σ Unit} {action other : Action σ Assignment}
    (h : Assigns r records loading action) (heq : other = action) :
    Assigns r records loading other :=
  heq ▸ h

/-- A loader that fails leaves the records as they were. -/
theorem eq_of_error {loading : Loading σ Unit} {action : Action σ Assignment}
    (h : Assigns r records loading action) {s s' : σ} {out : List Record} {e : Error}
    (hrun : loading.runFrom (s, records) = (.error e, (s', out))) : out = records := by
  rw [h s] at hrun
  split at hrun
  · cases hrun
  · cases hrun
    rfl

/-- The records that a loader answers. -/
theorem on_eq {loading : Loading σ Unit} {action : Action σ Assignment}
    (h : Assigns r records loading action) :
    loading.on records = action >>= fun assign => pure (r.assigned assign records) := by
  funext s
  show (loading.on records).runFrom s
    = (action >>= fun assign => pure (r.assigned assign records)).runFrom s
  rw [Loading.runFrom_on, h s, Action.runFrom_bind]
  rcases action.runFrom s with ⟨_ | _, s₁⟩ <;> rfl

end Loading.Assigns

/-! ## The kinds of relations -/

namespace Relation

/-- Hands found records out to those whose column has the key they were found under. -/
def distributed (r : Relation) (found : List (Key × Record)) : Assignment := fun parent =>
  match parent.keyOf? r.parentKey with
  | some k => r.loaded (withKey k found)
  | none => r.loaded []

/-- What records are loaded with whose related rows are found by one of their columns. -/
def directAssignment (ctx : LoadContext σ) (parent : Model) (r : Relation)
    (constraint : Option Constraint) (parents : List Record) : Action σ Assignment := do
  let related ← Action.ofExcept (r.relatedModel ctx.registry)
  let ids := parentKeys r.parentKey parents
  if ids.isEmpty then return fun _ => r.loaded []
  else
    let rows ← directRows ctx r (directQuery ctx parent related r constraint) ids
    return r.distributed (rows.map fun (k, row) => (k, Record.ofRow related row))

/-- What records are loaded with that name the types of their owners. -/
def ownersAssignment (ctx : LoadContext σ) (r : Relation) (constraint : Option Constraint)
    (parents : List Record) : Action σ Assignment := do
  match r.typeColumn with
  | none => throw (.validation (.relationWithoutTypeColumn r.name))
  | some column =>
    let tags := Text.sortedNames (parents.filterMap (tagOf? column))
    let owners ← tags.mapM (ownersOfType ctx r constraint column parents)
    return fun parent =>
      match tagOf? column parent, parent.keyOf? r.parentKey with
      | some tag, some k => .one (owners.flatten.lookup (tag, k))
      | _, _ => .one none

/-- Hands out what the links of a record lead to. -/
def assignLinked (r : Relation) (links : List (Key × Key × Value)) (records : List (Key × Record)) :
    Assignment := fun parent =>
  match parent.keyOf? r.parentKey with
  | some k => .many (linked links records k)
  | none => .many []

/-- What records are loaded with by way of a pivot table. -/
def pivotAssignment (ctx : LoadContext σ) (r : Relation) (constraint : Option Constraint)
    (parents : List Record) : Action σ Assignment := do
  match r.pivot with
  | none => throw (.validation (.relationWithoutPivot r.name))
  | some pivot =>
    let related ← Action.ofExcept (r.relatedModel ctx.registry)
    let ids := parentKeys r.parentKey parents
    if ids.isEmpty then return fun _ => .many []
    else
      let query := constrained constraint (related.query ctx.driver.dialect)
      if query.isPaginated then throw (.validation (.limitOnPivot r.name))
      else
        let rows ← ((pivotQuery ctx.driver.dialect pivot).whereIn pivot.parentColumn ids).get
          ctx.driver
        let found ← linkedRows ctx related query (linkedIds (pivotLinks pivot rows))
        return r.assignLinked (pivotLinks pivot rows)
          (found.map fun (k, row) => (k, Record.ofRow related row))

/-- What records of one model are loaded with. -/
def assignment (ctx : LoadContext σ) (parent : Model) (r : Relation)
    (constraint : Option Constraint) (parents : List Record) : Action σ Assignment :=
  match r.kind with
  | .morphTo => r.ownersAssignment ctx constraint parents
  | .belongsToMany => r.pivotAssignment ctx constraint parents
  | _ => r.directAssignment ctx parent constraint parents

/-! ## Loaders assign -/

variable {ctx : LoadContext σ} {parent : Model} {r : Relation} {constraint : Option Constraint}
  {parents : List Record}

/-- What is put under keys is handed out by key. -/
theorem foundFor_ofEntries (found : List (Key × Record)) :
    (fun p => r.loaded (r.foundFor (Multimap.ofEntries found) p)) = r.distributed found := by
  funext p
  rw [foundFor, distributed]
  cases p.keyOf? r.parentKey with
  | none => rfl
  | some k =>
      simp only
      rw [Multimap.get_ofEntries]

theorem distribute_assigns (found : List (Key × Record)) :
    Loading.Assigns r parents (r.distribute found : Loading σ Unit) (pure (r.distributed found)) :=
  foundFor_ofEntries (r := r) found ▸ .assign _

theorem loadDirect_assigns : Loading.Assigns r parents (r.loadDirect ctx parent constraint)
    (r.directAssignment ctx parent constraint parents) := by
  rw [loadDirect, directAssignment]
  refine .ofExcept_bind fun related => .records_bind ?_
  dsimp only
  split
  · exact .assign _
  · exact .onFirst_bind fun rows => distribute_assigns _

theorem loadOwners_assigns : Loading.Assigns r parents (r.loadOwners ctx constraint)
    (r.ownersAssignment ctx constraint parents) := by
  rw [loadOwners, ownersAssignment]
  cases r.typeColumn with
  | none => exact .throw _
  | some column =>
    refine .records_bind (.onFirst_bind fun owners => .congr (.assign _) ?_)
    congr 1
    funext p
    rw [ownerOf]
    cases tagOf? column p <;> cases p.keyOf? r.parentKey <;> rfl

/-- What is put under the keys of the records it is linked to is handed out by link. -/
theorem foundFor_byOwner (pivot : Pivot) (rows : List Row) (found : List (Key × Record)) :
    (fun p => Loaded.many (r.foundFor
        ((rows.foldl (PivotIndex.addRow pivot) {}).byOwner found) p))
      = r.assignLinked (pivotLinks pivot rows) found := by
  funext p
  rw [foundFor, assignLinked]
  cases p.keyOf? r.parentKey with
  | none => rfl
  | some k =>
      simp only
      rw [PivotIndex.get_byOwner]

theorem loadPivot_assigns (hkind : r.kind = .belongsToMany) :
    Loading.Assigns r parents (r.loadPivot ctx constraint)
      (r.pivotAssignment ctx constraint parents) := by
  have hempty : (r.loaded [] : Loaded Record) = .many [] := by
    rw [loaded, hkind]
    rfl
  rw [loadPivot, pivotAssignment]
  cases r.pivot with
  | none => exact .throw _
  | some pivot =>
    refine .ofExcept_bind fun related => .records_bind ?_
    dsimp only
    split
    · rw [← hempty]
      exact .assign _
    · split
      · exact .throw _
      · refine .onFirst_bind fun rows => ?_
        rw [PivotIndex.kept_foldl_addRow]
        refine .onFirst_bind fun found => ?_
        rw [← foundFor_byOwner]
        exact .assign _

/-- **A loader assigns last.** What it does to records is what the relation assigns to them; if a step
    fails on the way, no record has changed. -/
theorem load_assigns : Loading.Assigns r parents (r.load ctx parent constraint)
    (r.assignment ctx parent constraint parents) := by
  rw [load, assignment]
  cases hkind : r.kind with
  | morphTo => exact loadOwners_assigns
  | belongsToMany => exact loadPivot_assigns hkind
  | _ => exact loadDirect_assigns

/-- The records that a loader answers are those it was given, with what the relation assigns. -/
theorem on_load : (r.load ctx parent constraint).on parents
    = r.assignment ctx parent constraint parents >>= fun assign =>
        pure (r.assigned assign parents) :=
  load_assigns.on_eq

theorem runFrom_on_load_eq_ok_iff {s s' : σ} {out : List Record} :
    ((r.load ctx parent constraint).on parents).runFrom s = (.ok out, s')
      ↔ ∃ assign, (r.assignment ctx parent constraint parents).runFrom s = (.ok assign, s')
          ∧ out = r.assigned assign parents := by
  rw [on_load]
  constructor
  · intro hrun
    obtain ⟨assign, _, hassign, hend⟩ := Action.runFrom_bind_eq_ok hrun
    cases hend
    exact ⟨assign, hassign, rfl⟩
  · rintro ⟨assign, hassign, rfl⟩
    rw [Action.runFrom_bind, hassign]
    rfl

theorem runFrom_on_load_eq_error_iff {s s' : σ} {e : Error} :
    ((r.load ctx parent constraint).on parents).runFrom s = (.error e, s')
      ↔ (r.assignment ctx parent constraint parents).runFrom s = (.error e, s') := by
  rw [on_load, Action.runFrom_bind]
  rcases (r.assignment ctx parent constraint parents).runFrom s with ⟨_ | assign, s₁⟩
  · simp only [Prod.mk.injEq, Except.error.injEq]
  · exact iff_of_false nofun nofun

/-- Assigning sends nothing. -/
theorem sent_on_load {ctx : LoadContext (σ × List Statement)} (s : σ) :
    ((r.load ctx parent constraint).on parents).sent s
      = (r.assignment ctx parent constraint parents).sent s := by
  rw [on_load, Action.sent_bind_pure]

theorem returns_on_load {assign : Assignment}
    (h : (r.assignment ctx parent constraint parents).Returns assign) :
    ((r.load ctx parent constraint).on parents).Returns (r.assigned assign parents) :=
  on_load ▸ h.bind (.pure _)

end Relation

end QueryKit
