import QueryKit.Proofs.Eager.Completeness

set_option autoImplicit false

/-! # Loads that fail

A relation that fails to load on the records of a model has changed none of them, as its loader assigns
to records only behind the last of its steps that can fail (`Relation.load_assigns`). A level is loaded
model by model, so there the records of earlier models have been loaded, and all others are as they were
(`runFrom_loadLevel_eq_error`). Whatever loading a tree ends in, it has changed nothing about the records
of the top but the relations that the nodes at the top name (`touches_loadAll`). -/

namespace QueryKit

variable {σ : Type}

/-! ## What loading changes -/

theorem Record.forall₂_agreesBut_self (names : List String) (records : List Record) :
    List.Forall₂ (AgreesBut names) records records :=
  List.forall₂_same.2 fun r _ => .refl names r

/-- Whatever the action ends in, the records are the same but for some of their relations. -/
def Touches (names : List String) (action : Loading σ Unit) : Prop :=
  ∀ state, List.Forall₂ (Record.AgreesBut names) state.2 (action.runFrom state).2.2

namespace Touches

variable {names others : List String} {action next : Loading σ Unit}

theorem pure (names : List String) : Touches names (Pure.pure () : Loading σ Unit) :=
  fun _ => Record.forall₂_agreesBut_self ..

theorem mono (h : Touches names action) (hnames : names ⊆ others) : Touches others action :=
  fun state => (h state).imp fun _ _ hr => hr.mono hnames

theorem bind (h : Touches names action) (hnext : Touches names next) :
    Touches names (action >>= fun _ => next) := by
  intro state
  have hfirst := h state
  rw [Action.runFrom_bind]
  rcases hrun : action.runFrom state with ⟨e | _, between⟩
  · rwa [hrun] at hfirst
  · rw [hrun] at hfirst
    exact forall₂_trans (fun _ _ _ => .trans) hfirst (hnext between)

theorem onNextLevel (name : String) (action : Loading σ Unit) :
    Touches [name] (action.onNextLevel name) := by
  rintro ⟨s, records⟩
  rw [Loading.runFrom_onNextLevel]
  split
  · exact Record.forall₂_agreesBut_self ..
  · exact (Record.refillLevel_refilled name records _).imp fun _ _ h => h.1.agrees

end Touches

namespace PathNode

variable {ctx : LoadContext σ} {name : String} {constraint : Option Constraint}

theorem touches_loadModel (model : String) : Touches [name] (loadModel ctx name constraint model) := by
  rintro ⟨s, records⟩
  rw [runFrom_loadModel]
  split
  · rw [List.forall₂_map_right_iff]
    refine List.forall₂_same.2 fun r _ => ?_
    split
    · exact .attach name _ r
    · exact .refl _ r
  · exact Record.forall₂_agreesBut_self ..

theorem touches_loadLevel : Touches [name] (loadLevel ctx name constraint) := by
  have hmodels : ∀ models : List String,
      Touches [name] (models.forM (loadModel ctx name constraint)) := by
    intro models
    induction models with
    | nil => exact .pure _
    | cons model _ ih => exact .bind (touches_loadModel model) ih
  exact fun state => hmodels (Record.models state.2) state

theorem touches_load (node : PathNode) : Touches [node.name] (node.load ctx) := by
  obtain ⟨name, constraint, children⟩ := node
  rw [load]
  exact .bind touches_loadLevel (.onNextLevel name _)

/-- **Loading a tree changes no more than the relations at its top**, be it that it succeeds or fails. -/
theorem touches_loadAll (nodes : List PathNode) : Touches (names nodes) (loadAll ctx nodes) := by
  induction nodes with
  | nil =>
      rw [loadAll]
      exact .pure _
  | cons node rest ih =>
      rw [loadAll]
      refine .bind ((touches_load node).mono ?_) (ih.mono ?_)
      · exact List.cons_subset_cons _ (List.nil_subset _)
      · exact List.subset_cons_self _ _

/-! ## Levels that fail -/

/-- What becomes of a record of a level where some models have been loaded: it has the relation if it is
    of one of them, and is as it was if not. -/
structure LoadedAmong (registry : ModelRegistry) (name : String) (models : List String)
    (r r' : Record) : Prop where
  agrees : Record.AgreesBut [name] r r'
  loaded : r.model.name ∈ models → r'.HasLoaded registry name
  kept : r.model.name ∉ models → r' = r

namespace LoadedAmong

variable {registry : ModelRegistry} {models others : List String} {r r₁ r₂ : Record}

theorem refl (r : Record) : LoadedAmong registry name [] r r :=
  ⟨.refl _ r, nofun, fun _ => rfl⟩

theorem trans (h : LoadedAmong registry name models r r₁)
    (h' : LoadedAmong registry name others r₁ r₂) :
    LoadedAmong registry name (models ++ others) r r₂ := by
  have hmodel : r₁.model.name = r.model.name := congrArg Model.name h.agrees.model
  refine ⟨h.agrees.trans h'.agrees, fun hmem => ?_, fun hnot => ?_⟩
  · by_cases hothers : r.model.name ∈ others
    · exact h'.loaded (by rwa [hmodel])
    · -- the record has been loaded before, and nothing has been done to it since
      have hmodels := (List.mem_append.1 hmem).resolve_right hothers
      rw [h'.kept (by rwa [hmodel])]
      exact h.loaded hmodels
  · rw [List.mem_append, not_or] at hnot
    rw [h'.kept (by rw [hmodel]; exact hnot.2), h.kept hnot.1]

end LoadedAmong

/-- **A relation that fails to load on the records of a model has changed no record.** -/
theorem runFrom_loadModel_eq_error {model : String} {s s' : σ} {records out : List Record} {e : Error}
    (h : (loadModel ctx name constraint model).runFrom (s, records) = (.error e, (s', out))) :
    out = records ∧ (assignment ctx name constraint model records).runFrom s = (.error e, s') := by
  rw [runFrom_loadModel] at h
  split at h
  · cases h
  · next hrun =>
      cases h
      exact ⟨rfl, hrun⟩

theorem loadedAmong_loadModel {model : String} {s s' : σ} {records out : List Record}
    (h : (loadModel ctx name constraint model).runFrom (s, records) = (.ok (), (s', out))) :
    List.Forall₂ (LoadedAmong ctx.registry name [model]) records out := by
  have hloaded := runFrom_loadModel_eq_ok h
  rw [runFrom_loadModel] at h
  split at h
  · cases h
    rw [List.forall₂_map_right_iff, List.forall₂_same] at hloaded ⊢
    intro r hr
    obtain ⟨hrecord, hmodel⟩ := hloaded r hr
    refine ⟨hrecord.agrees, fun hmem => hmodel (List.mem_singleton.1 hmem), fun hnot => ?_⟩
    have hof : ¬ r.isOf model = true := fun hof => hnot (List.mem_singleton.2 (eq_of_beq hof))
    rw [if_neg hof]
  · cases h

theorem runFrom_forM_loadModel_eq_error {models : List String} {s s' : σ}
    {records out : List Record} {e : Error}
    (h : (models.forM (loadModel ctx name constraint)).runFrom (s, records)
      = (.error e, (s', out))) :
    ∃ done model rest s₁, models = done ++ model :: rest
      ∧ List.Forall₂ (LoadedAmong ctx.registry name done) records out
      ∧ (assignment ctx name constraint model out).runFrom s₁ = (.error e, s') := by
  induction models generalizing s records with
  | nil => cases h
  | cons model rest ih =>
      rcases Action.runFrom_bind_eq_error h with hfirst | ⟨_, ⟨s₁, between⟩, hfirst, hrest⟩
      · obtain ⟨rfl, hrun⟩ := runFrom_loadModel_eq_error hfirst
        exact ⟨[], model, rest, s, rfl, List.forall₂_same.2 fun r _ => .refl r, hrun⟩
      · obtain ⟨done, failed, behind, s₂, rfl, hdone, hrun⟩ := ih hrest
        refine ⟨model :: done, failed, behind, s₂, rfl, ?_, hrun⟩
        exact forall₂_trans (fun _ _ _ => .trans) (loadedAmong_loadModel hfirst) hdone

/-- **A level that fails has been loaded up to a model.** -/
theorem runFrom_loadLevel_eq_error {s s' : σ} {records out : List Record} {e : Error}
    (h : (loadLevel ctx name constraint).runFrom (s, records) = (.error e, (s', out))) :
    ∃ done model rest s₁, Record.models records = done ++ model :: rest
      ∧ List.Forall₂ (LoadedAmong ctx.registry name done) records out
      ∧ (assignment ctx name constraint model out).runFrom s₁ = (.error e, s') := by
  rcases Action.runFrom_bind_eq_error h with hmodels | ⟨models, _, hmodels, h⟩
  · cases hmodels
  · cases hmodels
    exact runFrom_forM_loadModel_eq_error h

/-- A node without children is its level. -/
theorem runFrom_loadAll_singleton (state : σ × List Record) :
    (loadAll ctx [{ name, constraint }]).runFrom state
      = (loadLevel ctx name constraint).runFrom state := by
  rw [loadAll, load, bind_assoc, Action.runFrom_bind]
  rcases (loadLevel ctx name constraint).runFrom state with ⟨e | _, s, records⟩
  · rfl
  · simp only
    rw [loadAll, Action.runFrom_bind, Loading.runFrom_onNextLevel_pure]
    rfl

end PathNode

/-! ## Loaders that fail -/

namespace EagerLoader

variable {loader : EagerLoader} {driver : Driver σ} {registry : ModelRegistry}

theorem touches_load : Touches (PathNode.names loader.nodes) (loader.load driver registry) := by
  rintro ⟨s, records⟩
  rcases hmalformed : loader.malformed with _ | path
  · rw [runFrom_load hmalformed]
    split
    · exact Record.forall₂_agreesBut_self ..
    · exact PathNode.touches_loadAll loader.nodes (s, records)
  · rw [load, hmalformed]
    exact Record.forall₂_agreesBut_self ..

/-- A loader of one relation that fails has loaded it on the records of the models before the one that
    failed. -/
theorem loadedAmong_of_load_eq_error {name : String} {constraint : Option Constraint}
    (hnodes : loader.nodes = [{ name, constraint }]) {s s' : σ} {records out : List Record} {e : Error}
    (hrun : (loader.load driver registry).runFrom (s, records) = (.error e, (s', out))) :
    ∃ done, List.Forall₂ (PathNode.LoadedAmong registry name done) records out
      ∧ (records ≠ [] → ∃ model rest, Record.models records = done ++ model :: rest) := by
  rcases hmalformed : loader.malformed with _ | path
  · rw [runFrom_load hmalformed] at hrun
    split at hrun
    · cases hrun
    · rw [hnodes, PathNode.runFrom_loadAll_singleton] at hrun
      obtain ⟨done, model, rest, _, hmodels, hamong, -⟩ := PathNode.runFrom_loadLevel_eq_error hrun
      exact ⟨done, hamong, fun _ => ⟨model, rest, hmodels⟩⟩
  · rw [load, hmalformed] at hrun
    cases hrun
    refine ⟨[], List.forall₂_same.2 fun r _ => .refl r, fun hne => ?_⟩
    obtain ⟨r, hr⟩ := List.exists_mem_of_ne_nil records hne
    obtain ⟨model, rest, hmodels⟩ :=
      List.exists_cons_of_ne_nil (List.ne_nil_of_mem (Record.mem_models hr))
    exact ⟨model, rest, hmodels⟩

theorem unchanged_of_single_load_eq_error {name : String} {constraint : Option Constraint}
    (hnodes : loader.nodes = [{ name, constraint }]) {s s' : σ} {records out : List Record} {e : Error}
    (hrun : (loader.load driver registry).runFrom (s, records) = (.error e, (s', out))) {model : String}
    (hmodel : ∀ r ∈ records, r.isOf model = true) : out = records := by
  obtain ⟨done, hamong, hmodels⟩ := loadedAmong_of_load_eq_error hnodes hrun
  by_cases hne : records = []
  · subst hne
    exact List.forall₂_nil_left_iff.1 hamong
  · -- nothing comes before the only model
    obtain ⟨failed, rest, heq⟩ := hmodels hne
    rw [Record.models_of_forall hne hmodel, List.singleton_eq_append_iff] at heq
    obtain ⟨rfl, -⟩ | ⟨-, hnil⟩ := heq
    · have hkept := hamong.imp fun _ _ h => (h.kept List.not_mem_nil).symm
      exact (List.forall₂_eq_eq_eq ▸ hkept : records = out).symm
    · cases hnil

/-- **A relation that fails to load has changed nothing.** Whatever the kind of a relation and whichever
    of its steps fails, its loader leaves all records as they were. Whatever the tree of paths, a failure
    leaves the records at its top with all but the relations that the tree names. A tree of one relation
    has been loaded on the records of the models before the one that failed, and all other records are as
    they were; records of one model are all as they were. -/
theorem unchanged_of_load_eq_error :
    (∀ (ctx : LoadContext σ) (parent : Model) (r : Relation) (constraint : Option Constraint)
      (s s' : σ) (records out : List Record) (e : Error),
      (r.load ctx parent constraint).runFrom (s, records) = (.error e, (s', out)) → out = records)
    ∧ ∀ (loader : EagerLoader) (driver : Driver σ) (registry : ModelRegistry) (s s' : σ)
      (records out : List Record) (e : Error),
      (loader.load driver registry).runFrom (s, records) = (.error e, (s', out)) →
      List.Forall₂ (Record.AgreesBut (PathNode.names loader.nodes)) records out
        ∧ ∀ name constraint, loader.nodes = [{ name, constraint }] →
            (∃ done, List.Forall₂ (PathNode.LoadedAmong registry name done) records out
              ∧ (records ≠ [] → ∃ model rest, Record.models records = done ++ model :: rest))
            ∧ ∀ model, (∀ r ∈ records, r.isOf model = true) → out = records := by
  refine ⟨fun ctx parent r constraint s s' records out e hrun =>
    Relation.load_assigns.eq_of_error hrun, fun loader driver registry s s' records out e hrun => ?_⟩
  have htouches : List.Forall₂ (Record.AgreesBut (PathNode.names loader.nodes)) records
      ((loader.load driver registry).runFrom (s, records)).2.2 := touches_load (s, records)
  rw [hrun] at htouches
  exact ⟨htouches, fun name constraint hnodes => ⟨loadedAmong_of_load_eq_error hnodes hrun,
    fun model hmodel => unchanged_of_single_load_eq_error hnodes hrun hmodel⟩⟩

/-- A driver that fails at its second statement, the one for the roles themselves. Both users are as they
    were, also the one whose roles had been loaded before. -/
theorem unchanged_of_load_eq_error_second_statement :
    ∃ (roles : Relation) (user role : Model) (registry : ModelRegistry) (driver : Driver Nat)
      (ctx : LoadContext Nat) (loader : EagerLoader) (records left out : List Record),
      roles = .belongsToMany "roles" "Role" "role_user" "user_id" "role_id"
      ∧ user = { name := "User", table := "users", relations := [roles] }
      ∧ role = { name := "Role", table := "roles" }
      ∧ registry = [user, role].foldl (fun reg m => reg.register m) {}
      ∧ driver.dialect = .postgres
      ∧ driver.query = (fun _ => Action.ofRun fun sent =>
          (if sent = 0 then .ok (.ofRows [.ofList [("user_id", .int 1), ("role_id", .int 7)]])
            else .error (.connection "connection reset"), sent + 1))
      ∧ ctx = { driver, registry, fallback := .error }
      ∧ loader = { nodes := [{ name := "roles" }] }
      ∧ records = [(Record.ofRow user (.ofList [("id", .int 1)])).attach "roles" (.many []),
          .ofRow user (.ofList [("id", .int 2)])]
      ∧ (roles.load ctx user none).runFrom (0, records)
          = (.error (.connection "connection reset"), (2, left))
      ∧ left = records
      ∧ (loader.load driver registry).runFrom (0, records)
          = (.error (.connection "connection reset"), (2, out))
      ∧ (∀ r ∈ records, r.isOf "User" = true)
      ∧ out = records := by
  let roles : Relation := .belongsToMany "roles" "Role" "role_user" "user_id" "role_id"
  let user : Model := { name := "User", table := "users", relations := [roles] }
  let role : Model := { name := "Role", table := "roles" }
  let registry : ModelRegistry := [user, role].foldl (fun reg m => reg.register m) {}
  let driver : Driver Nat :=
    { dialect := .postgres
      query := fun _ => Action.ofRun fun sent =>
        (if sent = 0 then .ok (.ofRows [.ofList [("user_id", .int 1), ("role_id", .int 7)]])
          else .error (.connection "connection reset"), sent + 1)
      execute := fun _ => pure { affectedRows := 0, insertId := none }
      beginTransaction := pure ()
      commit := pure ()
      rollback := pure ()
      inTransaction := fun _ => false }
  let ctx : LoadContext Nat := { driver, registry, fallback := .error }
  let loader : EagerLoader := { nodes := [{ name := "roles" }] }
  let records : List Record := [(Record.ofRow user (.ofList [("id", .int 1)])).attach "roles" (.many []),
    .ofRow user (.ofList [("id", .int 2)])]
  have hmodel : ∀ r ∈ records, r.isOf "User" = true := by
    simp only [records, List.forall_mem_cons]
    exact ⟨rfl, rfl, nofun⟩
  obtain ⟨left, hleft⟩ : ∃ left, (roles.load ctx user none).runFrom (0, records)
      = (.error (.connection "connection reset"), (2, left)) := by
    subst records loader ctx driver registry role user roles
    exact ⟨_, rfl⟩
  obtain ⟨out, hrun⟩ : ∃ out, (loader.load driver registry).runFrom (0, records)
      = (.error (.connection "connection reset"), (2, out)) := by
    subst records loader ctx driver registry role user roles
    exact ⟨_, rfl⟩
  obtain ⟨hrelation, hloader⟩ := @unchanged_of_load_eq_error Nat
  exact ⟨roles, user, role, registry, driver, ctx, loader, records, left, out, rfl, rfl, rfl, rfl, rfl,
    rfl, rfl, rfl, rfl, hleft, hrelation _ _ _ _ _ _ _ _ _ hleft, hrun, hmodel,
    ((hloader _ _ _ _ _ _ _ _ hrun).2 "roles" none rfl).2 "User" hmodel⟩

end EagerLoader

end QueryKit
