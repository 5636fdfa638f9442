import QueryKit.Proofs.Eager.Counting
import QueryKit.Proofs.Eager.Levels
import QueryKit.Proofs.Eager.Paths
import QueryKit.Proofs.Eager.Refilling

set_option autoImplicit false

/-! # Passes of a loader

A loader goes over the records of one model at a time, at one level of a tree: this is a pass. All that it
sends is sent by its passes, each of them is for another node or another model, and what a pass sends
does not depend on how many records it goes over (`EagerLoader.statements_per_pass`). -/

namespace QueryKit

variable {σ : Type}

/-! ## Notes on what follows -/

/-- What is noted after an action, if it succeeds. -/
def Action.followed {α β : Type} (action : Action σ α) (s : σ) (note : σ → List β) : List β :=
  match action.runFrom s with
  | (.ok _, s) => note s
  | (.error _, _) => []

theorem Action.mem_followed {α β : Type} {action : Action σ α} {s : σ} {note : σ → List β} {b : β}
    (h : b ∈ action.followed s note) : ∃ a s', action.runFrom s = (.ok a, s') ∧ b ∈ note s' := by
  rw [followed] at h
  rcases hrun : action.runFrom s with ⟨e | a, s'⟩
  · rw [hrun] at h
    cases h
  · rw [hrun] at h
    exact ⟨a, s', rfl, h⟩

/-! ## Passes -/

/-- The most statements that are sent for a relation of records of a model. None are sent if there is no
    such relation. -/
def ModelRegistry.statementLimit (registry : ModelRegistry) (model name : String)
    (records : List Record) : Nat :=
  match registry.get model with
  | .error _ => 0
  | .ok m =>
    match m.relation name with
    | .error _ => 0
    | .ok r => r.statementLimit records

/-- The state of a recorded run: that of the driver with its log, and the records of a level. -/
abbrev LoadState (σ : Type) := (σ × List Statement) × List Record

/-- The loading of a relation on the records of one model at a level. -/
structure Pass where
  /-- The names that lead to the node, without its own. -/
  above : List String
  name : String
  constraint : Option Constraint
  model : String
  /-- All records of the level, of any models. -/
  level : List Record
  sent : List Statement

namespace Pass

/-- The names that lead to the node. -/
def path (p : Pass) : List String :=
  p.above ++ [p.name]

/-- The node and the model. -/
def key (p : Pass) : List String × String :=
  (p.path, p.model)

/-- The records that the relation is loaded on. -/
def group (p : Pass) : List Record :=
  p.level.filter (Record.isOf p.model)

/-- The most statements that are sent. -/
def limit (registry : ModelRegistry) (p : Pass) : Nat :=
  registry.statementLimit p.model p.name p.group

/-- The related rows are found by one of their columns, and those of every record are limited. -/
def IsLimited (ctx : LoadContext σ) (p : Pass) : Prop :=
  ∃ m r related, ctx.registry.get p.model = .ok m ∧ m.relation p.name = .ok r
    ∧ r.kind ≠ .morphTo ∧ r.kind ≠ .belongsToMany ∧ r.relatedModel ctx.registry = .ok related
    ∧ (Relation.directQuery ctx m related r p.constraint).isPaginated = true

end Pass

namespace PathNode

variable (ctx : LoadContext σ)

/-- The pass over the records of a model. -/
def passOf (above : List String) (name : String) (constraint : Option Constraint) (model : String) :
    LoadState σ → Pass
  | ((s, log), level) =>
    let (_, (_, after), _) :=
      (loadModel ctx.recorded name constraint model).runFrom ((s, log), level)
    { above, name, constraint, model, level, sent := after.drop log.length }

/-- The passes over the records of models, one after another until one of them fails. -/
def modelPasses (above : List String) (name : String) (constraint : Option Constraint) :
    List String → LoadState σ → List Pass
  | [], _ => []
  | model :: rest, state =>
    passOf ctx above name constraint model state ::
      (loadModel ctx.recorded name constraint model).followed state
        (modelPasses above name constraint rest)

/-- The passes over the next level. -/
def nextPasses (name : String) (passes : LoadState σ → List Pass) : LoadState σ → List Pass
  | (s, records) =>
    let next := Record.nextLevel name records
    if next.isEmpty then [] else passes (s, next)

mutual

/-- The passes for a node and for all below it. -/
def passes (above : List String) : PathNode → LoadState σ → List Pass
  | ⟨name, constraint, children⟩, state =>
    modelPasses ctx above name constraint (Record.models state.2) state
      ++ (loadLevel ctx.recorded name constraint).followed state
        (nextPasses name (allPasses (above ++ [name]) children))

/-- The passes for nodes and for all below them. -/
def allPasses (above : List String) :
    List PathNode → LoadState σ → List Pass
  | [], _ => []
  | node :: rest, state =>
    node.passes above state ++ (node.load ctx.recorded).followed state (allPasses above rest)

end

/-! ## What a pass sends -/

section

variable {ctx} {name model : String} {constraint : Option Constraint}

theorem runFrom_loadModel_state {τ : Type} {ctx : LoadContext τ} (s : τ) (records : List Record) :
    ((loadModel ctx name constraint model).runFrom (s, records)).2.1
      = ((assignment ctx name constraint model records).runFrom s).2 := by
  rw [runFrom_loadModel]
  split
  · next h => rw [h]
  · next h => rw [h]

theorem models_runFrom_loadModel {τ : Type} {ctx : LoadContext τ} (s : τ) (records : List Record) :
    Record.models ((loadModel ctx name constraint model).runFrom (s, records)).2.2
      = Record.models records := by
  rw [runFrom_loadModel]
  split
  · rw [Record.models, Record.models, List.map_map]
    congr 1
    refine List.map_congr_left fun r _ => ?_
    rw [Function.comp_apply]
    split <;> rfl
  · rfl

variable (above : List String) {s : σ} {log : List Statement} {level : List Record}

/-- What a pass sends is what loading its relation adds to the log. -/
theorem sent_of_assignment {more : List Statement}
    (h : ((assignment ctx.recorded name constraint model level).runFrom (s, log)).2.2 = log ++ more) :
    ((loadModel ctx.recorded name constraint model).runFrom ((s, log), level)).2.1.2 = log ++ more
      ∧ (passOf ctx above name constraint model ((s, log), level)).sent = more := by
  have hlog : ((loadModel ctx.recorded name constraint model).runFrom ((s, log), level)).2.1.2
      = log ++ more := by
    rw [runFrom_loadModel_state, h]
  refine ⟨hlog, ?_⟩
  show List.drop log.length
    ((loadModel ctx.recorded name constraint model).runFrom ((s, log), level)).2.1.2 = more
  rw [hlog, List.drop_left]

variable (hconstraint : ∀ f ∈ constraint, f.Batches ctx.driver.dialect)
include hconstraint

theorem sendsAtMost_assignment :
    Action.SendsAtMost
      (ctx.registry.statementLimit model name (level.filter (Record.isOf model)))
      (assignment ctx.recorded name constraint model level) := by
  refine .ofExcept_bind fun m hm => .ofExcept_bind fun r hr => ?_
  have hlimit : ctx.registry.statementLimit model name (level.filter (Record.isOf model))
      = r.statementLimit (level.filter (Record.isOf model)) := by
    have hm' : ctx.registry.get model = .ok m := hm
    simp only [ModelRegistry.statementLimit, hm', hr]
  rw [hlimit]
  exact Relation.sendsAtMost_assignment hconstraint

/-- A pass adds to the log what it sends. -/
theorem log_loadModel :
    ((loadModel ctx.recorded name constraint model).runFrom ((s, log), level)).2.1.2
      = log ++ (passOf ctx above name constraint model ((s, log), level)).sent := by
  obtain ⟨more, hmore, -⟩ := sendsAtMost_assignment hconstraint s log
  obtain ⟨hlog, hsent⟩ := sent_of_assignment above hmore
  rw [hlog, hsent]

/-- **A pass sends at most as many statements as its limit says**, whatever the level. -/
theorem length_sent_passOf :
    (passOf ctx above name constraint model ((s, log), level)).sent.length
      ≤ (passOf ctx above name constraint model ((s, log), level)).limit ctx.registry := by
  obtain ⟨more, hmore, hlength⟩ := sendsAtMost_assignment hconstraint s log
  rw [(sent_of_assignment above hmore).2]
  exact hlength

/-- The rows of every record are limited by lateral statements. -/
theorem isLateral_of_mem_sent
    (hlimited : (passOf ctx above name constraint model ((s, log), level)).IsLimited ctx) :
    ∀ statement ∈ (passOf ctx above name constraint model ((s, log), level)).sent,
      statement.IsLateral := by
  obtain ⟨m, r, related, hm, hr, hmorph, hpivot, hrelated, hpaginated⟩ := hlimited
  have hsends : Action.Sends Statement.IsLateral
      (assignment ctx.recorded name constraint model level) := by
    refine .ofExcept_bind fun m' hm' => .ofExcept_bind fun r' hr' => ?_
    cases hm.symm.trans hm'
    cases hr.symm.trans hr'
    rw [Relation.assignment]
    cases hkind : r.kind with
    | morphTo => exact absurd hkind hmorph
    | belongsToMany => exact absurd hkind hpivot
    | _ => exact Relation.sends_directAssignment_lateral hconstraint hrelated hpaginated
  obtain ⟨more, hmore, hlateral⟩ := hsends s log
  rw [(sent_of_assignment above hmore).2]
  exact hlateral

end

/-! ## The log -/

/-- What an action adds to the log is what passes send. -/
def Logs (action : Action (LoadState σ) Unit)
    (passes : LoadState σ → List Pass) : Prop :=
  ∀ state, (action.runFrom state).2.1.2 = state.1.2 ++ (passes state).flatMap Pass.sent

namespace Logs

variable {action next : Action (LoadState σ) Unit}
  {passes following : LoadState σ → List Pass}

theorem pure : Logs (Pure.pure () : Action (LoadState σ) Unit) fun _ => [] :=
  fun state => (List.append_nil state.1.2).symm

theorem bind (h : Logs action passes) (hnext : Logs next following) :
    Logs (action >>= fun _ => next) fun state =>
      passes state ++ action.followed state following := by
  intro state
  have hlog := h state
  show ((action >>= fun _ => next).runFrom state).2.1.2
    = state.1.2 ++ (passes state ++ action.followed state following).flatMap Pass.sent
  rw [Action.runFrom_bind, Action.followed, List.flatMap_append, ← List.append_assoc]
  rcases hrun : action.runFrom state with ⟨e | _, behind⟩
  · rw [hrun] at hlog
    rw [← hlog]
    exact (List.append_nil _).symm
  · rw [hrun] at hlog
    rw [← hlog]
    exact hnext behind

theorem onNextLevel (name : String) (h : Logs action passes) :
    Logs (Loading.onNextLevel name action) (nextPasses name passes) := by
  rintro ⟨s, records⟩
  rw [Loading.runFrom_onNextLevel, nextPasses]
  split
  · exact (List.append_nil s.2).symm
  · exact h (s, Record.nextLevel name records)

end Logs

variable {ctx}

theorem logs_loadModels {name : String} {constraint : Option Constraint} (above : List String)
    (hconstraint : ∀ f ∈ constraint, f.Batches ctx.driver.dialect) (models : List String) :
    Logs (models.forM (loadModel ctx.recorded name constraint))
      (modelPasses ctx above name constraint models) := by
  induction models with
  | nil => exact .pure
  | cons model rest ih =>
      have hfirst : Logs (loadModel ctx.recorded name constraint model)
          fun state => [passOf ctx above name constraint model state] := by
        rintro ⟨⟨s, log⟩, level⟩
        rw [log_loadModel above hconstraint, List.flatMap_singleton]
      exact hfirst.bind ih

theorem logs_loadLevel {name : String} {constraint : Option Constraint} (above : List String)
    (hconstraint : ∀ f ∈ constraint, f.Batches ctx.driver.dialect) :
    Logs (loadLevel ctx.recorded name constraint)
      fun state => modelPasses ctx above name constraint (Record.models state.2) state :=
  fun state => logs_loadModels above hconstraint (Record.models state.2) state

mutual

theorem logs_load : ∀ (node : PathNode), node.Narrowed (·.Batches ctx.driver.dialect) →
    ∀ above, Logs (node.load ctx.recorded) (node.passes ctx above)
  | ⟨name, constraint, children⟩, hnarrowed, above => by
      obtain ⟨hconstraint, hbelow⟩ := hnarrowed
      intro state
      rw [load, passes]
      have hnext := (logs_loadAll children hbelow (above ++ [name])).onNextLevel name
      exact (logs_loadLevel above hconstraint).bind hnext state

/-- **All that nodes send is sent by their passes.** -/
theorem logs_loadAll : ∀ (nodes : List PathNode),
    AllNarrowed (·.Batches ctx.driver.dialect) nodes →
      ∀ above, Logs (loadAll ctx.recorded nodes) (allPasses ctx above nodes)
  | [], _, above => by
      intro state
      rw [loadAll, allPasses]
      exact Logs.pure state
  | node :: rest, hnarrowed, above => by
      obtain ⟨hnode, hrest⟩ := hnarrowed
      intro state
      rw [loadAll, allPasses]
      exact (logs_load node hnode above).bind (logs_loadAll rest hrest above) state

end

end PathNode

/-! ## Passes below nodes -/

/-- What holds of a pass over records of a level, for one of the nodes or for a node below them. -/
structure Pass.Belongs (ctx : LoadContext σ) (above : List String) (nodes : List PathNode)
    (p : Pass) : Prop where
  path : ∃ name below, p.path = above ++ name :: below ∧ PathNode.Reaches nodes (name :: below)
  present : p.model ∈ Record.models p.level
  atMost : p.sent.length ≤ p.limit ctx.registry
  lateral : p.IsLimited ctx → ∀ statement ∈ p.sent, statement.IsLateral

namespace Pass.Belongs

variable {ctx : LoadContext σ} {above : List String} {node : PathNode} {nodes others : List PathNode}
  {p : Pass}

theorem mono (h : p.Belongs ctx above nodes) (hnodes : nodes ⊆ others) :
    p.Belongs ctx above others := by
  obtain ⟨name, below, hpath, other, hother, hreaches⟩ := h.path
  exact { h with path := ⟨name, below, hpath, other, hnodes hother, hreaches⟩ }

theorem of_children (h : p.Belongs ctx (above ++ [node.name]) node.children) :
    p.Belongs ctx above [node] := by
  obtain ⟨name, below, hpath, hreaches⟩ := h.path
  have hpath' : p.path = above ++ node.name :: name :: below := by
    rw [hpath, List.append_assoc, List.singleton_append]
  exact { h with
    path := ⟨node.name, name :: below, hpath', node, List.mem_singleton_self _, rfl, hreaches⟩ }

/-- Passes below a node are not for the node itself. -/
theorem path_ne (h : p.Belongs ctx above nodes) : p.path ≠ above := by
  obtain ⟨name, below, hpath, -⟩ := h.path
  intro heq
  rw [hpath, List.append_right_eq_self] at heq
  cases heq

/-- Passes for nodes of other names are for other nodes. -/
theorem path_ne_of_names {p' : Pass} (h : p.Belongs ctx above [node])
    (h' : p'.Belongs ctx above others) (hname : node.name ∉ PathNode.names others) :
    p.path ≠ p'.path := by
  obtain ⟨name, below, hpath, first, hfirst, rfl, -⟩ := h.path
  obtain ⟨name', below', hpath', other, hother, rfl, -⟩ := h'.path
  rw [hpath, hpath']
  intro heq
  injection List.append_cancel_left heq with hsame
  rw [List.mem_singleton.1 hfirst] at hsame
  exact hname (hsame ▸ List.mem_map_of_mem hother)

end Pass.Belongs

namespace PathNode

variable {ctx : LoadContext σ}

theorem belongs_modelPasses {above : List String} {node : PathNode}
    (hconstraint : ∀ f ∈ node.constraint, f.Batches ctx.driver.dialect) {models : List String}
    {state : LoadState σ} (hmodels : ∀ model ∈ models, model ∈ Record.models state.2) :
    ∀ p ∈ modelPasses ctx above node.name node.constraint models state, p.Belongs ctx above [node] := by
  induction models generalizing state with
  | nil => exact fun p hp => absurd hp List.not_mem_nil
  | cons model rest ih =>
      intro p hp
      rcases List.mem_cons.1 hp with rfl | hp
      · obtain ⟨⟨s, log⟩, level⟩ := state
        exact {
          path := ⟨node.name, [], rfl, node, List.mem_singleton_self _, rfl, trivial⟩
          present := hmodels model (List.mem_cons_self ..)
          atMost := length_sent_passOf above hconstraint
          lateral := isLateral_of_mem_sent above hconstraint }
      · obtain ⟨_, ⟨s, records⟩, hrun, hp⟩ := Action.mem_followed hp
        refine ih (fun other hother => ?_) p hp
        -- the models of a level stay the same while one after another is loaded
        have hsame : Record.models ((loadModel ctx.recorded node.name node.constraint model).runFrom
            (state.1, state.2)).2.2 = Record.models state.2 := models_runFrom_loadModel _ _
        rw [hrun] at hsame
        exact hsame ▸ hmodels other (List.mem_cons_of_mem _ hother)

theorem exists_mem_of_mem_nextPasses {name : String} {passes : LoadState σ → List Pass}
    {state : LoadState σ} {p : Pass} (h : p ∈ nextPasses name passes state) :
    ∃ next, p ∈ passes next := by
  rw [nextPasses] at h
  split at h
  · cases h
  · exact ⟨_, h⟩

mutual

/-- Every pass belongs to one of the nodes below which it is made. -/
theorem belongs_passes : ∀ (node : PathNode), node.Narrowed (·.Batches ctx.driver.dialect) →
    ∀ above state, ∀ p ∈ node.passes ctx above state, p.Belongs ctx above [node]
  | ⟨name, constraint, children⟩, hnarrowed, above, state, p, hp => by
      obtain ⟨hconstraint, hbelow⟩ := hnarrowed
      rw [passes] at hp
      rcases List.mem_append.1 hp with hp | hp
      · let node : PathNode := ⟨name, constraint, children⟩
        have hnode : ∀ f ∈ node.constraint, f.Batches ctx.driver.dialect := hconstraint
        exact belongs_modelPasses hnode (fun _ hmodel => hmodel) p hp
      · obtain ⟨_, behind, -, hp⟩ := Action.mem_followed hp
        obtain ⟨next, hp⟩ := exists_mem_of_mem_nextPasses hp
        exact (belongs_allPasses children hbelow (above ++ [name]) next p hp).of_children

theorem belongs_allPasses : ∀ (nodes : List PathNode),
    AllNarrowed (·.Batches ctx.driver.dialect) nodes →
      ∀ above state, ∀ p ∈ allPasses ctx above nodes state, p.Belongs ctx above nodes
  | [], _, above, state, p, hp => by
      rw [allPasses] at hp
      cases hp
  | node :: rest, hnarrowed, above, state, p, hp => by
      obtain ⟨hnode, hrest⟩ := hnarrowed
      rw [allPasses] at hp
      rcases List.mem_append.1 hp with hp | hp
      · refine (belongs_passes node hnode above state p hp).mono ?_
        exact List.cons_subset_cons _ (List.nil_subset _)
      · obtain ⟨_, behind, -, hp⟩ := Action.mem_followed hp
        exact (belongs_allPasses rest hrest above behind p hp).mono (List.subset_cons_self _ _)

end

/-! ## One pass for every node and model -/

theorem map_key_modelPasses (ctx : LoadContext σ) (above : List String) (name : String)
    (constraint : Option Constraint) (models : List String) (state : LoadState σ) :
    (modelPasses ctx above name constraint models state).map Pass.key
      <+: models.map fun model => (above ++ [name], model) := by
  induction models generalizing state with
  | nil => exact List.prefix_refl _
  | cons model rest ih =>
      rw [modelPasses, List.map_cons, List.map_cons]
      refine (List.prefix_cons_inj _).2 ?_
      rw [Action.followed]
      split
      · exact ih _
      · exact List.nil_prefix

theorem nodup_followed {action : Action (LoadState σ) Unit} {state : LoadState σ}
    {passes : LoadState σ → List Pass} (h : ∀ behind, ((passes behind).map Pass.key).Nodup) :
    ((action.followed state passes).map Pass.key).Nodup := by
  rw [Action.followed]
  split
  · exact h _
  · exact List.nodup_nil

mutual

theorem nodup_passes : ∀ (node : PathNode), node.Distinct →
    node.Narrowed (·.Batches ctx.driver.dialect) →
      ∀ above state, ((node.passes ctx above state).map Pass.key).Nodup
  | ⟨name, constraint, children⟩, hdistinct, hnarrowed, above, state => by
      rw [passes, List.map_append, List.nodup_append']
      refine ⟨?_, nodup_followed fun behind => ?_, ?_⟩
      · refine (map_key_modelPasses ctx above name constraint _ state).sublist.nodup ?_
        exact (Text.nodup_sortedNames _).map fun _ _ h => congrArg Prod.snd h
      · rw [nextPasses]
        split
        · exact List.nodup_nil
        · exact nodup_allPasses children hdistinct hnarrowed.2 (above ++ [name]) _
      · intro key hown hnext
        obtain ⟨model, -, rfl⟩ := List.mem_map.1
          ((map_key_modelPasses ctx above name constraint _ state).subset hown)
        obtain ⟨p, hp, hkey⟩ := List.mem_map.1 hnext
        obtain ⟨_, behind, -, hp⟩ := Action.mem_followed hp
        obtain ⟨next, hp⟩ := exists_mem_of_mem_nextPasses hp
        have hbelongs := belongs_allPasses children hnarrowed.2 (above ++ [name]) next p hp
        exact hbelongs.path_ne (congrArg Prod.fst hkey)

theorem nodup_allPasses : ∀ (nodes : List PathNode), AllDistinct nodes →
    AllNarrowed (·.Batches ctx.driver.dialect) nodes →
      ∀ above state, ((allPasses ctx above nodes state).map Pass.key).Nodup
  | [], _, _, above, state => by
      rw [allPasses]
      exact List.nodup_nil
  | node :: rest, hdistinct, hnarrowed, above, state => by
      obtain ⟨hnot, hnode, hrest⟩ := hdistinct
      rw [allPasses, List.map_append, List.nodup_append']
      refine ⟨nodup_passes node hnode hnarrowed.1 above state,
        nodup_followed (nodup_allPasses rest hrest hnarrowed.2 above), ?_⟩
      intro key hfirst hbehind
      obtain ⟨p, hp, rfl⟩ := List.mem_map.1 hfirst
      obtain ⟨p', hp', hkey⟩ := List.mem_map.1 hbehind
      obtain ⟨_, behind, -, hp'⟩ := Action.mem_followed hp'
      have hbelongs := belongs_passes node hnarrowed.1 above state p hp
      have hbelongs' := belongs_allPasses rest hnarrowed.2 above behind p' hp'
      exact hbelongs.path_ne_of_names hbelongs' hnot (congrArg Prod.fst hkey).symm

end

end PathNode

/-! ## Loaders -/

namespace EagerLoader

/-- The statements that loading sends, be it that it succeeds or fails. -/
def sent (loader : EagerLoader) (driver : Driver σ) (registry : ModelRegistry) (s : σ)
    (records : List Record) : List Statement :=
  ((loader.load driver.recorded registry).runFrom ((s, []), records)).2.1.2

/-- The passes of loading. -/
def passes (loader : EagerLoader) (driver : Driver σ) (registry : ModelRegistry) (s : σ)
    (records : List Record) : List Pass :=
  if loader.malformed.isSome || records.isEmpty then []
  else
    PathNode.allPasses { driver, registry, fallback := loader.fallback } [] loader.nodes
      ((s, []), records)

/-- Nothing is sent under a malformed path or without records. -/
theorem sent_passes_cases (loader : EagerLoader) (driver : Driver σ) (registry : ModelRegistry)
    (s : σ) (records : List Record) :
    (loader.sent driver registry s records = [] ∧ loader.passes driver registry s records = [])
      ∨ ∃ ctx : LoadContext σ, ctx = { driver, registry, fallback := loader.fallback }
          ∧ loader.sent driver registry s records
              = ((PathNode.loadAll ctx.recorded loader.nodes).runFrom ((s, []), records)).2.1.2
          ∧ loader.passes driver registry s records
              = PathNode.allPasses ctx [] loader.nodes ((s, []), records) := by
  cases hmalformed : loader.malformed with
  | some path =>
      refine .inl ⟨?_, ?_⟩
      · rw [sent, load, hmalformed]
        rfl
      · rw [passes, hmalformed]
        rfl
  | none =>
      cases hempty : records.isEmpty with
      | true =>
          refine .inl ⟨?_, ?_⟩
          · rw [sent, runFrom_load hmalformed, if_pos hempty]
          · rw [passes, hempty, Bool.or_true, if_pos rfl]
      | false =>
          refine .inr ⟨_, rfl, ?_, ?_⟩
          · rw [sent, runFrom_load hmalformed, if_neg (Bool.eq_false_iff.1 hempty)]
            rfl
          · rw [passes, hmalformed, hempty]
            rfl

/-- **Loading sends no more statements for more records.** All statements are sent by passes over the
    records of one model at one level. There is at most one pass for a node and a model, and some record
    of the level is of the model. A pass sends nothing for records without a key, and otherwise at most
    one statement, or two by way of a pivot table, or one for every type of owner that the records name.
    What is sent in all is at most the sum of these. A limit on the rows of every record, where the
    dialect can set it, is part of a lateral statement. -/
theorem statements_per_pass {fallback : LateralFallback} {paths : List (String × Option Constraint)}
    {driver : Driver σ} (hpaths : ∀ path ∈ paths, ∀ f ∈ path.2, f.Batches driver.dialect)
    (registry : ModelRegistry) (s : σ) (records : List Record) :
    (ofPaths fallback paths).sent driver registry s records
        = ((ofPaths fallback paths).passes driver registry s records).flatMap Pass.sent
      ∧ (((ofPaths fallback paths).passes driver registry s records).map Pass.key).Nodup
      ∧ (∀ p ∈ (ofPaths fallback paths).passes driver registry s records,
          PathNode.Reaches (ofPaths fallback paths).nodes p.path
          ∧ p.model ∈ Record.models p.level
          ∧ p.sent.length ≤ p.limit registry
          ∧ (p.IsLimited { driver, registry, fallback } →
              ∀ statement ∈ p.sent, statement.IsLateral))
      ∧ ((ofPaths fallback paths).sent driver registry s records).length
          ≤ (((ofPaths fallback paths).passes driver registry s records).map
              (Pass.limit registry)).sum := by
  rcases sent_passes_cases (ofPaths fallback paths) driver registry s records with
    ⟨hsent, hpasses⟩ | ⟨ctx, hctx, hsent, hpasses⟩
  · rw [hsent, hpasses]
    exact ⟨rfl, List.nodup_nil, nofun, Nat.le_refl 0⟩
  · have hnarrowed : PathNode.AllNarrowed (·.Batches ctx.driver.dialect)
        (ofPaths fallback paths).nodes := hctx ▸ narrowed_ofPaths hpaths
    have hall := PathNode.belongs_allPasses _ hnarrowed [] ((s, []), records)
    have hlogs := PathNode.logs_loadAll _ hnarrowed [] ((s, []), records)
    rw [hsent, hpasses, hlogs, List.nil_append]
    rw [show (ofPaths fallback paths).fallback = fallback from fallback_addPaths _ _] at hctx
    have hregistry : ctx.registry = registry := hctx ▸ rfl
    rw [← hctx, ← hregistry]
    refine ⟨rfl, PathNode.nodup_allPasses _ distinct_ofPaths hnarrowed _ _, fun p hp => ?_, ?_⟩
    · have hbelongs := hall p hp
      obtain ⟨name, below, hpath, hreaches⟩ := hbelongs.path
      exact ⟨hpath ▸ hreaches, hbelongs.present, hbelongs.atMost, hbelongs.lateral⟩
    · rw [List.length_flatMap]
      exact List.sum_le_sum fun p hp => (hall p hp).atMost

/-- Three comments on a post and one on a video, whose authors are loaded under a limit: two statements for
    the types of owners, and a lateral one for the authors of each of the two models. -/
theorem statements_per_pass_below_owners :
    ∃ (comment user post video : Model) (registry : ModelRegistry) (driver : Driver Unit)
      (latest : Constraint) (records : List Record) (loader : EagerLoader) (passes : List Pass),
      comment = { name := "Comment", table := "comments",
                  relations := [.morphTo "commentable" "commentable"] }
      ∧ user = { name := "User", table := "users" }
      ∧ post = { name := "Post", table := "posts",
                 relations := [.belongsTo "author" "User" "author_id"] }
      ∧ video = { name := "Video", table := "videos",
                  relations := [.belongsTo "author" "User" "author_id"] }
      ∧ registry = [comment, user, post, video].foldl (fun reg m => reg.register m) {}
      ∧ driver = { Driver.blank .postgres with
          query := fun _ => pure (.ofRows [.ofList [("id", .int 1), ("author_id", .int 1)]]) }
      ∧ latest = (fun b => b.limit 1)
      ∧ records = ["Post", "Post", "Video", "Post"].map (fun tag => .ofRow comment
          (.ofList [("commentable_type", .text tag), ("commentable_id", .int 1)]))
      ∧ loader = ofPaths .error [("commentable.author", some latest)]
      ∧ passes = loader.passes driver registry () records
      ∧ passes.map (fun p => (p.key, p.group.length, p.sent.length))
          = [((["commentable"], "Comment"), 4, 2), ((["commentable", "author"], "Post"), 3, 1),
            ((["commentable", "author"], "Video"), 1, 1)]
      ∧ loader.sent driver registry () records = passes.flatMap Pass.sent
      ∧ (passes.map Pass.key).Nodup
      ∧ (∀ p ∈ passes, p.sent.length ≤ p.limit registry
          ∧ (p.IsLimited { driver, registry, fallback := .error } →
              ∀ statement ∈ p.sent, statement.IsLateral))
      ∧ (loader.sent driver registry () records).length
          ≤ (passes.map (Pass.limit registry)).sum := by
  let comment : Model :=
    { name := "Comment", table := "comments",
      relations := [.morphTo "commentable" "commentable"] }
  let user : Model := { name := "User", table := "users" }
  let post : Model :=
    { name := "Post", table := "posts",
      relations := [.belongsTo "author" "User" "author_id"] }
  let video : Model :=
    { name := "Video", table := "videos",
      relations := [.belongsTo "author" "User" "author_id"] }
  let registry : ModelRegistry := [comment, user, post, video].foldl (fun reg m => reg.register m) {}
  let driver : Driver Unit := { Driver.blank .postgres with
    query := fun _ => pure (.ofRows [.ofList [("id", .int 1), ("author_id", .int 1)]]) }
  let latest : Constraint := fun b => b.limit 1
  let records : List Record := ["Post", "Post", "Video", "Post"].map fun tag => .ofRow comment
    (.ofList [("commentable_type", .text tag), ("commentable_id", .int 1)])
  have hpath : segments "commentable.author" = ["commentable", "author"] := by decide +kernel
  have hloader : ofPaths .error [("commentable.author", some latest)]
      = { nodes := [{ name := "commentable",
                      children := [{ name := "author", constraint := some latest }] }] } := by
    rw [ofPaths, addPaths_cons, addPath, hpath]
    rfl
  have hcounts : ((ofPaths .error [("commentable.author", some latest)]).passes driver registry ()
        records).map (fun p => (p.key, p.group.length, p.sent.length))
      = [((["commentable"], "Comment"), 4, 2), ((["commentable", "author"], "Post"), 3, 1),
        ((["commentable", "author"], "Video"), 1, 1)] := by
    rw [hloader]
    subst records latest driver registry video post user comment
    rfl
  have hbatches : ∀ path ∈ [("commentable.author", some latest)], ∀ f ∈ path.2,
      f.Batches driver.dialect := by
    intro path hmem f hf
    rw [List.mem_singleton.1 hmem] at hf
    cases hf
    exact .inr ⟨rfl, fun _ => rfl⟩
  obtain ⟨hsent, hkeys, hpasses, htotal⟩ := statements_per_pass hbatches registry () records
  exact ⟨comment, user, post, video, registry, driver, latest, records, _, _, rfl, rfl, rfl, rfl, rfl, rfl,
    rfl, rfl, rfl, rfl, hcounts, hsent, hkeys, fun p hp => (hpasses p hp).2.2, htotal⟩

end EagerLoader

end QueryKit
