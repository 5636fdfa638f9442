import QueryKit.Eager.Relation
set_option autoImplicit false

/-! # Loading paths

Paths are loaded level by level. At every level the records of one model are loaded together, and
what they lead to, across all models, is the next level. The records are part of the state of the
action, so what was loaded before a failure stays. -/

namespace QueryKit

namespace Record

/-- Is a record of the model of a name. -/
def isOf (model : String) (r : Record) : Bool :=
  r.model.name == model

/-- The models of records, in the order in which they are loaded. -/
def models (records : List Record) : List String :=
  Text.sortedNames (records.map (·.model.name))

/-- Puts the changed records of a model back in their places. -/
def putBack (model : String) : List Record → List Record → List Record
  | [], _ => []
  | r :: rest, changed =>
    if r.isOf model then
      match changed with
      | [] => r :: rest
      | first :: others => first :: putBack model rest others
    else r :: putBack model rest changed

/-! ## From a level to the next -/

/-- What the records of a model lead to. -/
def relatedOf (name : String) (records : List Record) (model : String) : List Record :=
  (records.filter (isOf model)).flatMap (related name)

/-- The next level: what records lead to, model by model. -/
def nextLevel (name : String) (records : List Record) : List Record :=
  (models records).flatMap (relatedOf name records)

/-- Puts the records of the next level back in the places of what the records of a model lead to.
    Those that are left belong to other models. -/
def refillModel (name model : String) : List Record → List Record → List Record × List Record
  | [], next => ([], next)
  | r :: rest, next =>
    let count := if r.isOf model then (r.related name).length else 0
    let (filled, left) := refillModel name model rest (next.drop count)
    ((if r.isOf model then r.refill name (next.take count) else r) :: filled, left)

/-- Puts the records of the next level back in their places. -/
def refillLevel (name : String) (records next : List Record) : List Record :=
  ((models records).foldl (fun (filled, left) model => refillModel name model filled left)
    (records, next)).1

end Record

/-! ## Loading -/

namespace Loading

variable {σ : Type}

/-- Does something with the records of a model, in their places among all records. -/
def onModel (model : String) (loading : Loading σ Unit) : Loading σ Unit :=
  Action.ofRun fun (s, records) =>
    let (result, s, changed) := loading.runFrom (s, records.filter (Record.isOf model))
    (result, (s, Record.putBack model records changed))

/-- Does something with the next level. -/
def onNextLevel (name : String) (loading : Loading σ Unit) : Loading σ Unit :=
  Action.ofRun fun (s, records) =>
    let next := Record.nextLevel name records
    if next.isEmpty then (.ok (), (s, records))
    else
      let (result, s, next) := loading.runFrom (s, next)
      (result, (s, Record.refillLevel name records next))

end Loading

namespace PathNode

variable {σ : Type}

/-- Loads a relation on the records of a model. -/
def loadModel (ctx : LoadContext σ) (name : String) (constraint : Option Constraint)
    (model : String) : Loading σ Unit := do
  let m ← Action.ofExcept (ctx.registry.get model)
  let r ← Action.ofExcept (m.relation name)
  (r.load ctx m constraint).onModel model

/-- Loads a relation on records of any models. -/
def loadLevel (ctx : LoadContext σ) (name : String) (constraint : Option Constraint) :
    Loading σ Unit := do
  let records ← Loading.records
  (Record.models records).forM (loadModel ctx name constraint)

mutual

/-- Loads the relation of a node, and then those below it. -/
def load (ctx : LoadContext σ) : PathNode → Loading σ Unit
  | ⟨name, constraint, children⟩ => do
    loadLevel ctx name constraint
    (loadAll ctx children).onNextLevel name

/-- Loads nodes one after another. -/
def loadAll (ctx : LoadContext σ) : List PathNode → Loading σ Unit
  | [] => return ()
  | node :: rest => do
    node.load ctx
    loadAll ctx rest

end

end PathNode

namespace EagerLoader

variable {σ : Type}

/-- Loads the paths on records. -/
def load (loader : EagerLoader) (driver : Driver σ) (registry : ModelRegistry) : Loading σ Unit :=
  match loader.malformed with
  | some path => throw (.validation (.relationPath path))
  | none =>
    Action.ofRun fun (s, records) =>
      if records.isEmpty then (.ok (), (s, records))
      else
        let ctx : LoadContext σ := { driver, registry, fallback := loader.fallback }
        (PathNode.loadAll ctx loader.nodes).runFrom (s, records)

/-- Loads the paths on records and answers the records. -/
def loaded (loader : EagerLoader) (driver : Driver σ) (registry : ModelRegistry)
    (records : List Record) : Action σ (List Record) :=
  (loader.load driver registry).on records

/-- Reads rows of a model and loads the paths on their records. -/
def get (loader : EagerLoader) (driver : Driver σ) (registry : ModelRegistry) (model : String)
    (query : Builder) : Action σ (List Record) := do
  let rows ← Builder.get driver query
  let records ← Action.ofExcept (registry.hydrate model rows)
  loader.loaded driver registry records

end EagerLoader

end QueryKit
