import QueryKit.Eager.Relation
import QueryKit.Proofs.Builder.Carried
import QueryKit.Proofs.Builder.Windows

set_option autoImplicit false

/-! # Queries of relations

A model whose scopes are known as calls begins its queries with calls, and so do its relations, as long
as constraints are calls too. The queries that the loading of a relation makes, and the columns by
which it binds ids, are listed by `Relation.Queries`. -/

namespace QueryKit

/-- The constraint that makes calls. -/
def Constraint.ofCalls (calls : List Call) : Constraint :=
  fun b => runCalls b calls

/-! ## Models whose scopes are calls -/

namespace Model

/-- The scopes of the model make these calls. -/
def ScopedBy (m : Model) (bodies : List (String × List Call)) : Prop :=
  m.scopes = bodies.map Call.namedScope

/-- The calls by which a query of the model begins. -/
def queryCalls (m : Model) (bodies : List (String × List Call)) : List Call :=
  .primaryKey m.primaryKey :: bodies.map fun (name, body) => .scope name body

variable (m : Model) (bodies : List (String × List Call))

theorem query_eq_runCalls (h : m.ScopedBy bodies) (d : Dialect) :
    m.query d = runCalls (Builder.new d m.table) (m.queryCalls bodies) := by
  rw [query, h, queryCalls, runCalls, Call.run]
  generalize (Builder.new d m.table).primaryKey m.primaryKey = b
  clear h
  induction bodies generalizing b with
  | nil => rfl
  | cons entry rest ih => exact ih _

theorem clausesOf_queryCalls : clausesOf (m.queryCalls bodies) = [] := by
  show clausesOf (bodies.map _) = []
  induction bodies with
  | nil => rfl
  | cons entry rest ih => exact ih

theorem setsWindow_queryCalls : ∀ call ∈ m.queryCalls bodies, call.setsWindow = false := by
  intro call hcall
  rcases List.mem_cons.1 hcall with rfl | hcall
  · rfl
  · obtain ⟨entry, -, rfl⟩ := List.mem_map.1 hcall
    rfl

end Model

/-- The scopes of all models are known as calls. -/
def ModelRegistry.ScopedByCalls (reg : ModelRegistry) : Prop :=
  ∀ name m, reg.get name = .ok m → ∃ bodies, m.ScopedBy bodies

theorem ModelRegistry.scopedByCalls_of_scopes_nil {reg : ModelRegistry}
    (h : ∀ entry ∈ reg.models, entry.2.scopes = []) : reg.ScopedByCalls := by
  intro name m hm
  rw [ModelRegistry.get] at hm
  split at hm
  · next model hget =>
      cases hm
      exact ⟨[], h _ (Assoc.mem_of_get? hget)⟩
  · cases hm

theorem ModelRegistry.ScopedByCalls.madeOfCalls {reg : ModelRegistry} (h : reg.ScopedByCalls)
    {name : String} {m : Model} (hm : reg.get name = .ok m) (d : Dialect) :
    (m.query d).MadeOfCalls := by
  obtain ⟨bodies, hbodies⟩ := h name m hm
  rw [m.query_eq_runCalls bodies hbodies]
  exact (Builder.MadeOfCalls.new d m.table).runCalls _

theorem ModelRegistry.ScopedByCalls.window {reg : ModelRegistry} (h : reg.ScopedByCalls)
    {name : String} {m : Model} (hm : reg.get name = .ok m) (d : Dialect) :
    (m.query d).draft.window = (none, none) := by
  obtain ⟨bodies, hbodies⟩ := h name m hm
  rw [m.query_eq_runCalls bodies hbodies]
  exact window_runCalls (m.setsWindow_queryCalls bodies) _

/-! ## Queries -/

namespace Relation

theorem madeOfCalls_constrained {b : Builder} (h : b.MadeOfCalls) (narrowing : Option (List Call)) :
    (constrained (narrowing.map Constraint.ofCalls) b).MadeOfCalls := by
  cases narrowing with
  | none => exact h
  | some calls => exact (h.runCalls calls).groupWheres

theorem window_constrained {narrowing : Option (List Call)}
    (h : ∀ calls ∈ narrowing, ∀ call ∈ calls, call.setsWindow = false) (b : Builder) :
    (constrained (narrowing.map Constraint.ofCalls) b).draft.window = b.draft.window := by
  cases narrowing with
  | none => rfl
  | some calls => exact (window_groupWheres _).trans (window_runCalls (h calls rfl) b)

theorem get_of_relatedModel {r : Relation} {reg : ModelRegistry} {related : Model}
    (h : r.relatedModel reg = .ok related) : ∃ name, reg.get name = .ok related := by
  rw [relatedModel] at h
  split at h
  · next name _ => exact ⟨name, h⟩
  · cases h

theorem get_of_resolveMorph {reg : ModelRegistry} {tag : String} {m : Model}
    (h : reg.resolveMorph tag = .ok m) : ∃ name, reg.get name = .ok m := by
  rw [ModelRegistry.resolveMorph] at h
  split at h
  · next name _ => exact ⟨name, h⟩
  · cases h

variable {σ : Type} (ctx : LoadContext σ) (parent : Model) (r : Relation)

/-- The queries that loading makes, with the columns by which ids are bound. -/
inductive Queries (constraint : Option Constraint) : Builder → String → Prop
  | direct (related : Model) : r.kind ≠ .morphTo → r.kind ≠ .belongsToMany →
    r.relatedModel ctx.registry = .ok related →
      Queries constraint (directQuery ctx parent related r constraint) r.relatedKey
  | owners (tag : String) (model : Model) : r.kind = .morphTo →
    ctx.registry.resolveMorph tag = .ok model →
      Queries constraint (constrained constraint (model.query ctx.driver.dialect)) model.primaryKey
  | links (pivot : Pivot) : r.kind = .belongsToMany → r.pivot = some pivot →
      Queries constraint (pivotQuery ctx.driver.dialect pivot) pivot.parentColumn
  | linked (related : Model) : r.kind = .belongsToMany →
    r.relatedModel ctx.registry = .ok related →
      Queries constraint (constrained constraint (related.query ctx.driver.dialect))
        related.primaryKey

variable {ctx parent r} {narrowing : Option (List Call)}

theorem Queries.madeOfCalls (hscoped : ctx.registry.ScopedByCalls) {b : Builder} {column : String}
    (h : Queries ctx parent r (narrowing.map Constraint.ofCalls) b column) : b.MadeOfCalls := by
  cases h with
  | direct related _ _ hrelated =>
      obtain ⟨name, hname⟩ := get_of_relatedModel hrelated
      refine madeOfCalls_constrained ?_ narrowing
      have hquery := hscoped.madeOfCalls hname ctx.driver.dialect
      cases r.typeColumn with
      | none => exact hquery
      | some column => exact hquery.runCalls [.compare .and column "=" (.text parent.morphType)]
  | owners tag model _ hmodel =>
      obtain ⟨name, hname⟩ := get_of_resolveMorph hmodel
      exact madeOfCalls_constrained (hscoped.madeOfCalls hname _) narrowing
  | links pivot _ _ =>
      exact (Builder.MadeOfCalls.new _ pivot.table).runCalls
        [.select [pivot.parentColumn, pivot.relatedColumn]]
  | linked related _ hrelated =>
      obtain ⟨name, hname⟩ := get_of_relatedModel hrelated
      exact madeOfCalls_constrained (hscoped.madeOfCalls hname _) narrowing

/-- Without a window in the constraint, the query for the related rows has none. -/
theorem isPaginated_directQuery (hscoped : ctx.registry.ScopedByCalls)
    (h : ∀ calls ∈ narrowing, ∀ call ∈ calls, call.setsWindow = false) {related : Model}
    (hrelated : r.relatedModel ctx.registry = .ok related) :
    (directQuery ctx parent related r (narrowing.map Constraint.ofCalls)).isPaginated = false := by
  obtain ⟨name, hname⟩ := get_of_relatedModel hrelated
  have hquery := hscoped.window hname ctx.driver.dialect
  apply isPaginated_of_window
  rw [directQuery, window_constrained h]
  cases r.typeColumn with
  | none => exact hquery
  | some column =>
      have hsets : (Call.compare .and column "=" (.text parent.morphType)).setsWindow = false := rfl
      exact (Call.window_run hsets _).trans hquery

end Relation

end QueryKit
