import QueryKit.Proofs.Driver.Action
import QueryKit.Proofs.Eager.Keys
import QueryKit.Proofs.Eager.Narrowing

set_option autoImplicit false

/-! # Statements of a relation

How many statements the loading of a relation sends does not depend on how many records it is loaded on
(`Relation.sendsAtMost_assignment`). Their keys are bound as one list, so one statement reads the
related rows, or two by way of a pivot table, or one for each type of owner. The rows of every record can
be limited only where a dialect reads them for all records in one lateral statement. -/

namespace QueryKit

/-! ## Constraints that read in batches -/

namespace Constraint

/-- The constraint sets no limit on the rows. -/
def Unlimited (f : Constraint) : Prop :=
  ∀ b, b.isPaginated = false → (f b).isPaginated = false

/-- What the constraint narrows is still read in its dialect. -/
def KeepsDialect (f : Constraint) : Prop :=
  ∀ b, (f b).dialect = b.dialect

/-- The constraint sets no limit, or the dialect can limit the rows of many records at once. -/
def Batches (d : Dialect) (f : Constraint) : Prop :=
  f.Unlimited ∨ (d.supportsLateral = true ∧ f.KeepsDialect)

end Constraint

/-- The statement is a lateral read. -/
def Statement.IsLateral (statement : Statement) : Prop :=
  ∃ d q foreignKey ids, Sql.compileLateral d q foreignKey ids = .ok statement

/-- Registering the scopes of a model adds nothing to its query yet. -/
theorem Model.draft_query (m : Model) (d : Dialect) :
    (m.query d).draft = ((Builder.new d m.table).primaryKey m.primaryKey).draft := by
  rw [query]
  generalize (Builder.new d m.table).primaryKey m.primaryKey = b
  generalize m.scopes = scopes
  induction scopes generalizing b with
  | nil => rfl
  | cons entry rest ih => exact ih _

namespace Builder

theorem dialect_whereEq (b : Builder) (column : String) (v : Value) :
    (b.whereEq column v).dialect = b.dialect := by
  have hguarded : ∀ (fault : Option Fault) (change : Draft → Draft),
      (∀ d, (change d).dialect = d.dialect) →
        (b.draft.guarded fault change).dialect = b.draft.dialect := by
    intro fault change hchange
    cases fault with
    | none => exact hchange b.draft
    | some fault => rfl
  simp only [whereEq, compare, modify, Draft.withOperator_eq, Draft.guarded_guarded]
  exact hguarded _ _ fun _ => rfl

theorem isPaginated_whereEq (b : Builder) (column : String) (v : Value) :
    (b.whereEq column v).isPaginated = b.isPaginated := by
  have hsets : (Call.compare .and column "=" v).setsWindow = false := rfl
  have hwindow : (b.whereEq column v).draft.window = b.draft.window := Call.window_run hsets b
  rw [Draft.window, Draft.window, Prod.mk.injEq] at hwindow
  rw [isPaginated, isPaginated, Query.isPaginated, Query.isPaginated, hwindow.1, hwindow.2]

theorem dialect_groupWheres (b : Builder) : b.groupWheres.dialect = b.dialect := by
  rw [groupWheres, modify, Draft.groupWheres]
  split <;> rfl

theorem isPaginated_groupWheres (b : Builder) : b.groupWheres.isPaginated = b.isPaginated := by
  rw [groupWheres, modify, Draft.groupWheres]
  split <;> rfl

end Builder

namespace Relation

variable {σ : Type} {ctx : LoadContext σ} {parent : Model} {r : Relation}
  {constraint : Option Constraint} {parents : List Record}

/-! ## Queries under a limit -/

theorem isPaginated_constrained (hconstraint : ∀ f ∈ constraint, f.Unlimited) {b : Builder}
    (h : b.isPaginated = false) : (constrained constraint b).isPaginated = false := by
  cases constraint with
  | none => exact h
  | some f =>
      rw [constrained, Builder.isPaginated_groupWheres]
      exact hconstraint f rfl b h

theorem dialect_constrained (hconstraint : ∀ f ∈ constraint, f.KeepsDialect) (b : Builder) :
    (constrained constraint b).dialect = b.dialect := by
  cases constraint with
  | none => rfl
  | some f =>
      rw [constrained, Builder.dialect_groupWheres]
      exact hconstraint f rfl b

/-- The query for the related rows has no limit, or its dialect can limit the rows of many records. -/
theorem batches_directQuery (hconstraint : ∀ f ∈ constraint, f.Batches ctx.driver.dialect)
    (related : Model) :
    (directQuery ctx parent related r constraint).isPaginated = false
      ∨ (directQuery ctx parent related r constraint).dialect.supportsLateral = true := by
  obtain ⟨b, hb, hpaginated, hdialect⟩ : ∃ b,
      directQuery ctx parent related r constraint = constrained constraint b
        ∧ b.isPaginated = false ∧ b.dialect = ctx.driver.dialect := by
    have hpaginated : (related.query ctx.driver.dialect).isPaginated = false := by
      rw [Builder.isPaginated, Model.draft_query]
      rfl
    have hdialect : (related.query ctx.driver.dialect).dialect = ctx.driver.dialect := by
      rw [Builder.dialect, Model.draft_query]
      rfl
    refine ⟨_, rfl, ?_⟩
    cases r.typeColumn with
    | none => exact ⟨hpaginated, hdialect⟩
    | some column =>
        exact ⟨(Builder.isPaginated_whereEq _ _ _).trans hpaginated,
          (Builder.dialect_whereEq _ _ _).trans hdialect⟩
  rw [hb]
  cases constraint with
  | none => exact .inl hpaginated
  | some f =>
      rcases hconstraint f rfl with hunlimited | ⟨hlateral, hkeeps⟩
      · refine .inl (isPaginated_constrained (fun g hg => ?_) hpaginated)
        cases hg
        exact hunlimited
      · refine .inr ?_
        rw [dialect_constrained (fun g hg => ?_), hdialect]
        · exact hlateral
        · cases hg
          exact hkeeps

/-! ## The kinds of relations -/

/-- No record has a key. -/
def Keyless (r : Relation) (parents : List Record) : Prop :=
  ∀ p ∈ parents, p.keyOf? r.parentKey = none

instance (r : Relation) (parents : List Record) : Decidable (r.Keyless parents) :=
  inferInstanceAs (Decidable (∀ p ∈ parents, p.keyOf? r.parentKey = none))

/-- So many, but none for records without a key. -/
def whenKeyed (r : Relation) (parents : List Record) (n : Nat) : Nat :=
  if r.Keyless parents then 0 else n

theorem whenKeyed_of_parentKeys (h : ¬(parentKeys r.parentKey parents).isEmpty = true) (n : Nat) :
    r.whenKeyed parents n = n :=
  if_neg fun hkeyless => h (parentKeys_isEmpty.2 hkeyless)

/-- The types of owners that records name, each of them once. -/
def tags (r : Relation) (parents : List Record) : List String :=
  match r.typeColumn with
  | some column => (parents.filterMap (tagOf? column)).dedup
  | none => []

/-- The most statements that are sent for records of one model. -/
def statementLimit (r : Relation) (parents : List Record) : Nat :=
  r.whenKeyed parents
    (match r.kind with
      | .morphTo => (r.tags parents).length
      | .belongsToMany => 2
      | _ => 1)

theorem sends_limitedRows_lateral {query : Builder} (h : query.dialect.supportsLateral = true)
    (ids : List Value) :
    Action.Sends Statement.IsLateral (limitedRows ctx.recorded r query ids) := by
  rw [limitedRows, if_pos h]
  refine .ofExcept_bind fun q _ => .ofExcept_bind fun statement hlateral => ?_
  exact .bind (ctx.driver.sends_query ⟨_, _, _, _, hlateral⟩) fun result => .pure _

theorem sendsAtMost_limitedRows {query : Builder} (h : query.dialect.supportsLateral = true)
    (ids : List Value) : Action.SendsAtMost 1 (limitedRows ctx.recorded r query ids) := by
  rw [limitedRows, if_pos h]
  refine .ofExcept_bind fun q _ => .ofExcept_bind fun statement _ => ?_
  exact (ctx.driver.sendsAtMost_query statement).bind fun result => .pure _

theorem sendsAtMost_directRows {query : Builder}
    (h : query.isPaginated = false ∨ query.dialect.supportsLateral = true) (ids : List Value) :
    Action.SendsAtMost 1 (directRows ctx.recorded r query ids) := by
  rw [directRows]
  split
  · next hpaginated =>
    exact sendsAtMost_limitedRows
      (h.resolve_left fun h => Bool.false_ne_true (h.symm.trans hpaginated)) ids
  · exact (ctx.driver.sendsAtMost_get _).bind (m := 0) fun rows => .pure _

theorem sendsAtMost_directAssignment (hconstraint : ∀ f ∈ constraint, f.Batches ctx.driver.dialect) :
    Action.SendsAtMost (r.whenKeyed parents 1)
      (r.directAssignment ctx.recorded parent constraint parents) := by
  rw [directAssignment]
  refine .ofExcept_bind fun related _ => ?_
  dsimp only
  split
  · exact (Action.SendsAtMost.pure _).mono (Nat.zero_le _)
  · next hkeys =>
    rw [whenKeyed_of_parentKeys hkeys]
    exact (sendsAtMost_directRows (batches_directQuery hconstraint related) _).bind fun rows => .pure _

/-- Under a limit the related rows are read by lateral statements. -/
theorem sends_directAssignment_lateral (hconstraint : ∀ f ∈ constraint, f.Batches ctx.driver.dialect)
    {related : Model} (hrelated : r.relatedModel ctx.registry = .ok related)
    (hpaginated : (directQuery ctx parent related r constraint).isPaginated = true) :
    Action.Sends Statement.IsLateral (r.directAssignment ctx.recorded parent constraint parents) := by
  rw [directAssignment, show ctx.recorded.registry = ctx.registry from rfl, hrelated,
    Action.ofExcept_ok_bind]
  dsimp only
  split
  · exact .pure _
  · refine .bind ?_ fun rows => .pure _
    have hlateral := (batches_directQuery hconstraint related).resolve_left
      fun h => Bool.false_ne_true (h.symm.trans hpaginated)
    rw [directRows]
    split
    · exact sends_limitedRows_lateral hlateral _
    · next hnot => exact absurd hpaginated hnot

theorem sendsAtMost_ownersOfType {column tag : String} :
    Action.SendsAtMost (r.whenKeyed parents 1)
      (ownersOfType ctx.recorded r constraint column parents tag) := by
  rw [ownersOfType]
  dsimp only
  split
  · exact (Action.SendsAtMost.pure _).mono (Nat.zero_le _)
  · next hkeys =>
    rw [whenKeyed_of_parentKeys fun hempty =>
      hkeys (parentKeys_isEmpty_of_subset (fun p hp => (List.mem_filter.1 hp).1) hempty)]
    refine .ofExcept_bind fun model _ => ?_
    exact (ctx.driver.sendsAtMost_get _).bind fun rows => .pure _

theorem sendsAtMost_ownersAssignment :
    Action.SendsAtMost (r.whenKeyed parents (r.tags parents).length)
      (r.ownersAssignment ctx.recorded constraint parents) := by
  rw [ownersAssignment]
  split
  · exact (Action.SendsAtMost.throw _).mono (Nat.zero_le _)
  · next column hcolumn =>
    have hnames := Text.length_sortedNames (parents.filterMap (tagOf? column))
    refine (Action.SendsAtMost.bind (.mapM _ fun tag _ => sendsAtMost_ownersOfType)
      fun owners => .pure _).mono ?_
    rw [hnames, tags, hcolumn, whenKeyed, whenKeyed]
    split
    · exact Nat.le_refl 0
    · exact Nat.le_of_eq (Nat.mul_one _)

theorem sendsAtMost_linkedRows (related : Model) (query : Builder) (ids : List Value) :
    Action.SendsAtMost 1 (linkedRows ctx.recorded related query ids) := by
  rw [linkedRows]
  split
  · exact (Action.SendsAtMost.pure _).mono (Nat.zero_le _)
  · exact (ctx.driver.sendsAtMost_get _).bind (m := 0) fun rows => .pure _

theorem sendsAtMost_pivotAssignment :
    Action.SendsAtMost (r.whenKeyed parents 2)
      (r.pivotAssignment ctx.recorded constraint parents) := by
  rw [pivotAssignment]
  split
  · exact (Action.SendsAtMost.throw _).mono (Nat.zero_le _)
  · refine .ofExcept_bind fun related _ => ?_
    dsimp only
    split
    · exact (Action.SendsAtMost.pure _).mono (Nat.zero_le _)
    · next hkeys =>
      rw [whenKeyed_of_parentKeys hkeys]
      split
      · exact (Action.SendsAtMost.throw _).mono (Nat.zero_le _)
      · refine (ctx.driver.sendsAtMost_get _).bind (m := 1) fun rows => ?_
        exact (sendsAtMost_linkedRows related _ _).bind fun found => .pure _

/-- **Loading a relation sends a number of statements that does not depend on how many records it is
    loaded on**, but for the types of owners that they name. -/
theorem sendsAtMost_assignment (hconstraint : ∀ f ∈ constraint, f.Batches ctx.driver.dialect) :
    Action.SendsAtMost (r.statementLimit parents)
      (r.assignment ctx.recorded parent constraint parents) := by
  rw [assignment, statementLimit]
  cases r.kind with
  | morphTo => exact sendsAtMost_ownersAssignment
  | belongsToMany => exact sendsAtMost_pivotAssignment
  | _ => exact sendsAtMost_directAssignment hconstraint

end Relation

end QueryKit
