import QueryKit.Proofs.Builder.Snapshot

set_option autoImplicit false

/-! # Windows of rows

Three calls set a window of the rows: those that limit, leave out rows before it, or choose a page. No
other call changes the window, be it valid or not. -/

namespace QueryKit

/-- The call sets a window of the rows. -/
def Call.setsWindow : Call → Bool
  | .limit _ | .offset _ | .paginate .. => true
  | _ => false

namespace Draft

/-- The number of rows to keep and the number of rows before them. -/
def window (d : Draft) : Option UInt64 × Option UInt64 :=
  (d.limit, d.offset)

variable (d : Draft)

theorem window_guarded {fault : Option Fault} {change : Draft → Draft}
    (h : (change d).window = d.window) : (d.guarded fault change).window = d.window := by
  cases fault with
  | none => exact h
  | some fault => rfl

theorem window_foldl_addNamed {add : String → Draft → Draft}
    (hadd : ∀ c d, (add c d).window = d.window) (columns : List String) :
    (columns.foldl (Builder.addNamed add) d).window = d.window := by
  induction columns generalizing d with
  | nil => rfl
  | cons c rest ih => exact (ih _).trans (d.window_guarded (hadd c d))

theorem window_dropStar : d.dropStar.window = d.window := by
  rw [dropStar_eq]
  rfl

theorem window_addGroup (k : Connective) (child : Draft) :
    (Builder.addGroup k child d).window = d.window := by
  rw [Builder.addGroup]
  split
  · rfl
  · split <;> rfl

end Draft

namespace Call

theorem window_select (columns : List String) (b : Builder) :
    ((select columns).run b).draft.window = b.draft.window := by
  have hadd : ∀ (c : String) (d : Draft), (d.addColumn (.column c)).window = d.window :=
    fun _ _ => rfl
  have hselected := Draft.window_foldl_addNamed
    { b.draft with columns := [], buckets := { b.draft.buckets with select := [] } } hadd columns
  simp only [run, Builder.select, Builder.modify]
  split
  · exact hselected
  · exact hselected

/-- **A call that sets no window** leaves it as it is, also if it is invalid. -/
theorem window_run {call : Call} (h : call.setsWindow = false) (b : Builder) :
    (call.run b).draft.window = b.draft.window := by
  cases call with
  | limit | offset | paginate => exact absurd h Bool.noConfusion
  | select columns => exact window_select columns b
  | groupBy columns =>
      have hadd : ∀ (c : String) (d : Draft), { d with groups := d.groups ++ [c] }.window = d.window :=
        fun _ _ => rfl
      exact Draft.window_foldl_addNamed b.draft hadd columns
  | whereGroup k body => exact Draft.window_addGroup b.draft k _
  | addSelect | selectRaw => exact Draft.window_guarded b.draft (Draft.window_dropStar b.draft)
  | compare | compareColumns | having | join =>
      simp only [run, Builder.compare, Builder.compareColumns, Builder.having, Builder.join,
        Builder.modify, Draft.withOperator_eq, Draft.guarded_guarded]
      exact Draft.window_guarded b.draft rfl
  | oneOf | isNull | between | whereRaw | crossJoin | havingRaw | orderBy | orderByRaw =>
      exact Draft.window_guarded b.draft rfl
  | primaryKey | distinct | lock | scope | withoutScope | withoutScopes => rfl

end Call

theorem window_runCalls {calls : List Call} (h : ∀ call ∈ calls, call.setsWindow = false)
    (b : Builder) : (runCalls b calls).draft.window = b.draft.window := by
  induction calls generalizing b with
  | nil => rfl
  | cons call rest ih =>
      exact (ih (fun c hc => h c (List.mem_cons_of_mem _ hc)) (call.run b)).trans
        (Call.window_run (h call (List.mem_cons_self ..)) b)

theorem window_groupWheres (b : Builder) : b.groupWheres.draft.window = b.draft.window := by
  rw [Builder.groupWheres, Builder.modify, Draft.groupWheres]
  split <;> rfl

/-! ## Windows that are set -/

theorem Draft.isPaginated_congr {d d' : Draft} (h : d'.window = d.window) :
    d'.isPaginated = d.isPaginated := by
  rw [window, window, Prod.mk.injEq] at h
  rw [Query.isPaginated, Query.isPaginated, h.1, h.2]

theorem Draft.isPaginated_ensureKeyOrder (d : Draft) :
    d.ensureKeyOrder.isPaginated = d.isPaginated := by
  rw [ensureKeyOrder_eq]
  rfl

theorem Call.isPaginated_run (call : Call) (b : Builder) :
    (call.run b).isPaginated = (b.isPaginated || call.setsWindow) := by
  cases hsets : call.setsWindow with
  | false => exact (Draft.isPaginated_congr (window_run hsets b)).trans (Bool.or_false _).symm
  | true =>
      rw [Bool.or_true]
      cases call with
      | limit count => rfl
      | offset count => exact Bool.or_true _
      | paginate page => exact Draft.isPaginated_ensureKeyOrder _
      | _ => cases hsets

/-- Rows are windowed once a call has set a window: no call takes it back. -/
theorem isPaginated_runCalls (calls : List Call) (b : Builder) :
    (runCalls b calls).isPaginated = (b.isPaginated || calls.any Call.setsWindow) := by
  induction calls generalizing b with
  | nil => exact (Bool.or_false _).symm
  | cons call rest ih =>
      rw [List.any_cons, ← Bool.or_assoc, ← call.isPaginated_run b]
      exact ih (call.run b)

namespace Draft

theorem isPaginated_afterCall (d : Draft) (call : Call) :
    (d.afterCall call).isPaginated = (d.isPaginated || call.setsWindow) := by
  cases call with
  | limit count => exact (Bool.or_true _).symm
  | offset count => exact (Bool.or_true _).trans (Bool.or_true _).symm
  | paginate page => exact (isPaginated_ensureKeyOrder _).trans (Bool.or_true _).symm
  | addSelect | selectRaw =>
      exact (isPaginated_congr (window_dropStar d)).trans (Bool.or_false _).symm
  | compare | whereGroup | oneOf | isNull | between | whereRaw | compareColumns =>
      simp only [afterCall, Call.effect, Builder.modify, addWheres_eq, Call.setsWindow, Bool.or_false]
      rfl
  | _ => exact (Bool.or_false _).symm

theorem isPaginated_after (d : Draft) (calls : List Call) :
    (d.after calls).isPaginated = (d.isPaginated || calls.any Call.setsWindow) := by
  induction calls generalizing d with
  | nil => exact (Bool.or_false _).symm
  | cons call rest ih =>
      rw [after_cons, ih, isPaginated_afterCall, List.any_cons, Bool.or_assoc]

theorem isPaginated_isolate (d : Draft) (count : Nat) :
    (d.isolate count).isPaginated = d.isPaginated := by
  rw [isolate]
  split <;> rfl

theorem isPaginated_snapshot (d : Draft) : d.snapshot.isPaginated = d.isPaginated := by
  simp only [snapshot]
  split
  · exact d.isPaginated_ensureKeyOrder
  · rfl

end Draft

/-- **A query has a window of the rows** exactly if the calls of the builder set one or those of a scope
    do. -/
theorem Builder.Awaits.isPaginated_toQuery {a : Agenda} {b : Builder} (h : Awaits a b) {q : Query}
    (hq : b.toQuery = .ok q) :
    q.isPaginated = (b.isPaginated || a.applied.flatten.any Call.setsWindow) := by
  rw [h.toQuery] at hq
  split at hq
  · cases hq
  · cases hq
    rw [Draft.isPaginated_snapshot, Draft.isPaginated_isolate, Draft.isPaginated_after]
    rfl

theorem isPaginated_of_window {b : Builder} (h : b.draft.window = (none, none)) :
    b.isPaginated = false := by
  rw [Draft.window, Prod.mk.injEq] at h
  rw [Builder.isPaginated, Query.isPaginated, h.1, h.2]
  rfl

end QueryKit
