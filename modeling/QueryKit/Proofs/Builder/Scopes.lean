import QueryKit.Proofs.Builder.Step

set_option autoImplicit false

/-! # Active scopes

Which scopes of a run of calls are applied, and in which order, can be read off the calls
(`activeScopes`). The draft that a query is taken from is then what the calls and the calls of the
active scopes make, one after another: what each of their effects keeps holds of it
(`Draft.Kept.toQuery`). -/

namespace QueryKit

/-! ## Agendas -/

/-- The scopes that are registered and the names of those removed, with the calls that scopes make. -/
structure Agenda where
  scopes : List (String × List Call) := []
  removed : List String := []

namespace Agenda

/-- The agenda after a call. -/
def note (a : Agenda) : Call → Agenda
  | .scope name body => { a with scopes := a.scopes.filter (·.1 != name) ++ [(name, body)] }
  | .withoutScope name => { a with removed := a.removed ++ [name] }
  | .withoutScopes => { a with removed := a.removed ++ a.scopes.map Prod.fst }
  | _ => a

/-- The calls of the scopes that are applied when all of `scopes` are to be. The calls of a scope can
    remove scopes behind it; the scopes that they register are noted, but never applied. -/
def active (a : Agenda) : List (String × List Call) → List (List Call)
  | [] => []
  | (name, body) :: rest =>
    if a.removed.contains name then active a rest
    else body :: active (body.foldl note a) rest

end Agenda

/-- The calls of the scopes that are applied behind calls. -/
def activeScopes (calls : List Call) : List (List Call) :=
  let a := calls.foldl Agenda.note {}
  Agenda.active { removed := a.removed } a.scopes

/-- All calls that a query is made of: calls, and then those of the scopes that are applied. -/
def appliedCalls (calls : List Call) : List Call :=
  calls ++ (activeScopes calls).flatten

/-- The scope of calls under its name. -/
def Call.namedScope (entry : String × List Call) : String × Scope :=
  (entry.1, Scope.ofCalls fun inner => runCalls inner entry.2)

namespace Agenda

/-- The agenda names the scopes of a builder. -/
structure Names (a : Agenda) (b : Builder) : Prop where
  scopes : b.scopes.map Prod.fst = a.scopes.map Prod.fst
  removed : b.draft.removedScopes = a.removed

theorem map_fst_filter {α β : Type} (name : String) (xs : List (String × α)) (ys : List (String × β))
    (h : xs.map Prod.fst = ys.map Prod.fst) :
    (xs.filter (·.1 != name)).map Prod.fst = (ys.filter (·.1 != name)).map Prod.fst := by
  have hfilter : ∀ {γ : Type} (zs : List (String × γ)),
      (zs.filter (·.1 != name)).map Prod.fst = (zs.map Prod.fst).filter (· != name) := by
    intro γ zs
    rw [List.filter_map]
    rfl
  rw [hfilter, hfilter, h]

theorem Names.note {a : Agenda} {b : Builder} (h : a.Names b) (call : Call) :
    (a.note call).Names (call.effect b) := by
  obtain ⟨hscopes, hremoved⟩ := h
  cases call with
  | scope name body =>
      -- an earlier scope of the same name gives way on both sides
      refine ⟨?_, hremoved⟩
      simp only [Agenda.note, Call.effect, Builder.scope, List.map_append, List.map_cons, List.map_nil]
      rw [map_fst_filter name b.scopes a.scopes hscopes]
  | withoutScope name => exact ⟨hscopes, congrArg (· ++ [name]) hremoved⟩
  | withoutScopes =>
      refine ⟨hscopes, ?_⟩
      simp only [Agenda.note, Call.effect, Builder.withoutScopes, Builder.modify, hscopes, hremoved]
  | addSelect | selectRaw => exact ⟨hscopes, b.draft.dropStar_removedScopes.trans hremoved⟩
  | paginate => exact ⟨hscopes, (Draft.ensureKeyOrder_removedScopes _).trans hremoved⟩
  | compare | whereGroup | oneOf | isNull | between | whereRaw | compareColumns =>
      exact ⟨hscopes, (b.draft.addWheres_removedScopes _).trans hremoved⟩
  | _ => exact ⟨hscopes, hremoved⟩

theorem Names.foldl_note {a : Agenda} {b : Builder} (h : a.Names b) (calls : List Call) :
    (calls.foldl Agenda.note a).Names (calls.foldl Call.effect b) := by
  induction calls generalizing a b with
  | nil => exact h
  | cons call rest ih => exact ih (h.note call)

/-- The agenda holds the scopes of a builder. -/
structure Holds (a : Agenda) (b : Builder) : Prop where
  scopes : b.scopes = a.scopes.map Call.namedScope
  removed : b.draft.removedScopes = a.removed

theorem Holds.names {a : Agenda} {b : Builder} (h : a.Holds b) : a.Names b := by
  refine ⟨?_, h.removed⟩
  rw [h.scopes, List.map_map]
  rfl

theorem Holds.note {a : Agenda} {b : Builder} (h : a.Holds b) (call : Call) :
    (a.note call).Holds (call.effect b) := by
  refine ⟨?_, (h.names.note call).removed⟩
  cases call with
  | scope name body =>
      simp only [Agenda.note, Call.effect, Builder.scope, h.scopes, List.map_append, List.map_cons,
        List.map_nil, List.filter_map]
      rfl
  | _ => exact h.scopes

theorem Holds.foldl_note {a : Agenda} {b : Builder} (h : a.Holds b) (calls : List Call) :
    (calls.foldl Agenda.note a).Holds (calls.foldl Call.effect b) := by
  induction calls generalizing a b with
  | nil => exact h
  | cons call rest ih => exact ih (h.note call)

end Agenda

namespace Draft

/-- The agenda names the scopes that were registered late on a draft. -/
structure Late (a : Agenda) (d : Draft) : Prop where
  scopes : d.lateScopes = a.scopes.map Prod.fst
  removed : d.removedScopes = a.removed

/-- What is true of a draft with the calls that made it, if it is kept by every effect of a call
    without fault. Marks of scopes do not matter for it. -/
structure Kept (P : List Call → Draft → Prop) : Prop where
  effect : ∀ (calls : List Call) (call : Call) (b : Builder), call.fault? = none →
    P calls b.draft → P (calls ++ [call]) (call.effect b).draft
  mark : ∀ (calls : List Call) (d : Draft) (applied : Bool) (late : List String),
    P calls d → P calls { d with scopesApplied := applied, lateScopes := late }

variable {P : List Call → Draft → Prop}

theorem Kept.foldl_effect (hP : Kept P) (made calls : List Call) (b : Builder)
    (hfault : faultOf? calls = none) (h : P made b.draft) :
    P (made ++ calls) (calls.foldl Call.effect b).draft := by
  induction calls generalizing made b with
  | nil => simpa using h
  | cons call rest ih =>
      rw [faultOf?, Option.or_eq_none_iff] at hfault
      rw [List.append_cons]
      exact ih _ _ hfault.2 (hP.effect made call b hfault.1 h)

/-- The builder that the calls of a scope are made on. -/
def inner (d : Draft) : Builder :=
  { draft := d, scopes := d.lateScopes.map fun name => (name, id) }

theorem Late.names {a : Agenda} {d : Draft} (h : Late a d) : a.Names d.inner := by
  refine ⟨?_, h.removed⟩
  rw [inner, List.map_map, ← h.scopes]
  exact List.map_id _

theorem ofCalls_fault (body : List Call) (d : Draft) :
    (Scope.ofCalls (fun inner => runCalls inner body) d).fault = d.fault.or (faultOf? body) :=
  runCalls_fault body d.inner

/-- A scope without fault makes its calls. -/
theorem ofCalls_eq (body : List Call) (d : Draft) (h : faultOf? body = none) :
    Scope.ofCalls (fun inner => runCalls inner body) d
      = { (body.foldl Call.effect d.inner).draft with
          lateScopes := (body.foldl Call.effect d.inner).scopes.map Prod.fst } := by
  rw [← runCalls_eq_effects body d.inner h]
  rfl

theorem fault_of_applyScope (entry : String × List Call) (d : Draft)
    (h : (d.applyScope (Call.namedScope entry)).fault = none) : d.fault = none := by
  rw [applyScope] at h
  split at h
  · exact h
  · rw [Call.namedScope, ofCalls_fault, Option.or_eq_none_iff] at h
    exact h.1

theorem fault_of_foldl_applyScope (scopes : List (String × List Call)) (d : Draft)
    (h : ((scopes.map Call.namedScope).foldl applyScope d).fault = none) : d.fault = none := by
  induction scopes generalizing d with
  | nil => exact h
  | cons entry rest ih => exact fault_of_applyScope entry d (ih _ h)

/-- What effects keep is kept by scopes that are applied one after another without fault. -/
theorem Kept.foldl_applyScope (hP : Kept P) (scopes : List (String × List Call)) (a : Agenda)
    (d : Draft) (made : List Call) (hlate : Late a d) (h : P made d)
    (hfault : ((scopes.map Call.namedScope).foldl applyScope d).fault = none) :
    P (made ++ (a.active scopes).flatten) ((scopes.map Call.namedScope).foldl applyScope d) := by
  induction scopes generalizing a d made with
  | nil =>
      rw [Agenda.active, List.flatten_nil, List.append_nil]
      exact h
  | cons entry rest ih =>
      obtain ⟨name, body⟩ := entry
      rw [List.map_cons, List.foldl_cons] at hfault ⊢
      by_cases hremoved : a.removed.contains name = true
      · have hskip : d.applyScope (Call.namedScope (name, body)) = d := by
          rw [applyScope, hlate.removed]
          exact if_pos hremoved
        rw [hskip] at hfault ⊢
        rw [Agenda.active, if_pos hremoved]
        exact ih a d made hlate h hfault
      · have happly : d.applyScope (Call.namedScope (name, body))
            = Scope.ofCalls (fun inner => runCalls inner body) d := by
          rw [applyScope, hlate.removed]
          exact if_neg hremoved
        rw [happly] at hfault ⊢
        -- a fault of the body would have stayed until the end
        have hbody : faultOf? body = none := by
          have hone := fault_of_foldl_applyScope rest _ hfault
          rw [ofCalls_fault, Option.or_eq_none_iff] at hone
          exact hone.2
        rw [ofCalls_eq body d hbody] at hfault ⊢
        -- the agenda behind the body names what the body registered, which the next scope meets
        rw [Agenda.active, if_neg hremoved, List.flatten_cons, ← List.append_assoc]
        have hnames := hlate.names.foldl_note body
        exact ih (body.foldl Agenda.note a) _ (made ++ body) ⟨hnames.scopes, hnames.removed⟩
          (hP.mark _ _ _ _ (hP.foldl_effect made body d.inner hbody h)) hfault

theorem fault_isolate (d : Draft) (count : Nat) : (d.isolate count).fault = d.fault := by
  rw [isolate]
  split <;> rfl

theorem query?_eq_ok {d : Draft} {q : Query} (h : d.query? = .ok q) :
    d.fault = none ∧ q = d.snapshot := by
  rw [query?] at h
  split at h
  · cases h
  · next hfault =>
      cases h
      exact ⟨hfault, rfl⟩

/-- **What the effects of calls keep holds of the draft that a query is taken from**, before the
    conditions of the calls and those of the scopes are kept apart. -/
theorem Kept.toQuery (hP : Kept P) {d : Dialect} {table : String} {calls : List Call} {q : Query}
    (h : P [] (Builder.new d table).draft)
    (hq : (runCalls (Builder.new d table) calls).toQuery = .ok q) :
    ∃ own all : Draft, P calls own ∧ P (appliedCalls calls) all
      ∧ q = (all.isolate own.wheres.length).snapshot := by
  have hfault : (runCalls (Builder.new d table) calls).draft.fault = faultOf? calls :=
    runCalls_fault calls (Builder.new d table)
  rw [Builder.toQuery, hfault] at hq
  cases hcalls : faultOf? calls with
  | some fault =>
      rw [hcalls] at hq
      cases hq
  | none =>
      rw [hcalls, runCalls_eq_effects calls _ hcalls] at hq
      have hown := hP.foldl_effect [] calls (Builder.new d table) hcalls h
      have hholds := (Agenda.Holds.mk rfl rfl : Agenda.Holds {} (Builder.new d table)).foldl_note calls
      have hframe := Call.foldl_effect_sameFrame calls (Builder.new d table)
      generalize calls.foldl Call.effect (Builder.new d table) = b at hq hown hholds hframe
      obtain ⟨hall, rfl⟩ := query?_eq_ok hq
      have happlied : ¬b.draft.scopesApplied = true := by
        rw [hframe.scopesApplied]
        exact Bool.false_ne_true
      rw [applyScopes, if_neg happlied, hholds.scopes] at hall ⊢
      rw [fault_isolate] at hall
      refine ⟨b.draft, _, hown, ?_, rfl⟩
      -- no scope has been registered late when the first one is applied
      exact hP.foldl_applyScope _ { removed := (calls.foldl Agenda.note {}).removed } _ calls
        ⟨hframe.lateScopes, hholds.removed⟩ (hP.mark _ _ true _ hown) hall

end Draft

end QueryKit
