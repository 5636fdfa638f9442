import QueryKit.Proofs.Builder.Scopes

set_option autoImplicit false

/-! # The query of a run of calls

What a builder answers when its query is taken, as a function of its calls: the first fault among the
calls and those of the active scopes, or else the query of the content that all of them make
(`toQuery_runCalls`). The same holds of every builder whose scopes are known as calls
(`Builder.Awaits.toQuery`). -/

namespace QueryKit

/-! ## Content -/

namespace Draft

/-- The draft without what is noted of scopes and of faults. -/
def content (d : Draft) : Draft :=
  { d with removedScopes := [], scopesApplied := false, lateScopes := [], fault := none }

/-- The content behind a call without fault. -/
def afterCall (d : Draft) (call : Call) : Draft :=
  (call.effect { draft := d }).draft.content

/-- The content behind calls without fault. -/
def after (d : Draft) (calls : List Call) : Draft :=
  calls.foldl afterCall d

variable (d : Draft)

@[simp] theorem after_nil : d.after [] = d := rfl

@[simp] theorem after_cons (call : Call) (calls : List Call) :
    d.after (call :: calls) = (d.afterCall call).after calls := rfl

@[simp] theorem after_append (calls others : List Call) :
    d.after (calls ++ others) = (d.after calls).after others :=
  List.foldl_append

theorem after_dialect (calls : List Call) : (d.after calls).dialect = d.dialect := by
  induction calls generalizing d with
  | nil => rfl
  | cons call rest ih => exact (ih _).trans (call.effect_sameFrame { draft := d }).dialect

theorem after_table (calls : List Call) : (d.after calls).table = d.table := by
  induction calls generalizing d with
  | nil => rfl
  | cons call rest ih => exact (ih _).trans (call.effect_sameFrame { draft := d }).table

theorem dropStar_content : d.content.dropStar = d.dropStar.content := by
  have hcontent : d.content.columns = d.columns := rfl
  unfold dropStar
  rw [hcontent]
  split
  · split <;> rfl
  · rfl

theorem ensureKeyOrder_content : d.content.ensureKeyOrder = d.ensureKeyOrder.content := by
  unfold ensureKeyOrder
  show (if d.ordersReference d.primaryKey then d.content
    else { d.content with orders := d.orders ++ [d.keyOrder] }) = _
  split <;> rfl

/-- Marks of scopes and faults have no part in what a call does to the content. -/
theorem content_effect (call : Call) (b : Builder) :
    (call.effect b).draft.content = b.draft.content.afterCall call := by
  cases call with
  | addSelect | selectRaw =>
      simp only [afterCall, Call.effect, Builder.modify, dropStar_content]
      rfl
  | paginate page =>
      have hkey := ensureKeyOrder_content
        { b.draft with limit := some page.size, offset := some page.offset }
      exact (congrArg content hkey).symm
  | compare | whereGroup | oneOf | isNull | between | whereRaw | compareColumns =>
      simp only [afterCall, Call.effect, Builder.modify, addWheres_eq]
      rfl
  | _ => rfl

theorem isolate_content (count : Nat) : d.content.isolate count = (d.isolate count).content := by
  unfold isolate
  show (if 0 < count && count < d.wheres.length && d.hasOr then _ else d.content) = _
  split <;> rfl

theorem snapshot_content : d.content.snapshot = d.snapshot := by
  simp only [snapshot, ensureKeyOrder_content]
  show { (if d.isPaginated then d.ensureKeyOrder.content else d.content).toQuery with
    bindings := (if d.isPaginated then d.ensureKeyOrder.content else d.content).buckets.all } = _
  split <;> rfl

theorem content_kept (base : Draft) : Kept fun calls d => d.content = base.after calls where
  effect := by
    intro calls call b _ h
    rw [content_effect, h, after_append]
    rfl
  mark := fun _ _ _ _ h => h

/-! ## Faults of scopes -/

theorem fault_foldl_of_some (scopes : List (String × List Call)) {d : Draft} {fault : Fault}
    (h : d.fault = some fault) :
    ((scopes.map Call.namedScope).foldl applyScope d).fault = some fault := by
  induction scopes generalizing d with
  | nil => exact h
  | cons entry rest ih =>
      refine ih ?_
      rw [applyScope]
      split
      · exact h
      · rw [Call.namedScope, ofCalls_fault, h, Option.some_or]

end Draft

theorem faultOf?_append (calls others : List Call) :
    faultOf? (calls ++ others) = (faultOf? calls).or (faultOf? others) := by
  induction calls with
  | nil => rw [List.nil_append, faultOf?, Option.none_or]
  | cons call rest ih => rw [List.cons_append, faultOf?, faultOf?, ih, Option.or_assoc]

/-- Scopes that are applied one after another leave the first fault of their calls behind. -/
theorem Draft.fault_foldl_applyScope (scopes : List (String × List Call)) (a : Agenda) (d : Draft)
    (hlate : Late a d) :
    ((scopes.map Call.namedScope).foldl applyScope d).fault
      = d.fault.or (faultOf? (a.active scopes).flatten) := by
  induction scopes generalizing a d with
  | nil => rw [Agenda.active, List.flatten_nil, faultOf?, Option.or_none]; rfl
  | cons entry rest ih =>
      obtain ⟨name, body⟩ := entry
      rw [List.map_cons, List.foldl_cons, applyScope, hlate.removed, Agenda.active, Call.namedScope]
      by_cases hremoved : a.removed.contains name = true
      · rw [if_pos hremoved, if_pos hremoved]
        exact ih a d hlate
      · rw [if_neg hremoved, if_neg hremoved, List.flatten_cons, faultOf?_append]
        have hone := ofCalls_fault body d
        cases hbody : faultOf? body with
        | some fault =>
            -- the scopes behind a faulty one cannot change which fault is reported
            rw [hbody] at hone
            rw [Option.some_or]
            cases hd : d.fault with
            | some first =>
                rw [hd, Option.some_or] at hone
                exact fault_foldl_of_some rest hone
            | none =>
                rw [hd, Option.none_or] at hone
                exact fault_foldl_of_some rest hone
        | none =>
            have hnames := hlate.names.foldl_note body
            have hbehind : Late (body.foldl Agenda.note a)
                (Scope.ofCalls (fun inner => runCalls inner body) d) := by
              rw [ofCalls_eq body d hbody]
              exact ⟨hnames.scopes, hnames.removed⟩
            rw [ih _ _ hbehind, hone, hbody, Option.or_none, Option.none_or]

/-! ## Queries -/

/-- The calls of the scopes that are applied when the query is taken. -/
def Agenda.applied (a : Agenda) : List (List Call) :=
  active { removed := a.removed } a.scopes

namespace Builder

/-- The builder has no fault, and the scopes of the agenda are all that is still to be applied. -/
structure Awaits (a : Agenda) (b : Builder) : Prop where
  holds : a.Holds b
  fault : b.draft.fault = none
  scopesApplied : b.draft.scopesApplied = false
  lateScopes : b.draft.lateScopes = []

namespace Awaits

variable {a : Agenda} {b : Builder}

theorem new (d : Dialect) (table : String) : Awaits {} (Builder.new d table) :=
  ⟨⟨rfl, rfl⟩, rfl, rfl, rfl⟩

theorem foldl_effect (h : Awaits a b) (calls : List Call) :
    Awaits (calls.foldl Agenda.note a) (calls.foldl Call.effect b) := by
  have hframe := Call.foldl_effect_sameFrame calls b
  exact ⟨h.holds.foldl_note calls, hframe.fault.trans h.fault,
    hframe.scopesApplied.trans h.scopesApplied, hframe.lateScopes.trans h.lateScopes⟩

/-- **The query of a builder**: the first fault of the calls of its scopes, or else the query of the
    content that they make of its draft, in which its own conditions are kept apart. -/
theorem toQuery (h : Awaits a b) :
    b.toQuery = match faultOf? a.applied.flatten with
      | some fault => .error (.validation fault)
      | none =>
        .ok ((b.draft.content.after a.applied.flatten).isolate b.draft.wheres.length).snapshot := by
  have hlate : Draft.Late { removed := a.removed } { b.draft with scopesApplied := true } :=
    ⟨h.lateScopes, h.holds.removed⟩
  have happlied : ¬b.draft.scopesApplied = true := by
    rw [h.scopesApplied]
    exact Bool.false_ne_true
  have hfault := Draft.fault_foldl_applyScope a.scopes _ _ hlate
  rw [show ({ b.draft with scopesApplied := true } : Draft).fault = none from h.fault,
    Option.none_or] at hfault
  rw [Builder.toQuery, h.fault]
  simp only
  rw [Draft.applyScopes, if_neg happlied, h.holds.scopes, Draft.query?, Draft.fault_isolate, hfault,
    ← Agenda.applied]
  cases hscopes : faultOf? a.applied.flatten with
  | some fault => rfl
  | none =>
      rw [← Agenda.applied, hscopes] at hfault
      have hcontent :=
        (Draft.content_kept b.draft.content).foldl_applyScope a.scopes _ _ [] hlate rfl hfault
      rw [List.nil_append, ← Agenda.applied] at hcontent
      simp only
      rw [← Draft.snapshot_content, ← Draft.isolate_content, hcontent]

end Awaits

end Builder

/-- The query of calls without fault. -/
def queryOf (d : Dialect) (table : String) (calls : List Call) : Query :=
  let own := (Builder.new d table).draft.after calls
  ((own.after (activeScopes calls).flatten).isolate own.wheres.length).snapshot

/-- **The query of a run of calls** is an error for the first fault among the calls and those of the
    active scopes, and otherwise a function of these calls. -/
theorem toQuery_runCalls (d : Dialect) (table : String) (calls : List Call) :
    (runCalls (Builder.new d table) calls).toQuery = match faultOf? (appliedCalls calls) with
      | some fault => .error (.validation fault)
      | none => .ok (queryOf d table calls) := by
  have hfault : (runCalls (Builder.new d table) calls).draft.fault = faultOf? calls :=
    runCalls_fault calls (Builder.new d table)
  rw [appliedCalls, faultOf?_append]
  cases hcalls : faultOf? calls with
  | some fault => rw [Builder.toQuery, hfault, hcalls, Option.some_or]
  | none =>
      have hcontent := (Draft.content_kept (Builder.new d table).draft.content).foldl_effect [] calls
        (Builder.new d table) hcalls rfl
      have hwheres : (calls.foldl Call.effect (Builder.new d table)).draft.wheres
          = ((Builder.new d table).draft.after calls).wheres := congrArg (·.wheres) hcontent
      rw [runCalls_eq_effects calls _ hcalls, Option.none_or,
        ((Builder.Awaits.new d table).foldl_effect calls).toQuery, hcontent, hwheres]
      rfl

theorem toQuery_eq_ok_iff {d : Dialect} {table : String} {calls : List Call} {q : Query} :
    (runCalls (Builder.new d table) calls).toQuery = .ok q
      ↔ faultOf? (appliedCalls calls) = none ∧ q = queryOf d table calls := by
  rw [toQuery_runCalls]
  cases faultOf? (appliedCalls calls) with
  | some fault => simp
  | none => simp [eq_comm]

/-- The read that calls describe, in the dialect that they began with. -/
theorem toSql_runCalls (d : Dialect) (table : String) (calls : List Call) :
    (runCalls (Builder.new d table) calls).toSql
      = (runCalls (Builder.new d table) calls).toQuery.map (Sql.compileSelect d) := by
  cases h : (runCalls (Builder.new d table) calls).toQuery with
  | error e => rw [Builder.toSql, h, Except.map, Except.map]
  | ok q =>
      obtain ⟨hfault, -⟩ := toQuery_eq_ok_iff.1 h
      rw [appliedCalls, faultOf?_append, Option.or_eq_none_iff] at hfault
      have hdialect : (runCalls (Builder.new d table) calls).dialect = d := by
        rw [runCalls_eq_effects calls _ hfault.1]
        exact (Call.foldl_effect_sameFrame calls (Builder.new d table)).dialect
      rw [Builder.toSql, h, hdialect]

end QueryKit
