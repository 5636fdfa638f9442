import QueryKit.Proofs.Builder.Isolation
import QueryKit.Proofs.Builder.Snapshot

set_option autoImplicit false

/-! # Parts of a query

Every call goes to one part of a query and leaves the other parts as they are, except for `paginate`,
which reads several parts. So the order of calls matters only within a part: calls that are shuffled
without changing the order within any part describe the same query. -/

namespace QueryKit

/-! ## Parts -/

/-- The parts of a query that calls go to. -/
inductive Part
  | key
  | columns
  | distinct
  | wheres
  | joins
  | groups
  | havings
  | orders
  | window
  | lock
  | scopes
deriving DecidableEq

/-- The part that a call goes to. -/
def Call.part : Call → Part
  | .primaryKey _ => .key
  | .select _ | .addSelect _ | .selectRaw .. => .columns
  | .distinct => .distinct
  | .compare .. | .whereGroup .. | .oneOf .. | .isNull .. | .between .. | .whereRaw ..
  | .compareColumns .. => .wheres
  | .join .. | .crossJoin _ => .joins
  | .groupBy _ => .groups
  | .having .. | .havingRaw .. => .havings
  | .orderBy .. | .orderByRaw .. => .orders
  | .limit _ | .offset _ | .paginate .. => .window
  | .lock _ => .lock
  | .scope .. | .withoutScope _ | .withoutScopes => .scopes

/-- The calls that go to a part, in their order. -/
def Part.calls (p : Part) (calls : List Call) : List Call :=
  calls.filter fun call => call.part = p

/-- The same calls in another order, which is the same within every part. -/
def SameParts (calls others : List Call) : Prop :=
  ∀ p : Part, p.calls others = p.calls calls

theorem SameParts.mem_iff {calls others : List Call} (h : SameParts calls others) (call : Call) :
    call ∈ others ↔ call ∈ calls := by
  have hpart : ∀ xs : List Call, call ∈ call.part.calls xs ↔ call ∈ xs := by
    intro xs
    simp [Part.calls]
  rw [← hpart others, h call.part, hpart]

/-- A fold whose steps pass over the calls of other parts is a fold over the calls of one part. -/
theorem Part.foldl_calls {α : Type} (p : Part) (f : α → Call → α)
    (hf : ∀ a call, call.part ≠ p → f a call = a) (calls : List Call) (a : α) :
    (p.calls calls).foldl f a = calls.foldl f a := by
  induction calls generalizing a with
  | nil => rfl
  | cons call rest ih =>
      by_cases hp : call.part = p
      · rw [calls, List.filter_cons_of_pos (by simpa using hp), List.foldl_cons, List.foldl_cons]
        exact ih _
      · rw [calls, List.filter_cons_of_neg (by simpa using hp), List.foldl_cons, hf a call hp]
        exact ih a

namespace Draft

/-- The draft without its other parts. -/
def only (p : Part) (d : Draft) : Draft :=
  let frame : Draft := { dialect := d.dialect, table := d.table, bindings := d.bindings }
  match p with
  | .key => { frame with primaryKey := d.primaryKey }
  | .columns => { frame with columns := d.columns, buckets := { select := d.buckets.select } }
  | .distinct => { frame with distinct := d.distinct }
  | .wheres => { frame with wheres := d.wheres, buckets := { wheres := d.buckets.wheres } }
  | .joins => { frame with joins := d.joins }
  | .groups => { frame with groups := d.groups }
  | .havings => { frame with havings := d.havings, buckets := { having := d.buckets.having } }
  | .orders => { frame with orders := d.orders, buckets := { order := d.buckets.order } }
  | .window => { frame with limit := d.limit, offset := d.offset }
  | .lock => { frame with lock := d.lock }
  | .scopes => frame

/-- The parts of a draft are its content. -/
theorem content_eq_of_only {d d' : Draft} (h : ∀ p, d.only p = d'.only p) :
    d.content = d'.content := by
  have hkey := h .key
  have hcolumns := h .columns
  have hdistinct := h .distinct
  have hwheres := h .wheres
  have hjoins := h .joins
  have hgroups := h .groups
  have hhavings := h .havings
  have horders := h .orders
  have hwindow := h .window
  have hlock := h .lock
  obtain ⟨⟨⟩, _, ⟨⟩, _, _, _, _⟩ := d
  obtain ⟨⟨⟩, _, ⟨⟩, _, _, _, _⟩ := d'
  simp only [only, content, Draft.mk.injEq, Query.mk.injEq, Buckets.mk.injEq] at *
  simp_all only [and_self]

/-- A call changes its own part only. -/
theorem only_afterCall_of_ne (d : Draft) (call : Call) (p : Part) (hp : call.part ≠ p)
    (hpage : ∀ page, call ≠ .paginate page) :
    (d.afterCall call).only p = d.only p := by
  cases call with
  | paginate page => exact absurd rfl (hpage page)
  | addSelect | selectRaw =>
      simp only [afterCall, Call.effect, Builder.modify]
      rw [dropStar_eq]
      cases p <;> first | rfl | exact absurd rfl hp
  | compare | whereGroup | oneOf | isNull | between | whereRaw | compareColumns =>
      simp only [afterCall, Call.effect, Builder.modify, addWheres_eq]
      cases p <;> first | rfl | exact absurd rfl hp
  | _ => cases p <;> first | rfl | exact absurd rfl hp

theorem dropStar_only (d : Draft) : (d.only .columns).dropStar = d.dropStar.only .columns := by
  have honly : (d.only .columns).columns = d.columns := rfl
  unfold dropStar
  rw [honly]
  split
  · split <;> rfl
  · rfl

/-- What a call makes of its part does not depend on the other parts. -/
theorem only_afterCall (d : Draft) (call : Call) :
    (d.afterCall call).only call.part = ((d.only call.part).afterCall call).only call.part := by
  cases call with
  | addSelect | selectRaw =>
      simp only [afterCall, Call.effect, Builder.modify, Call.part, dropStar_only]
      rfl
  | compare | whereGroup | oneOf | isNull | between | whereRaw | compareColumns =>
      simp only [afterCall, Call.effect, Builder.modify, addWheres_eq]
      rfl
  | paginate page =>
      simp only [afterCall, Call.effect, Builder.paginate, Builder.modify]
      rw [ensureKeyOrder_eq, ensureKeyOrder_eq ⟨_, _, _, _, _, _, _⟩]
      rfl
  | _ => rfl

/-- The part that calls make is made by the calls that go to it. -/
theorem only_after (p : Part) (calls : List Call) {d d' : Draft} (h : d.only p = d'.only p)
    (hpages : ∀ page, Call.paginate page ∉ calls) :
    (d.after calls).only p = (d'.after (p.calls calls)).only p := by
  -- by induction on the calls, with drafts that agree on the part only
  induction calls generalizing d d' with
  | nil => exact h
  | cons call rest ih =>
      have hrest : ∀ page, Call.paginate page ∉ rest :=
        fun page hmem => hpages page (List.mem_cons_of_mem _ hmem)
      by_cases hp : call.part = p
      · rw [Part.calls, List.filter_cons_of_pos (by simpa using hp)]
        refine ih ?_ hrest
        subst hp
        rw [only_afterCall d, h, ← only_afterCall]
      · rw [Part.calls, List.filter_cons_of_neg (by simpa using hp)]
        refine ih ?_ hrest
        rw [only_afterCall_of_ne d call p hp, h]
        rintro page rfl
        exact hpages page (List.mem_cons_self ..)

theorem content_after (calls : List Call) {d : Draft} (h : d.content = d) :
    (d.after calls).content = d.after calls := by
  induction calls generalizing d with
  | nil => exact h
  | cons call rest ih => exact ih rfl

theorem after_of_sameParts {calls others : List Call} (h : SameParts calls others)
    (hpages : ∀ page, Call.paginate page ∉ calls) {d : Draft} (hd : d.content = d) :
    d.after others = d.after calls := by
  rw [← content_after others hd, ← content_after calls hd]
  refine content_eq_of_only fun p => ?_
  rw [only_after p calls rfl hpages, only_after p others rfl, h p]
  intro page hmem
  exact hpages page ((h.mem_iff _).1 hmem)

end Draft

/-! ## Runs -/

theorem faultOf?_eq_none_iff (calls : List Call) :
    faultOf? calls = none ↔ ∀ call ∈ calls, call.fault? = none := by
  induction calls with
  | nil => simp [faultOf?]
  | cons call rest ih => rw [faultOf?, Option.or_eq_none_iff, ih, List.forall_mem_cons]

theorem activeScopes_of_sameParts {calls others : List Call} (h : SameParts calls others) :
    activeScopes others = activeScopes calls := by
  have hnote : ∀ (a : Agenda) (call : Call), call.part ≠ .scopes → a.note call = a := by
    intro a call hpart
    cases call with
    | scope | withoutScope | withoutScopes => exact absurd rfl hpart
    | _ => rfl
  rw [activeScopes, ← Part.scopes.foldl_calls _ hnote, h .scopes, Part.scopes.foldl_calls _ hnote]
  rfl

section Query

variable {d : Dialect} {table : String} {calls others : List Call} {q : Query}

/-- **The order of calls to different parts does not matter.** If calls without `paginate` describe a
    query, then so do the same calls in any order that is the same within every part, and it is the
    same query. -/
theorem toQuery_of_sameParts (hpages : ∀ page, Call.paginate page ∉ calls)
    (hparts : SameParts calls others)
    (h : (runCalls (Builder.new d table) calls).toQuery = .ok q) :
    (runCalls (Builder.new d table) others).toQuery = .ok q
      ∧ (runCalls (Builder.new d table) others).toSql
        = (runCalls (Builder.new d table) calls).toSql := by
  obtain ⟨hfault, rfl⟩ := toQuery_eq_ok_iff.1 h
  have hscopes := activeScopes_of_sameParts hparts
  rw [appliedCalls, faultOf?_append, Option.or_eq_none_iff] at hfault
  have hothers : faultOf? others = none := by
    rw [faultOf?_eq_none_iff] at hfault ⊢
    exact fun call hcall => hfault.1 call ((hparts.mem_iff call).1 hcall)
  have hquery : (runCalls (Builder.new d table) others).toQuery = .ok (queryOf d table calls) := by
    refine toQuery_eq_ok_iff.2 ⟨?_, ?_⟩
    · rw [appliedCalls, faultOf?_append, hscopes, hothers, hfault.2, Option.none_or]
    · simp only [queryOf, hscopes]
      rw [Draft.after_of_sameParts hparts hpages rfl]
  exact ⟨hquery, by rw [toSql_runCalls, toSql_runCalls, hquery, h]⟩

/-- A page of a join under a scope, its calls shuffled. The key that is added to the order last reads
    the joins and the name of the key. -/
theorem toQuery_of_sameParts_shuffled :
    ∃ (calls others : List Call) (q : Query),
      calls =
        [.selectRaw "f(?)" [.int 1], .compare .and "a" "=" (.int 2), .compare .or "b" "=" (.int 3),
          .crossJoin "u", .limit 9, .primaryKey "k", .scope "s" [.isNull .and "c" false]]
      ∧ others =
        [.scope "s" [.isNull .and "c" false], .limit 9, .compare .and "a" "=" (.int 2),
          .primaryKey "k", .compare .or "b" "=" (.int 3), .selectRaw "f(?)" [.int 1], .crossJoin "u"]
      ∧ (runCalls (Builder.new .postgres "t") calls).toQuery = .ok q
      ∧ q.bindings = [.int 1, .int 2, .int 3] ∧ q.orders.length = 1
      ∧ (runCalls (Builder.new .postgres "t") others).toQuery = .ok q := by
  have h : (runCalls (Builder.new .postgres "t")
      [.selectRaw "f(?)" [.int 1], .compare .and "a" "=" (.int 2), .compare .or "b" "=" (.int 3),
        .crossJoin "u", .limit 9, .primaryKey "k", .scope "s" [.isNull .and "c" false]]).toQuery
      = .ok _ := toQuery_eq_ok_iff.2 ⟨by decide +kernel, rfl⟩
  refine ⟨_, _, _, rfl, rfl, h, rfl, rfl, (toQuery_of_sameParts ?_ ?_ h).1⟩
  · simp
  · intro p
    cases p <;> simp [Part.calls, Call.part]

end Query

end QueryKit
