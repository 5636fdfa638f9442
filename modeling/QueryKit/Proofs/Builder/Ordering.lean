import QueryKit.Proofs.Builder.Snapshot

set_option autoImplicit false

/-! # Orders of windows

A window of the rows is taken in an order that the primary key decides last. When the query is taken,
the key is added behind all other orders unless one of them mentions it. But choosing a page adds the
key there and then, so what is ordered, joined or keyed behind that call no longer counts: the key
stands last, once and with its qualifier, exactly if nothing behind such a call matters
(`orders_eq_keyedOrders_iff`). No order is ever lost. -/

namespace QueryKit

/-! ## Orders of calls -/

/-- The orders that a call adds on its own account. -/
def Call.orders : Call → List Order
  | .orderBy column direction => [.column column direction]
  | .orderByRaw sql values => [.raw sql values]
  | _ => []

/-- The orders that calls add on their own account. -/
def ordersOf (calls : List Call) : List Order :=
  calls.flatMap Call.orders

namespace Query

/-- The primary key as an order key. Behind joins it is qualified. -/
def keyOrder (q : Query) : Order :=
  .column
    (if q.joins.isEmpty then q.primaryKey else Sql.tableReference q.table ++ "." ++ q.primaryKey)
    .ascending

/-- Orders with the primary key behind them, unless one of them mentions it. -/
def keyedOrders (q : Query) (own : List Order) : List Order :=
  if own.any (·.references q.primaryKey) then own else own ++ [q.keyOrder]

variable {q : Query} {own : List Order}

theorem keyedOrders_of_mentioned (h : own.any (·.references q.primaryKey) = true) :
    q.keyedOrders own = own :=
  if_pos h

theorem keyedOrders_of_unmentioned (h : own.any (·.references q.primaryKey) = false) :
    q.keyedOrders own = own ++ [q.keyOrder] :=
  if_neg (by rw [h]; exact Bool.false_ne_true)

theorem sublist_keyedOrders (q : Query) (own : List Order) : own.Sublist (q.keyedOrders own) := by
  rw [keyedOrders]
  split
  · exact .refl own
  · exact List.sublist_append_left own _

theorem length_keyedOrders_le (q : Query) (own : List Order) :
    (q.keyedOrders own).length ≤ own.length + 1 := by
  rw [keyedOrders]
  split
  · exact Nat.le_succ _
  · rw [List.length_append, List.length_singleton]

end Query

namespace Draft

variable (d : Draft)

theorem orders_ensureKeyOrder : d.ensureKeyOrder.orders = d.keyedOrders d.orders := by
  unfold ensureKeyOrder
  show _ = if d.ordersReference d.primaryKey then _ else _
  split <;> rfl

theorem orders_afterCall {call : Call} (h : ∀ page, call ≠ .paginate page) :
    (d.afterCall call).orders = d.orders ++ call.orders := by
  cases call with
  | paginate page => exact absurd rfl (h page)
  | addSelect | selectRaw | compare | whereGroup | oneOf | isNull | between | whereRaw
  | compareColumns =>
      simp [afterCall, content, Call.effect, Call.orders, Builder.modify, addColumn]
  | orderBy | orderByRaw => rfl
  | _ => exact (List.append_nil _).symm

theorem orders_afterCall_paginate (page : Page) :
    (d.afterCall (.paginate page)).orders = d.keyedOrders d.orders := by
  exact orders_ensureKeyOrder
    { d with limit := some page.size, offset := some page.offset }

/-- Orders stay where they are, with those that calls add behind them. -/
theorem exists_orders_after (calls : List Call) :
    ∃ more, (d.after calls).orders = d.orders ++ more ∧ (ordersOf calls).Sublist more := by
  induction calls generalizing d with
  | nil => exact ⟨[], (List.append_nil _).symm, .slnil⟩
  | cons call rest ih =>
      obtain ⟨more, hmore, hsub⟩ := ih (d.afterCall call)
      by_cases hpage : ∃ page, call = .paginate page
      · obtain ⟨page, rfl⟩ := hpage
        rw [after_cons, hmore, orders_afterCall_paginate, Query.keyedOrders]
        split
        · exact ⟨more, rfl, hsub⟩
        · exact ⟨d.keyOrder :: more, List.append_assoc .., hsub.cons _⟩
      · have hcall := d.orders_afterCall fun page h => hpage ⟨page, h⟩
        refine ⟨call.orders ++ more, ?_, hsub.append_left _⟩
        rw [after_cons, hmore, hcall, List.append_assoc]

/-! ## Pages that add the key -/

/-- A page is chosen between these calls, and no order before it mentions the key. -/
structure AddsKey (calls before behind : List Call) : Prop where
  page : ∃ page, calls = before ++ .paginate page :: behind
  missing : (d.after before).ordersReference (d.after before).primaryKey = false

variable {d} {calls before behind : List Call}

theorem orders_after_of_addsKey (h : d.AddsKey calls before behind) :
    ∃ more, (d.after calls).orders
        = (d.after before).orders ++ (d.after before).keyOrder :: more
      ∧ (ordersOf behind).Sublist more := by
  obtain ⟨page, rfl⟩ := h.page
  obtain ⟨more, hmore, hsub⟩ :=
    exists_orders_after ((d.after before).afterCall (.paginate page)) behind
  refine ⟨more, ?_, hsub⟩
  rw [after_append, after_cons, hmore, orders_afterCall_paginate,
    Query.keyedOrders_of_unmentioned h.missing]
  exact List.append_assoc ..

/-- Without a page that adds the key, calls add their own orders only. -/
theorem orders_after_of_not_addsKey (h : ∀ before behind, ¬d.AddsKey calls before behind) :
    (d.after calls).orders = d.orders ++ ordersOf calls := by
  induction calls generalizing d with
  | nil => exact (List.append_nil _).symm
  | cons call rest ih =>
      have hrest : ∀ before behind, ¬(d.afterCall call).AddsKey rest before behind := by
        rintro before behind ⟨⟨page, rfl⟩, hmissing⟩
        exact h (call :: before) behind ⟨⟨page, rfl⟩, hmissing⟩
      rw [after_cons, ih hrest]
      by_cases hpage : ∃ page, call = .paginate page
      · obtain ⟨page, rfl⟩ := hpage
        have hkey : d.ordersReference d.primaryKey = true := by
          by_contra hmissing
          exact h [] rest ⟨⟨page, rfl⟩, Bool.eq_false_iff.2 hmissing⟩
        rw [orders_afterCall_paginate, Query.keyedOrders_of_mentioned hkey]
        rfl
      · rw [d.orders_afterCall fun page h => hpage ⟨page, h⟩, List.append_assoc]
        rfl

/-! ## The key at a page and the key of the query -/

theorem exists_joins_afterCall (d : Draft) (call : Call) :
    ∃ more, (d.afterCall call).joins = d.joins ++ more := by
  cases call with
  | join | crossJoin => exact ⟨_, rfl⟩
  | addSelect | selectRaw =>
      refine ⟨[], Eq.trans ?_ (List.append_nil _).symm⟩
      exact congrArg (·.joins) d.dropStar_eq
  | compare | whereGroup | oneOf | isNull | between | whereRaw | compareColumns =>
      refine ⟨[], Eq.trans ?_ (List.append_nil _).symm⟩
      exact congrArg (·.joins) (d.addWheres_eq _)
  | paginate page =>
      refine ⟨[], Eq.trans ?_ (List.append_nil _).symm⟩
      exact congrArg (·.joins) (ensureKeyOrder_eq
        { d with limit := some page.size, offset := some page.offset })
  | _ => exact ⟨[], (List.append_nil _).symm⟩

theorem joins_of_after {calls : List Call} (h : (d.after calls).joins = []) : d.joins = [] := by
  induction calls generalizing d with
  | nil => exact h
  | cons call rest ih =>
      obtain ⟨more, hmore⟩ := d.exists_joins_afterCall call
      exact (List.append_eq_nil_iff.1 (hmore.symm.trans (ih h))).1

/-- A page whose key is the key that a query is ordered by adds a key that is mentioned at once. -/
theorem keyOrder_references {q : Query} (htable : d.table = q.table)
    (hjoins : q.joins = [] → d.joins = []) (hkey : d.keyOrder = q.keyOrder)
    (hmentions : q.keyOrder.references q.primaryKey = true) :
    d.keyOrder.references d.primaryKey = true := by
  by_cases hjoined : d.joins = []
  · have hplain : d.keyOrder = .column d.primaryKey .ascending := by
      rw [Draft.keyOrder, hjoined]
      rfl
    rw [hplain, Order.references, beq_self_eq_true, Bool.true_or]
  · have hq : q.joins.isEmpty = false := by
      rw [Bool.eq_false_iff, ne_eq, List.isEmpty_iff]
      exact fun h => hjoined (hjoins h)
    have hd : d.joins.isEmpty = false := by rwa [Bool.eq_false_iff, ne_eq, List.isEmpty_iff]
    have hname := hkey
    rw [Draft.keyOrder, Query.keyOrder, hd, hq, htable] at hname
    simp only [Bool.false_eq_true, if_false, Order.column.injEq, and_true,
      String.append_right_inj] at hname
    rw [hkey, hname]
    exact hmentions

end Draft

/-! ## Where the key stands -/

/-- A key that was added in this draft is where it would be added when the query is taken: nothing is
    ordered behind it, and it is the key of the query, which no order of the calls mentions. -/
structure Query.TakesKeyFrom (q : Query) (own : List Order) (d : Draft) (behind : List Call) :
    Prop where
  unordered : ordersOf behind = []
  key : d.keyOrder = q.keyOrder
  unmentioned : own.any (·.references q.primaryKey) = false
  mentions : q.keyOrder.references q.primaryKey = true

namespace Draft

variable {d : Draft} {calls : List Call}

theorem ordersOf_of_addsKey {before behind : List Call} (h : d.AddsKey calls before behind) :
    ordersOf calls = ordersOf before ++ ordersOf behind := by
  obtain ⟨page, rfl⟩ := h.page
  rw [ordersOf, List.flatMap_append]
  rfl

/-- Where the key stands last, a page that adds it has nothing to be ordered behind it. -/
theorem takesKeyFrom_of_orders_eq {q : Query} (hq : (d.after calls).toQuery = q) (hd : d.orders = [])
    (h : q.keyedOrders q.orders = q.keyedOrders (ordersOf calls)) {before behind : List Call}
    (hadds : d.AddsKey calls before behind) :
    q.TakesKeyFrom (ordersOf calls) (d.after before) behind := by
  subst hq
  generalize hq : (d.after calls).toQuery = q at h ⊢
  obtain ⟨added, hbefore, hadded⟩ := d.exists_orders_after before
  obtain ⟨more, hcalls, hmore⟩ := orders_after_of_addsKey hadds
  have hown := ordersOf_of_addsKey hadds
  rw [hd, List.nil_append] at hbefore
  rw [hbefore, hq] at hcalls
  -- the orders are too many already for the key to be added once more
  have hlong : (ordersOf calls).length + 1 ≤ q.orders.length := by
    have hlengthBefore := hadded.length_le
    have hlengthBehind := hmore.length_le
    rw [hown, hcalls, List.length_append, List.length_append, List.length_cons]
    omega
  have hmentioned : q.orders.any (·.references q.primaryKey) = true := by
    by_contra hnot
    have hroom := q.length_keyedOrders_le (ordersOf calls)
    rw [← h, Query.keyedOrders_of_unmentioned (Bool.eq_false_iff.2 hnot), List.length_append,
      List.length_singleton] at hroom
    omega
  rw [Query.keyedOrders_of_mentioned hmentioned] at h
  have hunmentioned : (ordersOf calls).any (·.references q.primaryKey) = false := by
    by_contra hnot
    rw [Query.keyedOrders_of_mentioned (Bool.eq_true_of_not_eq_false hnot)] at h
    rw [h] at hlong
    omega
  rw [Query.keyedOrders_of_unmentioned hunmentioned] at h
  have hmentions : q.keyOrder.references q.primaryKey = true := by
    rw [h, List.any_append, hunmentioned, Bool.false_or, List.any_cons, List.any_nil,
      Bool.or_false] at hmentioned
    exact hmentioned
  have hlength : added.length + more.length = (ordersOf before).length + (ordersOf behind).length := by
    have hlist := congrArg List.length (hcalls.symm.trans h)
    rw [hown] at hlist
    simp only [List.length_append, List.length_cons, List.length_nil] at hlist
    omega
  obtain rfl : ordersOf before = added := hadded.eq_of_length (by
    have := hadded.length_le
    have := hmore.length_le
    omega)
  obtain rfl : ordersOf behind = more := hmore.eq_of_length (by omega)
  have hshift : (d.after before).keyOrder :: ordersOf behind = ordersOf behind ++ [q.keyOrder] := by
    rw [hcalls, hown, List.append_assoc] at h
    exact List.append_cancel_left h
  rcases List.eq_nil_or_concat (ordersOf behind) with hnone | ⟨first, last, hlast⟩
  · rw [hnone] at hshift
    exact ⟨hnone, List.head_eq_of_cons_eq hshift, hunmentioned, hmentions⟩
  · -- the key would be the last of the orders behind the page, but these do not mention it
    rw [hlast, List.concat_eq_append, ← List.cons_append] at hshift
    have hkey : last = q.keyOrder := List.head_eq_of_cons_eq (List.append_inj_right' hshift rfl)
    have hmem : last ∈ ordersOf calls := by
      rw [hown, hlast]
      simp
    rw [List.any_eq_false] at hunmentioned
    exact absurd (hkey ▸ hmentions) (hunmentioned last hmem)

/-- A page behind one whose key is that of the query finds the key mentioned. -/
theorem not_addsKey_twice {q : Query} (hq : (d.after calls).toQuery = q)
    (h : ∀ before behind, d.AddsKey calls before behind →
      q.TakesKeyFrom (ordersOf calls) (d.after before) behind)
    {before between behind rest : List Call} {page : Page}
    (hfirst : d.AddsKey calls before rest)
    (hsecond : d.AddsKey calls (before ++ .paginate page :: between) behind) : False := by
  have hkeyFirst := (h _ _ hfirst).key
  obtain ⟨-, hkeySecond, -, hmentions⟩ := h _ _ hsecond
  obtain ⟨page', hcalls⟩ := hsecond.page
  have hmissing := hsecond.missing
  generalize hreached : before ++ .paginate page :: between = reached at hcalls hmissing hkeySecond
  have htable : (d.after reached).table = q.table := by
    rw [← hq, after_table, after_table]
  have hjoins : q.joins = [] → (d.after reached).joins = [] := by
    rw [← hq, hcalls, after_append]
    exact joins_of_after
  have hkey := keyOrder_references htable hjoins hkeySecond hmentions
  have hreaches : d.AddsKey reached before between :=
    ⟨⟨page, hreached.symm⟩, hfirst.missing⟩
  obtain ⟨more, horders, -⟩ := orders_after_of_addsKey hreaches
  rw [Query.ordersReference, List.any_eq_false] at hmissing
  refine hmissing (d.after before).keyOrder ?_ ?_
  · rw [horders]
    simp
  · rw [hkeyFirst, ← hkeySecond]
    exact hkey

/-- Where every page that adds the key has nothing to be ordered behind it, the key stands last. -/
theorem orders_eq_of_takesKeyFrom {q : Query} (hq : (d.after calls).toQuery = q) (hd : d.orders = [])
    (h : ∀ before behind, d.AddsKey calls before behind →
      q.TakesKeyFrom (ordersOf calls) (d.after before) behind) :
    q.keyedOrders q.orders = q.keyedOrders (ordersOf calls) := by
  have horders : q.orders = (d.after calls).orders := congrArg (·.orders) hq.symm
  by_cases hadds : ∃ before behind, d.AddsKey calls before behind
  · obtain ⟨before, behind, hadds⟩ := hadds
    obtain ⟨hunordered, hkey, hunmentioned, hmentions⟩ := h before behind hadds
    have hown := ordersOf_of_addsKey hadds
    obtain ⟨page, hcalls⟩ := hadds.page
    have hbefore : (d.after before).orders = ordersOf before := by
      rw [orders_after_of_not_addsKey, hd, List.nil_append]
      rintro first between ⟨⟨earlier, rfl⟩, hmissing⟩
      have hfirst : d.AddsKey calls first (between ++ .paginate page :: behind) :=
        ⟨⟨earlier, by rw [hcalls, List.append_assoc, List.cons_append]⟩, hmissing⟩
      exact not_addsKey_twice hq h hfirst hadds
    have hbehind : ((d.after before).afterCall (.paginate page)).after behind
        = d.after calls := by
      rw [hcalls, after_append, after_cons]
    have hlast : q.orders = ordersOf before ++ [q.keyOrder] := by
      rw [horders, ← hbehind, orders_after_of_not_addsKey, orders_afterCall_paginate,
        Query.keyedOrders_of_unmentioned hadds.missing, hbefore, hunordered, List.append_nil, ← hkey]
      · rfl
      · rintro between last ⟨⟨later, hsplit⟩, hmissing⟩
        have hsecond : d.AddsKey calls (before ++ .paginate page :: between) last := by
          refine ⟨⟨later, by rw [hcalls, hsplit, List.append_assoc, List.cons_append]⟩, ?_⟩
          rw [after_append, after_cons]
          exact hmissing
        exact not_addsKey_twice hq h hadds hsecond
    rw [hunordered, List.append_nil] at hown
    rw [Query.keyedOrders_of_unmentioned hunmentioned, Query.keyedOrders_of_mentioned, hlast, hown]
    rw [hlast, List.any_append, List.any_cons, hmentions, Bool.true_or, Bool.or_true]
  · rw [horders, orders_after_of_not_addsKey fun before behind h => hadds ⟨before, behind, h⟩, hd,
      List.nil_append]

end Draft

/-! ## Queries -/

theorem Query.takesKeyFrom_iff {q q' : Query} (hkey : q.keyOrder = q'.keyOrder)
    (hprimary : q.primaryKey = q'.primaryKey) (own : List Order) (d : Draft) (behind : List Call) :
    q.TakesKeyFrom own d behind ↔ q'.TakesKeyFrom own d behind := by
  constructor
  · rintro ⟨hunordered, hsame, hunmentioned, hmentions⟩
    exact ⟨hunordered, hkey ▸ hsame, hprimary ▸ hunmentioned, hkey ▸ hprimary ▸ hmentions⟩
  · rintro ⟨hunordered, hsame, hunmentioned, hmentions⟩
    exact ⟨hunordered, hkey.symm ▸ hsame, hprimary.symm ▸ hunmentioned,
      hkey.symm ▸ hprimary.symm ▸ hmentions⟩

namespace Draft

theorem toQuery_isolate (d : Draft) (count : Nat) :
    (d.isolate count).toQuery = { d.toQuery with wheres := (d.isolate count).wheres } := by
  rw [isolate]
  split <;> rfl

theorem snapshot_of_window {d : Draft} (h : d.snapshot.isPaginated = true) :
    d.snapshot = { d.toQuery with orders := d.keyedOrders d.orders, bindings := d.buckets.all } := by
  have hwindow : d.isPaginated = true := by
    rw [snapshot] at h
    by_cases hd : d.isPaginated = true
    · exact hd
    · rwa [if_neg hd] at h
  rw [snapshot, if_pos hwindow, ← orders_ensureKeyOrder, ensureKeyOrder_eq]

end Draft

section

variable {d : Dialect} {table : String} {calls : List Call} {q : Query}

/-- **The order of a window** is made of the orders of the calls and of the active scopes, in the order
    of the calls, with the primary key behind them unless one of them mentions it, exactly if every page
    that adds the key has nothing to be ordered behind it and the key does not change any more. In all
    cases the orders are kept in their order. -/
theorem orders_eq_keyedOrders_iff (h : (runCalls (Builder.new d table) calls).toQuery = .ok q)
    (hwindow : q.isPaginated = true) :
    (ordersOf (appliedCalls calls)).Sublist q.orders
      ∧ (q.orders = q.keyedOrders (ordersOf (appliedCalls calls))
        ↔ ∀ before behind, (Builder.new d table).draft.AddsKey (appliedCalls calls) before behind →
          q.TakesKeyFrom (ordersOf (appliedCalls calls)) ((Builder.new d table).draft.after before)
            behind) := by
  obtain ⟨-, rfl⟩ := toQuery_eq_ok_iff.1 h
  rw [queryOf] at hwindow ⊢
  rw [← Draft.after_append, ← appliedCalls] at hwindow ⊢
  generalize (Draft.after _ calls).wheres.length = count at hwindow ⊢
  generalize hnew : (Builder.new d table).draft = start at hwindow ⊢
  have hstart : start.orders = [] := by rw [← hnew]; rfl
  have hquery := Draft.snapshot_of_window hwindow
  rw [Draft.toQuery_isolate] at hquery
  generalize hq : (start.after (appliedCalls calls)).toQuery = base at hquery
  generalize (Draft.isolate _ count).snapshot = q at hquery ⊢
  have hkey : q.keyOrder = base.keyOrder := by rw [hquery]; rfl
  have hprimary : q.primaryKey = base.primaryKey := by rw [hquery]
  have hkeyed (own : List Order) : q.keyedOrders own = base.keyedOrders own := by
    rw [Query.keyedOrders, Query.keyedOrders, hkey, hprimary]
  have horders : q.orders = base.keyedOrders base.orders := by
    rw [hquery]
    rfl
  simp only [hkeyed, horders, Query.takesKeyFrom_iff hkey hprimary]
  refine ⟨?_, fun heq before behind => ?_, Draft.orders_eq_of_takesKeyFrom hq hstart⟩
  · obtain ⟨more, hmore, hsub⟩ := start.exists_orders_after (appliedCalls calls)
    rw [hstart, List.nil_append] at hmore
    refine hsub.trans ?_
    rw [← hmore, show (start.after (appliedCalls calls)).orders = base.orders from
      congrArg (·.orders) hq]
    exact base.sublist_keyedOrders base.orders
  · exact Draft.takesKeyFrom_of_orders_eq hq hstart heq

/-- A page that is chosen before the order: the key stands first, and so decides alone. -/
theorem orders_eq_keyedOrders_iff_page_first :
    ∃ (calls : List Call) (q : Query),
      calls = [.paginate ⟨10, 1, by decide⟩, .orderBy "created_at" .descending]
      ∧ (runCalls (Builder.new .postgres "posts") calls).toQuery = .ok q
      ∧ q.isPaginated = true
      ∧ q.orders = [.column "id" .ascending, .column "created_at" .descending]
      ∧ q.keyedOrders (ordersOf (appliedCalls calls))
        = [.column "created_at" .descending, .column "id" .ascending]
      ∧ ¬∀ before behind,
          (Builder.new .postgres "posts").draft.AddsKey (appliedCalls calls) before behind →
            q.TakesKeyFrom (ordersOf (appliedCalls calls))
              ((Builder.new .postgres "posts").draft.after before) behind := by
  let calls : List Call := [.paginate ⟨10, 1, by decide⟩, .orderBy "created_at" .descending]
  let q := queryOf .postgres "posts" calls
  have h : (runCalls (Builder.new .postgres "posts") calls).toQuery = .ok q :=
    toQuery_eq_ok_iff.2 ⟨by decide +kernel, rfl⟩
  have horders : q.orders = [.column "id" .ascending, .column "created_at" .descending] := rfl
  have hkeyed : q.keyedOrders (ordersOf (appliedCalls calls))
      = [.column "created_at" .descending, .column "id" .ascending] :=
    Query.keyedOrders_of_unmentioned (by decide +kernel)
  refine ⟨calls, q, rfl, h, rfl, horders, hkeyed, fun hall => ?_⟩
  have heq := (orders_eq_keyedOrders_iff h rfl).2.2 hall
  rw [horders, hkeyed] at heq
  simp at heq

end

end QueryKit
