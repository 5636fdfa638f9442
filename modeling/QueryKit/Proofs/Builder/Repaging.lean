import QueryKit.Proofs.Builder.Ordering

set_option autoImplicit false

/-! # Pages behind pages

Of pages that are chosen one after another the last one should stand, ordered by the primary key once.
But whether an order mentions the key is read off the spelling of the two. Behind joins the key is
added with the table in front of it, and only what follows its last dot is compared with the key: a
key with a dot of its own is not found again. It is added once more for each page, and when the query
is taken (`repaging_iff`). -/

namespace QueryKit

/-! ## Spellings of the key -/

namespace Order

theorem lastPart_append_dot (qualifier name : String) :
    lastPart (qualifier ++ "." ++ name) = lastPart name := by
  have hlist : (qualifier ++ "." ++ name).toList = qualifier.toList ++ '.' :: name.toList := by simp
  rw [lastPart, hlist, List.splitOn_append_cons_self,
    List.getLast?_append_of_ne_nil _ (List.splitOn_ne_nil '.' name.toList), lastPart]

theorem lastPart_of_not_dotted {name : String} (h : '.' ∉ name.toList) : lastPart name = name := by
  rw [lastPart, List.splitOn_eq_singleton h]
  exact String.ofList_toList

/-- A name is its own last part if it has no dot. -/
theorem lastPart_eq_self_iff (name : String) : lastPart name = name ↔ '.' ∉ name.toList := by
  refine ⟨fun hself hdot => ?_, lastPart_of_not_dotted⟩
  -- what stands behind the last dot is shorter than the name
  obtain ⟨behind, before, hreverse, hlast⟩ :=
    List.eq_append_cons_of_mem (List.mem_reverse.2 hdot)
  have hname : name = String.ofList before.reverse ++ "." ++ String.ofList behind.reverse := by
    rw [← String.toList_inj, ← List.reverse_inj, hreverse]
    simp
  have hpart : lastPart name = String.ofList behind.reverse := by
    rw [hname, lastPart_append_dot, lastPart_of_not_dotted]
    simpa using hlast
  have hlength := congrArg String.length (hself.symm.trans hpart)
  rw [hname] at hlength
  simp at hlength

end Order

namespace Query

variable (q : Query)

/-- A key that is added to the orders is found among them: one of them mentions it already, it is added
    without qualifier, or it has no dot of its own. -/
def FindsKey : Prop :=
  q.ordersReference q.primaryKey = true ∨ q.joins = [] ∨ '.' ∉ q.primaryKey.toList

theorem keyOrder_references_iff :
    q.keyOrder.references q.primaryKey = true ↔ q.joins = [] ∨ '.' ∉ q.primaryKey.toList := by
  by_cases hjoins : q.joins = []
  · have hplain : q.keyOrder = .column q.primaryKey .ascending := by
      rw [keyOrder, hjoins]
      rfl
    rw [hplain, Order.references, beq_self_eq_true, Bool.true_or]
    exact iff_of_true rfl (.inl hjoins)
  · have hqualified : q.keyOrder
        = .column (Sql.tableReference q.table ++ "." ++ q.primaryKey) .ascending := by
      rw [keyOrder, if_neg (by rwa [List.isEmpty_iff])]
    have hlonger : Sql.tableReference q.table ++ "." ++ q.primaryKey ≠ q.primaryKey := by
      intro h
      have hlength := congrArg String.length h
      simp at hlength
    rw [hqualified, Order.references, Bool.or_eq_true, beq_iff_eq, beq_iff_eq, or_iff_right hlonger,
      Order.lastPart_append_dot, Order.lastPart_eq_self_iff, or_iff_right hjoins]

theorem references_keyedOrders_iff (own : List Order) :
    (q.keyedOrders own).any (·.references q.primaryKey) = true
      ↔ own.any (·.references q.primaryKey) = true ∨ q.joins = [] ∨ '.' ∉ q.primaryKey.toList := by
  rw [← keyOrder_references_iff]
  cases hown : own.any (·.references q.primaryKey) with
  | true =>
      rw [keyedOrders_of_mentioned hown]
      exact iff_of_true hown (.inl rfl)
  | false =>
      rw [keyedOrders_of_unmentioned hown, List.any_append, hown, Bool.false_or, List.any_cons,
        List.any_nil, Bool.or_false, or_iff_right Bool.false_ne_true]

/-- Whether the key is added does not depend on how often the same orders stand there. -/
theorem exists_keyedOrders_of_same {own orders : List Order}
    (h : ∀ order, order ∈ orders ↔ order ∈ own) :
    ∃ more, q.keyedOrders own = own ++ more ∧ q.keyedOrders orders = orders ++ more := by
  have hany : orders.any (·.references q.primaryKey) = own.any (·.references q.primaryKey) := by
    rw [Bool.eq_iff_iff, List.any_eq_true, List.any_eq_true]
    simp only [h]
  cases hown : own.any (·.references q.primaryKey) with
  | true =>
      refine ⟨[], ?_, ?_⟩
      · rw [keyedOrders_of_mentioned hown, List.append_nil]
      · rw [keyedOrders_of_mentioned (hany.trans hown), List.append_nil]
  | false =>
      refine ⟨[q.keyOrder], keyedOrders_of_unmentioned hown, ?_⟩
      exact keyedOrders_of_unmentioned (hany.trans hown)

variable {q}

/-- A key that is found is added at most once. -/
theorem iterate_keyedOrders_of_findsKey (h : q.FindsKey) (count : Nat) :
    q.keyedOrders^[count + 1] q.orders = q.keyedOrders q.orders := by
  have hfixed : q.keyedOrders (q.keyedOrders q.orders) = q.keyedOrders q.orders :=
    keyedOrders_of_mentioned ((q.references_keyedOrders_iff q.orders).2 h)
  exact Function.iterate_fixed hfixed count

/-- A key that is not found is added each time. -/
theorem iterate_keyedOrders_of_not_findsKey (h : ¬q.FindsKey) (count : Nat) :
    q.keyedOrders^[count] q.orders = q.orders ++ List.replicate count q.keyOrder := by
  have hkeys (n : Nat) :
      (q.orders ++ List.replicate n q.keyOrder).any (·.references q.primaryKey) = false := by
    rw [Bool.eq_false_iff, List.any_append, ne_eq, Bool.or_eq_true, List.any_replicate]
    rintro (hown | hkey)
    · exact h (.inl hown)
    · split at hkey
      · exact Bool.false_ne_true hkey
      · exact h (.inr (q.keyOrder_references_iff.1 hkey))
  induction count with
  | zero => exact (List.append_nil _).symm
  | succ n ih =>
      rw [Function.iterate_succ_apply', ih, keyedOrders_of_unmentioned (hkeys n), List.append_assoc,
        ← List.replicate_succ']

end Query

/-! ## Pages -/

/-- The calls that choose pages, one after another. -/
def pageCalls (pages : List Page) : List Call :=
  pages.map .paginate

theorem pageCalls_append (pages : List Page) (page : Page) :
    pageCalls pages ++ [.paginate page] = pageCalls (pages ++ [page]) := by
  rw [pageCalls, pageCalls, List.map_append]
  rfl

theorem faultOf?_pageCalls (pages : List Page) : faultOf? (pageCalls pages) = none := by
  induction pages with
  | nil => rfl
  | cons first rest ih => exact ih

theorem activeScopes_append_pageCalls (calls : List Call) (pages : List Page) :
    activeScopes (calls ++ pageCalls pages) = activeScopes calls := by
  have hnote (a : Agenda) : (pageCalls pages).foldl Agenda.note a = a := by
    induction pages with
    | nil => rfl
    | cons first rest ih => exact ih
  rw [activeScopes, List.foldl_append, hnote]
  rfl

theorem faultOf?_appliedCalls_pageCalls (calls : List Call) (pages : List Page) :
    faultOf? (appliedCalls (calls ++ pageCalls pages)) = faultOf? (appliedCalls calls) := by
  rw [appliedCalls, activeScopes_append_pageCalls, appliedCalls, faultOf?_append, faultOf?_append,
    faultOf?_append, faultOf?_pageCalls, Option.or_none]

namespace Draft

variable (d : Draft)

/-- The draft with other orders. -/
def withOrders (orders : List Order) : Draft :=
  { d with orders := orders }

/-- A page sets the window and adds the key. -/
theorem afterCall_paginate (page : Page) :
    d.afterCall (.paginate page)
      = ({ d.content with
          limit := some page.size
          offset := some page.offset } : Draft).withOrders
        (d.keyedOrders d.orders) := by
  rw [← d.orders_afterCall_paginate page, afterCall, Call.effect, Builder.paginate,
    Builder.modify, ensureKeyOrder_eq]
  rfl

/-- Behind pages a draft has the window of the last one, and the key was added for each that did not find
    it. -/
theorem after_pages (pages : List Page) (page : Page) :
    d.after (pageCalls pages ++ [.paginate page])
      = (d.afterCall (.paginate page)).withOrders
        (d.keyedOrders^[pages.length + 1] d.orders) := by
  induction pages generalizing d with
  | nil =>
      rw [afterCall_paginate]
      exact d.afterCall_paginate page
  | cons first rest ih =>
      have hfirst := ih (d.afterCall (.paginate first))
      rw [afterCall_paginate, afterCall_paginate] at hfirst
      rw [afterCall_paginate]
      refine Eq.trans ?_ hfirst
      rw [← afterCall_paginate]
      rfl

/-! ## Orders alone -/

variable {d} {orders : List Order}

theorem dropStar_withOrders (d : Draft) (orders : List Order) :
    (d.withOrders orders).dropStar = d.dropStar.withOrders orders := by
  have hcolumns : (d.withOrders orders).columns = d.columns := rfl
  unfold dropStar
  rw [hcolumns]
  split
  · split <;> rfl
  · rfl

/-- What a call adds to the orders does not depend on how often the same orders stand there already, and
    nothing else that it does depends on them. -/
theorem afterCall_withOrders (call : Call) (h : ∀ order, order ∈ orders ↔ order ∈ d.orders) :
    ∃ more, (d.afterCall call).orders = d.orders ++ more
      ∧ (d.withOrders orders).afterCall call = (d.afterCall call).withOrders (orders ++ more) := by
  cases call with
  | paginate page =>
      obtain ⟨more, hown, horders⟩ := d.exists_keyedOrders_of_same h
      refine ⟨more, (d.orders_afterCall_paginate page).trans hown, ?_⟩
      rw [afterCall_paginate, afterCall_paginate, ← horders]
      rfl
  | addSelect | selectRaw =>
      refine ⟨[], ?_, ?_⟩
      · rw [List.append_nil]
        exact d.dropStar_orders
      · simp only [afterCall, Call.effect, Builder.modify, List.append_nil, dropStar_withOrders]
        rfl
  | compare | whereGroup | oneOf | isNull | between | whereRaw | compareColumns =>
      refine ⟨[], ?_, ?_⟩
      · rw [List.append_nil]
        exact d.addWheres_orders _
      · simp only [afterCall, Call.effect, Builder.modify, addWheres_eq, List.append_nil]
        rfl
  | orderBy column direction => exact ⟨[.column column direction], rfl, rfl⟩
  | orderByRaw sql values => exact ⟨[.raw sql values], rfl, rfl⟩
  | _ => exact ⟨[], (List.append_nil _).symm, by rw [List.append_nil]; rfl⟩

theorem after_withOrders (calls : List Call) (h : ∀ order, order ∈ orders ↔ order ∈ d.orders) :
    ∃ more, (d.after calls).orders = d.orders ++ more
      ∧ (d.withOrders orders).after calls = (d.after calls).withOrders (orders ++ more) := by
  induction calls generalizing d orders with
  | nil => exact ⟨[], (List.append_nil _).symm, by rw [List.append_nil]; rfl⟩
  | cons call rest ih =>
      obtain ⟨first, hown, hcall⟩ := afterCall_withOrders call h
      have hsame (order : Order) :
          order ∈ orders ++ first ↔ order ∈ (d.afterCall call).orders := by
        rw [hown, List.mem_append, List.mem_append, h]
      obtain ⟨behind, hrest, hafter⟩ := ih hsame
      refine ⟨first ++ behind, ?_, ?_⟩
      · rw [after_cons, hrest, hown, List.append_assoc]
      · rw [after_cons, after_cons, hcall, hafter, List.append_assoc]

/-- The orders of the query that a draft becomes. -/
theorem orders_snapshot_isolate (d : Draft) (count : Nat) :
    (d.isolate count).snapshot.orders
      = if d.isPaginated then d.keyedOrders d.orders else d.orders := by
  have hquery := d.toQuery_isolate count
  generalize d.isolate count = isolated at hquery ⊢
  have hwindow : isolated.isPaginated = d.isPaginated := by rw [hquery]; rfl
  rw [snapshot, hwindow]
  split
  · refine isolated.orders_ensureKeyOrder.trans ?_
    rw [hquery]
    rfl
  · exact congrArg (·.orders) hquery

/-- More of the same orders are more orders of the query. -/
theorem exists_orders_snapshot (calls : List Call) (count : Nat)
    (h : ∀ order, order ∈ orders ↔ order ∈ d.orders) :
    ∃ more, ((d.after calls).isolate count).snapshot.orders = d.orders ++ more
      ∧ (((d.withOrders orders).after calls).isolate count).snapshot.orders = orders ++ more := by
  obtain ⟨added, hown, hafter⟩ := after_withOrders calls h
  have hwindow : ((d.after calls).withOrders (orders ++ added)).isPaginated
      = (d.after calls).isPaginated := rfl
  rw [hafter, orders_snapshot_isolate, orders_snapshot_isolate, hwindow]
  split
  · have hsame (order : Order) : order ∈ orders ++ added ↔ order ∈ (d.after calls).orders := by
      rw [hown, List.mem_append, List.mem_append, h]
    obtain ⟨key, hkey, horders⟩ := (d.after calls).exists_keyedOrders_of_same hsame
    refine ⟨added ++ key, ?_, ?_⟩
    · rw [hkey, hown, List.append_assoc]
    · rw [← List.append_assoc]
      exact horders
  · exact ⟨added, hown, rfl⟩

end Draft

/-! ## Queries -/

section

variable (d : Dialect) (table : String) (calls : List Call) (pages : List Page)
variable (page : Page)

/-- The query of pages that are chosen one after another is that of the last one, apart from the orders
    that are there before the scopes are applied. -/
theorem queryOf_pages :
    queryOf d table (calls ++ (pageCalls pages ++ [.paginate page]))
      = ((((((Builder.new d table).draft.after calls).afterCall (.paginate page)).withOrders
          (((Builder.new d table).draft.after calls).keyedOrders^[pages.length + 1]
            ((Builder.new d table).draft.after calls).orders)).after
          (activeScopes calls).flatten).isolate
          ((Builder.new d table).draft.after calls).wheres.length).snapshot := by
  generalize hown : (Builder.new d table).draft.after calls = own
  have hwheres : (own.afterCall (.paginate page)).wheres = own.wheres := by
    rw [Draft.afterCall_paginate]
    rfl
  have hscopes : activeScopes (calls ++ (pageCalls pages ++ [.paginate page]))
      = activeScopes calls := by
    rw [pageCalls_append, activeScopes_append_pageCalls]
  rw [queryOf, hscopes, Draft.after_append, hown, Draft.after_pages]
  show (Draft.isolate _ (own.afterCall (.paginate page)).wheres.length).snapshot = _
  rw [hwheres]

theorem queryOf_pages_eq_iff :
    queryOf d table (calls ++ (pageCalls pages ++ [.paginate page]))
        = queryOf d table (calls ++ [.paginate page])
      ↔ pages = [] ∨ ((Builder.new d table).draft.after calls).FindsKey := by
  have hlast := queryOf_pages d table calls [] page
  rw [queryOf_pages, show calls ++ [.paginate page]
    = calls ++ (pageCalls [] ++ [.paginate page]) from rfl, hlast]
  generalize (Builder.new d table).draft.after calls = own
  by_cases hfinds : own.FindsKey
  · rw [Query.iterate_keyedOrders_of_findsKey hfinds, Query.iterate_keyedOrders_of_findsKey hfinds]
    exact iff_of_true rfl (.inr hfinds)
  rw [or_iff_left hfinds, Query.iterate_keyedOrders_of_not_findsKey hfinds,
    Query.iterate_keyedOrders_of_not_findsKey hfinds]
  constructor
  · -- the orders are the same ones, but one more of them for each page
    intro hsame
    generalize hpage : own.afterCall (.paginate page) = paged at hsame
    have hmem (order : Order) :
        order ∈ own.orders ++ List.replicate (pages.length + 1) own.toQuery.keyOrder
          ↔ order ∈ (paged.withOrders (own.orders ++ List.replicate 1 own.toQuery.keyOrder)).orders := by
      simp [Draft.withOrders]
    obtain ⟨more, hone, hmany⟩ := Draft.exists_orders_snapshot (activeScopes calls).flatten
      own.wheres.length hmem
    have horders := hmany.symm.trans ((congrArg (·.orders) hsame).trans hone)
    have hlength := congrArg List.length horders
    simp only [Draft.withOrders, List.length_append, List.length_replicate] at hlength
    exact List.length_eq_zero_iff.1 (by omega)
  · rintro rfl
    rfl

/-- Without scopes, the key is added to the orders of a query for each page, and then once more. -/
theorem orders_queryOf_pages (h : activeScopes calls = []) :
    (queryOf d table (calls ++ (pageCalls pages ++ [.paginate page]))).orders
      = ((Builder.new d table).draft.after calls).keyedOrders^[pages.length + 2]
        ((Builder.new d table).draft.after calls).orders := by
  rw [queryOf_pages, h]
  generalize (Builder.new d table).draft.after calls = own
  show (Draft.isolate _ _).snapshot.orders = _
  have hpaged (orders : List Order) :
      ((own.afterCall (.paginate page)).withOrders orders).isPaginated = true
        ∧ ((own.afterCall (.paginate page)).withOrders orders).keyedOrders orders
          = own.keyedOrders orders := by
    rw [Draft.afterCall_paginate]
    exact ⟨rfl, rfl⟩
  rw [Draft.orders_snapshot_isolate, List.flatten_nil, Draft.after_nil, if_pos (hpaged _).1]
  exact (hpaged _).2.trans (Function.iterate_succ_apply' ..).symm

end

/-- **Of pages that are chosen one after another the last one stands alone exactly if the key is found
    among the orders**, unless calls are at fault anyway. The orders of a window mention the key exactly
    if it is found there. Where it is not, a query has it once for each page and once more. -/
theorem repaging_iff (d : Dialect) (table : String) (calls : List Call) :
    let own := (Builder.new d table).draft.after calls
    let all := (Builder.new d table).draft.after (appliedCalls calls)
    (∀ (pages : List Page) (page : Page),
      (runCalls (Builder.new d table) (calls ++ (pageCalls pages ++ [.paginate page]))).toQuery
          = (runCalls (Builder.new d table) (calls ++ [.paginate page])).toQuery
        ↔ pages = [] ∨ faultOf? (appliedCalls calls) ≠ none ∨ own.FindsKey)
      ∧ (∀ q : Query, (runCalls (Builder.new d table) calls).toQuery = .ok q → q.isPaginated = true →
        (q.ordersReference q.primaryKey = true ↔ all.FindsKey))
      ∧ (∀ (pages : List Page) (page : Page) (q : Query),
        activeScopes calls = [] →
        (runCalls (Builder.new d table) (calls ++ (pageCalls pages ++ [.paginate page]))).toQuery
          = .ok q →
        (own.FindsKey → q.orders = own.keyedOrders own.orders)
          ∧ (¬own.FindsKey → q.orders
            = own.orders ++ List.replicate (pages.length + 2) own.toQuery.keyOrder)) := by
  intro own all
  refine ⟨fun pages page => ?_, fun q hq hwindow => ?_, fun pages page q hscopes hq => ?_⟩
  · have hlast : faultOf? (appliedCalls (calls ++ [.paginate page]))
        = faultOf? (appliedCalls calls) :=
      faultOf?_appliedCalls_pageCalls calls [page]
    rw [toQuery_runCalls, toQuery_runCalls, hlast, pageCalls_append, faultOf?_appliedCalls_pageCalls,
      ← pageCalls_append]
    cases hfault : faultOf? (appliedCalls calls) with
    | some fault => exact iff_of_true rfl (.inr (.inl (Option.some_ne_none fault)))
    | none =>
        simp only [Except.ok.injEq, ne_eq, not_true, false_or]
        exact queryOf_pages_eq_iff d table calls pages page
  · obtain ⟨-, rfl⟩ := toQuery_eq_ok_iff.1 hq
    have hall : (own.after (activeScopes calls).flatten) = all :=
      (Draft.after_append _ calls _).symm
    rw [queryOf, hall] at hwindow ⊢
    rw [Draft.snapshot_of_window hwindow, Draft.toQuery_isolate]
    exact all.references_keyedOrders_iff all.orders
  · obtain ⟨-, rfl⟩ := toQuery_eq_ok_iff.1 hq
    rw [orders_queryOf_pages d table calls pages page hscopes]
    exact ⟨fun h => Query.iterate_keyedOrders_of_findsKey h _,
      fun h => Query.iterate_keyedOrders_of_not_findsKey h _⟩

/-- The key of a table with the table's name in front, behind a join: two pages and the query add it
    three times. -/
theorem repaging_iff_dotted_key :
    ∃ (first last : Page) (calls : List Call) (q : Query),
      first = ⟨10, 1, by decide⟩ ∧ last = ⟨5, 2, by decide⟩
      ∧ calls = [.primaryKey "posts.id", .join .inner "users" "posts.user_id" "=" "users.id"]
      ∧ (runCalls (Builder.new .postgres "posts") (calls ++ [.paginate first, .paginate last])).toQuery
        = .ok q
      ∧ q.orders = List.replicate 3 (.column "posts.posts.id" .ascending)
      ∧ q.ordersReference q.primaryKey = false
      ∧ (runCalls (Builder.new .postgres "posts") (calls ++ [.paginate last])).toQuery ≠ .ok q := by
  let first : Page := ⟨10, 1, by decide⟩
  let last : Page := ⟨5, 2, by decide⟩
  let calls : List Call :=
    [.primaryKey "posts.id", .join .inner "users" "posts.user_id" "=" "users.id"]
  have hspelled : Sql.tableReference "posts" ++ "." ++ "posts.id" = "posts.posts.id" := by
    decide +kernel
  have hmissed : ¬((Builder.new .postgres "posts").draft.after calls).FindsKey := by
    rintro (hmentioned | hunjoined | hundotted)
    · exact Bool.false_ne_true hmentioned
    · exact List.cons_ne_nil _ _ hunjoined
    · exact hundotted (by decide +kernel)
  have hkey : ((Builder.new .postgres "posts").draft.after calls).toQuery.keyOrder
      = .column "posts.posts.id" .ascending := congrArg (Order.column · .ascending) hspelled
  have hq : (runCalls (Builder.new .postgres "posts")
      (calls ++ [.paginate first, .paginate last])).toQuery
      = .ok (queryOf .postgres "posts" (calls ++ [.paginate first, .paginate last])) :=
    toQuery_eq_ok_iff.2 ⟨by decide +kernel, rfl⟩
  have hprimary : (queryOf .postgres "posts"
      (calls ++ [.paginate first, .paginate last])).primaryKey = "posts.id" := by decide +kernel
  obtain ⟨hrepaged, -, horders⟩ := repaging_iff .postgres "posts" calls
  have hthrice := (horders [first] last _ rfl hq).2 hmissed
  rw [hkey] at hthrice
  refine ⟨first, last, calls, _, rfl, rfl, rfl, hq, hthrice, ?_, fun hlast => ?_⟩
  · rw [Query.ordersReference, hthrice, hprimary]
    decide +kernel
  · obtain hnone | hfaulty | hfinds := (hrepaged [first] last).1 (hq.trans hlast.symm)
    · exact List.cons_ne_nil _ _ hnone
    · exact hfaulty (by decide +kernel)
    · exact hmissed hfinds

end QueryKit
