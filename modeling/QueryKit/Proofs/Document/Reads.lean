import QueryKit.Proofs.Document.Mutation

set_option autoImplicit false

/-! # What reads list

A read lists the fields that it keeps and the keys of its order. Each list is made from one of the
query, entry by entry, in which SQL text is refused. The orders are gone through to their end, so none
of them is lost; the selected columns only up to the first star, so what stands behind it is not looked
at, be it a column or SQL text (`compileFind_of_star`). -/

namespace QueryKit

namespace Document

/-! ## Refusals -/

/-- It can fail by refusing a construct only. -/
def OnlyRefuses {α : Type} (x : Except Error α) : Prop :=
  ∀ e, x = .error e → ∃ construct, e = .unsupportedConstruct "document" construct

namespace OnlyRefuses

variable {α β : Type}

theorem ok (a : α) : OnlyRefuses (.ok a) := nofun

theorem unsupported (construct : Construct) :
    OnlyRefuses (Document.unsupported construct : Except Error α) := by
  rintro _ ⟨⟩
  exact ⟨construct, rfl⟩

theorem bind {x : Except Error α} {next : α → Except Error β} (hx : OnlyRefuses x)
    (hnext : ∀ a, OnlyRefuses (next a)) : OnlyRefuses (x >>= next) := by
  intro e he
  rcases bind_eq_error_iff.1 he with hfirst | ⟨a, -, hthen⟩
  · exact hx e hfirst
  · exact hnext a e hthen

theorem map {x : Except Error α} (hx : OnlyRefuses x) (f : α → β) : OnlyRefuses (x.map f) := by
  intro e he
  cases x with
  | ok a => cases he
  | error e' =>
    cases he
    exact hx _ rfl

theorem mapM {f : α → Except Error β} {xs : List α} (h : ∀ x ∈ xs, OnlyRefuses (f x)) :
    OnlyRefuses (xs.mapM f) := by
  intro e he
  obtain ⟨x, hx, hfx⟩ := mapM_error he
  exact h x hx e hfx

/-- What does not succeed is refused. -/
theorem refused {x : Except Error α} (hx : OnlyRefuses x) (h : ∀ a, x ≠ .ok a) :
    ∃ construct, x = Document.unsupported construct := by
  cases x with
  | ok a => exact absurd rfl (h a)
  | error e =>
    obtain ⟨construct, rfl⟩ := hx e rfl
    exact ⟨construct, rfl⟩

end OnlyRefuses

theorem onlyRefuses_refuseIf (found : Bool) (construct : Construct) :
    OnlyRefuses (refuseIf found construct) := by
  rw [refuseIf]
  split
  · exact .unsupported construct
  · exact .ok ()

theorem onlyRefuses_projectionOf (q : Query) (columns : List SelectColumn) :
    OnlyRefuses (projectionOf q columns) := by
  induction columns with
  | nil => exact .ok _
  | cons entry rest ih =>
    cases entry with
    | column name =>
      rw [projectionOf]
      split
      · exact .ok none
      · exact ih.map _
    | raw sql values => exact .unsupported .rawSelect

theorem onlyRefuses_sortKey (q : Query) (o : Order) : OnlyRefuses (sortKey q o) := by
  cases o with
  | column name direction => exact .ok _
  | raw sql values => exact .unsupported .rawOrder

theorem onlyRefuses_keepsUnmatched (kind : JoinKind) : OnlyRefuses (keepsUnmatched kind) := by
  cases kind with
  | inner | left => exact .ok _
  | right => exact .unsupported .rightJoin
  | cross => exact .unsupported .crossJoin

theorem onlyRefuses_lookupOf (q : Query) (j : Join) : OnlyRefuses (lookupOf q j) := by
  refine (onlyRefuses_keepsUnmatched j.kind).bind fun preserveUnmatched => ?_
  split
  · exact .unsupported .joinWithoutCondition
  · split
    · exact .unsupported .joinNotByEquality
    · -- whichever side is taken for the query's own
      dsimp only
      split <;> split
      · exact .unsupported .joinOnJoined
      · exact .ok _
      · exact .unsupported .joinOnJoined
      · exact .ok _

/-- **A read fails only by refusing a construct.** -/
theorem onlyRefuses_compileFind (q : Query) : OnlyRefuses (compileFind q) := by
  refine (onlyRefuses_refuseIf _ _).bind fun _ => (onlyRefuses_refuseIf _ _).bind fun _ => ?_
  refine (onlyRefuses_refuseIf _ _).bind fun _ => (onlyRefuses_refuseIf _ _).bind fun _ => ?_
  refine (onlyRefuses_projectionOf q q.columns).bind fun _ => ?_
  refine (OnlyRefuses.mapM fun o _ => onlyRefuses_sortKey q o).bind fun _ => ?_
  refine (OnlyRefuses.mapM fun j _ => onlyRefuses_lookupOf q j).bind fun _ => ?_
  exact OnlyRefuses.bind (fun _ he => filterOf_error he) fun _ => .ok _

/-! ## Selected columns -/

/-- Where the command of a read is sent to, and which fields it keeps. -/
theorem collection_and_projection_of_compileFind {q : Query} {c : Command}
    (h : compileFind q = .ok c) :
    c.collection = q.table ∧ ∃ projection, projectionOf q q.columns = .ok projection
      ∧ c.options.projection = projection.filter (!·.isEmpty) := by
  simp only [compileFind, bind_eq_ok_iff, Except.ok.injEq] at h
  obtain ⟨-, -, -, -, -, -, -, -, projection, hprojection, -, -, -, -, -, -, rfl⟩ := h
  exact ⟨rfl, projection, hprojection, rfl⟩

/-- The entries that a list of columns is looked at for: plain columns, up to a star or SQL text. -/
theorem columns_cases (columns : List SelectColumn) :
    ∃ names : List String, "*" ∉ names
      ∧ (columns = names.map .column
        ∨ (∃ back, columns = names.map .column ++ .star :: back)
        ∨ ∃ sql values back, columns = names.map .column ++ .raw sql values :: back) := by
  induction columns with
  | nil => exact ⟨[], List.not_mem_nil, .inl rfl⟩
  | cons entry rest ih =>
    cases entry with
    | raw sql values => exact ⟨[], List.not_mem_nil, .inr (.inr ⟨sql, values, rest, rfl⟩)⟩
    | column name =>
      by_cases hstar : name = "*"
      · subst hstar
        exact ⟨[], List.not_mem_nil, .inr (.inl ⟨rest, rfl⟩)⟩
      · obtain ⟨names, hnames, hrest⟩ := ih
        refine ⟨name :: names, List.not_mem_cons_of_ne_of_not_mem (Ne.symm hstar) hnames, ?_⟩
        rcases hrest with rfl | ⟨back, rfl⟩ | ⟨sql, values, back, rfl⟩
        · exact .inl rfl
        · exact .inr (.inl ⟨back, rfl⟩)
        · exact .inr (.inr ⟨sql, values, back, rfl⟩)

/-- Plain columns are gone past. -/
theorem projectionOf_append {names : List String} (h : "*" ∉ names) (q : Query)
    (back : List SelectColumn) :
    projectionOf q (names.map .column ++ back)
      = (projectionOf q back).map fun fields => fields.map (names.map (fieldOf q) ++ ·) := by
  induction names with
  | nil =>
    show projectionOf q back = _
    rcases projectionOf q back with e | (_ | fields) <;> rfl
  | cons name names ih =>
    rw [List.mem_cons, not_or] at h
    rw [List.map_cons, List.cons_append, projectionOf, beq_false_of_ne (Ne.symm h.1),
      if_neg Bool.false_ne_true, ih h.2]
    rcases projectionOf q back with e | (_ | fields) <;> rfl

theorem projectionOf_names {names : List String} (h : "*" ∉ names) (q : Query) :
    projectionOf q (names.map .column) = .ok (some (names.map (fieldOf q))) := by
  have happend := projectionOf_append h q []
  rw [List.append_nil] at happend
  rw [happend]
  show Except.ok (some (names.map (fieldOf q) ++ [])) = _
  rw [List.append_nil]

theorem projectionOf_raw {names : List String} (h : "*" ∉ names) (q : Query) (sql : String)
    (values : List Value) (back : List SelectColumn) :
    projectionOf q (names.map .column ++ .raw sql values :: back) = unsupported .rawSelect := by
  rw [projectionOf_append h]
  rfl

/-- What stands behind a star is not looked at. -/
theorem projectionOf_star (q : Query) (names : List String) (back : List SelectColumn) :
    projectionOf q (names.map .column ++ .star :: back) = .ok none := by
  induction names with
  | nil => rfl
  | cons name names ih =>
    rw [List.map_cons, List.cons_append, projectionOf, ih]
    split <;> rfl

/-- A read whose columns have a star in them is that of the star alone. -/
theorem compileFind_of_star {q : Query} {names : List String} {back : List SelectColumn}
    (h : q.columns = names.map .column ++ .star :: back) :
    compileFind q = compileFind { q with columns := [.star] } := by
  have hprojection : projectionOf q q.columns = projectionOf q [.star] := by
    rw [h, projectionOf_star]
    rfl
  rw [compileFind, hprojection]
  rfl

/-- SQL text stands in front of the first star. -/
def HasOpenRaw (columns : List SelectColumn) : Prop :=
  ∃ sql values, SelectColumn.raw sql values ∈ columns.takeWhile (!·.isStar)

theorem takeWhile_names {names : List String} (h : "*" ∉ names) (back : List SelectColumn) :
    (names.map SelectColumn.column ++ back).takeWhile (!·.isStar)
      = names.map .column ++ back.takeWhile (!·.isStar) := by
  refine List.takeWhile_append_of_pos fun entry hentry => ?_
  obtain ⟨name, hname, rfl⟩ := List.mem_map.1 hentry
  have hne : name ≠ "*" := fun heq => h (heq ▸ hname)
  rw [SelectColumn.isStar, beq_false_of_ne hne, Bool.not_false]

/-- Nothing in front of the first star is SQL text. -/
theorem not_hasOpenRaw {names : List String} (h : "*" ∉ names) (back : List SelectColumn)
    (hback : back.takeWhile (!·.isStar) = []) : ¬ HasOpenRaw (names.map .column ++ back) := by
  rintro ⟨sql, values, hmem⟩
  rw [takeWhile_names h, hback, List.append_nil] at hmem
  obtain ⟨_, -, hname⟩ := List.mem_map.1 hmem
  cases hname

theorem hasOpenRaw_raw {names : List String} (h : "*" ∉ names) (sql : String) (values : List Value)
    (back : List SelectColumn) : HasOpenRaw (names.map .column ++ .raw sql values :: back) := by
  refine ⟨sql, values, ?_⟩
  rw [takeWhile_names h]
  exact List.mem_append_right _ List.mem_cons_self

/-- SQL text in front of the first star is what a list of columns is refused for. -/
theorem projectionOf_refused_iff {q : Query} {columns : List SelectColumn} :
    (∃ construct, projectionOf q columns = unsupported construct) ↔ HasOpenRaw columns := by
  obtain ⟨names, hnames, rfl | ⟨back, rfl⟩ | ⟨sql, values, back, rfl⟩⟩ := columns_cases columns
  · have hopen := not_hasOpenRaw hnames [] rfl
    rw [List.append_nil] at hopen
    rw [projectionOf_names hnames]
    exact iff_of_false (by rintro ⟨_, ⟨⟩⟩) hopen
  · rw [projectionOf_star]
    exact iff_of_false (by rintro ⟨_, ⟨⟩⟩) (not_hasOpenRaw hnames (.star :: back) rfl)
  · rw [projectionOf_raw hnames]
    exact iff_of_true ⟨_, rfl⟩ (hasOpenRaw_raw hnames sql values back)

/-- What a read keeps: the fields of its columns, or all fields if there are none or one is the star. -/
theorem exists_columns_of_compileFind {q : Query} {c : Command} (h : compileFind q = .ok c) :
    (∃ names : List String, names ≠ [] ∧ "*" ∉ names ∧ q.columns = names.map .column
        ∧ c.options.projection = some (names.map (fieldOf q)))
      ∨ (c.options.projection = none
        ∧ (q.columns = [] ∨ ∃ (names : List String) (back : List SelectColumn),
          q.columns = names.map .column ++ .star :: back)) := by
  obtain ⟨-, projection, hprojection, hkept⟩ := collection_and_projection_of_compileFind h
  obtain ⟨names, hnames, hcolumns | ⟨back, hcolumns⟩ | ⟨sql, values, back, hcolumns⟩⟩ :=
    columns_cases q.columns
  · rw [hcolumns, projectionOf_names hnames] at hprojection
    obtain rfl := Except.ok.inj hprojection
    cases names with
    | nil => exact .inr ⟨hkept, .inl hcolumns⟩
    | cons name names => exact .inl ⟨name :: names, nofun, hnames, hcolumns, hkept⟩
  · rw [hcolumns, projectionOf_star] at hprojection
    obtain rfl := Except.ok.inj hprojection
    exact .inr ⟨hkept, .inr ⟨names, back, hcolumns⟩⟩
  · rw [hcolumns, projectionOf_raw hnames] at hprojection
    cases hprojection

/-! ## Orders -/

/-- The keys of an order become sort keys one by one, and none of them is SQL text. -/
theorem mapM_sortKey_eq_ok_iff {q : Query} {orders : List Order} {sort : List (String × Direction)} :
    orders.mapM (sortKey q) = .ok sort ↔ ∃ keys : List (String × Direction),
      orders = keys.map (fun key => .column key.1 key.2)
        ∧ sort = keys.map fun key => (fieldOf q key.1, key.2) := by
  rw [mapM_eq_ok_iff]
  constructor
  · intro h
    induction h with
    | nil => exact ⟨[], rfl, rfl⟩
    | @cons o key _ _ ho _ ih =>
      obtain ⟨keys, rfl, rfl⟩ := ih
      cases o with
      | column name direction =>
        cases ho
        exact ⟨(name, direction) :: keys, rfl, rfl⟩
      | raw => cases ho
  · rintro ⟨keys, rfl, rfl⟩
    rw [List.forall₂_map_left_iff, List.forall₂_map_right_iff, List.forall₂_same]
    exact fun key _ => rfl

theorem exists_keys_of_not_raw {orders : List Order}
    (h : ∀ sql values, Order.raw sql values ∉ orders) :
    ∃ keys : List (String × Direction), orders = keys.map fun key => .column key.1 key.2 := by
  induction orders with
  | nil => exact ⟨[], rfl⟩
  | cons o rest ih =>
    obtain ⟨keys, rfl⟩ := ih fun sql values hmem => h sql values (List.mem_cons_of_mem _ hmem)
    cases o with
    | column name direction => exact ⟨(name, direction) :: keys, rfl⟩
    | raw sql values => exact absurd List.mem_cons_self (h sql values)

/-! ## Lists of reads -/

/-- A query that asks for nothing but columns in an order. -/
def listed (columns : List SelectColumn) (orders : List Order) : Query :=
  { table := "t", columns, orders }

theorem exists_compileFind_listed (columns : List SelectColumn) (orders : List Order)
    {projection : Option (List String)} {sort : List (String × Direction)}
    (hcolumns : projectionOf (listed columns orders) columns = .ok projection)
    (horders : orders.mapM (sortKey (listed columns orders)) = .ok sort) :
    ∃ c, compileFind (listed columns orders) = .ok c := by
  simp only [compileFind, bind_eq_ok_iff]
  exact ⟨_, (), rfl, (), rfl, (), rfl, (), rfl, projection, hcolumns, sort, horders, [], rfl, [], rfl,
    rfl⟩

/-- Every read that is ordered by SQL text is refused, and no other order is refused by itself. -/
theorem refused_for_orders_iff (orders : List Order) :
    (∀ q : Query, q.orders = orders → ∃ construct, compileFind q = unsupported construct)
      ↔ ∃ sql values, Order.raw sql values ∈ orders := by
  constructor
  · intro hrefused
    by_contra! hraw
    obtain ⟨keys, rfl⟩ := exists_keys_of_not_raw hraw
    -- the read that asks for nothing else is compiled, so it is not the order that fails
    obtain ⟨c, hc⟩ := exists_compileFind_listed [.star] _ rfl
      (mapM_sortKey_eq_ok_iff.2 ⟨keys, rfl, rfl⟩)
    obtain ⟨construct, hnone⟩ := hrefused (listed [.star] _) rfl
    cases hc.symm.trans hnone
  · rintro ⟨sql, values, hraw⟩ q rfl
    refine (onlyRefuses_compileFind q).refused fun c hc => ?_
    obtain ⟨keys, hkeys, -⟩ := mapM_sortKey_eq_ok_iff.1 (found_of_compileFind hc).sort
    rw [hkeys] at hraw
    obtain ⟨_, -, hkey⟩ := List.mem_map.1 hraw
    cases hkey

/-- Every read with SQL text in front of the first star is refused, and no other list of columns is
    refused by itself. -/
theorem refused_for_columns_iff (columns : List SelectColumn) :
    (∀ q : Query, q.columns = columns → ∃ construct, compileFind q = unsupported construct)
      ↔ HasOpenRaw columns := by
  rw [← projectionOf_refused_iff (q := listed columns [])]
  constructor
  · intro hrefused
    refine (onlyRefuses_projectionOf _ columns).refused fun projection hprojection => ?_
    obtain ⟨c, hc⟩ := exists_compileFind_listed columns [] hprojection rfl
    obtain ⟨construct, hnone⟩ := hrefused (listed columns []) rfl
    cases hc.symm.trans hnone
  · intro hraw q hq
    refine (onlyRefuses_compileFind q).refused fun c hc => ?_
    obtain ⟨-, projection, hprojection, -⟩ := collection_and_projection_of_compileFind hc
    rw [hq] at hprojection
    obtain ⟨construct, hnone⟩ := projectionOf_refused_iff.2 (projectionOf_refused_iff.1 hraw)
    cases hprojection.symm.trans hnone

/-- **SQL text is refused by reads, unless it stands behind a star.** The command of a read has a sort
    key for each key of the order. It keeps the field of each column if the columns are plain, and all
    fields if there are no columns or one of them is the star. SQL text in the order makes every read
    with that order fail; SQL text among the columns does exactly if no star stands in front of it, as
    what stands behind the first star makes no difference. -/
theorem raw_refused_unless_behind_star (q : Query) :
    (∀ c : Command, compileFind q = .ok c →
        (∃ keys : List (String × Direction),
          q.orders = keys.map (fun key => .column key.1 key.2)
            ∧ c.options.sort = keys.map fun key => (fieldOf q key.1, key.2))
          ∧ ((∃ names : List String, names ≠ [] ∧ "*" ∉ names ∧ q.columns = names.map .column
              ∧ c.options.projection = some (names.map (fieldOf q)))
            ∨ (c.options.projection = none
              ∧ (q.columns = [] ∨ ∃ (names : List String) (back : List SelectColumn),
                q.columns = names.map .column ++ .star :: back))))
      ∧ ((∀ other : Query, other.orders = q.orders →
            ∃ construct, compileFind other = unsupported construct)
          ↔ ∃ sql values, Order.raw sql values ∈ q.orders)
      ∧ ((∀ other : Query, other.columns = q.columns →
            ∃ construct, compileFind other = unsupported construct)
          ↔ HasOpenRaw q.columns)
      ∧ ∀ (names : List String) (back : List SelectColumn),
          q.columns = names.map .column ++ .star :: back →
            compileFind q = compileFind { q with columns := [.star] } := by
  refine ⟨fun c hc => ⟨?_, exists_columns_of_compileFind hc⟩, refused_for_orders_iff q.orders,
    refused_for_columns_iff q.columns, fun names back => compileFind_of_star⟩
  exact mapM_sortKey_eq_ok_iff.1 (found_of_compileFind hc).sort

/-- SQL text behind a star is lost, and in front of it is refused. -/
theorem raw_refused_unless_behind_star_sum :
    (∃ (q : Query) (c : Command), q.columns = [.column "a", .star, .raw "SUM(b)" []]
        ∧ compileFind q = .ok c ∧ c.options.projection = none
        ∧ c.options.sort = [("_id", .descending)]
        ∧ (∃ keys : List (String × Direction),
          q.orders = keys.map (fun key => .column key.1 key.2)
            ∧ c.options.sort = keys.map fun key => (fieldOf q key.1, key.2))
        ∧ compileFind q = compileFind { q with columns := [.star] })
      ∧ ∀ q : Query, q.columns = [.column "a", .raw "SUM(b)" [], .star] →
          ∃ construct, compileFind q = unsupported construct := by
  have hc : compileFind (listed [.column "a", .star, .raw "SUM(b)" []]
      [.column "t.id" .descending]) = .ok _ := rfl
  obtain ⟨hfound, -, -, hstar⟩ := raw_refused_unless_behind_star (listed _ _)
  refine ⟨⟨_, _, rfl, hc, rfl, rfl, (hfound _ hc).1, hstar ["a"] [.raw "SUM(b)" []] rfl⟩, ?_⟩
  intro q hq
  obtain ⟨-, -, hcolumns, -⟩ := raw_refused_unless_behind_star q
  refine hcolumns.2 ?_ q rfl
  have hnames : "*" ∉ ["a"] := by decide
  exact hq ▸ hasOpenRaw_raw hnames "SUM(b)" [] [.star]

end Document

end QueryKit
