import QueryKit.Proofs.Eager.Distribution

set_option autoImplicit false

/-! # Limited rows, together or apart

The rows that a limit leaves for each record can be read in one lateral statement, whose rows carry the
id of their record as a tag, or in a statement for every id. If the rows for an id are the same in both,
then so is what records are loaded with, and the tag is seen nowhere
(`Relation.lateral_loads_like_perParent`). -/

namespace QueryKit

variable {σ τ : Type}

/-! ## Tags -/

/-- The row with the id of its parent as a tag, in any form and at any place. -/
structure Row.Tags (id : Value) (row tagged : Row) : Prop where
  key : (tagged.get? Sql.parentKeyColumn).bind Value.key? = id.key?
  rest : tagged.erase Sql.parentKeyColumn = row

/-- What has been tagged had no tag. -/
theorem Row.Tags.get?_eq_none {id : Value} {row tagged : Row} (h : row.Tags id tagged) :
    row.get? Sql.parentKeyColumn = none := by
  rw [← h.rest]
  exact (Assoc.get?_erase tagged.nodup _).trans (if_pos rfl)

/-- Every row without a tag can be tagged. -/
theorem Row.tags_push {row : Row} (h : row.get? Sql.parentKeyColumn = none) {id tag : Value}
    (hkey : tag.key? = id.key?) : row.Tags id (row.push Sql.parentKeyColumn tag) := by
  have hnot : Sql.parentKeyColumn ∉ row.entries.keys := fun hmem => by
    have hhas := Assoc.has_iff_mem_keys.2 hmem
    rw [Assoc.has, show row.entries.get? Sql.parentKeyColumn = none from h] at hhas
    cases hhas
  have hentries : (row.entries.set Sql.parentKeyColumn tag).erase Sql.parentKeyColumn
      = row.entries := by
    have hself : (row.entries.filter fun entry => entry.1 != Sql.parentKeyColumn) = row.entries := by
      refine List.filter_eq_self.2 fun entry hentry => bne_iff_ne.2 fun heq => hnot ?_
      exact List.mem_map.2 ⟨entry, hentry, heq⟩
    rw [Assoc.erase_eq_filter (Assoc.nodup_keys_set _ _ _ row.nodup), Assoc.set_of_notMem hnot,
      List.filter_append, hself, List.filter_cons_of_neg (by simp), List.filter_nil, List.append_nil]
  constructor
  · rw [get?, push, Assoc.get?_set, if_pos rfl, Option.bind_some, hkey]
  · simp only [erase, push, hentries]

/-! ## Answers -/

/-- The statement can be compiled, and the driver answers it with these rows from every state. -/
def Driver.AnswersWith (driver : Driver σ) (compiled : Except Error Statement) (rows : List Row) :
    Prop :=
  ∃ statement, compiled = .ok statement
    ∧ ∀ s, ∃ result s', (driver.query statement).runFrom s = (.ok result, s') ∧ result.rows = rows

theorem Driver.AnswersWith.returns_get {driver : Driver σ} {b : Builder} {rows : List Row}
    (h : driver.AnswersWith b.toSql rows) : (b.get driver).Returns rows := by
  obtain ⟨statement, hsql, hrun⟩ := h
  intro s
  obtain ⟨result, s', hquery, rfl⟩ := hrun s
  refine ⟨s', ?_⟩
  rw [Builder.get, Builder.fetch, hsql, Action.ofExcept_ok_bind, Action.runFrom_bind, hquery]
  rfl

namespace Relation

variable {ctx : LoadContext σ} {r : Relation} {query : Builder} {ids : List Value}
  {rowsOf : Value → List Row} {tagged : Value → Row → Row}

/-! ## Rows that are read together -/

/-- The tag of a row is its key, and is taken off. -/
theorem lateralRows_map {id : Value} {rows : List Row} {tag : Row → Row}
    (h : ∀ row ∈ rows, row.Tags id (tag row)) : lateralRows (rows.map tag) = keyedRows id rows := by
  have hrow : ∀ row ∈ rows, ((fun row : Row =>
      ((row.get? Sql.parentKeyColumn).bind Value.key?).map fun k => (k, row.erase Sql.parentKeyColumn))
        ∘ tag) row = id.key?.map fun k => (k, row) := by
    intro row hrow
    simp only [Function.comp_apply, (h row hrow).key, (h row hrow).rest]
  rw [lateralRows, List.filterMap_map, keyedRows]
  refine (List.filterMap_congr hrow).trans ?_
  cases id.key? with
  | none => exact List.filterMap_eq_nil_iff.2 fun _ _ => rfl
  | some k => exact congrFun List.filterMap_eq_map rows

theorem lateralRows_flatMap (h : ∀ id ∈ ids, ∀ row ∈ rowsOf id, row.Tags id (tagged id row)) :
    lateralRows (ids.flatMap fun id => (rowsOf id).map (tagged id))
      = ids.flatMap fun id => keyedRows id (rowsOf id) := by
  induction ids with
  | nil => rfl
  | cons id rest ih =>
      obtain ⟨hid, hrest⟩ := List.forall_mem_cons.1 h
      rw [List.flatMap_cons, lateralRows, List.filterMap_append, List.flatMap_cons, ← lateralRows_map hid,
        ← ih hrest]
      rfl

/-- The lateral read of the related rows for ids. -/
def lateralRead (r : Relation) (query : Builder) (ids : List Value) : Except Error Statement := do
  let q ← query.toQuery
  Sql.compileLateral query.dialect q r.relatedKey ids

theorem returns_limitedRows_together (hlateral : query.dialect.supportsLateral = true)
    (htags : ∀ id ∈ ids, ∀ row ∈ rowsOf id, row.Tags id (tagged id row))
    (hanswers : ctx.driver.AnswersWith (r.lateralRead query ids)
      (ids.flatMap fun id => (rowsOf id).map (tagged id))) :
    (limitedRows ctx r query ids).Returns (ids.flatMap fun id => keyedRows id (rowsOf id)) := by
  obtain ⟨statement, hcompiled, hrun⟩ := hanswers
  cases hq : query.toQuery with
  | error e =>
      rw [lateralRead, hq] at hcompiled
      cases hcompiled
  | ok q =>
      rw [lateralRead, hq] at hcompiled
      intro s
      obtain ⟨result, s', hquery, hrows⟩ := hrun s
      refine ⟨s', ?_⟩
      rw [limitedRows, if_pos hlateral, hq, Action.ofExcept_ok_bind,
        show Sql.compileLateral query.dialect q r.relatedKey ids = _ from hcompiled,
        Action.ofExcept_ok_bind, Action.runFrom_bind, hquery, ← lateralRows_flatMap htags, ← hrows]
      rfl

/-! ## Rows that are read apart -/

theorem returns_limitedRows_apart (hlateral : query.dialect.supportsLateral = false)
    (hfallback : ctx.fallback = .perParent) (hkeys : ∀ id ∈ ids, ∃ k, id.key? = some k)
    (hanswers : ∀ id ∈ ids, ctx.driver.AnswersWith (query.whereEq r.relatedKey id).toSql (rowsOf id)) :
    (limitedRows ctx r query ids).Returns (ids.flatMap fun id => keyedRows id (rowsOf id)) := by
  rw [limitedRows, if_neg (Bool.eq_false_iff.1 hlateral), hfallback]
  refine .bind (.mapM ids fun id hid => ?_) (.pure _)
  obtain ⟨k, hk⟩ := hkeys id hid
  rw [rowsOfParent_eq hk]
  exact (hanswers id hid).returns_get.bind (.pure _)

/-! ## Loading -/

variable {parent related : Model} {constraint : Option Constraint} {parents : List Record}

theorem distributed_flatMap_keyedRows :
    (r.distributed ((ids.flatMap fun id => keyedRows id (rowsOf id)).map
        fun (k, row) => (k, Record.ofRow related row)))
      = r.handOut related fun k => (ids.filter (·.hasKey k)).flatMap rowsOf := by
  rw [distributed_eq_handOut]
  simp only [withKey_flatMap_keyedRows]

/-- Records are handed the rows of the id that has their key. -/
theorem returns_assignment_of_limitedRows (hmorph : r.kind ≠ .morphTo) (hpivot : r.kind ≠ .belongsToMany)
    (hrelated : r.relatedModel ctx.registry = .ok related)
    (hwindow : (directQuery ctx parent related r constraint).isPaginated = true)
    (hlimited : parentKeys r.parentKey parents ≠ [] →
      (limitedRows ctx r (directQuery ctx parent related r constraint)
        (parentKeys r.parentKey parents)).Returns
          ((parentKeys r.parentKey parents).flatMap fun id => keyedRows id (rowsOf id))) :
    (r.assignment ctx parent constraint parents).Returns (r.handOut related fun k =>
      ((parentKeys r.parentKey parents).filter (·.hasKey k)).flatMap rowsOf) := by
  rw [assignment_eq_directAssignment hmorph hpivot, ← distributed_flatMap_keyedRows]
  cases hids : (parentKeys r.parentKey parents).isEmpty with
  | true =>
      rw [directAssignment_of_isEmpty hrelated hids, List.isEmpty_iff.1 hids]
      exact distributed_nil (r := r) ▸ .pure _
  | false =>
      rw [directAssignment_of_paginated hrelated hwindow hids]
      exact (hlimited fun heq => by simp [heq] at hids).bind (.pure _)

theorem mem_of_mem_loaded {α : Type} {found : List α} {x : α} (h : x ∈ (r.loaded found).records) :
    x ∈ found := by
  rw [loaded] at h
  split at h
  · exact h
  · exact List.mem_of_mem_head? (Option.mem_toList.1 h)

/-- Records are handed out rows only that have been read for them. -/
theorem exists_row_of_mem_handOut {rowsOf : Key → List Row} {p record : Record}
    (h : record ∈ (r.handOut related rowsOf p).records) :
    ∃ k, ∃ row ∈ rowsOf k, record = Record.ofRow related row := by
  rw [handOut] at h
  split at h
  · next k _ =>
    obtain ⟨row, hrow, rfl⟩ := List.mem_map.1 (mem_of_mem_loaded h)
    exact ⟨k, row, hrow, rfl⟩
  · exact absurd (mem_of_mem_loaded h) List.not_mem_nil

/-- **A lateral read loads what statements for every record load**, if its rows are those of the
    statements in the order of their ids, each with the id as a tag. Under a limit, each record with a
    key is handed the rows of the id that has this key, the others nothing, and no tag is left. -/
theorem lateral_loads_like_perParent {other : LoadContext τ}
    (hmorph : r.kind ≠ .morphTo) (hpivot : r.kind ≠ .belongsToMany)
    (hrelated : r.relatedModel ctx.registry = .ok related)
    (hregistry : other.registry = ctx.registry) (hfallback : other.fallback = .perParent)
    (hlateral : (directQuery ctx parent related r constraint).dialect.supportsLateral = true)
    (hapart : (directQuery other parent related r constraint).dialect.supportsLateral = false)
    (hwindow : (directQuery ctx parent related r constraint).isPaginated = true)
    (hwindow' : (directQuery other parent related r constraint).isPaginated = true)
    (htags : ∀ id ∈ parentKeys r.parentKey parents, ∀ row ∈ rowsOf id, row.Tags id (tagged id row))
    (htogether : parentKeys r.parentKey parents ≠ [] →
      ctx.driver.AnswersWith
        (r.lateralRead (directQuery ctx parent related r constraint) (parentKeys r.parentKey parents))
        ((parentKeys r.parentKey parents).flatMap fun id => (rowsOf id).map (tagged id)))
    (heach : ∀ id ∈ parentKeys r.parentKey parents,
      other.driver.AnswersWith
        ((directQuery other parent related r constraint).whereEq r.relatedKey id).toSql (rowsOf id)) :
    ∃ assign : Assignment,
      ((r.load ctx parent constraint).on parents).Returns (r.assigned assign parents)
      ∧ ((r.load other parent constraint).on parents).Returns (r.assigned assign parents)
      ∧ assign = r.handOut related (fun k =>
          ((parentKeys r.parentKey parents).filter (·.hasKey k)).flatMap rowsOf)
      ∧ ∀ p, ∀ record ∈ (assign p).records, record.raw? Sql.parentKeyColumn = none := by
  have hkeys : ∀ id ∈ parentKeys r.parentKey parents, ∃ k, id.key? = some k :=
    fun id hid => exists_key?_of_mem_parentKeys hid
  refine ⟨_, ?_, ?_, rfl, fun p record hrecord => ?_⟩
  · refine returns_on_load (returns_assignment_of_limitedRows hmorph hpivot hrelated hwindow ?_)
    exact fun hne => returns_limitedRows_together hlateral htags (htogether hne)
  · refine returns_on_load
      (returns_assignment_of_limitedRows hmorph hpivot (hregistry ▸ hrelated) hwindow' ?_)
    exact fun _ => returns_limitedRows_apart hapart hfallback hkeys heach
  · obtain ⟨k, row, hrow, rfl⟩ := exists_row_of_mem_handOut hrecord
    obtain ⟨id, hid, hrow⟩ := List.mem_flatMap.1 hrow
    exact (htags id (List.mem_filter.1 hid).1 row hrow).get?_eq_none

/-- Users with one key in two forms, one without posts and one without a key; their posts are read from
    a dialect with lateral reads and from one without. -/
theorem lateral_loads_like_perParent_posts :
    ∃ (user post : Model) (posts : Relation) (registry : ModelRegistry) (constraint : Option Constraint)
      (rowsOf : Value → List Row) (tagged : Value → Row → Row) (ctx other : LoadContext Unit)
      (users held : List Record),
      user = { name := "User", table := "users" } ∧ post = { name := "Post", table := "posts" }
      ∧ posts = .hasMany "posts" "Post" "user_id"
      ∧ registry = { models := [("User", user), ("Post", post)] }
      ∧ constraint = some (·.limit 2)
      ∧ rowsOf = (fun id => if id.hasKey (.int 1) then
            [.ofList [("id", .int 11), ("user_id", .int 1)], .ofList [("id", .int 10), ("user_id", .int 1)]]
          else if id.hasKey (.int 2) then [.ofList [("id", .int 20), ("user_id", .int 2)]]
          else [])
      ∧ tagged = (fun id row =>
          row.push Sql.parentKeyColumn (if id.hasKey (.int 1) then .text "1" else id))
      ∧ ctx = { driver := { Driver.blank .postgres with
                  query := fun _ => pure (.ofRows
                    ([.int 1, .int 2, .int 3].flatMap fun id => (rowsOf id).map (tagged id))) }
                registry, fallback := .error }
      ∧ other = { driver := { Driver.blank .sqlite with
                    query := fun statement => pure (.ofRows (statement.bindings.flatMap rowsOf)) }
                  registry, fallback := .perParent }
      ∧ users = [.ofRow user (.ofList [("id", .int 1)]), .ofRow user (.ofList [("id", .text "1")]),
          .ofRow user (.ofList [("id", .int 2)]), .ofRow user (.ofList [("id", .int 3)]),
          .ofRow user (.ofList [("id", .null)])]
      ∧ ((posts.load ctx user constraint).on users).Returns held
      ∧ ((posts.load other user constraint).on users).Returns held
      ∧ (∀ p ∈ held, ∀ record ∈ p.related "posts", record.raw? Sql.parentKeyColumn = none)
      ∧ held.map (fun p => (p.related "posts").map (·.keyOf? "id"))
          = [[some (.int 11), some (.int 10)], [some (.int 11), some (.int 10)], [some (.int 20)], [],
            []] := by
  let user : Model := { name := "User", table := "users" }
  let post : Model := { name := "Post", table := "posts" }
  let posts : Relation := .hasMany "posts" "Post" "user_id"
  let registry : ModelRegistry := { models := [("User", user), ("Post", post)] }
  let rowsOf : Value → List Row := fun id => if id.hasKey (.int 1) then
      [.ofList [("id", .int 11), ("user_id", .int 1)], .ofList [("id", .int 10), ("user_id", .int 1)]]
    else if id.hasKey (.int 2) then [.ofList [("id", .int 20), ("user_id", .int 2)]]
    else []
  let tagged : Value → Row → Row := fun id row =>
    row.push Sql.parentKeyColumn (if id.hasKey (.int 1) then .text "1" else id)
  let ctx : LoadContext Unit :=
    { driver := { Driver.blank .postgres with
        query := fun _ => pure (.ofRows
          ([.int 1, .int 2, .int 3].flatMap fun id => (rowsOf id).map (tagged id))) }
      registry, fallback := .error }
  let other : LoadContext Unit :=
    { driver := { Driver.blank .sqlite with
        query := fun statement => pure (.ofRows (statement.bindings.flatMap rowsOf)) }
      registry, fallback := .perParent }
  let users : List Record := [.ofRow user (.ofList [("id", .int 1)]),
    .ofRow user (.ofList [("id", .text "1")]), .ofRow user (.ofList [("id", .int 2)]),
    .ofRow user (.ofList [("id", .int 3)]), .ofRow user (.ofList [("id", .null)])]
  have hids : parentKeys "id" users = [.int 1, .int 2, .int 3] := rfl
  have htags : ∀ id ∈ parentKeys "id" users, ∀ row ∈ rowsOf id, row.Tags id (tagged id row) := by
    have hclear : ∀ id, ∀ row ∈ rowsOf id, row.get? Sql.parentKeyColumn = none := by
      intro id
      simp only [rowsOf]
      split
      · simp only [List.forall_mem_cons, List.not_mem_nil, false_imp_iff, implies_true, and_true]
        exact ⟨rfl, rfl⟩
      · split
        · simp only [List.forall_mem_cons, List.not_mem_nil, false_imp_iff, implies_true, and_true]
          rfl
        · exact fun _ h => absurd h List.not_mem_nil
    refine fun id _ row hrow => Row.tags_push (hclear id row hrow) ?_
    split
    · next hone =>
      rw [Value.hasKey, beq_iff_eq] at hone
      rw [hone]
      rfl
    · rfl
  have htogether : ctx.driver.AnswersWith
      (posts.lateralRead (directQuery ctx user post posts (some (·.limit 2))) (parentKeys "id" users))
      ((parentKeys "id" users).flatMap fun id => (rowsOf id).map (tagged id)) := by
    rw [hids]
    subst users other ctx tagged rowsOf registry posts post user
    exact ⟨_, rfl, fun s => ⟨_, s, rfl, rfl⟩⟩
  have heach : ∀ id ∈ parentKeys "id" users, other.driver.AnswersWith
      ((directQuery other user post posts (some (·.limit 2))).whereEq "user_id" id).toSql
        (rowsOf id) := by
    rw [hids]
    intro id hid
    simp only [List.mem_cons, List.not_mem_nil, or_false] at hid
    subst users other ctx tagged rowsOf registry posts post user
    rcases hid with rfl | rfl | rfl <;> exact ⟨_, rfl, fun s => ⟨_, s, rfl, rfl⟩⟩
  obtain ⟨assign, hone, hother, hassign, huntagged⟩ :=
    @lateral_loads_like_perParent Unit Unit ctx posts rowsOf tagged user post (some (·.limit 2)) users
      other (by decide) (by decide) rfl rfl rfl rfl rfl rfl rfl htags (fun _ => htogether) heach
  have hheld : (posts.assigned assign users).map (fun p => (p.related "posts").map (·.keyOf? "id"))
      = [[some (.int 11), some (.int 10)], [some (.int 11), some (.int 10)], [some (.int 20)], [], []] := by
    rw [hassign]
    decide
  refine ⟨user, post, posts, registry, _, rowsOf, tagged, ctx, other, users, posts.assigned assign users,
    rfl, rfl, rfl, rfl, rfl, rfl, rfl, rfl, rfl, rfl, hone, hother, fun p hp record hrecord => ?_, hheld⟩
  obtain ⟨q, -, rfl⟩ := List.mem_map.1 hp
  rw [show posts.name = "posts" from rfl, Record.related_attach] at hrecord
  exact huntagged q record hrecord

end Relation

end QueryKit
