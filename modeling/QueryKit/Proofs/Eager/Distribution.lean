import QueryKit.Proofs.Eager.Batching
import QueryKit.Proofs.Eager.Counting

set_option autoImplicit false

/-! # What records are handed

The rows that are read for a relation are handed out by key: each record is left with the rows of its
own key, each of them once and in the order in which they were returned
(`Relation.handed_rows_of_key`). What the key of a row is depends on how the row was read
(`Relation.Retrieves`). Rows that are read together have it in a column of theirs, the rows of a lateral
read carry it as a tag, and the rows of a statement for one id have the key of that id. -/

namespace QueryKit

variable {σ : Type}

/-- The value in a column has this key. -/
def Row.hasKey (column : String) (k : Key) (row : Row) : Bool :=
  (row.get? column).bind Value.key? == some k

/-- What a traversal of distinct entries makes of answers it makes of a function of the entries. -/
theorem Action.exists_answers {α β γ : Type} [Inhabited β] {f : α → Action σ γ} {g : α → Action σ β}
    {h : α → β → γ} {xs : List α} (hxs : xs.Nodup)
    (hf : ∀ x ∈ xs, f x = g x >>= fun y => pure (h x y)) {s s' : σ} {zs : List γ}
    (hrun : (xs.mapM f).runFrom s = (.ok zs, s')) :
    ∃ answer : α → β, (xs.mapM g).runFrom s = (.ok (xs.map answer), s')
      ∧ zs = xs.map fun x => h x (answer x) := by
  induction xs generalizing s zs with
  | nil =>
      cases hrun
      exact ⟨fun _ => default, rfl, rfl⟩
  | cons x rest ih =>
      obtain ⟨hx, hrest⟩ := List.nodup_cons.1 hxs
      rw [List.mapM_cons, hf x (List.mem_cons_self ..)] at hrun
      obtain ⟨z, s₁, hfirst, hrun⟩ := runFrom_bind_eq_ok hrun
      obtain ⟨y, s₂, hy, hz⟩ := runFrom_bind_eq_ok hfirst
      obtain ⟨others, s₃, hothers, hend⟩ := runFrom_bind_eq_ok hrun
      cases hz
      cases hend
      obtain ⟨answer, hanswer, rfl⟩ := ih hrest (fun w hw => hf w (List.mem_cons_of_mem _ hw)) hothers
      -- the entry is none of the others, so its answer can be added to theirs
      classical
      have hsame : ∀ w ∈ rest, Function.update answer x y w = answer w := fun w hw =>
        Function.update_of_ne (fun heq : w = x => hx (heq ▸ hw)) _ _
      refine ⟨Function.update answer x y, ?_, ?_⟩
      · rw [List.mapM_cons, List.map_cons, Function.update_self, List.map_congr_left hsame,
          runFrom_bind, hy]
        simp only
        rw [runFrom_bind, hanswer]
        rfl
      · rw [List.map_cons, Function.update_self]
        exact congrArg _ (List.map_congr_left fun w hw => by rw [hsame w hw])

namespace Relation

/-! ## Rows under a key -/

/-- Under a key stands what is made of the entries that have the key. -/
theorem withKey_filterMap {α β : Type} (key : α → Option Key) (f : α → β) (k : Key) (xs : List α) :
    withKey k (xs.filterMap fun x => (key x).map fun k => (k, f x))
      = (xs.filter fun x => key x == some k).map f := by
  induction xs with
  | nil => rfl
  | cons x rest ih =>
      rw [List.filterMap_cons, List.filter_cons]
      cases key x with
      | none => exact ih
      | some k' =>
          rw [withKey] at ih ⊢
          by_cases h : k' = k
          · subst h
            simpa using ih
          · simpa [h] using ih

theorem withKey_rowsByColumn (k : Key) (column : String) (rows : List Row) :
    withKey k (rowsByColumn column rows) = rows.filter (Row.hasKey column k) := by
  rw [rowsByColumn, withKey_filterMap, List.map_id']
  rfl

theorem withKey_lateralRows (k : Key) (rows : List Row) :
    withKey k (lateralRows rows)
      = (rows.filter (Row.hasKey Sql.parentKeyColumn k)).map (Row.erase Sql.parentKeyColumn) :=
  withKey_filterMap (fun row : Row => (row.get? Sql.parentKeyColumn).bind Value.key?)
    (Row.erase Sql.parentKeyColumn) k rows

/-! ## Ids with distinct keys -/

theorem nodup_firstByKey {α : Type} (entries : List (Key × α)) :
    ((firstByKey entries).map Prod.fst).Nodup := by
  induction entries with
  | nil => exact List.nodup_nil
  | cons first rest ih =>
      rw [firstByKey, List.map_cons, List.nodup_cons]
      refine ⟨fun hmem => ?_, ih.sublist (List.filter_sublist.map _)⟩
      obtain ⟨entry, hentry, heq⟩ := List.mem_map.1 hmem
      have hne := (List.mem_filter.1 hentry).2
      rw [heq, bne_self_eq_false] at hne
      exact Bool.false_ne_true hne

/-- The ids of values have distinct keys, and each of them has one. -/
theorem map_key?_distinctKeys (values : List Value) :
    (distinctKeys values).map Value.key?
      = ((firstByKey (keyed values)).map Prod.fst).map some := by
  rw [distinctKeys_eq, List.map_map, List.map_map]
  refine List.map_congr_left fun entry hentry => ?_
  exact (key?_canonical entry.2).trans (key?_of_mem_keyed (mem_of_mem_firstByKey hentry))

theorem nodup_parentKeys (column : String) (parents : List Record) :
    (parentKeys column parents).Nodup := by
  refine List.Nodup.of_map Value.key? ?_
  rw [parentKeys, map_key?_distinctKeys]
  exact (nodup_firstByKey _).map (Option.some_injective _)

theorem exists_key?_of_mem_parentKeys {column : String} {parents : List Record} {id : Value}
    (h : id ∈ parentKeys column parents) : ∃ k, id.key? = some k := by
  have hkey := List.mem_map_of_mem (f := Value.key?) h
  rw [parentKeys, map_key?_distinctKeys] at hkey
  obtain ⟨k, -, hk⟩ := List.mem_map.1 hkey
  exact ⟨k, hk.symm⟩

/-! ## Rows that are read for one id -/

/-- Rows under the key of an id. -/
def keyedRows (id : Value) (rows : List Row) : List (Key × Row) :=
  match id.key? with
  | some k => rows.map fun row => (k, row)
  | none => []

theorem withKey_keyedRows (k : Key) (id : Value) (rows : List Row) :
    withKey k (keyedRows id rows) = if id.hasKey k then rows else [] := by
  rw [keyedRows, Value.hasKey]
  cases id.key? with
  | none => rfl
  | some k' =>
      by_cases h : k' = k
      · subst h
        simp [withKey, List.filter_map, Function.comp_def]
      · simp [withKey, List.filter_map, Function.comp_def, h]

theorem withKey_flatMap_keyedRows (k : Key) (ids : List Value) (rowsOf : Value → List Row) :
    withKey k (ids.flatMap fun id => keyedRows id (rowsOf id))
      = (ids.filter (·.hasKey k)).flatMap rowsOf := by
  induction ids with
  | nil => rfl
  | cons id rest ih =>
      have happend : withKey k ((id :: rest).flatMap fun id => keyedRows id (rowsOf id))
          = withKey k (keyedRows id (rowsOf id))
            ++ withKey k (rest.flatMap fun id => keyedRows id (rowsOf id)) := by
        rw [List.flatMap_cons, withKey, List.filter_append, List.map_append]
        rfl
      rw [happend, withKey_keyedRows, ih, List.filter_cons]
      split
      · rw [List.flatMap_cons]
      · rw [List.nil_append]

variable {ctx : LoadContext σ} {parent related : Model} {r : Relation}
  {constraint : Option Constraint} {parents : List Record}

theorem rowsOfParent_eq {id : Value} {k : Key} (hk : id.key? = some k) (query : Builder) :
    rowsOfParent ctx r query id
      = (query.whereEq r.relatedKey id).get ctx.driver >>= fun rows => pure (keyedRows id rows) := by
  rw [rowsOfParent, hk]
  simp only [keyedRows, hk]

/-! ## Related rows that are found by one of their columns -/

/-- Hands every record the rows of its key. -/
def handOut (r : Relation) (related : Model) (rowsOf : Key → List Row) : Assignment := fun p =>
  match p.keyOf? r.parentKey with
  | some k => r.loaded ((rowsOf k).map (Record.ofRow related))
  | none => r.loaded []

theorem distributed_eq_handOut (found : List (Key × Row)) :
    (r.distributed (found.map fun (k, row) => (k, Record.ofRow related row)))
      = r.handOut related fun k => withKey k found := by
  funext p
  rw [distributed, handOut]
  cases p.keyOf? r.parentKey with
  | none => rfl
  | some k =>
      simp only
      rw [withKey_map]

theorem distributed_nil : r.distributed [] = fun _ => r.loaded [] := by
  funext p
  rw [distributed]
  cases p.keyOf? r.parentKey <;> rfl

/-- From a state, the rows that a relation has for each key are read by a query for ids. -/
inductive Retrieves (ctx : LoadContext σ) (r : Relation) (query : Builder) (ids : List Value) (s : σ) :
    (Key → List Row) → σ → Prop
  /-- The rows for all ids are read in one statement, and a row belongs to the key in its column. -/
  | together {rows : List Row} {s' : σ} :
    query.isPaginated = false
        ∨ (query.dialect.supportsLateral = false ∧ ctx.fallback = .unbounded) →
    ((query.whereIn r.relatedKey ids).get ctx.driver).runFrom s = (.ok rows, s') →
      Retrieves ctx r query ids s (fun k => rows.filter (Row.hasKey r.relatedKey k)) s'
  /-- The rows for each id are limited in one statement, and a row belongs to the key of its tag, which
      is taken off. -/
  | lateral {q : Query} {statement : Statement} {result : QueryResult} {s' : σ} :
    query.isPaginated = true → query.toQuery = .ok q →
    Sql.compileLateral query.dialect q r.relatedKey ids = .ok statement →
    (ctx.driver.query statement).runFrom s = (.ok result, s') →
      Retrieves ctx r query ids s
        (fun k => (result.rows.filter (Row.hasKey Sql.parentKeyColumn k)).map
          (Row.erase Sql.parentKeyColumn)) s'
  /-- The rows for each id are read in a statement of its own, and belong to its key. -/
  | apart {rowsOf : Value → List Row} {s' : σ} :
    query.isPaginated = true → query.dialect.supportsLateral = false → ctx.fallback = .perParent →
    (ids.mapM fun id => (query.whereEq r.relatedKey id).get ctx.driver).runFrom s
      = (.ok (ids.map rowsOf), s') →
      Retrieves ctx r query ids s (fun k => (ids.filter (·.hasKey k)).flatMap rowsOf) s'

theorem isEmpty_of_not_keyless (h : ¬r.Keyless parents) :
    (parentKeys r.parentKey parents).isEmpty = false :=
  Bool.eq_false_iff.2 fun hempty => h (parentKeys_isEmpty.1 hempty)

theorem directAssignment_of_paginated (hrelated : r.relatedModel ctx.registry = .ok related)
    (hwindow : (directQuery ctx parent related r constraint).isPaginated = true)
    (hempty : (parentKeys r.parentKey parents).isEmpty = false) :
    r.directAssignment ctx parent constraint parents
      = limitedRows ctx r (directQuery ctx parent related r constraint)
          (parentKeys r.parentKey parents) >>= fun rows =>
        pure (r.distributed (rows.map fun (k, row) => (k, Record.ofRow related row))) := by
  rw [directAssignment, hrelated, Action.ofExcept_ok_bind]
  dsimp only
  rw [hempty, directRows, hwindow]
  rfl

theorem retrieves_limitedRows {query : Builder} (hwindow : query.isPaginated = true)
    {ids : List Value} (hids : ids.Nodup) (hkeys : ∀ id ∈ ids, ∃ k, id.key? = some k) {s s' : σ}
    {found : List (Key × Row)}
    (hrun : (limitedRows ctx r query ids).runFrom s = (.ok found, s')) :
    r.Retrieves ctx query ids s (fun k => withKey k found) s' := by
  rw [limitedRows] at hrun
  split at hrun
  · obtain ⟨q, s₁, hq, hrun⟩ := Action.runFrom_bind_eq_ok hrun
    obtain ⟨statement, s₂, hstatement, hrun⟩ := Action.runFrom_bind_eq_ok hrun
    obtain ⟨result, s₃, hresult, hend⟩ := Action.runFrom_bind_eq_ok hrun
    rw [Action.runFrom_ofExcept, Prod.mk.injEq] at hq hstatement
    obtain ⟨hq, rfl⟩ := hq
    obtain ⟨hstatement, rfl⟩ := hstatement
    cases hend
    simp only [withKey_lateralRows]
    exact .lateral hwindow hq hstatement hresult
  · next hlateral =>
    rw [Bool.not_eq_true] at hlateral
    cases hfallback : ctx.fallback with
    | error =>
        rw [hfallback] at hrun
        cases hrun
    | unbounded =>
        rw [hfallback] at hrun
        obtain ⟨rows, s₁, hrows, hend⟩ := Action.runFrom_bind_eq_ok hrun
        cases hend
        simp only [withKey_rowsByColumn]
        exact .together (.inr ⟨hlateral, hfallback⟩) hrows
    | perParent =>
        rw [hfallback] at hrun
        obtain ⟨batches, s₁, hbatches, hend⟩ := Action.runFrom_bind_eq_ok hrun
        cases hend
        obtain ⟨rowsOf, hrowsOf, rfl⟩ := Action.exists_answers hids
          (fun id hid => (hkeys id hid).elim fun k hk => rowsOfParent_eq hk query) hbatches
        have hfound : (ids.map fun id => keyedRows id (rowsOf id)).flatten
            = ids.flatMap fun id => keyedRows id (rowsOf id) := rfl
        simp only [hfound, withKey_flatMap_keyedRows]
        exact .apart hwindow hlateral hfallback hrowsOf

/-- Records with a key are handed what has been read for their keys. -/
theorem directAssignment_hands_out (hkeyed : ¬r.Keyless parents) {s s' : σ} {assign : Assignment}
    (hrelated : r.relatedModel ctx.registry = .ok related)
    (hrun : (r.directAssignment ctx parent constraint parents).runFrom s = (.ok assign, s')) :
    ∃ rowsOf, r.Retrieves ctx (directQuery ctx parent related r constraint)
        (parentKeys r.parentKey parents) s rowsOf s'
      ∧ assign = r.handOut related rowsOf := by
  have hempty := isEmpty_of_not_keyless hkeyed
  cases hwindow : (directQuery ctx parent related r constraint).isPaginated with
  | false =>
      rw [directAssignment_of_unpaginated hrelated hwindow hempty] at hrun
      obtain ⟨rows, s₁, hrows, hend⟩ := Action.runFrom_bind_eq_ok hrun
      cases hend
      refine ⟨_, .together (.inl hwindow) hrows, ?_⟩
      rw [distributed_eq_handOut]
      simp only [withKey_rowsByColumn]
  | true =>
      rw [directAssignment_of_paginated hrelated hwindow hempty] at hrun
      obtain ⟨found, s₁, hfound, hend⟩ := Action.runFrom_bind_eq_ok hrun
      cases hend
      exact ⟨_, retrieves_limitedRows hwindow (nodup_parentKeys _ _)
        (fun id hid => exists_key?_of_mem_parentKeys hid) hfound, distributed_eq_handOut found⟩

/-! ## Owners of several kinds -/

/-- The rows that are read for the owners of one type. None are read if no record that names the type
    has a key. -/
def ownerRows (ctx : LoadContext σ) (r : Relation) (constraint : Option Constraint) (column : String)
    (parents : List Record) (tag : String) : Action σ (List Row) :=
  let ids := parentKeys r.parentKey (parents.filter fun p => tagOf? column p == some tag)
  if ids.isEmpty then pure []
  else
    Action.ofExcept (ctx.registry.resolveMorph tag) >>= fun model =>
      ((constrained constraint (model.query ctx.driver.dialect)).whereIn model.primaryKey ids).get
        ctx.driver

/-- Rows as owners of one type, each with its type and key. -/
def ownersOf (registry : ModelRegistry) (tag : String) (rows : List Row) :
    List ((String × Key) × Record) :=
  match registry.resolveMorph tag with
  | .ok model =>
    (rowsByColumn model.primaryKey rows).map fun (k, row) => ((tag, k), Record.ofRow model row)
  | .error _ => []

variable {column tag : String}

theorem ownersOfType_eq : ownersOfType ctx r constraint column parents tag
    = ownerRows ctx r constraint column parents tag >>= fun rows =>
        pure (ownersOf ctx.registry tag rows) := by
  rw [ownersOfType, ownerRows]
  dsimp only
  split
  · rw [pure_bind, ownersOf]
    cases ctx.registry.resolveMorph tag <;> rfl
  · cases hmodel : ctx.registry.resolveMorph tag with
    | error e => rfl
    | ok model => simp only [ownersOf, hmodel, Action.ofExcept_ok_bind]

theorem tag_of_mem_ownersOf {registry : ModelRegistry} {rows : List Row}
    {entry : (String × Key) × Record} (h : entry ∈ ownersOf registry tag rows) : entry.1.1 = tag := by
  rw [ownersOf] at h
  split at h
  · obtain ⟨_, -, rfl⟩ := List.mem_map.1 h
    rfl
  · cases h

/-- The owner under a type and a key is the first of the rows of the type with the key. -/
theorem lookup_ownersOf {registry : ModelRegistry} {model : Model}
    (hmodel : registry.resolveMorph tag = .ok model) (k : Key) (rows : List Row) :
    (ownersOf registry tag rows).lookup (tag, k)
      = (rows.find? (Row.hasKey model.primaryKey k)).map (Record.ofRow model) := by
  rw [ownersOf, hmodel]
  simp only
  rw [lookup_tagged, withKey_rowsByColumn, List.head?_map, List.head?_filter]

/-- The type that a record with a key names is known, where its owners have been read. -/
theorem exists_model_of_ownerRows {p : Record} (hp : p ∈ parents) (htag : tagOf? column p = some tag)
    {k : Key} (hk : p.keyOf? r.parentKey = some k) {s s' : σ} {rows : List Row}
    (hrun : (ownerRows ctx r constraint column parents tag).runFrom s = (.ok rows, s')) :
    ∃ model, ctx.registry.resolveMorph tag = .ok model := by
  have hids : ¬(parentKeys r.parentKey
      (parents.filter fun p => tagOf? column p == some tag)).isEmpty = true := fun hempty => by
    rw [parentKeys_isEmpty.1 hempty p (mem_filter_tag hp htag)] at hk
    cases hk
  rw [ownerRows, if_neg hids] at hrun
  cases hmodel : ctx.registry.resolveMorph tag with
  | error e =>
      rw [hmodel] at hrun
      cases hrun
  | ok model => exact ⟨model, rfl⟩

/-- Records are handed the first owner of their own type and key, from the rows for that type. -/
theorem ownersAssignment_hands_out (hcolumn : r.typeColumn = some column) {s s' : σ}
    {assign : Assignment}
    (hrun : (r.ownersAssignment ctx constraint parents).runFrom s = (.ok assign, s')) :
    ∃ rowsOf : String → List Row,
      ((Text.sortedNames (parents.filterMap (tagOf? column))).mapM
          (ownerRows ctx r constraint column parents)).runFrom s
        = (.ok ((Text.sortedNames (parents.filterMap (tagOf? column))).map rowsOf), s')
      ∧ ∀ p ∈ parents,
          (∀ tag k, tagOf? column p = some tag → p.keyOf? r.parentKey = some k →
            ∃ model, ctx.registry.resolveMorph tag = .ok model
              ∧ assign p = .one (((rowsOf tag).find? (Row.hasKey model.primaryKey k)).map
                  (Record.ofRow model)))
          ∧ (tagOf? column p = none ∨ p.keyOf? r.parentKey = none → assign p = .one none) := by
  rw [ownersAssignment_of_typeColumn hcolumn] at hrun
  obtain ⟨owners, s₁, hall, hend⟩ := Action.runFrom_bind_eq_ok hrun
  cases hend
  obtain ⟨rowsOf, hrowsOf, rfl⟩ := Action.exists_answers (Text.nodup_sortedNames _)
    (fun tag _ => ownersOfType_eq) hall
  refine ⟨rowsOf, hrowsOf, fun p hp => ⟨fun tag k htag hk => ?_, fun hnone => ?_⟩⟩
  · have hmem := mem_tags.2 ⟨p, hp, htag⟩
    obtain ⟨s₂, rows, s₃, hone⟩ := Action.runFrom_mapM_eq_ok hrowsOf tag hmem
    obtain ⟨model, hmodel⟩ := exists_model_of_ownerRows hp htag hk hone
    refine ⟨model, hmodel, ?_⟩
    rw [assignOwners, htag, hk]
    simp only
    rw [lookup_flatten (fun tag _ _ => tag_of_mem_ownersOf) hmem, lookup_ownersOf hmodel]
  · rw [assignOwners]
    split
    · next htag hk =>
      rw [htag, hk] at hnone
      exact absurd hnone (by simp)
    · rfl

/-! ## All of them -/

theorem assignment_eq_directAssignment (hmorph : r.kind ≠ .morphTo) (hpivot : r.kind ≠ .belongsToMany) :
    r.assignment ctx parent constraint parents = r.directAssignment ctx parent constraint parents := by
  rw [assignment]
  cases hkind : r.kind with
  | morphTo => exact absurd hkind hmorph
  | belongsToMany => exact absurd hkind hpivot
  | _ => rfl

theorem assignment_eq_pivotAssignment (hkind : r.kind = .belongsToMany) :
    r.assignment ctx parent constraint parents = r.pivotAssignment ctx constraint parents := by
  rw [assignment, hkind]

theorem assignment_eq_ownersAssignment (hkind : r.kind = .morphTo) :
    r.assignment ctx parent constraint parents = r.ownersAssignment ctx constraint parents := by
  rw [assignment, hkind]

/-- **Records are handed the rows of their own key.** Where a relation has been loaded whose related rows
    are found by one of their columns, each record with a key is handed the rows that have been read
    for this key, and the others nothing. Where the owners of records have been loaded, each record
    with a type and a key is handed the first of the rows for its type that has its key as the primary
    key, as a record of the model of the type, and the others nothing. -/
theorem handed_rows_of_key {s s' : σ} {out : List Record}
    (hrun : ((r.load ctx parent constraint).on parents).runFrom s = (.ok out, s')) :
    ∃ assign : Assignment, out = r.assigned assign parents
    ∧ (r.kind ≠ .morphTo → r.kind ≠ .belongsToMany →
      ∃ related, r.relatedModel ctx.registry = .ok related
        ∧ (r.Keyless parents → assign = fun _ => r.loaded [])
        ∧ (¬r.Keyless parents →
          ∃ rowsOf, r.Retrieves ctx (directQuery ctx parent related r constraint)
              (parentKeys r.parentKey parents) s rowsOf s'
            ∧ assign = r.handOut related rowsOf))
    ∧ (r.kind = .morphTo →
      ∃ column, r.typeColumn = some column
        ∧ ∃ rowsOf : String → List Row,
          ((Text.sortedNames (parents.filterMap (tagOf? column))).mapM
              (ownerRows ctx r constraint column parents)).runFrom s
            = (.ok ((Text.sortedNames (parents.filterMap (tagOf? column))).map rowsOf), s')
          ∧ ∀ p ∈ parents,
              (∀ tag k, tagOf? column p = some tag → p.keyOf? r.parentKey = some k →
                ∃ model, ctx.registry.resolveMorph tag = .ok model
                  ∧ assign p = .one (((rowsOf tag).find? (Row.hasKey model.primaryKey k)).map
                      (Record.ofRow model)))
              ∧ (tagOf? column p = none ∨ p.keyOf? r.parentKey = none → assign p = .one none)) := by
  obtain ⟨assign, hrun, hout⟩ := runFrom_on_load_eq_ok_iff.1 hrun
  refine ⟨assign, hout, ?_, ?_⟩
  · intro hmorph hpivot
    rw [assignment_eq_directAssignment hmorph hpivot] at hrun
    cases hrelated : r.relatedModel ctx.registry with
    | error e =>
        rw [directAssignment, hrelated] at hrun
        cases hrun
    | ok related =>
        refine ⟨related, rfl, fun hkeyless => ?_,
          fun hkeyed => directAssignment_hands_out hkeyed hrelated hrun⟩
        rw [directAssignment_of_isEmpty hrelated (parentKeys_isEmpty.2 hkeyless)] at hrun
        cases hrun
        rfl
  · intro hmorph
    rw [assignment_eq_ownersAssignment hmorph] at hrun
    cases hcolumn : r.typeColumn with
    | none =>
        rw [ownersAssignment, hcolumn] at hrun
        cases hrun
    | some column => exact ⟨column, rfl, ownersAssignment_hands_out hcolumn hrun⟩

/-- Users with one key in two forms and one without, and posts of which some are of nobody; comments on
    a post and a video of one key, and on nothing. -/
theorem handed_rows_of_key_posts_and_comments :
    ∃ (user post video comment : Model) (registry : ModelRegistry) (posts owners : Relation)
      (ctx : LoadContext Unit) (rows : List Row) (users comments : List Record)
      (held owned : List Record),
      user = { name := "User", table := "users" } ∧ post = { name := "Post", table := "posts" }
      ∧ video = { name := "Video", table := "videos" }
      ∧ comment = { name := "Comment", table := "comments" }
      ∧ registry = [user, post, video, comment].foldl (fun reg m => reg.register m) {}
      ∧ posts = .hasMany "posts" "Post" "user_id"
      ∧ owners = .morphTo "commentable" "commentable"
      ∧ rows = [.ofList [("id", .int 1), ("user_id", .int 7)],
          .ofList [("id", .int 2), ("user_id", .text "8")],
          .ofList [("id", .int 3), ("user_id", .text "7")],
          .ofList [("id", .int 4), ("user_id", .int 9)], .ofList [("id", .int 1), ("user_id", .null)]]
      ∧ ctx = { driver := { Driver.blank .postgres with query := fun _ => pure (.ofRows rows) }
                registry, fallback := .error }
      ∧ users = [.ofRow user (.ofList [("id", .int 7)]), .ofRow user (.ofList [("id", .text "7")]),
          .ofRow user (.ofList [("id", .null)])]
      ∧ comments = [
          .ofRow comment (.ofList [("commentable_type", .text "Post"), ("commentable_id", .int 1)]),
          .ofRow comment (.ofList [("commentable_type", .text "Video"), ("commentable_id", .int 1)]),
          .ofRow comment (.ofList [("commentable_type", .null), ("commentable_id", .int 1)])]
      ∧ ((posts.load ctx user none).on users).runFrom () = (.ok held, ())
      ∧ held.map (fun p => (p.related "posts").map (·.keyOf? "id"))
          = [[some (.int 1), some (.int 3)], [some (.int 1), some (.int 3)], []]
      ∧ held = posts.assigned (posts.handOut post fun k => rows.filter (Row.hasKey "user_id" k)) users
      ∧ ((owners.load ctx comment none).on comments).runFrom () = (.ok owned, ())
      ∧ owned.map (fun p => (p.related "commentable").map (·.model.name))
          = [["Post"], ["Video"], []]
      ∧ ∀ p ∈ comments, tagOf? "commentable_type" p = none →
          p.attach "commentable" (.one none) ∈ owned := by
  let user : Model := { name := "User", table := "users" }
  let post : Model := { name := "Post", table := "posts" }
  let video : Model := { name := "Video", table := "videos" }
  let comment : Model := { name := "Comment", table := "comments" }
  let registry : ModelRegistry := [user, post, video, comment].foldl (fun reg m => reg.register m) {}
  let rows : List Row := [.ofList [("id", .int 1), ("user_id", .int 7)],
    .ofList [("id", .int 2), ("user_id", .text "8")], .ofList [("id", .int 3), ("user_id", .text "7")],
    .ofList [("id", .int 4), ("user_id", .int 9)], .ofList [("id", .int 1), ("user_id", .null)]]
  let ctx : LoadContext Unit :=
    { driver := { Driver.blank .postgres with query := fun _ => pure (.ofRows rows) }
      registry, fallback := .error }
  let users : List Record := [.ofRow user (.ofList [("id", .int 7)]),
    .ofRow user (.ofList [("id", .text "7")]), .ofRow user (.ofList [("id", .null)])]
  let comments : List Record := [
    .ofRow comment (.ofList [("commentable_type", .text "Post"), ("commentable_id", .int 1)]),
    .ofRow comment (.ofList [("commentable_type", .text "Video"), ("commentable_id", .int 1)]),
    .ofRow comment (.ofList [("commentable_type", .null), ("commentable_id", .int 1)])]
  obtain ⟨held, hheld, hposts⟩ : ∃ held,
      (((hasMany "posts" "Post" "user_id").load ctx user none).on users).runFrom () = (.ok held, ())
        ∧ held.map (fun p => (p.related "posts").map (·.keyOf? "id"))
          = [[some (.int 1), some (.int 3)], [some (.int 1), some (.int 3)], []] :=
    ⟨_, rfl, rfl⟩
  obtain ⟨owned, howned, howners⟩ : ∃ owned,
      (((morphTo "commentable" "commentable").load ctx comment none).on comments).runFrom ()
          = (.ok owned, ())
        ∧ owned.map (fun p => (p.related "commentable").map (·.model.name))
          = [["Post"], ["Video"], []] := by
    subst comments users ctx rows registry comment video post user
    refine ⟨_, rfl, ?_⟩
    rfl
  obtain ⟨assign, hout, hdirect, -⟩ := handed_rows_of_key hheld
  obtain ⟨related, hrelated, -, hdirect⟩ := hdirect (by decide) (by decide)
  obtain ⟨rowsOf, hretrieves, hassign⟩ := hdirect (by decide)
  obtain ⟨assignOwner, hownedOut, -, howner⟩ := handed_rows_of_key howned
  obtain ⟨column, hcolumn, _, -, hhands⟩ := howner rfl
  cases hrelated
  cases hcolumn
  refine ⟨user, post, video, comment, registry, _, _, ctx, rows, users, comments, held, owned, rfl, rfl,
    rfl, rfl, rfl, rfl, rfl, rfl, rfl, rfl, rfl, hheld, hposts, ?_, howned, howners,
    fun p hp htag => ?_⟩
  · cases hretrieves with
    | together _ hget =>
        cases hget
        rw [hout, hassign]
        rfl
    | lateral hwindow => cases hwindow
    | apart hwindow => cases hwindow
  · rw [hownedOut, ← (hhands p hp).2 (.inl htag)]
    exact List.mem_map_of_mem hp

/-- **The rows of a lateral read go by their tag**, whatever they have in the column of the relation: a
    post of the second user that carries the tag of the first one is handed to the first one. -/
theorem lateral_rows_go_by_tag :
    ∃ (user post : Model) (posts : Relation) (ctx : LoadContext Unit) (rows : List Row)
      (first second first' second' : Record),
      user = { name := "User", table := "users" } ∧ post = { name := "Post", table := "posts" }
      ∧ posts = .hasMany "posts" "Post" "user_id"
      ∧ rows = [.ofList [("__parent_key", .int 1), ("id", .int 10), ("user_id", .int 2)]]
      ∧ ctx = { driver := { Driver.blank .postgres with query := fun _ => pure (.ofRows rows) }
                registry := { models := [("User", user), ("Post", post)] }, fallback := .error }
      ∧ first = .ofRow user (.ofList [("id", .int 1)])
      ∧ second = .ofRow user (.ofList [("id", .int 2)])
      ∧ ((posts.load ctx user (some (·.limit 1))).on [first, second]).runFrom ()
          = (.ok [first', second'], ())
      ∧ rows.filter (Row.hasKey "user_id" (.int 1)) = []
      ∧ rows.filter (Row.hasKey "user_id" (.int 2)) = rows
      ∧ (first'.related "posts").map (fun p => (p.keyOf? "id", p.keyOf? "user_id"))
          = [(some (.int 10), some (.int 2))]
      ∧ second'.related "posts" = []
      ∧ [first', second']
          ≠ posts.assigned (posts.handOut post fun k => rows.filter (Row.hasKey "user_id" k))
              [first, second] := by
  refine ⟨_, _, _, _, _, _, _, _, _, rfl, rfl, rfl, rfl, rfl, rfl, rfl, rfl, rfl, rfl, rfl, rfl, ?_⟩
  intro heq
  exact absurd (congrArg (List.map fun p : Record => (p.related "posts").length) heq) (by decide)

end Relation

end QueryKit
