import QueryKit.Proofs.Eager.Distribution

set_option autoImplicit false

/-! # Records by way of a pivot table

Pivot rows pair records with related ones. The related rows are read for one id of every key that the
pivot rows lead to, however often they do (`Pivot.OneForEach`), and each of them is handed to a record as
many times as pivot rows pair the two (`Relation.load_fans_out_iff`). -/

namespace QueryKit

variable {σ : Type}

namespace Pivot

/-- The row pairs two keys. -/
def pairs (p : Pivot) (parent related : Key) (row : Row) : Bool :=
  row.hasKey p.parentColumn parent && row.hasKey p.relatedColumn related

/-- The row pairs some key with this one. -/
def leadsTo (p : Pivot) (related : Key) (row : Row) : Bool :=
  ((row.get? p.parentColumn).bind Value.key?).isSome && row.hasKey p.relatedColumn related

/-- There is one id for every key that the rows lead to, taken from the rows, and there are no others. -/
structure OneForEach (p : Pivot) (rows : List Row) (ids : List Value) : Prop where
  count : ∀ k, (ids.map Value.key?).count (some k) = if rows.any (p.leadsTo k) then 1 else 0
  keyed : ∀ id ∈ ids, id.key? ≠ none
  taken : ∀ id ∈ ids, ∃ row ∈ rows, row.get? p.relatedColumn = some id

end Pivot

namespace Relation

/-! ## Links -/

theorem mem_pivotLinks {p : Pivot} {rows : List Row} {parent related : Key} {id : Value} :
    (parent, related, id) ∈ pivotLinks p rows
      ↔ ∃ row ∈ rows, row.hasKey p.parentColumn parent = true
          ∧ row.get? p.relatedColumn = some id ∧ id.key? = some related := by
  rw [pivotLinks, List.mem_filterMap]
  refine exists_congr fun row => and_congr_right fun _ => ?_
  simp only [Option.bind_eq_bind, Option.bind_eq_some_iff, Option.pure_def, Option.some.injEq,
    Prod.mk.injEq, Row.hasKey, beq_iff_eq]
  constructor
  · rintro ⟨k, hk, v, hv, k', hk', rfl, rfl, rfl⟩
    exact ⟨hk, hv, hk'⟩
  · rintro ⟨hk, hv, hk'⟩
    exact ⟨_, hk, _, hv, _, hk', rfl, rfl, rfl⟩

/-- As many links pair two keys as pivot rows do. -/
theorem countP_pivotLinks (p : Pivot) (rows : List Row) (parent related : Key) :
    (pivotLinks p rows).countP (fun link => link.1 == parent && link.2.1 == related)
      = rows.countP (p.pairs parent related) := by
  rw [pivotLinks, List.countP_filterMap]
  refine List.countP_congr fun row _ => ?_
  rw [Pivot.pairs, Row.hasKey, Row.hasKey]
  cases (row.get? p.parentColumn).bind Value.key? with
  | none => simp
  | some k =>
      cases row.get? p.relatedColumn with
      | none => simp
      | some id => cases hid : id.key? <;> simp [hid]

theorem leadsTo_iff {p : Pivot} {rows : List Row} {related : Key} :
    rows.any (p.leadsTo related) = true ↔ ∃ link ∈ pivotLinks p rows, link.2.1 = related := by
  rw [List.any_eq_true]
  constructor
  · rintro ⟨row, hrow, hleads⟩
    rw [Pivot.leadsTo, Bool.and_eq_true, Option.isSome_iff_exists, Row.hasKey, beq_iff_eq,
      Option.bind_eq_some_iff] at hleads
    obtain ⟨⟨k, hk⟩, id, hid, hkey⟩ := hleads
    exact ⟨(k, related, id), mem_pivotLinks.2 ⟨row, hrow, beq_iff_eq.2 hk, hid, hkey⟩, rfl⟩
  · rintro ⟨⟨k, _, id⟩, hlink, rfl⟩
    obtain ⟨row, hrow, hk, hid, hkey⟩ := mem_pivotLinks.1 hlink
    refine ⟨row, hrow, ?_⟩
    rw [Row.hasKey, beq_iff_eq] at hk
    rw [Pivot.leadsTo, Row.hasKey, hk, hid, Option.isSome_some, Option.bind_some, hkey,
      Bool.true_and, beq_iff_eq]

theorem linkedIds_eq (links : List (Key × Key × Value)) :
    linkedIds links = (firstByKey (links.map Prod.snd)).map Prod.snd :=
  rfl

/-- **The ids of links are one for every key that the pivot rows lead to.** -/
theorem oneForEach_linkedIds (p : Pivot) (rows : List Row) :
    p.OneForEach rows (linkedIds (pivotLinks p rows)) := by
  have hentry : ∀ entry ∈ firstByKey ((pivotLinks p rows).map Prod.snd),
      ∃ parent, (parent, entry.1, entry.2) ∈ pivotLinks p rows := by
    intro entry hmem
    obtain ⟨link, hlink, rfl⟩ := List.mem_map.1 (mem_of_mem_firstByKey hmem)
    exact ⟨link.1, hlink⟩
  have hkeys : (linkedIds (pivotLinks p rows)).map Value.key?
      = ((firstByKey ((pivotLinks p rows).map Prod.snd)).map Prod.fst).map some := by
    rw [linkedIds_eq, List.map_map, List.map_map]
    refine List.map_congr_left fun entry hmem => ?_
    obtain ⟨parent, hlink⟩ := hentry entry hmem
    exact key?_of_mem_pivotLinks hlink
  refine ⟨fun k => ?_, fun id hid => ?_, fun id hid => ?_⟩
  · rw [hkeys, ((nodup_firstByKey _).map (Option.some_injective _)).count]
    refine if_congr ?_ rfl rfl
    rw [leadsTo_iff, List.mem_map_of_injective (Option.some_injective _), List.mem_map]
    constructor
    · rintro ⟨entry, hmem, rfl⟩
      obtain ⟨parent, hlink⟩ := hentry entry hmem
      exact ⟨_, hlink, rfl⟩
    · rintro ⟨link, hlink, rfl⟩
      obtain ⟨id, hid⟩ := exists_mem_firstByKey (List.mem_map_of_mem (f := Prod.snd) hlink)
      exact ⟨_, hid, rfl⟩
  · have hmem := List.mem_map_of_mem (f := Value.key?) hid
    rw [hkeys] at hmem
    obtain ⟨k, -, hk⟩ := List.mem_map.1 hmem
    rw [← hk]
    exact Option.some_ne_none k
  · rw [linkedIds_eq] at hid
    obtain ⟨entry, hmem, rfl⟩ := List.mem_map.1 hid
    obtain ⟨parent, hlink⟩ := hentry entry hmem
    obtain ⟨row, hrow, -, hget, -⟩ := mem_pivotLinks.1 hlink
    exact ⟨row, hrow, hget⟩

/-! ## Fanning out -/

/-- The records of related rows, each of them once for every pivot row that pairs it with a key. -/
def fanOut (p : Pivot) (related : Model) (links rows : List Row) (k : Key) : List Record :=
  rows.flatMap fun row =>
    match (row.get? related.primaryKey).bind Value.key? with
    | some k' => List.replicate (links.countP (p.pairs k k')) (Record.ofRow related row)
    | none => []

/-- Hands every record what pivot rows pair with its key. -/
def handLinked (r : Relation) (p : Pivot) (related : Model) (links rows : List Row) : Assignment :=
  fun parent =>
    match parent.keyOf? r.parentKey with
    | some k => .many (fanOut p related links rows k)
    | none => .many []

theorem linked_eq_fanOut (p : Pivot) (related : Model) (links rows : List Row) (k : Key) :
    linked (pivotLinks p links) ((rowsByColumn related.primaryKey rows).map
        fun (k, row) => (k, Record.ofRow related row)) k
      = fanOut p related links rows k := by
  induction rows with
  | nil => rfl
  | cons row rest ih =>
      rw [fanOut, List.flatMap_cons, rowsByColumn, List.filterMap_cons]
      cases (row.get? related.primaryKey).bind Value.key? with
      | none => exact ih
      | some k' =>
          simp only [Option.map_some, List.map_cons]
          rw [linked_cons, List.map_const', ← List.countP_eq_length_filter, countP_pivotLinks]
          exact congrArg _ ih

theorem assignLinked_eq_handLinked {r : Relation} (p : Pivot) (related : Model)
    (links rows : List Row) :
    r.assignLinked (pivotLinks p links) ((rowsByColumn related.primaryKey rows).map
        fun (k, row) => (k, Record.ofRow related row))
      = r.handLinked p related links rows := by
  funext parent
  rw [assignLinked, handLinked]
  cases parent.keyOf? r.parentKey with
  | none => rfl
  | some k => exact congrArg Loaded.many (linked_eq_fanOut p related links rows k)

/-! ## Loading -/

variable {ctx : LoadContext σ} {parent : Model} {r : Relation} {constraint : Option Constraint}
  {parents : List Record}

/-- The related rows that are read for ids, if there are any ids. -/
def rowsOfIds (ctx : LoadContext σ) (related : Model) (query : Builder) (ids : List Value) :
    Action σ (List Row) :=
  if ids.isEmpty then pure []
  else (query.whereIn related.primaryKey ids).get ctx.driver

theorem linkedRows_eq (related : Model) (query : Builder) (ids : List Value) :
    linkedRows ctx related query ids
      = rowsOfIds ctx related query ids >>= fun rows => pure (rowsByColumn related.primaryKey rows) := by
  rw [linkedRows, rowsOfIds]
  split
  · rfl
  · rfl

/-- **A relation by way of a pivot table fans out.** It is loaded exactly if no record has a key, or if
    its rows are not limited, the pivot rows of the records are answered, and the related rows are
    answered for one id of every key that the pivot rows lead to. Each record with a key is then handed
    the related records in the order in which they were returned, each of them as many times as pivot
    rows pair it with the key. -/
theorem load_fans_out_iff (hkind : r.kind = .belongsToMany) {s s' : σ} {out : List Record} :
    ((r.load ctx parent constraint).on parents).runFrom s = (.ok out, s')
      ↔ ∃ pivot related, r.pivot = some pivot ∧ r.relatedModel ctx.registry = .ok related
        ∧ ((r.Keyless parents ∧ s' = s ∧ out = r.assigned (fun _ => .many []) parents)
          ∨ (¬r.Keyless parents
            ∧ (constrained constraint (related.query ctx.driver.dialect)).isPaginated = false
            ∧ ∃ (links rows : List Row) (ids : List Value) (s₁ : σ),
              (((pivotQuery ctx.driver.dialect pivot).whereIn pivot.parentColumn
                  (parentKeys r.parentKey parents)).get ctx.driver).runFrom s = (.ok links, s₁)
              ∧ ids = linkedIds (pivotLinks pivot links) ∧ pivot.OneForEach links ids
              ∧ (rowsOfIds ctx related (constrained constraint (related.query ctx.driver.dialect))
                  ids).runFrom s₁ = (.ok rows, s')
              ∧ out = r.assigned (r.handLinked pivot related links rows) parents)) := by
  rw [runFrom_on_load_eq_ok_iff, assignment_eq_pivotAssignment hkind]
  constructor
  · rintro ⟨assign, hrun, rfl⟩
    cases hpivot : r.pivot with
    | none =>
        rw [pivotAssignment, hpivot] at hrun
        cases hrun
    | some pivot =>
        cases hrelated : r.relatedModel ctx.registry with
        | error e =>
            rw [pivotAssignment, hpivot, hrelated] at hrun
            cases hrun
        | ok related =>
            refine ⟨pivot, related, rfl, rfl, ?_⟩
            by_cases hkeyless : r.Keyless parents
            · rw [pivotAssignment_of_isEmpty hpivot hrelated (parentKeys_isEmpty.2 hkeyless)] at hrun
              cases hrun
              exact .inl ⟨hkeyless, rfl, rfl⟩
            · have hempty := isEmpty_of_not_keyless hkeyless
              have hwindow := isPaginated_of_pivotAssignment hpivot hrelated hempty hrun
              rw [pivotAssignment_of_unpaginated hpivot hrelated hempty hwindow] at hrun
              obtain ⟨links, s₁, hlinks, hrun⟩ := Action.runFrom_bind_eq_ok hrun
              obtain ⟨found, s₂, hfound, hend⟩ := Action.runFrom_bind_eq_ok hrun
              rw [linkedRows_eq] at hfound
              obtain ⟨rows, s₃, hrows, hkeyed⟩ := Action.runFrom_bind_eq_ok hfound
              cases hkeyed
              cases hend
              exact .inr ⟨hkeyless, hwindow, links, rows, _, s₁, hlinks, rfl,
                oneForEach_linkedIds pivot links, hrows,
                congrArg (r.assigned · parents) (assignLinked_eq_handLinked ..)⟩
  · rintro ⟨pivot, related, hpivot, hrelated, ⟨hkeyless, rfl, rfl⟩
      | ⟨hkeyed, hwindow, links, rows, _, s₁, hlinks, rfl, -, hrows, rfl⟩⟩
    · rw [pivotAssignment_of_isEmpty hpivot hrelated (parentKeys_isEmpty.2 hkeyless)]
      exact ⟨_, rfl, rfl⟩
    · refine ⟨_, ?_, rfl⟩
      rw [pivotAssignment_of_unpaginated hpivot hrelated (isEmpty_of_not_keyless hkeyed) hwindow,
        Action.runFrom_bind, hlinks]
      simp only
      rw [linkedRows_eq, Action.runFrom_bind, Action.runFrom_bind, hrows,
        ← assignLinked_eq_handLinked]
      rfl

/-- Pivot rows that pair a user with one role twice, in two forms of their keys, that lead two users to
    one role, and that lack a key. -/
theorem load_fans_out_iff_roles :
    ∃ (user role : Model) (roles : Relation) (pivot : Pivot) (links rows : List Row)
      (driver : Driver Unit) (ctx : LoadContext (Unit × List Statement)) (users held : List Record)
      (log : List Statement),
      user = { name := "User", table := "users" } ∧ role = { name := "Role", table := "roles" }
      ∧ pivot = { table := "role_user", parentColumn := "user_id", relatedColumn := "role_id" }
      ∧ roles = .belongsToMany "roles" "Role" "role_user" "user_id" "role_id"
      ∧ links = [.ofList [("user_id", .int 1), ("role_id", .int 10)],
          .ofList [("user_id", .text "1"), ("role_id", .text "10")],
          .ofList [("user_id", .int 2), ("role_id", .text "x")],
          .ofList [("user_id", .int 2), ("role_id", .int 10)],
          .ofList [("user_id", .null), ("role_id", .int 11)],
          .ofList [("user_id", .int 2), ("role_id", .null)]]
      ∧ rows = [.ofList [("id", .text "x")], .ofList [("id", .int 10)], .ofList [("id", .null)],
          .ofList [("id", .int 99)]]
      ∧ driver = { Driver.blank .postgres with
          query := fun statement =>
            pure (.ofRows (if statement.bindings.length = 3 then links else rows)) }
      ∧ ctx = LoadContext.recorded
          { driver, registry := { models := [("User", user), ("Role", role)] }, fallback := .error }
      ∧ users = [.ofRow user (.ofList [("id", .int 1)]), .ofRow user (.ofList [("id", .text "2")]),
          .ofRow user (.ofList [("id", .int 3)]), .ofRow user (.ofList [("id", .null)])]
      ∧ ((roles.load ctx user none).on users).runFrom ((), []) = (.ok held, ((), log))
      ∧ log.map (·.bindings) = [[.int 1, .int 2, .int 3], [.int 10, .text "x"]]
      ∧ pivot.OneForEach links [.int 10, .text "x"]
      ∧ held = roles.assigned (roles.handLinked pivot role links rows) users
      ∧ held.map (fun p => (p.related "roles").map (·.keyOf? "id"))
          = [[some (.int 10), some (.int 10)], [some (.text "x"), some (.int 10)], [], []] := by
  let user : Model := { name := "User", table := "users" }
  let role : Model := { name := "Role", table := "roles" }
  let roles : Relation := .belongsToMany "roles" "Role" "role_user" "user_id" "role_id"
  let pivot : Pivot := { table := "role_user", parentColumn := "user_id", relatedColumn := "role_id" }
  let links : List Row := [.ofList [("user_id", .int 1), ("role_id", .int 10)],
    .ofList [("user_id", .text "1"), ("role_id", .text "10")],
    .ofList [("user_id", .int 2), ("role_id", .text "x")],
    .ofList [("user_id", .int 2), ("role_id", .int 10)],
    .ofList [("user_id", .null), ("role_id", .int 11)],
    .ofList [("user_id", .int 2), ("role_id", .null)]]
  let rows : List Row := [.ofList [("id", .text "x")], .ofList [("id", .int 10)],
    .ofList [("id", .null)], .ofList [("id", .int 99)]]
  let driver : Driver Unit :=
    { Driver.blank .postgres with
      query := fun statement =>
        pure (.ofRows (if statement.bindings.length = 3 then links else rows)) }
  let ctx : LoadContext (Unit × List Statement) := LoadContext.recorded
    { driver, registry := { models := [("User", user), ("Role", role)] }, fallback := .error }
  let users : List Record := [.ofRow user (.ofList [("id", .int 1)]),
    .ofRow user (.ofList [("id", .text "2")]), .ofRow user (.ofList [("id", .int 3)]),
    .ofRow user (.ofList [("id", .null)])]
  obtain ⟨pivoted, hpivoted, hparents⟩ : ∃ statement,
      (((pivotQuery .postgres pivot).whereIn "user_id" (parentKeys "id" users)).get ctx.driver).runFrom
          ((), []) = (.ok links, ((), [statement]))
        ∧ statement.bindings = [.int 1, .int 2, .int 3] := by
    subst users ctx driver rows links pivot role user
    refine ⟨_, rfl, ?_⟩
    rfl
  obtain ⟨selected, hselected, hids⟩ : ∃ statement,
      (rowsOfIds ctx role (role.query .postgres) [.int 10, .text "x"]).runFrom ((), [pivoted])
          = (.ok rows, ((), [pivoted, statement]))
        ∧ statement.bindings = [.int 10, .text "x"] := by
    subst users ctx driver rows links pivot role user
    refine ⟨_, rfl, ?_⟩
    rfl
  have hone : pivot.OneForEach links [.int 10, .text "x"] := oneForEach_linkedIds pivot links
  have hrun : ((roles.load ctx user none).on users).runFrom ((), [])
      = (.ok (roles.assigned (roles.handLinked pivot role links rows) users),
          ((), [pivoted, selected])) :=
    (load_fans_out_iff rfl).2 ⟨pivot, role, rfl, rfl, .inr ⟨by decide, rfl, links, rows, _, _, hpivoted,
      rfl, hone, hselected, rfl⟩⟩
  refine ⟨user, role, roles, pivot, links, rows, driver, ctx, users, _, _, rfl, rfl, rfl, rfl, rfl,
    rfl, rfl, rfl, rfl, hrun, ?_, hone, rfl, rfl⟩
  rw [List.map_cons, List.map_cons, hparents, hids, List.map_nil]

end Relation

end QueryKit
