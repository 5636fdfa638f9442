import QueryKit.Proofs.Eager.Keys
import QueryKit.Proofs.Eager.Levels
import QueryKit.Proofs.Eager.Queries
import QueryKit.Proofs.Sql.Emission

set_option autoImplicit false

/-! # Batches of records

The related records of many records are read together. A driver that answers every query of a relation
from a list of rows of its own (`Driver.Answers`) leaves each record with what it would be left with
in any other batch. What is handed out to a record are the rows under its key, and a batch restricts the
rows to the keys of its records. -/

namespace QueryKit

variable {σ : Type}

/-- The driver answers a query for some ids with those of the rows that have their keys in a column. -/
def Driver.Answers (driver : Driver σ) (b : Builder) (column : String) (rows : List Row) : Prop :=
  ∀ (ids : List Value) (statement : Statement), (b.whereIn column ids).toSql = .ok statement →
    ∀ s, ∃ result s', (driver.query statement).runFrom s = (.ok result, s')
      ∧ result.rows = rows.filter (Row.isAmong column ids)

theorem Driver.Answers.returns_get {driver : Driver σ} {b : Builder} {column : String}
    {rows : List Row} (h : driver.Answers b column rows) {ids : List Value} {statement : Statement}
    (hsql : (b.whereIn column ids).toSql = .ok statement) :
    ((b.whereIn column ids).get driver).Returns (rows.filter (Row.isAmong column ids)) := by
  intro s
  obtain ⟨result, s', hrun, hrows⟩ := h ids statement hsql s
  refine ⟨s', ?_⟩
  rw [Builder.get, Builder.fetch, hsql, Action.ofExcept_ok_bind, Action.runFrom_bind, hrun, ← hrows]
  rfl

/-- **A query that has been answered for some ids is answered for all.** -/
theorem Driver.Answers.returns_of_runFrom {driver : Driver σ} {b : Builder} {column : String}
    {rows : List Row} (h : driver.Answers b column rows) (hb : b.MadeOfCalls) {ids : List Value}
    {s s' : σ} {found : List Row}
    (hrun : ((b.whereIn column ids).get driver).runFrom s = (.ok found, s')) :
    found = rows.filter (Row.isAmong column ids)
      ∧ ∀ others : List Value, ((b.whereIn column others).get driver).Returns
          (rows.filter (Row.isAmong column others)) := by
  cases hsql : (b.whereIn column ids).toSql with
  | error e =>
      rw [Builder.get, Builder.fetch, hsql] at hrun
      cases hrun
  | ok statement =>
      refine ⟨(h.returns_get hsql).eq_of_runFrom hrun, fun others => ?_⟩
      obtain ⟨other, hother⟩ := hb.toSql_whereIn hsql others
      exact h.returns_get hother

namespace Relation

/-- Every batch of the records is loaded from every state, and what a record is loaded with is the same
    in all of them. -/
def LoadsAlike (load : List Record → Action σ Assignment) (parents : List Record) : Prop :=
  ∃ value : Assignment, ∀ batch : List Record, (∀ p ∈ batch, p ∈ parents) →
    ∃ assign, (load batch).Returns assign ∧ ∀ p ∈ batch, assign p = value p

theorem LoadsAlike.of_isEmpty {load : List Record → Action σ Assignment} {column : String}
    {missing : Loaded Record}
    (hload : ∀ batch, (parentKeys column batch).isEmpty = true → load batch = pure fun _ => missing)
    {parents : List Record} (hempty : (parentKeys column parents).isEmpty = true) :
    LoadsAlike load parents := by
  refine ⟨fun _ => missing, fun batch hbatch => ⟨fun _ => missing, ?_, fun _ _ => rfl⟩⟩
  rw [hload batch (parentKeys_isEmpty_of_subset hbatch hempty)]
  exact .pure _

/-- Only batches with a key have to be looked at, where records without a key are left with nothing. -/
theorem LoadsAlike.of_keyed {load : List Record → Action σ Assignment} {column : String}
    {missing : Loaded Record}
    (hload : ∀ batch, (parentKeys column batch).isEmpty = true → load batch = pure fun _ => missing)
    {parents : List Record} {value : Assignment}
    (hmissing : ∀ p : Record, p.keyOf? column = none → value p = missing)
    (hkeyed : ∀ batch : List Record, (∀ p ∈ batch, p ∈ parents) →
      (parentKeys column batch).isEmpty = false →
        ∃ assign, (load batch).Returns assign ∧ ∀ p ∈ batch, assign p = value p) :
    LoadsAlike load parents := by
  refine ⟨value, fun batch hbatch => ?_⟩
  cases hempty : (parentKeys column batch).isEmpty with
  | true =>
      refine ⟨fun _ => missing, ?_, fun p hp => ?_⟩
      · rw [hload batch hempty]
        exact .pure _
      · rw [hmissing p (parentKeys_isEmpty.1 hempty p hp)]
  | false => exact hkeyed batch hbatch hempty

section

variable {ctx : LoadContext σ} {parent : Model} {r : Relation} {narrowing : Option (List Call)}
  (hscoped : ctx.registry.ScopedByCalls)
  (hdriver : ∀ b column, Queries ctx parent r (narrowing.map Constraint.ofCalls) b column →
    ∃ rows, ctx.driver.Answers b column rows)

/-! ## Relations whose related rows are found by one of their columns -/

theorem distributed_of_none {p : Record} (hk : p.keyOf? r.parentKey = none)
    (found : List (Key × Record)) : r.distributed found p = r.loaded [] := by
  rw [distributed, hk]

/-- A record whose key is read is handed out what it would be handed out of all rows. -/
theorem distributed_filter {p : Record} {ids : List Value}
    (hids : ∀ k, p.keyOf? r.parentKey = some k → ids.any (·.hasKey k) = true) (related : Model)
    (rows : List Row) :
    r.distributed ((rowsByColumn r.relatedKey (rows.filter (Row.isAmong r.relatedKey ids))).map
        fun (k, row) => (k, Record.ofRow related row)) p
      = r.distributed ((rowsByColumn r.relatedKey rows).map
          fun (k, row) => (k, Record.ofRow related row)) p := by
  cases hk : p.keyOf? r.parentKey with
  | none => rw [distributed_of_none hk, distributed_of_none hk]
  | some k =>
      rw [distributed, distributed, hk]
      simp only
      rw [withKey_map, withKey_map, withKey_read (hids k hk)]

theorem directAssignment_of_isEmpty {constraint : Option Constraint} {related : Model}
    (hrelated : r.relatedModel ctx.registry = .ok related) {parents : List Record}
    (hempty : (parentKeys r.parentKey parents).isEmpty = true) :
    r.directAssignment ctx parent constraint parents = pure fun _ => r.loaded [] := by
  rw [directAssignment, hrelated, Action.ofExcept_ok_bind]
  exact if_pos hempty

theorem directAssignment_of_unpaginated {constraint : Option Constraint} {related : Model}
    (hrelated : r.relatedModel ctx.registry = .ok related)
    (hwindow : (directQuery ctx parent related r constraint).isPaginated = false)
    {parents : List Record} (hempty : (parentKeys r.parentKey parents).isEmpty = false) :
    r.directAssignment ctx parent constraint parents
      = ((directQuery ctx parent related r constraint).whereIn r.relatedKey
            (parentKeys r.parentKey parents)).get ctx.driver >>= fun rows =>
          pure (r.distributed ((rowsByColumn r.relatedKey rows).map
            fun (k, row) => (k, Record.ofRow related row))) := by
  rw [directAssignment, hrelated, Action.ofExcept_ok_bind]
  dsimp only
  rw [hempty, directRows, hwindow, if_neg Bool.false_ne_true, if_neg Bool.false_ne_true, bind_assoc]
  rfl

include hscoped hdriver in
theorem loadsAlike_directAssignment (hmorph : r.kind ≠ .morphTo) (hpivot : r.kind ≠ .belongsToMany)
    (hwindow : ∀ calls ∈ narrowing, ∀ call ∈ calls, call.setsWindow = false)
    {parents : List Record} {s s' : σ} {assign : Assignment}
    (hrun : (r.directAssignment ctx parent (narrowing.map Constraint.ofCalls) parents).runFrom s
      = (.ok assign, s')) :
    LoadsAlike (r.directAssignment ctx parent (narrowing.map Constraint.ofCalls)) parents := by
  cases hrelated : r.relatedModel ctx.registry with
  | error e =>
      rw [directAssignment, hrelated] at hrun
      cases hrun
  | ok related =>
      have hnothing : ∀ batch, (parentKeys r.parentKey batch).isEmpty = true →
          r.directAssignment ctx parent (narrowing.map Constraint.ofCalls) batch
            = pure fun _ => r.loaded [] := fun _ => directAssignment_of_isEmpty hrelated
      cases hall : (parentKeys r.parentKey parents).isEmpty with
      | true => exact .of_isEmpty hnothing hall
      | false =>
          have hquery : Queries ctx parent r (narrowing.map Constraint.ofCalls) _ r.relatedKey :=
            .direct related hmorph hpivot hrelated
          obtain ⟨rows, hrows⟩ := hdriver _ _ hquery
          have hunpaginated : (directQuery ctx parent related r
              (narrowing.map Constraint.ofCalls)).isPaginated = false :=
            isPaginated_directQuery hscoped hwindow hrelated
          rw [directAssignment_of_unpaginated hrelated hunpaginated hall] at hrun
          obtain ⟨found, s₁, hget, -⟩ := Action.runFrom_bind_eq_ok hrun
          obtain ⟨-, hothers⟩ := hrows.returns_of_runFrom (hquery.madeOfCalls hscoped) hget
          have hmissing : ∀ p : Record, p.keyOf? r.parentKey = none →
              r.distributed ((rowsByColumn r.relatedKey rows).map
                fun (k, row) => (k, Record.ofRow related row)) p = r.loaded [] :=
            fun p hk => distributed_of_none hk _
          refine .of_keyed hnothing hmissing fun batch _ hempty => ?_
          refine ⟨_, ?_, fun p hp => distributed_filter
            (fun k hk => any_hasKey_parentKeys.2 ⟨p, hp, hk⟩) related rows⟩
          rw [directAssignment_of_unpaginated hrelated hunpaginated hempty]
          exact .bind (hothers _) (.pure _)

/-! ## Owners of several kinds -/

theorem ownersOfType_of_isEmpty {constraint : Option Constraint} {column tag : String}
    {parents : List Record}
    (hempty : (parentKeys r.parentKey
      (parents.filter fun p => tagOf? column p == some tag)).isEmpty = true) :
    ownersOfType ctx r constraint column parents tag = pure [] := by
  rw [ownersOfType]
  exact if_pos hempty

theorem ownersOfType_of_resolved {constraint : Option Constraint} {column tag : String}
    {parents : List Record} {model : Model}
    (hempty : (parentKeys r.parentKey
      (parents.filter fun p => tagOf? column p == some tag)).isEmpty = false)
    (hmodel : ctx.registry.resolveMorph tag = .ok model) :
    ownersOfType ctx r constraint column parents tag
      = ((constrained constraint (model.query ctx.driver.dialect)).whereIn model.primaryKey
            (parentKeys r.parentKey (parents.filter fun p => tagOf? column p == some tag))).get
          ctx.driver >>= fun rows =>
        pure ((rowsByColumn model.primaryKey rows).map
          fun (k, row) => ((tag, k), Record.ofRow model row)) := by
  rw [ownersOfType]
  dsimp only
  rw [hempty, hmodel]
  rfl

theorem returns_ownersOfType {constraint : Option Constraint} {column tag : String}
    {parents : List Record} {model : Model} {found : List Row}
    (hempty : (parentKeys r.parentKey
      (parents.filter fun p => tagOf? column p == some tag)).isEmpty = false)
    (hmodel : ctx.registry.resolveMorph tag = .ok model)
    (hget : (((constrained constraint (model.query ctx.driver.dialect)).whereIn model.primaryKey
      (parentKeys r.parentKey (parents.filter fun p => tagOf? column p == some tag))).get
        ctx.driver).Returns found) :
    (ownersOfType ctx r constraint column parents tag).Returns
      ((rowsByColumn model.primaryKey found).map
        fun (k, row) => ((tag, k), Record.ofRow model row)) := by
  rw [ownersOfType_of_resolved hempty hmodel]
  exact hget.bind (.pure _)

theorem mem_filter_tag {column tag : String} {p : Record} {batch : List Record} (hp : p ∈ batch)
    (htag : tagOf? column p = some tag) : p ∈ batch.filter fun p => tagOf? column p == some tag :=
  List.mem_filter.2 ⟨hp, by rw [htag, beq_self_eq_true]⟩

/-- The owners of a type that a batch of records loads, and what is found among them under a key. -/
structure FindsOwners (ctx : LoadContext σ) (r : Relation) (constraint : Option Constraint)
    (column tag : String) (find : Key → Option Record) (batch : List Record)
    (owners : List ((String × Key) × Record)) : Prop where
  returns : (ownersOfType ctx r constraint column batch tag).Returns owners
  tagged : ∀ entry ∈ owners, entry.1.1 = tag
  finds : ∀ p ∈ batch, tagOf? column p = some tag → ∀ k, p.keyOf? r.parentKey = some k →
    owners.lookup (tag, k) = find k

include hscoped hdriver in
/-- Where the owners of a type are found for records, they are found for every batch of them, and what
    is found under a key is the same. -/
theorem exists_find_owner (hmorph : r.kind = .morphTo) {column tag : String} {parents : List Record}
    {s s' : σ} {out : List ((String × Key) × Record)}
    (hrun : (ownersOfType ctx r (narrowing.map Constraint.ofCalls) column parents tag).runFrom s
      = (.ok out, s')) :
    ∃ find : Key → Option Record, ∀ batch : List Record, (∀ p ∈ batch, p ∈ parents) →
      ∃ owners, FindsOwners ctx r (narrowing.map Constraint.ofCalls) column tag find batch owners := by
  cases hall : (parentKeys r.parentKey
      (parents.filter fun p => tagOf? column p == some tag)).isEmpty with
  | true =>
      -- no record of the type has a key, so no batch reads any of its owners
      refine ⟨fun _ => none, fun batch hbatch => ⟨[], ?_, fun _ h => absurd h List.not_mem_nil, ?_⟩⟩
      · rw [ownersOfType_of_isEmpty (parentKeys_isEmpty_of_subset ?_ hall)]
        · exact .pure _
        · intro p hp
          obtain ⟨hp, htag⟩ := List.mem_filter.1 hp
          exact List.mem_filter.2 ⟨hbatch p hp, htag⟩
      · intro p _ _ k _
        rfl
  | false =>
      cases hmodel : ctx.registry.resolveMorph tag with
      | error e =>
          rw [ownersOfType] at hrun
          dsimp only at hrun
          rw [hall, hmodel] at hrun
          cases hrun
      | ok model =>
          have hquery : Queries ctx parent r (narrowing.map Constraint.ofCalls) _ model.primaryKey :=
            .owners tag model hmorph hmodel
          obtain ⟨rows, hrows⟩ := hdriver _ _ hquery
          rw [ownersOfType_of_resolved hall hmodel] at hrun
          obtain ⟨found, s₁, hget, -⟩ := Action.runFrom_bind_eq_ok hrun
          obtain ⟨-, hothers⟩ := hrows.returns_of_runFrom (hquery.madeOfCalls hscoped) hget
          refine ⟨fun k => ((withKey k (rowsByColumn model.primaryKey rows)).map
            (Record.ofRow model)).head?, fun batch hbatch => ?_⟩
          cases hempty : (parentKeys r.parentKey
              (batch.filter fun p => tagOf? column p == some tag)).isEmpty with
          | true =>
              refine ⟨[], ?_, fun _ h => absurd h List.not_mem_nil, fun p hp htag k hk => ?_⟩
              · rw [ownersOfType_of_isEmpty hempty]
                exact .pure _
              · rw [parentKeys_isEmpty.1 hempty p (mem_filter_tag hp htag)] at hk
                cases hk
          | false =>
              refine ⟨_, returns_ownersOfType hempty hmodel (hothers _), fun entry hentry => ?_,
                fun p hp htag k hk => ?_⟩
              · obtain ⟨_, -, rfl⟩ := List.mem_map.1 hentry
                rfl
              · have hids := any_hasKey_parentKeys.2 ⟨p, mem_filter_tag hp htag, hk⟩
                rw [lookup_tagged, withKey_read hids]

/-- Hands out what is found under the type and the key that a record names. -/
def assignOwners (r : Relation) (column : String) (find : String × Key → Option Record) : Assignment :=
  fun parent =>
    match tagOf? column parent, parent.keyOf? r.parentKey with
    | some tag, some k => .one (find (tag, k))
    | _, _ => .one none

theorem assignOwners_congr {column : String} {find find' : String × Key → Option Record} {p : Record}
    (h : ∀ tag k, tagOf? column p = some tag → p.keyOf? r.parentKey = some k →
      find (tag, k) = find' (tag, k)) :
    r.assignOwners column find p = r.assignOwners column find' p := by
  rw [assignOwners, assignOwners]
  split
  · next tag k htag hk => rw [h tag k htag hk]
  · rfl

theorem ownersAssignment_of_typeColumn {constraint : Option Constraint} {column : String}
    (hcolumn : r.typeColumn = some column) (parents : List Record) :
    r.ownersAssignment ctx constraint parents
      = (Text.sortedNames (parents.filterMap (tagOf? column))).mapM
          (ownersOfType ctx r constraint column parents) >>= fun owners =>
        pure (r.assignOwners column fun entry => owners.flatten.lookup entry) := by
  rw [ownersAssignment, hcolumn]
  rfl

theorem returns_ownersAssignment {constraint : Option Constraint} {column : String}
    (hcolumn : r.typeColumn = some column) {parents : List Record}
    {owners : String → List ((String × Key) × Record)}
    (howners : ∀ tag ∈ Text.sortedNames (parents.filterMap (tagOf? column)),
      (ownersOfType ctx r constraint column parents tag).Returns (owners tag)) :
    (r.ownersAssignment ctx constraint parents).Returns
      (r.assignOwners column fun entry =>
        ((Text.sortedNames (parents.filterMap (tagOf? column))).map owners).flatten.lookup entry) := by
  rw [ownersAssignment_of_typeColumn hcolumn]
  exact .bind (.mapM _ howners) (.pure _)

theorem mem_tags {column : String} {parents : List Record} {tag : String} :
    tag ∈ Text.sortedNames (parents.filterMap (tagOf? column))
      ↔ ∃ p ∈ parents, tagOf? column p = some tag := by
  rw [Text.mem_sortedNames, List.mem_filterMap]

include hscoped hdriver in
theorem loadsAlike_ownersAssignment (hmorph : r.kind = .morphTo) {parents : List Record} {s s' : σ}
    {assign : Assignment}
    (hrun : (r.ownersAssignment ctx (narrowing.map Constraint.ofCalls) parents).runFrom s
      = (.ok assign, s')) :
    LoadsAlike (r.ownersAssignment ctx (narrowing.map Constraint.ofCalls)) parents := by
  cases hcolumn : r.typeColumn with
  | none =>
      rw [ownersAssignment, hcolumn] at hrun
      cases hrun
  | some column =>
      rw [ownersAssignment_of_typeColumn hcolumn] at hrun
      obtain ⟨_, _, hall, -⟩ := Action.runFrom_bind_eq_ok hrun
      have hfind : ∀ tag, ∃ find : Key → Option Record,
          tag ∈ Text.sortedNames (parents.filterMap (tagOf? column)) →
          ∀ batch : List Record, (∀ p ∈ batch, p ∈ parents) → ∃ owners,
            FindsOwners ctx r (narrowing.map Constraint.ofCalls) column tag find batch owners := by
        intro tag
        by_cases htag : tag ∈ Text.sortedNames (parents.filterMap (tagOf? column))
        · obtain ⟨s₁, out, s₂, hone⟩ := Action.runFrom_mapM_eq_ok hall tag htag
          obtain ⟨find, hfind⟩ := exists_find_owner hscoped hdriver hmorph hone
          exact ⟨find, fun _ => hfind⟩
        · exact ⟨fun _ => none, fun h => absurd h htag⟩
      choose find hfind using hfind
      -- every type in a batch occurs among all records, and its owners have been found there
      refine ⟨r.assignOwners column fun entry => find entry.1 entry.2, fun batch hbatch => ?_⟩
      have howners : ∀ tag, ∃ owners : List ((String × Key) × Record),
          tag ∈ Text.sortedNames (batch.filterMap (tagOf? column)) →
            FindsOwners ctx r (narrowing.map Constraint.ofCalls) column tag (find tag) batch
              owners := by
        intro tag
        by_cases htag : tag ∈ Text.sortedNames (batch.filterMap (tagOf? column))
        · obtain ⟨p, hp, hpt⟩ := mem_tags.1 htag
          obtain ⟨owners, h⟩ := hfind tag (mem_tags.2 ⟨p, hbatch p hp, hpt⟩) batch hbatch
          exact ⟨owners, fun _ => h⟩
        · exact ⟨[], fun h => absurd h htag⟩
      choose owners howners using howners
      refine ⟨_, returns_ownersAssignment hcolumn fun tag htag => (howners tag htag).returns,
        fun p hp => assignOwners_congr fun tag k htag hk => ?_⟩
      have hmem := mem_tags.2 ⟨p, hp, htag⟩
      simp only
      rw [lookup_flatten (fun tag htag => (howners tag htag).tagged) hmem,
        (howners tag hmem).finds p hp htag k hk]

/-! ## Relations by way of a pivot table -/

theorem assignLinked_of_none {p : Record} (hk : p.keyOf? r.parentKey = none)
    (links : List (Key × Key × Value)) (records : List (Key × Record)) :
    r.assignLinked links records p = .many [] := by
  rw [assignLinked, hk]

theorem pivotAssignment_of_isEmpty {constraint : Option Constraint} {pivot : Pivot} {related : Model}
    (hpivot : r.pivot = some pivot) (hrelated : r.relatedModel ctx.registry = .ok related)
    {parents : List Record} (hempty : (parentKeys r.parentKey parents).isEmpty = true) :
    r.pivotAssignment ctx constraint parents = pure fun _ => .many [] := by
  rw [pivotAssignment, hpivot, hrelated]
  simp only [Action.ofExcept_ok_bind]
  exact if_pos hempty

theorem pivotAssignment_of_unpaginated {constraint : Option Constraint} {pivot : Pivot} {related : Model}
    (hpivot : r.pivot = some pivot) (hrelated : r.relatedModel ctx.registry = .ok related)
    {parents : List Record} (hempty : (parentKeys r.parentKey parents).isEmpty = false)
    (hwindow : (constrained constraint (related.query ctx.driver.dialect)).isPaginated = false) :
    r.pivotAssignment ctx constraint parents
      = ((pivotQuery ctx.driver.dialect pivot).whereIn pivot.parentColumn
            (parentKeys r.parentKey parents)).get ctx.driver >>= fun rows =>
          linkedRows ctx related (constrained constraint (related.query ctx.driver.dialect))
              (linkedIds (pivotLinks pivot rows)) >>= fun found =>
            pure (r.assignLinked (pivotLinks pivot rows)
              (found.map fun (k, row) => (k, Record.ofRow related row))) := by
  rw [pivotAssignment, hpivot, hrelated]
  simp only [Action.ofExcept_ok_bind]
  rw [hempty, hwindow, if_neg Bool.false_ne_true, if_neg Bool.false_ne_true]

/-- A window of the related rows is refused, so where they have been loaded there is none. -/
theorem isPaginated_of_pivotAssignment {constraint : Option Constraint} {pivot : Pivot} {related : Model}
    (hpivot : r.pivot = some pivot) (hrelated : r.relatedModel ctx.registry = .ok related)
    {parents : List Record} (hempty : (parentKeys r.parentKey parents).isEmpty = false) {s s' : σ}
    {assign : Assignment}
    (hrun : (r.pivotAssignment ctx constraint parents).runFrom s = (.ok assign, s')) :
    (constrained constraint (related.query ctx.driver.dialect)).isPaginated = false := by
  rw [Bool.eq_false_iff]
  intro hpaginated
  rw [pivotAssignment, hpivot, hrelated] at hrun
  simp only [Action.ofExcept_ok_bind] at hrun
  rw [hempty, hpaginated] at hrun
  cases hrun

theorem returns_pivotAssignment {constraint : Option Constraint} {pivot : Pivot} {related : Model}
    (hpivot : r.pivot = some pivot) (hrelated : r.relatedModel ctx.registry = .ok related)
    {parents : List Record} (hempty : (parentKeys r.parentKey parents).isEmpty = false)
    (hwindow : (constrained constraint (related.query ctx.driver.dialect)).isPaginated = false)
    {rows : List Row} {found : List (Key × Row)}
    (hget : (((pivotQuery ctx.driver.dialect pivot).whereIn pivot.parentColumn
      (parentKeys r.parentKey parents)).get ctx.driver).Returns rows)
    (hread : (linkedRows ctx related (constrained constraint (related.query ctx.driver.dialect))
      (linkedIds (pivotLinks pivot rows))).Returns found) :
    (r.pivotAssignment ctx constraint parents).Returns
      (r.assignLinked (pivotLinks pivot rows)
        (found.map fun (k, row) => (k, Record.ofRow related row))) := by
  rw [pivotAssignment_of_unpaginated hpivot hrelated hempty hwindow]
  exact hget.bind (hread.bind (.pure _))

/-- What the links of a record lead to is all there already if its key is read, and the related rows
    of all links. -/
theorem assignLinked_filter {p : Record} {pivot : Pivot} {ids : List Value}
    (hids : ∀ k, p.keyOf? r.parentKey = some k → ids.any (·.hasKey k) = true) (rows : List Row)
    (records : List (Key × Record)) :
    r.assignLinked (pivotLinks pivot (rows.filter (Row.isAmong pivot.parentColumn ids)))
        (records.filter fun entry =>
          (linkedIds (pivotLinks pivot (rows.filter (Row.isAmong pivot.parentColumn ids)))).any
            (·.hasKey entry.1)) p
      = r.assignLinked (pivotLinks pivot rows) records p := by
  rw [assignLinked, assignLinked]
  cases hk : p.keyOf? r.parentKey with
  | none => rfl
  | some k =>
      simp only
      have hlinked := linked_filter (p := fun k => ids.any (·.hasKey k))
        (q := fun k => (linkedIds (pivotLinks pivot
          (rows.filter (Row.isAmong pivot.parentColumn ids)))).any (·.hasKey k))
        (pivotLinks pivot rows) records (hids k hk) fun link hlink hkey => by
          apply any_hasKey_linkedIds
          rw [pivotLinks_filter]
          exact List.mem_filter.2 ⟨hlink, by rw [hkey]; exact hids k hk⟩
      rw [← hlinked, pivotLinks_filter]

/-- Related rows that have been read for some links are read for all, unless nothing was to be read. -/
theorem returns_linkedRows {related : Model} {query : Builder} {rows : List Row}
    (hrows : ctx.driver.Answers query related.primaryKey rows) (hquery : query.MadeOfCalls)
    {ids : List Value} {s s' : σ} {found : List (Key × Row)}
    (hrun : (linkedRows ctx related query ids).runFrom s = (.ok found, s')) {others : List Value}
    (hothers : ids.isEmpty = true → others.isEmpty = true) :
    (linkedRows ctx related query others).Returns
      ((rowsByColumn related.primaryKey rows).filter fun entry => others.any (·.hasKey entry.1)) := by
  cases hempty : others.isEmpty with
  | true =>
      have hnone : ((rowsByColumn related.primaryKey rows).filter fun entry =>
          others.any (·.hasKey entry.1)) = [] := by
        rw [List.isEmpty_iff.1 hempty]
        exact List.filter_eq_nil_iff.2 fun _ _ => Bool.false_ne_true
      rw [linkedRows, if_pos hempty, hnone]
      exact .pure []
  | false =>
      have hids : ¬ids.isEmpty = true := fun h => by
        rw [hothers h] at hempty
        exact Bool.noConfusion hempty
      rw [linkedRows, if_neg hids] at hrun
      obtain ⟨_, _, hget, -⟩ := Action.runFrom_bind_eq_ok hrun
      rw [linkedRows, if_neg (Bool.eq_false_iff.1 hempty), ← rowsByColumn_filter]
      exact .bind ((hrows.returns_of_runFrom hquery hget).2 others) (.pure _)

/-- Where the links of records are none, those of some of the records are none. -/
theorem linkedIds_isEmpty_of_subset {pivot : Pivot} {column : String} {parents batch : List Record}
    (hbatch : ∀ p ∈ batch, p ∈ parents) {rows : List Row}
    (h : (linkedIds (pivotLinks pivot
      (rows.filter (Row.isAmong pivot.parentColumn (parentKeys column parents))))).isEmpty = true) :
    (linkedIds (pivotLinks pivot
      (rows.filter (Row.isAmong pivot.parentColumn (parentKeys column batch))))).isEmpty = true := by
  rw [linkedIds_isEmpty, pivotLinks_filter, List.isEmpty_iff, List.filter_eq_nil_iff] at h ⊢
  exact fun link hlink hany => h link hlink (any_hasKey_parentKeys_mono hbatch hany)

theorem filter_records (related : Model) (ids : List Value) (found : List (Key × Row)) :
    (found.filter fun entry => ids.any (·.hasKey entry.1)).map
        (fun (k, row) => (k, Record.ofRow related row))
      = (found.map fun (k, row) => (k, Record.ofRow related row)).filter
          fun entry => ids.any (·.hasKey entry.1) := by
  rw [List.filter_map]
  rfl

include hscoped hdriver in
theorem loadsAlike_pivotAssignment (hkind : r.kind = .belongsToMany) {parents : List Record} {s s' : σ}
    {assign : Assignment}
    (hrun : (r.pivotAssignment ctx (narrowing.map Constraint.ofCalls) parents).runFrom s
      = (.ok assign, s')) :
    LoadsAlike (r.pivotAssignment ctx (narrowing.map Constraint.ofCalls)) parents := by
  cases hpivot : r.pivot with
  | none =>
      rw [pivotAssignment, hpivot] at hrun
      cases hrun
  | some pivot =>
      cases hrelated : r.relatedModel ctx.registry with
      | error e =>
          rw [pivotAssignment, hpivot, hrelated] at hrun
          cases hrun
      | ok related =>
          have hnothing : ∀ batch, (parentKeys r.parentKey batch).isEmpty = true →
              r.pivotAssignment ctx (narrowing.map Constraint.ofCalls) batch = pure fun _ => .many [] :=
            fun _ => pivotAssignment_of_isEmpty hpivot hrelated
          cases hall : (parentKeys r.parentKey parents).isEmpty with
          | true => exact .of_isEmpty hnothing hall
          | false =>
              have hwindow := isPaginated_of_pivotAssignment hpivot hrelated hall hrun
              have hlinks : Queries ctx parent r (narrowing.map Constraint.ofCalls) _
                pivot.parentColumn := .links pivot hkind hpivot
              have hlinked : Queries ctx parent r (narrowing.map Constraint.ofCalls) _
                related.primaryKey := .linked related hkind hrelated
              obtain ⟨pivots, hpivots⟩ := hdriver _ _ hlinks
              obtain ⟨rows, hrows⟩ := hdriver _ _ hlinked
              rw [pivotAssignment_of_unpaginated hpivot hrelated hall hwindow] at hrun
              obtain ⟨found, s₁, hget, hrest⟩ := Action.runFrom_bind_eq_ok hrun
              obtain ⟨hfound, hget'⟩ := hpivots.returns_of_runFrom (hlinks.madeOfCalls hscoped) hget
              obtain ⟨_, _, hread, -⟩ := Action.runFrom_bind_eq_ok hrest
              -- the links that have been read are those of the keys of all records
              rw [hfound] at hread
              have hmissing : ∀ p : Record, p.keyOf? r.parentKey = none →
                  r.assignLinked (pivotLinks pivot pivots)
                    ((rowsByColumn related.primaryKey rows).map
                      fun (k, row) => (k, Record.ofRow related row)) p = .many [] :=
                fun p hk => assignLinked_of_none hk _ _
              refine .of_keyed hnothing hmissing fun batch hbatch hempty => ?_
              refine ⟨_, returns_pivotAssignment hpivot hrelated hempty hwindow (hget' _)
                (returns_linkedRows hrows (hlinked.madeOfCalls hscoped) hread
                  (linkedIds_isEmpty_of_subset hbatch)), fun p hp => ?_⟩
              rw [filter_records,
                assignLinked_filter fun k hk => any_hasKey_parentKeys.2 ⟨p, hp, hk⟩]

/-! ## All kinds of relations -/

include hscoped hdriver in
theorem loadsAlike_assignment
    (hwindow : ∀ calls ∈ narrowing, ∀ call ∈ calls, call.setsWindow = false)
    {parents : List Record} {s s' : σ} {assign : Assignment}
    (hrun : (r.assignment ctx parent (narrowing.map Constraint.ofCalls) parents).runFrom s
      = (.ok assign, s')) :
    LoadsAlike (r.assignment ctx parent (narrowing.map Constraint.ofCalls)) parents := by
  have hload : r.assignment ctx parent (narrowing.map Constraint.ofCalls) = _ :=
    funext fun batch => assignment.eq_def ctx parent r (narrowing.map Constraint.ofCalls) batch
  rw [hload] at hrun ⊢
  cases hkind : r.kind with
  | morphTo =>
      rw [hkind] at hrun
      exact loadsAlike_ownersAssignment hscoped hdriver hkind hrun
  | belongsToMany =>
      rw [hkind] at hrun
      exact loadsAlike_pivotAssignment hscoped hdriver hkind hrun
  | hasOne | hasMany | belongsTo | morphOne | morphMany =>
      rw [hkind] at hrun
      exact loadsAlike_directAssignment hscoped hdriver (by rw [hkind]; decide) (by rw [hkind]; decide)
        hwindow hrun

end

end Relation

namespace EagerLoader

variable {name model : String} {narrowing : Option (List Call)} {fallback : LateralFallback}
  {driver : Driver σ} {registry : ModelRegistry} {m : Model} {r : Relation}

theorem returns_loaded_nil (loader : EagerLoader) (hwell : loader.malformed = none) :
    (loader.loaded driver registry []).Returns [] := by
  intro s
  refine ⟨s, ?_⟩
  rw [loaded, load, hwell]
  rfl

theorem returns_loaded (hm : registry.get model = .ok m) (hr : m.relation name = .ok r)
    {constraint : Option Constraint} {records : List Record}
    (hrecords : ∀ p ∈ records, p.isOf model = true) {value : Assignment}
    (hload : ∃ assign, (r.assignment { driver, registry, fallback } m constraint records).Returns assign
      ∧ ∀ p ∈ records, assign p = value p) :
    (({ nodes := [{ name, constraint }], fallback } : EagerLoader).loaded driver registry
      records).Returns (records.map fun p => p.attach name (value p)) := by
  by_cases hne : records = []
  · subst hne
    exact returns_loaded_nil _ rfl
  · intro s
    obtain ⟨assign, hreturns, hassign⟩ := hload
    obtain ⟨s', hrun⟩ := hreturns s
    refine ⟨s', ?_⟩
    have hmap : records.map (fun p => p.attach name (assign p))
        = records.map fun p => p.attach name (value p) :=
      List.map_congr_left fun p hp => by rw [hassign p hp]
    rw [runFrom_loaded hm hr hne hrecords, hrun, ← hmap]

/-- **Batching does not change results.** If a relation of any kind can be loaded on all records of a
    model, through a driver that answers every query from a list of rows, then what each record is
    loaded with does not depend on the batch: it is the same when any of the records are loaded
    together, and when the record is loaded alone. -/
theorem loaded_batches (hm : registry.get model = .ok m) (hr : m.relation name = .ok r)
    (hscoped : registry.ScopedByCalls)
    (hwindow : ∀ calls ∈ narrowing, ∀ call ∈ calls, call.setsWindow = false)
    (hdriver : ∀ b column, Relation.Queries { driver, registry, fallback } m r
        (narrowing.map Constraint.ofCalls) b column →
      ∃ rows, driver.Answers b column rows)
    {records out : List Record} (hrecords : ∀ p ∈ records, p.isOf model = true) {s s' : σ}
    (hrun : (({ nodes := [{ name, constraint := narrowing.map Constraint.ofCalls }], fallback }
      : EagerLoader).loaded driver registry records).runFrom s = (.ok out, s')) :
    ∃ value : Record → Loaded Record,
      out = records.map (fun p => p.attach name (value p))
      ∧ ∀ batch : List Record, (∀ p ∈ batch, p ∈ records) →
          (({ nodes := [{ name, constraint := narrowing.map Constraint.ofCalls }], fallback }
            : EagerLoader).loaded driver registry batch).Returns
              (batch.map fun p => p.attach name (value p)) := by
  by_cases hne : records = []
  · -- a loader without records looks at nothing, not even at the relation
    subst hne
    refine ⟨fun _ => r.loaded [], (returns_loaded_nil _ rfl).eq_of_runFrom hrun, fun batch hbatch => ?_⟩
    rw [List.eq_nil_iff_forall_not_mem.2 fun p hp => List.not_mem_nil (hbatch p hp)]
    exact returns_loaded_nil _ rfl
  · obtain ⟨value, hvalue⟩ : Relation.LoadsAlike
        (r.assignment { driver, registry, fallback } m (narrowing.map Constraint.ofCalls)) records := by
      have hloaded := hrun
      rw [runFrom_loaded hm hr hne hrecords] at hloaded
      split at hloaded
      · next assign s₁ hload => exact Relation.loadsAlike_assignment hscoped hdriver hwindow hload
      · cases hloaded
    refine ⟨value, ?_, fun batch hbatch => ?_⟩
    · exact (returns_loaded hm hr hrecords (hvalue records fun _ => id)).eq_of_runFrom hrun
    · exact returns_loaded hm hr (fun p hp => hrecords p (hbatch p hp)) (hvalue batch hbatch)

end EagerLoader

/-! ## A driver over one list of rows -/

/-- Answers every read with those of the rows that have the key of a bound value in a column. -/
def Driver.ofRows (d : Dialect) (column : String) (rows : List Row) : Driver Unit :=
  { Driver.blank d with
    query := fun statement =>
      pure (QueryResult.ofRows (rows.filter (Row.isAmong column statement.bindings))) }

theorem Driver.answers_ofRows {m : Model} (hscopes : m.scopes = []) (d : Dialect) (column : String)
    (rows : List Row) : (Driver.ofRows d column rows).Answers (m.query d) column rows := by
  intro ids statement hsql s
  have hcalls : (m.query d).whereIn column ids
      = runCalls (Builder.new d m.table) [.primaryKey m.primaryKey, .oneOf .and column ids false] := by
    rw [Model.query, hscopes]
    rfl
  have hbindings : statement.bindings = ids := by
    rw [hcalls] at hsql
    obtain ⟨q, hq, rfl⟩ := Builder.toSql_eq_ok_iff.1 hsql
    obtain ⟨-, rfl⟩ := toQuery_eq_ok_iff.1 hq
    generalize (runCalls _ _).dialect = d'
    rw [Sql.compileSelect_eq, Sql.Template.statement, Sql.values_selectTemplate,
      Sql.values_wheresTemplate, show (queryOf d m.table _).columns = [.star] from rfl,
      show (queryOf d m.table _).wheres = [⟨.and, .oneOf column ids false⟩] from rfl,
      show (queryOf d m.table _).havings = [] from rfl,
      show (queryOf d m.table _).orders = [] from rfl]
    have hstar : (Sql.columnTemplate d' SelectColumn.star).values = [] := rfl
    simp [hstar, Sql.conditionTemplate, Sql.Template.values_join, Sql.havingsTemplate, Sql.connected,
      List.flatMap_map]
  refine ⟨_, s, rfl, ?_⟩
  show rows.filter (Row.isAmong column statement.bindings) = _
  rw [hbindings]

namespace EagerLoader

/-- Users with one key in two forms, and one without. -/
theorem loaded_batches_posts :
    ∃ (user post : Model) (registry : ModelRegistry) (rows : List Row) (records out : List Record)
      (value : Record → Loaded Record),
      user =
        { name := "User"
          table := "users"
          relations := [.hasMany "posts" "Post" "user_id"] }
      ∧ post = { name := "Post", table := "posts" }
      ∧ registry = { models := [("User", user), ("Post", post)] }
      ∧ rows = [.ofList [("id", .int 1), ("user_id", .int 7)],
          .ofList [("id", .int 2), ("user_id", .text "8")],
          .ofList [("id", .int 3), ("user_id", .text "7")]]
      ∧ records = [.ofRow user (.ofList [("id", .int 7)]), .ofRow user (.ofList [("id", .text "7")]),
          .ofRow user (.ofList [("id", .int 8)]), .ofRow user (.ofList [("id", .null)])]
      ∧ (({ nodes := [{ name := "posts" }] } : EagerLoader).loaded
          (Driver.ofRows .postgres "user_id" rows) registry records).runFrom () = (.ok out, ())
      ∧ out.map (fun p => (p.related "posts").length) = [2, 2, 1, 0]
      ∧ out = records.map (fun p => p.attach "posts" (value p))
      ∧ ∀ p ∈ records, (({ nodes := [{ name := "posts" }] } : EagerLoader).loaded
          (Driver.ofRows .postgres "user_id" rows) registry [p]).Returns
            [p.attach "posts" (value p)] := by
  let r : Relation := .hasMany "posts" "Post" "user_id"
  let user : Model := { name := "User", table := "users", relations := [r] }
  let post : Model := { name := "Post", table := "posts" }
  let registry : ModelRegistry := { models := [("User", user), ("Post", post)] }
  let rows : List Row := [.ofList [("id", .int 1), ("user_id", .int 7)],
    .ofList [("id", .int 2), ("user_id", .text "8")],
    .ofList [("id", .int 3), ("user_id", .text "7")]]
  let records : List Record := [.ofRow user (.ofList [("id", .int 7)]),
    .ofRow user (.ofList [("id", .text "7")]), .ofRow user (.ofList [("id", .int 8)]),
    .ofRow user (.ofList [("id", .null)])]
  let driver := Driver.ofRows .postgres "user_id" rows
  have hposts : user.relation "posts" = .ok r := rfl
  have hrecords : ∀ p ∈ records, p.isOf "User" = true := by decide
  have hanswers : driver.Answers (post.query .postgres) "user_id" rows :=
    Driver.answers_ofRows rfl _ _ _
  have hload : (r.assignment { driver, registry, fallback := .error } user none records).Returns
      (r.distributed ((Relation.rowsByColumn "user_id"
        (rows.filter (Row.isAmong "user_id" (parentKeys "id" records)))).map
          fun (k, row) => (k, Record.ofRow post row))) := by
    have hrelated : r.relatedModel registry = .ok post := rfl
    rw [show r.assignment { driver, registry, fallback := .error } user none records = _ from
      Relation.directAssignment_of_unpaginated hrelated rfl rfl]
    exact (hanswers.returns_get rfl).bind (.pure _)
  obtain ⟨_, hrun⟩ := returns_loaded rfl hposts hrecords ⟨_, hload, fun _ _ => rfl⟩ ()
  have hwindow : ∀ calls ∈ (none : Option (List Call)), ∀ call ∈ calls, call.setsWindow = false :=
    fun _ h => nomatch h
  have hdriver : ∀ b column, Relation.Queries { driver, registry, fallback := .error } user r none b
      column → ∃ rows, driver.Answers b column rows := by
    intro b column hquery
    cases hquery with
    | direct related _ _ hrelated =>
        cases hrelated
        exact ⟨rows, hanswers⟩
    | owners _ _ hkind => cases hkind
    | links _ hkind => cases hkind
    | linked _ hkind => cases hkind
  obtain ⟨value, hout, hbatches⟩ := loaded_batches rfl hposts
    (ModelRegistry.scopedByCalls_of_scopes_nil (by decide)) hwindow hdriver hrecords hrun
  refine ⟨user, post, registry, rows, records, _, value, rfl, rfl, rfl, rfl, rfl, hrun, ?_, hout,
    fun p hp => hbatches [p] fun q hq => List.mem_singleton.1 hq ▸ hp⟩
  decide

end EagerLoader

end QueryKit
