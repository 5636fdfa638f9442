import QueryKit.Proofs.Builder.Validation
import QueryKit.Proofs.Eager.Distribution

set_option autoImplicit false

/-! # Constraints that leave a fault behind

A fault in the constraint of a relation is reported when the query that it narrows is compiled. For most
relations this is the first query, so loading them is the error and nothing else, whatever the driver.
By way of a pivot table the links are read before the narrowed query is compiled, and the narrowed query
is compiled only if there are links (`Relation.faulty_fails_before_sending_except_pivot`). -/

namespace QueryKit

variable {σ : Type}

/-! ## Actions that are errors -/

namespace Action

variable {α β : Type}

theorem throw_bind (e : Error) (next : α → Action σ β) :
    (throw e : Action σ α) >>= next = throw e := rfl

/-- Where every step does nothing but end, and some step ends in an error, all steps together end in
    the first error. -/
theorem mapM_eq_throw {P : Error → Prop} {f : α → Action σ β} {xs : List α}
    (h : ∀ x ∈ xs, (∃ y, f x = pure y) ∨ ∃ e, P e ∧ f x = throw e)
    (hfails : ∃ x ∈ xs, ∃ e, P e ∧ f x = throw e) : ∃ e, P e ∧ xs.mapM f = throw e := by
  induction xs with
  | nil =>
      obtain ⟨x, hx, -⟩ := hfails
      cases hx
  | cons x rest ih =>
      obtain ⟨hfirst, hrest⟩ := List.forall_mem_cons.1 h
      rw [List.mapM_cons]
      rcases (List.exists_mem_cons_iff ..).1 hfails with ⟨e, he, hx⟩ | hfails
      · exact ⟨e, he, by rw [hx, throw_bind]⟩
      · rcases hfirst with ⟨y, hy⟩ | ⟨e, he, hx⟩
        · obtain ⟨e, he, hmapM⟩ := ih hrest hfails
          exact ⟨e, he, by rw [hy, pure_bind, hmapM, throw_bind]⟩
        · exact ⟨e, he, by rw [hx, throw_bind]⟩

/-- What follows sends nothing if it is a result or an error. -/
theorem sent_bind_of_ends {action : Action (σ × List Statement) α}
    {next : α → Action (σ × List Statement) β}
    (h : ∀ a, (∃ b, next a = pure b) ∨ ∃ e, next a = throw e) (s : σ) :
    (action >>= next).sent s = action.sent s := by
  rw [sent, sent, runFrom_bind]
  rcases action.runFrom (s, []) with ⟨e | a, s'⟩
  · rfl
  · rcases h a with ⟨b, hb⟩ | ⟨e, he⟩
    · simp only [hb]
      rfl
    · simp only [he]
      rfl

end Action

/-! ## Builders with a fault -/

namespace Builder

variable {b : Builder} {fault : Fault}

theorem toSql_of_fault (h : b.draft.fault = some fault) : b.toSql = .error (.validation fault) := by
  rw [toSql, toQuery, h]
  rfl

theorem get_of_fault (h : b.draft.fault = some fault) (driver : Driver σ) :
    b.get driver = throw (.validation fault) := by
  rw [get, fetch, toSql_of_fault h]
  rfl

/-- No call takes the fault back. -/
theorem fault_run (h : b.draft.fault = some fault) (call : Call) :
    (call.run b).draft.fault = some fault := by
  have hcalls := runCalls_fault [call] b
  rw [h, Option.some_or] at hcalls
  exact hcalls

theorem get_whereIn_of_fault (h : b.draft.fault = some fault) (column : String) (ids : List Value)
    (driver : Driver σ) : (b.whereIn column ids).get driver = throw (.validation fault) :=
  get_of_fault (fault_run h (.oneOf .and column ids false)) driver

theorem get_whereEq_of_fault (h : b.draft.fault = some fault) (column : String) (v : Value)
    (driver : Driver σ) : (b.whereEq column v).get driver = throw (.validation fault) :=
  get_of_fault (fault_run h (.compare .and column "=" v)) driver

end Builder

/-! ## Constraints with a fault -/

/-- Whatever the constraint narrows, it leaves a fault behind. -/
def Constraint.Faulty (f : Constraint) : Prop :=
  ∀ b, (f b).draft.fault ≠ none

/-- A constraint that makes calls leaves a fault behind if one of them is invalid, in groups of any
    depth. -/
theorem Constraint.faulty_ofCalls_iff {calls : List Call} :
    (Constraint.ofCalls calls).Faulty ↔ ∃ call ∈ callsMade calls, call.Invalid := by
  have hinvalid : (∃ call ∈ callsMade calls, call.Invalid) ↔ faultOf? calls ≠ none := by
    simp only [faultOf?_eq_checkFault, ne_eq, List.findSome?_eq_none_iff,
      Call.checkFault?_eq_none_iff, not_forall, not_not, exists_prop]
  have hfault : ∀ b, (Constraint.ofCalls calls b).draft.fault = b.draft.fault.or (faultOf? calls) :=
    runCalls_fault calls
  rw [hinvalid]
  constructor
  · intro hfaulty hnone
    refine hfaulty (Builder.new .postgres "") ?_
    rw [hfault, hnone]
    rfl
  · intro hcalls b hnone
    rw [hfault, Option.or_eq_none_iff] at hnone
    exact hcalls hnone.2

namespace Relation

variable {ctx : LoadContext σ} {parent related : Model} {r : Relation} {f : Constraint}
  {parents : List Record} {fault : Fault}

theorem fault_constrained (b : Builder) :
    (constrained (some f) b).draft.fault = (f b).draft.fault := by
  rw [constrained, Builder.groupWheres, Builder.modify, Draft.groupWheres_eq]

theorem exists_fault_constrained (hf : f.Faulty) (b : Builder) :
    ∃ fault, (constrained (some f) b).draft.fault = some fault := by
  rw [fault_constrained]
  exact Option.ne_none_iff_exists'.1 (hf b)

/-! ## Related rows that are found by one of their columns -/

/-- What loading ends in if its query has a fault. A limit that cannot be set for every record is noticed
    before the query is compiled. -/
def refusal (ctx : LoadContext σ) (query : Builder) (fault : Fault) : Error :=
  if query.isPaginated = true ∧ query.dialect.supportsLateral = false ∧ ctx.fallback = .error then
    .lateralUnsupported query.dialect.name
  else .validation fault

theorem limitedRows_of_fault {query : Builder} (hquery : query.draft.fault = some fault)
    (hpaginated : query.isPaginated = true) {ids : List Value} (hids : ids.isEmpty = false)
    (hkeys : ∀ id ∈ ids, ∃ k, id.key? = some k) :
    limitedRows ctx r query ids = throw (refusal ctx query fault) := by
  rw [limitedRows, refusal]
  cases hlateral : query.dialect.supportsLateral with
  | true =>
      have htoQuery : query.toQuery = .error (.validation fault) := by
        rw [Builder.toQuery, hquery]
      rw [if_pos rfl, htoQuery, if_neg (by simp)]
      rfl
  | false =>
      cases hfallback : ctx.fallback with
      | error => simp [hpaginated]
      | unbounded =>
          simp [Builder.get_whereIn_of_fault hquery]
      | perParent =>
          have hone : ∀ id ∈ ids, rowsOfParent ctx r query id = throw (.validation fault) := by
            intro id hid
            obtain ⟨k, hk⟩ := hkeys id hid
            rw [rowsOfParent_eq hk, Builder.get_whereEq_of_fault hquery, Action.throw_bind]
          obtain ⟨id, hid⟩ := List.exists_mem_of_ne_nil ids (List.isEmpty_eq_false_iff.1 hids)
          obtain ⟨e, rfl, hall⟩ := Action.mapM_eq_throw (P := (· = .validation fault))
            (fun id hid => .inr ⟨_, rfl, hone id hid⟩) ⟨id, hid, _, rfl, hone id hid⟩
          simp [hall]

/-- Loading rows by one of their columns fails before anything is sent. -/
theorem directAssignment_of_fault (hrelated : r.relatedModel ctx.registry = .ok related)
    (hquery : (directQuery ctx parent related r (some f)).draft.fault = some fault)
    (hkeyed : ¬r.Keyless parents) :
    r.directAssignment ctx parent (some f) parents
      = throw (refusal ctx (directQuery ctx parent related r (some f)) fault) := by
  have hempty := isEmpty_of_not_keyless hkeyed
  cases hwindow : (directQuery ctx parent related r (some f)).isPaginated with
  | true =>
      rw [directAssignment_of_paginated hrelated hwindow hempty,
        limitedRows_of_fault hquery hwindow hempty fun id hid => exists_key?_of_mem_parentKeys hid,
        Action.throw_bind]
  | false =>
      rw [directAssignment_of_unpaginated hrelated hwindow hempty, Builder.get_whereIn_of_fault hquery,
        Action.throw_bind, refusal, hwindow]
      rfl

/-! ## Owners of several kinds -/

/-- The error is the fault that the constraint leaves in the query for a type of owner that some record
    names. -/
def IsOwnerFault (ctx : LoadContext σ) (f : Constraint) (column : String) (parents : List Record)
    (e : Error) : Prop :=
  ∃ p ∈ parents, ∃ tag model fault, tagOf? column p = some tag
    ∧ ctx.registry.resolveMorph tag = .ok model
    ∧ (f (model.query ctx.driver.dialect)).draft.fault = some fault ∧ e = .validation fault

/-- The models of all types of owners that records name are registered. -/
def OwnersRegistered (ctx : LoadContext σ) (column : String) (parents : List Record) : Prop :=
  ∀ p ∈ parents, ∀ tag, tagOf? column p = some tag → ∃ model, ctx.registry.resolveMorph tag = .ok model

theorem ownersOfType_of_faulty (hf : f.Faulty) {column : String} {p : Record} {tag : String}
    (hp : p ∈ parents) (htag : tagOf? column p = some tag)
    (hempty : (parentKeys r.parentKey
      (parents.filter fun p => tagOf? column p == some tag)).isEmpty = false) :
    ∃ e, (OwnersRegistered ctx column parents → IsOwnerFault ctx f column parents e)
      ∧ ownersOfType ctx r (some f) column parents tag = throw e := by
  cases hmodel : ctx.registry.resolveMorph tag with
  | error e =>
      refine ⟨e, fun hall => ?_, ?_⟩
      · obtain ⟨model, hresolved⟩ := hall p hp tag htag
        rw [hmodel] at hresolved
        cases hresolved
      · rw [ownersOfType]
        dsimp only
        rw [hempty, hmodel]
        rfl
  | ok model =>
      obtain ⟨fault, hfault⟩ := exists_fault_constrained hf (model.query ctx.driver.dialect)
      refine ⟨.validation fault, fun _ => ?_, ?_⟩
      · rw [fault_constrained] at hfault
        exact ⟨p, hp, tag, model, fault, htag, hmodel, hfault, rfl⟩
      · rw [ownersOfType_of_resolved hempty hmodel, Builder.get_whereIn_of_fault hfault,
          Action.throw_bind]

/-- Loading owners fails before anything is sent, as the first type with ids does. -/
theorem ownersAssignment_of_faulty (hf : f.Faulty) {column : String}
    (hcolumn : r.typeColumn = some column) {p : Record} {tag : String} {k : Key} (hp : p ∈ parents)
    (htag : tagOf? column p = some tag) (hk : p.keyOf? r.parentKey = some k) :
    ∃ e, (OwnersRegistered ctx column parents → IsOwnerFault ctx f column parents e)
      ∧ r.ownersAssignment ctx (some f) parents = throw e := by
  have hends : ∀ other ∈ Text.sortedNames (parents.filterMap (tagOf? column)),
      (∃ owners, ownersOfType ctx r (some f) column parents other = pure owners)
        ∨ ∃ e, (OwnersRegistered ctx column parents → IsOwnerFault ctx f column parents e)
            ∧ ownersOfType ctx r (some f) column parents other = throw e := by
    intro other hother
    obtain ⟨q, hq, hqt⟩ := mem_tags.1 hother
    cases hempty : (parentKeys r.parentKey
        (parents.filter fun p => tagOf? column p == some other)).isEmpty with
    | true => exact .inl ⟨_, ownersOfType_of_isEmpty hempty⟩
    | false => exact .inr (ownersOfType_of_faulty hf hq hqt hempty)
  have hkeyed : (parentKeys r.parentKey
      (parents.filter fun p => tagOf? column p == some tag)).isEmpty = false := by
    refine isEmpty_of_not_keyless fun hkeyless => ?_
    rw [hkeyless p (mem_filter_tag hp htag)] at hk
    cases hk
  obtain ⟨e, he, hall⟩ := Action.mapM_eq_throw hends
    ⟨tag, mem_tags.2 ⟨p, hp, htag⟩, ownersOfType_of_faulty hf hp htag hkeyed⟩
  refine ⟨e, he, ?_⟩
  rw [ownersAssignment_of_typeColumn hcolumn, hall, Action.throw_bind]

/-! ## Relations by way of a pivot table -/

/-- The read of the links of records. -/
def linksQuery (ctx : LoadContext σ) (r : Relation) (pivot : Pivot) (parents : List Record) : Builder :=
  (pivotQuery ctx.driver.dialect pivot).whereIn pivot.parentColumn (parentKeys r.parentKey parents)

/-- The links are read first, and the fault is noticed only if there are any. -/
theorem pivotAssignment_of_fault {pivot : Pivot} (hpivot : r.pivot = some pivot)
    (hrelated : r.relatedModel ctx.registry = .ok related)
    (hquery : (f (related.query ctx.driver.dialect)).draft.fault = some fault)
    (hwindow : (constrained (some f) (related.query ctx.driver.dialect)).isPaginated = false)
    (hkeyed : ¬r.Keyless parents) :
    r.pivotAssignment ctx (some f) parents
      = (linksQuery ctx r pivot parents).get ctx.driver >>= fun rows =>
          if (pivotLinks pivot rows).isEmpty then pure fun _ => .many []
          else throw (.validation fault) := by
  rw [pivotAssignment_of_unpaginated hpivot hrelated (isEmpty_of_not_keyless hkeyed) hwindow]
  refine congrArg (_ >>= ·) (funext fun rows => ?_)
  rw [linkedRows, linkedIds_isEmpty]
  cases hlinks : (pivotLinks pivot rows).isEmpty with
  | true =>
      rw [if_pos rfl, pure_bind, List.isEmpty_iff.1 hlinks]
      refine congrArg pure (funext fun p => ?_)
      rw [assignLinked]
      cases p.keyOf? r.parentKey <;> rfl
  | false =>
      rw [← fault_constrained] at hquery
      rw [if_neg Bool.false_ne_true, Builder.get_whereIn_of_fault hquery]
      rfl

/-- The read of the links is all that is sent. -/
theorem sent_pivotAssignment_of_fault {pivot : Pivot} (hpivot : r.pivot = some pivot)
    (hrelated : r.relatedModel ctx.registry = .ok related)
    (hquery : (f (related.query ctx.driver.dialect)).draft.fault = some fault)
    (hwindow : (constrained (some f) (related.query ctx.driver.dialect)).isPaginated = false)
    (hkeyed : ¬r.Keyless parents) {statement : Statement}
    (hsql : (linksQuery ctx r pivot parents).toSql = .ok statement) (s : σ) :
    (r.pivotAssignment ctx.recorded (some f) parents).sent s = [statement] := by
  have hload : r.pivotAssignment ctx.recorded (some f) parents = _ :=
    pivotAssignment_of_fault hpivot hrelated hquery hwindow hkeyed
  have hsent := ctx.driver.sent_get (linksQuery ctx r pivot parents) s
  rw [hsql] at hsent
  rw [hload, Action.sent_bind_of_ends]
  · exact hsent
  · intro rows
    split
    · exact .inl ⟨_, rfl⟩
    · exact .inr ⟨_, rfl⟩

theorem pivotAssignment_of_window {constraint : Option Constraint} {pivot : Pivot}
    (hpivot : r.pivot = some pivot) (hrelated : r.relatedModel ctx.registry = .ok related)
    (hwindow : (constrained constraint (related.query ctx.driver.dialect)).isPaginated = true)
    (hkeyed : ¬r.Keyless parents) :
    r.pivotAssignment ctx constraint parents = throw (.validation (.limitOnPivot r.name)) := by
  rw [pivotAssignment, hpivot, hrelated]
  simp only [Action.ofExcept_ok_bind]
  rw [isEmpty_of_not_keyless hkeyed, hwindow]
  rfl

/-- The links can be read if the columns of the pivot table are identifiers. -/
theorem exists_toSql_linksQuery {pivot : Pivot}
    (hcolumns : ∀ column ∈ [pivot.parentColumn, pivot.relatedColumn],
      ¬(Check.identifier column).Fails) :
    ∃ statement, (linksQuery ctx r pivot parents).toSql = .ok statement := by
  let calls : List Call := [.select [pivot.parentColumn, pivot.relatedColumn],
    .oneOf .and pivot.parentColumn (parentKeys r.parentKey parents) false]
  have hquery : linksQuery ctx r pivot parents
      = runCalls (Builder.new ctx.driver.dialect pivot.table) calls := rfl
  have hvalid : ¬∃ call ∈ executedCalls calls, call.Invalid := by
    have hexecuted : executedCalls calls = calls := rfl
    rw [hexecuted]
    rintro ⟨call, hcall, check, hcheck, hfails⟩
    have hidentifiers : check ∈ [pivot.parentColumn, pivot.relatedColumn].map Check.identifier := by
      rcases List.mem_cons.1 hcall with rfl | hcall
      · exact hcheck
      · rw [List.mem_singleton.1 hcall] at hcheck
        rw [List.mem_singleton.1 hcheck]
        exact List.mem_cons_self ..
    obtain ⟨column, hcolumn, rfl⟩ := List.mem_map.1 hidentifiers
    exact hcolumns column hcolumn hfails
  rw [hquery, Builder.toSql]
  cases htoQuery : (runCalls (Builder.new ctx.driver.dialect pivot.table) calls).toQuery with
  | error e => exact absurd (exists_toQuery_eq_error_iff.1 ⟨e, htoQuery⟩) hvalid
  | ok q => exact ⟨_, rfl⟩

/-- A loader that has nothing to assign but an error is the error. -/
theorem on_load_of_throw {constraint : Option Constraint} {e : Error}
    (h : r.assignment ctx parent constraint parents = throw e) :
    (r.load ctx parent constraint).on parents = throw e := by
  rw [on_load, h]
  rfl

/-- **A fault in a constraint is noticed before anything is sent, but by way of a pivot table.** Loading
    any other relation is an error, whatever the driver: the fault, if the models are registered and no
    limit is refused before. By way of a pivot table a limit is refused at once, but otherwise the links
    are read first. If there are none, the fault is never noticed and loading succeeds. -/
theorem faulty_fails_before_sending_except_pivot (hf : f.Faulty) :
    (r.kind ≠ .morphTo → r.kind ≠ .belongsToMany → ¬r.Keyless parents →
      ∃ e, (r.load ctx parent (some f)).on parents = throw e
        ∧ ∀ related, r.relatedModel ctx.registry = .ok related → ∃ fault,
          (directQuery ctx parent related r (some f)).draft.fault = some fault
            ∧ e = refusal ctx (directQuery ctx parent related r (some f)) fault)
    ∧ (r.kind = .morphTo → ∀ column, r.typeColumn = some column →
      (∃ p ∈ parents, ∃ tag k, tagOf? column p = some tag ∧ p.keyOf? r.parentKey = some k) →
      ∃ e, (r.load ctx parent (some f)).on parents = throw e
        ∧ (OwnersRegistered ctx column parents → IsOwnerFault ctx f column parents e))
    ∧ (r.kind = .belongsToMany → ¬r.Keyless parents → ∀ pivot related, r.pivot = some pivot →
      r.relatedModel ctx.registry = .ok related →
      ((constrained (some f) (related.query ctx.driver.dialect)).isPaginated = true →
        (r.load ctx parent (some f)).on parents = throw (.validation (.limitOnPivot r.name)))
      ∧ ((constrained (some f) (related.query ctx.driver.dialect)).isPaginated = false →
        (∃ fault, (f (related.query ctx.driver.dialect)).draft.fault = some fault
          ∧ (r.load ctx parent (some f)).on parents
              = (linksQuery ctx r pivot parents).get ctx.driver >>= fun rows =>
                  if (pivotLinks pivot rows).isEmpty then pure (r.assigned (fun _ => .many []) parents)
                  else throw (.validation fault))
        ∧ ((∀ column ∈ [pivot.parentColumn, pivot.relatedColumn],
              ¬(Check.identifier column).Fails) →
            ∃ statement, (linksQuery ctx r pivot parents).toSql = .ok statement
              ∧ ∀ s, ((r.load ctx.recorded parent (some f)).on parents).sent s = [statement]))) := by
  refine ⟨fun hmorph hpivot hkeyed => ?_, fun hmorph column hcolumn hnamed => ?_,
    fun hkind hkeyed pivot related hpivot hrelated => ⟨fun hwindow => ?_, fun hwindow => ?_⟩⟩
  · cases hrelated : r.relatedModel ctx.registry with
    | error e =>
        refine ⟨e, on_load_of_throw ?_, nofun⟩
        rw [assignment_eq_directAssignment hmorph hpivot, directAssignment, hrelated]
        rfl
    | ok related =>
        obtain ⟨fault, hfault⟩ : ∃ fault,
            (directQuery ctx parent related r (some f)).draft.fault = some fault :=
          exists_fault_constrained hf _
        refine ⟨_, on_load_of_throw ((assignment_eq_directAssignment hmorph hpivot).trans
          (directAssignment_of_fault hrelated hfault hkeyed)), ?_⟩
        rintro _ ⟨⟩
        exact ⟨fault, hfault, rfl⟩
  · obtain ⟨p, hp, tag, k, htag, hk⟩ := hnamed
    obtain ⟨e, he, hload⟩ := ownersAssignment_of_faulty hf hcolumn hp htag hk
    exact ⟨e, on_load_of_throw ((assignment_eq_ownersAssignment hmorph).trans hload), he⟩
  · refine on_load_of_throw ?_
    rw [assignment_eq_pivotAssignment hkind]
    exact pivotAssignment_of_window hpivot hrelated hwindow hkeyed
  · obtain ⟨fault, hfault⟩ := Option.ne_none_iff_exists'.1 (hf (related.query ctx.driver.dialect))
    refine ⟨⟨fault, hfault, ?_⟩, fun hcolumns => ?_⟩
    · rw [on_load, assignment_eq_pivotAssignment hkind,
        pivotAssignment_of_fault hpivot hrelated hfault hwindow hkeyed, bind_assoc]
      refine congrArg (_ >>= ·) (funext fun rows => ?_)
      split <;> rfl
    · obtain ⟨statement, hsql⟩ :=
        @exists_toSql_linksQuery σ ctx r parents pivot hcolumns
      refine ⟨statement, hsql, fun s => ?_⟩
      rw [sent_on_load, assignment_eq_pivotAssignment hkind]
      exact sent_pivotAssignment_of_fault hpivot hrelated hfault hwindow hkeyed hsql s

/-- An operator that is not on the list, in a constraint on the posts and on the roles of a user without
    roles. The posts are refused and nothing is sent for them; for the roles the links are read, and
    loading succeeds. -/
theorem faulty_fails_before_sending_except_pivot_roles :
    ∃ (user post role : Model) (registry : ModelRegistry) (posts roles : Relation) (f : Constraint)
      (ctx : LoadContext Unit) (users held : List Record) (statement : Statement),
      user = { name := "User", table := "users" } ∧ post = { name := "Post", table := "posts" }
      ∧ role = { name := "Role", table := "roles" }
      ∧ registry = [user, post, role].foldl (fun reg m => reg.register m) {}
      ∧ posts = .hasMany "posts" "Post" "user_id"
      ∧ roles = .belongsToMany "roles" "Role" "role_user" "user_id" "role_id"
      ∧ f = .ofCalls [.compare .and "a" "~" (.int 1)] ∧ f.Faulty
      ∧ ctx = { driver := Driver.blank .postgres, registry, fallback := .error }
      ∧ users = [.ofRow user (.ofList [("id", .int 1)])]
      ∧ (posts.load ctx user (some f)).on users = throw (.validation (.operator "~"))
      ∧ statement.sql
          = "SELECT \"user_id\", \"role_id\" FROM \"role_user\" WHERE \"user_id\" IN ($1)"
      ∧ ((roles.load ctx.recorded user (some f)).on users).sent () = [statement]
      ∧ ((roles.load ctx user (some f)).on users).runFrom () = (.ok held, ())
      ∧ held = users.map (·.attach "roles" (.many [])) := by
  let user : Model := { name := "User", table := "users" }
  let post : Model := { name := "Post", table := "posts" }
  let role : Model := { name := "Role", table := "roles" }
  let registry : ModelRegistry := [user, post, role].foldl (fun reg m => reg.register m) {}
  let posts : Relation := .hasMany "posts" "Post" "user_id"
  let roles : Relation := .belongsToMany "roles" "Role" "role_user" "user_id" "role_id"
  let f : Constraint := .ofCalls [.compare .and "a" "~" (.int 1)]
  let ctx : LoadContext Unit := { driver := Driver.blank .postgres, registry, fallback := .error }
  let users : List Record := [.ofRow user (.ofList [("id", .int 1)])]
  have hf : f.Faulty :=
    Constraint.faulty_ofCalls_iff.2
      ⟨_, List.mem_singleton_self _, .operator "~", List.mem_cons_self .., by decide⟩
  obtain ⟨hdirect, -, -⟩ := @faulty_fails_before_sending_except_pivot Unit ctx user posts f users hf
  obtain ⟨-, -, hpivot⟩ := @faulty_fails_before_sending_except_pivot Unit ctx user roles f users hf
  obtain ⟨e, hposts, he⟩ := hdirect (by decide) (by decide) (by decide)
  obtain ⟨fault, hfault, rfl⟩ := he post rfl
  cases hfault
  obtain ⟨⟨_, -, hroles⟩, hsent⟩ := (hpivot rfl (by decide) _ role rfl rfl).2 rfl
  obtain ⟨statement, hsql, hsent⟩ := hsent (by
    intro column hcolumn
    refine Check.fault?_eq_none_iff.1 ?_
    rcases List.mem_cons.1 hcolumn with rfl | hcolumn
    · rfl
    · rw [List.mem_singleton.1 hcolumn]
      rfl)
  have hstatement : statement.sql
      = "SELECT \"user_id\", \"role_id\" FROM \"role_user\" WHERE \"user_id\" IN ($1)" := by
    have htext : (linksQuery ctx roles ⟨"role_user", "user_id", "role_id"⟩ users).toSql.toOption.map
        Statement.sql
          = some "SELECT \"user_id\", \"role_id\" FROM \"role_user\" WHERE \"user_id\" IN ($1)" := by
      subst users ctx f roles posts registry role post user
      decide +kernel
    rw [hsql] at htext
    exact Option.some.inj htext
  have hnone : ((roles.load ctx user (some f)).on users).runFrom ()
      = (.ok (roles.assigned (fun _ => .many []) users), ()) := by
    rw [hroles, Action.runFrom_bind, Builder.get, Builder.fetch, hsql]
    rfl
  exact ⟨user, post, role, registry, posts, roles, f, ctx, users, _, statement, rfl, rfl, rfl, rfl, rfl,
    rfl, rfl, hf, rfl, rfl, hposts, hstatement, hsent (), hnone, rfl⟩

end Relation

end QueryKit
