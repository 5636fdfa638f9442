import QueryKit.Proofs.Eager.Distribution
import QueryKit.Proofs.Text.Numerals

set_option autoImplicit false

/-! # Limits on the rows of each record

A limit in the constraint of a relation is one on the rows of each record. Unless the relation leads to
owners, the related rows are then read laterally, or not at all. Owners are read in one statement for
all ids of their type, and the limit is one on all of them together. So is a limit that a scope sets,
which is not there yet when it is decided how to read (`Relation.limit_holds_for_each_except_owners`). -/

namespace QueryKit

/-! ## Reads with a window -/

/-- The text ends in a letter or a digit. -/
def Text.EndsAlphanum (s : String) : Prop :=
  ∃ c, s.toList.getLast? = some c ∧ c.isAlphanum = true

namespace Text

theorem EndsAlphanum.append {s : String} (h : EndsAlphanum s) (before : String) :
    EndsAlphanum (before ++ s) := by
  obtain ⟨c, hlast, hc⟩ := h
  exact ⟨c, by rw [String.toList_append, List.getLast?_append, hlast, Option.some_or], hc⟩

theorem endsAlphanum_toString (n : Nat) : EndsAlphanum (toString n) := by
  have hdigits : (toString n).toList = digits n := by
    rw [digits, Nat.toString_eq_ofList_toDigits, String.toList_ofList]
  rw [EndsAlphanum, hdigits, List.getLast?_eq_some_getLast (digits_ne_nil n)]
  refine ⟨_, rfl, ?_⟩
  rw [Char.isAlphanum, isDigit_of_mem_digits (List.getLast_mem _), Bool.or_true]

end Text

namespace Sql

/-- What ends the text of a read with a window. -/
theorem endsAlphanum_window (d : Dialect) {q : Query} (h : q.isPaginated = true) :
    Text.EndsAlphanum (d.limitSuffix q.limit q.offset ++ lockText d q.lock) := by
  have hlimit : Text.EndsAlphanum (d.limitSuffix q.limit q.offset) := by
    rw [Query.isPaginated] at h
    cases hoffset : q.offset with
    | some o =>
        cases q.limit with
        | some l => exact ((Text.endsAlphanum_toString _).append _).append _
        | none => exact ((Text.endsAlphanum_toString _).append _).append _
    | none =>
        cases hl : q.limit with
        | some l =>
            rw [Dialect.limitSuffix, String.append_empty]
            exact (Text.endsAlphanum_toString _).append _
        | none =>
            rw [hoffset, hl] at h
            cases h
  cases q.lock with
  | none => rwa [lockText, String.append_empty]
  | some lock =>
      cases d with
      | postgres => cases lock <;> exact Text.EndsAlphanum.append ⟨_, rfl, rfl⟩ _
      | mysql => cases lock <;> exact Text.EndsAlphanum.append ⟨_, rfl, rfl⟩ _
      | sqlite => rwa [lockText, Dialect.lockSuffix, String.append_empty]

theorem endsAlphanum_compileSelect (d : Dialect) {q : Query} (h : q.isPaginated = true) :
    Text.EndsAlphanum (compileSelect d q).sql := by
  rw [compileSelect_eq, selectTemplate, Template.statement, Template.numbered]
  simp only
  rw [← List.cons_append, Template.write_append]
  refine Text.EndsAlphanum.append ?_ _
  rw [Template.write_text]
  exact endsAlphanum_window d h

end Sql

/-- A lateral read is no read with a window. -/
theorem Statement.IsLateral.ne_compileSelect {statement : Statement} (h : statement.IsLateral) (d : Dialect)
    {q : Query} (hq : q.isPaginated = true) : statement ≠ Sql.compileSelect d q := by
  rintro rfl
  obtain ⟨d', q', foreignKey, ids, hlateral⟩ := h
  have heq := Sql.eq_of_compileLateral hlateral
  obtain ⟨c, hlast, hc⟩ := Sql.endsAlphanum_compileSelect d hq
  rw [heq, Sql.lateralTemplate, Sql.Template.statement, Sql.Template.numbered] at hlast
  simp only at hlast
  rw [Sql.Template.write_append, Sql.Template.write_text, String.toList_append,
    List.getLast?_append] at hlast
  cases d' with
  | postgres =>
    have hquote : (") AS " ++ Dialect.identifier .postgres "__child").toList.getLast? = some '"' := by
      decide
    rw [hquote] at hlast
    cases hlast
    exact absurd hc (by decide)
  | mysql => cases hlateral
  | sqlite => cases hlateral

/-- The statement reads the rows of several ids together, under one window. -/
def Statement.LimitsTogether (d : Dialect) (column : String) (ids : List Value)
    (statement : Statement) : Prop :=
  2 ≤ ids.length ∧ ∃ (q : Query) (f : Filter), statement = Sql.compileSelect d q
    ∧ q.isPaginated = true ∧ q.wheres = f.toWheres d
    ∧ ∀ ρ : Condition → Bool, f.holds ρ = true → ρ (.oneOf column ids false) = true

theorem Statement.IsLateral.not_limitsTogether {statement : Statement} (h : statement.IsLateral)
    (d : Dialect) (column : String) (ids : List Value) :
    ¬statement.LimitsTogether d column ids := by
  rintro ⟨-, q, f, heq, hq, -⟩
  exact h.ne_compileSelect d hq heq

/-- A window that is set by calls, or by their scopes, is one for all ids that are bound behind them. -/
theorem limitsTogether_of_toSql {d : Dialect} {table column : String} {calls : List Call}
    (hlimit : (appliedCalls calls).any Call.setsWindow = true) {ids : List Value}
    (hids : 2 ≤ ids.length) {statement : Statement}
    (hsql : ((runCalls (Builder.new d table) calls).groupWheres.whereIn column ids).toSql
      = .ok statement) : statement.LimitsTogether d column ids := by
  obtain ⟨q, hq, rfl⟩ := Builder.toSql_eq_ok_iff.1 hsql
  obtain ⟨hfault, hcall⟩ := runCalls_fault_eq_none.1
    (Builder.fault_of_toQuery hq : (runCalls _ [.oneOf .and column ids false]).draft.fault = none)
  have hcarries := (Builder.Carries.of_calls hfault).runCalls hcall
  refine ⟨hids, q, _, congrArg (Sql.compileSelect · q) hcarries.dialect, ?_,
    hcarries.toQuery_wheres hq, fun ρ hρ => ?_⟩
  · have hnew : (Builder.new d table).isPaginated = false := rfl
    have hbound : [Call.oneOf .and column ids false].any Call.setsWindow = false := rfl
    rw [hcarries.toAwaits.isPaginated_toQuery hq, isPaginated_runCalls, Builder.isPaginated_groupWheres,
      isPaginated_runCalls, hnew, Bool.false_or, hbound, Bool.or_false, ← hlimit, appliedCalls,
      List.any_append]
    rfl
  · have hclauses : clausesOf [Call.oneOf .and column ids false]
        = [.leaf .and (.oneOf column ids false)] := rfl
    rw [Filter.holds_isolate, hclauses, Filter.holds_gathered_append, Bool.and_eq_true,
      Bool.and_eq_true] at hρ
    exact hρ.1.2

namespace Relation

variable {σ : Type} {ctx : LoadContext σ} {parent related : Model} {r : Relation}
  {constraint : Option Constraint} {calls : List Call} {parents : List Record}

theorem isPaginated_constrained_of_any (hlimit : calls.any Call.setsWindow = true) (b : Builder) :
    (constrained (some (.ofCalls calls)) b).isPaginated = true := by
  rw [constrained, Builder.isPaginated_groupWheres, Constraint.ofCalls, isPaginated_runCalls, hlimit,
    Bool.or_true]

/-! ## Related rows that are found by one of their columns -/

/-- Where a limit is seen, rows are read laterally or not at all. -/
theorem sends_limitedRows_of_error (hfallback : ctx.fallback = .error) (query : Builder)
    (ids : List Value) : Action.Sends Statement.IsLateral (limitedRows ctx.recorded r query ids) := by
  cases hlateral : query.dialect.supportsLateral with
  | true => exact sends_limitedRows_lateral hlateral ids
  | false =>
      rw [limitedRows, if_neg (Bool.eq_false_iff.1 hlateral),
        show ctx.recorded.fallback = .error from hfallback]
      exact .throw _

theorem sends_directAssignment_of_error (hfallback : ctx.fallback = .error)
    (hwindow : ∀ related, r.relatedModel ctx.registry = .ok related →
      (directQuery ctx parent related r constraint).isPaginated = true) :
    Action.Sends Statement.IsLateral (r.directAssignment ctx.recorded parent constraint parents) := by
  rw [directAssignment]
  refine .ofExcept_bind fun related hrelated => ?_
  dsimp only
  split
  · exact .pure _
  · refine .bind ?_ fun rows => .pure _
    rw [show directQuery ctx.recorded parent related r constraint
        = directQuery ctx parent related r constraint from rfl, directRows,
      if_pos (hwindow related hrelated)]
    exact sends_limitedRows_of_error hfallback _ _

theorem limitedRows_fails (hfallback : ctx.fallback = .error) {query : Builder}
    (hquery : ∀ q, query.toQuery = .ok q → query.dialect.supportsLateral = false) (ids : List Value)
    (s : σ) : ∃ e, (limitedRows ctx r query ids).runFrom s = (.error e, s) := by
  rw [limitedRows]
  split
  · next hlateral =>
    cases hq : query.toQuery with
    | error e => exact ⟨e, rfl⟩
    | ok q =>
        rw [hquery q hq] at hlateral
        cases hlateral
  · rw [hfallback]
    exact ⟨_, rfl⟩

/-- A limit is refused where the dialect has no lateral reads. -/
theorem directAssignment_fails (hscoped : ctx.registry.ScopedByCalls) (hfallback : ctx.fallback = .error)
    (hlimit : calls.any Call.setsWindow = true)
    (hlateral : ctx.driver.dialect.supportsLateral = false) (hkeyed : ¬r.Keyless parents) (s : σ) :
    ∃ e, (r.directAssignment ctx parent (some (.ofCalls calls)) parents).runFrom s = (.error e, s) := by
  cases hrelated : r.relatedModel ctx.registry with
  | error e =>
      rw [directAssignment, hrelated]
      exact ⟨e, rfl⟩
  | ok related =>
      obtain ⟨name, hname⟩ := get_of_relatedModel hrelated
      obtain ⟨bodies, hbodies⟩ := hscoped name related hname
      have hdialect : ∀ q, (directQuery ctx parent related r (some (.ofCalls calls))).toQuery = .ok q →
          (directQuery ctx parent related r (some (.ofCalls calls))).dialect.supportsLateral = false := by
        intro q hq
        rw [Builder.dialect, (directQuery_carries hbodies (Builder.fault_of_toQuery hq)).dialect,
          hlateral]
      obtain ⟨e, he⟩ :=
        limitedRows_fails hfallback hdialect (parentKeys r.parentKey parents) s
      rw [directAssignment_of_paginated hrelated (isPaginated_constrained_of_any hlimit _)
        (isEmpty_of_not_keyless hkeyed), Action.runFrom_bind, he]
      exact ⟨e, rfl⟩

/-! ## Relations by way of a pivot table -/

theorem pivotAssignment_fails (hlimit : calls.any Call.setsWindow = true) (hkeyed : ¬r.Keyless parents)
    (s : σ) :
    ∃ e, (r.pivotAssignment ctx (some (.ofCalls calls)) parents).runFrom s = (.error e, s) := by
  rw [pivotAssignment]
  cases r.pivot with
  | none => exact ⟨_, rfl⟩
  | some pivot =>
      cases r.relatedModel ctx.registry with
      | error e => exact ⟨e, rfl⟩
      | ok related =>
          simp only [Action.ofExcept_ok_bind]
          rw [isEmpty_of_not_keyless hkeyed, isPaginated_constrained_of_any hlimit]
          exact ⟨_, rfl⟩

theorem sends_pivotAssignment_of_any {P : Statement → Prop} (hlimit : calls.any Call.setsWindow = true) :
    Action.Sends P (r.pivotAssignment ctx.recorded (some (.ofCalls calls)) parents) := by
  rw [pivotAssignment]
  split
  · exact .throw _
  · refine .ofExcept_bind fun related _ => ?_
    dsimp only
    split
    · exact .pure _
    · rw [if_pos (isPaginated_constrained_of_any hlimit _)]
      exact .throw _

/-! ## Reads for several ids -/

theorem isEmpty_of_two_le {ids : List Value} (h : 2 ≤ ids.length) : ids.isEmpty = false := by
  rw [List.isEmpty_eq_false_iff]
  rintro rfl
  cases h

theorem constrained_query_eq {model : Model} {bodies : List (String × List Call)}
    (h : model.ScopedBy bodies) (d : Dialect) (calls : List Call) :
    constrained (some (.ofCalls calls)) (model.query d)
      = (runCalls (Builder.new d model.table) (model.queryCalls bodies ++ calls)).groupWheres := by
  rw [runCalls_append, ← model.query_eq_runCalls bodies h]
  rfl

/-- The owners of a type are read together under a limit. -/
theorem ownersOfType_limitsTogether (hscoped : ctx.registry.ScopedByCalls)
    (hlimit : calls.any Call.setsWindow = true) {column tag : String}
    (hids : 2 ≤ (parentKeys r.parentKey (parents.filter fun p => tagOf? column p == some tag)).length)
    {s s' : σ × List Statement} {owners : List ((String × Key) × Record)}
    (hrun : (ownersOfType ctx.recorded r (some (.ofCalls calls)) column parents tag).runFrom s
      = (.ok owners, s')) :
    ∃ model, ctx.registry.resolveMorph tag = .ok model ∧ ∃ statement ∈ s'.2,
      statement.LimitsTogether ctx.driver.dialect model.primaryKey
        (parentKeys r.parentKey (parents.filter fun p => tagOf? column p == some tag)) := by
  have hempty := isEmpty_of_two_le hids
  cases hmodel : ctx.registry.resolveMorph tag with
  | error e =>
      rw [ownersOfType] at hrun
      dsimp only at hrun
      rw [hempty, show ctx.recorded.registry.resolveMorph tag = .error e from hmodel] at hrun
      cases hrun
  | ok model =>
      obtain ⟨name, hname⟩ := get_of_resolveMorph hmodel
      obtain ⟨bodies, hbodies⟩ := hscoped name model hname
      have hrecorded : ctx.recorded.registry.resolveMorph tag = .ok model := hmodel
      rw [ownersOfType_of_resolved hempty hrecorded] at hrun
      obtain ⟨rows, s₁, hget, hend⟩ := Action.runFrom_bind_eq_ok hrun
      cases hend
      obtain ⟨statement, hsql, hmem⟩ := Driver.mem_log_of_get hget
      refine ⟨model, rfl, statement, hmem, ?_⟩
      rw [constrained_query_eq hbodies] at hsql
      refine limitsTogether_of_toSql ?_ hids hsql
      rw [appliedCalls, List.any_append, List.any_append, hlimit, Bool.or_true, Bool.true_or]

/-- Where records name several owners of a type, loading them reads these together under the limit. -/
theorem ownersAssignment_limitsTogether (hscoped : ctx.registry.ScopedByCalls)
    (hlimit : calls.any Call.setsWindow = true) {s s' : σ × List Statement} {assign : Assignment}
    (hrun : (r.ownersAssignment ctx.recorded (some (.ofCalls calls)) parents).runFrom s
      = (.ok assign, s')) :
    ∃ column, r.typeColumn = some column ∧ ∀ tag,
      2 ≤ (parentKeys r.parentKey (parents.filter fun p => tagOf? column p == some tag)).length →
      ∃ model, ctx.registry.resolveMorph tag = .ok model ∧ ∃ statement ∈ s'.2,
        statement.LimitsTogether ctx.driver.dialect model.primaryKey
          (parentKeys r.parentKey (parents.filter fun p => tagOf? column p == some tag)) := by
  cases hcolumn : r.typeColumn with
  | none =>
      rw [ownersAssignment, hcolumn] at hrun
      cases hrun
  | some column =>
      refine ⟨column, rfl, fun tag hids => ?_⟩
      rw [ownersAssignment_of_typeColumn hcolumn] at hrun
      obtain ⟨owners, s₁, hall, hend⟩ := Action.runFrom_bind_eq_ok hrun
      cases hend
      obtain ⟨id, hid⟩ := List.exists_mem_of_length_pos (Nat.lt_of_lt_of_le Nat.zero_lt_two hids)
      obtain ⟨k, hk⟩ := exists_key?_of_mem_parentKeys hid
      obtain ⟨p, hp, -⟩ := any_hasKey_parentKeys.1 (List.any_eq_true.2 ⟨id, hid, hasKey_of_key? hk⟩)
      obtain ⟨hp, htag⟩ := List.mem_filter.1 hp
      obtain ⟨_, _, _, hone, hlog⟩ := Action.SendsAtMost.runFrom_mapM_eq_ok
        (fun tag _ => sendsAtMost_ownersOfType) hall tag (mem_tags.2 ⟨p, hp, eq_of_beq htag⟩)
      obtain ⟨model, hmodel, statement, hsent, htogether⟩ :=
        ownersOfType_limitsTogether hscoped hlimit hids hone
      exact ⟨model, hmodel, statement, hlog hsent, htogether⟩

/-- Related rows are read together under a limit that only a scope sets. -/
theorem directAssignment_limitsTogether (hscoped : ctx.registry.ScopedByCalls)
    {bodies : List (String × List Call)}
    (hrelated : r.relatedModel ctx.registry = .ok related) (hbodies : related.ScopedBy bodies)
    (hunset : calls.any Call.setsWindow = false)
    (hscope : (activeScopes (related.queryCalls bodies ++ calls)).flatten.any Call.setsWindow = true)
    (hids : 2 ≤ (parentKeys r.parentKey parents).length) {s s' : σ × List Statement}
    {assign : Assignment}
    (hrun : (r.directAssignment ctx.recorded parent (some (.ofCalls calls)) parents).runFrom s
      = (.ok assign, s')) :
    ∃ statement ∈ s'.2, statement.LimitsTogether ctx.driver.dialect r.relatedKey
      (parentKeys r.parentKey parents) := by
  have hempty := isEmpty_of_two_le hids
  have hnone : ∀ narrowing ∈ some calls, ∀ call ∈ narrowing, call.setsWindow = false := by
    rintro _ ⟨⟩ call hcall
    exact Bool.eq_false_iff.2 (List.any_eq_false.1 hunset call hcall)
  have hrecorded : r.relatedModel ctx.recorded.registry = .ok related := hrelated
  have hwindow : (directQuery ctx.recorded parent related r
      (some (.ofCalls calls))).isPaginated = false := isPaginated_directQuery hscoped hnone hrecorded
  rw [directAssignment_of_unpaginated hrecorded hwindow hempty] at hrun
  obtain ⟨rows, s₁, hget, hend⟩ := Action.runFrom_bind_eq_ok hrun
  cases hend
  obtain ⟨statement, hsql, hmem⟩ := Driver.mem_log_of_get hget
  refine ⟨statement, hmem, ?_⟩
  rw [directQuery_eq _ parent r calls hbodies] at hsql
  refine limitsTogether_of_toSql ?_ hids hsql
  have hactive : activeScopes (directCalls parent related r bodies calls)
      = activeScopes (related.queryCalls bodies ++ calls) := by
    rw [activeScopes, agenda_directCalls]
    rfl
  rw [appliedCalls, List.any_append, hactive, hscope, Bool.or_true]

/-! ## All of them -/

/-- **A limit in a constraint is one for every record, but for owners.** With the default fallback, the
    statements that are sent for the related rows of any other relation are lateral reads; by way of a
    pivot table, or in a dialect without lateral reads, loading fails and sends nothing. The owners of
    a type, if records name several of them, are read in one statement under the limit. So are related
    rows that are found by one of their columns, if only a scope sets the limit. -/
theorem limit_holds_for_each_except_owners (hscoped : ctx.registry.ScopedByCalls)
    (hfallback : ctx.fallback = .error) :
    (calls.any Call.setsWindow = true → r.kind ≠ .morphTo → ∀ s : σ,
      (∀ statement ∈ ((r.load ctx.recorded parent (some (.ofCalls calls))).on parents).sent s,
        statement.IsLateral ∧ ∀ d column ids, ¬statement.LimitsTogether d column ids)
      ∧ (¬r.Keyless parents → r.kind = .belongsToMany ∨ ctx.driver.dialect.supportsLateral = false →
        ∃ e, ((r.load ctx.recorded parent (some (.ofCalls calls))).on parents).runFrom (s, [])
          = (.error e, (s, []))))
    ∧ (calls.any Call.setsWindow = true → r.kind = .morphTo →
      ∀ (s : σ) (s' : σ × List Statement) (out : List Record),
        ((r.load ctx.recorded parent (some (.ofCalls calls))).on parents).runFrom (s, [])
          = (.ok out, s') →
        ∃ column, r.typeColumn = some column ∧ ∀ tag,
          2 ≤ (parentKeys r.parentKey (parents.filter fun p => tagOf? column p == some tag)).length →
          ∃ model, ctx.registry.resolveMorph tag = .ok model ∧ ∃ statement ∈ s'.2,
            statement.LimitsTogether ctx.driver.dialect model.primaryKey
              (parentKeys r.parentKey (parents.filter fun p => tagOf? column p == some tag)))
    ∧ (calls.any Call.setsWindow = false → r.kind ≠ .morphTo → r.kind ≠ .belongsToMany →
      ∀ (related : Model) (bodies : List (String × List Call)),
        r.relatedModel ctx.registry = .ok related → related.ScopedBy bodies →
        (activeScopes (related.queryCalls bodies ++ calls)).flatten.any Call.setsWindow = true →
        2 ≤ (parentKeys r.parentKey parents).length →
        ∀ (s : σ) (s' : σ × List Statement) (out : List Record),
          ((r.load ctx.recorded parent (some (.ofCalls calls))).on parents).runFrom (s, [])
            = (.ok out, s') →
          ∃ statement ∈ s'.2, statement.LimitsTogether ctx.driver.dialect r.relatedKey
            (parentKeys r.parentKey parents)) := by
  simp only [sent_on_load, runFrom_on_load_eq_error_iff]
  refine ⟨fun hlimit hmorph s => ?_, fun hlimit hmorph s s' out hrun => ?_,
    fun hunset hmorph hpivot related bodies hrelated hbodies hscope hids s s' out hrun => ?_⟩
  · by_cases hpivot : r.kind = .belongsToMany
    · rw [assignment_eq_pivotAssignment hpivot]
      refine ⟨fun statement hsent => ?_, fun hkeyed _ => pivotAssignment_fails hlimit hkeyed (s, [])⟩
      have hlateral : statement.IsLateral := (sends_pivotAssignment_of_any hlimit).of_mem_sent hsent
      exact ⟨hlateral, hlateral.not_limitsTogether⟩
    · rw [assignment_eq_directAssignment hmorph hpivot]
      refine ⟨fun statement hsent => ?_, fun hkeyed hrefused => ?_⟩
      · have hlateral := (sends_directAssignment_of_error hfallback fun related _ =>
          isPaginated_constrained_of_any hlimit _).of_mem_sent hsent
        exact ⟨hlateral, hlateral.not_limitsTogether⟩
      · have hrecorded : ctx.recorded.registry.ScopedByCalls := hscoped
        exact directAssignment_fails hrecorded hfallback hlimit (hrefused.resolve_left hpivot) hkeyed
          (s, [])
  · obtain ⟨assign, hrun, -⟩ := runFrom_on_load_eq_ok_iff.1 hrun
    rw [assignment_eq_ownersAssignment hmorph] at hrun
    exact ownersAssignment_limitsTogether hscoped hlimit hrun
  · obtain ⟨assign, hrun, -⟩ := runFrom_on_load_eq_ok_iff.1 hrun
    rw [assignment_eq_directAssignment hmorph hpivot] at hrun
    exact directAssignment_limitsTogether hscoped hrelated hbodies hunset hscope hids hrun

/-- Comments on two posts, with a limit of one on what they are on: one statement reads one post for
    both, and the second comment is left without its post. The comments on the two posts are refused
    under the same limit. -/
theorem limit_holds_for_each_except_owners_comments :
    ∃ (post comment : Model) (registry : ModelRegistry) (owners comments : Relation)
      (ctx : LoadContext Unit) (first second first' second' : Record) (statement : Statement),
      post = { name := "Post", table := "posts" } ∧ comment = { name := "Comment", table := "comments" }
      ∧ registry = [post, comment].foldl (fun reg m => reg.register m) {}
      ∧ owners = .morphTo "commentable" "commentable"
      ∧ comments = .morphMany "comments" "Comment" "commentable"
      ∧ ctx = { driver := { Driver.blank .sqlite with
                  query := fun _ => pure (.ofRows [.ofList [("id", .int 1)]]) }
                registry, fallback := .error }
      ∧ first = .ofRow comment
          (.ofList [("commentable_type", .text "Post"), ("commentable_id", .int 1)])
      ∧ second = .ofRow comment
          (.ofList [("commentable_type", .text "Post"), ("commentable_id", .int 2)])
      ∧ ((owners.load ctx.recorded comment (some (.ofCalls [.limit 1]))).on [first, second]).runFrom
          ((), []) = (.ok [first', second'], ((), [statement]))
      ∧ statement.LimitsTogether .sqlite "id" [.int 1, .int 2]
      ∧ statement.sql = "SELECT * FROM \"posts\" WHERE \"id\" IN (?, ?) ORDER BY \"id\" ASC LIMIT 1"
      ∧ (first'.related "commentable").map (·.keyOf? "id") = [some (.int 1)]
      ∧ second'.loaded? "commentable" = some (.one none)
      ∧ ∃ e, ((comments.load ctx.recorded post (some (.ofCalls [.limit 1]))).on
          [.ofRow post (.ofList [("id", .int 1)]), .ofRow post (.ofList [("id", .int 2)])]).runFrom
            ((), []) = (.error e, ((), [])) := by
  let post : Model := { name := "Post", table := "posts" }
  let comment : Model := { name := "Comment", table := "comments" }
  let registry : ModelRegistry := [post, comment].foldl (fun reg m => reg.register m) {}
  let owners : Relation := .morphTo "commentable" "commentable"
  let comments : Relation := .morphMany "comments" "Comment" "commentable"
  let ctx : LoadContext Unit :=
    { driver := { Driver.blank .sqlite with
        query := fun _ => pure (.ofRows [.ofList [("id", .int 1)]]) }
      registry, fallback := .error }
  let first : Record := .ofRow comment
    (.ofList [("commentable_type", .text "Post"), ("commentable_id", .int 1)])
  let second : Record := .ofRow comment
    (.ofList [("commentable_type", .text "Post"), ("commentable_id", .int 2)])
  obtain ⟨first', second', statement, hrun, hsql, hfirst, hsecond⟩ : ∃ first' second' statement,
      ((owners.load ctx.recorded comment (some (.ofCalls [.limit 1]))).on [first, second]).runFrom
          ((), []) = (.ok [first', second'], ((), [statement]))
        ∧ statement.sql = "SELECT * FROM \"posts\" WHERE \"id\" IN (?, ?) ORDER BY \"id\" ASC LIMIT 1"
        ∧ (first'.related "commentable").map (·.keyOf? "id") = [some (.int 1)]
        ∧ second'.loaded? "commentable" = some (.one none) := by
    subst second first ctx comments owners registry comment post
    refine ⟨_, _, _, rfl, ?_, ?_, ?_⟩
    · decide +kernel
    · rfl
    · rfl
  have hscoped : registry.ScopedByCalls := ModelRegistry.scopedByCalls_of_scopes_nil (by decide)
  obtain ⟨-, howners, -⟩ :=
    @limit_holds_for_each_except_owners Unit ctx comment owners [.limit 1] [first, second] hscoped rfl
  obtain ⟨column, hcolumn, htogether⟩ := howners rfl rfl () _ _ hrun
  cases hcolumn
  obtain ⟨model, hmodel, sent, hsent, hlimits⟩ := htogether "Post" (by decide)
  cases hmodel
  rw [List.mem_singleton.1 hsent] at hlimits
  obtain ⟨hrefused, -⟩ :=
    @limit_holds_for_each_except_owners Unit ctx post comments [.limit 1]
      [.ofRow post (.ofList [("id", .int 1)]), .ofRow post (.ofList [("id", .int 2)])] hscoped rfl
  exact ⟨post, comment, registry, owners, comments, ctx, first, second, first', second', statement, rfl,
    rfl, rfl, rfl, rfl, rfl, rfl, rfl, hrun, hlimits, hsql, hfirst, hsecond,
    (hrefused rfl (by decide) ()).2 (by decide) (.inr rfl)⟩

end Relation

end QueryKit
