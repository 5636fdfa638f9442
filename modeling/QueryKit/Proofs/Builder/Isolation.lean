import QueryKit.Proofs.Builder.Scopes
import QueryKit.Proofs.Filter.Mixing

set_option autoImplicit false

/-! # Isolation of scopes

The filter of a query consists of the conditions of the calls and of those of the active scopes
(`queryFilter`). Neither side widens the other, wherever OR occurs. The scopes stand on one side
together: each of them narrows the query only as far as they do one after another. -/

namespace QueryKit

/-! ## Conditions of a query -/

/-- The conditions that the active scopes add, in the order of their registration. -/
def scopedClauses (calls : List Call) : Filter :=
  (activeScopes calls).flatMap clausesOf

/-- The conditions of a query: those of its calls and those of its scopes, kept apart. -/
def queryFilter (calls : List Call) : Filter :=
  Filter.isolate (clausesOf calls) (scopedClauses calls)

theorem Filter.grouped_full (k : Connective) {f : Filter} (h : ∀ c ∈ f, c.Full) :
    ∀ c ∈ Filter.grouped k f, c.Full := by
  cases f with
  | nil => exact h
  | cons c rest =>
      intro g hg
      rw [Filter.grouped, List.mem_singleton] at hg
      subst hg
      exact .group k _ (List.cons_ne_nil c rest) h

theorem mem_clausesOf {calls : List Call} {c : Clause} (h : c ∈ clausesOf calls) :
    ∃ call ∈ calls, c ∈ call.clauses := by
  induction calls with
  | nil => cases h
  | cons call rest ih =>
      rw [clausesOf, List.mem_append] at h
      rcases h with h | h
      · exact ⟨call, List.mem_cons_self .., h⟩
      · obtain ⟨other, hother, hc⟩ := ih h
        exact ⟨other, List.mem_cons_of_mem _ hother, hc⟩

/-- No call adds an empty group. -/
theorem Call.clauses_full (call : Call) : ∀ c ∈ call.clauses, c.Full := by
  induction call using Call.body_induction with
  | step call ih =>
      cases call with
      | whereGroup k body =>
        simp only [clauses]
        apply Filter.grouped_full
        intro c hc
        obtain ⟨inner, hinner, hc⟩ := mem_clausesOf hc
        exact ih inner hinner c hc
      | compare | oneOf | isNull | between | whereRaw | compareColumns =>
        intro c hc
        rw [List.mem_singleton.1 hc]
        exact .leaf _ _
      | _ => exact fun c hc => absurd hc List.not_mem_nil

theorem clausesOf_full (calls : List Call) : ∀ c ∈ clausesOf calls, c.Full := by
  intro c hc
  obtain ⟨call, -, hc⟩ := mem_clausesOf hc
  exact call.clauses_full c hc

theorem clausesOf_append (calls others : List Call) :
    clausesOf (calls ++ others) = clausesOf calls ++ clausesOf others := by
  induction calls with
  | nil => rfl
  | cons call rest ih => rw [List.cons_append, clausesOf, clausesOf, ih, List.append_assoc]

theorem clausesOf_flatten (bodies : List (List Call)) :
    clausesOf bodies.flatten = bodies.flatMap clausesOf := by
  induction bodies with
  | nil => rfl
  | cons body rest ih => rw [List.flatten_cons, clausesOf_append, ih, List.flatMap_cons]

theorem clausesOf_appliedCalls (calls : List Call) :
    clausesOf (appliedCalls calls) = clausesOf calls ++ scopedClauses calls := by
  rw [appliedCalls, clausesOf_append, clausesOf_flatten]
  rfl

namespace Draft

/-- The draft holds these conditions, in this dialect. -/
structure Filtered (d : Dialect) (calls : List Call) (draft : Draft) : Prop where
  dialect : draft.dialect = d
  wheres : draft.wheres = (clausesOf calls).toWheres d

theorem Filtered.kept (d : Dialect) : Kept (Filtered d) where
  effect := by
    intro calls call b _ h
    refine ⟨(call.effect_sameFrame b).dialect.trans h.dialect, ?_⟩
    rw [call.effect_wheres b, h.dialect, h.wheres, clausesOf_append, Filter.toWheres_append, clausesOf,
      clausesOf, List.append_nil]
  mark := fun _ _ _ _ h => ⟨h.dialect, h.wheres⟩

/-- On a draft, the conditions are kept apart as filters are. -/
theorem wheres_isolate (d : Draft) (own others : Filter)
    (h : d.wheres = Filter.toWheres d.dialect (own ++ others)) :
    (d.isolate own.length).wheres = (Filter.isolate own others).toWheres d.dialect := by
  have hor : d.hasOr = Filter.hasOr (own ++ others) := by
    rw [hasOr, h, Filter.hasOr_toWheres]
  rw [isolate, Filter.isolate, hor, h, Filter.length_toWheres]
  by_cases hown : own = []
  · simp [hown, h]
  by_cases hothers : others = []
  · simp [hothers, h]
  cases hmixed : Filter.hasOr (own ++ others) with
  | false => simp [h]
  | true =>
      -- there are conditions on both sides, and OR to mix them
      have hpos : 0 < own.length := List.length_pos_of_ne_nil hown
      have hlt : own.length < (own ++ others).length := by
        have := List.length_pos_of_ne_nil hothers
        rw [List.length_append]
        omega
      rw [if_pos (by simp only [hpos, hlt, decide_true, Bool.and_true]),
        if_neg (by simp [hown, hothers]), splitWheres]
      show [Where.mk .and (Sql.group d.dialect (d.wheres.take own.length)),
        Where.mk .and (Sql.group d.dialect (d.wheres.drop own.length))] = _
      rw [h, Filter.toWheres_append, List.take_left' (Filter.length_toWheres _ own),
        List.drop_left' (Filter.length_toWheres _ own)]
      simp [Filter.toWheres]

@[simp] theorem wheres_snapshot (d : Draft) : d.snapshot.wheres = d.wheres := by
  simp only [snapshot]
  split
  · exact d.ensureKeyOrder_wheres
  · rfl

end Draft

section Query

variable {d : Dialect} {table : String} {calls : List Call} {q : Query}

/-- The conditions of a query are those of its calls and of its active scopes. -/
theorem wheres_toQuery (h : (runCalls (Builder.new d table) calls).toQuery = .ok q) :
    q.wheres = (queryFilter calls).toWheres d := by
  obtain ⟨own, all, hown, hall, rfl⟩ := (Draft.Filtered.kept d).toQuery ⟨rfl, rfl⟩ h
  have hwheres := hall.wheres
  rw [clausesOf_appliedCalls, ← hall.dialect] at hwheres
  have hisolate := all.wheres_isolate _ _ hwheres
  rw [Draft.wheres_snapshot, hown.wheres, Filter.length_toWheres, hisolate, hall.dialect]
  rfl

/-- **Scopes and calls do not widen each other.** The filter of a query is true exactly if the
    conditions of the calls are true and those of the active scopes are. -/
theorem calls_and_scopes_isolated (h : (runCalls (Builder.new d table) calls).toQuery = .ok q) :
    q.wheres = (queryFilter calls).toWheres d
      ∧ (queryFilter calls).conditions
          = (clausesOf calls).conditions ++ (scopedClauses calls).conditions
      ∧ ∀ ρ : Condition → Bool, (queryFilter calls).holds ρ
          = ((clausesOf calls).holds ρ && (scopedClauses calls).holds ρ) :=
  ⟨wheres_toQuery h, Filter.conditions_isolate _ _, fun ρ => Filter.holds_isolate ρ _ _⟩

/-- A caller with alternatives beside a scope with alternatives. -/
theorem calls_and_scopes_isolated_alternatives :
    ∃ (calls : List Call) (q : Query),
      calls =
        [.scope "tenant" [.compare .and "tenant" "=" (.int 1), .isNull .or "tenant" false],
          .compare .and "name" "=" (.text "a"), .compare .or "name" "=" (.text "b")]
      ∧ (runCalls (Builder.new .postgres "t") calls).toQuery = .ok q
      ∧ q.wheres.length = 2
      ∧ ∀ ρ : Condition → Bool, (queryFilter calls).holds ρ
          = ((clausesOf calls).holds ρ && (scopedClauses calls).holds ρ) := by
  have h : (runCalls (Builder.new .postgres "t")
      [.scope "tenant" [.compare .and "tenant" "=" (.int 1), .isNull .or "tenant" false],
        .compare .and "name" "=" (.text "a"), .compare .or "name" "=" (.text "b")]).toQuery
      = .ok _ := rfl
  exact ⟨_, _, rfl, h, rfl, (calls_and_scopes_isolated h).2.2⟩

/-- **Scopes and calls do not widen each other, but scopes widen each other where OR mixes them.** The
    filter of a query is true only if the conditions of all active scopes are, one after another. It
    is true only if those of each scope are, whenever they cannot be mixed by OR; and if no condition
    is repeated, only then. -/
theorem scopes_narrow_iff_unmixed (h : (runCalls (Builder.new d table) calls).toQuery = .ok q) :
    q.wheres = (queryFilter calls).toWheres d
      ∧ (∀ ρ : Condition → Bool, (queryFilter calls).holds ρ = true →
          (scopedClauses calls).holds ρ = true)
      ∧ (Filter.Unmixed ((activeScopes calls).map clausesOf) →
          ∀ ρ : Condition → Bool, (queryFilter calls).holds ρ = true →
            ∀ body ∈ activeScopes calls, (clausesOf body).holds ρ = true)
      ∧ ((queryFilter calls).conditions.Nodup →
          (∀ ρ : Condition → Bool, (queryFilter calls).holds ρ = true →
            ∀ body ∈ activeScopes calls, (clausesOf body).holds ρ = true) →
          Filter.Unmixed ((activeScopes calls).map clausesOf)) := by
  have hscoped : ((activeScopes calls).map clausesOf).flatten = scopedClauses calls :=
    List.flatMap_def.symm
  have hall : ∀ ρ : Condition → Bool, (queryFilter calls).holds ρ = true →
      (scopedClauses calls).holds ρ = true := by
    intro ρ hρ
    rw [queryFilter, Filter.holds_isolate, Bool.and_eq_true] at hρ
    exact hρ.2
  refine ⟨wheres_toQuery h, hall, ?_, ?_⟩
  · intro hunmixed ρ hρ body hbody
    have hblock := hall ρ hρ
    rw [← hscoped] at hblock
    exact hunmixed.holds_each ρ hblock _ (List.mem_map_of_mem hbody)
  · intro hnodup heach
    by_contra hmixed
    rw [queryFilter, Filter.conditions_isolate, List.nodup_append'] at hnodup
    obtain ⟨-, hscopes, hdisjoint⟩ := hnodup
    rw [← hscoped] at hscopes hdisjoint
    have hfull : ∀ c ∈ ((activeScopes calls).map clausesOf).flatten, c.Full := by
      rw [hscoped, scopedClauses, ← clausesOf_flatten]
      exact clausesOf_full _
    obtain ⟨xs, hxs, hblock, f, hf, hfalse⟩ :=
      Filter.exists_holds_not_each hmixed hfull hscopes
    obtain ⟨body, hbody, rfl⟩ := List.mem_map.1 hf
    -- the conditions of the calls stay true where some of the scopes are false
    have hown : (clausesOf calls).holds (Filter.outside xs) = true :=
      Filter.holds_of_conditions _ _ fun x hx =>
        Filter.outside_of_notMem fun hx' => hdisjoint hx (hxs x hx')
    have hfilter : (queryFilter calls).holds (Filter.outside xs) = true := by
      rw [queryFilter, Filter.holds_isolate, hown, ← hscoped, hblock, Bool.true_and]
    rw [heach _ hfilter body hbody] at hfalse
    exact Bool.noConfusion hfalse

/-- Two scopes without alternatives. -/
theorem scopes_narrow_iff_unmixed_conjunctions :
    ∃ (calls : List Call) (q : Query),
      calls =
        [.scope "tenant" [.compare .and "tenant" "=" (.int 1)],
          .scope "visible" [.compare .and "public" "=" (.bool true), .isNull .and "gone" false]]
      ∧ (runCalls (Builder.new .postgres "t") calls).toQuery = .ok q
      ∧ Filter.Unmixed ((activeScopes calls).map clausesOf)
      ∧ ∀ ρ : Condition → Bool, (queryFilter calls).holds ρ = true →
          ∀ body ∈ activeScopes calls, (clausesOf body).holds ρ = true := by
  have h : (runCalls (Builder.new .postgres "t")
      [.scope "tenant" [.compare .and "tenant" "=" (.int 1)],
        .scope "visible" [.compare .and "public" "=" (.bool true), .isNull .and "gone" false]]).toQuery
      = .ok _ := rfl
  have hunmixed : Filter.Unmixed
      [[.leaf .and (.compare "tenant" "=" (.int 1))],
        [.leaf .and (.compare "public" "=" (.bool true)), .leaf .and (.isNull "gone" false)]] :=
    Or.inr (by decide)
  exact ⟨_, _, rfl, h, hunmixed, (scopes_narrow_iff_unmixed h).2.2.1 hunmixed⟩

/-- A scope with alternatives opens the scope before it. -/
theorem scope_opens_scope :
    ∃ (calls : List Call) (q : Query) (ρ : Condition → Bool),
      calls =
        [.scope "tenant" [.compare .and "tenant" "=" (.int 1)],
          .scope "visible" [.compare .and "public" "=" (.bool true),
            .compare .or "owner" "=" (.int 2)]]
      ∧ (runCalls (Builder.new .postgres "t") calls).toQuery = .ok q
      ∧ q.wheres = (queryFilter calls).toWheres .postgres
      ∧ (queryFilter calls).holds ρ = true
      ∧ ∃ body ∈ activeScopes calls, (clausesOf body).holds ρ = false := by
  refine ⟨_, _, fun c => c.column? == some "owner", rfl, rfl, rfl, rfl, ?_⟩
  exact ⟨[.compare .and "tenant" "=" (.int 1)], List.mem_cons_self .., rfl⟩

end Query

end QueryKit
