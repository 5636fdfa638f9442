import QueryKit.Proofs.Builder.Carried
import QueryKit.Proofs.Driver.Action

set_option autoImplicit false

/-! # Lookups by key

A lookup should read the one row with a key among the rows that the builder describes. Its condition
on the key stands behind the conditions of the calls, in one list with them, and apart from those of
the scopes. As long as no OR stands in that list, it narrows them all. Behind an OR it narrows only
the last alternative, and rows with other keys are read through the others (`lookup_narrows_iff`). -/

namespace QueryKit

namespace Filter

variable (ρ : Condition → Bool) {f : Filter} {key : Condition}

/-- Behind conditions without alternatives, one more narrows all of them. -/
theorem holds_concat_of_forall_and (h : ∀ c ∈ f.tail, c.connective = .and) :
    holds ρ (f ++ [.leaf .and key]) = (f.holds ρ && ρ key) := by
  have hconcat : ∀ c ∈ (f ++ [Clause.leaf .and key]).tail, c.connective = .and := by
    cases f with
    | nil => exact fun c hc => absurd hc List.not_mem_nil
    | cons first rest =>
        intro c hc
        rcases List.mem_append.1 hc with hc | hc
        · exact h c hc
        · rw [List.mem_singleton.1 hc]
          rfl
  rw [holds_of_forall_and ρ _ hconcat, holds_of_forall_and ρ f h, List.all_append, List.all_cons,
    List.all_nil, Bool.and_true, Clause.truth_leaf]

/-- Behind alternatives, a condition narrows only the last of them. -/
theorem holds_concat_of_or (before : Filter) (c : Clause) (behind : Filter) (hbefore : before ≠ [])
    (hc : c.connective = .or) :
    holds ρ (before ++ c :: behind ++ [.leaf .and key])
      = (before.holds ρ || holds ρ (c :: behind ++ [.leaf .and key])) := by
  rw [List.append_assoc, List.cons_append, holds_append_or ρ before c _ hbefore hc]

/-- A condition that narrows others beside it and is not among them has no alternatives before it. -/
theorem forall_and_of_narrows {others : Filter} (hf : key ∉ f.conditions)
    (hothers : key ∉ others.conditions)
    (h : ∀ ρ, holds ρ (f ++ [.leaf .and key]) = true → others.holds ρ = true → ρ key = true) :
    ∀ c ∈ f.tail, c.connective = .and := by
  by_contra hor
  obtain ⟨before, c, behind, hbefore, hc, rfl⟩ := exists_split_of_or hor
  -- without the key, the alternatives before the OR are true
  have hopen : holds (outside [key]) (before ++ c :: behind ++ [.leaf .and key]) = true := by
    rw [conditions_append, List.mem_append, not_or] at hf
    rw [holds_concat_of_or _ before c behind hbefore hc, holds_outside_singleton hf.1, Bool.true_or]
  have hkey := h _ hopen (holds_outside_singleton hothers)
  rw [outside_of_mem (List.mem_singleton_self key)] at hkey
  exact Bool.noConfusion hkey

end Filter

/-! ## Statements of lookups -/

/-- The calls of a lookup. -/
def lookupCalls (calls : List Call) (column : String) (id : Value) : List Call :=
  calls ++ [.compare .and column "=" id, .limit 1]

section

variable {column : String} {id : Value} (calls : List Call)

theorem activeScopes_lookupCalls : activeScopes (lookupCalls calls column id) = activeScopes calls := by
  rw [activeScopes, lookupCalls, List.foldl_append]
  rfl

theorem faultOf?_lookupCalls :
    faultOf? (appliedCalls (lookupCalls calls column id)) = none
      ↔ faultOf? (appliedCalls calls) = none ∧ identifierFault? column = none := by
  rw [appliedCalls, activeScopes_lookupCalls, lookupCalls, appliedCalls]
  simp only [faultOf?_append, Option.or_eq_none_iff]
  show (_ ∧ ((none : Option Fault).or (identifierFault? column)).or (none.or none) = none) ∧ _ ↔ _
  simp only [Option.none_or, Option.or_none]
  exact and_right_comm

/-- The condition on the key stands with those of the calls. -/
theorem queryFilter_lookupCalls (hid : id.isNull = false) :
    queryFilter (lookupCalls calls column id)
      = Filter.isolate (clausesOf calls ++ [.leaf .and (.compare column "=" id)])
        (scopedClauses calls) := by
  have hclauses : clausesOf (lookupCalls calls column id)
      = clausesOf calls ++ [.leaf .and (Builder.comparison column "=" id)] := by
    rw [lookupCalls, clausesOf_append]
    rfl
  have hkey : Builder.comparison column "=" id = .compare column "=" id := by
    rw [Builder.comparison, hid]
    rfl
  rw [queryFilter, hclauses, hkey, scopedClauses, activeScopes_lookupCalls, scopedClauses]

variable {σ : Type} (driver : Driver σ) (s : σ) (d : Dialect) (table : String)

/-- A lookup is the read that its calls describe. -/
theorem sent_find :
    ((runCalls (Builder.new d table) calls).find driver.recorded id).sent s
      = match (runCalls (Builder.new d table) (lookupCalls calls
          (runCalls (Builder.new d table) calls).draft.primaryKey id)).toQuery with
        | .ok q => [Sql.compileSelect d q]
        | .error _ => [] := by
  have hread := toSql_runCalls d table (lookupCalls calls
    (runCalls (Builder.new d table) calls).draft.primaryKey id)
  rw [Builder.find, Builder.first, Action.sent_bind_pure, driver.sent_get]
  rw [lookupCalls, runCalls_append] at hread ⊢
  rw [show (((runCalls (Builder.new d table) calls).whereEq
    (runCalls (Builder.new d table) calls).draft.primaryKey id).limit 1).toSql = _ from hread]
  cases Builder.toQuery _ <;> rfl

end

/-- **A lookup narrows the rows to its key exactly if no OR stands behind the first condition of the
    calls.** It sends one statement, unless the calls or the name of the key are at fault. There the
    condition on the key stands behind those of the calls, and apart from those of the scopes. Without
    OR it is true exactly if the calls, the scopes and the key are. Behind an OR the key narrows only
    the last alternative: if the calls have no such condition themselves, rows with other keys are
    read. -/
theorem lookup_narrows_iff {σ : Type} (driver : Driver σ) (s : σ) (d : Dialect) (table : String)
    (calls : List Call) {id : Value} (hid : id.isNull = false) :
    let b := runCalls (Builder.new d table) calls
    let key := Condition.compare b.draft.primaryKey "=" id
    let own := clausesOf calls
    let scopes := scopedClauses calls
    let f := Filter.isolate (own ++ [.leaf .and key]) scopes
    (faultOf? (appliedCalls calls) = none ∧ identifierFault? b.draft.primaryKey = none →
        ∃ q : Query, (b.find driver.recorded id).sent s = [Sql.compileSelect d q]
          ∧ q.wheres = f.toWheres d)
      ∧ (¬(faultOf? (appliedCalls calls) = none ∧ identifierFault? b.draft.primaryKey = none) →
        (b.find driver.recorded id).sent s = [])
      ∧ f.conditions = own.conditions ++ key :: scopes.conditions
      ∧ ((∀ c ∈ own.tail, c.connective = .and) →
        ∀ ρ, f.holds ρ = (own.holds ρ && scopes.holds ρ && ρ key))
      ∧ (∀ (before : Filter) c behind, own = before ++ c :: behind → before ≠ [] → c.connective = .or →
        ∀ ρ, f.holds ρ = ((before.holds ρ || Filter.holds ρ (c :: behind ++ [.leaf .and key]))
          && scopes.holds ρ))
      ∧ (key ∉ own.conditions → key ∉ scopes.conditions →
        (∀ ρ, f.holds ρ = true → ρ key = true) → ∀ c ∈ own.tail, c.connective = .and) := by
  intro b key own scopes f
  have hholds (ρ : Condition → Bool) :
      f.holds ρ = (Filter.holds ρ (own ++ [.leaf .and key]) && scopes.holds ρ) :=
    Filter.holds_isolate ρ _ _
  have hfault : faultOf? (appliedCalls (lookupCalls calls b.draft.primaryKey id)) = none
      ↔ faultOf? (appliedCalls calls) = none ∧ identifierFault? b.draft.primaryKey = none :=
    faultOf?_lookupCalls calls
  have hsent : (b.find driver.recorded id).sent s = match (runCalls (Builder.new d table)
      (lookupCalls calls b.draft.primaryKey id)).toQuery with
    | .ok q => [Sql.compileSelect d q]
    | .error _ => [] := sent_find calls driver s d table
  refine ⟨fun hnone => ?_, fun hsome => ?_, ?_, fun hand ρ => ?_, fun before c behind h hne hor ρ => ?_,
    fun hown hscoped hkeyed => ?_⟩
  · have hquery : (runCalls (Builder.new d table) (lookupCalls calls b.draft.primaryKey id)).toQuery
        = .ok (queryOf d table (lookupCalls calls b.draft.primaryKey id)) :=
      toQuery_eq_ok_iff.2 ⟨hfault.2 hnone, rfl⟩
    rw [hquery] at hsent
    exact ⟨_, hsent, (wheres_toQuery hquery).trans (by rw [queryFilter_lookupCalls calls hid])⟩
  · obtain ⟨fault, hfaulty⟩ := Option.ne_none_iff_exists'.1 fun hnone => hsome (hfault.1 hnone)
    rw [hsent, toQuery_runCalls, hfaulty]
  · rw [Filter.conditions_isolate, Filter.conditions_append, List.append_assoc]
    rfl
  · rw [hholds, Filter.holds_concat_of_forall_and ρ hand, Bool.and_right_comm]
  · rw [hholds, h, Filter.holds_concat_of_or ρ before c behind hne hor]
  · refine Filter.forall_and_of_narrows hown hscoped fun ρ hcalls hscopes => hkeyed ρ ?_
    rw [hholds, hcalls, hscopes]
    rfl

/-- The user with key 5 among those with alternatives: users of the first alternative are read whatever
    their key is. -/
theorem lookup_narrows_iff_alternatives :
    ∃ (calls : List Call) (b : Builder) (q : Query) (f : Filter) (ρ : Condition → Bool),
      calls = [.compare .and "a" "=" (.int 1), .compare .or "b" "=" (.int 2)]
      ∧ b = runCalls (Builder.new .postgres "users") calls
      ∧ (b.find (Driver.blank .postgres).recorded (.int 5)).sent () = [Sql.compileSelect .postgres q]
      ∧ q.wheres = f.toWheres .postgres
      ∧ f = clausesOf calls ++ [.leaf .and (.compare "id" "=" (.int 5))]
      ∧ f.holds ρ = true ∧ ρ (.compare "id" "=" (.int 5)) = false := by
  let calls : List Call := [.compare .and "a" "=" (.int 1), .compare .or "b" "=" (.int 2)]
  have hid : (Value.int 5).isNull = false := rfl
  obtain ⟨hsent, -, -, -, halternatives, -⟩ :=
    lookup_narrows_iff (Driver.blank .postgres) () .postgres "users" calls hid
  obtain ⟨q, hone, hwheres⟩ := hsent (by decide +kernel)
  let ρ : Condition → Bool := fun c => c.column? == some "a"
  refine ⟨calls, _, q, _, ρ, rfl, rfl, hone, hwheres, rfl, ?_, rfl⟩
  exact halternatives [.leaf .and (.compare "a" "=" (.int 1))]
    (.leaf .or (.compare "b" "=" (.int 2))) [] rfl (List.cons_ne_nil _ _) rfl ρ

end QueryKit
