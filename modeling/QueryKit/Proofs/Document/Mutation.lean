import QueryKit.Proofs.Document.Filter
import QueryKit.Proofs.Query.Feature

set_option autoImplicit false

/-! # What document mutations carry

The command of an update or a delete has a filter and, for an update, the new values. A query with
joins is refused, as is a query without a filter. Every other feature of the query is dropped, though
reads either carry it or refuse it. -/

namespace QueryKit

/-! ## Filters without features -/

namespace Document

theorem filterOf_without {q : Query} {f : Feature} (h : f ≠ .wheres) :
    filterOf (q.without f) = filterOf q := by
  cases f with
  | wheres => exact absurd rfl h
  | _ => rfl

/-- A filter has tests if there are conditions. -/
theorem eq_nil_of_filterOf_nil {q : Query} (h : filterOf q = .ok []) : q.wheres = [] := by
  obtain ⟨tests, htests, hnil⟩ := filterOf_eq_ok_iff.1 h
  have hflatten := flatten_alternatives tests
  rw [← hnil, List.flatten_nil] at hflatten
  have hlength := htests.length_eq
  rw [List.map_eq_nil_iff.1 hflatten.symm] at hlength
  exact List.eq_nil_of_length_eq_zero hlength

/-- Without its conditions a query has another filter. -/
theorem filterOf_without_wheres {q : Query} {f : Filter} (h : filterOf q = .ok f)
    (hhas : q.Has .wheres) : filterOf (q.without .wheres) ≠ .ok f := by
  intro hwithout
  have hnil : f = [] := (Except.ok.inj hwithout).symm
  exact hhas (eq_nil_of_filterOf_nil (hnil ▸ h))

/-! ## Reads -/

theorem refuseIf_eq_ok_iff {found : Bool} {construct : Construct} {u : Unit} :
    refuseIf found construct = .ok u ↔ found = false := by
  cases found <;> simp [refuseIf, unsupported]

/-- The features that no read can carry. -/
def unreadable : List Feature := [.distinct, .groups, .havings, .lock]

theorem mem_unreadable_iff {f : Feature} :
    f ∈ unreadable ↔ f = .distinct ∨ f = .groups ∨ f = .havings ∨ f = .lock := by
  simp [unreadable]

theorem compileFind_refused {q : Query} {f : Feature} (hf : f ∈ unreadable) (hhas : q.Has f) :
    ∃ construct, compileFind q = unsupported construct := by
  rw [compileFind]
  simp only [refuseIf]
  split
  · exact ⟨_, rfl⟩
  split
  · exact ⟨_, rfl⟩
  split
  · exact ⟨_, rfl⟩
  split
  · exact ⟨_, rfl⟩
  -- behind all checks, the query has none of the features
  rcases mem_unreadable_iff.1 hf with rfl | rfl | rfl | rfl <;> simp_all [Query.Has]

/-- What the command of a read has of its query. -/
structure Found (q : Query) (c : Command) : Prop where
  refused : ∀ f ∈ unreadable, ¬ q.Has f
  filter : filterOf q = .ok c.filter
  sort : q.orders.mapM (sortKey q) = .ok c.options.sort
  lookups : q.joins.mapM (lookupOf q) = .ok c.options.lookups
  limit : c.options.limit = q.limit
  skip : c.options.skip = q.offset

theorem found_of_compileFind {q : Query} {c : Command} (h : compileFind q = .ok c) : Found q c := by
  simp only [compileFind, bind_eq_ok_iff, refuseIf_eq_ok_iff, Except.ok.injEq] at h
  obtain ⟨-, hdistinct, -, hgroups, -, hhavings, -, hlock, _, -, sort, hsort, lookups, hlookups, filter,
    hfilter, rfl⟩ := h
  refine ⟨?_, hfilter, hsort, hlookups, rfl, rfl⟩
  intro f hf
  rcases mem_unreadable_iff.1 hf with rfl | rfl | rfl | rfl <;> simp_all [Query.Has]

/-- Without a feature that it asks for, a read has another command. -/
theorem Found.not_has {q : Query} {c : Command} (h : Found q c) {f : Feature}
    (hwithout : Found (q.without f) c) : ¬ q.Has f := by
  intro hhas
  cases f with
  | wheres => exact filterOf_without_wheres h.filter hhas hwithout.filter
  | joins =>
    have hlength := (mapM_eq_ok_iff.1 h.lookups).length_eq
    rw [← (mapM_eq_ok_iff.1 hwithout.lookups).length_eq] at hlength
    exact hhas (List.eq_nil_of_length_eq_zero hlength)
  | orders =>
    have hlength := (mapM_eq_ok_iff.1 h.sort).length_eq
    rw [← (mapM_eq_ok_iff.1 hwithout.sort).length_eq] at hlength
    exact hhas (List.eq_nil_of_length_eq_zero hlength)
  | limit => exact hhas (h.limit.symm.trans hwithout.limit)
  | offset => exact hhas (h.skip.symm.trans hwithout.skip)
  | distinct | groups | havings | lock => exact h.refused _ (by decide) hhas

/-- **Reads drop nothing.** -/
theorem not_drops_compileFind {q : Query} {c : Command} (h : compileFind q = .ok c) (f : Feature) :
    ¬ q.Drops compileFind f := by
  rintro ⟨hhas, hsame⟩
  exact (found_of_compileFind h).not_has (found_of_compileFind (hsame.trans h)) hhas

end Document

/-! ## Mutations -/

namespace Mutation

open Document

/-- The command of a mutation. -/
def toCommand (q : Query) : Mutation → Except Error Command
  | .update values => compileUpdate q values
  | .delete => compileDelete q

/-- The command of a mutation under a filter. -/
def command (q : Query) (f : Document.Filter) : Mutation → Command
  | .update values =>
    { collection := q.table
      operation := .updateMany
      filter := f
      payload := some (single "$set" (documentOf q values)) }
  | .delete => { collection := q.table, operation := .deleteMany, filter := f }

/-- A mutation has the command under the filter of its query, if it sets something and the query has no
    joins. -/
theorem toCommand_eq_ok_iff {q : Query} {m : Mutation} {c : Command} :
    m.toCommand q = .ok c
      ↔ m.isEmpty = false ∧ ¬ q.Has .joins ∧ ∃ f, filterOf q = .ok f ∧ c = m.command q f := by
  cases m with
  | update values =>
    cases hvalues : values.isEmpty <;>
      simp [toCommand, compileUpdate, isEmpty, command, hvalues, bind_eq_ok_iff, refuseIf_eq_ok_iff,
        Query.Has, eq_comm (a := c)]
  | delete =>
    simp [toCommand, compileDelete, isEmpty, command, bind_eq_ok_iff, refuseIf_eq_ok_iff, Query.Has,
      eq_comm (a := c)]

/-- Joins are refused. -/
theorem toCommand_of_joins {q : Query} {m : Mutation} (hset : m.isEmpty = false)
    (hjoins : q.Has .joins) : ∃ construct, m.toCommand q = unsupported construct := by
  have hfound : (!q.joins.isEmpty) = true := by simpa [Query.Has] using hjoins
  cases m with
  | update values =>
    have hvalues : values.isEmpty = false := hset
    exact ⟨.joinInUpdate, by rw [toCommand, compileUpdate, hvalues, hfound]; rfl⟩
  | delete =>
    exact ⟨.joinInDelete, by rw [toCommand, compileDelete, hfound]; rfl⟩

theorem command_without (q : Query) (m : Mutation) (f : Document.Filter) (g : Feature) :
    m.command (q.without g) f = m.command q f := by
  cases m <;> cases g <;> rfl

theorem filter_command (q : Query) (m : Mutation) (f : Document.Filter) :
    (m.command q f).filter = f := by
  cases m <;> rfl

theorem drops_toCommand_iff {q : Query} {m : Mutation} {c : Command} (h : m.toCommand q = .ok c)
    (f : Feature) : q.Drops m.toCommand f ↔ q.Has f ∧ f ≠ .wheres := by
  refine and_congr_right fun hhas => ?_
  obtain ⟨hset, hjoins, filter, hfilter, rfl⟩ := toCommand_eq_ok_iff.1 h
  show m.toCommand (q.without f) = m.toCommand q ↔ _
  rw [h, toCommand_eq_ok_iff]
  by_cases hwheres : f = .wheres
  · subst hwheres
    refine iff_of_false ?_ fun hne => hne rfl
    rintro ⟨-, -, other, hother, hcommand⟩
    rw [command_without] at hcommand
    have heq := congrArg Command.filter hcommand
    rw [filter_command, filter_command] at heq
    exact filterOf_without_wheres hfilter hhas (heq ▸ hother)
  · refine iff_of_true ⟨hset, fun hhas => hjoins ((q.has_without f _).1 hhas).2, filter, ?_, ?_⟩ hwheres
    · rw [filterOf_without hwheres, hfilter]
    · rw [command_without]

/-- **Document mutations carry their conditions, and nothing else.** A query with joins is refused. The
    command is that of the mutation under the filter of the query, and no other feature makes a
    difference, be it a limit, an offset, groups or a lock. Reads are refused for what they cannot
    carry, and drop nothing. -/
theorem document_mutation_carries_conditions (q : Query) :
    (∀ m : Mutation, m.isEmpty = false → q.Has .joins →
        ∃ construct, m.toCommand q = unsupported construct)
      ∧ (∀ (m : Mutation) (c : Command), m.toCommand q = .ok c →
        filterOf q = .ok c.filter ∧ c = m.command q c.filter
          ∧ ∀ f, q.Drops m.toCommand f ↔ q.Has f ∧ f ≠ .wheres)
      ∧ (∀ f ∈ unreadable, q.Has f → ∃ construct, compileFind q = unsupported construct)
      ∧ ∀ c, compileFind q = .ok c → ∀ f, ¬ q.Drops compileFind f := by
  refine ⟨fun m => toCommand_of_joins, fun m c hc => ?_, fun f hf hhas => compileFind_refused hf hhas,
    fun c hc f => not_drops_compileFind hc f⟩
  obtain ⟨-, -, filter, hfilter, rfl⟩ := toCommand_eq_ok_iff.1 hc
  rw [filter_command]
  exact ⟨hfilter, rfl, drops_toCommand_iff hc⟩

/-- Ten rows of groups to delete: all rows of all groups are deleted. -/
theorem document_mutation_carries_conditions_page :
    ∃ (q : Query) (c : Command),
      q =
        { table := "t"
          wheres := [⟨.and, .isNull "a" false⟩]
          distinct := true
          groups := ["b"]
          limit := some 10
          offset := some 5
          lock := some .forUpdate }
      ∧ Mutation.delete.toCommand q = .ok c
      ∧ c.operation = .deleteMany ∧ c.options.limit = none ∧ c.options.skip = none
      ∧ (∀ f ∈ [Feature.distinct, .groups, .limit, .offset, .lock],
          q.Drops Mutation.delete.toCommand f)
      ∧ ∃ construct, compileFind q = unsupported construct := by
  obtain ⟨-, hcarried, hread, -⟩ := document_mutation_carries_conditions
    { table := "t"
      wheres := [⟨.and, .isNull "a" false⟩]
      distinct := true
      groups := ["b"]
      limit := some 10
      offset := some 5
      lock := some .forUpdate }
  obtain ⟨-, -, hdrops⟩ := hcarried .delete _ rfl
  refine ⟨_, _, rfl, rfl, rfl, rfl, rfl, fun f hf => (hdrops f).2 ?_, ?_⟩
  · simp only [List.mem_cons, List.not_mem_nil, or_false] at hf
    rcases hf with rfl | rfl | rfl | rfl | rfl <;> simp [Query.Has]
  · exact hread .groups (by decide) (by simp [Query.Has])

end Mutation

end QueryKit
