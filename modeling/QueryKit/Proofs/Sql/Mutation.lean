import QueryKit.Proofs.Query.Feature
import QueryKit.Proofs.Sql.Written

set_option autoImplicit false

/-! # What mutations carry

An update or a delete is written as its own words, the conditions of its query and the limit
(`Mutation.layout`). It is refused if the query has joins, or a limit in a dialect without one. Every
other feature of the query is dropped: the statement is the one for the query without it. -/

namespace QueryKit

open Sql

namespace Mutation

/-! ## Statements -/

/-- The statement of a mutation. -/
def toSql (d : Dialect) (q : Query) : Mutation → Except Error Statement
  | .update values => compileUpdate d q values
  | .delete => compileDelete d q

/-- The word for a mutation. -/
def verb : Mutation → String
  | .update _ => "UPDATE"
  | .delete => "DELETE"

/-- The words of a mutation with the table and the new values. -/
def head (d : Dialect) (q : Query) : Mutation → Template
  | .update values =>
    .text ("UPDATE " ++ d.table q.table ++ " SET ") ::
      Template.join ", " (values.map fun (c, v) => assignment d c v)
  | .delete => Template.text ("DELETE FROM " ++ d.table q.table)

/-- The suffix for a limit. -/
def limitText : Option UInt64 → String
  | none => ""
  | some l => " LIMIT " ++ toString l.toNat

/-- What a mutation is written as. -/
def layout (d : Dialect) (q : Query) (m : Mutation) : Template :=
  m.head d q ++ clause " WHERE " (wheresTemplate d q.wheres) ++ Template.text (limitText q.limit)

/-- Why a mutation is refused, if it is. -/
def fault? (d : Dialect) (q : Query) (m : Mutation) : Option Fault :=
  if m.isEmpty then some .updateWithoutColumns
  else if q.joins ≠ [] then some (.joinInMutation d m.verb)
  else if q.limit ≠ none ∧ d ≠ .mysql then some (.limitInMutation d)
  else none

theorem mutationLimit_eq (d : Dialect) (q : Query) :
    mutationLimit d q =
      if q.limit ≠ none ∧ d ≠ .mysql then .error (.validation (.limitInMutation d))
      else .ok (limitText q.limit) := by
  rw [mutationLimit]
  cases q.limit with
  | none => rfl
  | some l => cases d <;> rfl

theorem withoutJoins_eq (d : Dialect) (q : Query) (verb : String) :
    withoutJoins d q verb =
      if q.joins ≠ [] then .error (.validation (.joinInMutation d verb)) else .ok () := by
  rw [withoutJoins]
  cases q.joins <;> rfl

/-- A mutation is refused for its fault, and otherwise written as it is laid out. -/
theorem toSql_eq (d : Dialect) (q : Query) (m : Mutation) :
    m.toSql d q = match m.fault? d q with
      | some fault => .error (.validation fault)
      | none => .ok ((m.layout d q).statement d) := by
  cases m with
  | update values =>
    rw [toSql, compileUpdate_eq, updateTemplate, withoutJoins_eq, mutationLimit_eq, fault?, isEmpty]
    split
    · rfl
    · split
      · rfl
      · split <;> rfl
  | delete =>
    rw [toSql, compileDelete_eq, deleteTemplate, withoutJoins_eq, mutationLimit_eq, fault?, isEmpty]
    split
    · rfl
    · split <;> rfl

theorem toSql_eq_ok_iff {d : Dialect} {q : Query} {m : Mutation} {s : Statement} :
    m.toSql d q = .ok s ↔ m.fault? d q = none ∧ s = (m.layout d q).statement d := by
  rw [toSql_eq]
  cases m.fault? d q with
  | some fault => simp
  | none => simp [eq_comm]

theorem fault?_eq_none_iff {d : Dialect} {q : Query} {m : Mutation} :
    m.fault? d q = none
      ↔ m.isEmpty = false ∧ ¬ q.Has .joins ∧ (q.Has .limit → d = .mysql) := by
  rw [fault?]
  cases m.isEmpty <;> by_cases q.joins = [] <;> by_cases q.limit = none <;> simp_all [Query.Has]

theorem fault?_without {d : Dialect} {q : Query} {m : Mutation} (h : m.fault? d q = none)
    (f : Feature) : m.fault? d (q.without f) = none := by
  rw [fault?_eq_none_iff] at h ⊢
  obtain ⟨hempty, hjoins, hlimit⟩ := h
  exact ⟨hempty, fun hhas => hjoins ((q.has_without f _).1 hhas).2,
    fun hhas => hlimit ((q.has_without f _).1 hhas).2⟩

/-! ## Text -/

theorem sql_layout (d : Dialect) (q : Query) (m : Mutation) :
    ((m.layout d q).statement d).sql
      = (m.head d q).numbered d 1
        ++ (clause " WHERE " (wheresTemplate d q.wheres)).numbered d (1 + (m.head d q).values.length)
        ++ limitText q.limit := by
  rw [layout, Template.statement, Template.numbered, Template.write_append, Template.write_append]
  simp [Template.numbered, Template.text, Template.write]

theorem head_without (d : Dialect) (q : Query) (m : Mutation) (f : Feature) :
    m.head d (q.without f) = m.head d q := by
  cases m <;> cases f <;> rfl

theorem layout_without {d : Dialect} {q : Query} {m : Mutation} {f : Feature} (hwheres : f ≠ .wheres)
    (hlimit : f ≠ .limit) : m.layout d (q.without f) = m.layout d q := by
  cases f with
  | wheres => exact absurd rfl hwheres
  | limit => exact absurd rfl hlimit
  | _ => cases m <;> rfl

theorem limitText_eq_empty_iff (limit : Option UInt64) : limitText limit = "" ↔ limit = none := by
  cases limit <;> simp [limitText]

/-- Without its conditions a mutation is another one, unless they write nothing. -/
theorem statement_without_wheres (d : Dialect) (q : Query) (m : Mutation) :
    (m.layout d (q.without .wheres)).statement d = (m.layout d q).statement d
      ↔ (wheresTemplate d q.wheres).isBlank = true := by
  constructor
  · intro h
    have hsql := congrArg Statement.sql h
    rw [sql_layout, sql_layout, head_without] at hsql
    -- before and behind the conditions the texts are the same
    have hclause := (String.append_right_inj _).1 ((String.append_left_inj _).1 hsql)
    rw [← isBlank_clause " WHERE ",
      ← Template.numbered_eq_empty_iff d (1 + (m.head d q).values.length), ← hclause]
    rfl
  · intro h
    have hblank : clause " WHERE " (wheresTemplate d q.wheres) = [] := if_pos h
    rw [layout, layout, head_without, hblank]
    rfl

/-- Without its limit a mutation is another one. -/
theorem statement_without_limit (d : Dialect) (q : Query) (m : Mutation) :
    (m.layout d (q.without .limit)).statement d = (m.layout d q).statement d
      ↔ q.limit = none := by
  constructor
  · intro h
    have hsql := congrArg Statement.sql h
    rw [sql_layout, sql_layout, head_without] at hsql
    have hlimit : limitText none = limitText q.limit := (String.append_right_inj _).1 hsql
    exact (limitText_eq_empty_iff _).1 hlimit.symm
  · intro h
    rw [Query.without_of_not_has (f := .limit) (by simpa [Query.Has] using h)]

theorem drops_iff {d : Dialect} {q : Query} {m : Mutation} (h : m.fault? d q = none) (f : Feature) :
    q.Drops (m.toSql d) f
      ↔ q.Has f ∧ f ≠ .limit ∧ (f = .wheres → ∃ k vs, q.wheres = [⟨k, .raw "" vs⟩]) := by
  refine and_congr_right fun hhas => ?_
  show m.toSql d (q.without f) = m.toSql d q ↔ _
  rw [toSql_eq, toSql_eq, fault?_without h, h]
  simp only [Except.ok.injEq]
  by_cases hwheres : f = .wheres
  · subst hwheres
    rw [statement_without_wheres, isBlank_wheresTemplate, or_iff_right hhas]
    simp
  · by_cases hlimit : f = .limit
    · subst hlimit
      rw [statement_without_limit]
      exact iff_of_false hhas fun hcarried => hcarried.1 rfl
    · rw [layout_without hwheres hlimit]
      exact iff_of_true rfl ⟨hlimit, fun heq => absurd heq hwheres⟩

/-- **Mutations carry conditions and limits, and nothing else.** A query with joins, or with a limit
    in a dialect without one, is refused. A statement has every condition, and the limit behind all
    else. Of the other features of the query, none makes a difference, be it an offset, a group
    condition or the order in which a limit counts; nor does a single condition that is an empty
    text. -/
theorem mutation_carries_conditions_and_limit (d : Dialect) (q : Query) (m : Mutation) :
    (q.Has .joins ∨ (q.Has .limit ∧ d ≠ .mysql) →
        ∃ fault, m.toSql d q = .error (.validation fault))
      ∧ ∀ s, m.toSql d q = .ok s →
        s = (m.layout d q).statement d
        ∧ (∀ w ∈ q.wheres, conditionTemplate d w.condition <:+: m.layout d q)
        ∧ (∀ l, q.limit = some l → ∃ before, s.sql = before ++ " LIMIT " ++ toString l.toNat)
        ∧ ∀ f, q.Drops (m.toSql d) f
            ↔ q.Has f ∧ f ≠ .limit ∧ (f = .wheres → ∃ k vs, q.wheres = [⟨k, .raw "" vs⟩]) := by
  refine ⟨fun hrefused => ?_, fun s hs => ?_⟩
  · cases hfault : m.fault? d q with
    | some fault => exact ⟨fault, by rw [toSql_eq, hfault]⟩
    | none =>
        obtain ⟨-, hjoins, hlimit⟩ := fault?_eq_none_iff.1 hfault
        rcases hrefused with hhas | ⟨hhas, hd⟩
        · exact absurd hhas hjoins
        · exact absurd (hlimit hhas) hd
  · obtain ⟨hfault, rfl⟩ := toSql_eq_ok_iff.1 hs
    refine ⟨rfl, fun w hw => ?_, fun l hl => ?_, drops_iff hfault⟩
    · exact (infix_clause d " WHERE " hw).trans (List.infix_append _ _ _)
    · rw [sql_layout, hl, limitText, ← String.append_assoc]
      exact ⟨_, rfl⟩

/-- A page of groups in an order: only the condition and the limit make a difference. -/
theorem mutation_carries_conditions_and_limit_page :
    ∃ (q : Query) (s : Statement),
      q =
        { table := "t"
          wheres := [⟨.and, .isNull "a" false⟩]
          havings := [⟨.and, .raw "COUNT(*) > 1" []⟩]
          orders := [.column "b" .descending]
          limit := some 10
          offset := some 5 }
      ∧ Mutation.delete.toSql .mysql q = .ok s
      ∧ s.sql = "DELETE FROM " ++ Dialect.mysql.table "t" ++ " WHERE " ++ Dialect.mysql.column "a"
          ++ " IS NULL LIMIT 10"
      ∧ (∀ f ∈ [Feature.havings, .orders, .offset], q.Drops (Mutation.delete.toSql .mysql) f)
      ∧ ∀ f ∈ [Feature.wheres, .limit], q.Has f ∧ ¬ q.Drops (Mutation.delete.toSql .mysql) f := by
  have hdrops := ((mutation_carries_conditions_and_limit .mysql
    { table := "t"
      wheres := [⟨.and, .isNull "a" false⟩]
      havings := [⟨.and, .raw "COUNT(*) > 1" []⟩]
      orders := [.column "b" .descending]
      limit := some 10
      offset := some 5 } .delete).2 _ rfl).2.2.2
  refine ⟨_, _, rfl, rfl, rfl, fun f hf => (hdrops f).2 ?_, fun f hf => ?_⟩
  · simp only [List.mem_cons, List.not_mem_nil, or_false] at hf
    rcases hf with rfl | rfl | rfl <;> simp [Query.Has]
  · rw [hdrops f]
    simp only [List.mem_cons, List.not_mem_nil, or_false] at hf
    rcases hf with rfl | rfl <;> simp [Query.Has]

end Mutation

end QueryKit
