import QueryKit.Proofs.Builder.Carried
import QueryKit.Proofs.Driver.Action
import QueryKit.Proofs.Sql.Mutation
import QueryKit.Proofs.Steps

set_option autoImplicit false

/-! # Deletes that are sent

A delete is sent only if there are conditions, but its text has a WHERE only if they write something.
Every single condition writes something except for an empty text, and every single condition is
written, whatever group or scope it is in. So the only delete without WHERE is that of a single
condition which is an empty text. -/

namespace QueryKit

variable {σ : Type}

/-! ## Deletes of queries -/

namespace Builder

theorem guardedDelete_eq_ok_iff {d : Dialect} {q : Query} {statement : Statement} :
    guardedDelete d q = .ok statement
      ↔ q.Has .wheres ∧ Mutation.delete.toSql d q = .ok statement := by
  rw [guardedDelete, Query.Has]
  cases q.wheres <;> simp [Mutation.toSql]

/-- A delete that is sent is that of a query with conditions. -/
theorem sends_delete (driver : Driver σ) (b : Builder) :
    Action.Sends
      (fun statement => ∃ q, b.toQuery = .ok q ∧ q.Has .wheres
        ∧ Mutation.delete.toSql b.dialect q = .ok statement)
      (b.delete driver.recorded) := by
  refine driver.sends_send fun statement hresult => ?_
  obtain ⟨q, hq, hguarded⟩ := bind_eq_ok_iff.1 hresult
  exact ⟨q, hq, guardedDelete_eq_ok_iff.1 hguarded⟩

end Builder

/-! ## Conditions that write nothing -/

namespace Filter

/-- Keeping two filters apart makes no list of one clause that was none before. -/
theorem isolate_eq_iff (own others : Filter) {f : Filter} (h : f.length ≤ 1) :
    isolate own others = f ↔ own ++ others = f := by
  rw [isolate]
  split
  · exact Iff.rfl
  · next hmixed =>
      simp only [Bool.or_eq_true, List.isEmpty_iff, not_or] at hmixed
      obtain ⟨⟨hown, hothers⟩, -⟩ := hmixed
      have hpos := List.length_pos_of_ne_nil hown
      have hpos' := List.length_pos_of_ne_nil hothers
      constructor
      · rintro rfl
        simp at h
      · rintro rfl
        rw [List.length_append] at h
        omega

theorem toWheres_eq_raw_iff (d : Dialect) {f : Filter} {k : Connective} {sql : String}
    {vs : List Value} : f.toWheres d = [⟨k, .raw sql vs⟩] ↔ f = [.leaf k (.raw sql vs)] := by
  match f with
  | [] => simp
  | [.leaf k' c] => simp [toWheres]
  | [.group k' members] => simp [toWheres, Sql.group]
  | first :: second :: rest => simp [toWheres]

end Filter

section Delete

variable {d : Dialect} {table : String} {calls : List Call}

/-- The conditions that a delete is sent with. -/
def deleteConditions (d : Dialect) (calls : List Call) : Sql.Template :=
  Sql.wheresTemplate d ((queryFilter calls).toWheres d)

theorem toWheres_queryFilter_eq_nil_iff (d : Dialect) (calls : List Call) :
    (queryFilter calls).toWheres d = [] ↔ clausesOf calls ++ scopedClauses calls = [] := by
  rw [Filter.toWheres, List.map_eq_nil_iff, queryFilter, Filter.isolate_eq_iff _ _ (by decide)]

/-- The conditions write nothing if there are none, or a single one that is an empty text. -/
theorem isBlank_deleteConditions (d : Dialect) (calls : List Call) :
    (deleteConditions d calls).isBlank = true
      ↔ clausesOf calls ++ scopedClauses calls = []
        ∨ ∃ k vs, clausesOf calls ++ scopedClauses calls = [.leaf k (.raw "" vs)] := by
  rw [deleteConditions, Sql.isBlank_wheresTemplate, toWheres_queryFilter_eq_nil_iff]
  refine or_congr_right (exists_congr fun k => exists_congr fun vs => ?_)
  rw [Filter.toWheres_eq_raw_iff, queryFilter, Filter.isolate_eq_iff]
  exact Nat.le_refl 1

/-- The text of the delete that calls describe. -/
theorem delete_sql {q : Query} {statement : Statement}
    (hq : (runCalls (Builder.new d table) calls).toQuery = .ok q)
    (h : Mutation.delete.toSql (runCalls (Builder.new d table) calls).dialect q = .ok statement) :
    statement.sql = "DELETE FROM " ++ d.table table
      ++ (if (deleteConditions d calls).isBlank then ""
        else " WHERE " ++ (deleteConditions d calls).numbered d 1)
      ++ Mutation.limitText q.limit := by
  have hcarries := (Builder.Carries.new d table).runCalls
    (runCalls_fault_eq_none.1 (Builder.fault_of_toQuery hq)).2
  obtain ⟨-, rfl⟩ := Mutation.toSql_eq_ok_iff.1 h
  rw [Builder.dialect, hcarries.dialect, Mutation.sql_layout, wheres_toQuery hq, Mutation.head,
    hcarries.toQuery_table hq, ← deleteConditions, Sql.numbered_clause]
  simp [Sql.Template.numbered, Sql.Template.text, Sql.Template.write]

/-- **A delete that is sent has a WHERE unless its only condition is an empty text.** It has conditions,
    of the calls or of the scopes, and they stand behind a WHERE unless they write nothing. Every single
    one of them is written, whatever group or scope it is in, and none writes nothing but an empty
    text. -/
theorem delete_is_bare_iff (driver : Driver σ) {s : σ} {statement : Statement}
    (hsent : statement ∈ ((runCalls (Builder.new d table) calls).delete driver.recorded).sent s) :
    clausesOf calls ++ scopedClauses calls ≠ []
      ∧ (∃ limit, statement.sql = "DELETE FROM " ++ d.table table
          ++ (if (deleteConditions d calls).isBlank then ""
            else " WHERE " ++ (deleteConditions d calls).numbered d 1)
          ++ Mutation.limitText limit)
      ∧ ((deleteConditions d calls).isBlank = true
          ↔ ∃ k vs, clausesOf calls ++ scopedClauses calls = [.leaf k (.raw "" vs)])
      ∧ ∀ x ∈ (clausesOf calls).conditions ++ (scopedClauses calls).conditions,
          (Sql.conditionTemplate d x).marked.toList <:+: (deleteConditions d calls).marked.toList
          ∧ ((Sql.conditionTemplate d x).marked = "" ↔ ∃ vs, x = .raw "" vs) := by
  obtain ⟨q, hq, hhas, h⟩ := (Builder.sends_delete driver _).of_mem_sent hsent
  have hne : clausesOf calls ++ scopedClauses calls ≠ [] := by
    rw [Ne, ← toWheres_queryFilter_eq_nil_iff d, ← wheres_toQuery hq]
    exact hhas
  refine ⟨hne, ⟨q.limit, delete_sql hq h⟩, ?_, fun x hx => ⟨?_, ?_⟩⟩
  · rw [isBlank_deleteConditions, or_iff_right hne]
  · rw [← Filter.conditions_isolate] at hx
    exact Sql.infix_marked_wheres d hx
  · rw [Sql.Template.marked_eq_empty_iff, Sql.isBlank_conditionTemplate]

/-- Under an empty text as its only condition, a delete is sent bare. -/
theorem delete_is_bare_iff_empty_text :
    ∃ (calls : List Call) (statement : Statement),
      calls = [.whereRaw .and "" []]
      ∧ ((runCalls (Builder.new .postgres "t") calls).delete (Driver.blank .postgres).recorded).sent ()
          = [statement]
      ∧ statement.sql = "DELETE FROM " ++ Dialect.postgres.table "t"
      ∧ (deleteConditions .postgres calls).isBlank = true := by
  have hsent : ((runCalls (Builder.new .postgres "t") [.whereRaw .and "" []]).delete
      (Driver.blank .postgres).recorded).sent () = [_] := rfl
  obtain ⟨-, -, hbare, -⟩ := delete_is_bare_iff (Driver.blank .postgres)
    (hsent ▸ List.mem_singleton_self _)
  exact ⟨_, _, rfl, hsent, rfl, hbare.2 ⟨_, _, rfl⟩⟩

end Delete

end QueryKit
