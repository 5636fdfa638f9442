import Mathlib
import QueryKit.Query.Basic

set_option autoImplicit false

/-! # Features of queries

What a query can ask for beside its table and columns, and the query without it. What is compiled from
a query drops a feature if it is the same for the query without it (`Query.Drops`). -/

namespace QueryKit

/-- What a query can ask for. -/
inductive Feature
  | distinct
  | wheres
  | joins
  | groups
  | havings
  | orders
  | limit
  | offset
  | lock
deriving DecidableEq

namespace Query

/-- The query asks for it. -/
def Has (q : Query) : Feature → Prop
  | .distinct => q.distinct = true
  | .wheres => q.wheres ≠ []
  | .joins => q.joins ≠ []
  | .groups => q.groups ≠ []
  | .havings => q.havings ≠ []
  | .orders => q.orders ≠ []
  | .limit => q.limit ≠ none
  | .offset => q.offset ≠ none
  | .lock => q.lock ≠ none

/-- The query that no longer asks for it. -/
def without (q : Query) : Feature → Query
  | .distinct => { q with distinct := false }
  | .wheres => { q with wheres := [] }
  | .joins => { q with joins := [] }
  | .groups => { q with groups := [] }
  | .havings => { q with havings := [] }
  | .orders => { q with orders := [] }
  | .limit => { q with limit := none }
  | .offset => { q with offset := none }
  | .lock => { q with lock := none }

/-- The query asks for it, but what is compiled from the query is what is compiled without it. -/
def Drops {α : Type} (q : Query) (compile : Query → α) (f : Feature) : Prop :=
  q.Has f ∧ compile (q.without f) = compile q

/-- Leaving out one feature leaves out no other. -/
theorem has_without (q : Query) (f g : Feature) : (q.without f).Has g ↔ g ≠ f ∧ q.Has g := by
  cases f <;> cases g <;> simp [Has, without]

theorem without_of_not_has {q : Query} {f : Feature} (h : ¬ q.Has f) : q.without f = q := by
  cases q
  cases f <;> simp_all [Has, without]

end Query

/-- A write to the rows that a query describes. -/
inductive Mutation
  | update (values : List (String × Value))
  | delete

/-- Sets nothing, and is no delete either. -/
def Mutation.isEmpty : Mutation → Bool
  | .update values => values.isEmpty
  | .delete => false

end QueryKit
