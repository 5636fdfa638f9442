import QueryKit.Proofs.Sql.Quoting

set_option autoImplicit false

/-! # Templates scanned again

A group writes its conditions with markers and scans the text for them later. The scan finds every
hole of a template that stands outside of quotes, as the texts before it close the quotes they open
(`Template.Clean`). -/

namespace QueryKit

/-! ## Clean templates -/

namespace Sql

/-- The text closes the quotes that it opens. -/
def Closed (s : String) : Prop := Span.after none s.toList = none

instance (s : String) : Decidable (Closed s) :=
  inferInstanceAs (Decidable (Span.after none s.toList = none))

theorem Closed.append {s t : String} (hs : Closed s) (ht : Closed t) : Closed (s ++ t) := by
  rw [Closed, String.toList_append, Span.after_append, hs, ht]

namespace Template

/-- Scanned from inside `span`, every hole stands outside of quotes. -/
def Exposed (span : Span) : Template → Prop
  | [] => True
  | .text s :: rest => Exposed (span.after s.toList) rest
  | .hole _ :: rest => span = none ∧ Exposed none rest

theorem exposed_append (span : Span) (t u : Template) (ht : Exposed span t)
    (hu : Exposed (span.after t.marked.toList) u) : Exposed span (t ++ u) := by
  induction t generalizing span with
  | nil => exact hu
  | cons piece rest ih =>
      cases piece with
      | text s =>
          rw [marked_text_cons, String.toList_append, Span.after_append] at hu
          exact ih _ ht hu
      | hole v =>
          obtain ⟨rfl, hrest⟩ := ht
          refine ⟨rfl, ih none hrest ?_⟩
          rwa [marked_hole_cons, String.toList_append, Span.after_append] at hu

/-- A scan finds a marker for every hole outside of quotes. -/
theorem length_values_le (span : Span) (t : Template) (h : Exposed span t) :
    t.values.length ≤ countFrom span t.marked.toList := by
  induction t generalizing span with
  | nil => exact Nat.zero_le _
  | cons piece rest ih =>
      cases piece with
      | text s =>
          rw [values_text_cons, marked_text_cons, String.toList_append, countFrom_append]
          have := ih _ h
          omega
      | hole v =>
          obtain ⟨rfl, hrest⟩ := h
          rw [values_hole_cons, marked_hole_cons, String.toList_append, countFrom_append]
          have hmarker : countFrom none "?".toList = 1 := by decide
          have := ih none hrest
          rw [List.length_cons, hmarker]
          have hafter : Span.after none "?".toList = none := by decide
          rw [hafter]
          omega

theorem exposed_fillFrom (span : Span) (cs : List Char) (vs : List Value) :
    Exposed span (fillFrom span cs vs) := by
  induction cs generalizing span vs with
  | nil => trivial
  | cons c rest ih =>
      have hnext : span.after (String.singleton c).toList = span.next c := by
        rw [String.toList_singleton]
        rfl
      simp only [fillFrom]
      split
      · next hmarker =>
          -- only a marker becomes a hole, and no marker is inside of quotes
          cases vs with
          | nil =>
              rw [Exposed, hnext]
              exact ih _ _
          | cons v vs =>
              obtain ⟨hspan, -, hclosed⟩ := Span.next_of_isMarker hmarker
              rw [hclosed]
              exact ⟨hspan, ih none vs⟩
      · rw [Exposed, hnext]
        exact ih _ _

/-- The template closes its quotes, and every hole stands outside of them. -/
structure Clean (t : Template) : Prop where
  exposed : Exposed none t
  closed : Closed t.marked

theorem Clean.nil : Clean [] := ⟨trivial, rfl⟩

theorem Clean.append {t u : Template} (ht : Clean t) (hu : Clean u) : Clean (t ++ u) := by
  constructor
  · exact exposed_append none t u ht.exposed (by rw [ht.closed]; exact hu.exposed)
  · rw [marked_append]
    exact ht.closed.append hu.closed

theorem Clean.text_cons {s : String} {t : Template} (hs : Closed s) (ht : Clean t) :
    Clean (.text s :: t) := by
  constructor
  · rw [Exposed, hs]
    exact ht.exposed
  · rw [marked_text_cons]
    exact hs.append ht.closed

theorem Clean.hole_cons {v : Value} {t : Template} (ht : Clean t) : Clean (.hole v :: t) := by
  refine ⟨⟨rfl, ht.exposed⟩, ?_⟩
  rw [marked_hole_cons]
  exact Closed.append (by decide) ht.closed

theorem Clean.fill {sql : String} (h : Closed sql) (vs : List Value) : Clean (fill sql vs) :=
  ⟨exposed_fillFrom none sql.toList vs, by rwa [marked_fill]⟩

theorem Clean.join {separator : String} (hseparator : Closed separator) (ts : List Template)
    (h : ∀ t ∈ ts, Clean t) : Clean (join separator ts) := by
  induction ts with
  | nil => exact .nil
  | cons t rest ih =>
      have hfirst : Clean t := h t (List.mem_cons_self ..)
      have hrest : Clean (Template.join separator rest) :=
        ih fun u hu => h u (List.mem_cons_of_mem _ hu)
      cases rest with
      | nil => exact hfirst
      | cons u rest => exact hfirst.append (.text_cons hseparator hrest)

theorem Clean.flatMap {α : Type} {f : α → Template} (xs : List α) (h : ∀ x ∈ xs, Clean (f x)) :
    Clean (xs.flatMap f) := by
  induction xs with
  | nil => exact .nil
  | cons x rest ih =>
      rw [List.flatMap_cons]
      exact (h x (List.mem_cons_self ..)).append (ih fun y hy => h y (List.mem_cons_of_mem _ hy))

end Template

theorem clean_connected (parts : List (Connective × Template)) (h : ∀ p ∈ parts, p.2.Clean) :
    (connected parts).Clean := by
  cases parts with
  | nil => exact .nil
  | cons first rest =>
      obtain ⟨k, t⟩ := first
      refine Template.Clean.append (h (k, t) (List.mem_cons_self ..)) (.flatMap rest fun p hp => ?_)
      refine .text_cons ?_ (h p (List.mem_cons_of_mem _ hp))
      cases p.1 <;> decide

end Sql

/-! ## Conditions -/

/-- The operators of the condition are on the list, and its markers are as many as its values. No
    single condition is a group. -/
def Condition.Valid : Condition → Prop
  | .compare _ op _ => op ∈ operators
  | .compareColumns _ op _ => op ∈ operators
  | .raw sql values => Sql.countMarkers sql = values.length
  | .nested .. => False
  | _ => True

/-- What is written for the reference closes the quotes that it opens. Only references with a
    parenthesis can fail to, as they are written as they are. -/
def Sql.ClosedReference (d : Dialect) (reference : String) : Prop :=
  '(' ∈ reference.toList → Closed (d.column reference)

/-- The SQL text in the condition closes the quotes that it opens. -/
def Condition.Closed (d : Dialect) : Condition → Prop
  | .compare column _ _ => Sql.ClosedReference d column
  | .oneOf column _ _ => Sql.ClosedReference d column
  | .isNull column _ => Sql.ClosedReference d column
  | .between column _ _ _ => Sql.ClosedReference d column
  | .raw sql _ => Sql.Closed sql
  | .nested fragment _ => Sql.Closed fragment
  | .compareColumns left _ right => Sql.ClosedReference d left ∧ Sql.ClosedReference d right

namespace Sql

theorem closed_operator (d : Dialect) {op : String} (h : op ∈ operators) :
    Closed (d.operator op) := by
  have hall : ∀ op ∈ operators, Closed (d.operator op) := by
    cases d <;> decide
  exact hall op h

theorem ClosedReference.column {d : Dialect} {reference : String} (h : ClosedReference d reference) :
    Closed (d.column reference) := by
  by_cases hparen : '(' ∈ reference.toList
  · exact h hparen
  · exact (neutral_column d reference hparen).closed

theorem clean_nested (d : Dialect) {fragment : String} (h : Closed fragment) (values : List Value) :
    (conditionTemplate d (.nested fragment values)).Clean :=
  .text_cons (by decide) (.append (.fill h values) (.text_cons (by decide) .nil))

theorem clean_conditionTemplate (d : Dialect) {c : Condition} (hvalid : c.Valid)
    (hclosed : c.Closed d) : (conditionTemplate d c).Clean := by
  cases c with
  | compare column op value =>
      have hop := closed_operator d hvalid
      refine .text_cons ?_ (.hole_cons .nil)
      exact ((Closed.append (ClosedReference.column hclosed) (by decide)).append hop).append (by decide)
  | oneOf column values negated =>
      have hwords : Closed (if negated then " NOT IN (" else " IN (") := by
        cases negated <;> decide
      refine .text_cons (Closed.append (ClosedReference.column hclosed) hwords) (.append ?_ (.text_cons (by decide) .nil))
      refine .join (by decide) _ fun t ht => ?_
      obtain ⟨v, -, rfl⟩ := List.mem_map.1 ht
      exact .hole_cons .nil
  | isNull column negated =>
      have hwords : Closed (if negated then " IS NOT NULL" else " IS NULL") := by
        cases negated <;> decide
      exact .text_cons (Closed.append (ClosedReference.column hclosed) hwords) .nil
  | between column low high negated =>
      have hwords : Closed (if negated then " NOT BETWEEN " else " BETWEEN ") := by
        cases negated <;> decide
      refine .text_cons (Closed.append (ClosedReference.column hclosed) hwords) (.hole_cons (.text_cons ?_ (.hole_cons .nil)))
      decide
  | raw sql values => exact .fill hclosed values
  | nested fragment values => exact clean_nested d hclosed values
  | compareColumns left op right =>
      have hop := closed_operator d hvalid
      refine .text_cons ?_ .nil
      exact (((Closed.append hclosed.1.column (by decide)).append hop).append (by decide)).append
        hclosed.2.column

end Sql

end QueryKit
