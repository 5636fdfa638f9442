import QueryKit.Proofs.Filter.Basic
import QueryKit.Proofs.Sql.Emission

set_option autoImplicit false

/-! # What conditions write

A list of conditions writes nothing only if it is empty or consists of a single empty text. Every
single condition stands in what the list writes, also inside of groups. -/

namespace QueryKit.Sql

/-! ## What templates write -/

namespace Template

/-- What stands in a template stands in its text. -/
theorem infix_marked {t u : Template} (h : t <:+: u) : t.marked.toList <:+: u.marked.toList := by
  obtain ⟨before, behind, rfl⟩ := h
  simp only [marked_append, String.toList_append]
  exact List.infix_append _ _ _

end Template

/-- A part can be left out of a statement exactly if it writes nothing. -/
theorem statement_append_eq_iff (d : Dialect) (t u v : Template) :
    (t ++ u ++ v).statement d = (t ++ v).statement d ↔ u.isBlank = true := by
  constructor
  · intro h
    have hvalues : (t ++ u ++ v).values = (t ++ v).values := congrArg Statement.bindings h
    have hsql : (t ++ u ++ v).numbered d 1 = (t ++ v).numbered d 1 := congrArg Statement.sql h
    -- without values in the part, the placeholders behind it have the same indices
    have hnone : u.values = [] := by
      have hlength := congrArg List.length hvalues
      simp only [Template.values_append, List.length_append] at hlength
      exact List.length_eq_zero_iff.1 (by omega)
    rw [Template.numbered, Template.numbered, Template.write_append, Template.write_append,
      Template.write_append, Template.values_append, hnone, List.append_nil] at hsql
    have hpart := (String.append_left_inj _).1 hsql
    rw [← Template.numbered_eq_empty_iff d (1 + t.values.length)]
    exact (String.append_eq_left_iff.1 hpart)
  · intro h
    have hnone : u.values = [] := Template.values_of_isBlank u h
    have hpart := (Template.numbered_eq_empty_iff d (1 + t.values.length) u).2 h
    rw [Template.numbered] at hpart
    simp only [Template.statement, Template.numbered, Template.write_append, Template.values_append,
      hnone, hpart, List.append_nil, String.append_empty]

/-- Behind its words, a part still writes nothing exactly if it is blank. -/
theorem isBlank_clause (words : String) (t : Template) :
    (clause words t).isBlank = t.isBlank := by
  rw [clause]
  split
  · next h => exact h.symm
  · next h =>
      rw [Bool.not_eq_true] at h
      rw [Template.isBlank_text_cons, h, Bool.and_false]

theorem numbered_clause (d : Dialect) (start : Nat) (words : String) (t : Template) :
    (clause words t).numbered d start
      = if t.isBlank then "" else words ++ t.numbered d start := by
  rw [clause]
  split <;> rfl

/-! ## Conditions -/

variable (d : Dialect)

theorem isBlank_conditionTemplate (c : Condition) :
    (conditionTemplate d c).isBlank = true ↔ ∃ vs, c = .raw "" vs := by
  cases c with
  | raw sql vs =>
    rw [conditionTemplate, Template.isBlank_fill]
    simp
  | isNull column negated => cases negated <;> simp [conditionTemplate, Template.text]
  | _ => simp [conditionTemplate, compareTemplate, Template.text]

/-- A list of conditions writes nothing if it is empty or a single empty text. -/
theorem isBlank_wheresTemplate (wheres : List Where) :
    (wheresTemplate d wheres).isBlank = true
      ↔ wheres = [] ∨ ∃ k vs, wheres = [⟨k, .raw "" vs⟩] := by
  match wheres with
  | [] => simp [wheresTemplate, connected, Template.isBlank]
  | [w] =>
    obtain ⟨k, c⟩ := w
    simp [wheresTemplate, connected, isBlank_conditionTemplate]
  | first :: second :: rest => simp [wheresTemplate, connected]

/-- A list of group conditions writes nothing if it is empty or a single empty text. -/
theorem isBlank_havingsTemplate (havings : List Having) :
    (havingsTemplate d havings).isBlank = true
      ↔ havings = [] ∨ ∃ k vs, havings = [⟨k, .raw "" vs⟩] := by
  match havings with
  | [] => simp [havingsTemplate, connected, Template.isBlank]
  | [⟨k, .compare column op value⟩] =>
    simp [havingsTemplate, connected, groupConditionTemplate, compareTemplate]
  | [⟨k, .raw sql vs⟩] =>
    simp [havingsTemplate, connected, groupConditionTemplate, Template.isBlank_fill]
  | first :: second :: rest => simp [havingsTemplate, connected]

theorem infix_connected {parts : List (Connective × Template)} {k : Connective} {t : Template}
    (h : (k, t) ∈ parts) : t <:+: connected parts := by
  cases parts with
  | nil => cases h
  | cons first rest =>
      rw [connected]
      rcases List.mem_cons.1 h with rfl | h
      · exact (List.prefix_append ..).isInfix
      · -- behind the first one, every part has a word in front of it
        refine List.IsInfix.trans ?_ (List.suffix_append ..).isInfix
        rw [List.flatMap_def]
        refine List.IsInfix.trans ?_ (List.infix_of_mem_flatten (List.mem_map_of_mem h))
        exact (List.suffix_cons ..).isInfix

theorem infix_wheresTemplate {wheres : List Where} {w : Where} (h : w ∈ wheres) :
    conditionTemplate d w.condition <:+: wheresTemplate d wheres :=
  infix_connected (List.mem_map.2 ⟨w, h, rfl⟩)

/-- Behind their words the conditions still stand as they are. -/
theorem infix_clause (words : String) {wheres : List Where} {w : Where}
    (h : w ∈ wheres) : conditionTemplate d w.condition <:+: clause words (wheresTemplate d wheres) := by
  rw [clause]
  split
  · next hblank =>
      rcases (isBlank_wheresTemplate d wheres).1 hblank with rfl | ⟨k, vs, rfl⟩
      · cases h
      · rw [List.mem_singleton.1 h]
        exact List.nil_infix
  · exact (infix_wheresTemplate d h).trans (List.suffix_cons ..).isInfix

@[simp] theorem marked_group (wheres : List Where) :
    (conditionTemplate d (group d wheres)).marked
      = "(" ++ (wheresTemplate d wheres).marked ++ ")" := by
  simp [group_eq, conditionTemplate, Template.text, Template.marked_fill, String.append_assoc]

theorem infix_marked_of_mem {c : Clause} {f : Filter} (h : c ∈ f) :
    (conditionTemplate d (c.toWhere d).condition).marked.toList
      <:+: (wheresTemplate d (f.toWheres d)).marked.toList :=
  Template.infix_marked (infix_wheresTemplate d (List.mem_map_of_mem h))

theorem infix_marked_toWhere {x : Condition} {c : Clause} (h : x ∈ c.conditions) :
    (conditionTemplate d x).marked.toList
      <:+: (conditionTemplate d (c.toWhere d).condition).marked.toList := by
  induction c with
  | leaf k c =>
      rw [Clause.conditions_leaf, List.mem_singleton] at h
      rw [h, Clause.toWhere_leaf]
  | group k members ih =>
      rw [Clause.conditions_group] at h
      obtain ⟨m, hm, hx⟩ := List.mem_flatMap.1 h
      -- a group writes its list between parentheses
      rw [Clause.toWhere_group, marked_group, String.toList_append, String.toList_append]
      exact ((ih m hm hx).trans (infix_marked_of_mem d hm)).trans (List.infix_append _ _ _)

/-- **Every single condition is written**, also those inside of groups. -/
theorem infix_marked_wheres {x : Condition} {f : Filter} (h : x ∈ f.conditions) :
    (conditionTemplate d x).marked.toList
      <:+: (wheresTemplate d (f.toWheres d)).marked.toList := by
  obtain ⟨c, hc, hx⟩ := List.mem_flatMap.1 h
  exact (infix_marked_toWhere d hx).trans (infix_marked_of_mem d hc)

end QueryKit.Sql
