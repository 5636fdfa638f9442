import QueryKit.Proofs.Filter.Markers
import QueryKit.Proofs.Sql.Rescanning

set_option autoImplicit false

/-! # Groups as they are written

A group is text with markers, which every group around it and then the statement scans again. Nothing is
lost or moved on the way if the conditions leave no quote open: a group is written as its conditions
are, between parentheses, with their placeholders and their values (`nested_group_renders_content`). -/

namespace QueryKit

namespace Sql

variable (d : Dialect)

theorem scannable_group {wheres : List Where} (h : (wheresTemplate d wheres).Scannable) :
    (conditionTemplate d (group d wheres)).Scannable := by
  rw [group_eq]
  exact scannable_nested d h.closed h.counted

/-- A group of conditions has their symbols, between parentheses. -/
theorem symbols_group {wheres : List Where} (h : (wheresTemplate d wheres).Scannable) :
    (conditionTemplate d (group d wheres)).symbols
      = textSymbols "(" ++ ((wheresTemplate d wheres).symbols ++ textSymbols ")") := by
  rw [group_eq, conditionTemplate, Template.symbols_text_cons, Template.symbols_append, h.symbols_fill]
  rfl

end Sql

namespace Clause

theorem scannable_toWhere (d : Dialect) {c : Clause} (hvalid : ∀ x ∈ c.conditions, x.Valid)
    (hneutral : ∀ x ∈ c.conditions, x.Neutral d) :
    (Sql.conditionTemplate d (c.toWhere d).condition).Scannable := by
  induction c with
  | leaf k x =>
      have hx := List.mem_singleton_self x
      exact Sql.scannable_conditionTemplate d (hvalid x hx) (hneutral x hx)
  | group k members ih =>
      rw [conditions_group] at hvalid hneutral
      rw [toWhere_group]
      apply Sql.scannable_group
      apply Sql.scannable_connected
      intro p hp
      rw [Filter.toWheres, List.map_map] at hp
      obtain ⟨m, hm, rfl⟩ := List.mem_map.1 hp
      have hmem : ∀ x ∈ m.conditions, x ∈ Filter.conditions members :=
        fun x hx => Filter.mem_conditions hm hx
      exact ih m hm (fun x hx => hvalid x (hmem x hx)) fun x hx => hneutral x (hmem x hx)

end Clause

/-- The conditions of a filter can be scanned, groups in them as well. -/
theorem Filter.scannable_wheresTemplate (d : Dialect) {f : Filter} (hvalid : f.Valid)
    (hneutral : ∀ x ∈ f.conditions, x.Neutral d) : (Sql.wheresTemplate d (f.toWheres d)).Scannable := by
  apply Sql.scannable_connected
  intro p hp
  rw [toWheres, List.map_map] at hp
  obtain ⟨c, hc, rfl⟩ := List.mem_map.1 hp
  exact c.scannable_toWhere d (hvalid.of_mem hc)
    fun x hx => hneutral x (mem_conditions hc hx)

/-! ## Conditions on columns -/

/-- The condition tests columns, with an operator from the list, and no reference holds a parenthesis. -/
def Condition.Plain : Condition → Prop
  | .compare column op _ => op ∈ operators ∧ '(' ∉ column.toList
  | .oneOf column _ _ => '(' ∉ column.toList
  | .isNull column _ => '(' ∉ column.toList
  | .between column _ _ _ => '(' ∉ column.toList
  | .compareColumns left op right => op ∈ operators ∧ '(' ∉ left.toList ∧ '(' ∉ right.toList
  | .raw .. => False
  | .nested .. => False

namespace Condition.Plain

variable {c : Condition}

theorem valid (h : c.Plain) : c.Valid := by
  cases c with
  | compare | compareColumns => exact h.1
  | oneOf | isNull | between => trivial
  | raw | nested => exact h.elim

theorem neutral (h : c.Plain) (d : Dialect) : c.Neutral d := by
  refine ⟨fun reference hreference hparen => ?_, fun sql values hraw => ?_⟩
  · -- a reference of such a condition has no parenthesis
    exfalso
    cases c with
    | compare column op value =>
        rw [List.mem_singleton.1 hreference] at hparen
        exact h.2 hparen
    | oneOf | isNull | between =>
        rw [List.mem_singleton.1 hreference] at hparen
        exact h hparen
    | raw | nested => exact h
    | compareColumns left op right =>
        rcases List.mem_cons.1 hreference with rfl | hreference
        · exact h.2.1 hparen
        · rw [List.mem_singleton.1 hreference] at hparen
          exact h.2.2 hparen
  · subst hraw
    exact h.elim

end Condition.Plain

/-- **A group is written as its content between parentheses.** Behind any number of placeholders, and
    whatever quotes and question marks the references to columns hold, the text of a group is that of
    its conditions between parentheses, and its values are theirs. -/
theorem nested_group_renders_content (d : Dialect) (offset : Nat) (k : Connective) (f : Filter)
    (h : ∀ x ∈ f.conditions, x.Plain) :
    Sql.compileWheres d offset
        [⟨k, .nested (Sql.fragment d (f.toWheres d)).sql (Sql.fragment d (f.toWheres d)).bindings⟩]
      = ⟨"(" ++ (Sql.compileWheres d offset (f.toWheres d)).sql ++ ")",
          (Sql.compileWheres d offset (f.toWheres d)).bindings⟩ := by
  have hscannable := f.scannable_wheresTemplate d (fun x hx => (h x hx).valid)
    fun x hx => (h x hx).neutral d
  generalize f.toWheres d = wheres at hscannable ⊢
  have hsymbols : (Sql.wheresTemplate d [⟨k, Sql.group d wheres⟩]).symbols
      = Sql.Template.symbols (.text "(" :: (Sql.wheresTemplate d wheres ++ Sql.Template.text ")")) := by
    rw [Sql.Template.symbols_text_cons, Sql.Template.symbols_append]
    show Sql.Template.symbols (Sql.conditionTemplate d (Sql.group d wheres) ++ []) = _
    rw [List.append_nil, Sql.symbols_group d hscannable]
    rfl
  have htext := Sql.Template.numbered_eq_of_symbols hsymbols d (offset + 1)
  have hvalues := Sql.Template.values_eq_of_symbols hsymbols
  have hnumbered : Sql.Template.numbered d (offset + 1)
      (.text "(" :: (Sql.wheresTemplate d wheres ++ Sql.Template.text ")"))
      = "(" ++ (Sql.wheresTemplate d wheres).numbered d (offset + 1) ++ ")" := by
    simp only [Sql.Template.numbered, Sql.Template.write, Sql.Template.write_append, Sql.Template.text,
      String.append_empty, String.append_assoc]
  rw [Sql.Template.values_text_cons, Sql.Template.values_append, Sql.Template.values_text,
    List.append_nil] at hvalues
  show Sql.compileWheres d offset [⟨k, Sql.group d wheres⟩] = _
  rw [Sql.compileWheres_eq, Sql.compileWheres_eq, ← hnumbered, ← htext, ← hvalues]

/-- Quotes of two kinds and question marks in the references of a group inside of a group. -/
theorem nested_group_renders_content_quotes :
    ∃ f : Filter,
      f =
        [.leaf .and (.compare "o'neil" "=" (.int 1)),
          .group .or [.leaf .and (.oneOf "why?" [.int 2, .int 3] true),
            .leaf .or (.compareColumns "a`b" "<>" "t.c as \"d\"")]]
      ∧ (∀ x ∈ f.conditions, x.Plain)
      ∧ (Sql.compileWheres .mysql 4
          [⟨.and, .nested (Sql.fragment .mysql (f.toWheres .mysql)).sql
            (Sql.fragment .mysql (f.toWheres .mysql)).bindings⟩])
        = ⟨"(" ++ (Sql.compileWheres .mysql 4 (f.toWheres .mysql)).sql ++ ")",
            [.int 1, .int 2, .int 3]⟩ := by
  have h : ∀ x ∈ Filter.conditions
      [.leaf .and (.compare "o'neil" "=" (.int 1)),
        .group .or [.leaf .and (.oneOf "why?" [.int 2, .int 3] true),
          .leaf .or (.compareColumns "a`b" "<>" "t.c as \"d\"")]], x.Plain := by
    simp only [Filter.conditions_cons, Clause.conditions_leaf, Clause.conditions_group,
      Filter.conditions_nil, List.append_nil, List.singleton_append, List.forall_mem_cons]
    have hname : '(' ∉ "why?".toList := by decide
    exact ⟨⟨by decide, by decide⟩, hname, ⟨by decide, by decide, by decide⟩, nofun⟩
  exact ⟨_, rfl, h, nested_group_renders_content .mysql 4 .and _ h⟩

end QueryKit
