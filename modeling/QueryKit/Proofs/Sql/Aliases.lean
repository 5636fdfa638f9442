import Mathlib
import QueryKit.Sql.Identifier
import QueryKit.Proofs.Text.Words

set_option autoImplicit false

/-! # Aliases of references

A reference is an expression with an alias, as long as one can be split off (`Aliased`). The first `as`
between blanks leaves none in front of it, and two words leave one that has no blank, so no more than
two aliases stand behind a name (`exists_aliased`). What is split apart are stretches of the reference
itself, with nothing but blanks and the words `as` around them (`Aliased.setApart`). -/

namespace QueryKit.Sql

/-! ## The word between an expression and its alias -/

/-- The word `as` between blanks, in any case of its letters. -/
def IsAs (word : List Char) : Prop := word.map Char.toLower = [' ', 'a', 's', ' ']

theorem IsAs.length_eq {word : List Char} (h : IsAs word) : word.length = 4 := by
  simpa using congrArg List.length h

theorem eq_space_of_toLower {c : Char} (h : c.toLower = ' ') : c = ' ' := by
  by_cases hupper : c.isUpper = true
  · -- a capital letter becomes a small one, which is not a blank
    have hsmall := c.isLower_toLower_eq_isAlpha
    rw [h, Char.isAlpha, hupper, Bool.true_or] at hsmall
    exact absurd hsmall (by decide)
  · rwa [Char.toLower_eq_of_not_isUpper hupper] at h

theorem IsAs.space_mem {word : List Char} (h : IsAs word) : ' ' ∈ word := by
  have hmem : ' ' ∈ word.map Char.toLower := by
    rw [h]
    exact List.mem_cons_self ..
  obtain ⟨c, hc, hspace⟩ := List.mem_map.1 hmem
  rwa [← eq_space_of_toLower hspace]

/-- The test that the split makes at every character. -/
theorem map_take_eq_iff (cs : List Char) :
    (cs.take 4).map Char.toLower = [' ', 'a', 's', ' '] ↔ ∃ word, IsAs word ∧ word <+: cs := by
  constructor
  · intro h
    exact ⟨cs.take 4, h, List.take_prefix 4 cs⟩
  · rintro ⟨word, hword, hprefix⟩
    rw [← hword.length_eq, ← List.prefix_iff_eq_take.1 hprefix]
    exact hword

theorem splitAs?_eq_some {cs before after : List Char} (h : splitAs? cs = some (before, after)) :
    ∃ word, IsAs word ∧ cs = before ++ (word ++ after) := by
  induction cs generalizing before with
  | nil => cases h
  | cons c rest ih =>
      rw [splitAs?] at h
      split at h
      · next hword =>
          obtain ⟨rfl, rfl⟩ := Prod.mk.inj (Option.some.inj h)
          exact ⟨(c :: rest).take 4, hword, (List.take_append_drop 4 (c :: rest)).symm⟩
      · obtain ⟨⟨before', after'⟩, hsplit, heq⟩ := Option.map_eq_some_iff.1 h
        obtain ⟨rfl, rfl⟩ := Prod.mk.inj heq
        obtain ⟨word, hword, rfl⟩ := ih hsplit
        exact ⟨word, hword, rfl⟩

theorem splitAs?_eq_none_iff {cs : List Char} :
    splitAs? cs = none ↔ ∀ word, IsAs word → ¬ word <:+: cs := by
  induction cs with
  | nil =>
      refine iff_of_true rfl fun word hword hwithin => ?_
      rw [List.infix_nil.1 hwithin] at hword
      cases hword
  | cons c rest ih =>
      rw [splitAs?]
      split
      · next hword =>
          refine iff_of_false nofun fun hno => ?_
          exact hno _ hword (List.take_prefix 4 (c :: rest)).isInfix
      · next hword =>
          rw [map_take_eq_iff] at hword
          rw [Option.map_eq_none_iff, ih]
          refine forall₂_congr fun word has => not_congr ?_
          rw [List.infix_cons_iff]
          exact (or_iff_right fun hprefix => hword ⟨word, has, hprefix⟩).symm

/-- The first `as` has none in front of it. -/
theorem splitAs?_before {cs before after : List Char} (h : splitAs? cs = some (before, after)) :
    splitAs? before = none := by
  induction cs generalizing before with
  | nil => cases h
  | cons c rest ih =>
      rw [splitAs?] at h
      split at h
      · obtain ⟨rfl, -⟩ := Prod.mk.inj (Option.some.inj h)
        rfl
      · next hword =>
          obtain ⟨⟨before', after'⟩, hsplit, heq⟩ := Option.map_eq_some_iff.1 h
          obtain ⟨rfl, rfl⟩ := Prod.mk.inj heq
          obtain ⟨word, -, hrest⟩ := splitAs?_eq_some hsplit
          rw [splitAs?, if_neg, ih hsplit, Option.map_none]
          -- an `as` at the head would stand at the head of the whole text as well
          rw [map_take_eq_iff] at hword ⊢
          rintro ⟨as, has, hprefix⟩
          refine hword ⟨as, has, hprefix.trans ?_⟩
          rw [hrest, ← List.cons_append]
          exact List.prefix_append ..

/-! ## Names and aliases -/

/-- The name in a reference and the aliases behind it, the outermost one last. -/
inductive Aliased : List Char → List Char → List (List Char) → Prop
  | plain {name : List Char} (h : splitAlias? name = none) : Aliased name name []
  | label {reference expression label name : List Char} {labels : List (List Char)}
      (h : splitAlias? reference = some (expression, label)) (rest : Aliased expression name labels) :
      Aliased reference name (labels ++ [label])

/-- What may stand between an expression and its alias: blanks, or the word `as` with further blanks. -/
inductive IsGap : List Char → Prop
  | blank {gap : List Char} (h : Text.AllBlank gap) (hne : gap ≠ []) : IsGap gap
  | word {front word back : List Char} (hfront : Text.AllBlank front) (hword : IsAs word)
      (hback : Text.AllBlank back) : IsGap (front ++ (word ++ back))

/-- The text is the name and the labels in this order, with gaps in front of the labels and blanks at
    the ends. -/
inductive SetApart : List Char → List Char → List (List Char) → Prop
  | name {front name back : List Char} (hfront : Text.AllBlank front) (hback : Text.AllBlank back) :
      SetApart (front ++ (name ++ back)) name []
  | label {text name gap label back : List Char} {labels : List (List Char)}
      (rest : SetApart text name labels) (hgap : IsGap gap) (hback : Text.AllBlank back) :
      SetApart (text ++ (gap ++ (label ++ back))) name (labels ++ [label])

theorem SetApart.front {front text name : List Char} {labels : List (List Char)}
    (hfront : Text.AllBlank front) (h : SetApart text name labels) :
    SetApart (front ++ text) name labels := by
  induction h with
  | name hbefore hback =>
      rw [← List.append_assoc]
      exact .name (hfront.append hbefore) hback
  | label _ hgap hback ih =>
      rw [← List.append_assoc]
      exact .label ih hgap hback

theorem SetApart.back {text back name : List Char} {labels : List (List Char)}
    (h : SetApart text name labels) (hback : Text.AllBlank back) :
    SetApart (text ++ back) name labels := by
  rcases h with ⟨hfront, hafter⟩ | ⟨rest, hgap, hafter⟩
  · simpa only [List.append_assoc] using SetApart.name hfront (hafter.append hback)
  · simpa only [List.append_assoc] using SetApart.label rest hgap (hafter.append hback)

/-- An expression and its alias are stretches of the reference. -/
theorem splitAlias?_eq_some {reference expression label : List Char}
    (h : splitAlias? reference = some (expression, label)) :
    ∃ front gap back, reference = front ++ expression ++ (gap ++ (label ++ back))
      ∧ Text.AllBlank front ∧ IsGap gap ∧ Text.AllBlank back := by
  unfold splitAlias? at h
  split at h
  · next before after hsplit =>
      obtain ⟨rfl, rfl⟩ := Prod.mk.inj (Option.some.inj h)
      obtain ⟨word, hword, hreference⟩ := splitAs?_eq_some hsplit
      obtain ⟨front, gapFront, hbefore, hfront, hgapFront⟩ := Text.exists_trim before
      obtain ⟨gapBack, back, hafter, hgapBack, hback⟩ := Text.exists_trim after
      refine ⟨front, gapFront ++ (word ++ gapBack), back, ?_, hfront, .word hgapFront hword hgapBack,
        hback⟩
      calc reference = before ++ (word ++ after) := hreference
        _ = (front ++ Text.trim before ++ gapFront)
            ++ (word ++ (gapBack ++ Text.trim after ++ back)) := by rw [← hbefore, ← hafter]
        _ = _ := by simp only [List.append_assoc]
  · split at h
    · next name given hwords =>
        obtain ⟨rfl, rfl⟩ := Prod.mk.inj (Option.some.inj h)
        obtain ⟨front, gap, back, hreference, hfront, hgap, hne, hback, -, -⟩ :=
          Text.exists_of_words_eq_two hwords
        exact ⟨front, gap, back, by simpa using hreference, hfront, .blank hgap hne, hback⟩
    · cases h

/-- **The name and the aliases of a reference stand in it as they are**, set apart by gaps. -/
theorem Aliased.setApart {reference name : List Char} {labels : List (List Char)}
    (h : Aliased reference name labels) : SetApart reference name labels := by
  induction h with
  | @plain name _ =>
      have hname : SetApart ([] ++ (name ++ [])) name [] := .name nofun nofun
      rwa [List.append_nil] at hname
  | label hsplit _ ih =>
      obtain ⟨front, gap, back, rfl, hfront, hgap, hback⟩ := splitAlias?_eq_some hsplit
      exact .label (ih.front hfront) hgap hback

/-! ## Tables with an alias -/

/-- The first `as` is that behind a name without blanks. -/
theorem splitAs?_append {before : List Char} (h : ' ' ∉ before) (after : List Char) :
    splitAs? (before ++ (' ' :: 'a' :: 's' :: ' ' :: after)) = some (before, after) := by
  induction before with
  | nil =>
    have hword : ((' ' :: 'a' :: 's' :: ' ' :: after).take 4).map Char.toLower
        = [' ', 'a', 's', ' '] := rfl
    rw [List.nil_append, splitAs?, if_pos hword]
    rfl
  | cons c rest ih =>
    rw [List.mem_cons, not_or] at h
    have hword : ((c :: (rest ++ (' ' :: 'a' :: 's' :: ' ' :: after))).take 4).map Char.toLower
        ≠ [' ', 'a', 's', ' '] := by
      intro heq
      rw [List.take_succ_cons, List.map_cons, List.cons.injEq] at heq
      exact h.1 (eq_space_of_toLower heq.1).symm
    rw [List.cons_append, splitAs?, if_neg hword, ih h.2]
    rfl

/-- Columns refer to a table with an alias by the alias. -/
theorem tableReference_as {table label : String} (htable : Text.Solid table.toList)
    (hlabel : Text.Solid label.toList) : tableReference (table ++ " as " ++ label) = label := by
  have htoList : (table ++ " as " ++ label).toList
      = table.toList ++ ([' ', 'a', 's', ' '] ++ label.toList) := by
    rw [String.toList_append, String.toList_append, List.append_assoc]
    rfl
  have hspace : ' ' ∉ table.toList := fun hmem =>
    absurd (htable.no_blank ' ' hmem) (by decide)
  have hsplit : splitAlias? (table.toList ++ ([' ', 'a', 's', ' '] ++ label.toList))
      = some (table.toList, label.toList) := by
    unfold splitAlias?
    rw [show splitAs? (table.toList ++ ([' ', 'a', 's', ' '] ++ label.toList)) = _ from
      splitAs?_append hspace label.toList]
    show some (Text.trim table.toList, Text.trim label.toList) = _
    rw [htable.trim_eq, hlabel.trim_eq]
  simp only [tableReference, htoList, htable.trim_between hlabel, hsplit, String.ofList_toList]

/-! ## No more than two aliases -/

/-- A text without blanks has no alias. -/
theorem splitAlias?_of_solid {name : List Char} (h : Text.Solid name) : splitAlias? name = none := by
  have hsplit : splitAs? name = none := by
    refine splitAs?_eq_none_iff.2 fun word hword hwithin => ?_
    have hblank := h.no_blank ' ' (hwithin.subset hword.space_mem)
    exact absurd hblank (by decide)
  rw [splitAlias?, hsplit, h.words_eq]

/-- Columns refer to a table without blanks by its own name. -/
theorem tableReference_of_solid {table : String} (h : Text.Solid table.toList) :
    tableReference table = table := by
  simp only [tableReference, h.trim_eq, splitAlias?_of_solid h, String.ofList_toList]

/-- What is left in front of an alias has one more alias at the most. -/
theorem exists_aliased_of_splitAlias? {reference expression label : List Char}
    (h : splitAlias? reference = some (expression, label)) :
    splitAlias? expression = none
      ∨ ∃ name inner, splitAlias? expression = some (name, inner) ∧ splitAlias? name = none := by
  unfold splitAlias? at h
  split at h
  · next before after hsplit =>
      obtain ⟨rfl, -⟩ := Prod.mk.inj (Option.some.inj h)
      -- no further `as` stands in front of the first one, so two words are all that can be split
      have hno : splitAs? (Text.trim before) = none := by
        have hbefore := splitAs?_eq_none_iff.1 (splitAs?_before hsplit)
        exact splitAs?_eq_none_iff.2 fun word hword hwithin =>
          hbefore word hword (hwithin.trans (Text.trim_infix before))
      unfold splitAlias?
      rw [hno]
      dsimp only
      split
      · next name inner hwords =>
          obtain ⟨_, _, _, _, _, _, _, _, hname, -⟩ := Text.exists_of_words_eq_two hwords
          exact .inr ⟨name, inner, rfl, splitAlias?_of_solid hname⟩
      · exact .inl rfl
  · split at h
    · next name given hwords =>
        obtain ⟨rfl, -⟩ := Prod.mk.inj (Option.some.inj h)
        obtain ⟨_, _, _, _, _, _, _, _, hname, -⟩ := Text.exists_of_words_eq_two hwords
        exact .inl (splitAlias?_of_solid hname)
    · cases h

/-- **What is written for a reference** without a parenthesis is its name, with its aliases behind it,
    of which there are two at the most. -/
theorem exists_aliased (q : Char) (reference : List Char) (h : '(' ∉ reference) :
    ∃ name labels, Aliased (Text.trim reference) name labels ∧ labels.length ≤ 2
      ∧ quoteColumn q reference = quoteDotted q name ++ labels.flatMap (aliasSuffix q) := by
  have htrim : (Text.trim reference).contains '(' = false := by
    rw [List.contains_eq_mem, decide_eq_false_iff_not]
    exact fun hmem => h ((Text.trim_infix reference).subset hmem)
  simp only [quoteColumn, htrim, Bool.false_eq_true, if_false]
  rcases hsplit : splitAlias? (Text.trim reference) with _ | ⟨expression, label⟩
  · exact ⟨_, [], .plain hsplit, by simp, by simp⟩
  · rcases exists_aliased_of_splitAlias? hsplit with hinner | ⟨name, inner, hinner, hname⟩
    · refine ⟨expression, [label], .label hsplit (.plain hinner), by simp, ?_⟩
      simp [quoteAliased, hinner]
    · refine ⟨name, [inner, label], .label hsplit (.label hinner (.plain hname)), by simp, ?_⟩
      simp [quoteAliased, hinner]

end QueryKit.Sql
