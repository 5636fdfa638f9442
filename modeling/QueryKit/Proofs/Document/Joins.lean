import QueryKit.Proofs.Document.Reads

set_option autoImplicit false

/-! # Sides of joins

The condition of a join compares a column of the query with a column of the joined collection. Which of
its sides is which is told by the first one: it is the joined collection's if it is qualified by the
joined reference, and the query's own if not (`sides`). Then the query's own side is checked, but the
other one is not. So the second side may belong to any collection, as long as the first one can be the
query's own (`Strays`). -/

namespace QueryKit

namespace Document

/-! ## Qualifiers -/

/-- The name by which columns refer to the query's own table. -/
abbrev ownReference (q : Query) : String := Sql.tableReference q.table

/-- The name by which columns refer to the joined collection. -/
abbrev joinedReference (j : Join) : String := Sql.tableReference j.table

/-- A column without a qualifier, or with this one. -/
def NamedBy (reference column : String) : Prop :=
  ∀ name, qualifier? column = some name → name = reference

theorem namedBy_of_qualifier? {reference column : String} (h : qualifier? column = some reference) :
    NamedBy reference column :=
  fun _ hname => Option.some.inj (hname.symm.trans h)

/-- A column is not qualified by two references. -/
theorem NamedBy.qualifier?_ne {reference other column : String} (h : NamedBy reference column)
    (hne : other ≠ reference) : qualifier? column ≠ some other :=
  fun hother => hne (h other hother)

theorem any_qualifier?_eq_false_iff {reference column : String} :
    (qualifier? column).any (· != reference) = false ↔ NamedBy reference column := by
  rw [NamedBy]
  cases qualifier? column <;> simp

instance (reference column : String) : Decidable (NamedBy reference column) :=
  decidable_of_iff _ any_qualifier?_eq_false_iff

/-! ## Conditions -/

/-- The side of a condition that is taken for the query's own, and the one that is taken for that of the
    joined collection. -/
def sides (j : Join) (on : JoinCondition) : String × String :=
  if qualifier? on.first = some (joinedReference j) then (on.second, on.first)
  else (on.first, on.second)

/-- The condition with its sides the other way round. -/
def swapped (on : JoinCondition) : JoinCondition :=
  { on with first := on.second, second := on.first }

/-- The column is qualified by the reference of another collection. -/
def IsOther (q : Query) (j : Join) (column : String) : Prop :=
  ¬ NamedBy (ownReference q) column ∧ ¬ NamedBy (joinedReference j) column

/-- A side of the condition belongs to another collection. -/
def NamesOther (q : Query) (j : Join) (on : JoinCondition) : Prop :=
  IsOther q j on.first ∨ IsOther q j on.second

/-- The first side can be the query's own, and the second one cannot be the joined collection's. -/
def Strays (q : Query) (j : Join) (on : JoinCondition) : Prop :=
  NamedBy (ownReference q) on.first ∧ ¬ NamedBy (joinedReference j) on.second

instance (q : Query) (j : Join) (on : JoinCondition) : Decidable (NamesOther q j on) :=
  inferInstanceAs (Decidable ((_ ∧ _) ∨ (_ ∧ _)))

instance (q : Query) (j : Join) (on : JoinCondition) : Decidable (Strays q j on) :=
  inferInstanceAs (Decidable (_ ∧ _))

variable {q : Query} {j : Join} {on : JoinCondition}

theorem sides_cases (j : Join) (on : JoinCondition) :
    qualifier? on.first = some (joinedReference j) ∧ sides j on = (on.second, on.first)
      ∨ qualifier? on.first ≠ some (joinedReference j) ∧ sides j on = (on.first, on.second) := by
  by_cases hfirst : qualifier? on.first = some (joinedReference j)
  · exact .inl ⟨hfirst, if_pos hfirst⟩
  · exact .inr ⟨hfirst, if_neg hfirst⟩

/-- The side that is not taken for the query's own can be the joined collection's, unless the condition
    strays. -/
theorem namedBy_sides_iff (hne : joinedReference j ≠ ownReference q)
    (hown : NamedBy (ownReference q) (sides j on).1) :
    NamedBy (joinedReference j) (sides j on).2 ↔ ¬ Strays q j on := by
  rcases sides_cases j on with ⟨hfirst, hsides⟩ | ⟨-, hsides⟩
  · -- the first side is the joined collection's, so it is not the query's own
    rw [hsides]
    exact iff_of_true (namedBy_of_qualifier? hfirst) fun hstrays =>
      hstrays.1.qualifier?_ne hne hfirst
  · rw [hsides] at hown ⊢
    rw [Strays, not_and_not_right]
    exact ⟨fun hsecond _ => hsecond, fun hsecond => hsecond hown⟩

/-- If the query's own side can be that, then another collection is named only where the condition
    strays. -/
theorem strays_of_namesOther (hown : NamedBy (ownReference q) (sides j on).1)
    (hother : NamesOther q j on) : Strays q j on := by
  rcases sides_cases j on with ⟨hfirst, hsides⟩ | ⟨-, hsides⟩
  · rw [hsides] at hown
    rcases hother with hother | hother
    · exact absurd (namedBy_of_qualifier? hfirst) hother.2
    · exact absurd hown hother.1
  · rw [hsides] at hown
    rcases hother with hother | hother
    · exact absurd hown hother.1
    · exact ⟨hown, hother.2⟩

/-- If exactly one side is qualified by the joined reference, the order of the sides makes no
    difference. -/
theorem sides_swapped
    (h : qualifier? on.first = some (joinedReference j)
      ↔ ¬ qualifier? on.second = some (joinedReference j)) :
    sides j (swapped on) = sides j on := by
  unfold sides swapped
  by_cases hfirst : qualifier? on.first = some (joinedReference j)
  · rw [if_pos hfirst, if_neg (h.1 hfirst)]
  · rw [if_neg hfirst, if_pos (not_not.1 (mt h.2 hfirst))]

/-! ## Lookups -/

/-- The lookup for a join with a condition. -/
def lookupFor (q : Query) (j : Join) (on : JoinCondition) (preserveUnmatched : Bool) : Lookup where
  source := tableName j.table
  localField := fieldOf q (sides j on).1
  foreignField := foreignFieldOf (sides j on).2
  target := joinedReference j
  preserveUnmatched := preserveUnmatched

/-- What is checked of a join with a condition. -/
theorem lookupOf_eq (h : j.condition = some on) :
    lookupOf q j = keepsUnmatched j.kind >>= fun preserveUnmatched =>
      if on.operator != "=" then unsupported .joinNotByEquality
      else if (qualifier? (sides j on).1).any (· != ownReference q) then unsupported .joinOnJoined
      else .ok (lookupFor q j on preserveUnmatched) := by
  rw [lookupOf, h]
  unfold lookupFor
  rcases sides_cases j on with ⟨hfirst, hsides⟩ | ⟨hfirst, hsides⟩
  · simp only [hsides, hfirst, beq_self_eq_true, if_true]
  · simp only [hsides, beq_false_of_ne hfirst, Bool.false_eq_true, if_false]

theorem lookupOf_eq_ok_iff_of_condition (h : j.condition = some on) {l : Lookup} :
    lookupOf q j = .ok l ↔ ∃ preserveUnmatched, keepsUnmatched j.kind = .ok preserveUnmatched
      ∧ on.operator = "=" ∧ NamedBy (ownReference q) (sides j on).1
      ∧ lookupFor q j on preserveUnmatched = l := by
  rw [lookupOf_eq h, bind_eq_ok_iff]
  refine exists_congr fun preserveUnmatched => and_congr_right fun _ => ?_
  rw [← any_qualifier?_eq_false_iff]
  by_cases hequals : on.operator = "="
  · cases (qualifier? (sides j on).1).any (· != ownReference q) <;> simp [hequals, unsupported]
  · simp [hequals, unsupported]

theorem exists_condition_of_lookupOf {l : Lookup} (h : lookupOf q j = .ok l) :
    ∃ on, j.condition = some on := by
  cases hcondition : j.condition with
  | some on => exact ⟨on, rfl⟩
  | none =>
    rw [lookupOf, hcondition, bind_eq_ok_iff] at h
    obtain ⟨_, -, ⟨⟩⟩ := h

/-- A condition that strays is not refused for its sides. -/
theorem exists_lookupOf_of_strays (hne : joinedReference j ≠ ownReference q)
    (hkind : j.kind = .inner ∨ j.kind = .left) (hcondition : j.condition = some on)
    (hequals : on.operator = "=") (hstrays : Strays q j on) :
    ∃ l, lookupOf q j = .ok l ∧ l.foreignField = foreignFieldOf on.second := by
  have hsides : sides j on = (on.first, on.second) := if_neg (hstrays.1.qualifier?_ne hne)
  obtain ⟨preserveUnmatched, hkeeps⟩ : ∃ keeps, keepsUnmatched j.kind = .ok keeps := by
    rcases hkind with hkind | hkind <;> rw [hkind] <;> exact ⟨_, rfl⟩
  refine ⟨lookupFor q j on preserveUnmatched, ?_, ?_⟩
  · rw [lookupOf_eq_ok_iff_of_condition hcondition, hsides]
    exact ⟨preserveUnmatched, hkeeps, hequals, hstrays.1, rfl⟩
  · rw [lookupFor, hsides]

theorem lookupOf_swapped (hcondition : j.condition = some on)
    (h : qualifier? on.first = some (joinedReference j)
      ↔ ¬ qualifier? on.second = some (joinedReference j)) :
    lookupOf q { j with condition := some (swapped on) } = lookupOf q j := by
  have hswapped : ({ j with condition := some (swapped on) } : Join).condition = some (swapped on) :=
    rfl
  rw [lookupOf_eq hcondition, lookupOf_eq hswapped]
  unfold lookupFor
  rw [show sides { j with condition := some (swapped on) } (swapped on) = sides j on from
    sides_swapped h]
  rfl

/-! ## Lookups of reads -/

/-- The lookup is for the condition of the join: it compares the field of one side, which is the query's
    own, with the field of the other. -/
structure ComparesSides (q : Query) (j : Join) (own foreign : String) (l : Lookup) : Prop where
  condition : ∃ on, j.condition = some on ∧ on.operator = "="
    ∧ (own = on.first ∧ foreign = on.second ∨ own = on.second ∧ foreign = on.first)
  named : NamedBy (ownReference q) own
  localField : l.localField = fieldOf q own
  foreignField : l.foreignField = foreignFieldOf foreign
  source : l.source = tableName j.table
  target : l.target = joinedReference j

theorem exists_comparesSides {l : Lookup} (h : lookupOf q j = .ok l)
    (hne : joinedReference j ≠ ownReference q) :
    ∃ on own foreign, j.condition = some on ∧ ComparesSides q j own foreign l
      ∧ (NamedBy (joinedReference j) foreign ↔ ¬ Strays q j on) := by
  obtain ⟨on, hcondition⟩ := exists_condition_of_lookupOf h
  obtain ⟨_, -, hequals, hown, rfl⟩ := (lookupOf_eq_ok_iff_of_condition hcondition).1 h
  refine ⟨on, (sides j on).1, (sides j on).2, hcondition, ⟨⟨on, hcondition, hequals, ?_⟩, hown, rfl,
    rfl, rfl, rfl⟩, namedBy_sides_iff hne hown⟩
  rcases sides_cases j on with ⟨-, hsides⟩ | ⟨-, hsides⟩ <;> simp [hsides]

/-- **Lookups compare the sides that joins name, unless the condition strays.** Let no joined reference
    be the query's own. If a read is compiled, each of its lookups compares the two sides of the
    condition; the one that is taken for the query's own can be that, and the one that is taken for the
    joined collection's can be that exactly if the condition does not stray. A condition that names
    another collection is refused unless it strays, and then it is not. If exactly one side is qualified
    by the joined reference, the order of the sides makes no difference. -/
theorem lookups_compare_sides_unless_strays {q : Query}
    (hne : ∀ j ∈ q.joins, joinedReference j ≠ ownReference q) :
    (∀ c, compileFind q = .ok c →
        List.Forall₂ (fun j l => ∃ on own foreign, j.condition = some on
            ∧ ComparesSides q j own foreign l
            ∧ (NamedBy (joinedReference j) foreign ↔ ¬ Strays q j on))
          q.joins c.options.lookups)
      ∧ (∀ j ∈ q.joins, ∀ on, j.condition = some on → NamesOther q j on → ¬ Strays q j on →
          ∃ construct, compileFind q = unsupported construct)
      ∧ (∀ j ∈ q.joins, ∀ on, j.condition = some on → on.operator = "=" →
          (j.kind = .inner ∨ j.kind = .left) → Strays q j on →
          ∃ l, lookupOf q j = .ok l ∧ l.foreignField = foreignFieldOf on.second)
      ∧ ∀ j ∈ q.joins, ∀ on, j.condition = some on →
          (qualifier? on.first = some (joinedReference j)
            ↔ ¬ qualifier? on.second = some (joinedReference j)) →
          lookupOf q { j with condition := some (swapped on) } = lookupOf q j := by
  refine ⟨fun c hc => ?_, fun j hj on hon hother hstrays => ?_, fun j hj on hon hequals hkind hstrays =>
    exists_lookupOf_of_strays (hne j hj) hkind hon hequals hstrays,
    fun j _ on hon hone => lookupOf_swapped hon hone⟩
  · have hlookups := mapM_eq_ok_iff.1 (found_of_compileFind hc).lookups
    refine ((List.forall₂_and_left _ _).2 ⟨fun j hj => hj, hlookups⟩).imp ?_
    rintro j l ⟨hj, hl⟩
    exact exists_comparesSides hl (hne j hj)
  · refine (onlyRefuses_compileFind q).refused fun c hc => hstrays ?_
    obtain ⟨l, hl⟩ := exists_forall₂_iff.1 ⟨_, mapM_eq_ok_iff.1 (found_of_compileFind hc).lookups⟩ j hj
    obtain ⟨_, -, -, hown, -⟩ := (lookupOf_eq_ok_iff_of_condition hon).1 hl
    exact strays_of_namesOther hown hother

/-- A join under an alias, and one whose second side strays. With its sides the other way round, the
    latter is refused. -/
theorem lookups_compare_sides_unless_strays_tags :
    ∃ (author tags strayed : Join) (c : Command),
      author = ⟨.left, "users as author", some ⟨"author.id", "=", "posts.user_id"⟩⟩
      ∧ tags = ⟨.inner, "tags", some ⟨"posts.tag_id", "=", "users.id"⟩⟩
      ∧ strayed = ⟨.inner, "tags", some ⟨"users.id", "=", "posts.tag_id"⟩⟩
      ∧ compileFind { table := "posts", joins := [author, tags] } = .ok c
      ∧ c.options.lookups
        = [⟨"users", "user_id", "_id", "author", true⟩, ⟨"tags", "tag_id", "_id", "tags", false⟩]
      ∧ List.Forall₂ (fun j l => ∃ on own foreign, j.condition = some on
            ∧ ComparesSides { table := "posts", joins := [author, tags] } j own foreign l
            ∧ (NamedBy (joinedReference j) foreign
              ↔ ¬ Strays { table := "posts", joins := [author, tags] } j on))
          [author, tags] c.options.lookups
      ∧ ∃ construct,
          compileFind { table := "posts", joins := [author, strayed] } = unsupported construct := by
  have hne : ∀ on : JoinCondition,
      ∀ j ∈ [⟨.left, "users as author", some ⟨"author.id", "=", "posts.user_id"⟩⟩,
        ⟨.inner, "tags", some on⟩], joinedReference j ≠ ownReference { table := "posts" } := by
    intro on
    simp only [List.forall_mem_cons]
    exact ⟨by decide, (by decide : Sql.tableReference "tags" ≠ Sql.tableReference "posts"), nofun⟩
  refine ⟨_, _, _, _, rfl, rfl, rfl, rfl, rfl, ?_, ?_⟩
  · exact (lookups_compare_sides_unless_strays (hne _)).1 _ rfl
  · exact (lookups_compare_sides_unless_strays (hne _)).2.1 _
      (List.mem_cons_of_mem _ List.mem_cons_self) _ rfl (by decide) (by decide)

end Document

end QueryKit
