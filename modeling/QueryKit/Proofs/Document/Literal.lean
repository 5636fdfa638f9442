import QueryKit.Proofs.Document.Matching

set_option autoImplicit false

/-! # Values in document filters

Values and operators share the syntax of a filter. Every name in the filter of a query stands there as
an operator or a field that the filter is made of, or is one of the names in a value
(`Filter.names_toJson`). Where a value is tested by an operator it is read as a value, whatever it
holds. A value that a field must equal is written bare, and is read as a value only if it does not look
like operators itself (`values_read_as_values`). -/

namespace QueryKit

/-! ## Names in JSON -/

namespace Json

mutual

/-- The names of fields in a value, at any depth. -/
def names : Json → List String
  | .array items => namesOfItems items
  | .object fields => namesOfFields fields
  | _ => []

/-- The names in every item. -/
def namesOfItems : List Json → List String
  | [] => []
  | item :: rest => item.names ++ namesOfItems rest

/-- The names of fields with those in their values. -/
def namesOfFields : List (String × Json) → List String
  | [] => []
  | (name, value) :: rest => name :: value.names ++ namesOfFields rest

end

theorem names_array (items : List Json) : (Json.array items).names = items.flatMap names := by
  rw [names]
  induction items with
  | nil => rfl
  | cons item rest ih => rw [namesOfItems, ih, List.flatMap_cons]

theorem names_object (fields : List (String × Json)) :
    (Json.object fields).names = fields.flatMap fun field => field.1 :: field.2.names := by
  rw [names]
  induction fields with
  | nil => rfl
  | cons field rest ih => rw [namesOfFields, ih, List.flatMap_cons]

theorem names_ofFields {fields : List (String × Json)} (h : (fields.map Prod.fst).Nodup) :
    (Json.ofFields fields).names.Perm (fields.flatMap fun field => field.1 :: field.2.names) := by
  rw [ofFields, names_object]
  exact (sortFields_perm h).flatMap_right _

end Json

namespace Document

@[simp] theorem names_single (name : String) (test : Json) :
    (single name test).names = name :: test.names := by
  rw [single, Json.names_object, List.flatMap_cons, List.flatMap_nil, List.append_nil]

/-! ## Names in a filter -/

/-- The names in the written form of a test. -/
def FieldTest.names (t : FieldTest) : List String :=
  t.field :: t.predicate.toJson.names

/-- The operator that joins tests that must all hold, if they are not the fields of one object. -/
def conjunctionNames (tests : List FieldTest) : List String :=
  if allDistinct (tests.map (·.field)) then [] else ["$and"]

theorem names_conjunctionJson (tests : List FieldTest) :
    (conjunctionJson tests).names.Perm (conjunctionNames tests ++ tests.flatMap FieldTest.names) := by
  rw [conjunctionJson, conjunctionNames]
  by_cases h : allDistinct (tests.map (·.field)) = true
  · rw [if_pos h, if_pos h, List.nil_append]
    rw [allDistinct_iff_nodup] at h
    have hnodup : ((tests.map fun t => (t.field, t.predicate.toJson)).map Prod.fst).Nodup := by
      simpa [Function.comp_def] using h
    have hfields := Json.names_ofFields hnodup
    rwa [List.flatMap_map] at hfields
  · rw [if_neg h, if_neg h, names_single, Json.names_array, List.flatMap_map, List.singleton_append]
    refine .cons _ (.of_eq ?_)
    congr 1
    funext t
    exact names_single ..

/-- The operators that join the tests of a filter. -/
def Filter.joinNames (f : Filter) : List String :=
  (if 2 ≤ f.length then ["$or"] else []) ++ f.flatMap conjunctionNames

/-- The names in a filter are those of its tests and the operators that join them. -/
theorem Filter.names_toJson (f : Filter) :
    f.toJson.names.Perm (f.joinNames ++ f.flatten.flatMap FieldTest.names) := by
  have hbranches : ∀ f : Filter, (f.flatMap fun tests => (conjunctionJson tests).names).Perm
      (f.flatMap conjunctionNames ++ f.flatten.flatMap FieldTest.names) := by
    intro f
    rw [List.flatten_eq_flatMap, List.flatMap_assoc]
    exact (List.Perm.flatMap_left f fun tests _ => names_conjunctionJson tests).trans
      (List.flatMap_append_perm ..).symm
  match f with
  | [] => exact .refl _
  | [tests] =>
    have htests := hbranches [tests]
    rw [List.flatMap_cons, List.flatMap_nil, List.append_nil] at htests
    exact htests
  | first :: second :: rest =>
    show (single "$or" (.array ((first :: second :: rest).map conjunctionJson))).names.Perm _
    rw [names_single, Json.names_array, List.flatMap_map, joinNames, if_pos (by simp),
      List.singleton_append, List.cons_append]
    exact (hbranches (first :: second :: rest)).cons _

/-! ## Names in a condition -/

/-- The condition tests a column for equality with a value, for one of several, or for a range. -/
def TestsValues : Condition → Prop
  | .compare _ op _ => op = "="
  | .oneOf .. | .between .. => True
  | .isNull .. | .raw .. | .nested .. | .compareColumns .. => False

/-- The operators that the test of such a condition is written with. -/
def operatorNames : Condition → List String
  | .oneOf _ _ negated => [if negated then "$nin" else "$in"]
  | .between _ _ _ negated => (if negated then ["$not"] else []) ++ ["$gte", "$lte"]
  | .compare .. | .isNull .. | .raw .. | .nested .. | .compareColumns .. => []

/-- The names that stand in the values of a condition. -/
def valueNames (c : Condition) : List String :=
  c.values.flatMap fun v => v.toJson.names

theorem names_bounds (low high : Json) (negated : Bool) :
    (negatedIf negated (.ofFields [("$gte", low), ("$lte", high)])).names.Perm
      (((if negated then ["$not"] else []) ++ ["$gte", "$lte"]) ++ (low.names ++ high.names)) := by
  have hbounds : (Json.ofFields [("$gte", low), ("$lte", high)]).names.Perm
      (["$gte", "$lte"] ++ (low.names ++ high.names)) := by
    rw [ofFields_bounds, Json.names_object]
    simp only [List.flatMap_cons, List.flatMap_nil, List.append_nil, List.cons_append, List.nil_append]
    exact .cons _ List.perm_middle
  cases negated with
  | false => exact hbounds
  | true =>
    rw [negatedIf, if_pos rfl, names_single]
    exact hbounds.cons _

theorem TestsValues.isLiteral {c : Condition} (h : TestsValues c)
    (hvalue : ∀ column v, c = .compare column "=" v → isOperators v.toJson = false) : IsLiteral c := by
  cases c with
  | compare column op v =>
    subst h
    exact Or.inl ⟨rfl, hvalue column v rfl⟩
  | oneOf | between => trivial
  | isNull | raw | nested | compareColumns => exact h.elim

/-- The names in the test of a condition. -/
theorem TestsValues.names {q : Query} {c : Condition} (h : TestsValues c) :
    ∃ column t, c.column? = some column ∧ fieldTest q c = .ok t
      ∧ t.names.Perm (fieldOf q column :: operatorNames c ++ valueNames c) := by
  cases c with
  | compare column op v =>
    subst h
    refine ⟨column, _, rfl, rfl, .of_eq ?_⟩
    rw [valueNames, Condition.values, List.flatMap_cons, List.flatMap_nil, List.append_nil]
    rfl
  | oneOf column vs negated =>
    refine ⟨column, _, rfl, rfl, .of_eq ?_⟩
    rw [FieldTest.names, Predicate.toJson, names_single, Json.names_array, List.flatMap_map]
    rfl
  | between column low high negated =>
    refine ⟨column, _, rfl, rfl, .cons _ ?_⟩
    rw [valueNames, Condition.values, List.flatMap_cons, List.flatMap_cons, List.flatMap_nil,
      List.append_nil]
    exact names_bounds low.toJson high.toJson negated
  | isNull | raw | nested | compareColumns => exact h.elim

theorem TestsValues.exists_filterOf {q : Query} (h : ∀ w ∈ q.wheres, TestsValues w.condition) :
    ∃ f, filterOf q = .ok f
      ∧ f.toJson.names.Perm (f.joinNames ++ q.wheres.flatMap fun w =>
          (w.condition.column?.map (fieldOf q)).toList ++ operatorNames w.condition
            ++ valueNames w.condition) := by
  have hmade : ∀ w ∈ q.wheres, ∃ e : Connective × FieldTest,
      (fieldTest q w.condition).map (w.connective, ·) = .ok e
        ∧ e.2.names.Perm ((w.condition.column?.map (fieldOf q)).toList ++ operatorNames w.condition
            ++ valueNames w.condition) := by
    intro w hw
    obtain ⟨column, t, hcolumn, ht, hnames⟩ := (h w hw).names (q := q)
    refine ⟨(w.connective, t), by rw [ht]; rfl, ?_⟩
    rwa [hcolumn]
  obtain ⟨tests, htests⟩ := exists_forall₂_iff.2 hmade
  refine ⟨alternatives tests, filterOf_eq_ok_iff.2 ⟨tests, htests.imp fun _ _ he => he.1, rfl⟩, ?_⟩
  refine (Filter.names_toJson _).trans (.append_left _ ?_)
  rw [flatten_alternatives, List.flatMap_map]
  generalize q.wheres = wheres at htests
  induction htests with
  | nil => exact .refl _
  | cons he _ ih =>
    rw [List.flatMap_cons, List.flatMap_cons]
    exact he.2.append ih

/-! ## Reading of values -/

namespace Matcher

open Classical in
/-- The store in which only the same values are equal, and no value compares with another. -/
noncomputable def literal : Matcher where
  equal x v := decide (x = some v)
  compare _ _ _ := false
  other _ _ _ := false

theorem literal_equal (x : Option Json) (v : Json) : literal.equal x v = true ↔ x = some v := by
  simp [literal]

variable {a b : Json}

/-- No value stands inside of itself, so operators inside of two values do not tell them apart. -/
theorem literal_operator (name : String) {operand : Json} (ha : sizeOf operand < sizeOf a)
    (hb : sizeOf operand < sizeOf b) :
    literal.operator (some a) name operand = literal.operator (some b) name operand := by
  have hany : ∀ (x : Json) (items : List Json), sizeOf (Json.array items) < sizeOf x →
      items.any (literal.equal (some x)) = false := by
    intro x items hx
    rw [List.any_eq_false]
    intro item hitem heq
    have hlt := List.sizeOf_lt_of_mem hitem
    rw [Option.some.inj ((literal_equal ..).1 heq), Json.array.sizeOf_spec] at hx
    omega
  unfold operator
  split
  · rfl
  · split
    · rfl
    · rw [hany a _ ha, hany b _ hb]
    · rw [hany a _ ha, hany b _ hb]
    · rfl

mutual

theorem literal_operate (name : String) (operand : Json) (ha : sizeOf operand < sizeOf a)
    (hb : sizeOf operand < sizeOf b) :
    literal.operate (some a) name operand = literal.operate (some b) name operand := by
  match operand with
  | .object fields =>
    rw [operate, operate, literal_operator name ha hb]
    rw [Json.object.sizeOf_spec] at ha hb
    rw [literal_operateAll fields (by omega) (by omega)]
  | .null | .bool _ | .number _ | .string _ | .array _ =>
    exact literal_operator name ha hb

theorem literal_operateAll (fields : List (String × Json)) (ha : sizeOf fields < sizeOf a)
    (hb : sizeOf fields < sizeOf b) :
    literal.operateAll (some a) fields = literal.operateAll (some b) fields := by
  match fields with
  | [] => rfl
  | (name, operand) :: rest =>
    rw [List.cons.sizeOf_spec, Prod.mk.sizeOf_spec] at ha hb
    rw [operateAll, operateAll, literal_operate name operand (by omega) (by omega),
      literal_operateAll rest (by omega) (by omega)]

end

/-- A test passes for the values that are the same, and for no others, exactly if it does not look like
    operators. -/
theorem literal_passes_iff (test : Json) :
    (∀ x, literal.passes x test = true ↔ x = some test) ↔ isOperators test = false := by
  refine ⟨fun h => ?_, fun h x => ?_⟩
  · by_contra hoperators
    rw [Bool.not_eq_false] at hoperators
    cases test with
    | object fields =>
      -- the operators hold for the value itself, and then also for a list of it
      have hself := (h (some (.object fields))).2 rfl
      have hother := (h (some (.array [.object fields]))).1
      rw [passes_of_isOperators _ _ hoperators] at hself hother
      have hsize : sizeOf fields < sizeOf (Json.object fields) := by
        rw [Json.object.sizeOf_spec]
        omega
      have hsize' : sizeOf fields < sizeOf (Json.array [.object fields]) := by
        rw [Json.array.sizeOf_spec, List.cons.sizeOf_spec]
        omega
      rw [literal_operateAll fields hsize hsize'] at hself
      cases hother hself
    | _ => cases hoperators
  · rw [passes_of_isOperators_eq_false _ _ h]
    exact literal_equal x test

end Matcher

/-- **Where values are read as values.** A query that tests columns for equality, for one of several
    values, or for a range has a filter. Every name in it is one of an operator that the filter is made
    of, of a field, or in a value. The test for equality with a value passes for exactly the fields that
    hold the value if and only if the value does not look like operators. And if no value that a field
    must equal does, then every store reads the filter as the list of conditions, with all values taken
    as they are. -/
theorem values_read_as_values {q : Query} (h : ∀ w ∈ q.wheres, TestsValues w.condition) :
    ∃ f, filterOf q = .ok f
      ∧ f.toJson.names.Perm (f.joinNames ++ q.wheres.flatMap fun w =>
          (w.condition.column?.map (fieldOf q)).toList ++ operatorNames w.condition
            ++ valueNames w.condition)
      ∧ (∀ column v, ∃ t, fieldTest q (.compare column "=" v) = .ok t ∧ t.field = fieldOf q column
          ∧ ((∀ x, Matcher.literal.passes x t.predicate.toJson = true ↔ x = some v.toJson)
            ↔ isOperators v.toJson = false))
      ∧ ((∀ w ∈ q.wheres, ∀ column, w.condition.column? = some column → IsPlain (fieldOf q column)) →
          (∀ w ∈ q.wheres, ∀ column v, w.condition = .compare column "=" v →
            isOperators v.toJson = false) →
          ∀ (m : Matcher) (document : Json), m.accepts f.toJson document
            = Connective.truth (q.wheres.map fun w =>
                (w.connective, m.meets (fieldValue q document w.condition) w.condition))) := by
  obtain ⟨f, hf, hnames⟩ := TestsValues.exists_filterOf h
  refine ⟨f, hf, hnames, fun column v => ?_, fun hplain hvalues => ?_⟩
  · exact ⟨⟨fieldOf q column, .equals v.toJson⟩, rfl, rfl, Matcher.literal_passes_iff v.toJson⟩
  · have hliteral : ∀ w ∈ q.wheres, IsLiteral w.condition :=
      fun w hw => (h w hw).isLiteral (hvalues w hw)
    have htested : ∀ w ∈ q.wheres, IsTested q w.condition := by
      intro w hw
      obtain ⟨column, test, hcolumn, htest, -⟩ := (hliteral w hw).exists_test
      exact ⟨column, test, htest, fun ρ => holdsField_of_isPlain ρ (hplain w hw column hcolumn) test⟩
    obtain ⟨f', hf', haccepts⟩ := exists_filter_accepts hliteral htested
    cases hf.symm.trans hf'
    exact haccepts

/-- Names with the sign of operators in a list of values, and deeper in a value that is tested for. -/
theorem values_read_as_values_nested :
    ∃ (q : Query) (f : Filter),
      q.wheres =
        [⟨.and, .compare "a" "=" (.json (.object [("b", .object [("$ne", .null)])]))⟩,
          ⟨.or, .oneOf "c" [.json (.object [("$gt", .int 1)])] false⟩]
      ∧ filterOf q = .ok f
      ∧ f.toJson.names.Perm (["$or"] ++ (["a", "b", "$ne"] ++ ["c", "$in", "$gt"]))
      ∧ ∀ (m : Matcher) (document : Json), m.accepts f.toJson document
          = (m.equal (document.field? "a") (.object [("b", .object [("$ne", .null)])])
            || m.equal (document.field? "c") (.object [("$gt", .int 1)])) := by
  obtain ⟨f, hf, hnames, -, hmeans⟩ := @values_read_as_values
    { table := "t"
      wheres :=
        [⟨.and, .compare "a" "=" (.json (.object [("b", .object [("$ne", .null)])]))⟩,
          ⟨.or, .oneOf "c" [.json (.object [("$gt", .int 1)])] false⟩] }
    (List.forall_mem_cons.2 ⟨rfl, List.forall_mem_singleton.2 trivial⟩)
  have hplain : ∀ w ∈
      [Where.mk .and (.compare "a" "=" (.json (.object [("b", .object [("$ne", .null)])]))),
        ⟨.or, .oneOf "c" [.json (.object [("$gt", .int 1)])] false⟩],
      ∀ column, w.condition.column? = some column → IsPlain (fieldOf { table := "t" } column) := by
    simp only [List.forall_mem_cons]
    exact ⟨by rintro _ ⟨⟩; rfl, by rintro _ ⟨⟩; rfl, nofun⟩
  have hvalues : ∀ w ∈
      [Where.mk .and (.compare "a" "=" (.json (.object [("b", .object [("$ne", .null)])]))),
        ⟨.or, .oneOf "c" [.json (.object [("$gt", .int 1)])] false⟩],
      ∀ column v, w.condition = .compare column "=" v → isOperators v.toJson = false := by
    simp only [List.forall_mem_cons]
    exact ⟨by rintro _ _ ⟨⟩; rfl, by rintro _ _ ⟨⟩, nofun⟩
  have hmade : f = [[⟨"a", .equals (.object [("b", .object [("$ne", .null)])])⟩],
      [⟨"c", .oneOf [.object [("$gt", .int 1)]] false⟩]] := (Except.ok.inj hf).symm
  refine ⟨_, f, rfl, hf, ?_, fun m document => ?_⟩
  · rw [hmade] at hnames ⊢
    exact hnames
  · rw [hmeans hplain hvalues]
    show (_ || ((m.equal (document.field? "c") _ || false) ^^ false)) = _
    rw [Bool.xor_false, Bool.or_false]
    rfl

end Document

end QueryKit
