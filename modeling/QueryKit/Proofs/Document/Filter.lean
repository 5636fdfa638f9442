import QueryKit.Proofs.Document.Truth
import QueryKit.Proofs.Steps

set_option autoImplicit false

/-! # What the filter of a query means

Every condition that documents can express stands for a test of one field (`testOf?`). The filter of a
query consists of these tests, so it has the truth of the list of conditions whichever tests are true;
and a query with any other condition has no filter. -/

namespace QueryKit

namespace Document

variable (ρ : String → Json → Bool)

/-! ## Tests of conditions -/

/-- The operator of documents for a comparison that is not by pattern and not for equality. -/
def comparisonOperator? : String → Option String
  | "!=" => some "$ne"
  | "<>" => some "$ne"
  | ">" => some "$gt"
  | ">=" => some "$gte"
  | "<" => some "$lt"
  | "<=" => some "$lte"
  | _ => none

/-- A comparison by pattern: whether it ignores case, and whether it is negated. -/
def patternOperator? : String → Option (Bool × Bool)
  | "LIKE" => some (false, false)
  | "ILIKE" => some (true, false)
  | "NOT LIKE" => some (false, true)
  | "NOT ILIKE" => some (true, true)
  | _ => none

/-- The test for a pattern. -/
def patternTest (ignoreCase negated : Bool) (pattern : String) : Json :=
  negatedIf negated (.ofFields
    [("$regex", .string (patternRegex pattern)),
      ("$options", .string (if ignoreCase then "i" else ""))])

/-- The test that a comparison with a value stands for. Patterns are texts. -/
def comparisonTest? (op : String) (value : Value) : Option Json :=
  if op = "=" then some value.toJson
  else match comparisonOperator? op, patternOperator? op with
    | some operator, _ => some (single operator value.toJson)
    | none, some (ignoreCase, negated) => value.text?.map (patternTest ignoreCase negated)
    | none, none => none

/-- The column that a condition tests, and the test that it stands for. Conditions in SQL, groups and
    comparisons of columns have no such test. -/
def testOf? : Condition → Option (String × Json)
  | .compare column op value => (comparisonTest? op value).map fun test => (column, test)
  | .oneOf column values negated =>
    some (column, single (if negated then "$nin" else "$in") (.array (values.map Value.toJson)))
  | .isNull column negated => some (column, single "$exists" (.bool negated))
  | .between column low high negated =>
    some (column, negatedIf negated (.ofFields [("$gte", low.toJson), ("$lte", high.toJson)]))
  | .raw .. => none
  | .nested .. => none
  | .compareColumns .. => none

theorem testOf?_eq_none_of_column? {c : Condition} (h : c.column? = none) : testOf? c = none := by
  cases c with
  | compare | oneOf | isNull | between => cases h
  | raw | nested | compareColumns => rfl

theorem toOption_comparePredicate (op : String) (value : Value) :
    (comparePredicate op value).toOption.map Predicate.toJson = comparisonTest? op value := by
  have hpattern (ignoreCase negated : Bool) :
      (comparePredicate.pattern value ignoreCase negated).toOption.map Predicate.toJson
        = value.text?.map (patternTest ignoreCase negated) := by
    rw [comparePredicate.pattern]
    cases value.text? <;> rfl
  unfold comparePredicate
  split
  -- the operators of patterns, behind them all that is no operator
  case h_8 | h_9 | h_10 | h_11 => exact hpattern _ _
  case h_12 =>
    simp_all [comparisonTest?, comparisonOperator?, patternOperator?, unsupported, Except.toOption]
  all_goals rfl

/-- The test of a condition is the one that the condition stands for. -/
theorem toOption_fieldTest (q : Query) (c : Condition) :
    (fieldTest q c).toOption.map (fun t => (t.field, t.predicate.toJson))
      = (testOf? c).map fun (column, test) => (fieldOf q column, test) := by
  cases c with
  | compare column op value =>
    rw [fieldTest, testOf?, ← toOption_comparePredicate]
    cases comparePredicate op value <;> rfl
  | _ => rfl

theorem comparePredicate_error {op : String} {value : Value} {e : Error}
    (h : comparePredicate op value = .error e) :
    ∃ construct, e = .unsupportedConstruct "document" construct := by
  unfold comparePredicate comparePredicate.pattern at h
  split at h
  case h_8 | h_9 | h_10 | h_11 =>
    split at h <;> cases h
    exact ⟨_, rfl⟩
  case h_12 =>
    cases h
    exact ⟨_, rfl⟩
  all_goals cases h

theorem fieldTest_error {q : Query} {c : Condition} {e : Error} (h : fieldTest q c = .error e) :
    ∃ construct, e = .unsupportedConstruct "document" construct := by
  cases c with
  | compare column op value =>
    rw [fieldTest] at h
    cases hcompare : comparePredicate op value with
    | ok p =>
      rw [hcompare] at h
      cases h
    | error e' =>
      rw [hcompare] at h
      cases h
      exact comparePredicate_error hcompare
  | oneOf | isNull | between => cases h
  | raw | nested | compareColumns =>
    cases h
    exact ⟨_, rfl⟩

/-- A condition without a test is refused. -/
theorem fieldTest_of_testOf?_eq_none (q : Query) {c : Condition} (h : testOf? c = none) :
    ∃ construct, fieldTest q c = unsupported construct := by
  have htest := toOption_fieldTest q c
  rw [h] at htest
  cases hfield : fieldTest q c with
  | ok t =>
    rw [hfield] at htest
    cases htest
  | error e =>
    obtain ⟨construct, rfl⟩ := fieldTest_error hfield
    exact ⟨construct, rfl⟩

theorem fieldTest_of_testOf? (q : Query) {c : Condition} {column : String} {test : Json}
    (h : testOf? c = some (column, test)) :
    ∃ t, fieldTest q c = .ok t ∧ t.field = fieldOf q column ∧ t.predicate.toJson = test := by
  have htest := toOption_fieldTest q c
  rw [h] at htest
  cases hfield : fieldTest q c with
  | error e =>
    rw [hfield] at htest
    cases htest
  | ok t =>
    rw [hfield] at htest
    simp only [Except.toOption, Option.map_some, Option.some.injEq, Prod.mk.injEq] at htest
    exact ⟨t, rfl, htest⟩

/-! ## Filters of queries -/

/-- The filter of a query consists of the tests of its conditions, split at every OR. -/
theorem filterOf_eq_ok_iff {q : Query} {f : Filter} :
    filterOf q = .ok f ↔ ∃ tests,
      List.Forall₂ (fun w e => (fieldTest q w.condition).map (w.connective, ·) = .ok e) q.wheres tests
        ∧ f = alternatives tests := by
  simp only [filterOf, bind_eq_ok_iff, mapM_eq_ok_iff, Except.ok.injEq]
  exact exists_congr fun tests => and_congr_right fun _ => eq_comm

/-- A query has no filter only because one of its conditions is refused. -/
theorem filterOf_error {q : Query} {e : Error} (h : filterOf q = .error e) :
    ∃ construct, e = .unsupportedConstruct "document" construct := by
  rw [filterOf, bind_eq_error_iff] at h
  rcases h with htests | ⟨tests, -, h⟩
  · obtain ⟨w, -, hw⟩ := mapM_error htests
    cases hfield : fieldTest q w.condition with
    | ok t =>
      rw [hfield] at hw
      cases hw
    | error e' =>
      rw [hfield] at hw
      cases hw
      exact fieldTest_error hfield
  · cases h

/-- One condition that is refused is enough to refuse a query. -/
theorem filterOf_of_refused {q : Query} {w : Where} {construct : Construct} (hw : w ∈ q.wheres)
    (h : fieldTest q w.condition = unsupported construct) :
    ∃ construct, filterOf q = unsupported construct := by
  cases hfilter : filterOf q with
  | ok f =>
    obtain ⟨tests, htests, -⟩ := filterOf_eq_ok_iff.1 hfilter
    obtain ⟨e, he⟩ := exists_forall₂_iff.1 ⟨tests, htests⟩ w hw
    rw [h] at he
    cases he
  | error e =>
    obtain ⟨construct, rfl⟩ := filterOf_error hfilter
    exact ⟨construct, rfl⟩

/-- The truth of a condition when `ρ` says which tests of a field are true. -/
def conditionTruth (q : Query) (c : Condition) : Bool :=
  (testOf? c).any fun (column, test) => ρ (fieldOf q column) test

/-- The test stands for a condition in a list: it is made from it, it is read as a test of its field,
    and it is true when the condition is. -/
structure StandsFor (q : Query) (w : Where) (e : Connective × FieldTest) : Prop where
  made : (fieldTest q w.condition).map (w.connective, ·) = .ok e
  read : ∀ ρ, e.2.IsRead ρ
  truth : ∀ ρ, (e.1, e.2.truth ρ) = (w.connective, conditionTruth ρ q w.condition)

/-- The condition has a test, which is read as a test of its field. -/
def IsTested (q : Query) (c : Condition) : Prop :=
  ∃ column test, testOf? c = some (column, test)
    ∧ ∀ ρ, holdsField ρ (fieldOf q column) test = ρ (fieldOf q column) test

theorem IsTested.exists_standsFor {q : Query} {w : Where} (h : IsTested q w.condition) :
    ∃ e, StandsFor q w e := by
  obtain ⟨column, test, htest, hread⟩ := h
  obtain ⟨t, ht, hfield, hjson⟩ := fieldTest_of_testOf? q htest
  refine ⟨(w.connective, t), ⟨by rw [ht]; rfl, fun ρ => ?_, fun ρ => ?_⟩⟩
  · rw [FieldTest.IsRead, FieldTest.truth, hfield, hjson, hread]
  · rw [FieldTest.truth, hfield, hjson, conditionTruth, htest]
    rfl

theorem StandsFor.map_truth {q : Query} {wheres : List Where}
    {tests : List (Connective × FieldTest)} (h : List.Forall₂ (StandsFor q) wheres tests) :
    tests.map (fun e => (e.1, e.2.truth ρ))
      = wheres.map fun w => (w.connective, conditionTruth ρ q w.condition) := by
  induction h with
  | nil => rfl
  | cons he _ ih => rw [List.map_cons, List.map_cons, he.truth ρ, ih]

theorem StandsFor.forall_read {q : Query} {wheres : List Where}
    {tests : List (Connective × FieldTest)} (h : List.Forall₂ (StandsFor q) wheres tests) :
    ∀ t ∈ tests.map Prod.snd, t.IsRead ρ := by
  induction h with
  | nil => exact fun t ht => absurd ht List.not_mem_nil
  | cons he _ ih => exact List.forall_mem_cons.2 ⟨he.read ρ, ih⟩

/-- A query whose conditions are tested has a filter with the truth of their list. -/
theorem exists_filter {q : Query} (h : ∀ w ∈ q.wheres, IsTested q w.condition) :
    ∃ f, filterOf q = .ok f ∧ ∀ ρ : String → Json → Bool, holds ρ f.toJson
      = Connective.truth (q.wheres.map fun w => (w.connective, conditionTruth ρ q w.condition)) := by
  obtain ⟨tests, htests⟩ := exists_forall₂_iff.2 fun w hw => (h w hw).exists_standsFor
  have hfilter : filterOf q = .ok (alternatives tests) :=
    filterOf_eq_ok_iff.2 ⟨tests, htests.imp fun _ _ he => he.made, rfl⟩
  refine ⟨alternatives tests, hfilter, fun ρ => ?_⟩
  -- the tests of the alternatives are those of the conditions
  have hread : ∀ branch ∈ alternatives tests, ∀ t ∈ branch, t.IsRead ρ := by
    intro branch hbranch t ht
    have hmem : t ∈ (alternatives tests).flatten := List.mem_flatten.2 ⟨branch, hbranch, ht⟩
    rw [flatten_alternatives] at hmem
    exact StandsFor.forall_read ρ htests t hmem
  rw [holds_toJson ρ hread, truth_alternatives, StandsFor.map_truth ρ htests]

/-- **The filter of a document means the list of conditions.** If every condition has a test, and no
    field can be taken for an operator, then there is a filter, and it has the truth of the list with
    AND binding tighter, whichever tests are true. A condition without a test, as is one in SQL, a
    group or a comparison of columns, is refused. -/
theorem filter_means_conditions (q : Query) :
    ((∀ w ∈ q.wheres, ∃ column test,
          testOf? w.condition = some (column, test) ∧ IsPlain (fieldOf q column)) →
        ∃ f, filterOf q = .ok f ∧
          ∀ ρ : String → Json → Bool, holds ρ f.toJson
            = Connective.truth (q.wheres.map fun w => (w.connective, conditionTruth ρ q w.condition)))
      ∧ ∀ w ∈ q.wheres, (testOf? w.condition = none ∨ w.condition.column? = none) →
        ∃ construct, filterOf q = unsupported construct := by
  refine ⟨fun h => exists_filter fun w hw => ?_, fun w hw hnone => ?_⟩
  · obtain ⟨column, test, htest, hplain⟩ := h w hw
    exact ⟨column, test, htest, fun ρ => holdsField_of_isPlain ρ hplain test⟩
  · have htest : testOf? w.condition = none :=
      hnone.elim id testOf?_eq_none_of_column?
    obtain ⟨construct, hrefused⟩ := fieldTest_of_testOf?_eq_none q htest
    exact filterOf_of_refused hw hrefused

/-- Two columns that are the same field meet in the first alternative. -/
theorem filter_means_conditions_one_field :
    ∃ (q : Query) (f : Filter),
      q =
        { table := "t"
          wheres :=
            [⟨.and, .compare "t.id" ">" (.int 1)⟩, ⟨.and, .compare "id" "<" (.int 5)⟩,
              ⟨.or, .compare "name" "NOT LIKE" (.text "a%")⟩] }
      ∧ filterOf q = .ok f
      ∧ ∀ ρ : String → Json → Bool, holds ρ f.toJson
          = ((ρ "_id" (single "$gt" (.int 1)) && ρ "_id" (single "$lt" (.int 5)))
            || ρ "name" (patternTest false true "a%")) := by
  have hsupported : ∀ w ∈ [Where.mk .and (.compare "t.id" ">" (.int 1)),
      ⟨.and, .compare "id" "<" (.int 5)⟩, ⟨.or, .compare "name" "NOT LIKE" (.text "a%")⟩],
      ∃ column test, testOf? w.condition = some (column, test)
        ∧ IsPlain (fieldOf { table := "t" } column) := by
    simp only [List.forall_mem_cons]
    exact ⟨⟨_, _, rfl, rfl⟩, ⟨_, _, rfl, rfl⟩, ⟨_, _, rfl, rfl⟩, fun _ h => absurd h List.not_mem_nil⟩
  obtain ⟨f, hf, htruth⟩ := (filter_means_conditions
    { table := "t"
      wheres :=
        [⟨.and, .compare "t.id" ">" (.int 1)⟩, ⟨.and, .compare "id" "<" (.int 5)⟩,
          ⟨.or, .compare "name" "NOT LIKE" (.text "a%")⟩] }).1 hsupported
  refine ⟨_, f, rfl, hf, fun ρ => ?_⟩
  rw [htruth]
  rfl

end Document

end QueryKit
