import QueryKit.Proofs.Document.Matching

set_option autoImplicit false

/-! # Rows found again in a document store

A row is written as a document in which a null is a field like any other. Comparisons with it are false
there and unknown in SQL, so whatever SQL knows of a comparison the document agrees with; but the test
for null asks whether the field is missing, which it never is. So a row that SQL would find is found
again by exactly the conditions that do not test for null (`inserted_row_found`). -/

namespace QueryKit

/-! ## Fields of a document -/

theorem Json.lookup_of_mem {fields : List (String × Json)} (h : (fields.map Prod.fst).Nodup)
    {name : String} {value : Json} (hmem : (name, value) ∈ fields) :
    fields.lookup name = some value := by
  induction fields with
  | nil => cases hmem
  | cons field rest ih =>
    obtain ⟨k, v⟩ := field
    rw [List.map_cons, List.nodup_cons] at h
    rcases List.mem_cons.1 hmem with heq | hrest
    · cases heq
      exact List.lookup_cons_self
    · have hne : name ≠ k := by
        rintro rfl
        exact h.1 (List.mem_map.2 ⟨_, hrest, rfl⟩)
      rw [List.lookup_cons, beq_eq_false_iff_ne.2 hne]
      exact ih h.2 hrest

theorem Json.field?_ofFields {fields : List (String × Json)} (h : (fields.map Prod.fst).Nodup)
    {name : String} {value : Json} (hmem : (name, value) ∈ fields) :
    (Json.ofFields fields).field? name = some value := by
  have hperm := sortFields_perm h
  exact lookup_of_mem ((hperm.map Prod.fst).nodup_iff.2 h) (hperm.mem_iff.2 hmem)

namespace Document

/-- Columns that are different fields are all kept. -/
theorem field?_documentOf {q : Query} {columns : List (String × Value)}
    (h : (columns.map fun e => fieldOf q e.1).Nodup) {column : String} {value : Value}
    (hmem : (column, value) ∈ columns) :
    (documentOf q columns).field? (fieldOf q column) = some value.toJson := by
  apply Json.field?_ofFields
  · rwa [List.map_map]
  · exact List.mem_map.2 ⟨_, hmem, rfl⟩

/-! ## Columns of a row -/

/-- The name of a column of the query's own table, which may stand behind a qualifier. -/
def ownColumn? (q : Query) (reference : String) : Option String :=
  match splitQualifier? reference with
  | some (name, rest) => if ownsQualifier q name then some rest else none
  | none => some reference

/-- The references are to one column: they are the same, or both are to the query's own table. -/
def sameColumn (q : Query) (a b : String) : Bool :=
  a == b || ((ownColumn? q a).isSome && ownColumn? q a == ownColumn? q b)

/-- The value that a row has for a reference. -/
def valueOf? (q : Query) (row : Row) (reference : String) : Option Value :=
  (row.entries.find? fun entry => sameColumn q reference entry.1).map Prod.snd

theorem fieldOf_of_ownColumn? {q : Query} {reference column : String}
    (h : ownColumn? q reference = some column) : fieldOf q reference = bareField q column := by
  unfold ownColumn? at h
  unfold fieldOf
  cases hsplit : splitQualifier? reference with
  | none =>
    rw [hsplit] at h
    cases h
    rfl
  | some parts =>
    obtain ⟨name, rest⟩ := parts
    simp only [hsplit] at h ⊢
    by_cases hown : ownsQualifier q name = true
    · rw [if_pos hown] at h ⊢
      cases h
      rfl
    · rw [if_neg hown] at h
      cases h

theorem fieldOf_eq_of_sameColumn {q : Query} {a b : String} (h : sameColumn q a b = true) :
    fieldOf q a = fieldOf q b := by
  rw [sameColumn, Bool.or_eq_true, beq_iff_eq, Bool.and_eq_true, beq_iff_eq] at h
  rcases h with rfl | ⟨hsome, heq⟩
  · rfl
  · obtain ⟨column, hcolumn⟩ := Option.isSome_iff_exists.1 hsome
    rw [fieldOf_of_ownColumn? hcolumn, fieldOf_of_ownColumn? (heq ▸ hcolumn)]

theorem field?_of_valueOf? {q : Query} {row : Row} {reference : String} {value : Value}
    (hfields : (row.columns.map (fieldOf q)).Nodup) (h : valueOf? q row reference = some value) :
    (documentOf q row.entries).field? (fieldOf q reference) = some value.toJson := by
  obtain ⟨⟨column, v⟩, hfind, rfl⟩ := Option.map_eq_some_iff.1 h
  have hsame : sameColumn q reference column = true := by simpa using List.find?_some hfind
  rw [fieldOf_eq_of_sameColumn hsame]
  refine field?_documentOf ?_ (List.mem_of_find?_eq_some hfind)
  rwa [Row.columns, Assoc.keys, List.map_map] at hfields

/-! ## Truth in SQL -/

/-- The truth of both, of which one that is false decides. Unknown is `none`. -/
def bothKnown : Option Bool → Option Bool → Option Bool
  | some true, b => b
  | some false, _ => some false
  | none, some false => some false
  | none, _ => none

/-- The truth of either, of which one that is true decides. -/
def eitherKnown : Option Bool → Option Bool → Option Bool
  | some false, b => b
  | some true, _ => some true
  | none, some true => some true
  | none, _ => none

theorem bothKnown_eq_some {a b : Option Bool} {c : Bool} (h : bothKnown a b = some c) :
    (a.getD false && b.getD false) = c := by
  rcases a with _ | _ | _ <;> rcases b with _ | _ | _ <;> cases h <;> rfl

theorem eitherKnown_eq_some {a b : Option Bool} {c : Bool} (h : eitherKnown a b = some c) :
    (a.getD false || b.getD false) = c := by
  rcases a with _ | _ | _ <;> rcases b with _ | _ | _ <;> cases h <;> rfl

theorem foldr_eitherKnown {truths : List (Option Bool)} {b : Bool}
    (h : truths.foldr eitherKnown (some false) = some b) : truths.any (·.getD false) = b := by
  induction truths generalizing b with
  | nil =>
    cases h
    rfl
  | cons a rest ih =>
    rw [List.foldr_cons] at h
    cases hrest : rest.foldr eitherKnown (some false) with
    | some c =>
      rw [hrest] at h
      rw [List.any_cons, ih hrest, ← eitherKnown_eq_some h, Option.getD_some]
    | none =>
      -- only what is true decides before something unknown
      rw [hrest] at h
      rcases a with _ | _ | _ <;> cases h
      rfl

/-- How values that are there compare, written as JSON. SQL and a document store may do so in any way,
    as long as it is the same. -/
structure Comparisons where
  equal : Json → Json → Bool
  compare : Comparison → Json → Json → Bool

namespace Comparisons

variable (r : Comparisons)

/-- In SQL a comparison with null is unknown. -/
def known (test : Json → Json → Bool) (x v : Value) : Option Bool :=
  if x.isNull || v.isNull then none else some (test x.toJson v.toJson)

/-- The truth in SQL of a condition on a column with this value. -/
def sqlTruth (x : Value) : Condition → Option Bool
  | .compare _ op v =>
    if op = "=" then known r.equal x v
    else (comparisonOf? op).bind fun c => known (r.compare c) x v
  | .oneOf _ vs negated =>
    ((vs.map (known r.equal x)).foldr eitherKnown (some false)).map (· ^^ negated)
  | .isNull _ negated => some (x.isNull ^^ negated)
  | .between _ low high negated =>
    (bothKnown (known (r.compare .greaterOrEqual) x low)
      (known (r.compare .lessOrEqual) x high)).map (· ^^ negated)
  | .raw .. | .nested .. | .compareColumns .. => none

/-- In a document a comparison with a field that is missing or null is false. -/
def matcher (other : String → Option Json → Json → Bool) : Matcher where
  equal x v := (value? x).any (r.equal · v)
  compare c x v := (value? x).any (r.compare c · v)
  other := other
where
  /-- The value of a field, if it has one and is not null. -/
  value? : Option Json → Option Json
    | some .null => none
    | x => x

end Comparisons

/-! ## Values that documents keep -/

/-- An integer or a text. -/
def IsConstant : Value → Prop
  | .int _ | .text _ => True
  | _ => False

theorem IsConstant.isNull_eq_false {v : Value} (h : IsConstant v) : v.isNull = false := by
  cases v with
  | int | text => rfl
  | _ => exact h.elim

theorem IsConstant.isOperators_eq_false {v : Value} (h : IsConstant v) :
    isOperators v.toJson = false := by
  cases v with
  | int | text => rfl
  | _ => exact h.elim

theorem IsConstant.ne_array {v : Value} (h : IsConstant v) (items : List Json) :
    v.toJson ≠ .array items := by
  cases v with
  | int | text => exact fun heq => Json.noConfusion heq
  | _ => exact h.elim

/-- The condition compares a column with integers and texts, and not by pattern. -/
def Compares : Condition → Prop
  | .compare _ op v => (op = "=" ∨ (comparisonOf? op).isSome = true) ∧ IsConstant v
  | .oneOf _ vs _ => ∀ v ∈ vs, IsConstant v
  | .isNull .. => True
  | .between _ low high _ => IsConstant low ∧ IsConstant high
  | .raw .. | .nested .. | .compareColumns .. => False

/-- The condition is a test for null. -/
def testsNull : Condition → Bool
  | .isNull _ negated => !negated
  | _ => false

theorem Compares.isLiteral {c : Condition} (h : Compares c) : IsLiteral c := by
  cases c with
  | compare column op v => exact h.1.imp_left fun heq => ⟨heq, h.2.isOperators_eq_false⟩
  | oneOf | isNull | between => trivial
  | raw | nested | compareColumns => exact h.elim

theorem single_ne_array (name : String) (test : Json) (items : List Json) :
    single name test ≠ .array items :=
  fun heq => Json.noConfusion heq

theorem negatedIf_ne_array (negated : Bool) (fields : List (String × Json)) (items : List Json) :
    negatedIf negated (.ofFields fields) ≠ .array items := by
  cases negated <;> exact fun heq => Json.noConfusion heq

/-- No test of such a condition is a list. -/
theorem Compares.isTested (q : Query) {c : Condition} (h : Compares c) : IsTested q c := by
  have htest : ∃ column test, testOf? c = some (column, test) ∧ ∀ items, test ≠ .array items := by
    cases c with
    | compare column op v =>
      rcases h with ⟨rfl | hcomparison, hv⟩
      · exact ⟨column, v.toJson, rfl, hv.ne_array⟩
      · obtain ⟨c, hc⟩ := Option.isSome_iff_exists.1 hcomparison
        refine ⟨column, single c.operator v.toJson, ?_, single_ne_array _ _⟩
        rw [testOf?, comparisonTest?_of_comparisonOf? hc]
        rfl
    | oneOf column vs negated => exact ⟨column, _, rfl, single_ne_array _ _⟩
    | isNull column negated => exact ⟨column, _, rfl, single_ne_array _ _⟩
    | between column low high negated => exact ⟨column, _, rfl, negatedIf_ne_array _ _⟩
    | raw | nested | compareColumns => exact h.elim
  obtain ⟨column, test, htest, hne⟩ := htest
  exact ⟨column, test, htest, fun ρ => holdsField_of_ne_array ρ hne _⟩

/-! ## What SQL knows -/

namespace Comparisons

variable (r : Comparisons) (other : String → Option Json → Json → Bool)

/-- What SQL does not know of a comparison is false in a document. -/
theorem any_value? (test : Json → Json → Bool) {x v : Value} (hx : x.isNull = true ∨ IsConstant x)
    (hv : IsConstant v) :
    (matcher.value? (some x.toJson)).any (test · v.toJson) = (known test x v).getD false := by
  rw [known, hv.isNull_eq_false, Bool.or_false]
  cases x with
  | null | int | text => rfl
  | _ => simp [Value.isNull, IsConstant] at hx

/-- A document meets every condition that SQL knows to be true, except for a test for null. -/
theorem meets_of_sqlTruth {x : Value} (hx : x.isNull = true ∨ IsConstant x) {c : Condition}
    (hc : Compares c) (hnull : testsNull c = false) (h : r.sqlTruth x c = some true) :
    (r.matcher other).meets (some x.toJson) c = true := by
  cases c with
  | compare column op v =>
    rw [sqlTruth] at h
    rw [Matcher.meets]
    by_cases hop : op = "="
    · rw [if_pos hop] at h ⊢
      show (matcher.value? (some x.toJson)).any (r.equal · v.toJson) = true
      rw [any_value? r.equal hx hc.2, h, Option.getD_some]
    · rw [if_neg hop] at h ⊢
      obtain ⟨c, hcomparison, hknown⟩ := Option.bind_eq_some_iff.1 h
      rw [hcomparison, Option.any_some]
      show (matcher.value? (some x.toJson)).any (r.compare c · v.toJson) = true
      rw [any_value? (r.compare c) hx hc.2, hknown, Option.getD_some]
  | oneOf column vs negated =>
    obtain ⟨b, hknown, hb⟩ := Option.map_eq_some_iff.1 h
    have hany : (vs.any fun v => (r.matcher other).equal (some x.toJson) v.toJson) = b := by
      rw [← foldr_eitherKnown hknown, List.any_map, Bool.eq_iff_iff, List.any_eq_true,
        List.any_eq_true]
      refine exists_congr fun v => and_congr_right fun hv => ?_
      rw [Function.comp_apply, ← any_value? r.equal hx (hc v hv)]
      rfl
    rw [Matcher.meets, hany, hb]
  | isNull column negated =>
    rw [testsNull, Bool.not_eq_false'] at hnull
    rw [Matcher.meets, hnull]
    rfl
  | between column low high negated =>
    obtain ⟨b, hknown, hb⟩ := Option.map_eq_some_iff.1 h
    have hboth := bothKnown_eq_some hknown
    rw [← any_value? _ hx hc.1, ← any_value? _ hx hc.2] at hboth
    rw [← hb, ← hboth]
    rfl
  | raw | nested | compareColumns => exact hc.elim

/-- A field that is there never meets a test for null. -/
theorem meets_of_testsNull (x : Json) {c : Condition} (h : testsNull c = true) :
    (r.matcher other).meets (some x) c = false := by
  cases c with
  | isNull column negated =>
    rw [testsNull, Bool.not_eq_true'] at h
    rw [Matcher.meets, h]
    rfl
  | _ => cases h

/-- The truth in SQL of a condition on a row. -/
def rowTruth (q : Query) (row : Row) (c : Condition) : Option Bool :=
  (c.column?.bind (valueOf? q row)).bind (r.sqlTruth · c)

end Comparisons

/-- The condition compares a column of the row with integers and texts. -/
structure ComparesRow (q : Query) (row : Row) (c : Condition) : Prop where
  compares : Compares c
  column : ∃ column v, c.column? = some column ∧ valueOf? q row column = some v

theorem mem_values_of_valueOf? {q : Query} {row : Row} {reference : String} {value : Value}
    (h : valueOf? q row reference = some value) : value ∈ row.values := by
  obtain ⟨entry, hfind, rfl⟩ := Option.map_eq_some_iff.1 h
  exact List.mem_map_of_mem (List.mem_of_find?_eq_some hfind)

/-- What the row has for the condition stands in the field that the condition tests. -/
theorem ComparesRow.exists_value {q : Query} {row : Row} {c : Condition} (h : ComparesRow q row c)
    (hfields : (row.columns.map (fieldOf q)).Nodup) :
    ∃ v ∈ row.values, fieldValue q (documentOf q row.entries) c = some v.toJson
      ∧ ∀ r : Comparisons, r.rowTruth q row c = r.sqlTruth v c := by
  obtain ⟨column, v, hcolumn, hvalue⟩ := h.column
  refine ⟨v, mem_values_of_valueOf? hvalue, ?_, fun r => ?_⟩
  · rw [fieldValue, hcolumn, Option.bind_some, field?_of_valueOf? hfields hvalue]
  · rw [Comparisons.rowTruth, hcolumn, Option.bind_some, hvalue, Option.bind_some]

/-- **Which rows are found again.** Let a row hold integers, texts and nulls in columns that are
    different fields. If SQL knows that the conditions of a query are true of the row, and none of them
    is a test for null, then the filter of the query matches the document written for the row. But once
    one of the conditions is a test for null, and all are joined by AND, no such document is matched. -/
theorem inserted_row_found (r : Comparisons) (other : String → Option Json → Json → Bool) {q : Query}
    {row : Row} (hrow : ∀ v ∈ row.values, v.isNull = true ∨ IsConstant v)
    (hfields : (row.columns.map (fieldOf q)).Nodup)
    (hwheres : ∀ w ∈ q.wheres, ComparesRow q row w.condition) :
    ∃ f command document, filterOf q = .ok f ∧ compileInsert q [row] = .ok command
      ∧ command.payload = some (.array [document])
      ∧ (Connective.truth (q.wheres.map fun w =>
            (w.connective, r.rowTruth q row w.condition == some true)) = true →
          (∀ w ∈ q.wheres, testsNull w.condition = false) →
            (r.matcher other).accepts f.toJson document = true)
      ∧ ((∀ w ∈ q.wheres.tail, w.connective = .and) →
          (∃ w ∈ q.wheres, testsNull w.condition = true) →
            (r.matcher other).accepts f.toJson document = false) := by
  obtain ⟨f, hf, haccepts⟩ := exists_filter_accepts (fun w hw => (hwheres w hw).compares.isLiteral)
    fun w hw => (hwheres w hw).compares.isTested q
  refine ⟨f, _, documentOf q row.entries, hf, rfl, rfl, fun htrue hnone => ?_, fun hand hsome => ?_⟩
  · rw [haccepts]
    refine Connective.truth_mono Where.connective (fun w hw hknown => ?_) htrue
    obtain ⟨v, hv, hfield, htruth⟩ := (hwheres w hw).exists_value hfields
    rw [htruth, beq_iff_eq] at hknown
    rw [hfield]
    exact r.meets_of_sqlTruth other (hrow v hv) (hwheres w hw).compares (hnone w hw) hknown
  · obtain ⟨w, hw, hnull⟩ := hsome
    obtain ⟨v, -, hfield, -⟩ := (hwheres w hw).exists_value hfields
    have hand' : ∀ e ∈ (q.wheres.map fun w => (w.connective,
        (r.matcher other).meets (fieldValue q (documentOf q row.entries) w.condition)
          w.condition)).tail, e.1 = .and := by
      intro e he
      rw [← List.map_tail] at he
      obtain ⟨w', hw', rfl⟩ := List.mem_map.1 he
      exact hand w' hw'
    rw [haccepts, Connective.truth_of_forall_and _ hand', List.all_map, List.all_eq_false]
    refine ⟨w, hw, ?_⟩
    rw [Function.comp_apply, hfield, r.meets_of_testsNull other _ hnull]
    exact Bool.false_ne_true

/-- A row with a null is found by its key and its name, but not once the null is tested for. -/
theorem inserted_row_found_null :
    ∃ (found lost : Query) (row : Row) (document : Json) (m : Matcher),
      found.wheres
        = [⟨.and, .compare "t.id" "=" (.int 1)⟩, ⟨.and, .oneOf "name" [.text "a"] false⟩]
      ∧ lost.wheres = [⟨.and, .compare "id" "=" (.int 1)⟩, ⟨.and, .isNull "age" false⟩]
      ∧ row.entries = [("id", .int 1), ("name", .text "a"), ("age", .null)]
      ∧ document = .object [("_id", .int 1), ("age", .null), ("name", .string "a")]
      ∧ (∃ f, filterOf found = .ok f ∧ m.accepts f.toJson document = true)
      ∧ ∃ f, filterOf lost = .ok f ∧ m.accepts f.toJson document = false := by
  have hrow : ∀ v ∈ [Value.int 1, .text "a", .null], v.isNull = true ∨ IsConstant v := by
    simp [IsConstant, Value.isNull]
  have hname : ∀ v ∈ [Value.text "a"], IsConstant v := by simp [IsConstant]
  have hfound := @inserted_row_found ⟨Json.same, fun _ _ _ => false⟩ (fun _ _ _ => false)
    { table := "t"
      wheres := [⟨.and, .compare "t.id" "=" (.int 1)⟩, ⟨.and, .oneOf "name" [.text "a"] false⟩] }
    ⟨[("id", .int 1), ("name", .text "a"), ("age", .null)], by decide⟩ hrow (by decide)
    (List.forall_mem_cons.2 ⟨⟨⟨Or.inl rfl, trivial⟩, "t.id", .int 1, rfl, rfl⟩,
      List.forall_mem_singleton.2 ⟨hname, "name", .text "a", rfl, rfl⟩⟩)
  have hlost := @inserted_row_found ⟨Json.same, fun _ _ _ => false⟩ (fun _ _ _ => false)
    { table := "t"
      wheres := [⟨.and, .compare "id" "=" (.int 1)⟩, ⟨.and, .isNull "age" false⟩] }
    ⟨[("id", .int 1), ("name", .text "a"), ("age", .null)], by decide⟩ hrow (by decide)
    (List.forall_mem_cons.2 ⟨⟨⟨Or.inl rfl, trivial⟩, "id", .int 1, rfl, rfl⟩,
      List.forall_mem_singleton.2 ⟨trivial, "age", .null, rfl, rfl⟩⟩)
  obtain ⟨f, _, _, hf, ⟨⟩, ⟨⟩, htrue, -⟩ := hfound
  obtain ⟨g, _, _, hg, ⟨⟩, ⟨⟩, -, hfalse⟩ := hlost
  have hnull : Where.mk .and (.isNull "age" false) ∈
      [Where.mk .and (.compare "id" "=" (.int 1)), ⟨.and, .isNull "age" false⟩] := by simp
  exact ⟨_, _, ⟨_, by decide⟩, _, _, rfl, rfl, rfl, rfl, ⟨f, hf, htrue rfl (by decide)⟩, g, hg,
    hfalse (by decide) ⟨_, hnull, rfl⟩⟩

end Document

end QueryKit
