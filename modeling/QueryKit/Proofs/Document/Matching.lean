import QueryKit.Proofs.Document.Filter

set_option autoImplicit false

/-! # Documents that a filter matches

A document store reads the test of a field as operators if it is an object whose first name begins with
their sign, and as a value that the field must equal otherwise (`Matcher.passes`). A filter matches a
document if its tests pass for the fields of the document (`Matcher.accepts`). What the comparisons say
of two values is left to the store.

Read this way, the tests of conditions mean what the conditions say (`Matcher.meets`), unless a value
that a field must equal looks like operators itself. -/

namespace QueryKit

namespace Document

/-! ## Stores -/

/-- What a store says of the value of a field, which is absent if the field is. -/
structure Matcher where
  equal : Option Json → Json → Bool
  compare : Comparison → Option Json → Json → Bool
  /-- The operators that stand for no condition but a pattern, by their names. -/
  other : String → Option Json → Json → Bool

/-- The comparison that an operator stands for. -/
def comparison? : String → Option Comparison
  | "$ne" => some .notEqual
  | "$gt" => some .greater
  | "$gte" => some .greaterOrEqual
  | "$lt" => some .less
  | "$lte" => some .lessOrEqual
  | _ => none

@[simp] theorem comparison?_operator (c : Comparison) : comparison? c.operator = some c := by
  cases c <;> rfl

/-- The test is read as operators. -/
def isOperators : Json → Bool
  | .object ((name, _) :: _) => Text.startsWith "$" name
  | _ => false

theorem ofFields_bounds (low high : Json) :
    Json.ofFields [("$gte", low), ("$lte", high)] = .object [("$gte", low), ("$lte", high)] := by
  rfl

namespace Matcher

variable (m : Matcher) (x : Option Json)

/-- One operator holds of the value of a field. -/
def operator (name : String) (operand : Json) : Bool :=
  match comparison? name with
  | some c => m.compare c x operand
  | none =>
    match name, operand with
    | "$exists", .bool expected => x.isSome == expected
    | "$in", .array items => items.any (m.equal x)
    | "$nin", .array items => !items.any (m.equal x)
    | _, _ => m.other name x operand

mutual

/-- One operator holds, which may be the negation of others. -/
def operate (name : String) : Json → Bool
  | .object fields => if name = "$not" then !operateAll fields else m.operator x name (.object fields)
  | operand => m.operator x name operand

/-- All operators of an object hold. -/
def operateAll : List (String × Json) → Bool
  | [] => true
  | (name, operand) :: rest => operate name operand && operateAll rest

end

/-- The value of a field passes a test. -/
def passes (test : Json) : Bool :=
  match test with
  | .object fields =>
    if isOperators (.object fields) then m.operateAll x fields else m.equal x (.object fields)
  | test => m.equal x test

/-- The filter matches the document. -/
def accepts (filter document : Json) : Bool :=
  holds (fun field test => m.passes (document.field? field) test) filter

/-! ## Tests -/

theorem operate_of_ne_not {name : String} (h : name ≠ "$not") (operand : Json) :
    m.operate x name operand = m.operator x name operand := by
  cases operand with
  | object fields => rw [operate, if_neg h]
  | _ => rfl

/-- A test that does not look like operators is a value. -/
theorem passes_of_isOperators_eq_false {test : Json} (h : isOperators test = false) :
    m.passes x test = m.equal x test := by
  cases test with
  | object fields => rw [passes, h, if_neg Bool.false_ne_true]
  | _ => rfl

theorem passes_of_isOperators {fields : List (String × Json)}
    (h : isOperators (.object fields) = true) :
    m.passes x (.object fields) = m.operateAll x fields := by
  rw [passes, if_pos h]

theorem passes_single {name : String} (hname : Text.startsWith "$" name = true)
    (hnot : name ≠ "$not") (operand : Json) :
    m.passes x (single name operand) = m.operator x name operand := by
  have hoperators : isOperators (.object [(name, operand)]) = true := hname
  rw [single, passes_of_isOperators m x hoperators, operateAll, operateAll, Bool.and_true,
    operate_of_ne_not m x hnot]

theorem passes_compares (c : Comparison) (value : Json) :
    m.passes x (single c.operator value) = m.compare c x value := by
  rw [passes_single m x (by cases c <;> decide) (by cases c <;> decide)]
  unfold operator
  rw [comparison?_operator]

theorem passes_oneOf (items : List Json) (negated : Bool) :
    m.passes x (single (if negated then "$nin" else "$in") (.array items))
      = (items.any (m.equal x) ^^ negated) := by
  cases negated with
  | false =>
    rw [passes_single m x (by decide) (by decide), Bool.xor_false]
    rfl
  | true =>
    rw [passes_single m x (by decide) (by decide), Bool.xor_true]
    rfl

theorem passes_exists (expected : Bool) :
    m.passes x (single "$exists" (.bool expected)) = (x.isSome == expected) := by
  rw [passes_single m x (by decide) (by decide)]
  rfl

theorem passes_between (low high : Json) (negated : Bool) :
    m.passes x (negatedIf negated (.ofFields [("$gte", low), ("$lte", high)]))
      = ((m.compare .greaterOrEqual x low && m.compare .lessOrEqual x high) ^^ negated) := by
  have hbounds : m.operateAll x [("$gte", low), ("$lte", high)]
      = (m.compare .greaterOrEqual x low && m.compare .lessOrEqual x high) := by
    rw [operateAll, operateAll, operateAll, Bool.and_true, operate_of_ne_not m x (by decide),
      operate_of_ne_not m x (by decide)]
    rfl
  rw [ofFields_bounds, ← hbounds]
  cases negated with
  | false => rw [negatedIf, if_neg Bool.false_ne_true, passes_of_isOperators m x rfl, Bool.xor_false]
  | true =>
    rw [negatedIf, if_pos rfl, single, passes_of_isOperators m x rfl, operateAll, operateAll,
      Bool.and_true, operate, if_pos rfl, Bool.xor_true]

end Matcher

/-! ## Conditions -/

/-- The comparison that an operator of conditions stands for, if it is not equality and not a
    pattern. -/
def comparisonOf? : String → Option Comparison
  | "!=" => some .notEqual
  | "<>" => some .notEqual
  | ">" => some .greater
  | ">=" => some .greaterOrEqual
  | "<" => some .less
  | "<=" => some .lessOrEqual
  | _ => none

theorem comparisonOperator?_eq (op : String) :
    comparisonOperator? op = (comparisonOf? op).map Comparison.operator := by
  unfold comparisonOperator? comparisonOf?
  split
  case h_7 => simp_all
  all_goals rfl

/-- The truth that a condition has for the value of its field, with its values taken as they are. -/
def Matcher.meets (m : Matcher) (x : Option Json) : Condition → Bool
  | .compare _ op value =>
    if op = "=" then m.equal x value.toJson
    else (comparisonOf? op).any fun c => m.compare c x value.toJson
  | .oneOf _ values negated => values.any (fun value => m.equal x value.toJson) ^^ negated
  | .isNull _ negated => x.isSome == negated
  | .between _ low high negated =>
    (m.compare .greaterOrEqual x low.toJson && m.compare .lessOrEqual x high.toJson) ^^ negated
  | .raw .. | .nested .. | .compareColumns .. => false

/-- The condition compares a field with values, and not by pattern. No value that the field must equal
    looks like operators. -/
def IsLiteral : Condition → Prop
  | .compare _ op value =>
    op = "=" ∧ isOperators value.toJson = false ∨ (comparisonOf? op).isSome = true
  | .oneOf .. | .isNull .. | .between .. => True
  | .raw .. | .nested .. | .compareColumns .. => False

theorem comparisonTest?_of_comparisonOf? {op : String} {c : Comparison} (h : comparisonOf? op = some c)
    (value : Value) : comparisonTest? op value = some (single c.operator value.toJson) := by
  have hne : op ≠ "=" := by
    rintro rfl
    cases h
  rw [comparisonTest?, if_neg hne, comparisonOperator?_eq, h]
  rfl

/-- A literal condition has a test, which passes as the condition says. -/
theorem IsLiteral.exists_test {c : Condition} (h : IsLiteral c) :
    ∃ column test, c.column? = some column ∧ testOf? c = some (column, test)
      ∧ ∀ (m : Matcher) (x : Option Json), m.passes x test = m.meets x c := by
  cases c with
  | compare column op value =>
    rcases h with ⟨rfl, hvalue⟩ | hcomparison
    · exact ⟨column, value.toJson, rfl, rfl, fun m x => m.passes_of_isOperators_eq_false x hvalue⟩
    · obtain ⟨c, hc⟩ := Option.isSome_iff_exists.1 hcomparison
      have hne : op ≠ "=" := by
        rintro rfl
        cases hc
      refine ⟨column, single c.operator value.toJson, rfl, ?_, fun m x => ?_⟩
      · rw [testOf?, comparisonTest?_of_comparisonOf? hc]
        rfl
      · rw [m.passes_compares, Matcher.meets, if_neg hne, hc, Option.any_some]
  | oneOf column values negated =>
    refine ⟨column, _, rfl, rfl, fun m x => ?_⟩
    rw [m.passes_oneOf, List.any_map]
    rfl
  | isNull column negated => exact ⟨column, _, rfl, rfl, fun m x => m.passes_exists x negated⟩
  | between column low high negated =>
    exact ⟨column, _, rfl, rfl, fun m x => m.passes_between x low.toJson high.toJson negated⟩
  | raw | nested | compareColumns => exact h.elim

/-- The value of the field that a condition tests. -/
def fieldValue (q : Query) (document : Json) (c : Condition) : Option Json :=
  c.column?.bind fun column => document.field? (fieldOf q column)

/-- **What a filter of literal conditions matches.** The filter matches a document if the list of
    conditions is true, each of them taken for the value of its field. -/
theorem exists_filter_accepts {q : Query} (hliteral : ∀ w ∈ q.wheres, IsLiteral w.condition)
    (htested : ∀ w ∈ q.wheres, IsTested q w.condition) :
    ∃ f, filterOf q = .ok f ∧ ∀ (m : Matcher) (document : Json), m.accepts f.toJson document
      = Connective.truth (q.wheres.map fun w =>
          (w.connective, m.meets (fieldValue q document w.condition) w.condition)) := by
  obtain ⟨f, hf, htruth⟩ := exists_filter htested
  refine ⟨f, hf, fun m document => ?_⟩
  rw [Matcher.accepts, htruth]
  congr 1
  apply List.map_congr_left
  intro w hw
  obtain ⟨column, test, hcolumn, htest, hpasses⟩ := (hliteral w hw).exists_test
  simp only [conditionTruth, htest, Option.any_some, hpasses, fieldValue, hcolumn, Option.bind_some]

end Document

end QueryKit
