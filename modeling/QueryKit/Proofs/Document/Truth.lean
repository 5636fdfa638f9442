import QueryKit.Document.Compilation
import QueryKit.Proofs.Filter.Basic

set_option autoImplicit false

/-! # Truth of document filters

A document filter is JSON: an object holds if all of its fields do, the fields `$and` and `$or` join
filters, and any other field is a test that is true or false (`holds`). Tests that must all hold are
one object with a field for each of them, or stand under `$and` where two of them meet in one field, so
none is overwritten. A list of conditions is split into alternatives at every OR, which keeps its
truth. -/

namespace QueryKit

/-! ## Fields of objects -/

namespace Json

theorem insertField_perm {key : String} {value : Json} {fields : List (String × Json)}
    (h : key ∉ fields.map Prod.fst) :
    (insertField key value fields).Perm ((key, value) :: fields) := by
  induction fields with
  | nil => exact .refl _
  | cons field rest ih =>
      obtain ⟨k, v⟩ := field
      rw [List.map_cons, List.mem_cons, not_or] at h
      obtain ⟨hne, hrest⟩ := h
      rw [insertField, if_neg (by simpa using hne)]
      split
      · exact .refl _
      · exact ((ih hrest).cons (k, v)).trans (.swap ..)

theorem sortFields_append_singleton (fields : List (String × Json)) (key : String) (value : Json) :
    sortFields (fields ++ [(key, value)]) = insertField key value (sortFields fields) := by
  rw [sortFields, List.foldl_append]
  rfl

/-- Fields under different names are all kept. -/
theorem sortFields_perm {fields : List (String × Json)} (h : (fields.map Prod.fst).Nodup) :
    (sortFields fields).Perm fields := by
  induction fields using List.reverseRecOn with
  | nil => exact .refl _
  | append_singleton fields field ih =>
      obtain ⟨key, value⟩ := field
      rw [List.map_append, List.nodup_append'] at h
      obtain ⟨hfields, -, hdisjoint⟩ := h
      have hperm := ih hfields
      have hkey : key ∉ (sortFields fields).map Prod.fst := by
        rw [(hperm.map Prod.fst).mem_iff]
        exact fun hmem => hdisjoint hmem (List.mem_singleton_self key)
      rw [sortFields_append_singleton]
      exact (insertField_perm hkey).trans
        ((hperm.cons _).trans (List.perm_append_singleton ..).symm)

end Json

namespace Document

/-! ## Truth of filters -/

section Truth

variable (ρ : String → Json → Bool)

mutual

/-- The truth of a filter when `ρ` says which tests of a field are true. Only objects are filters. -/
def holds : Json → Bool
  | .object fields => holdsFields fields
  | _ => false

/-- All fields of an object hold. -/
def holdsFields : List (String × Json) → Bool
  | [] => true
  | (name, test) :: rest => holdsField name test && holdsFields rest

/-- The truth of one field: `$and` and `$or` join the filters of a list, and any other field is a
    test. -/
def holdsField (name : String) : Json → Bool
  | .array filters =>
    if name = "$and" then holdsAll filters
    else if name = "$or" then holdsSome filters
    else ρ name (.array filters)
  | test => ρ name test

/-- All filters hold. -/
def holdsAll : List Json → Bool
  | [] => true
  | filter :: rest => holds filter && holdsAll rest

/-- Some filter holds. -/
def holdsSome : List Json → Bool
  | [] => false
  | filter :: rest => holds filter || holdsSome rest

end

end Truth

variable (ρ : String → Json → Bool)

theorem holdsFields_eq_all (fields : List (String × Json)) :
    holdsFields ρ fields = fields.all fun field => holdsField ρ field.1 field.2 := by
  induction fields with
  | nil => rfl
  | cons field rest ih => rw [holdsFields, ih, List.all_cons]

theorem holdsAll_eq_all (filters : List Json) : holdsAll ρ filters = filters.all (holds ρ) := by
  induction filters with
  | nil => rfl
  | cons filter rest ih => rw [holdsAll, ih, List.all_cons]

theorem holdsSome_eq_any (filters : List Json) : holdsSome ρ filters = filters.any (holds ρ) := by
  induction filters with
  | nil => rfl
  | cons filter rest ih => rw [holdsSome, ih, List.any_cons]

/-- The name is that of no operator, since it does not begin with their sign. -/
def IsPlain (name : String) : Prop :=
  Text.startsWith "$" name = false

theorem holdsField_of_isPlain {name : String} (h : IsPlain name) (test : Json) :
    holdsField ρ name test = ρ name test := by
  have hand : name ≠ "$and" := by
    rintro rfl
    exact Bool.noConfusion h
  have hor : name ≠ "$or" := by
    rintro rfl
    exact Bool.noConfusion h
  cases test with
  | array filters => rw [holdsField, if_neg hand, if_neg hor]
  | _ => rfl

/-- Filters are joined in lists, so only a list can be taken for joined filters. -/
theorem holdsField_of_ne_array {test : Json} (h : ∀ items, test ≠ .array items) (name : String) :
    holdsField ρ name test = ρ name test := by
  cases test with
  | array items => exact absurd rfl (h items)
  | _ => rfl

theorem holds_ofFields {fields : List (String × Json)} (h : (fields.map Prod.fst).Nodup) :
    holds ρ (.ofFields fields) = fields.all fun field => holdsField ρ field.1 field.2 := by
  rw [Json.ofFields, holds, holdsFields_eq_all, (Json.sortFields_perm h).all_eq]

theorem holds_single (name : String) (test : Json) :
    holds ρ (single name test) = holdsField ρ name test := by
  rw [single, holds, holdsFields, holdsFields, Bool.and_true]

/-! ## Tests that must all hold -/

theorem allDistinct_iff_nodup (names : List String) : allDistinct names = true ↔ names.Nodup := by
  induction names with
  | nil => simp [allDistinct]
  | cons name rest ih => simp [allDistinct, ih]

/-- The truth of a test of a field. -/
def FieldTest.truth (t : FieldTest) : Bool :=
  ρ t.field t.predicate.toJson

/-- The test is read as a test of its field. -/
def FieldTest.IsRead (t : FieldTest) : Prop :=
  holdsField ρ t.field t.predicate.toJson = t.truth ρ

/-- Tests that must all hold do so together, whether or not two of them meet in one field. -/
theorem holds_conjunctionJson {tests : List FieldTest} (h : ∀ t ∈ tests, t.IsRead ρ) :
    holds ρ (conjunctionJson tests) = tests.all (·.truth ρ) := by
  rw [conjunctionJson]
  split
  · next hdistinct =>
      rw [allDistinct_iff_nodup] at hdistinct
      rw [holds_ofFields ρ (by simpa [Function.comp_def] using hdistinct), List.all_map,
        Bool.eq_iff_iff, List.all_eq_true, List.all_eq_true]
      exact forall₂_congr fun t ht => by rw [← h t ht, Function.comp_apply]
  · rw [holds_single, holdsField, if_pos rfl, holdsAll_eq_all, List.all_map, Bool.eq_iff_iff,
      List.all_eq_true, List.all_eq_true]
    exact forall₂_congr fun t ht => by
      rw [← h t ht, Function.comp_apply, FieldTest.toJson, holds_single]

/-! ## Alternatives -/

/-- The truth of alternatives, each of which is a list of tests. -/
theorem holds_toJson {f : Filter} (h : ∀ tests ∈ f, ∀ t ∈ tests, t.IsRead ρ) :
    holds ρ f.toJson = (f.isEmpty || f.any (·.all (·.truth ρ))) := by
  match f with
  | [] => rfl
  | [tests] =>
    rw [Filter.toJson, holds_conjunctionJson ρ (h tests (List.mem_cons_self ..))]
    simp
  | first :: second :: rest =>
    show holds ρ (single "$or" (.array ((first :: second :: rest).map conjunctionJson))) = _
    rw [holds_single, holdsField, if_neg (by decide), if_pos rfl, holdsSome_eq_any, List.any_map,
      List.isEmpty_cons, Bool.false_or, Bool.eq_iff_iff, List.any_eq_true, List.any_eq_true]
    refine exists_congr fun tests => and_congr_right fun ht => ?_
    rw [Function.comp_apply, holds_conjunctionJson ρ (h tests ht)]

section Alternatives

variable {α : Type}

theorem alternatives_and (k : Connective) (x y : α) (rest : List (Connective × α))
    {branch : List α} {branches : List (List α)}
    (h : alternatives ((.and, y) :: rest) = branch :: branches) :
    alternatives ((k, x) :: (.and, y) :: rest) = (x :: branch) :: branches := by
  rw [alternatives.eq_def]
  simp only [h]

theorem alternatives_or (k : Connective) (x y : α) (rest : List (Connective × α)) :
    alternatives ((k, x) :: (.or, y) :: rest) = [x] :: alternatives ((.or, y) :: rest) := by
  rw [alternatives.eq_def]
  rcases h : alternatives ((.or, y) :: rest) with _ | ⟨branch, branches⟩ <;> simp only [h]

/-- A list that is not empty has a first alternative. The alternatives hold all that is listed, and
    behind whatever stands before them they have the truth of the list. -/
theorem alternatives_cons (k : Connective) (x : α) (rest : List (Connective × α)) :
    ∃ branch branches, alternatives ((k, x) :: rest) = branch :: branches
      ∧ branch ++ branches.flatten = x :: rest.map Prod.snd
      ∧ ∀ (p : α → Bool) (b : Bool), ((b && branch.all p) || branches.any (·.all p))
          = Connective.truthFrom (b && p x) (rest.map fun e => (e.1, p e.2)) := by
  induction rest generalizing k x with
  | nil => exact ⟨[x], [], rfl, rfl, fun p b => by simp [Connective.truthFrom]⟩
  | cons e rest ih =>
      obtain ⟨k', y⟩ := e
      obtain ⟨branch, branches, hrest, hflatten, htruth⟩ := ih k' y
      -- AND adds to the first alternative, OR puts a new one in front of it
      cases k' with
      | and =>
        refine ⟨x :: branch, branches, alternatives_and k x y rest hrest, ?_, fun p b => ?_⟩
        · rw [List.cons_append, hflatten, List.map_cons]
        · rw [List.all_cons, ← Bool.and_assoc, htruth]
          rfl
      | or =>
        refine ⟨[x], branch :: branches, by rw [alternatives_or, hrest], ?_, fun p b => ?_⟩
        · rw [List.flatten_cons, hflatten, List.singleton_append, List.map_cons]
        · have hbranches := htruth p true
          rw [Bool.true_and, Bool.true_and] at hbranches
          rw [List.any_cons, hbranches, List.all_cons, List.all_nil, Bool.and_true]
          rfl

theorem flatten_alternatives (entries : List (Connective × α)) :
    (alternatives entries).flatten = entries.map Prod.snd := by
  match entries with
  | [] => rfl
  | (k, x) :: rest =>
    obtain ⟨branch, branches, h, hflatten, -⟩ := alternatives_cons k x rest
    rw [h, List.flatten_cons, hflatten, List.map_cons]

/-- Split at every OR, a list has the truth that it has with AND binding tighter. -/
theorem truth_alternatives (p : α → Bool) (entries : List (Connective × α)) :
    ((alternatives entries).isEmpty || (alternatives entries).any (·.all p))
      = Connective.truth (entries.map fun e => (e.1, p e.2)) := by
  match entries with
  | [] => rfl
  | (k, x) :: rest =>
    obtain ⟨branch, branches, h, -, htruth⟩ := alternatives_cons k x rest
    have htrue := htruth p true
    rw [Bool.true_and, Bool.true_and] at htrue
    rw [h, List.isEmpty_cons, Bool.false_or, List.any_cons, htrue]
    rfl

end Alternatives

end Document

end QueryKit
