import QueryKit.Value.Basic

set_option autoImplicit false

/-! # Values that differ from themselves

Values are compared as numbers where they are numbers, so what stands for no number is not the same as
itself, and neither is a list or a JSON value that holds it at any depth (`Value.same_self`). Nothing is
the same as such a value (`Value.hasNaN_of_same`). -/

namespace QueryKit

/-! ## Numbers -/

theorem Binary64.same_self (x : Binary64) : x.same x = !x.isNaN := by
  unfold same isNaN
  cases x.reading <;> simp

theorem Binary64.isNaN_of_same {x y : Binary64} (h : x.same y = true) : y.isNaN = false := by
  unfold same at h
  unfold isNaN
  cases hx : x.reading <;> cases hy : y.reading <;> simp_all

/-- Stands for no number. -/
def JsonNumber.isNaN : JsonNumber → Bool
  | .integer _ => false
  | .float x => x.isNaN

theorem JsonNumber.same_self (n : JsonNumber) : n.same n = !n.isNaN := by
  cases n with
  | integer n => exact beq_self_eq_true n
  | float x => exact x.same_self

theorem JsonNumber.isNaN_of_same {m n : JsonNumber} (h : m.same n = true) : n.isNaN = false := by
  cases n with
  | integer n => rfl
  | float y =>
      cases m with
      | integer m => cases h
      | float x => exact Binary64.isNaN_of_same h

/-! ## JSON -/

namespace Json

mutual

/-- Holds what stands for no number. -/
def hasNaN : Json → Bool
  | .number n => n.isNaN
  | .array items => itemsHaveNaN items
  | .object fields => fieldsHaveNaN fields
  | _ => false

/-- Some item does. -/
def itemsHaveNaN : List Json → Bool
  | [] => false
  | item :: rest => item.hasNaN || itemsHaveNaN rest

/-- The value of some field does. -/
def fieldsHaveNaN : List (String × Json) → Bool
  | [] => false
  | (_, value) :: rest => value.hasNaN || fieldsHaveNaN rest

end

mutual

theorem same_self : ∀ j : Json, j.same j = !j.hasNaN
  | .null => rfl
  | .bool b => beq_self_eq_true b
  | .number n => n.same_self
  | .string s => beq_self_eq_true s
  | .array items => sameItems_self items
  | .object fields => sameFields_self fields

theorem sameItems_self : ∀ items : List Json, sameItems items items = !itemsHaveNaN items
  | [] => rfl
  | item :: rest => by
    rw [sameItems, itemsHaveNaN, same_self item, sameItems_self rest, Bool.not_or]

theorem sameFields_self : ∀ fields : List (String × Json),
    sameFields fields fields = !fieldsHaveNaN fields
  | [] => rfl
  | (name, value) :: rest => by
    rw [sameFields, fieldsHaveNaN, same_self value, sameFields_self rest, beq_self_eq_true,
      Bool.true_and, Bool.not_or]

end

mutual

theorem hasNaN_of_same : ∀ i j : Json, i.same j = true → j.hasNaN = false
  | i, .null, _ => rfl
  | i, .bool _, _ => rfl
  | i, .string _, _ => rfl
  | i, .number n, h => by
    cases i <;> simp only [same, Bool.false_eq_true] at h
    exact JsonNumber.isNaN_of_same h
  | i, .array items, h => by
    cases i <;> simp only [same, Bool.false_eq_true] at h
    exact itemsHaveNaN_of_same _ items h
  | i, .object fields, h => by
    cases i <;> simp only [same, Bool.false_eq_true] at h
    exact fieldsHaveNaN_of_same _ fields h

theorem itemsHaveNaN_of_same : ∀ xs ys : List Json, sameItems xs ys = true →
    itemsHaveNaN ys = false
  | [], [], _ => rfl
  | x :: xs, y :: ys, h => by
    rw [sameItems, Bool.and_eq_true] at h
    rw [itemsHaveNaN, hasNaN_of_same x y h.1, itemsHaveNaN_of_same xs ys h.2, Bool.or_false]

theorem fieldsHaveNaN_of_same : ∀ xs ys : List (String × Json), sameFields xs ys = true →
    fieldsHaveNaN ys = false
  | [], [], _ => rfl
  | (_, x) :: xs, (_, y) :: ys, h => by
    rw [sameFields, Bool.and_eq_true, Bool.and_eq_true] at h
    rw [fieldsHaveNaN, hasNaN_of_same x y h.1.2, fieldsHaveNaN_of_same xs ys h.2, Bool.or_false]

end

end Json

/-! ## Values -/

namespace Value

mutual

/-- Holds what stands for no number. -/
def hasNaN : Value → Bool
  | .float x => x.isNaN
  | .json j => j.hasNaN
  | .array items => itemsHaveNaN items
  | _ => false

/-- Some item does. -/
def itemsHaveNaN : List Value → Bool
  | [] => false
  | item :: rest => item.hasNaN || itemsHaveNaN rest

end

mutual

/-- A value is the same as itself unless it holds what stands for no number. -/
theorem same_self : ∀ v : Value, v.same v = !v.hasNaN
  | .null => rfl
  | .bool b => beq_self_eq_true b
  | .int n => beq_self_eq_true n
  | .float x => x.same_self
  | .decimal d => beq_self_eq_true d.value
  | .text s => beq_self_eq_true s
  | .bytes data => beq_self_eq_true data
  | .json j => j.same_self
  | .uuid u => beq_self_eq_true u
  | .timestamp t => beq_self_eq_true t
  | .array items => sameItems_self items

theorem sameItems_self : ∀ items : List Value, sameItems items items = !itemsHaveNaN items
  | [] => rfl
  | item :: rest => by
    rw [sameItems, itemsHaveNaN, same_self item, sameItems_self rest, Bool.not_or]

end

mutual

/-- Nothing is the same as a value that holds what stands for no number. -/
theorem hasNaN_of_same : ∀ v w : Value, v.same w = true → w.hasNaN = false
  | v, .float y, h => by
    cases v <;> simp only [same, Bool.false_eq_true] at h
    exact Binary64.isNaN_of_same h
  | v, .json j, h => by
    cases v <;> simp only [same, Bool.false_eq_true] at h
    exact Json.hasNaN_of_same _ j h
  | v, .array items, h => by
    cases v <;> simp only [same, Bool.false_eq_true] at h
    exact itemsHaveNaN_of_same _ items h
  | _, .null, _ => rfl
  | _, .bool _, _ => rfl
  | _, .int _, _ => rfl
  | _, .decimal _, _ => rfl
  | _, .text _, _ => rfl
  | _, .bytes _, _ => rfl
  | _, .uuid _, _ => rfl
  | _, .timestamp _, _ => rfl

theorem itemsHaveNaN_of_same : ∀ vs ws : List Value, sameItems vs ws = true →
    itemsHaveNaN ws = false
  | [], [], _ => rfl
  | v :: vs, w :: ws, h => by
    rw [sameItems, Bool.and_eq_true] at h
    rw [itemsHaveNaN, hasNaN_of_same v w h.1, itemsHaveNaN_of_same vs ws h.2, Bool.or_false]

end

end Value

end QueryKit
