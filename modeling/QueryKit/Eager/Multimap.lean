import QueryKit.Value.Key
set_option autoImplicit false

/-! # Lists under keys

What is found is put into lists by key while it is gone through, and of the values of one key only the
first is bound. -/

namespace QueryKit

/-- Lists under keys, in the order in which the keys were first used. -/
abbrev Multimap (κ α : Type) := List (κ × List α)

namespace Multimap

variable {κ α : Type} [DecidableEq κ]

/-- Puts an entry behind those of its key. -/
def push (k : κ) (a : α) : Multimap κ α → Multimap κ α
  | [] => [(k, [a])]
  | (used, held) :: rest =>
    if used = k then (used, held ++ [a]) :: rest else (used, held) :: push k a rest

/-- The entries of a key. -/
def get (k : κ) : Multimap κ α → List α
  | [] => []
  | (used, held) :: rest => if used = k then held else get k rest

/-- The entries under their keys. -/
def ofEntries (entries : List (κ × α)) : Multimap κ α :=
  entries.foldl (fun map (k, a) => push k a map) []

theorem get_push (k other : κ) (a : α) (map : Multimap κ α) :
    get other (push k a map) = get other map ++ (if k = other then [a] else []) := by
  induction map with
  | nil =>
    rw [push, get, get]
    split
    · rfl
    · rfl
  | cons first rest ih =>
    obtain ⟨used, held⟩ := first
    rw [push]
    by_cases hused : used = k
    · subst hused
      rw [if_pos rfl, get, get]
      split
      · rfl
      · rw [List.append_nil]
    · rw [if_neg hused, get, get, ih]
      split
      · next hother => rw [if_neg fun hk => hused (hother.trans hk.symm), List.append_nil]
      · rfl

end Multimap

/-! ## One value for every key -/

/-- Values that were kept as the first of their keys. -/
structure FirstOfKeys where
  seen : List Key := []
  kept : List Value := []

/-- Keeps a value unless its key has been seen. -/
def FirstOfKeys.add (k : Key) (v : Value) (first : FirstOfKeys) : FirstOfKeys :=
  if first.seen.contains k then first
  else { seen := k :: first.seen, kept := first.kept ++ [v] }

end QueryKit
