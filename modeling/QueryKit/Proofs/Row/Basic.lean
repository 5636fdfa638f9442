import Mathlib
import QueryKit.Row.Basic

set_option autoImplicit false

/-! # Laws of rows

What is found in a row after columns were set or left out, and which columns it has then, in which
order. A row is a list of entries under distinct names, so these are laws of such lists. -/

namespace QueryKit

/-! ## Entries set one after another -/

namespace Assoc

variable {α : Type}

theorem get?_append (name : String) (first second : Assoc α) :
    get? name (first ++ second) = (get? name first).or (get? name second) := by
  induction first with
  | nil => rfl
  | cons entry rest ih =>
      obtain ⟨n, v⟩ := entry
      rw [List.cons_append, get?, get?, ih]
      split <;> rfl

theorem get?_eq_none_of_notMem {name : String} {entries : Assoc α} (h : name ∉ keys entries) :
    get? name entries = none := by
  rw [← Option.not_isSome_iff_eq_none]
  exact mt has_iff_mem_keys.1 h

/-- What is set under a name last is found there. -/
theorem get?_setAll (name : String) (entries : Assoc α) (new : List (String × α)) :
    get? name (setAll entries new) = (get? name new.reverse).or (get? name entries) := by
  induction new generalizing entries with
  | nil => rfl
  | cons entry rest ih =>
      obtain ⟨n, v⟩ := entry
      rw [setAll, List.foldl_cons, ← setAll, ih, get?_set, List.reverse_cons, get?_append,
        Option.or_assoc, get?, get?]
      simp only [eq_comm (a := n)]
      split <;> rfl

/-- New entries under distinct names are added in their order. -/
theorem setAll_of_nodup {entries : Assoc α} {new : List (String × α)}
    (h : (keys (entries ++ new)).Nodup) : setAll entries new = entries ++ new := by
  induction new generalizing entries with
  | nil => exact (List.append_nil entries).symm
  | cons entry rest ih =>
      obtain ⟨n, v⟩ := entry
      have hnew : n ∉ keys entries := by
        rw [keys, List.map_append, List.nodup_append'] at h
        exact fun hmem => h.2.2 hmem (List.mem_cons_self ..)
      rw [List.append_cons] at h ⊢
      rw [← ih h, ← set_of_notMem hnew]
      rfl

theorem keys_set (name : String) (value : α) (entries : Assoc α) :
    keys (set name value entries)
      = if name ∈ keys entries then keys entries else keys entries ++ [name] := by
  split
  · next hmem =>
      induction entries with
      | nil => cases hmem
      | cons entry rest ih =>
          obtain ⟨n, v⟩ := entry
          rw [set]
          split
          · rfl
          · next hname =>
              rcases List.mem_cons.1 hmem with heq | hmem
              · exact absurd heq.symm hname
              · exact congrArg (n :: ·) (ih hmem)
  · next hnot => rw [set_of_notMem hnot, keys, keys, List.map_append, List.map_singleton]

/-- Names that entries have stay where they are, whatever is set. -/
theorem keys_prefix_setAll (entries : Assoc α) (new : List (String × α)) :
    keys entries <+: keys (setAll entries new) := by
  induction new generalizing entries with
  | nil => exact List.prefix_rfl
  | cons entry rest ih =>
      obtain ⟨n, v⟩ := entry
      refine List.IsPrefix.trans ?_ (ih (set n v entries))
      rw [keys_set]
      split
      · exact List.prefix_rfl
      · exact List.prefix_append _ _

/-- Of names that are set once each, the new ones come last, in their order. -/
theorem keys_setAll {new : List (String × α)} (h : (keys new).Nodup) (entries : Assoc α) :
    keys (setAll entries new) = keys entries ++ (keys new).filter (· ∉ keys entries) := by
  induction new generalizing entries with
  | nil => exact (List.append_nil _).symm
  | cons entry rest ih =>
      obtain ⟨n, v⟩ := entry
      obtain ⟨hnot, hrest⟩ := List.nodup_cons.1 h
      rw [setAll, List.foldl_cons, ← setAll, ih hrest, keys_set]
      have hkeys : keys ((n, v) :: rest) = n :: keys rest := rfl
      by_cases hmem : n ∈ keys entries
      · rw [if_pos hmem, hkeys, List.filter_cons_of_neg (by simpa using hmem)]
      · have hother : ∀ m ∈ keys rest, m ≠ n := fun m hm heq => hnot (heq ▸ hm)
        rw [if_neg hmem, hkeys, List.filter_cons_of_pos (by simpa using hmem), List.append_assoc,
          List.singleton_append]
        congr 2
        refine List.filter_congr fun m hm => ?_
        simp [hother m hm]

/-- Entries under distinct names are the same but for their order exactly if the same is found under
    every name. -/
theorem perm_iff_get? {entries others : Assoc α} (h : (keys entries).Nodup) (h' : (keys others).Nodup) :
    entries.Perm others ↔ ∀ name, get? name entries = get? name others := by
  refine ⟨fun hperm => get?_of_perm hperm h, fun hget => ?_⟩
  rw [List.perm_ext_iff_of_nodup h.of_map h'.of_map]
  rintro ⟨name, value⟩
  rw [← get?_eq_some_iff h, ← get?_eq_some_iff h', hget]

end Assoc

namespace Row

theorem get?_eq_some_iff {column : String} {value : Value} {row : Row} :
    row.get? column = some value ↔ (column, value) ∈ row.entries :=
  Assoc.get?_eq_some_iff row.nodup

theorem get?_push (column other : String) (value : Value) (row : Row) :
    (row.push column value).get? other = if other = column then some value else row.get? other :=
  Assoc.get?_set column other value row.entries

/-- A column that is set keeps its place, or comes last if it is new. -/
theorem columns_push (column : String) (value : Value) (row : Row) :
    (row.push column value).columns
      = if column ∈ row.columns then row.columns else row.columns ++ [column] :=
  Assoc.keys_set column value row.entries

theorem entries_erase (column : String) (row : Row) :
    (row.erase column).entries = row.entries.filter fun entry => entry.1 != column :=
  Assoc.erase_eq_filter row.nodup

theorem entries_pushAll (row : Row) (new : List (String × Value)) :
    (row.pushAll new).entries = row.entries.setAll new := by
  induction new generalizing row with
  | nil => rfl
  | cons entry rest ih => exact ih (row.push entry.1 entry.2)

theorem entries_ofList {entries : List (String × Value)} (h : (Assoc.keys entries).Nodup) :
    (ofList entries).entries = entries :=
  (entries_pushAll empty entries).trans (Assoc.setAll_of_nodup h)

theorem get?_ofList (column : String) (entries : List (String × Value)) :
    (ofList entries).get? column = Assoc.get? column entries.reverse := by
  rw [get?, ofList, entries_pushAll, Assoc.get?_setAll]
  exact Option.or_none

theorem mem_columns_iff {column : String} {row : Row} :
    column ∈ row.columns ↔ (row.get? column).isSome = true :=
  Assoc.has_iff_mem_keys.symm

end Row

end QueryKit
