import Mathlib
import QueryKit.Eager.Relation

set_option autoImplicit false

/-! # Lists under keys as parts of lists

The loaders put what they find into lists by key while they go through it. What stands under a key at
the end is the part of all entries that has the key (`get_ofEntries`), the values that are bound are
those of the first entries of their keys (`distinctKeys_eq`), and what a pivot table hands a record is
found again among its links (`get_byOwner`). -/

namespace QueryKit

/-! ## Entries of a key -/

namespace Relation

/-- The entries of a key. -/
def withKey {α : Type} (k : Key) (entries : List (Key × α)) : List α :=
  (entries.filter fun entry => entry.1 == k).map Prod.snd

end Relation

namespace Multimap

variable {α : Type}

/-- Behind what stands under a key already come the entries of the key, in their order. -/
theorem get_foldl_push (k : Key) (entries : List (Key × α)) (map : Multimap Key α) :
    get k (entries.foldl (fun map (used, a) => push used a map) map)
      = get k map ++ Relation.withKey k entries := by
  induction entries generalizing map with
  | nil => exact (List.append_nil _).symm
  | cons entry rest ih =>
      obtain ⟨used, a⟩ := entry
      rw [List.foldl_cons, ih, get_push, List.append_assoc, Relation.withKey, Relation.withKey]
      congr 1
      by_cases hused : used = k
      · subst hused
        rw [if_pos rfl, List.filter_cons, if_pos (beq_self_eq_true _)]
        rfl
      · rw [if_neg hused, List.filter_cons_of_neg (by simpa using hused)]
        rfl

theorem get_ofEntries (k : Key) (entries : List (Key × α)) :
    get k (ofEntries entries) = Relation.withKey k entries :=
  get_foldl_push k entries []

end Multimap

/-! ## First entries of their keys -/

/-- The first entry of every key. -/
def firstByKey {α : Type} : List (Key × α) → List (Key × α)
  | [] => []
  | (k, a) :: rest => (k, a) :: (firstByKey rest).filter fun entry => entry.1 != k

/-- Values with their keys; those without are left out. -/
def keyed (values : List Value) : List (Key × Value) :=
  values.filterMap fun v => v.key?.map fun k => (k, v)

theorem firstByKey_map {α β : Type} (f : α → β) (entries : List (Key × α)) :
    firstByKey (entries.map fun entry => (entry.1, f entry.2))
      = (firstByKey entries).map fun entry => (entry.1, f entry.2) := by
  induction entries with
  | nil => rfl
  | cons entry rest ih =>
      rw [List.map_cons, firstByKey, firstByKey, ih, List.filter_map, List.map_cons]
      rfl

/-- Behind what is kept already come the first entries of the keys that have not been seen. -/
theorem FirstOfKeys.kept_foldl_add (entries : List (Key × Value)) (first : FirstOfKeys) :
    (entries.foldl (fun first (k, v) => first.add k v) first).kept
      = first.kept ++ ((firstByKey entries).filter
          fun entry => !first.seen.contains entry.1).map Prod.snd := by
  induction entries generalizing first with
  | nil => exact (List.append_nil _).symm
  | cons entry rest ih =>
      obtain ⟨k, v⟩ := entry
      show (rest.foldl _ (first.add k v)).kept = _
      rw [ih, firstByKey, FirstOfKeys.add]
      by_cases hseen : k ∈ first.seen
      · have hcontains : first.seen.contains k = true := List.contains_iff_mem.2 hseen
        rw [if_pos hcontains, List.filter_cons_of_neg (by simpa using hseen), List.filter_filter]
        congr 2
        refine List.filter_congr fun entry _ => ?_
        -- an entry whose key has not been seen has another key
        by_cases hother : entry.1 = k
        · rw [hother, hcontains]
          rfl
        · rw [bne_iff_ne.2 hother, Bool.and_true]
      · have hcontains : first.seen.contains k = false := by simpa using hseen
        rw [if_neg (by simpa using hseen), List.filter_cons_of_pos (by simpa using hseen),
          List.filter_filter, List.map_cons, ← List.append_cons]
        congr 3
        refine List.filter_congr fun entry _ => ?_
        rw [List.contains_cons, Bool.not_or, Bool.and_comm]
        rfl

/-- What is bound for values is one value of every key, the first one. -/
theorem distinctKeys_eq (values : List Value) :
    distinctKeys values = (firstByKey (keyed values)).map fun entry => entry.2.canonical := by
  have hentries : distinctKeys values
      = (((keyed values).map fun entry => (entry.1, entry.2.canonical)).foldl
          (fun (first : FirstOfKeys) (k, v) => first.add k v) {}).kept := by
    rw [keyed, List.foldl_map, List.foldl_filterMap, distinctKeys]
    congr 2
    funext first v
    cases v.key? <;> rfl
  rw [hentries, FirstOfKeys.kept_foldl_add, firstByKey_map, List.filter_eq_self.2 (by simp),
    List.map_map]
  rfl

/-! ## Links of a pivot table -/

namespace Relation

/-- The pairs of keys in the rows of a pivot table, each with the related value; rows without one of
    the keys are left out. -/
def pivotLinks (p : Pivot) (rows : List Row) : List (Key × Key × Value) :=
  rows.filterMap fun row => do
    let parent ← (row.get? p.parentColumn).bind Value.key?
    let id ← row.get? p.relatedColumn
    let related ← id.key?
    return (parent, related, id)

/-- One related id for every key that links lead to. -/
def linkedIds (links : List (Key × Key × Value)) : List Value :=
  (firstByKey (links.map Prod.snd)).map Prod.snd

/-- The related records of one record: each of those found, once for every link to it. -/
def linked (links : List (Key × Key × Value)) (found : List (Key × Record)) (parent : Key) :
    List Record :=
  found.flatMap fun (k, record) =>
    (links.filter fun (p, related, _) => p == parent && related == k).map fun _ => record

namespace PivotIndex

/-- The index with a link more. -/
def link (index : PivotIndex) (entry : Key × Key × Value) : PivotIndex :=
  { owners := index.owners.push entry.2.1 entry.1
    related := index.related.add entry.2.1 entry.2.2 }

/-- An index of rows is made of their links. -/
theorem foldl_addRow (p : Pivot) (rows : List Row) (index : PivotIndex) :
    rows.foldl (addRow p) index = (pivotLinks p rows).foldl link index := by
  rw [pivotLinks, List.foldl_filterMap]
  congr 1
  funext index row
  rw [addRow]
  cases row.get? p.parentColumn with
  | none => rfl
  | some parent =>
      cases row.get? p.relatedColumn with
      | none => cases hparent : parent.key? <;> simp [hparent]
      | some related =>
          cases hparent : parent.key? <;> cases hrelated : related.key? <;>
            simp [hparent, hrelated, link]

theorem owners_foldl_link (links : List (Key × Key × Value)) (index : PivotIndex) :
    (links.foldl link index).owners
      = links.foldl (fun owners entry => owners.push entry.2.1 entry.1) index.owners := by
  induction links generalizing index with
  | nil => rfl
  | cons entry rest ih => exact ih _

theorem get_owners_foldl_link (k : Key) (links : List (Key × Key × Value)) (index : PivotIndex) :
    (links.foldl link index).owners.get k
      = index.owners.get k ++ (links.filter fun entry => entry.2.1 == k).map Prod.fst := by
  have hentries :=
    Multimap.get_foldl_push k (links.map fun entry => (entry.2.1, entry.1)) index.owners
  rw [List.foldl_map, withKey, List.filter_map, List.map_map] at hentries
  rw [owners_foldl_link]
  exact hentries

theorem related_foldl_link (links : List (Key × Key × Value)) (index : PivotIndex) :
    (links.foldl link index).related
      = (links.map Prod.snd).foldl (fun first (k, v) => first.add k v) index.related := by
  induction links generalizing index with
  | nil => rfl
  | cons entry rest ih => exact ih _

/-- The ids of an index are one for every key that the links lead to. -/
theorem kept_foldl_addRow (p : Pivot) (rows : List Row) :
    (rows.foldl (addRow p) {}).related.kept = linkedIds (pivotLinks p rows) := by
  rw [foldl_addRow, related_foldl_link, FirstOfKeys.kept_foldl_add, List.filter_eq_self.2 (by simp)]
  rfl

theorem get_foldl_push_owner (parent : Key) (owners : List Key) (record : Record)
    (byOwner : Multimap Key Record) :
    (owners.foldl (fun byOwner owner => byOwner.push owner record) byOwner).get parent
      = byOwner.get parent ++ (owners.filter (· == parent)).map fun _ => record := by
  have hentries :=
    Multimap.get_foldl_push parent (owners.map fun owner => (owner, record)) byOwner
  rw [List.foldl_map, withKey, List.filter_map, List.map_map] at hentries
  exact hentries

/-- **A record is handed what its links lead to**, once for every link. -/
theorem get_byOwner (p : Pivot) (rows : List Row) (found : List (Key × Record)) (parent : Key) :
    ((rows.foldl (addRow p) {}).byOwner found).get parent
      = linked (pivotLinks p rows) found parent := by
  have hfold (byOwner : Multimap Key Record) :
      (found.foldl (fun byOwner (k, record) =>
          ((rows.foldl (addRow p) {}).owners.get k).foldl
            (fun byOwner owner => byOwner.push owner record) byOwner) byOwner).get parent
        = byOwner.get parent ++ linked (pivotLinks p rows) found parent := by
    induction found generalizing byOwner with
    | nil => exact (List.append_nil _).symm
    | cons entry rest ih =>
        obtain ⟨k, record⟩ := entry
        rw [List.foldl_cons, ih, get_foldl_push_owner, List.append_assoc, linked, linked,
          List.flatMap_cons, foldl_addRow, get_owners_foldl_link]
        congr 2
        rw [Multimap.get, List.nil_append, List.filter_map, List.map_map, List.filter_filter]
        rfl
  exact hfold []

end PivotIndex

end Relation

end QueryKit
