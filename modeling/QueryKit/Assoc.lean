set_option autoImplicit false

/-! # Named entries

A list of entries under distinct names, in the order in which the names were first set. Setting a
name again keeps its place. Every operation keeps the names distinct. -/

namespace QueryKit

/-- Entries under names. -/
abbrev Assoc (α : Type) := List (String × α)

namespace Assoc

variable {α : Type}

/-- Sets the entry of a name, at its place if it has one and at the end otherwise. -/
def set (name : String) (value : α) : Assoc α → Assoc α
  | [] => [(name, value)]
  | (n, v) :: rest => if n = name then (n, value) :: rest else (n, v) :: set name value rest

/-- Leaves out the entry of a name. -/
def erase (name : String) : Assoc α → Assoc α
  | [] => []
  | (n, v) :: rest => if n = name then rest else (n, v) :: erase name rest

/-- The entry of a name. -/
def get? (name : String) : Assoc α → Option α
  | [] => none
  | (n, v) :: rest => if n = name then some v else get? name rest

/-- Has an entry for a name. -/
def has (name : String) (entries : Assoc α) : Bool :=
  (entries.get? name).isSome

/-- The names in order. -/
def keys (entries : Assoc α) : List String :=
  entries.map Prod.fst

/-- Sets entries one after another. -/
def setAll (entries : Assoc α) (new : List (String × α)) : Assoc α :=
  new.foldl (fun acc (n, v) => acc.set n v) entries

/-! ## Entries of a name -/

theorem mem_of_get? {name : String} {value : α} {entries : Assoc α}
    (h : entries.get? name = some value) : (name, value) ∈ entries := by
  induction entries with
  | nil => cases h
  | cons entry rest ih =>
    obtain ⟨n, v⟩ := entry
    unfold get? at h
    split at h
    · next hname =>
      cases h
      rw [hname]
      exact List.mem_cons_self
    · exact List.mem_cons_of_mem _ (ih h)

/-- A new name is set at the end. -/
theorem set_of_notMem {name : String} {entries : Assoc α} (h : name ∉ keys entries) (value : α) :
    set name value entries = entries ++ [(name, value)] := by
  induction entries with
  | nil => rfl
  | cons entry rest ih =>
    obtain ⟨n, v⟩ := entry
    rw [keys, List.map_cons, List.mem_cons, not_or] at h
    rw [set, if_neg (Ne.symm h.1), ih h.2, List.cons_append]

/-- Setting a name to what it has changes nothing. -/
theorem set_of_get? {name : String} {value : α} {entries : Assoc α}
    (h : entries.get? name = some value) : set name value entries = entries := by
  induction entries with
  | nil => cases h
  | cons entry rest ih =>
    obtain ⟨n, v⟩ := entry
    unfold get? at h
    unfold set
    split at h
    · next heq =>
      cases h
      rw [if_pos heq]
    · next hne => rw [if_neg hne, ih h]

theorem get?_set (name other : String) (value : α) (entries : Assoc α) :
    get? other (set name value entries)
      = if other = name then some value else get? other entries := by
  induction entries with
  | nil => simp [set, get?, eq_comm]
  | cons entry rest ih =>
    obtain ⟨n, v⟩ := entry
    unfold set
    split
    · next hname =>
      rw [get?, get?, hname]
      by_cases hother : name = other
      · rw [if_pos hother, if_pos hother.symm]
      · rw [if_neg hother, if_neg hother, if_neg (Ne.symm hother)]
    · next hname =>
      rw [get?, get?, ih]
      by_cases hother : n = other
      · rw [if_pos hother, if_pos hother, if_neg (fun h => hname (hother.trans h))]
      · rw [if_neg hother, if_neg hother]

/-! ## Names stay distinct -/

theorem mem_keys_set (name n : String) (value : α) (entries : Assoc α) :
    n ∈ keys (set name value entries) ↔ n = name ∨ n ∈ keys entries := by
  induction entries with
  | nil => simp [set, keys]
  | cons entry rest ih =>
    obtain ⟨m, v⟩ := entry
    unfold set
    split
    · rename_i h
      subst h
      simp [keys]
    · simp only [keys, List.map_cons, List.mem_cons] at ih ⊢
      rw [ih]
      exact or_left_comm

theorem nodup_keys_set (name : String) (value : α) (entries : Assoc α)
    (h : (keys entries).Nodup) : (keys (set name value entries)).Nodup := by
  induction entries with
  | nil => simp [set, keys]
  | cons entry rest ih =>
    obtain ⟨m, v⟩ := entry
    unfold set
    split
    · simpa [keys] using h
    · rename_i hm
      have hrest : (keys rest).Nodup := (List.nodup_cons.1 h).2
      refine List.nodup_cons.2 ⟨?_, ih hrest⟩
      intro hmem
      rcases (mem_keys_set name m value rest).1 hmem with rfl | hmem
      · exact hm rfl
      · exact (List.nodup_cons.1 h).1 hmem

theorem erase_sublist (name : String) (entries : Assoc α) :
    (erase name entries).Sublist entries := by
  induction entries with
  | nil => exact List.Sublist.slnil
  | cons entry rest ih =>
    obtain ⟨m, v⟩ := entry
    unfold erase
    split
    · exact List.sublist_cons_self _ _
    · exact ih.cons_cons _

theorem nodup_keys_erase (name : String) (entries : Assoc α) (h : (keys entries).Nodup) :
    (keys (erase name entries)).Nodup :=
  List.Sublist.nodup ((erase_sublist name entries).map Prod.fst) h

/-! ## Entries under distinct names -/

theorem get?_eq_some_iff {name : String} {value : α} {entries : Assoc α}
    (h : (keys entries).Nodup) : entries.get? name = some value ↔ (name, value) ∈ entries := by
  refine ⟨mem_of_get?, fun hmem => ?_⟩
  induction entries with
  | nil => cases hmem
  | cons entry rest ih =>
    obtain ⟨n, v⟩ := entry
    obtain ⟨hnot, hrest⟩ := List.nodup_cons.1 h
    unfold get?
    split
    · next hname =>
      rcases List.mem_cons.1 hmem with heq | hmem
      · cases heq
        rfl
      · subst hname
        exact absurd (List.mem_map_of_mem hmem) hnot
    · next hname =>
      rcases List.mem_cons.1 hmem with heq | hmem
      · cases heq
        exact absurd rfl hname
      · exact ih hrest hmem

/-- The order of entries under distinct names does not matter to what is found. -/
theorem get?_of_perm {entries others : Assoc α} (h : entries.Perm others)
    (hkeys : (keys entries).Nodup) (name : String) : entries.get? name = others.get? name := by
  have hothers : (keys others).Nodup := (h.map Prod.fst).nodup_iff.1 hkeys
  apply Option.ext
  intro value
  rw [get?_eq_some_iff hkeys, get?_eq_some_iff hothers, h.mem_iff]

theorem has_iff_mem_keys {name : String} {entries : Assoc α} :
    entries.has name = true ↔ name ∈ keys entries := by
  induction entries with
  | nil => simp [has, get?, keys]
  | cons entry rest ih =>
    obtain ⟨n, v⟩ := entry
    rw [has, get?]
    split
    · next h => simp [keys, h]
    · next h =>
      rw [keys, List.map_cons, List.mem_cons, or_iff_right (Ne.symm h)]
      exact ih

theorem erase_eq_filter {name : String} {entries : Assoc α} (h : (keys entries).Nodup) :
    erase name entries = entries.filter fun entry => entry.1 != name := by
  induction entries with
  | nil => rfl
  | cons entry rest ih =>
    obtain ⟨n, v⟩ := entry
    obtain ⟨hnot, hrest⟩ := List.nodup_cons.1 h
    unfold erase
    split
    · next hname =>
      have hself : (rest.filter fun entry => entry.1 != name) = rest := by
        rw [List.filter_eq_self]
        intro entry hentry
        rw [bne_iff_ne, ← hname]
        intro heq
        exact hnot (List.mem_map.2 ⟨entry, hentry, heq⟩)
      rw [List.filter_cons_of_neg (by simp [hname]), hself]
    · next hname => rw [List.filter_cons_of_pos (by simpa using hname), ih hrest]

theorem get?_erase {name : String} {entries : Assoc α} (h : (keys entries).Nodup) (other : String) :
    get? other (erase name entries) = if other = name then none else get? other entries := by
  induction entries with
  | nil => simp [erase, get?]
  | cons entry rest ih =>
    obtain ⟨n, v⟩ := entry
    obtain ⟨hnot, hrest⟩ := List.nodup_cons.1 h
    unfold erase
    split
    · next hname =>
      subst hname
      by_cases hother : other = n
      · rw [if_pos hother, hother]
        cases hget : get? n rest with
        | none => rfl
        | some w => exact absurd (List.mem_map_of_mem (mem_of_get? hget)) hnot
      · rw [if_neg hother, get?, if_neg (Ne.symm hother)]
    · next hname =>
      rw [get?, get?, ih hrest]
      by_cases hother : n = other
      · rw [if_pos hother, if_pos hother, if_neg (fun heq => hname (hother.trans heq))]
      · rw [if_neg hother, if_neg hother]

/-- Setting a name is leaving it out and adding it, but for the place of the entry. -/
theorem set_perm (name : String) (value : α) {entries : Assoc α} (h : (keys entries).Nodup) :
    (set name value entries).Perm
      ((entries.filter fun entry => entry.1 != name) ++ [(name, value)]) := by
  rw [← erase_eq_filter h]
  clear h
  induction entries with
  | nil => exact .refl _
  | cons entry rest ih =>
    obtain ⟨n, v⟩ := entry
    unfold set erase
    split
    · next hname =>
      rw [hname]
      exact (List.perm_append_singleton _ _).symm
    · exact ih.cons _

end Assoc

end QueryKit
