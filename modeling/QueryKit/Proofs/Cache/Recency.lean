import Mathlib
import QueryKit.Cache

set_option autoImplicit false

/-! # Caches by last use

A cache keeps its entries in a store and the order of their last use in a queue. Both together are one
list of entries, the most recently used one last: what is answered is answered from that list, and
what is dropped is dropped from its front (`Cache.trace_eq_recency`). The queue and the store never
disagree about the keys, since every use keeps the queue equal to the keys of that list and the store
equal to its entries, but for their order (`Cache.Shows`). -/

namespace QueryKit

/-! ## Entries by their last use -/

/-- The entries of a cache under distinct keys, the most recently used one last. -/
abbrev Recency (α : Type) := Assoc (CacheEntry α)

/-- A use of a cache. -/
inductive CacheUse (α : Type)
  | get (now : Nat) (key : String)
  | set (now : Nat) (key : String) (value : α) (duration : Nat)
  | forget (key : String)
  | flush

variable {α : Type}

namespace Recency

/-- The entries of all other keys. -/
def without (key : String) (l : Recency α) : Recency α :=
  l.filter fun entry => entry.1 != key

/-- The entries with that of a key used last. -/
def used (key : String) (entry : CacheEntry α) (l : Recency α) : Recency α :=
  l.without key ++ [(key, entry)]

/-- What a get answers, and what every use leaves of the entries of a cache. -/
def step (capacity : Nat) (l : Recency α) : CacheUse α → Option α × Recency α
  | .get now key =>
    match l.get? key with
    | none => (none, l)
    | some entry =>
      if entry.expires ≤ now then (none, l.without key) else (some entry.value, l.used key entry)
  | .set now key value duration =>
    let entered := l.used key ⟨value, now + duration⟩
    (none, entered.drop (entered.length - capacity))
  | .forget key => (none, l.without key)
  | .flush => (none, [])

/-- What uses answer one after another, each with the number of entries behind it. -/
def trace (capacity : Nat) : Recency α → List (CacheUse α) → List (Option α × Nat)
  | _, [] => []
  | l, use :: rest =>
    let (answer, l) := l.step capacity use
    (answer, l.length) :: trace capacity l rest

end Recency

namespace Cache

/-- What a get answers, and what every use makes of a cache. -/
def step (c : Cache α) : CacheUse α → Option α × Cache α
  | .get now key => c.get now key
  | .set now key value duration => (none, c.set now key value duration)
  | .forget key => (none, c.forget key)
  | .flush => (none, c.flush)

/-- What uses answer one after another, each with the number of entries behind it. -/
def trace : Cache α → List (CacheUse α) → List (Option α × Nat)
  | _, [] => []
  | c, use :: rest =>
    let (answer, c) := c.step use
    (answer, c.size) :: trace c rest

/-- The cache behind uses. -/
def after (c : Cache α) (uses : List (CacheUse α)) : Cache α :=
  uses.foldl (fun c use => (c.step use).2) c

/-! ## The queue and the store -/

/-- The store holds these entries, and the queue has their keys in order. -/
structure Shows (c : Cache α) (l : Recency α) : Prop where
  queue : c.queue = l.keys
  store : c.store.Perm l
  nodup : l.keys.Nodup

namespace Shows

variable {c : Cache α} {l : Recency α}

theorem nodup_store (h : c.Shows l) : c.store.keys.Nodup :=
  (h.store.map Prod.fst).nodup_iff.2 h.nodup

theorem size_eq (h : c.Shows l) : c.size = l.length :=
  h.store.length_eq

theorem get?_eq (h : c.Shows l) (key : String) : c.store.get? key = l.get? key :=
  Assoc.get?_of_perm h.store h.nodup_store key

/-- **The queue lists each key of the store exactly once** and nothing else. -/
theorem count_queue (h : c.Shows l) (key : String) :
    c.queue.count key = if c.store.has key then 1 else 0 := by
  have hmem : key ∈ l.keys ↔ c.store.has key = true := by
    rw [Assoc.has_iff_mem_keys]
    exact (h.store.map Prod.fst).mem_iff.symm
  rw [h.queue, h.nodup.count]
  simp only [hmem]

end Shows

theorem keys_without (key : String) (l : Recency α) :
    (l.without key).keys = l.keys.filter (· != key) := by
  rw [Assoc.keys, Assoc.keys, Recency.without, List.filter_map]
  rfl

theorem keys_used (key : String) (entry : CacheEntry α) (l : Recency α) :
    (l.used key entry).keys = l.keys.filter (· != key) ++ [key] := by
  rw [← keys_without, Recency.used, Assoc.keys, List.map_append]
  rfl

theorem nodup_keys_used (key : String) (entry : CacheEntry α) {l : Recency α}
    (h : l.keys.Nodup) : (l.used key entry).keys.Nodup := by
  rw [keys_used, List.nodup_append]
  refine ⟨h.filter _, List.nodup_singleton key, ?_⟩
  intro other hother k hk heq
  rw [List.mem_singleton] at hk
  have hne := (List.mem_filter.1 hother).2
  rw [heq, hk, bne_self_eq_false] at hne
  exact Bool.false_ne_true hne

/-- A use leaves entries that were there, besides the one that it sets. -/
theorem mem_of_mem_step {capacity : Nat} {l : Recency α} {use : CacheUse α} {key : String}
    {entry : CacheEntry α} (h : (key, entry) ∈ (l.step capacity use).2) :
    (key, entry) ∈ l ∨ ∃ now value duration,
      use = .set now key value duration ∧ entry = ⟨value, now + duration⟩ := by
  have hwithout : ∀ {other : String}, (key, entry) ∈ l.without other → (key, entry) ∈ l :=
    fun hmem => (List.mem_filter.1 hmem).1
  have hused : ∀ {other : String} {used : CacheEntry α}, (key, entry) ∈ l.used other used →
      (key, entry) ∈ l ∨ (key, entry) = (other, used) := by
    intro other used hmem
    rcases List.mem_append.1 hmem with hold | hnew
    · exact .inl (hwithout hold)
    · exact .inr (List.mem_singleton.1 hnew)
  cases use with
  | get now other =>
    rw [Recency.step] at h
    cases hentry : l.get? other with
    | none =>
      rw [hentry] at h
      exact .inl h
    | some found =>
      rw [hentry] at h
      dsimp only at h
      split at h
      · exact .inl (hwithout h)
      · rcases hused h with hold | heq
        · exact .inl hold
        · rw [heq]
          exact .inl (Assoc.mem_of_get? hentry)
  | set now other value duration =>
    rcases hused (List.mem_of_mem_drop h) with hold | heq
    · exact .inl hold
    · cases heq
      exact .inr ⟨now, value, duration, rfl, rfl⟩
  | forget other => exact .inl (hwithout h)
  | flush => cases h

/-- An entry that a get answers is still there behind it. -/
theorem get?_step_get {l : Recency α} {now : Nat} {key : String} {entry : CacheEntry α}
    (hnodup : l.keys.Nodup) (hentry : l.get? key = some entry) (hnow : now < entry.expires)
    (capacity : Nat) : (l.step capacity (.get now key)).2.get? key = some entry := by
  rw [Recency.step, hentry]
  dsimp only
  rw [if_neg (Nat.not_le.2 hnow)]
  refine (Assoc.get?_eq_some_iff (nodup_keys_used key entry hnodup)).2 ?_
  exact List.mem_append_right _ List.mem_cons_self

/-- What is set last stays, if there is room for anything. -/
theorem get?_step_set {capacity : Nat} {l : Recency α} (hnodup : l.keys.Nodup)
    (hcapacity : 0 < capacity) (now duration : Nat) (key : String) (value : α) :
    (l.step capacity (.set now key value duration)).2.get? key
      = some ⟨value, now + duration⟩ := by
  have hused := nodup_keys_used key ⟨value, now + duration⟩ hnodup
  refine (Assoc.get?_eq_some_iff (((List.drop_sublist _ _).map Prod.fst).nodup hused)).2 ?_
  have hlength : (l.used key ⟨value, now + duration⟩).length = (l.without key).length + 1 := by
    rw [Recency.used, List.length_append, List.length_singleton]
  show _ ∈ (l.used key _).drop _
  rw [hlength, Recency.used, List.drop_append_of_le_length (by omega)]
  exact List.mem_append_right _ List.mem_cons_self

theorem queue_touch {c : Cache α} {key : String} (hnodup : c.queue.Nodup) (hkey : key ∈ c.queue) :
    (c.touch key).queue = c.queue.filter (· != key) ++ [key] := by
  rw [touch, if_pos (List.contains_iff_mem.2 hkey), ← hnodup.erase_eq_filter]

theorem store_touch (key : String) (c : Cache α) : (c.touch key).store = c.store := by
  rw [touch]
  split <;> rfl

theorem capacity_touch (key : String) (c : Cache α) : (c.touch key).capacity = c.capacity := by
  rw [touch]
  split <;> rfl

theorem capacity_shrink (c : Cache α) : c.shrink.capacity = c.capacity := by
  rw [shrink]
  split <;> rfl

/-- Dropping from the front of the queue leaves the last entries, as many as there is room for. -/
theorem dropOldest_keys {store l : Assoc (CacheEntry α)} (hstore : store.Perm l)
    (hnodup : l.keys.Nodup) (capacity : Nat) :
    ∃ left, dropOldest capacity l.keys store = (Assoc.keys (l.drop (l.length - capacity)), left)
      ∧ left.Perm (l.drop (l.length - capacity)) := by
  induction l generalizing store with
  | nil => exact ⟨store, by rw [List.drop_nil]; rfl, by rw [List.drop_nil]; exact hstore⟩
  | cons entry rest ih =>
    rw [Assoc.keys, List.map_cons, dropOldest, hstore.length_eq]
    split
    · next hfull =>
      obtain ⟨hnot, hrest⟩ := List.nodup_cons.1 hnodup
      have hleft : (Assoc.erase entry.1 store).Perm rest := by
        rw [Assoc.erase_eq_filter ((hstore.map Prod.fst).nodup_iff.2 hnodup)]
        refine (hstore.filter _).trans ?_
        rw [List.filter_cons_of_neg (by simp), List.filter_eq_self.2]
        refine fun other hother => bne_iff_ne.2 fun heq => hnot ?_
        exact heq ▸ List.mem_map_of_mem hother
      have hdrop : (entry :: rest).length - capacity = rest.length - capacity + 1 := by
        rw [List.length_cons] at hfull ⊢
        omega
      rw [hdrop, List.drop_succ_cons]
      exact ih hleft hrest
    · next hroom =>
      rw [Nat.sub_eq_zero_of_le (Nat.le_of_not_lt hroom)]
      exact ⟨store, rfl, hstore⟩

/-! ## Steps -/

namespace Shows

variable {c : Cache α} {l : Recency α}

theorem flush (c : Cache α) : c.flush.Shows [] :=
  ⟨rfl, .refl _, List.nodup_nil⟩

theorem forget (h : c.Shows l) (key : String) : (c.forget key).Shows (l.without key) := by
  have hnodup : (l.without key).keys.Nodup := by
    rw [keys_without]
    exact h.nodup.filter _
  rw [Cache.forget]
  split
  · refine ⟨?_, ?_, hnodup⟩
    · rw [keys_without, ← h.nodup.erase_eq_filter, ← h.queue]
    · simp only [Assoc.erase_eq_filter h.nodup_store]
      exact h.store.filter _
  · next hmissing =>
    -- a key that is not there is in neither of the two
    have hself : l.without key = l := by
      refine List.filter_eq_self.2 fun entry hentry => bne_iff_ne.2 fun heq => hmissing ?_
      rw [Assoc.has_iff_mem_keys, ← heq]
      exact List.mem_map_of_mem (h.store.mem_iff.2 hentry)
    rw [hself]
    exact h

theorem touch (h : c.Shows l) {key : String} {entry : CacheEntry α}
    (hentry : l.get? key = some entry) : (c.touch key).Shows (l.used key entry) := by
  have hkey : key ∈ c.queue := by
    rw [h.queue, ← Assoc.has_iff_mem_keys, Assoc.has, hentry]
    rfl
  refine ⟨?_, ?_, nodup_keys_used key entry h.nodup⟩
  · rw [queue_touch (h.queue ▸ h.nodup) hkey, keys_used, h.queue]
  · -- the entry is the one that the key has, so nothing is replaced
    have hused := Assoc.set_perm key entry h.nodup
    rw [Assoc.set_of_get? hentry] at hused
    rw [store_touch]
    exact h.store.trans hused

theorem shrink (h : c.Shows l) : c.shrink.Shows (l.drop (l.length - c.capacity)) := by
  rw [Cache.shrink]
  split
  · next hzero =>
    rw [hzero, Nat.sub_zero, List.drop_length]
    exact flush c
  · obtain ⟨store, hdrop, hstore⟩ := dropOldest_keys h.store h.nodup c.capacity
    rw [h.queue, hdrop]
    exact ⟨rfl, hstore, ((List.drop_sublist _ l).map Prod.fst).nodup h.nodup⟩

theorem set (h : c.Shows l) (now : Nat) (key : String) (value : α) (duration : Nat) :
    (c.set now key value duration).Shows
      ((l.used key ⟨value, now + duration⟩).drop
        ((l.used key ⟨value, now + duration⟩).length - c.capacity)) := by
  have hstore : (Assoc.set key ⟨value, now + duration⟩ c.store).Perm
      (l.used key ⟨value, now + duration⟩) :=
    (Assoc.set_perm key _ h.nodup_store).trans ((h.store.filter _).append_right _)
  have hnodup := nodup_keys_used key ⟨value, now + duration⟩ h.nodup
  rw [Cache.set]
  by_cases hknown : c.store.has key = true
  · have hkey : key ∈ c.queue := by
      rw [← List.count_pos_iff, h.count_queue, if_pos hknown]
      exact Nat.one_pos
    simp only [if_pos hknown]
    generalize hstored : ({ c with store := _ } : Cache α) = stored
    have hqueue : stored.queue = c.queue := by rw [← hstored]
    have hshows : (stored.touch key).Shows (l.used key ⟨value, now + duration⟩) := by
      refine ⟨?_, ?_, hnodup⟩
      · rw [queue_touch (hqueue ▸ h.queue ▸ h.nodup) (hqueue ▸ hkey), keys_used, hqueue, h.queue]
      · rw [store_touch, ← hstored]
        exact hstore
    have hcapacity : (stored.touch key).capacity = c.capacity := by
      rw [capacity_touch, ← hstored]
    rw [← hcapacity]
    exact hshows.shrink
  · have hmissing : l.keys.filter (· != key) = l.keys := by
      refine List.filter_eq_self.2 fun other hother => bne_iff_ne.2 fun heq => hknown ?_
      rw [Assoc.has_iff_mem_keys, ← heq]
      exact (h.store.map Prod.fst).mem_iff.2 hother
    simp only [if_neg hknown]
    refine Shows.shrink ⟨?_, hstore, hnodup⟩
    rw [keys_used, hmissing, ← h.queue]

theorem get (h : c.Shows l) (now : Nat) (key : String) :
    (c.get now key).1 = (l.step c.capacity (.get now key)).1
      ∧ (c.get now key).2.Shows (l.step c.capacity (.get now key)).2 := by
  rw [Cache.get, Recency.step, h.get?_eq]
  cases hentry : l.get? key with
  | none => exact ⟨rfl, h⟩
  | some entry =>
    simp only
    split
    · exact ⟨rfl, h.forget key⟩
    · exact ⟨rfl, h.touch hentry⟩

/-- **A use of a cache is the use of its entries by their last use.** -/
theorem step (h : c.Shows l) (use : CacheUse α) :
    (c.step use).1 = (l.step c.capacity use).1
      ∧ (c.step use).2.Shows (l.step c.capacity use).2 := by
  cases use with
  | get now key => exact h.get now key
  | set now key value duration => exact ⟨rfl, h.set now key value duration⟩
  | forget key => exact ⟨rfl, h.forget key⟩
  | flush => exact ⟨rfl, flush c⟩

end Shows

theorem capacity_step (c : Cache α) (use : CacheUse α) : (c.step use).2.capacity = c.capacity := by
  have hforget (key : String) : (c.forget key).capacity = c.capacity := by
    rw [forget]
    split <;> rfl
  cases use with
  | get now key =>
    rw [step, get]
    split
    · rfl
    · split
      · exact hforget key
      · exact capacity_touch key c
  | set now key value duration =>
    rw [step, set]
    simp only
    rw [capacity_shrink]
    split
    · exact capacity_touch _ _
    · rfl
  | forget key => exact hforget key
  | flush => rfl

/-- What a cache shows is kept by every run, and so is what is answered. -/
theorem Shows.trace {c : Cache α} {l : Recency α} (h : c.Shows l) (uses : List (CacheUse α)) :
    c.trace uses = l.trace c.capacity uses ∧ ∃ l', (c.after uses).Shows l' := by
  induction uses generalizing c l with
  | nil => exact ⟨rfl, l, h⟩
  | cons use rest ih =>
    obtain ⟨hanswer, hshows⟩ := h.step use
    obtain ⟨htrace, hafter⟩ := ih hshows
    rw [capacity_step] at htrace
    refine ⟨?_, hafter⟩
    simp only [Cache.trace, Recency.trace]
    rw [hanswer, hshows.size_eq, htrace]

/-- **A cache is a list of its entries by their last use.** For every capacity, uses at any times
    answer what they answer on that list, and leave as many entries. The queue always has each key of
    the store exactly once and no other keys. -/
theorem trace_eq_recency (capacity : Nat) (uses : List (CacheUse α)) :
    ({ capacity } : Cache α).trace uses = Recency.trace capacity [] uses
      ∧ ∀ key, (({ capacity } : Cache α).after uses).queue.count key
          = if (({ capacity } : Cache α).after uses).store.has key then 1 else 0 := by
  have hempty : ({ capacity } : Cache α).Shows [] := ⟨rfl, .refl _, List.nodup_nil⟩
  obtain ⟨htrace, _, hafter⟩ := hempty.trace uses
  exact ⟨htrace, hafter.count_queue⟩

/-- A get keeps an entry from being the next one that is dropped. -/
example :
    ({ capacity := 2 } : Cache Nat).trace
        [.set 0 "a" 1 9, .set 0 "b" 2 9, .get 1 "a", .set 1 "c" 3 9, .get 2 "b", .get 9 "a"]
      = [(none, 1), (none, 2), (some 1, 2), (none, 2), (none, 2), (none, 1)] := by
  decide

end Cache

end QueryKit
