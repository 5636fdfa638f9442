import QueryKit.Assoc
import QueryKit.Sql.Emitter
import QueryKit.Value.Conversion
import QueryKit.Json.Printer
set_option autoImplicit false

/-! # Result cache

A cache keeps the results of reads under keys made from their statements, each until its time is up.
Entries are found through a store; a queue remembers in which order their keys were last used. When
there are more entries than the capacity, those that were not used for the longest time are dropped.
Nothing is dropped because of writes. -/

namespace QueryKit

/-- The key of a statement: its text, and its values as a JSON list. -/
def cacheKey (s : Statement) : String :=
  s.sql ++ "|" ++ (Json.array (s.bindings.map Value.toJson)).compact

/-- A result with the time from which on it is no longer valid. -/
structure CacheEntry (α : Type) where
  value : α
  expires : Nat

/-- A cache of results. -/
structure Cache (α : Type) where
  capacity : Nat
  store : Assoc (CacheEntry α) := []
  /-- The keys of the store, the most recently used one last. -/
  queue : List String := []

namespace Cache

variable {α : Type}

/-- The number of entries, whether their time is up or not. -/
def size (c : Cache α) : Nat :=
  c.store.length

/-- Has no entries. -/
def isEmpty (c : Cache α) : Bool :=
  c.size == 0

/-- Marks a key as just used. -/
def touch (key : String) (c : Cache α) : Cache α :=
  if c.queue.contains key then { c with queue := c.queue.erase key ++ [key] } else c

/-- Removes the entry of a key. -/
def forget (key : String) (c : Cache α) : Cache α :=
  if c.store.has key then { c with store := c.store.erase key, queue := c.queue.erase key } else c

/-- Removes all entries. -/
def flush (c : Cache α) : Cache α :=
  { c with store := [], queue := [] }

/-- Drops entries from the front of the queue until the store has at most `capacity` of them. -/
def dropOldest (capacity : Nat) :
    List String → Assoc (CacheEntry α) → List String × Assoc (CacheEntry α)
  | [], store => ([], store)
  | key :: rest, store =>
    if capacity < store.length then dropOldest capacity rest (store.erase key)
    else (key :: rest, store)

/-- Drops the entries that were not used for the longest time until the capacity is kept. -/
def shrink (c : Cache α) : Cache α :=
  if c.capacity = 0 then c.flush
  else
    let (queue, store) := dropOldest c.capacity c.queue c.store
    { c with queue, store }

/-- The result under a key at a time. A result whose time is up is removed instead. -/
def get (now : Nat) (key : String) (c : Cache α) : Option α × Cache α :=
  match c.store.get? key with
  | none => (none, c)
  | some entry =>
    if entry.expires ≤ now then (none, c.forget key) else (some entry.value, c.touch key)

/-- Keeps a result under a key for a duration. -/
def set (now : Nat) (key : String) (value : α) (duration : Nat) (c : Cache α) : Cache α :=
  let known := c.store.has key
  let stored := { c with store := c.store.set key ⟨value, now + duration⟩ }
  let used := if known then stored.touch key else { stored with queue := stored.queue ++ [key] }
  used.shrink

end Cache

end QueryKit
