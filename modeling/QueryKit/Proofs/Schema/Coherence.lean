import Mathlib
import QueryKit.Proofs.Driver.Action
import QueryKit.Schema.Registry

set_option autoImplicit false

/-! # Registries are coherent

A registry stands between its users and a source of tables. Whatever is done with it
(`RegistryProgram`) leaves a history of the answers of the source and of what was registered and
dropped. The last event that says something about a table decides what is known of it (`known`), and
this is what the registry has for the table at any time (`cached_eq_known`). The source may answer
differently or fail whenever it is asked. -/

namespace QueryKit

variable {σ α β : Type}

/-! ## Histories -/

/-- What happens around a registry. -/
inductive RegistryEvent
  /-- The source has answered for a table. -/
  | answered (table : String) (answer : Except Error (Option Table))
  | registered (t : Table)
  | dropped (table : String)
  | droppedAll
  /-- The registry has been asked what it has for a table. -/
  | seen (table : String) (entry : Option Table)

/-- What an event says about a table: that there is this one, or that there is none. A failure of the
    source says nothing. -/
def RegistryEvent.verdict? (table : String) : RegistryEvent → Option (Option Table)
  | .answered name (.ok answer) => if name = table then some answer else none
  | .registered t => if t.name = table then some (some t) else none
  | .dropped name => if name = table then some none else none
  | .droppedAll => some none
  | _ => none

/-- What is known of a table: what the last event said that said anything about it. -/
def known (table : String) (history : List RegistryEvent) : Option Table :=
  (history.reverse.findSome? (RegistryEvent.verdict? table)).join

theorem known_append_singleton (table : String) (history : List RegistryEvent)
    (event : RegistryEvent) :
    known table (history ++ [event]) = (event.verdict? table).getD (known table history) := by
  unfold known
  rw [List.reverse_append, List.reverse_singleton, List.singleton_append, List.findSome?_cons]
  cases event.verdict? table <;> rfl

/-! ## Programs -/

/-- A call on a registry, or an action that does not touch it. -/
inductive RegistryCall (σ : Type) : Type → Type 1
  | other {β : Type} (action : Action σ β) : RegistryCall σ β
  | cached (table : String) : RegistryCall σ (Option Table)
  | get (table : String) : RegistryCall σ Table
  | refresh (table : String) : RegistryCall σ Table
  | invalidate (table : String) : RegistryCall σ Unit
  | invalidateAll : RegistryCall σ Unit
  | register (t : Table) : RegistryCall σ Unit
  | check (table : String) (expected : List String) : RegistryCall σ (List MissingColumn)
  | load : RegistryCall σ Nat

/-- Calls on a registry one after another. Each is followed by what is done with its outcome; what is
    run once more after a refresh can be made of calls as well. -/
inductive RegistryProgram (σ : Type) : Type → Type 1
  | done {α : Type} (a : α) : RegistryProgram σ α
  | fail {α : Type} (e : Error) : RegistryProgram σ α
  | call {α β : Type} (c : RegistryCall σ β) (next : Except Error β → RegistryProgram σ α) :
      RegistryProgram σ α
  | retry {α β : Type} (table : String) (operation : RegistryProgram σ β)
      (next : Except Error β → RegistryProgram σ α) : RegistryProgram σ α

/-- A registry with the state of its source and the history of both. -/
abbrev WatchedRegistry (σ : Type) := (σ × List RegistryEvent) × SchemaRegistry

/-- The source with a history of its answers. -/
def SchemaSource.watched (source : SchemaSource σ) : SchemaSource (σ × List RegistryEvent) where
  loadTable table := Action.ofRun fun (s, history) =>
    let (answer, s) := (source.loadTable table).runFrom s
    (answer, (s, history ++ [.answered table answer]))
  now p := source.now p.1

namespace SchemaRegistry

/-- The tables that the snapshot file lists. -/
def listed (reg : SchemaRegistry) : List Table :=
  if reg.persists then
    match SchemaSnapshot.load reg.file with
    | .ok (some s) => s.tables
    | _ => []
  else []

/-- Changes a registry and puts an event into its history. -/
def note (event : RegistryEvent) (change : SchemaRegistry → SchemaRegistry) :
    Action (WatchedRegistry σ) Unit :=
  Action.ofRun fun ((s, history), reg) => (.ok (), ((s, history ++ [event]), change reg))

end SchemaRegistry

open SchemaRegistry (note)

namespace RegistryCall

/-- Makes a call on a registry with a history. -/
def run (source : SchemaSource σ) : RegistryCall σ β → Action (WatchedRegistry σ) β
  | .other action => action.onFirst.onFirst
  | .cached table => Action.ofRun fun ((s, history), reg) =>
    (.ok (reg.cached table), ((s, history ++ [.seen table (reg.cached table)]), reg))
  | .get table => SchemaRegistry.get source.watched table
  | .refresh table => SchemaRegistry.refresh source.watched table
  | .invalidate table => note (.dropped table) (·.invalidate table)
  | .invalidateAll => note .droppedAll (·.invalidateAll)
  | .register t => note (.registered t) (·.register t)
  | .check table expected => SchemaRegistry.missingColumns source.watched table expected
  | .load => Action.ofRun fun ((s, history), reg) =>
    match reg.loadSnapshot with
    | .ok (n, loaded) => (.ok n, ((s, history ++ reg.listed.map .registered), loaded))
    | .error e => (.error e, ((s, history), reg))

/-- Is about other tables than this one. -/
def Spares (table : String) : RegistryCall σ β → Prop
  | .get name => name ≠ table
  | .refresh name => name ≠ table
  | .invalidate name => name ≠ table
  | .invalidateAll => False
  | .register t => t.name ≠ table
  | .check name _ => name ≠ table
  | .load => False
  | _ => True

end RegistryCall

namespace RegistryProgram

/-- Runs a program on a registry with a history. -/
def run (source : SchemaSource σ) {α : Type} :
    RegistryProgram σ α → Action (WatchedRegistry σ) α
  | .done a => pure a
  | .fail e => throw e
  | .call c next => do
    let outcome ← (c.run source).attempt
    (next outcome).run source
  | .retry table operation next => do
    let outcome ← (SchemaRegistry.withRetry source.watched table (operation.run source)).attempt
    (next outcome).run source

/-- All calls that a program can make are of a kind, the refreshes before it runs something again
    included. -/
def Makes (kind : {β : Type} → RegistryCall σ β → Prop) {α : Type} : RegistryProgram σ α → Prop
  | .done _ => True
  | .fail _ => True
  | .call c next => kind c ∧ ∀ outcome, (next outcome).Makes kind
  | .retry table operation next =>
    kind (.refresh table) ∧ operation.Makes kind ∧ ∀ outcome, (next outcome).Makes kind

theorem makes_of_forall {kind : {β : Type} → RegistryCall σ β → Prop}
    (h : ∀ {β : Type} (c : RegistryCall σ β), kind c) (program : RegistryProgram σ α) :
    program.Makes kind := by
  induction program with
  | done a => trivial
  | fail e => trivial
  | call c next ih => exact ⟨h c, ih⟩
  | retry table operation next ihOperation ih => exact ⟨h _, ihOperation, ih⟩

/-- **What every call keeps is kept by every program** that makes such calls. -/
theorem keeps_run {P : WatchedRegistry σ → Prop} {kind : {β : Type} → RegistryCall σ β → Prop}
    {source : SchemaSource σ}
    (h : ∀ {β : Type} (c : RegistryCall σ β), kind c → Action.Keeps P (c.run source))
    (program : RegistryProgram σ α) (hmakes : program.Makes kind) :
    Action.Keeps P (program.run source) := by
  induction program with
  | done a => exact .pure a
  | fail e => exact .throw e
  | call c next ih =>
    exact .attempt_bind (h c hmakes.1) fun outcome => ih outcome (hmakes.2 outcome)
  | retry table operation next ihOperation ih =>
    obtain ⟨hrefresh, hoperation, hnext⟩ := hmakes
    refine .attempt_bind (.attempt_bind (ihOperation hoperation) ?_)
      fun outcome => ih outcome (hnext outcome)
    intro outcome
    cases outcome with
    | ok b => exact .pure b
    | error e =>
      show Action.Keeps P (if e.isSchemaMismatch then _ else _)
      split
      · exact .bind (h _ hrefresh) fun _ => ihOperation hoperation
      · exact .throw e

end RegistryProgram

/-! ## Single calls -/

namespace SchemaRegistry

/-- What a refresh does to a registry and its history, by what the source answers. -/
theorem runFrom_refresh (source : SchemaSource σ) (table : String) (s : σ)
    (history : List RegistryEvent) (reg : SchemaRegistry) :
    (refresh source.watched table).runFrom ((s, history), reg)
      = match (source.loadTable table).runFrom s with
        | (.error e, s') => (.error e, ((s', history ++ [.answered table (.error e)]), reg))
        | (.ok none, s') => (.error (.tableNotFound table),
            ((s', history ++ [.answered table (.ok none)]), reg.invalidate table))
        | (.ok (some t), s') => (.ok t, ((s', history ++ [.answered table (.ok (some t))]),
            (reg.insert table t).persist (source.now s'))) := by
  unfold refresh SchemaSource.watched
  simp only [Action.ofRun, Action.runFrom]
  rcases source.loadTable table s with ⟨e | _ | t, s'⟩ <;> rfl

/-- A get answers what is cached, and is a refresh where nothing is. -/
theorem runFrom_get (source : SchemaSource σ) (table : String) (w : WatchedRegistry σ) :
    (get source.watched table).runFrom w
      = match w.2.cached table with
        | some t => (.ok t, w)
        | none => (refresh source.watched table).runFrom w := by
  obtain ⟨⟨s, history⟩, reg⟩ := w
  unfold get
  rw [Action.runFrom_bind]
  simp only [Action.ofRun, Action.runFrom]
  cases reg.cached table <;> rfl

theorem cached_invalidate {reg : SchemaRegistry} (h : (Assoc.keys reg.tables).Nodup)
    (name table : String) :
    (reg.invalidate name).cached table = if table = name then none else reg.cached table :=
  Assoc.get?_erase h table

theorem cached_insert (reg : SchemaRegistry) (name table : String) (t : Table) :
    (reg.insert name t).cached table = if table = name then some t else reg.cached table :=
  Assoc.get?_set name table t reg.tables

@[simp] theorem tables_persist (reg : SchemaRegistry) (now : Timestamp) :
    (reg.persist now).tables = reg.tables := by
  unfold persist
  split <;> rfl

@[simp] theorem cached_persist (reg : SchemaRegistry) (now : Timestamp) (table : String) :
    (reg.persist now).cached table = reg.cached table := by
  unfold cached
  rw [tables_persist]

/-- Loading the snapshot file is registering the tables that it lists. -/
theorem eq_of_loadSnapshot {reg loaded : SchemaRegistry} {n : Nat}
    (h : reg.loadSnapshot = .ok (n, loaded)) : loaded = reg.listed.foldl register reg := by
  unfold loadSnapshot at h
  unfold listed
  split at h
  · next hpersists =>
    rw [if_pos hpersists]
    rcases hload : SchemaSnapshot.load reg.file with e | _ | snapshot
    · rw [hload] at h
      cases h
    · rw [hload] at h
      cases h
      rfl
    · rw [hload] at h
      cases h
      rfl
  · next hpersists =>
    rw [if_neg hpersists]
    cases h
    rfl

section

variable {source : SchemaSource σ} {P : WatchedRegistry σ → Prop}

/-- What a refresh of a table keeps is kept by a get of the table. -/
theorem keeps_get {table : String} (h : Action.Keeps P (refresh source.watched table)) :
    Action.Keeps P (get source.watched table) := by
  intro w hw
  rw [runFrom_get]
  cases w.2.cached table with
  | some t => exact hw
  | none => exact h w hw

/-- What every registration keeps is kept by loading the snapshot file. -/
theorem keeps_load
    (h : ∀ {s history reg}, P ((s, history), reg) → ∀ t,
      P ((s, history ++ [.registered t]), reg.register t)) :
    Action.Keeps P (RegistryCall.load.run source) := by
  have hall : ∀ (ts : List Table) {s history reg}, P ((s, history), reg) →
      P ((s, history ++ ts.map .registered), ts.foldl register reg) := by
    intro ts
    induction ts with
    | nil =>
      intro s history reg hw
      simpa using hw
    | cons t rest ih =>
      intro s history reg hw
      rw [List.map_cons, List.foldl_cons, ← List.singleton_append, ← List.append_assoc]
      exact ih (h hw t)
  rintro ⟨⟨s, history⟩, reg⟩ hw
  unfold RegistryCall.run
  simp only [Action.ofRun, Action.runFrom]
  rcases hload : reg.loadSnapshot with e | ⟨n, loaded⟩
  · exact hw
  · rw [eq_of_loadSnapshot hload]
    exact hall reg.listed hw

end

end SchemaRegistry

/-! ## Coherence -/

/-- The registry has what is known of every table, and what it was seen to have was known at that
    time. -/
structure Coherent (w : WatchedRegistry σ) : Prop where
  nodup : (Assoc.keys w.2.tables).Nodup
  cached_eq : ∀ table, w.2.cached table = known table w.1.2
  seen_eq : ∀ i table entry, w.1.2[i]? = some (.seen table entry) →
    entry = known table (w.1.2.take i)

namespace Coherent

open SchemaRegistry

variable {s s' : σ} {history : List RegistryEvent} {reg reg' : SchemaRegistry}

/-- A new registry is coherent. -/
theorem initial (s : σ) (persists : Bool) (file : Option String) :
    Coherent ((s, []), { persists, file }) := by
  refine ⟨List.nodup_nil, fun _ => rfl, ?_⟩
  intro i table entry hi
  cases hi

/-- An event that changes the registry by its verdict keeps it coherent. -/
theorem note (h : Coherent ((s, history), reg)) (event : RegistryEvent)
    (hnodup : (Assoc.keys reg'.tables).Nodup)
    (hcached : ∀ table, reg'.cached table = (event.verdict? table).getD (reg.cached table))
    (hseen : ∀ table entry, event = .seen table entry → entry = reg.cached table) :
    Coherent ((s', history ++ [event]), reg') := by
  refine ⟨hnodup, ?_, ?_⟩
  · intro table
    show reg'.cached table = known table (history ++ [event])
    rw [known_append_singleton, hcached, h.cached_eq]
  · intro i table entry hi
    show entry = known table ((history ++ [event]).take i)
    rcases Nat.lt_trichotomy i history.length with hlt | heq | hgt
    · rw [List.take_append_of_le_length (Nat.le_of_lt hlt)]
      exact h.seen_eq i table entry (by rwa [List.getElem?_append_left hlt] at hi)
    · rw [heq, List.take_left, ← h.cached_eq]
      rw [heq, List.getElem?_append_right (Nat.le_refl _), Nat.sub_self] at hi
      exact hseen table entry (Option.some.inj hi)
    · rw [List.getElem?_eq_none (by simp; omega)] at hi
      cases hi

theorem register (h : Coherent ((s, history), reg)) (t : Table) :
    Coherent ((s, history ++ [.registered t]), reg.register t) := by
  refine h.note _ (Assoc.nodup_keys_set _ _ _ h.nodup) ?_ (fun _ _ heq => by cases heq)
  intro table
  unfold SchemaRegistry.register
  rw [cached_insert]
  by_cases hname : t.name = table
  · simp [RegistryEvent.verdict?, hname]
  · simp [RegistryEvent.verdict?, hname, Ne.symm hname]

theorem invalidate (h : Coherent ((s, history), reg)) (name : String) {event : RegistryEvent}
    (hverdict : ∀ table, event.verdict? table = if name = table then some none else none) :
    Coherent ((s', history ++ [event]), reg.invalidate name) := by
  refine h.note _ (Assoc.nodup_keys_erase _ _ h.nodup) ?_ ?_
  · intro table
    rw [cached_invalidate h.nodup, hverdict]
    by_cases hname : name = table
    · simp [hname]
    · simp [hname, Ne.symm hname]
  · intro table entry heq
    have := hverdict name
    rw [heq] at this
    simp [RegistryEvent.verdict?] at this

theorem refresh (source : SchemaSource σ) (table : String) :
    Action.Keeps Coherent (SchemaRegistry.refresh source.watched table) := by
  rintro ⟨⟨s, history⟩, reg⟩ h
  rw [runFrom_refresh]
  rcases (source.loadTable table).runFrom s with ⟨e | _ | t, s'⟩
  · exact h.note _ h.nodup (fun _ => rfl) (fun _ _ heq => by cases heq)
  · exact h.invalidate table (fun _ => rfl)
  · refine h.note _ ?_ ?_ (fun _ _ heq => by cases heq)
    · rw [tables_persist]
      exact Assoc.nodup_keys_set _ _ _ h.nodup
    · intro other
      rw [cached_persist, cached_insert]
      by_cases hname : table = other
      · simp [RegistryEvent.verdict?, hname]
      · simp [RegistryEvent.verdict?, hname, Ne.symm hname]

/-- **Every call keeps a registry coherent.** -/
theorem call (source : SchemaSource σ) (c : RegistryCall σ β) :
    Action.Keeps Coherent (c.run source) := by
  cases c with
  | other action =>
    rintro ⟨⟨s, history⟩, reg⟩ h
    exact ⟨h.nodup, h.cached_eq, h.seen_eq⟩
  | cached table =>
    rintro ⟨⟨s, history⟩, reg⟩ h
    refine h.note _ h.nodup (fun _ => rfl) ?_
    intro name entry heq
    cases heq
    rfl
  | get table => exact keeps_get (refresh source table)
  | refresh table => exact refresh source table
  | invalidate table =>
    rintro ⟨⟨s, history⟩, reg⟩ h
    exact h.invalidate table fun _ => rfl
  | invalidateAll =>
    rintro ⟨⟨s, history⟩, reg⟩ h
    exact h.note _ List.nodup_nil (fun _ => rfl) (fun _ _ heq => by cases heq)
  | register t =>
    rintro ⟨⟨s, history⟩, reg⟩ h
    exact h.register t
  | check table expected => exact .bind (keeps_get (refresh source table)) fun _ => .pure _
  | load => exact keeps_load register

end Coherent

/-- The keys are distinct, and the registry has this entry for a table. -/
def HasEntry (table : String) (entry : Option Table) (w : WatchedRegistry σ) : Prop :=
  (Assoc.keys w.2.tables).Nodup ∧ w.2.cached table = entry

namespace HasEntry

open SchemaRegistry

variable {table : String} {entry : Option Table}

theorem refresh (source : SchemaSource σ) {name : String} (hname : name ≠ table) :
    Action.Keeps (HasEntry table entry) (SchemaRegistry.refresh source.watched name) := by
  rintro ⟨⟨s, history⟩, reg⟩ ⟨hnodup, hcached⟩
  rw [runFrom_refresh]
  rcases (source.loadTable name).runFrom s with ⟨e | _ | t, s'⟩
  · exact ⟨hnodup, hcached⟩
  · refine ⟨Assoc.nodup_keys_erase _ _ hnodup, ?_⟩
    rw [cached_invalidate hnodup, if_neg (Ne.symm hname)]
    exact hcached
  · refine ⟨?_, ?_⟩
    · rw [tables_persist]
      exact Assoc.nodup_keys_set _ _ _ hnodup
    · rw [cached_persist, cached_insert, if_neg (Ne.symm hname)]
      exact hcached

/-- **Calls about other tables leave the entry of a table.** -/
theorem call (source : SchemaSource σ) (c : RegistryCall σ β) (hspares : c.Spares table) :
    Action.Keeps (HasEntry table entry) (c.run source) := by
  cases c with
  | other action => exact fun _ h => h
  | cached name => exact fun _ h => h
  | get name => exact keeps_get (refresh source hspares)
  | refresh name => exact refresh source hspares
  | invalidate name =>
    rintro ⟨⟨s, history⟩, reg⟩ ⟨hnodup, hcached⟩
    refine ⟨Assoc.nodup_keys_erase _ _ hnodup, ?_⟩
    show (reg.invalidate name).cached table = entry
    rw [cached_invalidate hnodup, if_neg (Ne.symm hspares)]
    exact hcached
  | invalidateAll => exact hspares.elim
  | register t =>
    rintro ⟨⟨s, history⟩, reg⟩ ⟨hnodup, hcached⟩
    refine ⟨Assoc.nodup_keys_set _ _ _ hnodup, ?_⟩
    show (reg.register t).cached table = entry
    unfold SchemaRegistry.register
    rw [cached_insert, if_neg (Ne.symm hspares)]
    exact hcached
  | check name expected => exact .bind (keeps_get (refresh source hspares)) fun _ => .pure _
  | load => exact hspares.elim

end HasEntry

/-- A get asks the source once where nothing is cached, and else answers what is. -/
theorem SchemaRegistry.get_consults (source : SchemaSource σ) (table : String) (s : σ)
    (history : List RegistryEvent) (reg : SchemaRegistry) :
    ∃ outcome s' asked reg',
      (get source.watched table).runFrom ((s, history), reg)
          = (outcome, ((s', history ++ asked), reg'))
        ∧ (reg.cached table = none → ∃ answer, asked = [.answered table answer])
        ∧ ∀ t, reg.cached table = some t → asked = [] ∧ outcome = .ok t ∧ reg' = reg := by
  rw [runFrom_get]
  rcases hcached : reg.cached table with _ | t
  · dsimp only
    rw [runFrom_refresh]
    rcases (source.loadTable table).runFrom s with ⟨e | _ | t, s'⟩
    all_goals
      refine ⟨_, _, _, _, rfl, fun _ => ⟨_, rfl⟩, ?_⟩
      intro t hnone
      cases hnone
  · dsimp only
    refine ⟨_, s, [], _, by rw [List.append_nil], ?_, ?_⟩
    · intro hsome
      cases hsome
    · intro t' ht
      cases ht
      exact ⟨rfl, rfl, rfl⟩

/-- **A registry is a coherent cache of its source.** After any program of calls the registry has
    for every table what is known of it, and whenever it was asked in between it had what was known
    then. A get asks the source exactly if nothing is cached, a refresh whose source fails leaves the
    registry as it was, and calls about other tables leave the entry of a table. -/
theorem cached_eq_known (source : SchemaSource σ) (program : RegistryProgram σ α) (s : σ)
    (persists : Bool) (file : Option String) :
    ∃ result s' history reg,
      (program.run source).runFrom ((s, []), { persists, file }) = (result, ((s', history), reg))
        ∧ (∀ table, reg.cached table = known table history)
        ∧ (∀ i table entry, history[i]? = some (.seen table entry) →
            entry = known table (history.take i))
        ∧ (∀ table, ∃ outcome s'' asked reg',
            (SchemaRegistry.get source.watched table).runFrom ((s', history), reg)
                = (outcome, ((s'', history ++ asked), reg'))
              ∧ (reg.cached table = none → ∃ answer, asked = [.answered table answer])
              ∧ ∀ t, reg.cached table = some t → asked = [] ∧ outcome = .ok t ∧ reg' = reg)
        ∧ (∀ table e s'', (source.loadTable table).runFrom s' = (.error e, s'') →
            (SchemaRegistry.refresh source.watched table).runFrom ((s', history), reg)
              = (.error e, ((s'', history ++ [.answered table (.error e)]), reg)))
        ∧ ∀ (β : Type) (more : RegistryProgram σ β) (table : String),
            more.Makes (RegistryCall.Spares table) →
            ((more.run source).runFrom ((s', history), reg)).2.2.cached table
              = reg.cached table := by
  have hall : program.Makes fun _ => True :=
    RegistryProgram.makes_of_forall (fun _ => trivial) program
  have hkeeps : Action.Keeps Coherent (program.run source) :=
    program.keeps_run (fun c _ => Coherent.call source c) hall
  have hcoherent := hkeeps _ (Coherent.initial s persists file)
  rcases hrun : (program.run source).runFrom ((s, []), { persists, file })
    with ⟨result, ⟨s', history⟩, reg⟩
  rw [hrun] at hcoherent
  refine ⟨result, s', history, reg, rfl, hcoherent.cached_eq, hcoherent.seen_eq,
    fun table => SchemaRegistry.get_consults source table s' history reg, ?_, ?_⟩
  · intro table e s'' hanswer
    rw [SchemaRegistry.runFrom_refresh, hanswer]
  · intro β more table hmakes
    have hentry : Action.Keeps (HasEntry table (reg.cached table)) (more.run source) :=
      more.keeps_run (fun c hspares => HasEntry.call source c hspares) hmakes
    exact (hentry _ ⟨hcoherent.nodup, rfl⟩).2

end QueryKit
