import Mathlib
import QueryKit.Proofs.Schema.Coherence
import QueryKit.Proofs.Schema.Snapshot

set_option autoImplicit false

/-! # Registries and their snapshot files

A registry that keeps a snapshot file writes it when a refresh has found its table, and at no other
time. A new registry that loads the file therefore knows what was known at the last of these moments
(`file_restores_saved`): the same as the running registry right after such a refresh, and not what
has been forgotten or registered since then. A refresh whose table is gone forgets the table and leaves
the file as it was, so that the table is there again after a restart. -/

namespace QueryKit

variable {σ α β : Type}

/-! ## Histories -/

/-- A refresh has found its table. -/
def RegistryEvent.isFound : RegistryEvent → Bool
  | .answered _ (.ok (some _)) => true
  | _ => false

/-- A history up to the last refresh that found its table; nothing if there was none. -/
def saved (history : List RegistryEvent) : List RegistryEvent :=
  (history.reverse.dropWhile fun event => !event.isFound).reverse

theorem saved_append_found {event : RegistryEvent} (h : event.isFound = true)
    (history : List RegistryEvent) : saved (history ++ [event]) = history ++ [event] := by
  unfold saved
  rw [List.reverse_append, List.reverse_singleton, List.singleton_append,
    List.dropWhile_cons_of_neg (by simp [h]), List.reverse_cons, List.reverse_reverse]

theorem saved_append_other {event : RegistryEvent} (h : event.isFound = false)
    (history : List RegistryEvent) : saved (history ++ [event]) = saved history := by
  unfold saved
  rw [List.reverse_append, List.reverse_singleton, List.singleton_append,
    List.dropWhile_cons_of_pos (by simp [h])]

/-! ## Loading what was written -/

namespace SchemaRegistry

/-- Tables of new and distinct names are registered one behind the other. -/
theorem tables_foldl_register (ts : List Table) (reg : SchemaRegistry)
    (hnodup : (ts.map Table.name).Nodup)
    (hnew : ∀ t ∈ ts, t.name ∉ Assoc.keys reg.tables) :
    (ts.foldl register reg).tables = reg.tables ++ ts.map fun t => (t.name, t) := by
  induction ts generalizing reg with
  | nil => simp
  | cons t rest ih =>
    rw [List.map_cons, List.nodup_cons] at hnodup
    have hset : (reg.register t).tables = reg.tables ++ [(t.name, t)] :=
      Assoc.set_of_notMem (hnew t List.mem_cons_self) t
    rw [List.foldl_cons, ih _ hnodup.2, hset, List.map_cons, List.append_assoc,
      List.singleton_append]
    intro other hother hmem
    rw [hset, Assoc.keys, List.map_append, List.mem_append] at hmem
    rcases hmem with hold | hadded
    · exact hnew other (List.mem_cons_of_mem _ hother) hold
    · rw [List.map_singleton, List.mem_singleton] at hadded
      exact hnodup.1 (List.mem_map.2 ⟨other, hother, hadded⟩)

theorem persist_of_persists (reg : SchemaRegistry) (h : reg.persists = true) (now : Timestamp) :
    reg.persist now = { reg with file := some (reg.snapshot now).toText } :=
  if_pos h

/-- A new registry that loads the file has for every table what this one has. -/
def Reloads (reg : SchemaRegistry) : Prop :=
  ∃ n loaded, loadSnapshot { persists := true, file := reg.file } = .ok (n, loaded)
    ∧ ∀ table, loaded.cached table = reg.cached table

/-- What a registry writes is loaded again, if every table is known under its own name. -/
theorem reloads_persist {reg : SchemaRegistry} {now : Timestamp} (hpersists : reg.persists = true)
    (hnow : now.IsInstant) (hnodup : (Assoc.keys reg.tables).Nodup)
    (hnamed : ∀ table t, reg.cached table = some t → t.name = table) :
    Reloads (reg.persist now) := by
  rw [persist_of_persists reg hpersists]
  let fresh : SchemaRegistry := { persists := true, file := some (reg.snapshot now).toText }
  have hentries : (reg.tables.map Prod.snd).map (fun t => (t.name, t)) = reg.tables := by
    rw [List.map_map]
    conv_rhs => rw [← List.map_id reg.tables]
    refine List.map_congr_left fun entry hentry => ?_
    -- the names of the entries are the keys, so that registering the tables makes the same entries
    have hname := hnamed entry.1 entry.2 ((Assoc.get?_eq_some_iff hnodup).2 hentry)
    show (entry.2.name, entry.2) = entry
    rw [hname]
  have hperm : (reg.snapshot now).tables.Perm (reg.tables.map Prod.snd) := List.mergeSort_perm _ _
  have hnames : ((reg.snapshot now).tables.map Table.name).Nodup := by
    refine (hperm.map Table.name).nodup_iff.2 ?_
    rw [← hentries, Assoc.keys, List.map_map] at hnodup
    exact hnodup
  have htables := tables_foldl_register (reg.snapshot now).tables fresh hnames
    (fun _ _ => List.not_mem_nil)
  have hload : fresh.loadSnapshot
      = .ok ((reg.snapshot now).tables.length, (reg.snapshot now).tables.foldl register fresh) := by
    unfold loadSnapshot
    rw [if_pos rfl, SchemaSnapshot.load_toText hnow rfl]
    rfl
  refine ⟨_, _, hload, fun table => ?_⟩
  have hsame : ((reg.snapshot now).tables.foldl register fresh).tables.Perm reg.tables := by
    rw [htables, List.nil_append, ← hentries]
    exact hperm.map _
  exact (Assoc.get?_of_perm hsame.symm hnodup table).symm

/-- A new registry that loads the file has for every table what is known by a history. -/
def Restores (file : Option String) (history : List RegistryEvent) : Prop :=
  ∃ n loaded, loadSnapshot { persists := true, file } = .ok (n, loaded)
    ∧ ∀ table, loaded.cached table = known table history

end SchemaRegistry

/-! ## Runs -/

/-- The registry keeps a snapshot file, which has what was known when it was last written, and at
    first what it had from the start. Every table is known under its own name. -/
structure Persistent (initial : Option String) (w : WatchedRegistry σ) : Prop where
  coherent : Coherent w
  persists : w.2.persists = true
  named : ∀ table t, w.2.cached table = some t → t.name = table
  unsaved : saved w.1.2 = [] → w.2.file = initial
  restored : saved w.1.2 ≠ [] → SchemaRegistry.Restores w.2.file (saved w.1.2)

namespace Persistent

open SchemaRegistry

variable {initial : Option String} {s s' : σ} {history : List RegistryEvent}
  {reg reg' : SchemaRegistry}

theorem initially (s : σ) (file : Option String) :
    Persistent file ((s, []), { persists := true, file }) := by
  refine ⟨Coherent.initial s true file, rfl, ?_, fun _ => rfl, fun hsaved => absurd rfl hsaved⟩
  intro table t hcached
  cases hcached

/-- An event that finds no table leaves the file. -/
theorem note (h : Persistent initial ((s, history), reg)) {event : RegistryEvent}
    (hevent : event.isFound = false) (hcoherent : Coherent ((s', history ++ [event]), reg'))
    (hpersists : reg'.persists = reg.persists) (hfile : reg'.file = reg.file)
    (hnamed : ∀ table t, reg'.cached table = some t → t.name = table) :
    Persistent initial ((s', history ++ [event]), reg') := by
  refine ⟨hcoherent, hpersists.trans h.persists, hnamed, ?_, ?_⟩
  · show saved (history ++ [event]) = [] → reg'.file = initial
    rw [saved_append_other hevent, hfile]
    exact h.unsaved
  · show saved (history ++ [event]) ≠ [] → Restores reg'.file (saved (history ++ [event]))
    rw [saved_append_other hevent, hfile]
    exact h.restored

/-- Behind an event that finds a table the file has what is known. -/
theorem found {event : RegistryEvent} (hevent : event.isFound = true)
    (hcoherent : Coherent ((s, history ++ [event]), reg)) (hpersists : reg.persists = true)
    (hnamed : ∀ table t, reg.cached table = some t → t.name = table)
    (hloads : Reloads reg) : Persistent initial ((s, history ++ [event]), reg) := by
  have hsaved := saved_append_found hevent history
  obtain ⟨n, loaded, hload, hloaded⟩ := hloads
  refine ⟨hcoherent, hpersists, hnamed, ?_, ?_⟩
  · intro hnone
    have hnone : history ++ [event] = [] := hsaved.symm.trans hnone
    simp at hnone
  · intro _
    show Restores reg.file (saved (history ++ [event]))
    rw [hsaved]
    exact ⟨n, loaded, hload, fun table => (hloaded table).trans (hcoherent.cached_eq table)⟩

/-- Behind an event that finds a table the file has what the registry has. -/
theorem reloads {event : RegistryEvent} (hevent : event.isFound = true)
    (h : Persistent initial ((s, history ++ [event]), reg)) : Reloads reg := by
  have hsaved := saved_append_found hevent history
  have hne : saved (history ++ [event]) ≠ [] := by simp [hsaved]
  obtain ⟨n, loaded, hload, hloaded⟩ := h.restored hne
  refine ⟨n, loaded, hload, fun table => ?_⟩
  rw [hloaded]
  show known table (saved (history ++ [event])) = _
  rw [hsaved]
  exact (h.coherent.cached_eq table).symm

theorem named_invalidate (h : Persistent initial ((s, history), reg)) (name : String) :
    ∀ table t, (reg.invalidate name).cached table = some t → t.name = table := by
  intro table t hcached
  rw [cached_invalidate h.coherent.nodup] at hcached
  split at hcached
  · cases hcached
  · exact h.named table t hcached

theorem named_insert (h : Persistent initial ((s, history), reg)) {t : Table} {name : String}
    (hname : t.name = name) :
    ∀ table t', (reg.insert name t).cached table = some t' → t'.name = table := by
  intro table t' hcached
  rw [cached_insert] at hcached
  split at hcached
  · next heq =>
    cases hcached
    rw [hname, heq]
  · exact h.named table t' hcached

theorem register (h : Persistent initial ((s, history), reg)) (t : Table) :
    Persistent initial ((s, history ++ [.registered t]), reg.register t) :=
  h.note rfl (h.coherent.register t) rfl rfl (h.named_insert rfl)

variable {source : SchemaSource σ}
  (hnames : ∀ table s t s',
    (source.loadTable table).runFrom s = (.ok (some t), s') → t.name = table)
  (hclock : ∀ s, (source.now s).IsInstant)

include hnames hclock

/-- A refresh that finds its table writes the file, and any other leaves it. -/
theorem refresh (table : String) :
    Action.Keeps (Persistent initial) (SchemaRegistry.refresh source.watched table) := by
  rintro ⟨⟨s, history⟩, reg⟩ h
  have hcoherent := Coherent.refresh source table _ h.coherent
  rw [runFrom_refresh] at hcoherent ⊢
  rcases hanswer : (source.loadTable table).runFrom s with ⟨e | _ | t, s'⟩
  · simp only [hanswer] at hcoherent
    exact h.note rfl hcoherent rfl rfl h.named
  · simp only [hanswer] at hcoherent
    exact h.note rfl hcoherent rfl rfl (h.named_invalidate table)
  · simp only [hanswer] at hcoherent
    have hnamed := h.named_insert (hnames table s t s' hanswer)
    refine found rfl hcoherent ?_ ?_ (reloads_persist h.persists (hclock s')
      (Assoc.nodup_keys_set table t _ h.coherent.nodup) hnamed)
    · rw [persist_of_persists (reg.insert table t) h.persists]
      exact h.persists
    · intro other t' hcached
      exact hnamed other t' ((cached_persist _ _ _).symm.trans hcached)

/-- **Every call keeps the file what it is.** -/
theorem call (c : RegistryCall σ β) : Action.Keeps (Persistent initial) (c.run source) := by
  cases c with
  | other action =>
    rintro ⟨⟨s, history⟩, reg⟩ h
    exact ⟨Coherent.call source (.other action) _ h.coherent, h.persists, h.named, h.unsaved,
      h.restored⟩
  | cached table =>
    rintro ⟨⟨s, history⟩, reg⟩ h
    exact h.note rfl (Coherent.call source (.cached table) _ h.coherent) rfl rfl h.named
  | get table => exact keeps_get (refresh hnames hclock table)
  | refresh table => exact refresh hnames hclock table
  | invalidate table =>
    rintro ⟨⟨s, history⟩, reg⟩ h
    exact h.note rfl (Coherent.call source (.invalidate table) _ h.coherent) rfl rfl
      (h.named_invalidate table)
  | invalidateAll =>
    rintro ⟨⟨s, history⟩, reg⟩ h
    exact h.note rfl (Coherent.call source .invalidateAll _ h.coherent) rfl rfl
      fun _ _ hcached => by cases hcached
  | register t =>
    rintro ⟨⟨s, history⟩, reg⟩ h
    exact h.register t
  | check table expected =>
    exact .bind (keeps_get (refresh hnames hclock table)) fun _ => .pure _
  | load => exact keeps_load register

end Persistent

open SchemaRegistry in
/-- **The file has what was known at the last refresh that found its table.** A new registry that
    loads it knows just that, whatever was done before and since. Right after such a refresh this is
    what the running registry has; a refresh whose table is gone forgets the table and leaves the
    file. -/
theorem file_restores_saved (source : SchemaSource σ)
    (hnames : ∀ table s t s',
      (source.loadTable table).runFrom s = (.ok (some t), s') → t.name = table)
    (hclock : ∀ s, (source.now s).IsInstant) (program : RegistryProgram σ α) (s : σ)
    (file : Option String) :
    ∃ result s' history reg,
      (program.run source).runFrom ((s, []), { persists := true, file })
          = (result, ((s', history), reg))
        ∧ (∀ table, reg.cached table = known table history)
        ∧ (saved history = [] → reg.file = file)
        ∧ (saved history ≠ [] → Restores reg.file (saved history))
        ∧ ∀ table, ∃ outcome s'' answer reg',
            (refresh source.watched table).runFrom ((s', history), reg)
                = (outcome, ((s'', history ++ [.answered table answer]), reg'))
              ∧ (∀ t, answer = .ok (some t) → outcome = .ok t ∧ ∃ n loaded,
                  loadSnapshot { persists := true, file := reg'.file } = .ok (n, loaded)
                    ∧ ∀ other, loaded.cached other = reg'.cached other)
              ∧ (answer = .ok none → outcome = .error (.tableNotFound table)
                  ∧ reg'.cached table = none ∧ reg'.file = reg.file)
              ∧ ∀ e, answer = .error e → outcome = .error e ∧ reg' = reg := by
  have hall : program.Makes fun _ => True :=
    RegistryProgram.makes_of_forall (fun _ => trivial) program
  have hkeeps : Action.Keeps (Persistent file) (program.run source) :=
    program.keeps_run (fun c _ => Persistent.call hnames hclock c) hall
  have h := hkeeps _ (Persistent.initially s file)
  rcases hrun : (program.run source).runFrom ((s, []), { persists := true, file })
    with ⟨result, ⟨s', history⟩, reg⟩
  rw [hrun] at h
  refine ⟨result, s', history, reg, rfl, h.coherent.cached_eq, h.unsaved, h.restored, ?_⟩
  intro table
  have hafter := Persistent.refresh hnames hclock table _ h
  rw [runFrom_refresh] at hafter ⊢
  rcases hanswer : (source.loadTable table).runFrom s' with ⟨e | _ | t, s''⟩
  · refine ⟨_, _, _, _, rfl, ?_, ?_, ?_⟩
    · intro t heq
      cases heq
    · intro heq
      cases heq
    · intro e' heq
      cases heq
      exact ⟨rfl, rfl⟩
  · refine ⟨_, _, _, _, rfl, ?_, ?_, ?_⟩
    · intro t heq
      cases heq
    · intro _
      refine ⟨rfl, ?_, rfl⟩
      rw [cached_invalidate h.coherent.nodup, if_pos rfl]
    · intro e' heq
      cases heq
  · simp only [hanswer] at hafter
    refine ⟨_, _, _, _, rfl, ?_, ?_, ?_⟩
    · intro t' heq
      cases heq
      exact ⟨rfl, hafter.reloads rfl⟩
    · intro heq
      cases heq
    · intro e heq
      cases heq

/-- A source that has every table, until it has none. -/
def SchemaSource.vanishing : SchemaSource Bool where
  loadTable table := Action.ofRun fun exist =>
    (.ok (if exist then some ⟨table, []⟩ else none), exist)
  now _ := ⟨0, 0⟩

/-- A refresh of a table before and after it is dropped at its source. -/
def refreshedTwice (table : String) : RegistryProgram Bool Unit :=
  .call (.refresh table) fun _ =>
    .call (.other (Action.ofRun fun _ => (.ok (), false))) fun _ =>
      .call (.refresh table) fun _ => .done ()

theorem file_restores_saved_dropped :
    ∃ result s history reg,
      ((refreshedTwice "users").run .vanishing).runFrom ((true, []), { persists := true })
          = (result, ((s, history), reg))
        ∧ reg.cached "users" = none
        ∧ ∃ n loaded,
            SchemaRegistry.loadSnapshot { persists := true, file := reg.file } = .ok (n, loaded)
              ∧ loaded.cached "users" = some ⟨"users", []⟩ := by
  have hnames : ∀ table s t s',
      (SchemaSource.vanishing.loadTable table).runFrom s = (.ok (some t), s') → t.name = table := by
    intro table s t s' hload
    cases s with
    | true =>
      cases hload
      rfl
    | false => cases hload
  have hepoch : (⟨0, 0⟩ : Timestamp).IsInstant := ⟨by decide, by decide, by decide⟩
  have hclock : ∀ s, (SchemaSource.vanishing.now s).IsInstant := fun _ => hepoch
  obtain ⟨result, s, history, reg, hrun, hcached, -, hrestores, -⟩ :=
    file_restores_saved .vanishing hnames hclock (refreshedTwice "users") true none
  have hhistory : history = [.answered "users" (.ok (some ⟨"users", []⟩)),
      .answered "users" (.ok none)] := (congrArg (fun run => run.2.1.2) hrun).symm
  subst hhistory
  obtain ⟨n, loaded, hload, hloaded⟩ := hrestores (by decide)
  refine ⟨result, s, _, reg, hrun, ?_, n, loaded, hload, ?_⟩
  · rw [hcached]
    decide
  · rw [hloaded]
    decide

end QueryKit
