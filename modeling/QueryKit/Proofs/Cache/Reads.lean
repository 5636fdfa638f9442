import Mathlib
import QueryKit.Execution
import QueryKit.Proofs.Cache.Recency
import QueryKit.Proofs.Driver.Action
import QueryKit.Proofs.Json.Framing

set_option autoImplicit false

/-! # Reads through a cache

What a read through a cache answers was answered by the driver, to this read or to an earlier one
(`cached_read_answered`). The statement that was answered then need not be the same: it has the same
text, and values that are the same as JSON (`cacheKey_eq_iff`). Values of different kinds can be the same as JSON, and so
can the floating-point numbers that are not finite; texts, integers, truth values and lists of them
are the same as JSON only if they are the same. -/

namespace QueryKit

variable {σ : Type}

/-! ## Keys -/

/-- The values of a statement as a JSON text. -/
def Statement.bindingText (statement : Statement) : String :=
  (Json.array (statement.bindings.map Value.toJson)).compact

/-- Statements with the same text whose values are the same as JSON. -/
def Statement.Alike (statement other : Statement) : Prop :=
  statement.sql = other.sql ∧ statement.bindingText = other.bindingText

theorem Statement.Alike.cacheKey_eq {statement other : Statement} (h : statement.Alike other) :
    cacheKey statement = cacheKey other := by
  show statement.sql ++ "|" ++ statement.bindingText = other.sql ++ "|" ++ other.bindingText
  rw [h.1, h.2]

/-- Only statements that are alike have the same key. -/
theorem Statement.alike_of_cacheKey {statement other : Statement}
    (h : cacheKey statement = cacheKey other) : statement.Alike other := by
  have hbar : ∀ s : Statement,
      (cacheKey s).toList = s.sql.toList ++ '|' :: s.bindingText.toList := by
    intro s
    show (s.sql ++ "|" ++ s.bindingText).toList = _
    rw [String.toList_append, String.toList_append, List.append_assoc]
    rfl
  have heq := congrArg String.toList h
  rw [hbar, hbar] at heq
  obtain ⟨hsql, htext⟩ := Json.eq_of_append_bar (.compact _) (.compact _) heq
  exact ⟨String.toList_inj.1 hsql, String.toList_inj.1 htext⟩

/-- **Keys are framed unambiguously.** Texts and values may hold any bar, quote or bracket, but where the
    text of a statement ends can be read off its key. -/
theorem cacheKey_eq_iff (statement other : Statement) :
    cacheKey statement = cacheKey other
      ↔ statement.sql = other.sql
        ∧ (Json.array (statement.bindings.map Value.toJson)).compact
          = (Json.array (other.bindings.map Value.toJson)).compact :=
  ⟨Statement.alike_of_cacheKey, Statement.Alike.cacheKey_eq⟩

/-! ## Plain values -/

namespace Value

mutual

/-- A value that JSON has: null, a truth value, an integer, a text, or a list of such values. -/
def IsPlain : Value → Prop
  | .null => True
  | .bool _ => True
  | .int _ => True
  | .text _ => True
  | .array items => ArePlain items
  | _ => False

/-- Every item is plain. -/
def ArePlain : List Value → Prop
  | [] => True
  | item :: rest => item.IsPlain ∧ ArePlain rest

end

mutual

theorem isWhole_toJson : ∀ v : Value, v.IsPlain → v.toJson.IsWhole
  | .null, _ => trivial
  | .bool _, _ => trivial
  | .int n, _ => by
    have hlow := n.minValue_le_toInt
    have hhigh := n.toInt_le
    have hlimit : Int64.maxValue.toInt < UInt64.size := by decide
    exact ⟨hlow, by omega⟩
  | .text _, _ => trivial
  | .array items, h => areWhole_toJsonItems items h

theorem areWhole_toJsonItems : ∀ items : List Value, ArePlain items →
    Json.AreWhole (toJsonItems items)
  | [], _ => trivial
  | item :: rest, h => ⟨isWhole_toJson item h.1, areWhole_toJsonItems rest h.2⟩

end

mutual

/-- Plain values that are the same as JSON are the same. -/
theorem toJson_inj : ∀ v w : Value, v.IsPlain → w.IsPlain → v.toJson = w.toJson → v = w
  | .null, w, _, hw, h => by
    cases w <;> simp [toJson, IsPlain, Json.int] at h hw ⊢
  | .bool a, w, _, hw, h => by
    cases w <;> simp [toJson, IsPlain, Json.int] at h hw ⊢
    exact h
  | .int n, w, _, hw, h => by
    cases w <;> simp [toJson, IsPlain, Json.int] at h hw ⊢
    exact Int64.toInt_inj.1 h
  | .text s, w, _, hw, h => by
    cases w <;> simp [toJson, IsPlain, Json.int] at h hw ⊢
    exact h
  | .array items, w, hv, hw, h => by
    cases w <;> simp [toJson, IsPlain, Json.int] at h hw ⊢
    exact toJsonItems_inj items _ hv hw h

theorem toJsonItems_inj : ∀ vs ws : List Value, ArePlain vs → ArePlain ws →
    toJsonItems vs = toJsonItems ws → vs = ws
  | [], [], _, _, _ => rfl
  | v :: vs, w :: ws, hv, hw, h => by
    rw [toJsonItems, toJsonItems, List.cons.injEq] at h
    rw [toJson_inj v w hv.1 hw.1 h.1, toJsonItems_inj vs ws hv.2 hw.2 h.2]

end

theorem toJsonItems_eq_map (vs : List Value) : toJsonItems vs = vs.map toJson := by
  induction vs with
  | nil => rfl
  | cons v rest ih => rw [toJsonItems, ih, List.map_cons]

end Value

/-- All values of the statement are plain. -/
def Statement.IsPlain (statement : Statement) : Prop :=
  Value.ArePlain statement.bindings

/-- Statements with plain values that are alike are the same. -/
theorem Statement.Alike.eq {statement other : Statement} (h : statement.Alike other)
    (hplain : statement.IsPlain) (hplain' : other.IsPlain) : statement = other := by
  obtain ⟨hsql, htext⟩ := h
  unfold bindingText at htext
  rw [← Value.toJsonItems_eq_map, ← Value.toJsonItems_eq_map] at htext
  have hwhole : ∀ items, Value.ArePlain items → (Json.array (Value.toJsonItems items)).IsWhole :=
    Value.areWhole_toJsonItems
  have hjson := Json.compact_inj (hwhole _ hplain) (hwhole _ hplain') htext
  rw [Json.array.injEq] at hjson
  have hbindings := Value.toJsonItems_inj _ _ hplain hplain' hjson
  cases statement
  cases other
  simp only at hsql hbindings
  rw [hsql, hbindings]

/-! ## Reads -/

/-- A read through a cache at a time. What it reads it keeps for a duration. -/
structure CachedRead where
  builder : Builder
  now : Nat
  duration : Nat

/-- A driver and a cache, with the statements that the driver has answered and its answers. -/
abbrev AnsweredCache (σ : Type) := (σ × List (Statement × QueryResult)) × Cache QueryResult

/-- The driver with a list of the statements that it has answered and its answers. -/
def Driver.answering (driver : Driver σ) : Driver (σ × List (Statement × QueryResult)) :=
  { driver.onFirst with
    query := fun statement => Action.ofRun fun (s, answers) =>
      match (driver.query statement).runFrom s with
      | (.ok result, s) => (.ok result, (s, answers ++ [(statement, result)]))
      | (.error e, s) => (.error e, (s, answers)) }

theorem runFrom_query_answering (driver : Driver σ) (statement : Statement) (s : σ)
    (answers : List (Statement × QueryResult)) :
    (driver.answering.query statement).runFrom (s, answers)
      = match (driver.query statement).runFrom s with
        | (.ok result, s') => (.ok result, (s', answers ++ [(statement, result)]))
        | (.error e, s') => (.error e, (s', answers)) :=
  rfl

/-- What a read through a cache does, by what the cache has and what the driver answers. -/
theorem runFrom_getCached (driver : Driver σ) (b : Builder) (now duration : Nat) (s : σ)
    (cache : Cache QueryResult) :
    (b.getCached driver now duration).runFrom (s, cache)
      = match b.toSql with
        | .error e => (.error e, (s, cache))
        | .ok statement =>
          match (cache.get now (cacheKey statement)).1 with
          | some result => (.ok result.rows, (s, (cache.get now (cacheKey statement)).2))
          | none =>
            match (driver.query statement).runFrom s with
            | (.error e, s') => (.error e, (s', (cache.get now (cacheKey statement)).2))
            | (.ok result, s') => (.ok result.rows,
                (s', (cache.get now (cacheKey statement)).2.set now (cacheKey statement) result
                  duration)) := by
  unfold Builder.getCached
  rw [Action.runFrom_bind]
  cases b.toSql with
  | error e => rfl
  | ok statement =>
    simp only [Action.runFrom_ofExcept]
    rw [Action.runFrom_bind]
    simp only [Action.ofRun, Action.runFrom]
    cases (cache.get now (cacheKey statement)).1 with
    | some result => rfl
    | none =>
      dsimp only
      show Action.runFrom (_ >>= _) _ = _
      rw [Action.runFrom_bind]
      unfold Action.onFirst
      simp only [Action.ofRun, Action.runFrom]
      rcases driver.query statement s with ⟨e | result, s'⟩ <;> rfl

namespace CachedRead

/-- Reads through the cache. -/
def run (driver : Driver σ) (read : CachedRead) : Action (AnsweredCache σ) (List Row) :=
  read.builder.getCached driver.answering read.now read.duration

/-- Reads one after another, also behind one that fails. -/
def runAll (driver : Driver σ) : List CachedRead → Action (AnsweredCache σ) Unit
  | [] => pure ()
  | read :: rest => do
    let _ ← (read.run driver).attempt
    runAll driver rest

/-- How a read goes, by what it ends in and leaves. -/
inductive Goes (read : CachedRead) (s : σ) (answers : List (Statement × QueryResult))
    (cache : Cache QueryResult) : Except Error (List Row) × AnsweredCache σ → Prop
  /-- There is no statement for it. -/
  | refused (e : Error) (hsql : read.builder.toSql = .error e) :
      Goes read s answers cache (.error e, ((s, answers), cache))
  /-- The cache has its rows. -/
  | found (statement : Statement) (result : QueryResult)
      (hsql : read.builder.toSql = .ok statement)
      (hget : (cache.get read.now (cacheKey statement)).1 = some result) :
      Goes read s answers cache
        (.ok result.rows, ((s, answers), (cache.get read.now (cacheKey statement)).2))
  /-- The driver answers. -/
  | answered (statement : Statement) (result : QueryResult) (s' : σ)
      (hsql : read.builder.toSql = .ok statement)
      (hget : (cache.get read.now (cacheKey statement)).1 = none) :
      Goes read s answers cache
        (.ok result.rows, ((s', answers ++ [(statement, result)]),
          (cache.get read.now (cacheKey statement)).2.set read.now (cacheKey statement) result
            read.duration))
  /-- The driver fails. -/
  | failed (statement : Statement) (e : Error) (s' : σ)
      (hsql : read.builder.toSql = .ok statement)
      (hget : (cache.get read.now (cacheKey statement)).1 = none) :
      Goes read s answers cache
        (.error e, ((s', answers), (cache.get read.now (cacheKey statement)).2))

theorem goes_run (driver : Driver σ) (read : CachedRead) (s : σ)
    (answers : List (Statement × QueryResult)) (cache : Cache QueryResult) :
    read.Goes s answers cache ((read.run driver).runFrom ((s, answers), cache)) := by
  rw [run, runFrom_getCached]
  cases hsql : read.builder.toSql with
  | error e => exact .refused e hsql
  | ok statement =>
    dsimp only
    cases hget : (cache.get read.now (cacheKey statement)).1 with
    | some result => exact .found statement result hsql hget
    | none =>
      dsimp only
      rw [runFrom_query_answering]
      rcases (driver.query statement).runFrom s with ⟨e | result, s'⟩
      · exact .failed statement e s' hsql hget
      · exact .answered statement result s' hsql hget

/-- The list of answers is only looked on: the read ends in what it ends in without it. -/
theorem runFrom_run_answering (driver : Driver σ) (read : CachedRead) (s : σ)
    (answers : List (Statement × QueryResult)) (cache : Cache QueryResult) :
    ∃ outcome s' answers' cache',
      (read.run driver).runFrom ((s, answers), cache) = (outcome, ((s', answers'), cache'))
        ∧ (read.builder.getCached driver read.now read.duration).runFrom (s, cache)
          = (outcome, (s', cache')) := by
  rw [run, runFrom_getCached, runFrom_getCached]
  cases read.builder.toSql with
  | error e => exact ⟨_, _, _, _, rfl, rfl⟩
  | ok statement =>
    dsimp only
    cases (cache.get read.now (cacheKey statement)).1 with
    | some result => exact ⟨_, _, _, _, rfl, rfl⟩
    | none =>
      dsimp only
      rw [runFrom_query_answering]
      rcases (driver.query statement).runFrom s with ⟨e | result, s'⟩
      · exact ⟨_, _, _, _, rfl, rfl⟩
      · exact ⟨_, _, _, _, rfl, rfl⟩

end CachedRead

/-! ## Entries and answers -/

section

open Cache

variable {capacity : Nat} {reads : List CachedRead} {l : Recency QueryResult} {s s' : σ}
  {answers : List (Statement × QueryResult)} {cache : Cache QueryResult}

/-- A result was answered to a statement that has this key. -/
def HasAnswer (answers : List (Statement × QueryResult)) (key : String)
    (result : QueryResult) : Prop :=
  ∃ statement, (statement, result) ∈ answers ∧ cacheKey statement = key

/-- The cache has these entries. Each of them is an answer to a statement of its key, and is kept as
    long as one of the reads says. -/
structure Answered (capacity : Nat) (reads : List CachedRead) (l : Recency QueryResult)
    (w : AnsweredCache σ) : Prop where
  shows : w.2.Shows l
  capacity_eq : w.2.capacity = capacity
  answered : ∀ key entry, (key, entry) ∈ l → HasAnswer w.1.2 key entry.value
  kept : ∀ key entry, (key, entry) ∈ l → ∃ read ∈ reads, entry.expires = read.now + read.duration

namespace Answered

theorem empty (capacity : Nat) (reads : List CachedRead) (s : σ) :
    Answered capacity reads [] ((s, []), { capacity }) :=
  ⟨⟨rfl, .refl _, List.nodup_nil⟩, rfl, fun _ _ h => (nomatch h), fun _ _ h => (nomatch h)⟩

theorem get (h : Answered capacity reads l ((s, answers), cache)) (now : Nat) (key : String)
    (s' : σ) :
    Answered capacity reads (l.step capacity (.get now key)).2
      ((s', answers), (cache.get now key).2) := by
  have hshows := (h.shows.get now key).2
  have hcapacity := capacity_step cache (.get now key)
  rw [h.capacity_eq] at hshows hcapacity
  have hold : ∀ {other entry}, (other, entry) ∈ (l.step capacity (.get now key)).2 →
      (other, entry) ∈ l := by
    intro other entry hentry
    rcases mem_of_mem_step hentry with hold | ⟨_, _, _, huse, -⟩
    · exact hold
    · cases huse
  exact ⟨hshows, hcapacity, fun other entry hentry => h.answered other entry (hold hentry),
    fun other entry hentry => h.kept other entry (hold hentry)⟩

theorem set (h : Answered capacity reads l ((s, answers), cache)) (statement : Statement)
    (result : QueryResult) {read : CachedRead} (hread : read ∈ reads) :
    Answered capacity reads
      (l.step capacity (.set read.now (cacheKey statement) result read.duration)).2
      ((s, answers ++ [(statement, result)]),
        cache.set read.now (cacheKey statement) result read.duration) := by
  have hshows := h.shows.set read.now (cacheKey statement) result read.duration
  have hcapacity :=
    capacity_step cache (.set read.now (cacheKey statement) result read.duration)
  rw [h.capacity_eq] at hshows hcapacity
  refine ⟨hshows, hcapacity, ?_, ?_⟩
  · intro other entry hentry
    rcases mem_of_mem_step hentry with hold | ⟨_, _, _, huse, rfl⟩
    · obtain ⟨answered, hmem, hkey⟩ := h.answered other entry hold
      exact ⟨answered, List.mem_append_left _ hmem, hkey⟩
    · cases huse
      exact ⟨statement, List.mem_append_right _ List.mem_cons_self, rfl⟩
  · intro other entry hentry
    rcases mem_of_mem_step hentry with hold | ⟨_, _, _, huse, rfl⟩
    · exact h.kept other entry hold
    · cases huse
      exact ⟨read, hread, rfl⟩

/-- A get answers the entry of the key if its time is not up. -/
theorem get_eq_some_iff (h : Answered capacity reads l ((s, answers), cache)) {now : Nat}
    {key : String} {result : QueryResult} :
    (cache.get now key).1 = some result
      ↔ ∃ entry, l.get? key = some entry ∧ now < entry.expires ∧ entry.value = result := by
  rw [(h.shows.get now key).1, Recency.step]
  cases l.get? key with
  | none => simp
  | some entry =>
    dsimp only
    split <;> simp <;> omega

/-- The rows that a read ends in are the answer to a statement of the same key. Behind the read they
    are in the cache if there is room for anything. -/
theorem goes {read : CachedRead} (h : Answered capacity reads l ((s, answers), cache))
    (hread : read ∈ reads) {outcome : Except Error (List Row)} {w : AnsweredCache σ}
    (hgoes : read.Goes s answers cache (outcome, w)) :
    ∃ l', Answered capacity reads l' w ∧ ∀ rows, outcome = .ok rows →
      ∃ statement result, read.builder.toSql = .ok statement ∧ result.rows = rows
        ∧ HasAnswer w.1.2 (cacheKey statement) result
        ∧ (0 < capacity → ∃ entry, l'.get? (cacheKey statement) = some entry
            ∧ entry.value = result) := by
  cases hgoes with
  | refused e hsql => exact ⟨l, h, fun _ hrows => nomatch hrows⟩
  | failed statement e s' hsql hget =>
    exact ⟨_, h.get read.now (cacheKey statement) s', fun _ hrows => nomatch hrows⟩
  | found statement result hsql hget =>
    refine ⟨_, h.get read.now (cacheKey statement) s, ?_⟩
    intro rows hrows
    cases hrows
    obtain ⟨entry, hentry, hnow, rfl⟩ := h.get_eq_some_iff.1 hget
    refine ⟨statement, entry.value, hsql, rfl, ?_, ?_⟩
    · exact h.answered _ entry (Assoc.mem_of_get? hentry)
    · exact fun _ => ⟨entry, get?_step_get h.shows.nodup hentry hnow capacity, rfl⟩
  | answered statement result s' hsql hget =>
    have hbefore := h.get read.now (cacheKey statement) s'
    refine ⟨_, hbefore.set statement result hread, ?_⟩
    intro rows hrows
    cases hrows
    refine ⟨statement, result, hsql, rfl, ?_, ?_⟩
    · exact ⟨statement, List.mem_append_right _ List.mem_cons_self, rfl⟩
    · exact fun hroom => ⟨_, get?_step_set hbefore.shows.nodup hroom _ _ _ _, rfl⟩

/-- A read of a key that has an entry ends in the rows of that entry, and asks the driver nothing. -/
theorem runFrom_run (h : Answered capacity reads l ((s, answers), cache)) {statement : Statement}
    {entry : CacheEntry QueryResult} (hentry : l.get? (cacheKey statement) = some entry)
    {next : CachedRead} (hsql : next.builder.toSql = .ok statement)
    (hnow : next.now < entry.expires) (driver : Driver σ) :
    ∃ cache', (next.run driver).runFrom ((s, answers), cache)
      = (.ok entry.value.rows, ((s, answers), cache')) := by
  have hhit := h.get_eq_some_iff.2 ⟨entry, hentry, hnow, rfl⟩
  have hgoes := next.goes_run driver s answers cache
  revert hgoes
  generalize (next.run driver).runFrom ((s, answers), cache) = outcome
  intro hgoes
  cases hgoes with
  | refused e hrefused => cases hsql.symm.trans hrefused
  | found other result hother hget =>
    cases hsql.symm.trans hother
    cases hhit.symm.trans hget
    exact ⟨_, rfl⟩
  | answered other _ _ hother hget | failed other _ _ hother hget =>
    cases hsql.symm.trans hother
    cases hhit.symm.trans hget

end Answered

/-- Reads keep that the entries of the cache are answers. -/
theorem keeps_runAll (driver : Driver σ) (capacity : Nat) (reads : List CachedRead)
    {part : List CachedRead} (hreads : ∀ read ∈ part, read ∈ reads) :
    Action.Keeps (fun w => ∃ l, Answered capacity reads l w) (CachedRead.runAll driver part) := by
  induction part with
  | nil => exact .pure ()
  | cons read rest ih =>
    refine .attempt_bind ?_ fun _ => ih fun other hmem => hreads other (List.mem_cons_of_mem _ hmem)
    rintro ⟨⟨s, answers⟩, cache⟩ ⟨l, hl⟩
    obtain ⟨l', hl', -⟩ :=
      hl.goes (hreads read List.mem_cons_self) (read.goes_run driver s answers cache)
    exact ⟨l', hl'⟩

theorem runFrom_runAll (driver : Driver σ) (reads : List CachedRead) :
    Action.Returns (CachedRead.runAll driver reads) () := by
  induction reads with
  | nil => exact .pure ()
  | cons read rest ih =>
    intro w
    rw [CachedRead.runAll, Action.runFrom_attempt_bind]
    exact ih _

/-- **The rows of a read through a cache were answered to a statement that is alike**, with the same
    text and with values that are the same as JSON. Behind reads of any builders at any times, the
    driver has answered a statement with these rows, in this read or in an earlier one, and it is the
    statement of the read if the values of both are plain. If they are not plain it may be a
    different one: as long as nothing expires, a read of any statement that is alike ends in the same
    rows right behind, and the driver is not asked. -/
theorem cached_read_answered (driver : Driver σ) (capacity : Nat) (earlier : List CachedRead)
    (read : CachedRead) (s : σ) :
    ∃ s₁ answers₁ cache₁ outcome s₂ answers₂ cache₂,
      (CachedRead.runAll driver earlier).runFrom ((s, []), { capacity })
          = (.ok (), ((s₁, answers₁), cache₁))
        ∧ (read.run driver).runFrom ((s₁, answers₁), cache₁)
          = (outcome, ((s₂, answers₂), cache₂))
        ∧ (read.builder.getCached driver read.now read.duration).runFrom (s₁, cache₁)
          = (outcome, (s₂, cache₂))
        ∧ ∀ rows, outcome = .ok rows → ∃ statement, read.builder.toSql = .ok statement
          ∧ (∃ answered result, (answered, result) ∈ answers₂ ∧ result.rows = rows
            ∧ answered.Alike statement
            ∧ (answered.IsPlain → statement.IsPlain → answered = statement))
          ∧ ∀ (next : CachedRead) alike, 0 < capacity →
            (∀ before ∈ earlier ++ [read], next.now < before.now + before.duration) →
            next.builder.toSql = .ok alike → alike.Alike statement →
            ∃ cache₃, (next.run driver).runFrom ((s₂, answers₂), cache₂)
              = (.ok rows, ((s₂, answers₂), cache₃)) := by
  have hkept := keeps_runAll driver capacity (earlier ++ [read])
    (fun _ hmem => List.mem_append_left _ hmem) ((s, []), { capacity }) ⟨[], .empty _ _ s⟩
  obtain ⟨⟨⟨s₁, answers₁⟩, cache₁⟩, hrun⟩ := runFrom_runAll driver earlier ((s, []), { capacity })
  rw [hrun] at hkept
  obtain ⟨l, hl⟩ := hkept
  obtain ⟨outcome, s₂, answers₂, cache₂, hread, halone⟩ :=
    read.runFrom_run_answering driver s₁ answers₁ cache₁
  have hgoes := read.goes_run driver s₁ answers₁ cache₁
  rw [hread] at hgoes
  obtain ⟨l', hl', hrows⟩ := hl.goes (List.mem_append_right _ List.mem_cons_self) hgoes
  refine ⟨s₁, answers₁, cache₁, outcome, s₂, answers₂, cache₂, hrun, hread, halone, ?_⟩
  intro rows houtcome
  obtain ⟨statement, result, hsql, rfl, ⟨answered, hanswered, hkey⟩, hthere⟩ :=
    hrows rows houtcome
  have halike := Statement.alike_of_cacheKey hkey
  refine ⟨statement, hsql, ⟨answered, result, hanswered, rfl, halike, halike.eq⟩, ?_⟩
  intro next alike hroom hlasting hnext hsame
  obtain ⟨entry, hentry, rfl⟩ := hthere hroom
  obtain ⟨before, hbefore, hexpires⟩ := hl'.kept _ entry (Assoc.mem_of_get? hentry)
  rw [← hsame.cacheKey_eq] at hentry
  exact hl'.runFrom_run hentry hnext (hexpires ▸ hlasting before hbefore) driver

/-- Infinity and its negative are null as JSON, so that statements that differ in nothing else are
    alike. -/
example :
    Statement.Alike ⟨"SELECT * FROM \"t\" WHERE \"x\" = $1", [.float ⟨0x7FF0000000000000⟩]⟩
      ⟨"SELECT * FROM \"t\" WHERE \"x\" = $1", [.float ⟨0xFFF0000000000000⟩]⟩ :=
  ⟨rfl, rfl⟩

end

end QueryKit
