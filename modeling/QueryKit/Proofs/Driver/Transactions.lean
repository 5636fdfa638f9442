import QueryKit.Driver.Scripted
import QueryKit.Proofs.Driver.Action
import QueryKit.Transaction

set_option autoImplicit false

/-! # Transactions are all or nothing

A transaction runs a body of statements, in which further transactions may stand to any depth
(`Body`). The tracker of the connection stays active as long as the body runs, so a transaction
inside it is refused before anything of it runs, and the body logs statements alone
(`Driver.Tracks.exists_run`). What a transaction does is therefore one of five courses (`Course`), and
each of them logs at most one begin and one end (`transaction_all_or_nothing`).

Nothing is assumed of the store but that its driver asks the tracker before it begins or ends a
transaction and logs what it has done (`Driver.Tracks`): each statement, begin, commit and rollback
may fail. The scripted driver is of this kind (`Script.tracks`). -/

namespace QueryKit

variable {σ α β : Type}

/-! ## Bodies -/

/-- Statements and transactions one after another on one connection. Each part is followed by what
    is done with its outcome, so that its error can be passed on or caught. -/
inductive Body : Type → Type 1
  | done {α : Type} (a : α) : Body α
  | fail {α : Type} (e : Error) : Body α
  | query {α : Type} (statement : Statement) (next : Except Error QueryResult → Body α) : Body α
  | execute {α : Type} (statement : Statement) (next : Except Error WriteResult → Body α) : Body α
  | block {α β : Type} (inner : Body β) (next : Except Error β → Body α) : Body α

namespace Body

/-- Runs a body on a connection. -/
def run (driver : Driver σ) {α : Type} : Body α → Action σ α
  | .done a => pure a
  | .fail e => throw e
  | .query statement next => do
    let outcome ← (driver.query statement).attempt
    (next outcome).run driver
  | .execute statement next => do
    let outcome ← (driver.execute statement).attempt
    (next outcome).run driver
  | .block inner next => do
    let outcome ← (transaction driver (inner.run driver)).attempt
    (next outcome).run driver

/-- The body with other bodies in the transactions that stand in it. -/
def withInner (other : (β : Type) → Body β → Body β) {α : Type} : Body α → Body α
  | .done a => .done a
  | .fail e => .fail e
  | .query statement next => .query statement fun outcome => (next outcome).withInner other
  | .execute statement next => .execute statement fun outcome => (next outcome).withInner other
  | .block inner next => .block (other _ inner) fun outcome => (next outcome).withInner other

end Body

/-! ## Tracked connections -/

namespace LogEntry

/-- A statement was sent. -/
def isStatement : LogEntry → Bool
  | .query _ => true
  | .execute _ => true
  | _ => false

/-- A transaction began. -/
def isBegin : LogEntry → Bool
  | .began => true
  | _ => false

/-- A transaction ended, with or without its effects. -/
def isEnd : LogEntry → Bool
  | .committed => true
  | .rolledBack => true
  | _ => false

end LogEntry

/-- The driver asks a tracker before it begins or ends a transaction, and keeps a log. What the
    store refuses is not logged; a begin that it refuses is taken back, and a commit that it refuses
    counts as a rollback. Of a rollback that it refuses only the log is known. -/
structure Driver.Tracks (driver : Driver σ) (tracker : σ → TransactionState)
    (log : σ → List LogEntry) : Prop where
  query : ∀ {statement s outcome s'}, (driver.query statement).runFrom s = (outcome, s') →
    tracker s' = tracker s ∧ log s' = log s ++ [.query statement]
  execute : ∀ {statement s outcome s'}, (driver.execute statement).runFrom s = (outcome, s') →
    tracker s' = tracker s ∧ log s' = log s ++ [.execute statement]
  begin_ok : ∀ {s s'}, driver.beginTransaction.runFrom s = (.ok (), s') →
    (tracker s).begun = .ok (tracker s') ∧ log s' = log s ++ [.began]
  begin_error : ∀ {s e s'}, driver.beginTransaction.runFrom s = (.error e, s') →
    log s' = log s ∧ ((tracker s).begun = .error e ∧ tracker s' = tracker s
      ∨ ∃ t, (tracker s).begun = .ok t ∧ tracker s' = t.abortBegin)
  commit_ok : ∀ {s s'}, driver.commit.runFrom s = (.ok (), s') →
    (tracker s).commit = .ok (tracker s') ∧ log s' = log s ++ [.committed]
  commit_error : ∀ {s e s'}, driver.commit.runFrom s = (.error e, s') →
    log s' = log s ∧ ((tracker s).commit = .error e ∧ tracker s' = tracker s
      ∨ (tracker s).rollback = .ok (tracker s'))
  rollback_ok : ∀ {s s'}, driver.rollback.runFrom s = (.ok (), s') →
    (tracker s).rollback = .ok (tracker s') ∧ log s' = log s ++ [.rolledBack]
  rollback_error : ∀ {s e s'}, driver.rollback.runFrom s = (.error e, s') → log s' = log s

/-! ## Courses of a transaction -/

/-- What a transaction can do from a state, step by step, and what it ends in. -/
inductive Course (driver : Driver σ) (body : Action σ α) (s : σ) : Except Error α → σ → Prop
  | refused {e : Error} {s' : σ} (hbegin : driver.beginTransaction.runFrom s = (.error e, s')) :
      Course driver body s (.error e) s'
  | committed {a : α} {s₁ s₂ s' : σ} (hbegin : driver.beginTransaction.runFrom s = (.ok (), s₁))
      (hbody : body.runFrom s₁ = (.ok a, s₂)) (hcommit : driver.commit.runFrom s₂ = (.ok (), s')) :
      Course driver body s (.ok a) s'
  | notCommitted {a : α} {e : Error} {s₁ s₂ s' : σ}
      (hbegin : driver.beginTransaction.runFrom s = (.ok (), s₁))
      (hbody : body.runFrom s₁ = (.ok a, s₂))
      (hcommit : driver.commit.runFrom s₂ = (.error e, s')) :
      Course driver body s (.error e) s'
  | rolledBack {e : Error} {s₁ s₂ s' : σ}
      (hbegin : driver.beginTransaction.runFrom s = (.ok (), s₁))
      (hbody : body.runFrom s₁ = (.error e, s₂))
      (hrollback : driver.rollback.runFrom s₂ = (.ok (), s')) : Course driver body s (.error e) s'
  | notRolledBack {e r : Error} {s₁ s₂ s' : σ}
      (hbegin : driver.beginTransaction.runFrom s = (.ok (), s₁))
      (hbody : body.runFrom s₁ = (.error e, s₂))
      (hrollback : driver.rollback.runFrom s₂ = (.error r, s')) :
      Course driver body s (.error (rollbackFailed e r)) s'

/-- **A transaction takes one of the five courses.** -/
theorem course_of_transaction (driver : Driver σ) (body : Action σ α) (s : σ) :
    ∃ result s', (transaction driver body).runFrom s = (result, s')
      ∧ Course driver body s result s' := by
  unfold transaction
  rw [Action.runFrom_bind]
  rcases hbegin : driver.beginTransaction.runFrom s with ⟨e | ⟨⟩, s₁⟩
  · exact ⟨_, _, rfl, .refused hbegin⟩
  simp only [Action.runFrom_attempt_bind]
  rcases hbody : body.runFrom s₁ with ⟨e | a, s₂⟩
  · simp only [Action.runFrom_attempt_bind]
    rcases hrollback : driver.rollback.runFrom s₂ with ⟨r | ⟨⟩, s₃⟩
    · exact ⟨_, _, rfl, .notRolledBack hbegin hbody hrollback⟩
    · exact ⟨_, _, rfl, .rolledBack hbegin hbody hrollback⟩
  · simp only [Action.runFrom_bind]
    rcases hcommit : driver.commit.runFrom s₂ with ⟨e | ⟨⟩, s₃⟩
    · exact ⟨_, _, rfl, .notCommitted hbegin hbody hcommit⟩
    · exact ⟨_, _, rfl, .committed hbegin hbody hcommit⟩

namespace TransactionState

theorem begun_of_idle {t : TransactionState} (h : t.isActive = false) : t.begun = .ok .active := by
  cases t with
  | active => exact absurd h (by decide)
  | _ => rfl

end TransactionState

/-! ## Inside a transaction -/

/-- Between two states of a connection its transaction has stayed active, and nothing but statements
    has been logged. -/
structure StaysInside (tracker : σ → TransactionState) (log : σ → List LogEntry) (s s' : σ) :
    Prop where
  active : tracker s' = .active
  logged : ∃ entries, log s' = log s ++ entries ∧ ∀ entry ∈ entries, entry.isStatement = true

namespace StaysInside

variable {tracker : σ → TransactionState} {log : σ → List LogEntry} {s s₁ s₂ : σ}

theorem refl (hactive : tracker s = .active) : StaysInside tracker log s s :=
  ⟨hactive, [], by simp, by simp⟩

theorem trans (h : StaysInside tracker log s s₁) (h' : StaysInside tracker log s₁ s₂) :
    StaysInside tracker log s s₂ := by
  obtain ⟨first, hfirst, hstatements⟩ := h.logged
  obtain ⟨second, hsecond, hstatements'⟩ := h'.logged
  refine ⟨h'.active, first ++ second, ?_, ?_⟩
  · rw [hsecond, hfirst, List.append_assoc]
  · intro entry hentry
    rcases List.mem_append.1 hentry with hentry | hentry
    · exact hstatements entry hentry
    · exact hstatements' entry hentry

theorem of_statement {entry : LogEntry} (hstatement : entry.isStatement = true)
    (hactive : tracker s = .active) (h : tracker s₁ = tracker s ∧ log s₁ = log s ++ [entry]) :
    StaysInside tracker log s s₁ := by
  refine ⟨h.1.trans hactive, [entry], h.2, ?_⟩
  intro other hother
  rw [List.mem_singleton.1 hother]
  exact hstatement

end StaysInside

namespace Driver.Tracks

variable {driver : Driver σ} {tracker : σ → TransactionState} {log : σ → List LogEntry}

/-- **Where a transaction is active, another one is refused** before anything of it runs, whatever
    its body is. -/
theorem transaction_refused (h : driver.Tracks tracker log) {s : σ}
    (hactive : tracker s = .active) :
    ∃ s', StaysInside tracker log s s' ∧ ∀ {β : Type} (body : Action σ β),
      (transaction driver body).runFrom s = (.error .transactionAlreadyActive, s') := by
  have hbegun : (tracker s).begun = .error .transactionAlreadyActive := by rw [hactive]; rfl
  rcases hbegin : driver.beginTransaction.runFrom s with ⟨e | ⟨⟩, s'⟩
  · obtain ⟨hlog, ⟨herror, hsame⟩ | ⟨t, hok, -⟩⟩ := h.begin_error hbegin
    · rw [hbegun, Except.error.injEq] at herror
      refine ⟨s', ⟨hsame.trans hactive, [], by simp [hlog], by simp⟩, ?_⟩
      intro β body
      unfold transaction
      rw [Action.runFrom_bind, hbegin, ← herror]
    · rw [hbegun] at hok
      cases hok
  · have hok := (h.begin_ok hbegin).1
    rw [hbegun] at hok
    cases hok

/-- **Inside a transaction a body leaves it active and logs statements alone**, and it does not
    matter what stands in the transactions inside the body. -/
theorem exists_run (h : driver.Tracks tracker log) (other : (β : Type) → Body β → Body β)
    (body : Body α) {s : σ} (hactive : tracker s = .active) :
    ∃ result s', (body.run driver).runFrom s = (result, s')
      ∧ ((body.withInner other).run driver).runFrom s = (result, s')
      ∧ StaysInside tracker log s s' := by
  induction body generalizing s with
  | done a => exact ⟨.ok a, s, rfl, rfl, .refl hactive⟩
  | fail e => exact ⟨.error e, s, rfl, rfl, .refl hactive⟩
  | query statement next ih =>
    rcases hquery : (driver.query statement).runFrom s with ⟨outcome, s₁⟩
    have hinside := StaysInside.of_statement rfl hactive (h.query hquery)
    obtain ⟨result, s', hrun, hother, hrest⟩ := ih outcome hinside.active
    refine ⟨result, s', ?_, ?_, hinside.trans hrest⟩
    · rw [Body.run, Action.runFrom_attempt_bind, hquery, hrun]
    · rw [Body.withInner, Body.run, Action.runFrom_attempt_bind, hquery, hother]
  | execute statement next ih =>
    rcases hexecute : (driver.execute statement).runFrom s with ⟨outcome, s₁⟩
    have hinside := StaysInside.of_statement rfl hactive (h.execute hexecute)
    obtain ⟨result, s', hrun, hother, hrest⟩ := ih outcome hinside.active
    refine ⟨result, s', ?_, ?_, hinside.trans hrest⟩
    · rw [Body.run, Action.runFrom_attempt_bind, hexecute, hrun]
    · rw [Body.withInner, Body.run, Action.runFrom_attempt_bind, hexecute, hother]
  | block inner next _ ih =>
    obtain ⟨s₁, hinside, hrefused⟩ := h.transaction_refused hactive
    obtain ⟨result, s', hrun, hother, hrest⟩ :=
      ih (.error .transactionAlreadyActive) hinside.active
    refine ⟨result, s', ?_, ?_, hinside.trans hrest⟩
    · rw [Body.run, Action.runFrom_attempt_bind, hrefused, hrun]
    · rw [Body.withInner, Body.run, Action.runFrom_attempt_bind, hrefused, hother]

end Driver.Tracks

/-! ## Whole transactions -/

/-- What a whole transaction logs, with its last entry if it has come to an end: nothing, or its begin
    and the statements of its body, and behind them its end. -/
inductive Logged : Option LogEntry → List LogEntry → Prop
  | nothing : Logged none []
  | unended {statements : List LogEntry} (h : ∀ entry ∈ statements, entry.isStatement = true) :
      Logged none (.began :: statements)
  | ended {statements : List LogEntry} {last : LogEntry} (hlast : last.isEnd = true)
      (h : ∀ entry ∈ statements, entry.isStatement = true) :
      Logged (some last) (.began :: statements ++ [last])

namespace Logged

variable {last : Option LogEntry} {entries statements : List LogEntry}

theorem countP_statements {kind : LogEntry → Bool}
    (hkind : ∀ entry, entry.isStatement = true → kind entry = false)
    (h : ∀ entry ∈ statements, entry.isStatement = true) : statements.countP kind = 0 := by
  rw [List.countP_eq_zero]
  intro entry hentry
  rw [hkind entry (h entry hentry)]
  exact Bool.false_ne_true

theorem countP_isBegin (h : Logged last entries) : entries.countP LogEntry.isBegin ≤ 1 := by
  have hkind (entry : LogEntry) (hentry : entry.isStatement = true) : entry.isBegin = false := by
    cases entry <;> first | rfl | cases hentry
  cases h with
  | nothing => exact Nat.zero_le 1
  | unended h =>
    apply Nat.le_of_eq
    rw [List.countP_cons_of_pos rfl, countP_statements hkind h]
  | @ended _ last hlast h =>
    have hend : ¬last.isBegin = true := by
      cases last <;> simp [LogEntry.isEnd, LogEntry.isBegin] at *
    apply Nat.le_of_eq
    rw [List.cons_append, List.countP_cons_of_pos rfl, List.countP_append,
      countP_statements hkind h, List.countP_cons_of_neg hend, List.countP_nil]

theorem countP_isEnd (h : Logged last entries) : entries.countP LogEntry.isEnd ≤ 1 := by
  have hkind (entry : LogEntry) (hentry : entry.isStatement = true) : entry.isEnd = false := by
    cases entry <;> first | rfl | cases hentry
  have hbegan : ¬LogEntry.began.isEnd = true := Bool.false_ne_true
  cases h with
  | nothing => exact Nat.zero_le 1
  | unended h =>
    rw [List.countP_cons_of_neg hbegan, countP_statements hkind h]
    exact Nat.zero_le 1
  | ended hlast h =>
    apply Nat.le_of_eq
    rw [List.cons_append, List.countP_cons_of_neg hbegan, List.countP_append,
      countP_statements hkind h, List.countP_cons_of_pos hlast, List.countP_nil]

theorem committed_mem_iff (h : Logged last entries) :
    LogEntry.committed ∈ entries ↔ last = some .committed := by
  have hnone {statements : List LogEntry} (h : ∀ entry ∈ statements, entry.isStatement = true) :
      LogEntry.committed ∉ statements := fun hmem => Bool.false_ne_true (h _ hmem)
  cases h with
  | nothing => simp
  | unended h => simp [hnone h]
  | ended hlast h => simp [hnone h, eq_comm]

end Logged

namespace Driver.Tracks

variable {driver : Driver σ} {tracker : σ → TransactionState} {log : σ → List LogEntry}
  {body : Body α} {result : Except Error α} {s s₁ s₂ s' : σ}

/-- Behind a begin from an idle connection the transaction is active. -/
theorem begun (h : driver.Tracks tracker log) (hidle : (tracker s).isActive = false)
    (hbegin : driver.beginTransaction.runFrom s = (.ok (), s₁)) :
    tracker s₁ = .active ∧ log s₁ = log s ++ [.began] := by
  obtain ⟨hok, hlog⟩ := h.begin_ok hbegin
  rw [TransactionState.begun_of_idle hidle, Except.ok.injEq] at hok
  exact ⟨hok.symm, hlog⟩

/-- A body that runs from a begin stays inside of the transaction. -/
theorem staysInside_of_begin (h : driver.Tracks tracker log) (hidle : (tracker s).isActive = false)
    (hbegin : driver.beginTransaction.runFrom s = (.ok (), s₁))
    (hbody : (body.run driver).runFrom s₁ = (result, s₂)) : StaysInside tracker log s₁ s₂ := by
  obtain ⟨result', s₂', hrun, -, hinside⟩ :=
    h.exists_run (fun _ inner => inner) body (h.begun hidle hbegin).1
  rw [hbody, Prod.mk.injEq] at hrun
  rw [hrun.2]
  exact hinside

/-- Behind a begin and a body the log has the begin and statements. -/
theorem logged_inside (h : driver.Tracks tracker log) (hidle : (tracker s).isActive = false)
    (hbegin : driver.beginTransaction.runFrom s = (.ok (), s₁))
    (hbody : (body.run driver).runFrom s₁ = (result, s₂)) :
    ∃ statements, log s₂ = log s ++ .began :: statements
      ∧ ∀ entry ∈ statements, entry.isStatement = true := by
  obtain ⟨statements, hlog, hstatements⟩ := (h.staysInside_of_begin hidle hbegin hbody).logged
  refine ⟨statements, ?_, hstatements⟩
  rw [hlog, (h.begun hidle hbegin).2, List.append_assoc, List.singleton_append]

theorem logged_of_course (h : driver.Tracks tracker log) (hidle : (tracker s).isActive = false)
    (hcourse : Course driver (body.run driver) s result s') :
    ∃ last entries, log s' = log s ++ entries ∧ Logged last entries
      ∧ (last = some .committed ↔ ∃ a, result = .ok a) := by
  cases hcourse with
  | refused hbegin =>
    exact ⟨none, [], by simp [(h.begin_error hbegin).1], .nothing, by simp⟩
  | @committed a _ _ _ hbegin hbody hcommit =>
    obtain ⟨statements, hlog, hstatements⟩ := h.logged_inside hidle hbegin hbody
    have hend : LogEntry.committed.isEnd = true := rfl
    refine ⟨_, _, ?_, .ended hend hstatements, by simp⟩
    rw [(h.commit_ok hcommit).2, hlog, List.append_assoc]
  | notCommitted hbegin hbody hcommit =>
    obtain ⟨statements, hlog, hstatements⟩ := h.logged_inside hidle hbegin hbody
    refine ⟨_, _, ?_, .unended hstatements, by simp⟩
    rw [(h.commit_error hcommit).1, hlog]
  | rolledBack hbegin hbody hrollback =>
    obtain ⟨statements, hlog, hstatements⟩ := h.logged_inside hidle hbegin hbody
    have hend : LogEntry.rolledBack.isEnd = true := rfl
    refine ⟨_, _, ?_, .ended hend hstatements, by simp⟩
    rw [(h.rollback_ok hrollback).2, hlog, List.append_assoc]
  | notRolledBack hbegin hbody hrollback =>
    obtain ⟨statements, hlog, hstatements⟩ := h.logged_inside hidle hbegin hbody
    refine ⟨_, _, ?_, .unended hstatements, by simp⟩
    rw [h.rollback_error hrollback, hlog]

/-- A transaction that is over and still active is one whose rollback has failed. -/
theorem rollback_failed_of_course (h : driver.Tracks tracker log)
    (hidle : (tracker s).isActive = false)
    (hcourse : Course driver (body.run driver) s result s') (hactive : tracker s' = .active) :
    ∃ e r s₁ s₂, driver.beginTransaction.runFrom s = (.ok (), s₁)
      ∧ (body.run driver).runFrom s₁ = (.error e, s₂)
      ∧ driver.rollback.runFrom s₂ = (.error r, s') := by
  cases hcourse with
  | refused hbegin =>
    obtain ⟨-, ⟨herror, -⟩ | ⟨t, -, htracker⟩⟩ := h.begin_error hbegin
    · rw [TransactionState.begun_of_idle hidle] at herror
      cases herror
    · rw [hactive] at htracker
      cases htracker
  | committed hbegin hbody hcommit =>
    have hended := (h.commit_ok hcommit).1
    rw [(h.staysInside_of_begin hidle hbegin hbody).active, hactive] at hended
    cases hended
  | notCommitted hbegin hbody hcommit =>
    have hinside := (h.staysInside_of_begin hidle hbegin hbody).active
    obtain ⟨-, ⟨herror, -⟩ | hended⟩ := h.commit_error hcommit
    · rw [hinside] at herror
      cases herror
    · rw [hinside, hactive] at hended
      cases hended
  | rolledBack hbegin hbody hrollback =>
    have hended := (h.rollback_ok hrollback).1
    rw [(h.staysInside_of_begin hidle hbegin hbody).active, hactive] at hended
    cases hended
  | notRolledBack hbegin hbody hrollback => exact ⟨_, _, _, _, hbegin, hbody, hrollback⟩

theorem error_of_course (hcourse : Course driver (body.run driver) s result s') {e : Error} {s₃ : σ}
    (hbegin : driver.beginTransaction.runFrom s = (.ok (), s₁))
    (hbody : (body.run driver).runFrom s₁ = (.error e, s₂))
    (hrollback : driver.rollback.runFrom s₂ = (.ok (), s₃)) : result = .error e := by
  cases hcourse <;> simp_all

/-- What stands in the transactions inside a transaction does not matter. -/
theorem transaction_withInner (h : driver.Tracks tracker log) (hidle : (tracker s).isActive = false)
    (body : Body α) (other : (β : Type) → Body β → Body β) :
    (transaction driver ((body.withInner other).run driver)).runFrom s
      = (transaction driver (body.run driver)).runFrom s := by
  unfold transaction
  rw [Action.runFrom_bind, Action.runFrom_bind]
  rcases hbegin : driver.beginTransaction.runFrom s with ⟨e | ⟨⟩, s₁⟩
  · rfl
  · obtain ⟨result, s₂, hrun, hother, -⟩ := h.exists_run other body (h.begun hidle hbegin).1
    simp only [Action.runFrom_attempt_bind, hrun, hother]

end Driver.Tracks

/-- **A transaction is all or nothing.** Let a body of statements and transactions to any depth,
    with errors passed on or caught and any of them failing, run in a transaction on an idle
    connection that is tracked. Then at most one begin and at most one end are logged, and a commit
    exactly if the transaction ends in a result. The transactions inside the body never run what
    stands in them, which might as well be anything else. An error of the body comes back as it is if
    the rollback succeeds, and the connection is idle again unless the rollback itself has failed. -/
theorem transaction_all_or_nothing {driver : Driver σ} {tracker : σ → TransactionState}
    {log : σ → List LogEntry} (h : driver.Tracks tracker log) (body : Body α) {s : σ}
    (hidle : (tracker s).isActive = false) :
    ∃ result s' entries, (transaction driver (body.run driver)).runFrom s = (result, s')
      ∧ log s' = log s ++ entries
      ∧ entries.countP LogEntry.isBegin ≤ 1
      ∧ entries.countP LogEntry.isEnd ≤ 1
      ∧ (LogEntry.committed ∈ entries ↔ ∃ a, result = .ok a)
      ∧ (∀ other, (transaction driver ((body.withInner other).run driver)).runFrom s = (result, s'))
      ∧ (∀ e s₁ s₂ s₃, driver.beginTransaction.runFrom s = (.ok (), s₁) →
          (body.run driver).runFrom s₁ = (.error e, s₂) →
          driver.rollback.runFrom s₂ = (.ok (), s₃) → result = .error e)
      ∧ ((tracker s').isActive = true →
          ∃ e r s₁ s₂, driver.beginTransaction.runFrom s = (.ok (), s₁)
            ∧ (body.run driver).runFrom s₁ = (.error e, s₂)
            ∧ driver.rollback.runFrom s₂ = (.error r, s')) := by
  obtain ⟨result, s', hrun, hcourse⟩ := course_of_transaction driver (body.run driver) s
  obtain ⟨last, entries, hlog, hlogged, hlast⟩ := h.logged_of_course hidle hcourse
  refine ⟨result, s', entries, hrun, hlog, hlogged.countP_isBegin, hlogged.countP_isEnd,
    hlogged.committed_mem_iff.trans hlast, ?_, ?_, ?_⟩
  · intro other
    rw [h.transaction_withInner hidle, hrun]
  · intro e s₁ s₂ s₃ hbegin hbody hrollback
    exact Driver.Tracks.error_of_course hcourse hbegin hbody hrollback
  · intro hactive
    have hactive : tracker s' = .active := by simpa [TransactionState.isActive] using hactive
    exact h.rollback_failed_of_course hidle hcourse hactive

/-! ## The scripted driver -/

namespace Script

theorem state_send (entry : LogEntry) (sql : String) (s : Script) :
    ((send entry sql).runFrom s).2 = { s with rules := (takeRule sql s.rules).2 }.record entry := by
  simp only [send, Action.ofRun, Action.runFrom]
  split <;> rfl

/-- An answer that is made of the rule alone leaves the state as the statement has left it. -/
theorem state_send_bind (entry : LogEntry) (sql : String) (answer : ScriptRule → β) (s : Script) :
    ((send entry sql >>= fun rule => pure (answer rule)).runFrom s).2
      = { s with rules := (takeRule sql s.rules).2 }.record entry := by
  rw [← state_send, Action.runFrom_bind]
  rcases (send entry sql).runFrom s with ⟨e | rule, s'⟩ <;> rfl

/-- The scripted driver is tracked, whichever of its failures are armed. -/
theorem tracks (d : Dialect) : (driver d).Tracks transactions log where
  query := by
    intro statement s outcome s' hrun
    have hstate := state_send_bind (.query statement) statement.sql
      (fun rule => QueryResult.ofRows (answer rule statement)) s
    have hstate : s' = _ := (congrArg Prod.snd hrun).symm.trans hstate
    rw [hstate]
    exact ⟨rfl, rfl⟩
  execute := by
    intro statement s outcome s' hrun
    have hstate := state_send_bind (.execute statement) statement.sql
      (fun rule => WriteResult.mk rule.affectedRows rule.insertId) s
    have hstate : s' = _ := (congrArg Prod.snd hrun).symm.trans hstate
    rw [hstate]
    exact ⟨rfl, rfl⟩
  begin_ok := by
    intro s s' hrun
    simp only [driver, beginTransaction, Action.ofRun, Action.runFrom] at hrun
    split at hrun
    · cases hrun
    · next t ht =>
      split at hrun <;> cases hrun
      exact ⟨ht, rfl⟩
  begin_error := by
    intro s e s' hrun
    simp only [driver, beginTransaction, Action.ofRun, Action.runFrom] at hrun
    split at hrun
    · next ht =>
      cases hrun
      exact ⟨rfl, .inl ⟨ht, rfl⟩⟩
    · next t ht =>
      split at hrun <;> cases hrun
      exact ⟨rfl, .inr ⟨t, ht, rfl⟩⟩
  commit_ok := by
    intro s s' hrun
    simp only [driver, commit, Action.ofRun, Action.runFrom] at hrun
    split at hrun
    · cases hrun
    · next t ht =>
      split at hrun <;> cases hrun
      exact ⟨ht, rfl⟩
  commit_error := by
    intro s e s' hrun
    simp only [driver, commit, Action.ofRun, Action.runFrom] at hrun
    split at hrun
    · next ht =>
      cases hrun
      exact ⟨rfl, .inl ⟨ht, rfl⟩⟩
    · next t ht =>
      -- a commit and a rollback are possible in the same states
      have hactive : s.transactions.isActive = true := by
        unfold TransactionState.commit TransactionState.ended at ht
        split at ht
        · assumption
        · cases ht
      split at hrun <;> cases hrun
      refine ⟨rfl, .inr ?_⟩
      unfold TransactionState.rollback TransactionState.ended
      rw [if_pos hactive]
  rollback_ok := by
    intro s s' hrun
    simp only [driver, rollback, Action.ofRun, Action.runFrom] at hrun
    split at hrun
    · cases hrun
    · split at hrun <;> cases hrun
      next t ht => exact ⟨ht, rfl⟩
  rollback_error := by
    intro s e s' hrun
    simp only [driver, rollback, Action.ofRun, Action.runFrom] at hrun
    split at hrun
    · cases hrun
      rfl
    · split at hrun <;> cases hrun
      rfl

end Script

/-- A body passes on that a transaction inside it is refused: the update before it is rolled back, and
    the delete in it is never sent. -/
theorem transaction_all_or_nothing_refused :
    ∃ (driver : Driver Script) (body : Body Unit) (result : Except Error Unit) (s' : Script),
      driver = Script.driver .postgres
      ∧ body = .execute ⟨"UPDATE a", []⟩ (fun _ =>
          .block (.execute ⟨"DELETE b", []⟩ fun _ => .done ()) fun
            | .ok () => .done ()
            | .error e => .fail e)
      ∧ ({} : Script).transactions.isActive = false
      ∧ (transaction driver (body.run driver)).runFrom {} = (result, s')
      ∧ result = .error .transactionAlreadyActive
      ∧ s'.log = [.began, .execute ⟨"UPDATE a", []⟩, .rolledBack]
      ∧ s'.log.countP LogEntry.isBegin ≤ 1
      ∧ s'.log.countP LogEntry.isEnd ≤ 1
      ∧ (LogEntry.committed ∈ s'.log ↔ ∃ a, result = .ok a)
      ∧ (∀ other, (transaction driver ((body.withInner other).run driver)).runFrom {} = (result, s')) := by
  let body : Body Unit := .execute ⟨"UPDATE a", []⟩ fun _ =>
    .block (.execute ⟨"DELETE b", []⟩ fun _ => .done ()) fun
      | .ok () => .done ()
      | .error e => .fail e
  obtain ⟨result, s', entries, hrun, hlog, hbegin, hend, hcommit, hother, -⟩ :=
    transaction_all_or_nothing (Script.tracks .postgres) body (s := {}) rfl
  have hlog : s'.log = entries := hlog
  have hresult := hrun
  cases hresult
  exact ⟨_, body, _, _, rfl, rfl, rfl, hrun, rfl, rfl, hlog ▸ hbegin, hlog ▸ hend, hlog ▸ hcommit,
    hother⟩

end QueryKit
