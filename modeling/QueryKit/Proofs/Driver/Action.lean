import QueryKit.Execution

set_option autoImplicit false

/-! # Runs of actions

Actions that are put together run one after another until one of them fails. A driver can be recorded:
then its state carries a log of the statements it was asked to send (`Driver.recorded`), and an action
has a list of the statements it sends (`Action.sent`). What all of them are like is found by going
through the action once (`Action.Sends`), and so is how many they are (`Action.SendsAtMost`), what all
results are like (`Action.Yields`), what an action ends in if that does not depend on the state
(`Action.Returns`), and what is kept of the state (`Action.Keeps`). -/

namespace QueryKit

variable {σ α β : Type}

namespace Action

/-! ## Runs -/

theorem runFrom_bind (action : Action σ α) (next : α → Action σ β) (s : σ) :
    (action >>= next).runFrom s = match action.runFrom s with
      | (.ok a, s) => (next a).runFrom s
      | (.error e, s) => (.error e, s) := by
  show (ExceptT.bindCont next (action.runFrom s).1).run (action.runFrom s).2 = _
  rcases action.runFrom s with ⟨_ | _, s⟩ <;> rfl

/-- An action in two parts that ends in a result has gone through both. -/
theorem runFrom_bind_eq_ok {action : Action σ α} {next : α → Action σ β} {s s' : σ} {b : β}
    (h : (action >>= next).runFrom s = (.ok b, s')) :
    ∃ a s₁, action.runFrom s = (.ok a, s₁) ∧ (next a).runFrom s₁ = (.ok b, s') := by
  rw [runFrom_bind] at h
  rcases hrun : action.runFrom s with ⟨e | a, s₁⟩
  · rw [hrun] at h
    cases h
  · rw [hrun] at h
    exact ⟨a, s₁, rfl, h⟩

/-- An action in two parts that fails has failed in the first one, or in the second one from where the
    first has led. -/
theorem runFrom_bind_eq_error {action : Action σ α} {next : α → Action σ β} {s s' : σ} {e : Error}
    (h : (action >>= next).runFrom s = (.error e, s')) :
    action.runFrom s = (.error e, s')
      ∨ ∃ a s₁, action.runFrom s = (.ok a, s₁) ∧ (next a).runFrom s₁ = (.error e, s') := by
  rw [runFrom_bind] at h
  rcases hrun : action.runFrom s with ⟨e | a, s₁⟩
  · rw [hrun] at h
    cases h
    exact .inl rfl
  · rw [hrun] at h
    exact .inr ⟨a, s₁, rfl, h⟩

/-- What follows an attempt goes on from where it has led, whatever it has ended in. -/
theorem runFrom_attempt_bind (action : Action σ α) (next : Except Error α → Action σ β) (s : σ) :
    (action.attempt >>= next).runFrom s
      = (next (action.runFrom s).1).runFrom (action.runFrom s).2 := by
  rw [runFrom_bind]
  rfl

@[simp] theorem runFrom_ofExcept (result : Except Error α) (s : σ) :
    (ofExcept result : Action σ α).runFrom s = (result, s) := rfl

@[simp] theorem ofExcept_ok_bind (a : α) (next : α → Action σ β) :
    ((ofExcept (.ok a) : Action σ α) >>= next) = next a := rfl

/-! ## What results are like -/

/-- Every result of the action has a property. -/
def Yields (P : α → Prop) (action : Action σ α) : Prop :=
  ∀ s a s', action.runFrom s = (.ok a, s') → P a

namespace Yields

variable {P : α → Prop}

theorem pure {a : α} (h : P a) : Yields P (Pure.pure a : Action σ α) := by
  intro s a s' hrun
  cases hrun
  exact h

theorem throw (e : Error) : Yields P (MonadExcept.throw e : Action σ α) := by
  intro s a s' hrun
  cases hrun

theorem bind {action : Action σ β} {next : β → Action σ α} (h : ∀ b, Yields P (next b)) :
    Yields P (action >>= next) := by
  intro s a s' hrun
  obtain ⟨b, s₁, -, hnext⟩ := runFrom_bind_eq_ok hrun
  exact h b s₁ a s' hnext

end Yields

/-! ## Results that do not depend on the state -/

/-- From every state the action ends in this result. -/
def Returns (action : Action σ α) (a : α) : Prop :=
  ∀ s, ∃ s', action.runFrom s = (.ok a, s')

namespace Returns

theorem pure (a : α) : Returns (Pure.pure a : Action σ α) a :=
  fun s => ⟨s, rfl⟩

theorem bind {action : Action σ α} {next : α → Action σ β} {a : α} {b : β} (h : Returns action a)
    (hnext : Returns (next a) b) : Returns (action >>= next) b := by
  intro s
  obtain ⟨s₁, hrun⟩ := h s
  obtain ⟨s₂, hrun'⟩ := hnext s₁
  exact ⟨s₂, by rw [runFrom_bind, hrun, ← hrun']⟩

theorem mapM {f : α → Action σ β} {g : α → β} (xs : List α) (h : ∀ x ∈ xs, Returns (f x) (g x)) :
    Returns (xs.mapM f) (xs.map g) := by
  induction xs with
  | nil => exact .pure []
  | cons x rest ih =>
      rw [List.mapM_cons]
      refine .bind (h x (List.mem_cons_self ..)) ?_
      exact .bind (ih fun y hy => h y (List.mem_cons_of_mem _ hy)) (.pure _)

theorem eq_of_runFrom {action : Action σ α} {a b : α} (h : Returns action a) {s s' : σ}
    (hrun : action.runFrom s = (.ok b, s')) : b = a := by
  obtain ⟨s₁, hrun'⟩ := h s
  rw [hrun, Prod.mk.injEq, Except.ok.injEq] at hrun'
  exact hrun'.1

end Returns

/-- Where all of a list has been gone through, every entry has ended in a result. -/
theorem runFrom_mapM_eq_ok {f : α → Action σ β} {xs : List α} {s s' : σ} {ys : List β}
    (h : (xs.mapM f).runFrom s = (.ok ys, s')) :
    ∀ x ∈ xs, ∃ s₁ y s₂, (f x).runFrom s₁ = (.ok y, s₂) := by
  induction xs generalizing s s' ys with
  | nil => exact fun x hx => absurd hx List.not_mem_nil
  | cons x rest ih =>
      rw [List.mapM_cons] at h
      obtain ⟨y, s₁, hfirst, h⟩ := runFrom_bind_eq_ok h
      obtain ⟨_, _, hrest, -⟩ := runFrom_bind_eq_ok h
      intro z hz
      rcases List.mem_cons.1 hz with rfl | hz
      · exact ⟨s, y, s₁, hfirst⟩
      · exact ih hrest z hz

/-! ## What is kept -/

/-- However it ends, the action keeps a property of the state. -/
def Keeps (P : σ → Prop) (action : Action σ α) : Prop :=
  ∀ s, P s → P (action.runFrom s).2

namespace Keeps

variable {P : σ → Prop}

theorem pure (a : α) : Keeps P (Pure.pure a : Action σ α) :=
  fun _ h => h

theorem throw (e : Error) : Keeps P (MonadExcept.throw e : Action σ α) :=
  fun _ h => h

theorem bind {action : Action σ α} {next : α → Action σ β} (h : Keeps P action)
    (hnext : ∀ a, Keeps P (next a)) : Keeps P (action >>= next) := by
  intro s hs
  have hfirst := h s hs
  rw [runFrom_bind]
  rcases hrun : action.runFrom s with ⟨e | a, s₁⟩
  · rw [hrun] at hfirst
    exact hfirst
  · rw [hrun] at hfirst
    exact hnext a s₁ hfirst

theorem attempt_bind {action : Action σ α} {next : Except Error α → Action σ β}
    (h : Keeps P action) (hnext : ∀ outcome, Keeps P (next outcome)) :
    Keeps P (action.attempt >>= next) := by
  intro s hs
  rw [runFrom_attempt_bind]
  exact hnext _ _ (h s hs)

end Keeps

/-! ## Statements that are sent -/

/-- The statements that an action on a recorded driver sends. -/
def sent (action : Action (σ × List Statement) α) (s : σ) : List Statement :=
  (action.runFrom (s, [])).2.2

/-- What is made of a result sends nothing more. -/
theorem sent_bind_pure (action : Action (σ × List Statement) α) (f : α → β) (s : σ) :
    (action >>= fun a => pure (f a)).sent s = action.sent s := by
  rw [sent, sent, runFrom_bind]
  rcases action.runFrom (s, []) with ⟨e | a, s⟩ <;> rfl

/-- Whatever the action adds to the log has a property. -/
def Sends (P : Statement → Prop) (action : Action (σ × List Statement) α) : Prop :=
  ∀ s log, ∃ more, (action.runFrom (s, log)).2.2 = log ++ more ∧ ∀ statement ∈ more, P statement

namespace Sends

variable {P : Statement → Prop}

theorem of_mem_sent {action : Action (σ × List Statement) α} (h : Sends P action) {s : σ}
    {statement : Statement} (hsent : statement ∈ action.sent s) : P statement := by
  obtain ⟨more, hlog, hmore⟩ := h s []
  rw [sent, hlog, List.nil_append] at hsent
  exact hmore statement hsent

theorem pure (a : α) : Sends P (Pure.pure a : Action (σ × List Statement) α) :=
  fun _ log => ⟨[], (List.append_nil log).symm, fun _ h => absurd h List.not_mem_nil⟩

theorem throw (e : Error) : Sends P (MonadExcept.throw e : Action (σ × List Statement) α) :=
  fun _ log => ⟨[], (List.append_nil log).symm, fun _ h => absurd h List.not_mem_nil⟩

theorem bind {action : Action (σ × List Statement) α} {next : α → Action (σ × List Statement) β}
    (h : Sends P action) (hnext : ∀ a, Sends P (next a)) : Sends P (action >>= next) := by
  intro s log
  obtain ⟨first, hlog, hfirst⟩ := h s log
  rw [runFrom_bind]
  rcases hrun : action.runFrom (s, log) with ⟨e | a, s, sent⟩
  · rw [hrun] at hlog
    exact ⟨first, hlog, hfirst⟩
  · rw [hrun] at hlog
    obtain ⟨second, hlog', hsecond⟩ := hnext a s sent
    refine ⟨first ++ second, ?_, fun statement hmem => ?_⟩
    · simp only [hlog']
      rw [← List.append_assoc, ← hlog]
    · exact (List.mem_append.1 hmem).elim (hfirst statement) (hsecond statement)

theorem ofExcept_bind {result : Except Error α} {next : α → Action (σ × List Statement) β}
    (h : ∀ a, result = .ok a → Sends P (next a)) : Sends P (ofExcept result >>= next) := by
  cases result with
  | error e => exact Sends.throw e
  | ok a => exact h a rfl

theorem mapM {f : α → Action (σ × List Statement) β} (xs : List α) (h : ∀ x ∈ xs, Sends P (f x)) :
    Sends P (xs.mapM f) := by
  induction xs with
  | nil => exact Sends.pure []
  | cons x rest ih =>
      rw [List.mapM_cons]
      refine (h x (List.mem_cons_self ..)).bind fun y => ?_
      exact (ih fun y hy => h y (List.mem_cons_of_mem _ hy)).bind fun ys => Sends.pure _

end Sends

/-! ## Numbers of statements -/

/-- However it ends, the action adds at most so many statements to the log. -/
def SendsAtMost (n : Nat) (action : Action (σ × List Statement) α) : Prop :=
  ∀ s log, ∃ more, (action.runFrom (s, log)).2.2 = log ++ more ∧ more.length ≤ n

namespace SendsAtMost

variable {n m : Nat} {action : Action (σ × List Statement) α}

theorem mono (h : SendsAtMost n action) (hle : n ≤ m) : SendsAtMost m action := by
  intro s log
  obtain ⟨more, hlog, hlength⟩ := h s log
  exact ⟨more, hlog, Nat.le_trans hlength hle⟩

theorem pure (a : α) : SendsAtMost 0 (Pure.pure a : Action (σ × List Statement) α) :=
  fun _ log => ⟨[], (List.append_nil log).symm, Nat.le_refl 0⟩

theorem throw (e : Error) :
    SendsAtMost 0 (MonadExcept.throw e : Action (σ × List Statement) α) :=
  fun _ log => ⟨[], (List.append_nil log).symm, Nat.le_refl 0⟩

theorem bind {next : α → Action (σ × List Statement) β} (h : SendsAtMost n action)
    (hnext : ∀ a, SendsAtMost m (next a)) : SendsAtMost (n + m) (action >>= next) := by
  intro s log
  obtain ⟨first, hlog, hfirst⟩ := h s log
  rw [runFrom_bind]
  rcases hrun : action.runFrom (s, log) with ⟨e | a, s, sent⟩
  · rw [hrun] at hlog
    exact ⟨first, hlog, Nat.le_add_right_of_le hfirst⟩
  · rw [hrun] at hlog
    obtain ⟨second, hlog', hsecond⟩ := hnext a s sent
    refine ⟨first ++ second, ?_, ?_⟩
    · simp only [hlog']
      rw [← List.append_assoc, ← hlog]
    · rw [List.length_append]
      exact Nat.add_le_add hfirst hsecond

theorem ofExcept_bind {result : Except Error α} {next : α → Action (σ × List Statement) β}
    (h : ∀ a, result = .ok a → SendsAtMost n (next a)) :
    SendsAtMost n (ofExcept result >>= next) := by
  cases result with
  | error e => exact (SendsAtMost.throw e).mono (Nat.zero_le n)
  | ok a => exact h a rfl

theorem mapM {f : α → Action (σ × List Statement) β} (xs : List α)
    (h : ∀ x ∈ xs, SendsAtMost n (f x)) : SendsAtMost (xs.length * n) (xs.mapM f) := by
  induction xs with
  | nil => exact (SendsAtMost.pure []).mono (Nat.zero_le _)
  | cons x rest ih =>
      rw [List.mapM_cons, List.length_cons, Nat.succ_mul, Nat.add_comm]
      refine (h x (List.mem_cons_self ..)).bind fun y => ?_
      exact (ih fun y hy => h y (List.mem_cons_of_mem _ hy)).bind fun ys => SendsAtMost.pure _

/-- Where all of a list has been gone through, every entry has ended in a result, and what the log had
    by then it has still. -/
theorem runFrom_mapM_eq_ok {f : α → Action (σ × List Statement) β} {xs : List α}
    (hf : ∀ x ∈ xs, SendsAtMost n (f x)) {s s' : σ × List Statement} {ys : List β}
    (h : (xs.mapM f).runFrom s = (.ok ys, s')) :
    ∀ x ∈ xs, ∃ s₁ y s₂, (f x).runFrom s₁ = (.ok y, s₂) ∧ s₂.2 ⊆ s'.2 := by
  induction xs generalizing s s' ys with
  | nil => exact fun x hx => absurd hx List.not_mem_nil
  | cons x rest ih =>
      obtain ⟨_, hrest⟩ := List.forall_mem_cons.1 hf
      rw [List.mapM_cons] at h
      obtain ⟨y, s₁, hfirst, h⟩ := runFrom_bind_eq_ok h
      obtain ⟨_, s₂, hothers, hend⟩ := runFrom_bind_eq_ok h
      cases hend
      intro z hz
      rcases List.mem_cons.1 hz with rfl | hz
      · obtain ⟨more, hlog, -⟩ := SendsAtMost.mapM rest hrest s₁.1 s₁.2
        rw [hothers] at hlog
        exact ⟨s, y, s₁, hfirst, fun _ hmem => hlog ▸ List.mem_append_left more hmem⟩
      · exact ih hrest hothers z hz

end SendsAtMost

end Action

/-! ## Recorded drivers -/

namespace Driver

/-- The driver with a log of the statements sent through it. -/
def recorded (driver : Driver σ) : Driver (σ × List Statement) :=
  { driver.onFirst with
    query := fun statement => Action.ofRun fun (s, log) =>
      (driver.query statement).onFirst.runFrom (s, log ++ [statement])
    execute := fun statement => Action.ofRun fun (s, log) =>
      (driver.execute statement).onFirst.runFrom (s, log ++ [statement]) }

theorem sends_query {P : Statement → Prop} (driver : Driver σ) {statement : Statement}
    (h : P statement) : Action.Sends P (driver.recorded.query statement) :=
  fun _ _ => ⟨[statement], rfl, fun _ hmem => List.mem_singleton.1 hmem ▸ h⟩

theorem sends_execute {P : Statement → Prop} (driver : Driver σ) {statement : Statement}
    (h : P statement) : Action.Sends P (driver.recorded.execute statement) :=
  fun _ _ => ⟨[statement], rfl, fun _ hmem => List.mem_singleton.1 hmem ▸ h⟩

theorem sends_send {P : Statement → Prop} (driver : Driver σ) {result : Except Error Statement}
    (h : ∀ statement, result = .ok statement → P statement) :
    Action.Sends P (Builder.send driver.recorded result) := by
  refine Action.Sends.ofExcept_bind fun statement hresult => ?_
  exact Action.Sends.bind (driver.sends_execute (h statement hresult)) fun _ => Action.Sends.pure _

theorem sends_get {P : Statement → Prop} (driver : Driver σ) {b : Builder}
    (h : ∀ statement, b.toSql = .ok statement → P statement) :
    Action.Sends P (b.get driver.recorded) := by
  refine Action.Sends.bind ?_ fun result => Action.Sends.pure _
  exact Action.Sends.ofExcept_bind fun statement hsql => driver.sends_query (h statement hsql)

/-- A read sends its statement, and nothing if it cannot be compiled. -/
theorem sent_get (driver : Driver σ) (b : Builder) (s : σ) :
    (b.get driver.recorded).sent s = match b.toSql with
      | .ok statement => [statement]
      | .error _ => [] := by
  rw [Builder.get, Action.sent_bind_pure, Builder.fetch]
  cases b.toSql with
  | error e => rfl
  | ok statement => rfl

/-- A read that ends in a result has sent its statement. -/
theorem mem_log_of_get {driver : Driver σ} {b : Builder} {s s' : σ × List Statement} {rows : List Row}
    (h : (b.get driver.recorded).runFrom s = (.ok rows, s')) :
    ∃ statement, b.toSql = .ok statement ∧ statement ∈ s'.2 := by
  rw [Builder.get, Builder.fetch] at h
  cases hsql : b.toSql with
  | error e =>
      rw [hsql] at h
      cases h
  | ok statement =>
      rw [hsql, Action.ofExcept_ok_bind] at h
      obtain ⟨result, s₁, hquery, hend⟩ := Action.runFrom_bind_eq_ok h
      cases hend
      have hsent : ((driver.recorded.query statement).runFrom s).2.2 = s.2 ++ [statement] := rfl
      rw [hquery] at hsent
      exact ⟨statement, rfl, hsent ▸ List.mem_append_right _ (List.mem_singleton_self _)⟩

theorem sendsAtMost_query (driver : Driver σ) (statement : Statement) :
    Action.SendsAtMost 1 (driver.recorded.query statement) :=
  fun _ _ => ⟨[statement], rfl, Nat.le_refl 1⟩

theorem sendsAtMost_get (driver : Driver σ) (b : Builder) :
    Action.SendsAtMost 1 (b.get driver.recorded) := by
  refine Action.SendsAtMost.bind ?_ fun result => Action.SendsAtMost.pure _
  exact Action.SendsAtMost.ofExcept_bind fun statement _ => driver.sendsAtMost_query statement

/-- A driver that answers no rows and changes none. -/
def blank (d : Dialect) : Driver Unit where
  dialect := d
  query := fun _ => pure (QueryResult.ofRows [])
  execute := fun _ => pure { affectedRows := 0, insertId := none }
  beginTransaction := pure ()
  commit := pure ()
  rollback := pure ()
  inTransaction := fun _ => false

end Driver

end QueryKit
