import QueryKit.Proofs.Filter.Basic
import QueryKit.Builder.Call

set_option autoImplicit false

/-! # What a call does

Every call has a fault of its own, if it has one, whatever builder it is made on (`Call.fault?`), and
an effect that it has if it has no fault (`Call.effect`). A builder keeps the first fault of its
calls. So a run of calls without fault is the run of their effects, and what the effects keep is kept
by every run. -/

namespace QueryKit

/-! ## Conditions of calls -/

/-- A group of clauses as a clause. Without clauses there is no group. -/
def Filter.grouped (k : Connective) : Filter → Filter
  | [] => []
  | c :: rest => [.group k (c :: rest)]

mutual

/-- The conditions that a call adds. -/
def Call.clauses : Call → Filter
  | .compare k column op value =>
    [.leaf k (Builder.comparison column ((operator? op).getD op) value)]
  | .whereGroup k body => Filter.grouped k (clausesOf body)
  | .oneOf k column values negated => [.leaf k (.oneOf column values negated)]
  | .isNull k column negated => [.leaf k (.isNull column negated)]
  | .between k column low high negated => [.leaf k (.between column low high negated)]
  | .whereRaw k sql values => [.leaf k (.raw sql values)]
  | .compareColumns k left op right =>
    [.leaf k (.compareColumns left ((operator? op).getD op) right)]
  | _ => []

/-- The conditions that calls add. -/
def clausesOf : List Call → Filter
  | [] => []
  | call :: rest => call.clauses ++ clausesOf rest

end

/-! ## Faults of calls -/

/-- The fault of an operator that is not on the list. -/
def operatorFault? (op : String) : Option Fault :=
  match operator? op with
  | some _ => none
  | none => some (.operator op)

mutual

/-- The first fault of a call. -/
def Call.fault? : Call → Option Fault
  | .select columns => columns.findSome? identifierFault?
  | .addSelect column => identifierFault? column
  | .selectRaw sql values => markerFault? sql values
  | .compare _ column op _ => (operatorFault? op).or (identifierFault? column)
  | .whereGroup _ body => faultOf? body
  | .oneOf _ column _ _ => identifierFault? column
  | .isNull _ column _ => identifierFault? column
  | .between _ column _ _ _ => identifierFault? column
  | .whereRaw _ sql values => markerFault? sql values
  | .compareColumns _ left op right =>
    (operatorFault? op).or ((identifierFault? left).or (identifierFault? right))
  | .join _ table first op second =>
    (identifierFault? table).or
      ((operatorFault? op).or ((identifierFault? first).or (identifierFault? second)))
  | .crossJoin table => identifierFault? table
  | .groupBy columns => columns.findSome? identifierFault?
  | .having _ column op _ => (operatorFault? op).or (identifierFault? column)
  | .havingRaw sql values => markerFault? sql values
  | .orderBy column _ => identifierFault? column
  | .orderByRaw sql values => markerFault? sql values
  | _ => none

/-- The first fault of calls. -/
def faultOf? : List Call → Option Fault
  | [] => none
  | call :: rest => call.fault?.or (faultOf? rest)

end

/-! ## Effects of calls -/

namespace Draft

/-- Adds conditions one after another. -/
def addWheres (d : Draft) (wheres : List Where) : Draft :=
  wheres.foldl addWhere d

/-- Selects these columns, or all columns if there are none. -/
def selectOnly (d : Draft) (columns : List String) : Draft :=
  { d with
    columns := if columns.isEmpty then [.star] else columns.map .column
    buckets := { d.buckets with select := [] } }

end Draft

/-- What a call without fault does. -/
def Call.effect (b : Builder) : Call → Builder
  | .select columns => b.modify (·.selectOnly columns)
  | .addSelect column => b.modify (·.dropStar.addColumn (.column column))
  | .selectRaw sql values => b.modify (·.dropStar.addColumn (.raw sql values))
  | .join kind table first op second => b.modify fun d =>
    { d with joins := d.joins ++ [⟨kind, table, some ⟨first, (operator? op).getD op, second⟩⟩] }
  | .crossJoin table => b.modify fun d => { d with joins := d.joins ++ [⟨.cross, table, none⟩] }
  | .groupBy columns => b.modify fun d => { d with groups := d.groups ++ columns }
  | .having k column op value =>
    b.modify (·.addHaving ⟨k, .compare column ((operator? op).getD op) value⟩)
  | .havingRaw sql values => b.modify (·.addHaving ⟨.and, .raw sql values⟩)
  | .orderBy column direction => b.modify (·.addOrder (.column column direction))
  | .orderByRaw sql values => b.modify (·.addOrder (.raw sql values))
  | .primaryKey column => b.primaryKey column
  | .distinct => b.distinct
  | .limit count => b.limit count
  | .offset count => b.offset count
  | .paginate page => b.paginate page
  | .lock kind => b.lock kind
  | .scope name body => b.scope name (Scope.ofCalls fun inner => runCalls inner body)
  | .withoutScope name => b.withoutScope name
  | .withoutScopes => b.withoutScopes
  | call => b.modify fun d => d.addWheres (call.clauses.toWheres d.dialect)

/-- The calls of a group or of a scope. -/
def Call.body : Call → List Call
  | .whereGroup _ body => body
  | .scope _ body => body
  | _ => []

/-- What holds of a call if it holds of the calls in its body holds of every call. -/
theorem Call.body_induction {motive : Call → Prop}
    (step : ∀ call, (∀ inner ∈ call.body, motive inner) → motive call) (call : Call) :
    motive call :=
  step call fun inner _ => body_induction step inner
termination_by sizeOf call
decreasing_by
  rename_i hinner
  cases call with
  | whereGroup k body =>
      have hlt : sizeOf inner < sizeOf body := List.sizeOf_lt_of_mem hinner
      simp only [Call.whereGroup.sizeOf_spec]
      omega
  | scope name body =>
      have hlt : sizeOf inner < sizeOf body := List.sizeOf_lt_of_mem hinner
      simp only [Call.scope.sizeOf_spec]
      omega
  | _ => exact absurd hinner (List.not_mem_nil)

/-! ## Checks -/

theorem identifierFault?_findSome_cons (column : String) (columns : List String) :
    (column :: columns).findSome? identifierFault?
      = (identifierFault? column).or (columns.findSome? identifierFault?) := by
  rw [List.findSome?_cons]
  cases identifierFault? column <;> rfl

namespace Draft

variable (d : Draft)

theorem fault_fail (fault : Fault) : (d.fail fault).fault = d.fault.or (some fault) := by
  cases h : d.fault <;> simp [fail, h]

theorem fault_guarded {fault : Option Fault} {change : Draft → Draft}
    (h : (change d).fault = d.fault) : (d.guarded fault change).fault = d.fault.or fault := by
  cases fault with
  | none => rw [guarded, h, Option.or_none]
  | some fault => exact fault_fail d fault

theorem guarded_guarded (first second : Option Fault) (change : Draft → Draft) :
    (d.guarded first fun d => d.guarded second change) = d.guarded (first.or second) change := by
  cases first <;> rfl

theorem withOperator_eq (op : String) (change : String → Draft → Draft) :
    d.withOperator op change
      = d.guarded (operatorFault? op) (change ((operator? op).getD op)) := by
  unfold withOperator operatorFault?
  cases operator? op <;> rfl

theorem fault_foldl_addNamed {add : String → Draft → Draft}
    (hadd : ∀ c d, (add c d).fault = d.fault) (columns : List String) :
    (columns.foldl (Builder.addNamed add) d).fault
      = d.fault.or (columns.findSome? identifierFault?) := by
  induction columns generalizing d with
  | nil => simp
  | cons c rest ih =>
      have hone : (Builder.addNamed add d c).fault = d.fault.or (identifierFault? c) :=
        fault_guarded d (hadd c d)
      rw [List.foldl_cons, ih, hone, identifierFault?_findSome_cons, Option.or_assoc]

theorem foldl_addNamed_of_none (add : String → Draft → Draft) (columns : List String)
    (h : columns.findSome? identifierFault? = none) :
    columns.foldl (Builder.addNamed add) d = columns.foldl (fun d c => add c d) d := by
  induction columns generalizing d with
  | nil => rfl
  | cons c rest ih =>
      rw [identifierFault?_findSome_cons, Option.or_eq_none_iff] at h
      rw [List.foldl_cons, List.foldl_cons, Builder.addNamed, h.1, guarded, ih _ h.2]

theorem addColumn_column (name : String) :
    d.addColumn (.column name) = { d with columns := d.columns ++ [.column name] } := by
  simp [addColumn, SelectColumn.values]

theorem foldl_addColumn (columns : List String) :
    columns.foldl (fun d c => d.addColumn (.column c)) d
      = { d with columns := d.columns ++ columns.map .column } := by
  induction columns generalizing d with
  | nil => simp
  | cons c rest ih =>
      rw [List.foldl_cons, ih, addColumn_column]
      simp

theorem foldl_addGroup (columns : List String) :
    columns.foldl (fun d c => { d with groups := d.groups ++ [c] }) d
      = { d with groups := d.groups ++ columns } := by
  induction columns generalizing d with
  | nil => simp
  | cons c rest ih => simp [ih]

theorem addWheres_eq (wheres : List Where) :
    d.addWheres wheres
      = { d with
          wheres := d.wheres ++ wheres
          buckets := { d.buckets with wheres := d.buckets.wheres ++ wheres.flatMap Where.values } } := by
  induction wheres generalizing d with
  | nil => simp [addWheres]
  | cons w rest ih =>
      rw [addWheres, List.foldl_cons, ← addWheres, ih, addWhere]
      simp

theorem addGroup_eq (k : Connective) (child d : Draft) (members : Filter)
    (h : child.fault = none → child.wheres = members.toWheres d.dialect) :
    Builder.addGroup k child d = d.guarded child.fault fun d =>
      d.addWheres ((Filter.grouped k members).toWheres d.dialect) := by
  unfold Builder.addGroup
  cases hfault : child.fault with
  | some fault => rfl
  | none =>
      rw [h hfault]
      cases members with
      | nil => rfl
      | cons c rest => simp [guarded, Filter.grouped, Filter.toWheres, addWheres]

theorem dropStar_eq : d.dropStar = { d with columns := d.dropStar.columns } := by
  unfold dropStar
  split
  · split <;> rfl
  · rfl

theorem ensureKeyOrder_eq : d.ensureKeyOrder = { d with orders := d.ensureKeyOrder.orders } := by
  unfold ensureKeyOrder
  split <;> rfl

section Fields

variable (wheres : List Where)

@[simp] theorem addWheres_columns : (d.addWheres wheres).columns = d.columns :=
  congrArg (·.columns) (d.addWheres_eq wheres)

@[simp] theorem addWheres_wheres : (d.addWheres wheres).wheres = d.wheres ++ wheres :=
  congrArg (·.wheres) (d.addWheres_eq wheres)

@[simp] theorem addWheres_havings : (d.addWheres wheres).havings = d.havings :=
  congrArg (·.havings) (d.addWheres_eq wheres)

@[simp] theorem addWheres_orders : (d.addWheres wheres).orders = d.orders :=
  congrArg (·.orders) (d.addWheres_eq wheres)

@[simp] theorem addWheres_removedScopes : (d.addWheres wheres).removedScopes = d.removedScopes :=
  congrArg (·.removedScopes) (d.addWheres_eq wheres)

@[simp] theorem addWheres_buckets :
    (d.addWheres wheres).buckets
      = { d.buckets with wheres := d.buckets.wheres ++ wheres.flatMap Where.values } :=
  congrArg (·.buckets) (d.addWheres_eq wheres)

@[simp] theorem dropStar_wheres : d.dropStar.wheres = d.wheres :=
  congrArg (·.wheres) d.dropStar_eq

@[simp] theorem dropStar_havings : d.dropStar.havings = d.havings :=
  congrArg (·.havings) d.dropStar_eq

@[simp] theorem dropStar_orders : d.dropStar.orders = d.orders :=
  congrArg (·.orders) d.dropStar_eq

@[simp] theorem dropStar_removedScopes : d.dropStar.removedScopes = d.removedScopes :=
  congrArg (·.removedScopes) d.dropStar_eq

@[simp] theorem dropStar_buckets : d.dropStar.buckets = d.buckets :=
  congrArg (·.buckets) d.dropStar_eq

@[simp] theorem ensureKeyOrder_columns : d.ensureKeyOrder.columns = d.columns :=
  congrArg (·.columns) d.ensureKeyOrder_eq

@[simp] theorem ensureKeyOrder_wheres : d.ensureKeyOrder.wheres = d.wheres :=
  congrArg (·.wheres) d.ensureKeyOrder_eq

@[simp] theorem ensureKeyOrder_havings : d.ensureKeyOrder.havings = d.havings :=
  congrArg (·.havings) d.ensureKeyOrder_eq

@[simp] theorem ensureKeyOrder_removedScopes :
    d.ensureKeyOrder.removedScopes = d.removedScopes :=
  congrArg (·.removedScopes) d.ensureKeyOrder_eq

@[simp] theorem ensureKeyOrder_buckets : d.ensureKeyOrder.buckets = d.buckets :=
  congrArg (·.buckets) d.ensureKeyOrder_eq

end Fields

end Draft

/-! ## Steps -/

/-- What a call does on a builder: it leaves its fault behind, unless there is one already, and it has
    its effect if it has no fault. -/
structure Call.Steps (call : Call) (b : Builder) : Prop where
  fault : (call.run b).draft.fault = b.draft.fault.or call.fault?
  effect : call.fault? = none → call.run b = call.effect b

theorem runCalls_of_steps (calls : List Call) (h : ∀ call ∈ calls, ∀ b, call.Steps b) (b : Builder) :
    (runCalls b calls).draft.fault = b.draft.fault.or (faultOf? calls)
      ∧ (faultOf? calls = none → runCalls b calls = calls.foldl Call.effect b) := by
  induction calls generalizing b with
  | nil => simp [runCalls, faultOf?]
  | cons call rest ih =>
      have hfirst := h call (List.mem_cons_self ..) b
      obtain ⟨hfault, heffect⟩ :=
        ih (fun c hc => h c (List.mem_cons_of_mem _ hc)) (call.run b)
      rw [runCalls, faultOf?]
      constructor
      · rw [hfault, hfirst.fault, Option.or_assoc]
      · intro hnone
        rw [Option.or_eq_none_iff] at hnone
        rw [heffect hnone.2, hfirst.effect hnone.1, List.foldl_cons]

/-- What no call changes on a draft, apart from its fault. -/
structure Draft.SameFrame (d d' : Draft) : Prop where
  dialect : d'.dialect = d.dialect
  table : d'.table = d.table
  fault : d'.fault = d.fault
  scopesApplied : d'.scopesApplied = d.scopesApplied
  lateScopes : d'.lateScopes = d.lateScopes

namespace Draft.SameFrame

theorem refl (d : Draft) : d.SameFrame d := ⟨rfl, rfl, rfl, rfl, rfl⟩

theorem trans {d₁ d₂ d₃ : Draft} (h : d₁.SameFrame d₂) (h' : d₂.SameFrame d₃) :
    d₁.SameFrame d₃ :=
  ⟨h'.dialect.trans h.dialect, h'.table.trans h.table, h'.fault.trans h.fault,
    h'.scopesApplied.trans h.scopesApplied, h'.lateScopes.trans h.lateScopes⟩

theorem dropStar (d : Draft) : d.SameFrame d.dropStar := by
  rw [dropStar_eq]
  exact ⟨rfl, rfl, rfl, rfl, rfl⟩

theorem ensureKeyOrder (d : Draft) : d.SameFrame d.ensureKeyOrder := by
  rw [ensureKeyOrder_eq]
  exact ⟨rfl, rfl, rfl, rfl, rfl⟩

theorem addWheres (d : Draft) (wheres : List Where) : d.SameFrame (d.addWheres wheres) := by
  rw [addWheres_eq]
  exact ⟨rfl, rfl, rfl, rfl, rfl⟩

end Draft.SameFrame

namespace Call

theorem effect_sameFrame (call : Call) (b : Builder) : b.draft.SameFrame (call.effect b).draft := by
  cases call with
  | addSelect | selectRaw =>
      exact (Draft.SameFrame.dropStar b.draft).trans ⟨rfl, rfl, rfl, rfl, rfl⟩
  | paginate page =>
      have hkey := Draft.SameFrame.ensureKeyOrder
        { b.draft with limit := some page.size, offset := some page.offset }
      exact ⟨hkey.dialect, hkey.table, hkey.fault, hkey.scopesApplied, hkey.lateScopes⟩
  | compare | whereGroup | oneOf | isNull | between | whereRaw | compareColumns =>
      exact Draft.SameFrame.addWheres b.draft _
  | _ => exact ⟨rfl, rfl, rfl, rfl, rfl⟩

/-- A call adds its conditions to those collected so far. -/
theorem effect_wheres (call : Call) (b : Builder) :
    (call.effect b).draft.wheres = b.draft.wheres ++ call.clauses.toWheres b.draft.dialect := by
  cases call with
  | compare | whereGroup | oneOf | isNull | between | whereRaw | compareColumns =>
      exact Draft.addWheres_wheres b.draft _
  | addSelect | selectRaw | paginate =>
      simp [effect, clauses, Builder.modify, Builder.paginate, Draft.addColumn]
  | _ => exact (List.append_nil _).symm

theorem foldl_effect_sameFrame (calls : List Call) (b : Builder) :
    b.draft.SameFrame (calls.foldl effect b).draft := by
  induction calls generalizing b with
  | nil => exact .refl b.draft
  | cons call rest ih => exact (effect_sameFrame call b).trans (ih (call.effect b))

theorem foldl_effect_wheres (calls : List Call) (b : Builder) :
    (calls.foldl effect b).draft.wheres
      = b.draft.wheres ++ (clausesOf calls).toWheres b.draft.dialect := by
  induction calls generalizing b with
  | nil => simp [clausesOf]
  | cons call rest ih =>
      rw [List.foldl_cons, ih, effect_wheres, (effect_sameFrame call b).dialect, clausesOf,
        Filter.toWheres_append, List.append_assoc]

namespace Steps

variable {call : Call} {b : Builder}

/-- A call without fault of its own that keeps the fault of the draft. -/
theorem of_effect (hrun : call.run b = call.effect b) (hfault : call.fault? = none) :
    call.Steps b := by
  constructor
  · rw [hrun, (effect_sameFrame call b).fault, hfault, Option.or_none]
  · intro _
    exact hrun

/-- A call that makes its change unless it has a fault. -/
theorem of_guarded {change : Draft → Draft}
    (hrun : call.run b = b.modify fun d => d.guarded call.fault? change)
    (heffect : b.modify change = call.effect b) : call.Steps b := by
  constructor
  · -- the change is the effect, and no effect touches the fault
    have hkeep : (change b.draft).fault = b.draft.fault := by
      have h := (effect_sameFrame call b).fault
      rwa [← heffect] at h
    rw [hrun]
    exact Draft.fault_guarded b.draft hkeep
  · intro hnone
    rw [hrun, hnone]
    exact heffect

end Steps

theorem steps_select (columns : List String) (b : Builder) : (select columns).Steps b := by
  have hadd : ∀ (c : String) (d : Draft), (d.addColumn (.column c)).fault = d.fault := fun _ _ => rfl
  constructor
  · -- the star that stands in for an empty list changes no fault
    simp only [run, Builder.select, Builder.modify]
    split
    · exact Draft.fault_foldl_addNamed _ hadd columns
    · exact Draft.fault_foldl_addNamed _ hadd columns
  · intro h
    simp only [run, Builder.select, effect, Builder.modify, Draft.selectOnly]
    rw [Draft.foldl_addNamed_of_none _ _ columns h, Draft.foldl_addColumn]
    cases columns with
    | nil => rfl
    | cons c rest => rfl

theorem steps_groupBy (columns : List String) (b : Builder) : (groupBy columns).Steps b := by
  constructor
  · have hadd : ∀ (c : String) (d : Draft), { d with groups := d.groups ++ [c] }.fault = d.fault :=
      fun _ _ => rfl
    exact Draft.fault_foldl_addNamed b.draft hadd columns
  · intro h
    simp only [run, Builder.groupBy, effect, Builder.modify]
    rw [Draft.foldl_addNamed_of_none _ _ columns h, Draft.foldl_addGroup]

theorem steps_whereGroup (k : Connective) (body : List Call) (b : Builder)
    (ih : ∀ call ∈ body, ∀ b, call.Steps b) : (whereGroup k body).Steps b := by
  -- the body runs on a builder of its own, of which the conditions and the fault are taken
  obtain ⟨hfault, heffect⟩ := runCalls_of_steps body ih (Builder.new b.draft.dialect b.draft.table)
  have hwheres := foldl_effect_wheres body (Builder.new b.draft.dialect b.draft.table)
  have hgroup := Draft.addGroup_eq k
    (runCalls (Builder.new b.draft.dialect b.draft.table) body).draft b.draft (clausesOf body)
    (fun hnone => by rw [heffect (hfault.symm.trans hnone), hwheres]; rfl)
  rw [hfault] at hgroup
  apply Steps.of_guarded
  · exact congrArg (fun d => { b with draft := d }) hgroup
  · rfl

theorem steps (call : Call) (b : Builder) : call.Steps b := by
  induction call using Call.body_induction generalizing b with
  | step call ih =>
      cases call with
      | select columns => exact steps_select columns b
      | groupBy columns => exact steps_groupBy columns b
      | whereGroup k body => exact steps_whereGroup k body b ih
      | compare | compareColumns | having | join =>
        -- checks that are made one inside of the other are one check
        apply Steps.of_guarded
        · simp only [run, Builder.compare, Builder.compareColumns, Builder.having, Builder.join,
            Draft.withOperator_eq, Draft.guarded_guarded]
          rfl
        · rfl
      | addSelect | selectRaw | oneOf | isNull | between | whereRaw | crossJoin | havingRaw
      | orderBy | orderByRaw =>
        exact Steps.of_guarded rfl rfl
      | primaryKey | distinct | limit | offset | lock | scope | withoutScope | withoutScopes
      | paginate =>
        exact Steps.of_effect rfl rfl

end Call

/-! ## Runs -/

theorem runCalls_append (b : Builder) (calls others : List Call) :
    runCalls b (calls ++ others) = runCalls (runCalls b calls) others := by
  induction calls generalizing b with
  | nil => rfl
  | cons call rest ih => exact ih (call.run b)

theorem runCalls_fault (calls : List Call) (b : Builder) :
    (runCalls b calls).draft.fault = b.draft.fault.or (faultOf? calls) :=
  (runCalls_of_steps calls (fun call _ b => call.steps b) b).1

/-- **A run of calls without fault is the run of their effects.** -/
theorem runCalls_eq_effects (calls : List Call) (b : Builder) (h : faultOf? calls = none) :
    runCalls b calls = calls.foldl Call.effect b :=
  (runCalls_of_steps calls (fun call _ b => call.steps b) b).2 h

end QueryKit
