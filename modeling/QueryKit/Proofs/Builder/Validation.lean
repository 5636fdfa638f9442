import QueryKit.Proofs.Builder.Snapshot

set_option autoImplicit false

/-! # Calls that are refused

A call checks the operators, the identifiers and the SQL text that it is given (`Call.checks`). Groups
and scopes make calls of their own, so the calls that are made until a query is taken form one list
(`executedCalls`). The query is refused exactly if one of them fails a check, wherever it stands, and the
first check that fails is the one that is reported: no call behind it changes that
(`refused_iff_invalid`). -/

namespace QueryKit

theorem Text.isSome_splitFirst? {part whole : List Char} :
    (Text.splitFirst? part whole).isSome = true ↔ part <:+: whole := by
  induction whole with
  | nil => simp [Text.splitFirst?]
  | cons c rest ih =>
      rw [Text.splitFirst?, List.infix_cons_iff]
      by_cases hprefix : part.isPrefixOf (c :: rest) = true
      · rw [if_pos hprefix]
        exact iff_of_true rfl (.inl (List.isPrefixOf_iff_prefix.1 hprefix))
      · rw [if_neg hprefix, Option.isSome_map, ih]
        exact (or_iff_right fun h => hprefix (List.isPrefixOf_iff_prefix.2 h)).symm

/-! ## Checks -/

/-- What a call checks before it adds a clause. -/
inductive Check
  | operator (text : String)
  | identifier (name : String)
  | markers (sql : String) (values : List Value)

namespace Check

/-- The operator is not on the list, whatever the case of its letters and the blanks around it; the
    identifier is blank, or has a semicolon or a comment mark; the SQL text has more or fewer markers than
    values. -/
def Fails : Check → Prop
  | .operator text => ∀ op ∈ operators, op.toList ≠ (Text.trim text.toList).map Char.toUpper
  | .identifier name =>
    (∀ c ∈ name.toList, Text.isBlank c = true) ∨ [';'] <:+: name.toList ∨ ['-', '-'] <:+: name.toList
  | .markers sql values => Sql.countMarkers sql ≠ values.length

instance : ∀ check : Check, Decidable check.Fails
  | .operator text =>
    inferInstanceAs (Decidable (∀ op ∈ operators, op.toList ≠ (Text.trim text.toList).map Char.toUpper))
  | .identifier name =>
    inferInstanceAs (Decidable ((∀ c ∈ name.toList, Text.isBlank c = true)
      ∨ [';'] <:+: name.toList ∨ ['-', '-'] <:+: name.toList))
  | .markers sql values => inferInstanceAs (Decidable (Sql.countMarkers sql ≠ values.length))

/-- What is reported of the check if it fails. -/
def fault : Check → Fault
  | .operator text => .operator text
  | .identifier name => .identifier name
  | .markers sql values => .markerCount (Sql.countMarkers sql) values.length sql

/-- What the check leaves behind. -/
def fault? : Check → Option Fault
  | .operator text => operatorFault? text
  | .identifier name => identifierFault? name
  | .markers sql values => markerFault? sql values

theorem operatorFault?_eq (text : String) :
    operatorFault? text = if (operator text).Fails then some (.operator text) else none := by
  have hlisted : (operator? text).isSome = true ↔ ¬(operator text).Fails := by
    simp only [operator?, List.find?_isSome, Fails, not_forall, not_not, beq_iff_eq,
      ← String.toList_inj, String.toList_ofList, exists_prop]
  unfold operatorFault?
  split
  · next h =>
    rw [if_neg (hlisted.1 (by rw [h]; rfl))]
  · next h =>
    rw [if_pos (not_not.1 fun hfails => ?_)]
    rw [← hlisted, h] at hfails
    cases hfails

theorem identifierFault?_eq (name : String) :
    identifierFault? name = if (identifier name).Fails then some (.identifier name) else none := by
  have hfails : (Text.isBlankText name || Text.occurs ";" name || Text.occurs "--" name) = true
      ↔ (identifier name).Fails := by
    simp only [Bool.or_eq_true, Text.isBlankText, List.all_eq_true, Text.occurs,
      Text.isSome_splitFirst?, Fails, or_assoc]
    rfl
  rw [identifierFault?]
  by_cases h : (identifier name).Fails
  · rw [if_pos h, if_pos (hfails.2 h)]
  · rw [if_neg h, if_neg fun h' => h (hfails.1 h')]

theorem fault?_eq (check : Check) :
    check.fault? = if check.Fails then some check.fault else none := by
  cases check with
  | operator text => exact operatorFault?_eq text
  | identifier name => exact identifierFault?_eq name
  | markers sql values =>
      simp only [fault?, markerFault?, Fails, fault, ne_eq]
      split <;> simp_all

theorem fault?_eq_none_iff {check : Check} : check.fault? = none ↔ ¬check.Fails := by
  rw [fault?_eq]
  simp

theorem fault?_eq_some_iff {check : Check} {fault : Fault} :
    check.fault? = some fault ↔ check.Fails ∧ fault = check.fault := by
  rw [fault?_eq]
  by_cases h : check.Fails <;> simp [h, eq_comm]

theorem findSome?_fault?_cons (check : Check) (rest : List Check) :
    (check :: rest).findSome? fault? = check.fault?.or (rest.findSome? fault?) := by
  rw [List.findSome?_cons]
  cases check.fault? <;> rfl

end Check

/-! ## Calls -/

/-- The checks that a call makes, in their order. A check that fails ends a call, but for the columns of a
    list, which are checked one by one. -/
def Call.checks : Call → List Check
  | .select columns => columns.map .identifier
  | .addSelect column => [.identifier column]
  | .selectRaw sql values => [.markers sql values]
  | .compare _ column op _ => [.operator op, .identifier column]
  | .oneOf _ column _ _ => [.identifier column]
  | .isNull _ column _ => [.identifier column]
  | .between _ column _ _ _ => [.identifier column]
  | .whereRaw _ sql values => [.markers sql values]
  | .compareColumns _ left op right => [.operator op, .identifier left, .identifier right]
  | .join _ table first op second =>
    [.identifier table, .operator op, .identifier first, .identifier second]
  | .crossJoin table => [.identifier table]
  | .groupBy columns => columns.map .identifier
  | .having _ column op _ => [.operator op, .identifier column]
  | .havingRaw sql values => [.markers sql values]
  | .orderBy column _ => [.identifier column]
  | .orderByRaw sql values => [.markers sql values]
  | _ => []

/-- The call fails one of its checks. -/
def Call.Invalid (call : Call) : Prop :=
  ∃ check ∈ call.checks, check.Fails

instance (call : Call) : Decidable call.Invalid :=
  inferInstanceAs (Decidable (∃ check ∈ call.checks, check.Fails))

/-- The check is the first of the call that fails. -/
def Call.FailsFirst (call : Call) (check : Check) : Prop :=
  ∃ passed rest, call.checks = passed ++ check :: rest ∧ (∀ c ∈ passed, ¬c.Fails) ∧ check.Fails

mutual

/-- A call with those that it makes at once, which are those in the body of a group. The body of a scope
    waits until the scope is applied. -/
def Call.made : Call → List Call
  | .whereGroup k body => .whereGroup k body :: callsMade body
  | call => [call]

/-- Calls with those that they make at once. -/
def callsMade : List Call → List Call
  | [] => []
  | call :: rest => call.made ++ callsMade rest

end

/-- All calls that are made until the query is taken: calls in their order, with the bodies of groups in
    their places, and behind them those in the bodies of the scopes that are applied. -/
def executedCalls (calls : List Call) : List Call :=
  callsMade (appliedCalls calls)

/-- The fault of the first check of a call that fails. -/
def Call.checkFault? (call : Call) : Option Fault :=
  call.checks.findSome? Check.fault?

theorem faultOf?_eq_findSome (calls : List Call)
    (h : ∀ call ∈ calls, call.fault? = call.made.findSome? Call.checkFault?) :
    faultOf? calls = (callsMade calls).findSome? Call.checkFault? := by
  induction calls with
  | nil => rfl
  | cons call rest ih =>
      rw [faultOf?, callsMade, List.findSome?_append, h call (List.mem_cons_self ..),
        ih fun c hc => h c (List.mem_cons_of_mem _ hc)]

namespace Call

theorem checkFault?_eq_none_iff {call : Call} : call.checkFault? = none ↔ ¬call.Invalid := by
  rw [checkFault?, List.findSome?_eq_none_iff, Invalid, not_exists]
  simp only [Check.fault?_eq_none_iff, not_and]

theorem checkFault?_eq_some_iff {call : Call} {fault : Fault} :
    call.checkFault? = some fault ↔ ∃ check, call.FailsFirst check ∧ fault = check.fault := by
  rw [checkFault?, List.findSome?_eq_some_iff]
  constructor
  · rintro ⟨passed, check, rest, hchecks, hfault, hpassed⟩
    rw [Check.fault?_eq_some_iff] at hfault
    refine ⟨check, ⟨passed, rest, hchecks, fun c hc => ?_, hfault.1⟩, hfault.2⟩
    exact Check.fault?_eq_none_iff.1 (hpassed c hc)
  · rintro ⟨check, ⟨passed, rest, hchecks, hpassed, hfails⟩, hfault⟩
    refine ⟨passed, check, rest, hchecks, Check.fault?_eq_some_iff.2 ⟨hfails, hfault⟩, fun c hc => ?_⟩
    exact Check.fault?_eq_none_iff.2 (hpassed c hc)

theorem findSome?_checkFault?_singleton (call : Call) :
    [call].findSome? checkFault? = call.checkFault? := by
  rw [List.findSome?_cons]
  cases call.checkFault? <;> rfl

/-- The fault of a call is that of the first check that fails, of the call or of those that it makes at
    once. -/
theorem fault?_eq_findSome (call : Call) :
    call.fault? = call.made.findSome? checkFault? := by
  induction call using Call.body_induction with
  | step call ih =>
      cases call with
      | whereGroup k body =>
          rw [fault?, faultOf?_eq_findSome body ih, made]
          rfl
      | select columns | groupBy columns =>
          refine Eq.trans ?_ (findSome?_checkFault?_singleton _).symm
          simp only [fault?, checkFault?, checks, List.findSome?_map]
          rfl
      | _ =>
          refine Eq.trans ?_ (findSome?_checkFault?_singleton _).symm
          simp only [fault?, checkFault?, checks, Check.findSome?_fault?_cons, List.findSome?_nil,
            Option.or_none, Check.fault?]

end Call

/-- The fault of calls is that of the first one that fails a check. -/
theorem faultOf?_eq_checkFault (calls : List Call) :
    faultOf? calls = (callsMade calls).findSome? Call.checkFault? :=
  faultOf?_eq_findSome calls fun call _ => call.fault?_eq_findSome

/-! ## Queries that are refused -/

section Query

variable {d : Dialect} {table : String} {calls : List Call} {e : Error}

theorem toQuery_eq_error_iff :
    (runCalls (Builder.new d table) calls).toQuery = .error e
      ↔ ∃ fault, (executedCalls calls).findSome? Call.checkFault? = some fault
          ∧ e = .validation fault := by
  rw [toQuery_runCalls, executedCalls, ← faultOf?_eq_checkFault]
  cases faultOf? (appliedCalls calls) with
  | none => simp
  | some fault => simp [eq_comm]

/-- What is reported is the first check that fails, of the first call that fails one. -/
theorem toQuery_eq_error_iff_first :
    (runCalls (Builder.new d table) calls).toQuery = .error e
      ↔ ∃ before call after check, executedCalls calls = before ++ call :: after
          ∧ (∀ c ∈ before, ¬c.Invalid) ∧ call.FailsFirst check ∧ e = .validation check.fault := by
  simp only [toQuery_eq_error_iff, List.findSome?_eq_some_iff, Call.checkFault?_eq_some_iff,
    Call.checkFault?_eq_none_iff]
  constructor
  · rintro ⟨_, ⟨before, call, after, hsplit, ⟨check, hfirst, rfl⟩, hbefore⟩, he⟩
    exact ⟨before, call, after, check, hsplit, hbefore, hfirst, he⟩
  · rintro ⟨before, call, after, check, hsplit, hbefore, hfirst, he⟩
    exact ⟨check.fault, ⟨before, call, after, hsplit, ⟨check, hfirst, rfl⟩, hbefore⟩, he⟩

theorem exists_toQuery_eq_error_iff :
    (∃ e, (runCalls (Builder.new d table) calls).toQuery = .error e)
      ↔ ∃ call ∈ executedCalls calls, call.Invalid := by
  simp only [toQuery_eq_error_iff]
  have hsome : (∃ call ∈ executedCalls calls, call.Invalid)
      ↔ (executedCalls calls).findSome? Call.checkFault? ≠ none := by
    simp only [ne_eq, List.findSome?_eq_none_iff, Call.checkFault?_eq_none_iff, not_forall, not_not,
      exists_prop]
  rw [hsome, Option.ne_none_iff_exists']
  constructor
  · rintro ⟨_, fault, hfault, -⟩
    exact ⟨fault, hfault⟩
  · rintro ⟨fault, hfault⟩
    exact ⟨_, fault, hfault, rfl⟩

/-- No call takes back the fault of one before it. -/
theorem toQuery_append_of_invalid (h : ∃ call ∈ callsMade calls, call.Invalid) (more : List Call) :
    (runCalls (Builder.new d table) (calls ++ more)).toQuery
      = (runCalls (Builder.new d table) calls).toQuery := by
  obtain ⟨fault, hfault⟩ : ∃ fault, faultOf? calls = some fault := by
    rw [← Option.ne_none_iff_exists', faultOf?_eq_checkFault, ne_eq, List.findSome?_eq_none_iff]
    obtain ⟨call, hcall, hinvalid⟩ := h
    exact fun hnone => Call.checkFault?_eq_none_iff.1 (hnone call hcall) hinvalid
  have happlied : ∀ others, faultOf? (calls ++ others) = some fault := by
    intro others
    rw [faultOf?_append, hfault, Option.some_or]
  rw [toQuery_runCalls, toQuery_runCalls, appliedCalls, appliedCalls, List.append_assoc, happlied,
    happlied]

/-- **A query is refused exactly if one of the calls that are made is invalid**, on the builder itself, in
    a group of any depth, or in a scope that is applied. The first check that the first invalid call
    fails is reported, and no call behind an invalid one makes a difference. -/
theorem refused_iff_invalid (d : Dialect) (table : String) (calls : List Call) :
    ((∃ e, (runCalls (Builder.new d table) calls).toQuery = .error e)
        ↔ ∃ call ∈ executedCalls calls, call.Invalid)
      ∧ (∀ e, (runCalls (Builder.new d table) calls).toQuery = .error e
          ↔ ∃ before call after check, executedCalls calls = before ++ call :: after
              ∧ (∀ c ∈ before, ¬c.Invalid) ∧ call.FailsFirst check ∧ e = .validation check.fault)
      ∧ ((∃ call ∈ callsMade calls, call.Invalid) → ∀ more,
          (runCalls (Builder.new d table) (calls ++ more)).toQuery
            = (runCalls (Builder.new d table) calls).toQuery) :=
  ⟨exists_toQuery_eq_error_iff, fun _ => toQuery_eq_error_iff_first, toQuery_append_of_invalid⟩

/-- A comparison deep in a group, with an operator that is not on the list and a blank column. A scope and
    a select list behind it are invalid too, and clearing the select list does not help. -/
theorem refused_iff_invalid_group :
    ∃ calls : List Call,
      calls =
        [.scope "visible" [.crossJoin "a;b"],
          .whereGroup .or [.isNull .and "a" false, .whereGroup .and [.compare .and " " "~" (.int 1)]],
          .addSelect "b--c"]
      ∧ (∃ call ∈ callsMade calls, call.Invalid)
      ∧ (runCalls (Builder.new .postgres "t") calls).toQuery = .error (.validation (.operator "~"))
      ∧ (runCalls (Builder.new .postgres "t") (calls ++ [.select ["id"]])).toQuery
          = .error (.validation (.operator "~")) := by
  let inner : Call := .compare .and " " "~" (.int 1)
  let group : Call := .whereGroup .or [.isNull .and "a" false, .whereGroup .and [inner]]
  let calls : List Call := [.scope "visible" [.crossJoin "a;b"], group, .addSelect "b--c"]
  obtain ⟨-, hfirst, hlatched⟩ := refused_iff_invalid .postgres "t" calls
  have hinner : inner.FailsFirst (.operator "~") := ⟨[], _, rfl, by decide, by decide⟩
  have hbefore : ∀ c ∈ [group, .isNull .and "a" false, .whereGroup .and [inner]], ¬c.Invalid := by
    simp only [List.forall_mem_cons, List.not_mem_nil, false_implies, implies_true, and_true,
      ← Call.checkFault?_eq_none_iff]
    exact ⟨rfl, rfl, rfl⟩
  have herror := (hfirst (.validation (.operator "~"))).2
    ⟨.scope "visible" [.crossJoin "a;b"] :: [group, .isNull .and "a" false, .whereGroup .and [inner]],
      inner, _, _, rfl, List.forall_mem_cons.2 ⟨by decide, hbefore⟩, hinner, rfl⟩
  have hmade : ∃ call ∈ callsMade calls, call.Invalid := by
    refine ⟨inner, ?_, .operator "~", List.mem_cons_self .., by decide⟩
    simp [calls, group, callsMade, Call.made]
  exact ⟨calls, rfl, hmade, herror, (hlatched hmade [.select ["id"]]).trans herror⟩

end Query

end QueryKit
