import QueryKit.Driver.Basic
import QueryKit.Driver.Tracker
import QueryKit.Value.Key
import QueryKit.Text.Search
set_option autoImplicit false

/-! # Scripted driver

A driver that answers from a script and keeps a log of what it was sent. Each statement is answered
by the first rule whose text occurs in it. Failures of transaction control can be armed; an armed
failure occurs once. -/

namespace QueryKit

/-- What is logged. -/
inductive LogEntry
  | query (s : Statement)
  | execute (s : Statement)
  | began
  | committed
  | rolledBack

/-- How statements are answered. -/
structure ScriptRule where
  /-- The text that the rule answers to. -/
  mark : String
  /-- Answers once only. -/
  once : Bool := false
  error : Option Error := none
  rows : List Row := []
  /-- Keeps the rows only whose value in this column has a key among those of the statement. -/
  keyColumn : Option String := none
  affectedRows : UInt64 := 1
  insertId : Option Value := none

/-- The state of a scripted driver. -/
structure Script where
  rules : List ScriptRule := []
  log : List LogEntry := []
  transactions : TransactionState := .idle
  beginFailure : Option Error := none
  commitFailure : Option Error := none
  rollbackFailure : Option Error := none

namespace Script

/-- Adds an entry to the log. -/
def record (entry : LogEntry) (s : Script) : Script :=
  { s with log := s.log ++ [entry] }

/-- The first rule for a text, and the rules that are left when it has answered. -/
def takeRule (sql : String) : List ScriptRule → Option ScriptRule × List ScriptRule
  | [] => (none, [])
  | rule :: rest =>
    if Text.occurs rule.mark sql then (some rule, if rule.once then rest else rule :: rest)
    else
      let (found, left) := takeRule sql rest
      (found, rule :: left)

/-- The values of a statement, arrays taken apart. -/
def flatValues (values : List Value) : List Value :=
  values.flatMap fun
    | .array items => items
    | v => [v]

/-- The value in a column has a key among those of the values. -/
def isAskedFor (column : String) (values : List Value) (row : Row) : Bool :=
  match (row.get? column).bind Value.key? with
  | some key => (flatValues values).any (·.hasKey key)
  | none => false

/-- The rows with which a rule answers a statement. -/
def answer (rule : ScriptRule) (s : Statement) : List Row :=
  match rule.keyColumn with
  | some column => rule.rows.filter (isAskedFor column s.bindings)
  | none => rule.rows

/-- Logs a statement and takes the rule for it. -/
def send (entry : LogEntry) (sql : String) : Action Script ScriptRule :=
  Action.ofRun fun s =>
    let (found, left) := takeRule sql s.rules
    let rule := found.getD { mark := "" }
    let after := { s with rules := left }.record entry
    match rule.error with
    | some e => (.error e, after)
    | none => (.ok rule, after)

/-- Answers a statement with rows. -/
def query (s : Statement) : Action Script QueryResult := do
  let rule ← send (.query s) s.sql
  return .ofRows (answer rule s)

/-- Answers a statement with the number of rows changed. -/
def execute (s : Statement) : Action Script WriteResult := do
  let rule ← send (.execute s) s.sql
  return { affectedRows := rule.affectedRows, insertId := rule.insertId }

/-- Moves to a state of the transactions and logs it. -/
def moveTo (state : TransactionState) (entry : LogEntry) (s : Script) : Except Error Unit × Script :=
  (.ok (), { s with transactions := state }.record entry)

/-- Begins a transaction. An armed failure leaves the connection idle. -/
def beginTransaction : Action Script Unit :=
  Action.ofRun fun s =>
    match s.transactions.begun with
    | .error e => (.error e, s)
    | .ok state =>
      match s.beginFailure with
      | some e =>
        (.error e, { s with beginFailure := none, transactions := state.abortBegin })
      | none => s.moveTo state .began

/-- Commits the active transaction. An armed failure rolls it back. -/
def commit : Action Script Unit :=
  Action.ofRun fun s =>
    match s.transactions.commit with
    | .error e => (.error e, s)
    | .ok state =>
      match s.commitFailure with
      | some e => (.error e, { s with commitFailure := none, transactions := .rolledBack })
      | none => s.moveTo state .committed

/-- Rolls the active transaction back. An armed failure changes nothing. -/
def rollback : Action Script Unit :=
  Action.ofRun fun s =>
    match s.rollbackFailure with
    | some e => (.error e, { s with rollbackFailure := none })
    | none =>
      match s.transactions.rollback with
      | .error e => (.error e, s)
      | .ok state => s.moveTo state .rolledBack

/-- The driver that answers from a script. -/
def driver (dialect : Dialect) : Driver Script where
  dialect
  query
  execute
  beginTransaction
  commit
  rollback
  inTransaction := fun s => s.transactions.isActive

end Script

end QueryKit
