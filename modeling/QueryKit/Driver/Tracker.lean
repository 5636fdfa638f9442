import QueryKit.Error
set_option autoImplicit false

/-! # Transaction tracker

Every connection tracks the state of its transactions. At most one is active at a time; once it is
committed or rolled back the next one can begin. -/

namespace QueryKit

/-- The state of the transactions of a connection. -/
inductive TransactionState
  | idle
  | active
  | committed
  | rolledBack
deriving DecidableEq, Repr

namespace TransactionState

/-- A transaction is active. -/
def isActive (s : TransactionState) : Bool :=
  s == .active

/-- The state after a transaction has begun. -/
def begun : TransactionState → Except Error TransactionState
  | .active => .error .transactionAlreadyActive
  | _ => .ok .active

/-- Succeeds while a transaction is active. -/
def ensureActive (s : TransactionState) : Except Error Unit :=
  if s.isActive then .ok () else .error .noActiveTransaction

/-- The state after the active transaction has ended in `outcome`. -/
def ended (outcome : TransactionState) (s : TransactionState) :
    Except Error TransactionState :=
  if s.isActive then .ok outcome else .error .noActiveTransaction

/-- The state after a commit. -/
def commit : TransactionState → Except Error TransactionState := ended .committed

/-- The state after a rollback. -/
def rollback : TransactionState → Except Error TransactionState := ended .rolledBack

/-- The state after a begin that the store did not carry out. -/
def abortBegin (_ : TransactionState) : TransactionState := .idle

end TransactionState

end QueryKit
