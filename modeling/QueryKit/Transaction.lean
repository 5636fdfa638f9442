import QueryKit.Driver.Basic
set_option autoImplicit false

/-! # Transactions

An action inside a transaction is committed if it succeeds and rolled back if it fails. Its error is
the error of the whole, unless the rollback fails too. -/

namespace QueryKit

/-- The error of an action whose rollback failed. -/
def rollbackFailed (error rollbackError : Error) : Error :=
  .other (error.message ++ " (rollback failed: " ++ rollbackError.message ++ ")")

/-- Runs an action inside a transaction. -/
def transaction {σ α : Type} (driver : Driver σ) (body : Action σ α) : Action σ α := do
  driver.beginTransaction
  match ← body.attempt with
  | .ok a =>
    driver.commit
    return a
  | .error e =>
    match ← driver.rollback.attempt with
    | .ok () => throw e
    | .error r => throw (rollbackFailed e r)

end QueryKit
