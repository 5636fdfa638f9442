import QueryKit.Error
import QueryKit.Text.Numeral
set_option autoImplicit false

/-! # Connection pool settings

Settings come from a look-up of named texts. The address of the database is required; the rest have
defaults, and where they are given they must be numbers. -/

namespace QueryKit

/-- The settings of a connection pool. Durations are in milliseconds. -/
structure PoolSettings where
  url : String
  maxSize : UInt64 := 16
  acquireTimeout : UInt64 := 5000
  /-- Statements that take longer than this are reported. -/
  slowThreshold : Option UInt64 := none

namespace PoolSettings

/-- The name of the setting for the address. -/
def urlName : String := "DATABASE_URL"

/-- The name of the setting for the largest number of connections. -/
def maxSizeName : String := "ANYORM_POOL_MAX_SIZE"

/-- The name of the setting for the longest wait for a connection. -/
def acquireTimeoutName : String := "ANYORM_ACQUIRE_TIMEOUT_MS"

/-- The name of the setting for the threshold of slow statements. -/
def slowThresholdName : String := "ANYORM_SLOW_QUERY_MS"

/-- Reads a number, with blanks around it. -/
def number (name value : String) : Except Error UInt64 :=
  match Text.readUInt64? (Text.trim value.toList) with
  | some n => .ok n
  | none => .error (.validation (.setting name value))

/-- The number of a setting, if it is given. -/
def numberOf (lookup : String → Option String) (name : String) : Except Error (Option UInt64) :=
  match lookup name with
  | none => .ok none
  | some value => (number name value).map some

/-- The settings that a look-up gives. -/
def ofLookup (lookup : String → Option String) : Except Error PoolSettings :=
  match (lookup urlName).filter (!Text.isBlankText ·) with
  | none => .error (.connection (urlName ++ " is not set"))
  | some url => do
    let defaults : PoolSettings := { url }
    let maxSize ← numberOf lookup maxSizeName
    let acquireTimeout ← numberOf lookup acquireTimeoutName
    let slowThreshold ← numberOf lookup slowThresholdName
    .ok
      { url
        maxSize := maxSize.getD defaults.maxSize
        acquireTimeout := acquireTimeout.getD defaults.acquireTimeout
        slowThreshold }

end PoolSettings

end QueryKit
