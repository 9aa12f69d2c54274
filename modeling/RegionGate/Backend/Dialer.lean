import RegionGate.Error

namespace regiongate.backend

/-- `HealthState`, of which `Unknown` is the first. -/
inductive HealthState where
  | Unknown
  | Healthy
  | Unhealthy
  deriving DecidableEq, Repr

/-- The health that the readiness endpoint reports. The time of the last change
is left out. -/
structure HealthSnapshot where
  state : HealthState
  last_error : Option Error
  deriving DecidableEq

/-- The `Dialer` with what the last attempt has told of the backend. -/
structure Dialer where
  address : Bytes
  health : HealthSnapshot
  deriving DecidableEq

namespace Dialer

/-- `healthState.set`. -/
def set (d : Dialer) (state : HealthState) (err : Option Error) : Dialer :=
  if d.health.state = state ∧ d.health.last_error = err then d
  else { d with health := { state, last_error := err } }

/-- `MarkHealthy` records that the backend completed Login and Configuration. -/
def mark_healthy (d : Dialer) : Dialer := d.set .Healthy none

/-- `MarkUnhealthy` records a backend protocol or transport failure. -/
def mark_unhealthy (d : Dialer) (err : Error) : Dialer := d.set .Unhealthy (some err)

@[simp] theorem set_state (d : Dialer) (state : HealthState) (err : Option Error) :
    (d.set state err).health.state = state := by
  unfold set
  split
  · rename_i hsame
    exact hsame.1
  · rfl

end Dialer

end regiongate.backend
