import Mathlib.Data.List.Basic

/-!
# Non-blocking timeouts

`struct nbtimeout`: a deadline on the uptime clock, where deadline zero means
that the timeout is not running.
-/

namespace DectMesh

/-- `struct nbtimeout`. -/
structure NbTimeout where
  deadlineMs : Nat := 0
  durationMs : Nat := 0
  retries : Nat := 0
  maxRetries : Nat := 0
  deriving DecidableEq, Repr

namespace NbTimeout

/-- `nbtimeout_init`; it does not start the timeout. -/
def init (durationMs maxRetries : Nat) : NbTimeout where
  deadlineMs := 0
  durationMs := durationMs
  retries := 1
  maxRetries := maxRetries

/-- `nbtimeout_start`, at uptime `now`. -/
def start (now : Nat) (timeout : NbTimeout) : NbTimeout :=
  { timeout with deadlineMs := now + timeout.durationMs }

/-- `nbtimeout_stop`. -/
def stop (timeout : NbTimeout) : NbTimeout :=
  { timeout with deadlineMs := 0 }

/-- `nbtimeout_expired`, at uptime `now`. -/
def expired (now : Nat) (timeout : NbTimeout) : Bool :=
  timeout.deadlineMs ≠ 0 ∧ timeout.deadlineMs ≤ now

/-- `nbtimeout_is_active`. -/
def isActive (timeout : NbTimeout) : Bool := timeout.deadlineMs ≠ 0

/-- `nbtimeout_reset`. -/
def reset (timeout : NbTimeout) : NbTimeout :=
  { timeout with retries := 0, deadlineMs := 0 }

/-- `nbtimeout_retry`, at uptime `now`; the flag tells that no retry is left.
The counter is a `uint8_t`. -/
def retry (now : Nat) (timeout : NbTimeout) : NbTimeout × Bool :=
  let timeout := { timeout with retries := (timeout.retries + 1) % 256 }
  if timeout.maxRetries < timeout.retries then
    (timeout.stop, true)
  else
    (timeout.start now, false)

/-- A stopped timeout never expires. -/
@[simp]
theorem expired_stop (now : Nat) (timeout : NbTimeout) :
    timeout.stop.expired now = false := by
  simp [expired, stop]

theorem expired_of_deadline_zero
    {now : Nat} {timeout : NbTimeout} (stopped : timeout.deadlineMs = 0) :
    timeout.expired now = false := by
  simp [expired, stopped]

@[simp]
theorem stop_deadlineMs (timeout : NbTimeout) :
    timeout.stop.deadlineMs = 0 := rfl

end NbTimeout

end DectMesh
