import RegionGate.Session.Barrier

open checked

namespace regiongate.session

/-- `State`. -/
inductive State where
  | Handshake
  | Login
  | Configuration
  | LimboPlay
  | TransferBarrier
  | BackendLogin
  | BackendConfiguration
  | BackendPlay
  | Closing
  deriving DecidableEq, Repr

/-- `canTransition`: the table of the states that may follow. -/
def can_transition (source target : State) : Bool :=
  if target = .Closing then source ≠ .Closing
  else
    match source with
    | .Handshake => target = .Login
    | .Login => target = .Configuration
    | .Configuration => target = .LimboPlay
    | .LimboPlay => target = .TransferBarrier
    | .TransferBarrier => target = .BackendLogin ∨ target = .LimboPlay
    | .BackendLogin => target = .BackendConfiguration ∨ target = .LimboPlay
    | .BackendConfiguration => target = .BackendPlay ∨ target = .LimboPlay
    | .BackendPlay => target = .TransferBarrier
    | .Closing => false

/-- `Session`. -/
structure Session where
  state : State
  barrier : Option BarrierState
  deriving DecidableEq

namespace Session

/-- `New`. -/
def new : Session := { state := .Handshake, barrier := none }

/-- `transitionLocked`, and so `Transition`: every method holds the session's
own mutex for all of its body. -/
def transition (s : Session) (target : State) : Except Error Session :=
  if ¬ can_transition s.state target then .error .InvalidTransition
  else .ok { state := target, barrier := if target = .Closing then none else s.barrier }

/-- `BeginTransfer` with a limit for which `newBarrier` can allocate. -/
def begin_transfer (s : Session) (limbo_keep_alive_ids : List Int) (max_pending_commands : Int) :
    Except Error Session :=
  match s.transition .TransferBarrier with
  | .error e => .error e
  | .ok s => .ok { s with barrier := some (new_barrier limbo_keep_alive_ids max_pending_commands) }

/-- `BeginTransfer` with the allocation of `newBarrier`: what it returns, and the
session that it leaves. The state is set before the barrier is made, so a
panic leaves it without one. -/
def begin_transfer_checked (s : Session) (limbo_keep_alive_ids : List Int) (max_pending_commands : Int) :
    Outcome Error Unit × Session :=
  match s.transition .TransferBarrier with
  | .error e => (.Fail e, s)
  | .ok s =>
    match new_barrier_checked limbo_keep_alive_ids max_pending_commands with
    | .Ok barrier => (.Ok (), { s with barrier := some barrier })
    | .Fail e => (.Fail e, s)
    | .Panic => (.Panic, s)

/-- The barrier when the session is in `StateTransferBarrier` and has one. -/
def active (s : Session) : Option BarrierState :=
  if s.state = .TransferBarrier then s.barrier else none

/-- `HandleBarrierInput`. -/
def handle_barrier_input (s : Session) (input : Input) :
    Session × InputDisposition × Option Error :=
  match s.active with
  | none => (s, .Dropped, some .BarrierInactive)
  | some b =>
    let (b, disposition, err) := b.handle input
    ({ s with barrier := some b }, disposition, err)

/-- `BarrierPhase`. -/
def barrier_phase (s : Session) : Except Error BarrierPhase :=
  match s.active with
  | none => .error .BarrierInactive
  | some b => .ok b.phase

/-- `AdvanceBarrier`, to the next phase only. -/
def advance_barrier (s : Session) (phase : BarrierPhase) : Except Error Session :=
  match s.active with
  | none => .error .BarrierInactive
  | some b =>
    if phase ≠ b.phase + 1 then .error .BarrierNotReady
    else .ok { s with barrier := some { b with phase } }

/-- `ReleaseTransfer`: the barrier is ready, and is gone afterwards. -/
def release_transfer (s : Session) : Except Error (Replay × Session) :=
  match s.active with
  | none => .error .BarrierInactive
  | some b =>
    if b.phase ≠ BarrierReady then .error .BarrierNotReady
    else .ok (b.replay, { state := .BackendPlay, barrier := none })

/-- `RollbackTransfer`, from any phase. -/
def rollback_transfer (s : Session) : Except Error Session :=
  match s.active with
  | none => .error .BarrierInactive
  | some _ => .ok { state := .LimboPlay, barrier := none }

theorem active_eq_some {s : Session} {b : BarrierState} :
    s.active = some b ↔ s.state = .TransferBarrier ∧ s.barrier = some b := by
  unfold active
  split <;> simp_all

theorem barrier_phase_eq_ok {s : Session} {phase : BarrierPhase} :
    s.barrier_phase = .ok phase ↔ ∃ b, s.active = some b ∧ b.phase = phase := by
  unfold barrier_phase
  cases s.active <;> simp

/-- The calls of `AdvanceBarrier` that succeed. -/
theorem advance_barrier_eq_ok {s s' : Session} {phase : BarrierPhase} :
    s.advance_barrier phase = .ok s' ↔
      ∃ b, s.active = some b ∧ phase = b.phase + 1 ∧ s' = { s with barrier := some { b with phase } } := by
  unfold advance_barrier
  cases s.active with
  | none => simp
  | some b =>
    by_cases hphase : phase = b.phase + 1
    · simp [hphase, eq_comm]
    · simp [hphase]

/-- A transfer can begin out of the two play states. -/
theorem can_transfer_iff {state : State} :
    can_transition state .TransferBarrier = true ↔ state = .LimboPlay ∨ state = .BackendPlay := by
  cases state <;> decide

/-- A successful transfer start installs a fresh draining barrier. -/
theorem begin_transfer_eq_ok {s s' : Session} {ids : List Int} {limit : Int} :
    s.begin_transfer ids limit = .ok s' ↔
      (s.state = .LimboPlay ∨ s.state = .BackendPlay) ∧
        s' = { state := .TransferBarrier, barrier := some (new_barrier ids limit) } := by
  unfold begin_transfer transition
  cases hstate : s.state <;> simp [can_transition, eq_comm]

/-- `BeginTransfer` with the allocation of `newBarrier`, which panics after the state
has been set. -/
theorem begin_transfer_checked_eq (s : Session) (ids : List Int) (limit : Int) :
    s.begin_transfer_checked ids limit =
      if can_transition s.state .TransferBarrier then
        if storable limit then (.Ok (), { state := .TransferBarrier, barrier := some (new_barrier ids limit) })
        else (.Panic, { s with state := .TransferBarrier })
      else (.Fail .InvalidTransition, s) := by
  unfold begin_transfer_checked transition
  rw [new_barrier_checked_eq]
  cases can_transition s.state .TransferBarrier with
  | false => rfl
  | true => cases storable limit <;> rfl

/-- A call that succeeds is one whose limit can be allocated. -/
theorem begin_transfer_checked_ok {s s' : Session} {ids : List Int} {limit : Int}
    (h : s.begin_transfer_checked ids limit = (.Ok (), s')) : s.begin_transfer ids limit = .ok s' := by
  rw [begin_transfer_checked_eq] at h
  rw [begin_transfer_eq_ok, ← can_transfer_iff]
  cases hpermitted : can_transition s.state .TransferBarrier with
  | false => simp [hpermitted] at h
  | true =>
    cases hlimit : storable limit with
    | false => simp [hpermitted, hlimit] at h
    | true => simpa [hpermitted, hlimit, eq_comm] using h

/-- An error comes from the table of transitions. -/
theorem begin_transfer_checked_fail {s s' : Session} {ids : List Int} {limit : Int} {e : Error}
    (h : s.begin_transfer_checked ids limit = (.Fail e, s')) :
    can_transition s.state .TransferBarrier = false := by
  rw [begin_transfer_checked_eq] at h
  cases hpermitted : can_transition s.state .TransferBarrier with
  | false => rfl
  | true => cases hlimit : storable limit <;> simp [hpermitted, hlimit] at h

/-- The calls of `ReleaseTransfer` that succeed. -/
theorem release_transfer_eq_ok {s s' : Session} {replay : Replay} :
    s.release_transfer = .ok (replay, s') ↔
      ∃ b, s.active = some b ∧ b.phase = BarrierReady ∧ replay = b.replay ∧
        s' = { state := .BackendPlay, barrier := none } := by
  unfold release_transfer
  cases s.active with
  | none => simp
  | some b =>
    by_cases hphase : b.phase = BarrierReady
    · simp [hphase, eq_comm]
    · simp [hphase]

/-- The calls of `RollbackTransfer` that succeed. -/
theorem rollback_transfer_eq_ok {s s' : Session} :
    s.rollback_transfer = .ok s' ↔
      s.active.isSome ∧ s' = { state := .LimboPlay, barrier := none } := by
  unfold rollback_transfer
  cases s.active <;> simp [eq_comm]

/-- Barrier inputs never change the session state or the phase. -/
theorem handle_barrier_input_active (s : Session) (input : Input) :
    (s.handle_barrier_input input).1.active = s.active.map (fun b => (b.handle input).1) := by
  unfold handle_barrier_input
  cases hactive : s.active with
  | none => simpa using hactive
  | some b =>
    obtain ⟨hstate, _⟩ := active_eq_some.mp hactive
    simp [active, hstate]

end Session

end regiongate.session
