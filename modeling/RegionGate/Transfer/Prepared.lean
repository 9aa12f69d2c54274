import RegionGate.Session.Session

open regiongate.session

namespace regiongate.transfer

/-- A prepared transfer. Its session is passed to each operation, `backend`
names the transport it owns and `done_closed` tells whether its `done`
channel was closed. -/
structure Prepared where
  backend : Option Nat
  packets : List Bytes
  finalized : Bool
  done_closed : Bool
  final_err : Option Error
  deriving DecidableEq

/-- What finalizing does besides changing the prepared transfer and the
session. -/
inductive Effect where
  | DoneClosed
  | BackendClosed (conn : Nat)
  deriving DecidableEq, Repr

namespace Prepared

/-- The transfer that `Prepare` returns, with its backend connection. -/
def new (backend : Nat) (packets : List Bytes) : Prepared where
  backend := some backend
  packets := packets
  finalized := false
  done_closed := false
  final_err := none

/-- The session after a rollback whose error is discarded. -/
def rolledBack (s : Session) : Session :=
  match s.rollback_transfer with
  | .ok s' => s'
  | .error _ => s

/-- The effects of closing the backend transport, when there still is one. -/
def closeBackend (p : Prepared) : List Effect :=
  match p.backend with
  | some conn => [.BackendClosed conn]
  | none => []

/-- The timer branch of the timeout goroutine, one critical section. -/
def timeout (p : Prepared) (s : Session) : Prepared × Session × List Effect :=
  if p.finalized then (p, s, [])
  else
    ({ p with finalized := true, final_err := some .TransferTimedOut, backend := none,
              done_closed := true },
      rolledBack s, p.closeBackend ++ [.DoneClosed])

/-- The checks of `BeginClientConfiguration`, made before and again after the
unlocked write of Start Configuration. -/
def begin_check (p : Prepared) (s : Session) : Except Error Unit :=
  if p.finalized then .error .TransferAlreadyFinalized
  else
    match s.barrier_phase with
    | .error e => .error e
    | .ok phase =>
      if phase ≠ BarrierAwaitingClientConfigurationStart then .error .BarrierNotReady else .ok ()

/-- The checks of `WriteClientConfiguration`, made before and again after the
unlocked writes, with the packets that the first section copies. -/
def write_check (p : Prepared) (s : Session) : Except Error (List Bytes) :=
  if p.finalized then .error .TransferAlreadyFinalized
  else
    match s.barrier_phase with
    | .error e => .error e
    | .ok phase =>
      if phase ≠ BarrierClientConfiguration then .error .BarrierNotReady else .ok p.packets

/-- The last critical section of `WriteClientConfiguration`. -/
def write_finish (p : Prepared) (s : Session) : Except Error Session :=
  match p.write_check s with
  | .error e => .error e
  | .ok _ => s.advance_barrier BarrierAwaitingClientConfigurationFinish

/-- `AcknowledgeClientStart`. -/
def acknowledge_client_start (p : Prepared) (s : Session) : Except Error Session :=
  if p.finalized then .error .TransferAlreadyFinalized
  else s.advance_barrier BarrierClientConfiguration

/-- `AcknowledgeClientConfiguration`. -/
def acknowledge_client_configuration (p : Prepared) (s : Session) : Except Error Session :=
  if p.finalized then .error .TransferAlreadyFinalized
  else s.advance_barrier BarrierReady

/-- A successful release hands out the replay and the backend transport. -/
def release (p : Prepared) (s : Session) :
    Except Error ((Replay × Option Nat) × Prepared × Session × List Effect) :=
  if p.finalized then .error .TransferAlreadyFinalized
  else
    match s.release_transfer with
    | .error e => .error e
    | .ok (replay, s') =>
      .ok ((replay, p.backend), { p with finalized := true, done_closed := true, backend := none },
        s', [.DoneClosed])

/-- A rollback that finds the transfer open finalizes it, whatever the session
answers; the last component is the returned error. -/
def rollback (p : Prepared) (s : Session) : Prepared × Session × List Effect × Option Error :=
  if p.finalized then (p, s, [], some .TransferAlreadyFinalized)
  else
    ({ p with finalized := true, done_closed := true, backend := none }, rolledBack s,
      .DoneClosed :: p.closeBackend,
      match s.rollback_transfer with
      | .ok _ => none
      | .error e => some e)

theorem rolledBack_of_active {s : Session} (h : s.active.isSome) :
    rolledBack s = { state := .LimboPlay, barrier := none } := by
  unfold rolledBack
  have hok := Session.rollback_transfer_eq_ok.mpr ⟨h, rfl⟩
  rw [hok]

/-- A rollback brings no session to the backend. -/
theorem rolledBack_plays {s : Session} (h : (rolledBack s).state = .BackendPlay) : s.state = .BackendPlay := by
  unfold rolledBack at h
  cases hrollback : s.rollback_transfer with
  | error e =>
    rw [hrollback] at h
    exact h
  | ok next =>
    obtain ⟨_, rfl⟩ := Session.rollback_transfer_eq_ok.mp hrollback
    rw [hrollback] at h
    cases h

theorem rollback_plays {p : Prepared} {s : Session} (h : (p.rollback s).2.1.state = .BackendPlay) :
    s.state = .BackendPlay := by
  unfold rollback at h
  split at h
  · exact h
  · exact rolledBack_plays h

theorem timeout_plays {p : Prepared} {s : Session} (h : (p.timeout s).2.1.state = .BackendPlay) :
    s.state = .BackendPlay := by
  unfold timeout at h
  split at h
  · exact h
  · exact rolledBack_plays h

theorem rollback_packets (p : Prepared) (s : Session) : (p.rollback s).1.packets = p.packets := by
  unfold rollback
  split <;> rfl

theorem timeout_packets (p : Prepared) (s : Session) : (p.timeout s).1.packets = p.packets := by
  unfold timeout
  split <;> rfl

theorem begin_check_eq_ok {p : Prepared} {s : Session} :
    p.begin_check s = .ok () ↔
      p.finalized = false ∧ ∃ b, s.active = some b ∧ b.phase = BarrierAwaitingClientConfigurationStart := by
  unfold begin_check Session.barrier_phase
  cases p.finalized with
  | true => simp
  | false =>
    cases s.active with
    | none => simp
    | some b =>
      by_cases hphase : b.phase = BarrierAwaitingClientConfigurationStart <;> simp [hphase]

/-- When `WriteClientConfiguration` goes on, with the packets of the transfer. -/
theorem write_check_eq_ok {p : Prepared} {s : Session} {packets : List Bytes} :
    p.write_check s = .ok packets ↔
      p.finalized = false ∧ packets = p.packets ∧
        ∃ b, s.active = some b ∧ b.phase = BarrierClientConfiguration := by
  unfold write_check Session.barrier_phase
  cases p.finalized with
  | true => simp
  | false =>
    cases s.active with
    | none => simp
    | some b =>
      by_cases hphase : b.phase = BarrierClientConfiguration
      · simp [hphase, eq_comm]
      · simp [hphase]

/-- Finishing the client configuration moves an unfinalized transfer from the
client configuration phase to the next one. -/
theorem write_finish_eq_ok {p : Prepared} {s s' : Session} :
    p.write_finish s = .ok s' ↔
      p.finalized = false ∧ ∃ b, s.active = some b ∧ b.phase = BarrierClientConfiguration ∧
        s' = { s with barrier := some { b with phase := BarrierAwaitingClientConfigurationFinish } } := by
  unfold write_finish
  cases hcheck : p.write_check s with
  | error e =>
    constructor
    · intro h
      cases h
    · rintro ⟨hopen, b, hactive, hphase, _⟩
      rw [write_check_eq_ok.mpr ⟨hopen, rfl, b, hactive, hphase⟩] at hcheck
      cases hcheck
  | ok packets =>
    obtain ⟨hopen, _, b, hactive, hphase⟩ := write_check_eq_ok.mp hcheck
    dsimp only
    rw [Session.advance_barrier_eq_ok]
    constructor
    · rintro ⟨b', hactive', _, rfl⟩
      obtain rfl : b = b' := by rw [hactive] at hactive'; exact Option.some.inj hactive'
      exact ⟨hopen, b, hactive, hphase, rfl⟩
    · rintro ⟨_, b', hactive', hphase', rfl⟩
      exact ⟨b', hactive', by rw [hphase']; rfl, rfl⟩

theorem release_eq_ok {p p' : Prepared} {s s' : Session} {replay : Replay} {conn : Option Nat}
    {effects : List Effect} :
    p.release s = .ok ((replay, conn), p', s', effects) ↔
      p.finalized = false ∧ conn = p.backend ∧ effects = [.DoneClosed] ∧
        p' = { p with finalized := true, done_closed := true, backend := none } ∧
        s.release_transfer = .ok (replay, s') := by
  unfold release
  cases p.finalized with
  | true => simp
  | false =>
    cases hrelease : s.release_transfer with
    | error e => simp
    | ok result =>
      obtain ⟨actual, next⟩ := result
      constructor
      · intro h
        simp only [Bool.false_eq_true, if_false, Except.ok.injEq, Prod.mk.injEq] at h
        obtain ⟨⟨rfl, rfl⟩, rfl, rfl, rfl⟩ := h
        exact ⟨rfl, rfl, rfl, rfl, rfl⟩
      · rintro ⟨_, rfl, rfl, rfl, h⟩
        simp only [Except.ok.injEq, Prod.mk.injEq] at h
        obtain ⟨rfl, rfl⟩ := h
        rfl

end Prepared

end regiongate.transfer
