import RegionGate.Protocol.Play
import RegionGate.Protocol.Configuration
import RegionGate.Session.Session

open regiongate.session

namespace regiongate.server

/-- The session call that `handleBarrierFrame` ends with. -/
inductive BarrierCall where
  | Advance (phase : BarrierPhase)
  | Input (input : Input)
  | Done
  deriving DecidableEq

/-- `handleBarrierFrame` between reading the phase and its last session call.
Another goroutine may change the session in between. -/
def barrier_call (phase : BarrierPhase) (id : Int) (frame : Bytes) : Except Error BarrierCall :=
  if phase = BarrierAwaitingClientConfigurationStart ∧
      id = play.ServerboundConfigurationAcknowledgedID then
    match play.parse_configuration_acknowledged frame with
    | .error e => .error e
    | .ok _ => .ok (.Advance BarrierClientConfiguration)
  else if phase = BarrierAwaitingClientConfigurationFinish ∧
      id = configuration.ServerboundFinishConfigurationID then
    match configuration.parse_finish_acknowledged frame with
    | .error e => .error e
    | .ok _ => .ok (.Advance BarrierReady)
  else if phase = BarrierAwaitingClientConfigurationFinish ∧
      (id = configuration.ServerboundClientInformationID ∨
        id = configuration.ServerboundPluginMessageID) then
    match configuration.parse_client_setup frame with
    | .error e => .error e
    | .ok _ => .ok .Done
  else if id = play.ServerboundConfigurationAcknowledgedID ∨
      id = configuration.ServerboundFinishConfigurationID then
    .error .PlayMalformed
  else if id = play.ServerboundKeepAliveID then
    match play.parse_keep_alive frame with
    | .error e => .error e
    | .ok keep_alive_id => .ok (.Input { kind := .KeepAlive, keep_alive_id })
  else if id = play.ServerboundPositionID ∨ id = play.ServerboundPositionLookID then
    match play.decode_movement frame with
    | .error e => .error e
    | .ok m =>
      .ok (.Input { kind := .Movement, has_look := m.has_look,
                    position := { x := m.x, y := m.y, z := m.z, yaw := m.yaw, pitch := m.pitch,
                                  on_ground := m.on_ground } })
  else if id = play.ServerboundPlayerCommandID then
    match play.parse_player_command frame with
    | .error e => .error e
    | .ok c =>
      .ok (.Input { kind := .PlayerCommand,
                    command := { entity_id := c.entity_id, action_id := c.action_id, data := c.data } })
  else .ok (.Input { kind := .Unsafe })

/-- The call under the session's lock; one that fails leaves the session as it was. -/
def BarrierCall.perform (s : Session) : BarrierCall → Session × Option Error
  | .Advance phase =>
    match s.advance_barrier phase with
    | .ok s' => (s', none)
    | .error e => (s, some e)
  | .Input input =>
    let (s', _, err) := s.handle_barrier_input input
    (s', err)
  | .Done => (s, none)

/-- The barrier after a session call that succeeded. -/
def BarrierCall.applied (b : BarrierState) : BarrierCall → BarrierState
  | .Advance phase => { b with phase }
  | .Input input => (b.handle input).1
  | .Done => b

/-- A successful call acts on the active barrier alone, and an input that
succeeds was accepted by the barrier. -/
theorem BarrierCall.perform_active {s s' : Session} {b : BarrierState} {call : BarrierCall}
    (hactive : s.active = some b) (h : call.perform s = (s', none)) :
    s'.active = some (call.applied b) ∧ ∀ input, call = .Input input → (b.handle input).2.2 = none := by
  cases call with
  | Advance phase =>
    refine ⟨?_, by simp⟩
    simp only [BarrierCall.perform] at h
    cases hadvance : s.advance_barrier phase with
    | error e => simp [hadvance] at h
    | ok next =>
      obtain ⟨old, hold, _, rfl⟩ := Session.advance_barrier_eq_ok.mp hadvance
      rw [hactive, Option.some.injEq] at hold
      subst hold
      simp only [hadvance, Prod.mk.injEq, and_true] at h
      obtain ⟨hstate, _⟩ := Session.active_eq_some.mp hactive
      rw [← h, Session.active_eq_some]
      exact ⟨hstate, rfl⟩
  | Input input =>
    have hnext := Session.handle_barrier_input_active s input
    simp only [BarrierCall.perform, Session.handle_barrier_input, hactive, Prod.mk.injEq] at h hnext
    obtain ⟨rfl, haccepted⟩ := h
    refine ⟨by simpa [BarrierCall.applied] using hnext, ?_⟩
    intro other hother
    cases hother
    exact haccepted
  | Done =>
    refine ⟨?_, by simp⟩
    simp only [BarrierCall.perform, Prod.mk.injEq, and_true] at h
    rw [← h]
    exact hactive

theorem BarrierCall.perform_state {s s' : Session} {call : BarrierCall} {err : Option Error}
    (h : call.perform s = (s', err)) : s'.state = s.state := by
  cases call with
  | Advance phase =>
    simp only [BarrierCall.perform] at h
    cases hadvance : s.advance_barrier phase with
    | error e =>
      simp only [hadvance, Prod.mk.injEq] at h
      rw [h.1]
    | ok next =>
      obtain ⟨_, _, _, rfl⟩ := Session.advance_barrier_eq_ok.mp hadvance
      simp only [hadvance, Prod.mk.injEq] at h
      rw [← h.1]
  | Input input =>
    simp only [BarrierCall.perform, Session.handle_barrier_input] at h
    cases hactive : s.active <;> simp only [hactive, Prod.mk.injEq] at h <;> rw [← h.1]
  | Done =>
    simp only [BarrierCall.perform, Prod.mk.injEq] at h
    rw [h.1]

/-- Without an active barrier no call can bring one about. -/
theorem BarrierCall.perform_inactive {s s' : Session} {call : BarrierCall} (hactive : s.active = none)
    (h : call.perform s = (s', none)) : s'.active = none := by
  cases call with
  | Advance phase => simp [BarrierCall.perform, Session.advance_barrier, hactive] at h
  | Input input => simp [BarrierCall.perform, Session.handle_barrier_input, hactive] at h
  | Done =>
    simp only [BarrierCall.perform, Prod.mk.injEq, and_true] at h
    rw [← h]
    exact hactive

/-- A call that fails changes neither the barrier's phase nor what it recorded:
it leaves the session as it was. -/
theorem BarrierCall.perform_error {s s' : Session} {call : BarrierCall} {e : Error}
    (h : call.perform s = (s', some e)) : s' = s := by
  cases call with
  | Advance phase =>
    simp only [BarrierCall.perform] at h
    cases hadvance : s.advance_barrier phase with
    | error e => simp_all
    | ok next => simp [hadvance] at h
  | Input input =>
    simp only [BarrierCall.perform, Session.handle_barrier_input] at h
    cases hactive : s.active with
    | none => simp_all
    | some b =>
      obtain ⟨hstate, hbarrier⟩ := Session.active_eq_some.mp hactive
      simp only [hactive, Prod.mk.injEq] at h
      obtain ⟨rfl, hrefused⟩ := h
      rw [BarrierState.handle_refused hrefused, ← hbarrier]
  | Done => simp [BarrierCall.perform] at h

/-- The only phases a client frame asks for are the two that follow a phase in
which the gateway waits for the client. -/
theorem barrier_call_advance {phase target : BarrierPhase} {id : Int} {frame : Bytes}
    (h : barrier_call phase id frame = .ok (.Advance target)) :
    (phase = BarrierAwaitingClientConfigurationStart ∧ target = BarrierClientConfiguration) ∨
      (phase = BarrierAwaitingClientConfigurationFinish ∧ target = BarrierReady) := by
  unfold barrier_call at h
  split at h
  · rename_i hstart
    split at h
    · cases h
    · cases h
      exact .inl ⟨hstart.1, rfl⟩
  · split at h
    · rename_i hfinish
      split at h
      · cases h
      · cases h
        exact .inr ⟨hfinish.1, rfl⟩
    · repeat' split at h
      all_goals cases h

/-- A keepalive frame is handled by its identifier in every phase: it is
refused when malformed and otherwise offered to the barrier. -/
theorem barrier_call_keep_alive (phase : BarrierPhase) (frame : Bytes) :
    barrier_call phase play.ServerboundKeepAliveID frame =
      match play.parse_keep_alive frame with
      | .error e => .error e
      | .ok keep_alive_id => .ok (.Input { kind := .KeepAlive, keep_alive_id }) := by
  simp [barrier_call, play.ServerboundKeepAliveID, play.ServerboundConfigurationAcknowledgedID,
    configuration.ServerboundFinishConfigurationID, configuration.ServerboundClientInformationID,
    configuration.ServerboundPluginMessageID]

end regiongate.server
