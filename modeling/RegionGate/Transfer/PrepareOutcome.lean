import RegionGate.Transfer.Prepare

open checked execution regiongate.session regiongate.server regiongate.backend

namespace regiongate.transfer

/-- The session is in `StateTransferBarrier`, in the given phase. -/
def InPhase (session : Session) (phase : BarrierPhase) : Prop :=
  ∃ b, session.active = some b ∧ b.phase = phase

/-- The session at each point of a `Prepare` that found it as `before`. -/
def PreparePoint.SessionAt (before session : Session) : PreparePoint → Prop
  | .Start => session = before
  | .Failed _ => session = Preparing.limbo
  | .Begun => InPhase session BarrierDraining
  | .Dialing | .Connecting | .WritingHandshake | .WritingLoginStart | .LoggingIn _ | .LoggedIn =>
    InPhase session BarrierBackendLogin
  | .Configuring _ | .Configured _ => InPhase session BarrierBackendConfiguration
  | .Closing _ | .RollingBack _ => session.active.isSome
  | .Returned p => p.finalized = false → session.active.isSome

/-- The transports that are open at each point of `Prepare`. -/
def PreparePoint.ConnsAt (open_conns : List Nat) (backend_conn : Option Nat) : PreparePoint → Prop
  | .Start | .Begun | .Dialing | .Connecting | .RollingBack _ | .Failed _ => open_conns = []
  | .WritingHandshake | .WritingLoginStart | .LoggingIn _ | .LoggedIn | .Configuring _
  | .Configured _ | .Closing _ => ∃ conn, backend_conn = some conn ∧ open_conns = [conn]
  | .Returned p => p.finalized = false → ∃ conn, p.backend = some conn ∧ open_conns = [conn]

namespace Preparing

/-- A client frame that is being handled asks for a phase that only follows a
phase in which the gateway waits for the client. -/
def HandlingWaits (s : Preparing) : Prop :=
  ∀ target frame, s.handling = some (.Advance target, frame) →
    target = BarrierClientConfiguration ∨ target = BarrierReady

/-- What holds along a call of a configured coordinator. -/
structure Invariant (before : Session) (s : Preparing) : Prop where
  session : s.point.SessionAt before s.session
  conns : s.point.ConnsAt s.open_conns s.backend_conn
  handling : s.HandlingWaits

theorem start_invariant (before : Session) (dialer : Dialer) : (start before dialer).Invariant before :=
  ⟨rfl, rfl, fun _ _ h => by cases h⟩

/-- What holds along a call of a coordinator that is not configured: it does
nothing but return its error. -/
structure Untouched (before : Session) (dialer : Dialer) (s : Preparing) : Prop where
  point : s.point = .Start ∨ ∃ e, s.point = .Failed e
  session : s.session = before
  dialer : s.dialer = dialer
  conns : s.open_conns = []
  handling : s.handling = none

theorem start_untouched (before : Session) (dialer : Dialer) :
    (start before dialer).Untouched before dialer :=
  ⟨.inl rfl, rfl, rfl, rfl, rfl⟩

end Preparing

theorem InPhase.isSome {session : Session} {phase : BarrierPhase} (h : InPhase session phase) :
    session.active.isSome := by
  obtain ⟨b, hactive, _⟩ := h
  rw [hactive]
  rfl

/-- Advancing to the phase that follows succeeds. -/
theorem InPhase.advance {session : Session} {phase next : BarrierPhase} (h : InPhase session phase)
    (hnext : next = phase + 1) :
    ∃ session', session.advance_barrier next = .ok session' ∧ InPhase session' next := by
  obtain ⟨b, hactive, rfl⟩ := h
  refine ⟨_, Session.advance_barrier_eq_ok.mpr ⟨b, hactive, hnext, rfl⟩, { b with phase := next }, ?_, rfl⟩
  obtain ⟨hstate, _⟩ := Session.active_eq_some.mp hactive
  exact Session.active_eq_some.mpr ⟨hstate, rfl⟩

/-- A client call keeps a barrier active, and its phase unless it advances to
the next one. -/
theorem perform_in_phase {session : Session} {phase : BarrierPhase} {call : BarrierCall}
    (h : InPhase session phase) (hcall : ∀ target, call = .Advance target → target ≠ phase + 1) :
    InPhase (call.perform session).1 phase := by
  cases hperform : call.perform session with
  | mk session' err =>
    cases err with
    | some e =>
      rw [BarrierCall.perform_error hperform]
      exact h
    | none =>
      obtain ⟨b, hactive, rfl⟩ := h
      refine ⟨call.applied b, (BarrierCall.perform_active hactive hperform).1, ?_⟩
      cases call with
      | Advance target =>
        -- an advance that succeeds is one to the next phase
        simp only [BarrierCall.perform] at hperform
        cases hadvance : session.advance_barrier target with
        | error e => simp [hadvance] at hperform
        | ok next =>
          obtain ⟨old, hold, htarget, _⟩ := Session.advance_barrier_eq_ok.mp hadvance
          obtain rfl : b = old := by rw [hactive] at hold; exact Option.some.inj hold
          exact absurd htarget (hcall target rfl)
      | Input input => exact BarrierState.handle_phase b input
      | Done => rfl

theorem perform_isSome {session : Session} {call : BarrierCall} (h : session.active.isSome) :
    (call.perform session).1.active.isSome := by
  obtain ⟨b, hactive⟩ := Option.isSome_iff_exists.mp h
  cases hperform : call.perform session with
  | mk session' err =>
    cases err with
    | some e =>
      rw [BarrierCall.perform_error hperform]
      exact h
    | none =>
      rw [(BarrierCall.perform_active hactive hperform).1]
      rfl

/-- A session in `StateLimboPlay` has no active barrier, whatever it holds. -/
theorem active_limbo {session : Session} (h : session.state = .LimboPlay) : session.active = none := by
  simp [Session.active, h]

/-- In limbo a client call has no effect. -/
theorem perform_limbo {session : Session} (h : session.state = .LimboPlay) (call : BarrierCall) :
    (call.perform session).1 = session := by
  cases call with
  | Advance phase => simp [BarrierCall.perform, Session.advance_barrier, active_limbo h]
  | Input input => simp [BarrierCall.perform, Session.handle_barrier_input, active_limbo h]
  | Done => rfl

section Step

variable {player : Player} {before : Session} {s s' : Preparing}

open Preparing

/-- Client calls keep the session that a point of `Prepare` relies on: the
phases up to the backend configuration are not the client's to leave. -/
theorem PreparePoint.SessionAt.perform {session : Session} {call : BarrierCall} {point : PreparePoint}
    (hlimbo : before.state = .LimboPlay) (h : point.SessionAt before session)
    (hcall : ∀ target, call = .Advance target →
      target = BarrierClientConfiguration ∨ target = BarrierReady) :
    point.SessionAt before (call.perform session).1 := by
  have hearly : ∀ phase : BarrierPhase, BarrierClientConfiguration ≠ phase + 1 →
      BarrierReady ≠ phase + 1 → InPhase session phase → InPhase (call.perform session).1 phase := by
    intro phase hconfiguration hready hphase
    refine perform_in_phase hphase fun target htarget => ?_
    obtain rfl | rfl := hcall target htarget
    · exact hconfiguration
    · exact hready
  cases point with
  | Start =>
    obtain rfl : session = before := h
    exact perform_limbo hlimbo call
  | Failed e =>
    rw [show session = limbo from h]
    exact perform_limbo rfl call
  | Begun => exact hearly _ (by decide) (by decide) h
  | Dialing | Connecting | WritingHandshake | WritingLoginStart | LoggingIn reads | LoggedIn =>
    exact hearly _ (by decide) (by decide) h
  | Configuring exchange | Configured packets => exact hearly _ (by decide) (by decide) h
  | Closing e | RollingBack e => exact perform_isSome h
  | Returned p => exact fun hopen => perform_isSome (h hopen)

/-- An advance of `Prepare` is always to the next phase and so succeeds. -/
theorem advance_eq {phase next : BarrierPhase} {target : PreparePoint} {failed : Error → PreparePoint}
    (h : InPhase s.session phase) (hnext : next = phase + 1) :
    ∃ session, InPhase session next ∧
      s.advance next target failed = { s with session, point := target } := by
  obtain ⟨session, hadvance, hphase⟩ := h.advance hnext
  refine ⟨session, hphase, ?_⟩
  unfold Preparing.advance
  rw [hadvance]

theorem advance_point (s : Preparing) (next : BarrierPhase) (target : PreparePoint)
    (failed : Error → PreparePoint) :
    (s.advance next target failed).point = target ∨
      ∃ e, (s.advance next target failed).point = failed e := by
  unfold Preparing.advance
  cases s.session.advance_barrier next with
  | ok session => exact .inl rfl
  | error e => exact .inr ⟨e, rfl⟩

/-- Closing the transport that `backendConn` holds leaves none open. -/
theorem close_backend_open (h : ∃ conn, s.backend_conn = some conn ∧ s.open_conns = [conn]) :
    s.close_backend = { s with open_conns := [] } := by
  obtain ⟨conn, hconn, hopen⟩ := h
  unfold Preparing.close_backend
  simp [hconn, hopen]

/-- The two halves of the invariant about the place of `Prepare` carry over to a
point that relies on the same session and transports. -/
theorem Preparing.Invariant.moved (h : s.Invariant before) {next : Preparing}
    (hsession : next.point.SessionAt before next.session)
    (hconns : next.point.ConnsAt next.open_conns next.backend_conn)
    (hhandling : next.handling = s.handling) : next.Invariant before :=
  ⟨hsession, hconns, fun target frame heq => h.handling target frame (hhandling ▸ heq)⟩

/-- Without a dialer and a forwarder `Prepare` has only one way to go. -/
theorem step_untouched {a : PrepareAction} {dialer : Dialer} (hconfigured : player.configured = false)
    (hlimbo : before.state = .LimboPlay) (h : s.Untouched before dialer)
    (hstep : s.step player a = some s') : s'.Untouched before dialer := by
  have helsewhere : ∀ {point}, s.point = point → point ≠ .Start → (∀ e, point ≠ .Failed e) → False := by
    rintro point rfl hstart hfailed
    obtain hpoint | ⟨e, hpoint⟩ := h.point
    · exact hstart hpoint
    · exact hfailed e hpoint
  cases prepare_effect hstep with
  | unconfigured => exact ⟨.inr ⟨_, rfl⟩, h.session, h.dialer, h.conns, h.handling⟩
  | begin_refused _ hother | begun _ hother =>
    rw [hconfigured] at hother
    cases hother
  | cancelled => exact ⟨h.point, h.session, h.dialer, h.conns, h.handling⟩
  | read _ hphase =>
    rw [Session.barrier_phase, h.session, active_limbo hlimbo] at hphase
    cases hphase
  | called hhandling =>
    rw [h.handling] at hhandling
    cases hhandling
  | write_failed hpoint =>
    obtain hpoint | hpoint := hpoint <;> exact (helsewhere hpoint (by simp) (by simp)).elim
  | login_phase hpoint | no_address hpoint | dialing hpoint | configuration_phase hpoint | finished hpoint
  | closed hpoint | rolled_back hpoint | connected hpoint | dial_failed hpoint | wrote_handshake hpoint
  | wrote_login_start hpoint | login_waits hpoint | logged_in hpoint | login_failed hpoint
  | configuration_waits hpoint | configured hpoint | configuration_failed hpoint | timed_out hpoint =>
    exact (helsewhere hpoint (by simp) (by simp)).elim

/-- One step: the barrier is the call's own until it is rolled back or handed out. -/
theorem step_invariant {a : PrepareAction} (hconfigured : player.configured = true)
    (hlimbo : before.state = .LimboPlay) (h : s.Invariant before) (hstep : s.step player a = some s') :
    s'.Invariant before := by
  have hsession := h.session
  have hconns := h.conns
  cases prepare_effect hstep with
  | unconfigured _ hother =>
    rw [hconfigured] at hother
    cases hother
  | begin_refused hpoint _ hstate =>
    -- a transfer can always begin out of `StateLimboPlay`
    rw [hpoint] at hsession
    rw [show s.session = before from hsession, hlimbo] at hstate
    cases hstate
  | begun hpoint _ hbegin =>
    rw [hpoint] at hconns
    obtain ⟨_, rfl⟩ := Session.begin_transfer_eq_ok.mp hbegin
    exact h.moved ⟨_, rfl, rfl⟩ hconns rfl
  | login_phase hpoint =>
    rw [hpoint] at hsession hconns
    have hnext : BarrierBackendLogin = BarrierDraining + 1 := rfl
    obtain ⟨session, hphase, heq⟩ := advance_eq hsession hnext
    rw [heq]
    exact h.moved hphase hconns rfl
  | no_address hpoint _ =>
    rw [hpoint] at hsession hconns
    exact h.moved hsession.isSome hconns rfl
  | dialing hpoint =>
    rw [hpoint] at hsession hconns
    exact h.moved hsession hconns rfl
  | configuration_phase hpoint =>
    rw [hpoint] at hsession hconns
    have hnext : BarrierBackendConfiguration = BarrierBackendLogin + 1 := rfl
    obtain ⟨session, hphase, heq⟩ := advance_eq hsession hnext
    rw [heq]
    exact h.moved hphase hconns rfl
  | finished hpoint =>
    rw [hpoint] at hsession hconns
    have hnext : BarrierAwaitingClientConfigurationStart = BarrierBackendConfiguration + 1 := rfl
    obtain ⟨session, hphase, heq⟩ :=
      advance_eq (s := { s with dialer := s.dialer.mark_healthy }) hsession hnext
    rw [heq]
    exact h.moved (fun _ => hphase.isSome) (fun _ => hconns) rfl
  | closed hpoint =>
    rw [hpoint] at hsession hconns
    rw [close_backend_open hconns]
    exact h.moved hsession rfl rfl
  | rolled_back hpoint =>
    rw [hpoint] at hsession hconns
    exact h.moved (Prepared.rolledBack_of_active hsession) hconns rfl
  | connected hpoint =>
    rw [hpoint] at hsession hconns
    refine h.moved hsession ⟨s.dialed, rfl, ?_⟩ rfl
    show s.open_conns ++ [s.dialed] = [s.dialed]
    rw [show s.open_conns = [] from hconns, List.nil_append]
  | dial_failed hpoint =>
    rw [hpoint] at hsession hconns
    exact h.moved hsession.isSome hconns rfl
  | wrote_handshake hpoint | wrote_login_start hpoint | login_waits hpoint _ | logged_in hpoint
  | configuration_waits hpoint _ _ | configured hpoint _ _ =>
    rw [hpoint] at hsession hconns
    exact h.moved hsession hconns rfl
  | write_failed hpoint =>
    have hboth : InPhase s.session BarrierBackendLogin ∧
        ∃ conn, s.backend_conn = some conn ∧ s.open_conns = [conn] := by
      obtain hpoint | hpoint := hpoint <;>
        · rw [hpoint] at hsession hconns
          exact ⟨hsession, hconns⟩
    unfold Preparing.dial_write_failed
    rw [close_backend_open hboth.2]
    exact h.moved hboth.1.isSome rfl rfl
  | login_failed hpoint _ | configuration_failed hpoint _ _ =>
    rw [hpoint] at hsession hconns
    exact h.moved hsession.isSome hconns rfl
  | cancelled => exact h.moved hsession hconns rfl
  | @timed_out p hpoint =>
    rw [hpoint] at hsession hconns
    unfold Prepared.timeout
    by_cases hfinal : p.finalized = true
    · simp only [hfinal, if_true]
      refine h.moved ?_ ?_ rfl
      · intro hopen
        rw [hfinal] at hopen
        cases hopen
      · intro hopen
        rw [hfinal] at hopen
        cases hopen
    · simp only [hfinal, Bool.false_eq_true, if_false]
      refine h.moved ?_ ?_ rfl
      · intro hopen
        cases hopen
      · intro hopen
        cases hopen
  | read hcall _ =>
    refine ⟨hsession, hconns, fun target frame hhandling => ?_⟩
    simp only [Option.some.injEq, Prod.mk.injEq] at hhandling
    obtain ⟨rfl, rfl⟩ := hhandling
    obtain ⟨_, htarget⟩ | ⟨_, htarget⟩ := barrier_call_advance hcall
    · exact .inl htarget
    · exact .inr htarget
  | called hhandling =>
    refine ⟨hsession.perform hlimbo ?_, hconns, fun _ _ hnone => by cases hnone⟩
    rintro target rfl
    exact h.handling target _ hhandling

/-- The invariant in every state of a configured call. -/
theorem prepare_invariant {dialer : Dialer} {acts : List PrepareAction} (hconfigured : player.configured = true)
    (hlimbo : before.state = .LimboPlay)
    (run : Reaches (Preparing.step player) (start before dialer) acts s) : s.Invariant before :=
  run.invariant (start_invariant before dialer) fun h _ hstep => step_invariant hconfigured hlimbo h hstep

/-- A call that is not configured touches nothing. -/
theorem prepare_untouched {dialer : Dialer} {acts : List PrepareAction} (hconfigured : player.configured = false)
    (hlimbo : before.state = .LimboPlay)
    (run : Reaches (Preparing.step player) (start before dialer) acts s) : s.Untouched before dialer :=
  run.invariant (start_untouched before dialer) fun h _ hstep => step_untouched hconfigured hlimbo h hstep

/-- A prepared transfer that is finalized was finalized by its timer. -/
theorem finalized_of_timeout {dialer : Dialer} {acts : List PrepareAction} {p : Prepared}
    (run : Reaches (Preparing.step player) (start before dialer) acts s) (hreturned : s.point = .Returned p)
    (hfinal : p.finalized = true) : .Timeout ∈ acts := by
  induction run generalizing p with
  | nil => cases hreturned
  | @snoc acts before after a run _ hstep ih =>
    rw [List.mem_append]
    have hkept : before.point = after.point → .Timeout ∈ acts := fun hpoint =>
      ih (hpoint.trans hreturned) hfinal
    cases prepare_effect hstep with
    | timed_out _ => exact .inr (List.mem_singleton.mpr rfl)
    | cancelled | read _ _ | called _ => exact .inl (hkept rfl)
    | login_phase _ | configuration_phase _ =>
      obtain hpoint | ⟨e, hpoint⟩ := advance_point before _ _ _
      · rw [hpoint] at hreturned
        cases hreturned
      · rw [hpoint] at hreturned
        cases hreturned
    | finished _ =>
      obtain hpoint | ⟨e, hpoint⟩ :=
        advance_point { before with dialer := before.dialer.mark_healthy } _ _ _
      · rw [hpoint] at hreturned
        cases hreturned
        cases hfinal
      · rw [hpoint] at hreturned
        cases hreturned
    | _ => cases hreturned

end Step

/-- `Prepare` is atomic for every session in `StateLimboPlay`, whatever barrier it
still holds. After a failure the session is in that state again, every
transport that was dialed is closed, and the next transfer starts from an
empty barrier; a configured coordinator leaves no barrier, and one that is not
configured leaves the session as it found it. After a success, until the
timer of the prepared transfer fires, the session is in
`StateTransferBarrier` and the one open transport is the one that the
prepared transfer owns. -/
theorem prepare_is_atomic {player : Player} {before : Session} {dialer : Dialer} {acts : List PrepareAction}
    {s : Preparing} (hlimbo : before.state = .LimboPlay)
    (run : Reaches (Preparing.step player) (Preparing.start before dialer) acts s) :
    (∀ e, s.point = .Failed e →
      s.session.state = .LimboPlay ∧ s.open_conns = [] ∧
      (player.configured = true → s.session.barrier = none) ∧
      (player.configured = false → s.session = before) ∧
      ∀ ids limit,
        s.session.begin_transfer ids limit =
          .ok { state := .TransferBarrier, barrier := some (new_barrier ids limit) } ∧
        (new_barrier ids limit).replay = { position := none, commands := [] }) ∧
    (∀ p, s.point = .Returned p → .Timeout ∉ acts →
      s.session.state = .TransferBarrier ∧ ∃ conn, p.backend = some conn ∧ s.open_conns = [conn]) := by
  have hnext : ∀ {session : Session}, session.state = .LimboPlay → ∀ ids limit,
      session.begin_transfer ids limit =
        .ok { state := .TransferBarrier, barrier := some (new_barrier ids limit) } ∧
      (new_barrier ids limit).replay = { position := none, commands := [] } := by
    intro session hstate ids limit
    exact ⟨Session.begin_transfer_eq_ok.mpr ⟨.inl hstate, rfl⟩, rfl⟩
  cases hconfigured : player.configured with
  | false =>
    have huntouched := prepare_untouched hconfigured hlimbo run
    have hstate : s.session.state = .LimboPlay := by rw [huntouched.session, hlimbo]
    refine ⟨?_, ?_⟩
    · intro e _
      exact ⟨hstate, huntouched.conns, by simp, fun _ => huntouched.session, hnext hstate⟩
    · intro p hreturned _
      obtain hpoint | ⟨e, hpoint⟩ := huntouched.point <;>
        · rw [hreturned] at hpoint
          cases hpoint
  | true =>
    have hinv := prepare_invariant hconfigured hlimbo run
    have hsession := hinv.session
    have hconns := hinv.conns
    refine ⟨?_, ?_⟩
    · intro e hfailed
      rw [hfailed] at hsession hconns
      have hleft : s.session = Preparing.limbo := hsession
      have hstate : s.session.state = .LimboPlay := by rw [hleft]; rfl
      exact ⟨hstate, hconns, fun _ => by rw [hleft]; rfl, by simp, hnext hstate⟩
    · intro p hreturned htimeout
      have hopen : p.finalized = false := by
        rw [← Bool.not_eq_true]
        exact fun hfinal => htimeout (finalized_of_timeout run hreturned hfinal)
      rw [hreturned] at hsession hconns
      obtain ⟨b, hactive⟩ := Option.isSome_iff_exists.mp (hsession hopen)
      exact ⟨(Session.active_eq_some.mp hactive).1, hconns hopen⟩

/-- A player and a backend for concrete runs; the backend's disconnect reasons
are not decoded and responses carry no signature. -/
def samplePlayer : Player where
  configured := true
  max_pending_commands := 1
  configuration := { max_packets := 1, max_bytes := 8 }
  component_text := fun _ => none
  forwarder := fun _ => []
  identity := { address := [0x61], uuid := ⟨List.replicate 16 0, by decide⟩, username := [0x62],
                properties := [] }
  old_keep_alives := []

/-- A dialer for the runs below. -/
def sampleDialer : Dialer where
  address := [0x68]
  health := { state := .Healthy, last_error := none }

/-- A session in `StateLimboPlay` that still holds the barrier of a transfer which
a plain `Transition` ended. -/
def staleSession : Session := { state := .LimboPlay, barrier := some (new_barrier [7] 1) }

/-- A client command is recorded while the backend is dialed, and the backend
then refuses the login: the command is gone with the transport, and so is the
barrier that the session held before. -/
theorem prepare_is_atomic_refused_login :
    ∃ s, Reaches (Preparing.step samplePlayer) (Preparing.start staleSession sampleDialer)
        [.Proceed, .Proceed, .Proceed, .Read (play.player_command_payload 1 0 0), .Call, .Connect none,
         .Write true, .Write true, .LoginRead (.Failed none), .Proceed, .Proceed] s ∧
      s.session.barrier = none ∧ s.dialed = 1 ∧ s.open_conns = [] := by
  have hreached : ∃ s, Reaches (Preparing.step samplePlayer) (Preparing.start staleSession sampleDialer)
      [.Proceed, .Proceed, .Proceed, .Read (play.player_command_payload 1 0 0), .Call, .Connect none,
       .Write true, .Write true, .LoginRead (.Failed none), .Proceed, .Proceed] s ∧
      (match s.point with | .Failed _ => decide (s.dialed = 1) | _ => false) = true :=
    Reaches.of_exec _ (by decide +kernel)
  obtain ⟨s, run, hobserved⟩ := hreached
  cases hpoint : s.point with
  | Failed e =>
    simp only [hpoint, decide_eq_true_eq] at hobserved
    obtain ⟨_, hclosed, hbarrier, _⟩ := (prepare_is_atomic rfl run).1 e hpoint
    exact ⟨s, run, hbarrier rfl, hobserved, hclosed⟩
  | _ => simp [hpoint] at hobserved

/-- `BeginTransfer` and then `Transition` back to `StateLimboPlay` leave a barrier
in the session, and a `Prepare` that is not configured returns its error
without removing it. -/
theorem unconfigured_prepare_keeps_barrier :
    ∃ begun s, Preparing.limbo.begin_transfer [7] 1 = .ok begun ∧
      begun.transition .LimboPlay = .ok staleSession ∧
      Reaches (Preparing.step { samplePlayer with configured := false })
        (Preparing.start staleSession sampleDialer) [.Proceed] s ∧
      (match s.point with | .Failed e => decide (e = .CoordinatorNotConfigured) | _ => false) = true ∧
      s.session.state = .LimboPlay ∧ s.session.barrier ≠ none := by
  have hreached : ∃ s, Reaches (Preparing.step { samplePlayer with configured := false })
      (Preparing.start staleSession sampleDialer) [.Proceed] s ∧
      ((match s.point with | .Failed e => decide (e = .CoordinatorNotConfigured) | _ => false) &&
        decide (s.session.state = .LimboPlay ∧ s.session.barrier ≠ none)) = true :=
    Reaches.of_exec _ (by decide +kernel)
  obtain ⟨s, run, hobserved⟩ := hreached
  obtain ⟨hfailed, hkept⟩ := Bool.and_eq_true_iff.mp hobserved
  exact ⟨_, s, rfl, rfl, run, hfailed, of_decide_eq_true hkept⟩

end regiongate.transfer
