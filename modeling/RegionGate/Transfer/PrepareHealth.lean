import RegionGate.Transfer.PrepareOutcome

open checked execution regiongate.session regiongate.server regiongate.backend

namespace regiongate.backend

/-- A frame that a backend may send in the configuration exchange: it is well
formed, no disconnect, and fits the limits. -/
def Configuring.allows (s : Configuring) (frame : Bytes) : Bool :=
  match codec.packet_id frame with
  | .error _ => false
  | .ok (id, body) =>
    if id = configuration.ClientboundFinishConfigurationID then body.length = 0
    else if id = configuration.ClientboundKeepAliveID then body.length = 8
    else if id = configuration.ClientboundPingID then body.length = 4
    else
      id ≠ configuration.ClientboundDisconnectID ∧ (s.packets.length : Int) < s.max_packets ∧
        (s.bytes_buffered : Int) + frame.length ≤ s.max_bytes

/-- A frame that the exchange allows does not make it fail. -/
theorem Configuring.frame_allowed {s : Configuring} {frame : Bytes} {e : Error}
    (hrunning : s.result = none) (hallowed : s.allows frame = true) :
    (s.frame frame true).result ≠ some (.error e) := by
  unfold Configuring.allows at hallowed
  unfold Configuring.frame
  cases hid : codec.packet_id frame with
  | error err => simp [hid] at hallowed
  | ok packet =>
    obtain ⟨id, body⟩ := packet
    simp only [hid] at hallowed ⊢
    by_cases hfinish : id = configuration.ClientboundFinishConfigurationID
    · rw [if_pos hfinish] at hallowed ⊢
      simp [of_decide_eq_true hallowed]
    rw [if_neg hfinish] at hallowed ⊢
    by_cases hkeep : id = configuration.ClientboundKeepAliveID
    · rw [if_pos hkeep] at hallowed ⊢
      simp [of_decide_eq_true hallowed, Configuring.reply, hrunning]
    rw [if_neg hkeep] at hallowed ⊢
    by_cases hping : id = configuration.ClientboundPingID
    · rw [if_pos hping] at hallowed ⊢
      simp [of_decide_eq_true hallowed, Configuring.reply, hrunning]
    rw [if_neg hping] at hallowed ⊢
    obtain ⟨hdisconnect, hpackets, hbytes⟩ := of_decide_eq_true hallowed
    rw [if_neg hdisconnect, if_neg (by omega)]
    simp [hrunning]

end regiongate.backend

namespace regiongate.transfer

namespace Preparing

/-- Nothing but the cancelled context can make `Prepare` fail at this step: the
backend has an address, accepts the connection and follows the protocol,
every write succeeds, and dialing and reading report an error only once the
context is cancelled. -/
def only_cancelled (player : Player) (s : Preparing) : PrepareAction → Bool
  | .Proceed => s.dialer.address ≠ []
  | .Connect none => true
  | .Connect (some e) => e = .Canceled ∧ s.cancelled
  | .Write written => written
  | .LoginRead (.Frame frame written) =>
    match login_frame player.component_text (some player.forwarder) player.identity frame with
    | .Ok _ => written
    | _ => false
  | .LoginRead (.Failed ctx_err) => ctx_err = some .Canceled ∧ s.cancelled
  | .ConfigurationRead (.Frame frame written) =>
    match s.point with
    | .Configuring exchange => exchange.allows frame ∧ written
    | _ => false
  | .ConfigurationRead (.Failed ctx_err) => ctx_err = some .Canceled ∧ s.cancelled
  | .Cancel | .Timeout | .Read _ | .Call => true

/-- The cancellation does not reach a `DialContext` call that is still running,
or the backend counts as unhealthy already. -/
def dial_survives (s : Preparing) : PrepareAction → Bool
  | .Connect (some _) => s.dialer.health.state = .Unhealthy
  | _ => true

/-- What holds along a run that only a cancellation can end early. -/
structure Blameless (player : Player) (dialer : Dialer) (s : Preparing) : Prop where
  health : (∀ p, s.point ≠ .Returned p) → s.dialer.health.state = dialer.health.state
  login : ∀ reads, s.point = .LoggingIn reads →
    complete_login player.component_text (some player.forwarder) player.identity reads = .Ok none
  exchange : ∀ exchange, s.point = .Configuring exchange → exchange.result = none

end Preparing

section Health

variable {player : Player} {before : Session} {dialer : Dialer} {s s' : Preparing}

open Preparing

/-- In such a run the login exchange fails with the context's error only. -/
private theorem login_canceled {reads : List Received} {read : Received} {e : Error}
    (hreads : complete_login player.component_text (some player.forwarder) player.identity reads = .Ok none)
    (hread : s.only_cancelled player (.LoginRead read) = true)
    (hfail : complete_login player.component_text (some player.forwarder) player.identity
      (reads ++ [read]) = .Fail e) : e = .Canceled := by
  rw [complete_login_append hreads] at hfail
  cases read with
  | Failed ctx_err =>
    obtain ⟨hcanceled, _⟩ := of_decide_eq_true hread
    subst hcanceled
    simpa [complete_login, eq_comm] using hfail
  | Frame frame written =>
    simp only [only_cancelled] at hread
    cases hreply : login_frame player.component_text (some player.forwarder) player.identity frame with
    | Panic => simp [hreply] at hread
    | Fail err => simp [hreply] at hread
    | Ok reply =>
      simp only [hreply] at hread
      subst hread
      rw [complete_login, hreply, Outcome.ok_bind] at hfail
      cases reply <;> simp [complete_login] at hfail

/-- And so does the configuration exchange. -/
private theorem configuration_canceled {exchange next : Configuring} {read : ConfigurationRead} {e : Error}
    (hpoint : s.point = .Configuring exchange) (hrunning : exchange.result = none)
    (hread : s.only_cancelled player (.ConfigurationRead read) = true)
    (hstep : exchange.step read = some next) (hfail : next.result = some (.error e)) : e = .Canceled := by
  simp only [Configuring.step, hrunning, Option.isSome_none, Bool.false_eq_true, if_false] at hstep
  cases read with
  | Failed ctx_err =>
    obtain ⟨hcanceled, _⟩ := of_decide_eq_true hread
    subst hcanceled
    obtain rfl := Option.some.inj hstep
    simpa [Configuring.fail, eq_comm] using hfail
  | Frame frame written =>
    simp only [only_cancelled, hpoint] at hread
    obtain ⟨hallowed, rfl⟩ := of_decide_eq_true hread
    obtain rfl := Option.some.inj hstep
    exact absurd hfail (Configuring.frame_allowed hrunning hallowed)

theorem start_blameless (player : Player) (before : Session) (dialer : Dialer) :
    Blameless player dialer (start before dialer) :=
  ⟨fun _ => rfl, by simp [start], by simp [start]⟩

/-- A move to a point outside the two exchanges, with the health as it was. -/
private theorem blameless_of_health {next : Preparing}
    (hhealth : next.dialer.health.state = dialer.health.state)
    (hlogin : ∀ reads, next.point ≠ .LoggingIn reads)
    (hexchange : ∀ exchange, next.point ≠ .Configuring exchange) : Blameless player dialer next :=
  ⟨fun _ => hhealth, fun reads h => absurd h (hlogin reads), fun exchange h => absurd h (hexchange exchange)⟩

/-- One step: without a fault of the backend its health is not set to unhealthy. -/
theorem step_blameless {a : PrepareAction} (hinv : s.Invariant before) (h : Blameless player dialer s)
    (hcancelled : s.only_cancelled player a = true) (hsurvives : s.dial_survives a = true)
    (hstep : s.step player a = some s') : Blameless player dialer s' := by
  have hsession := hinv.session
  -- before `Prepare` has returned the health is the one it began with
  have hhealth : ∀ {point}, s.point = point → (∀ p, point ≠ .Returned p) →
      s.dialer.health.state = dialer.health.state := by
    rintro point rfl hpoint
    exact h.health hpoint
  cases prepare_effect hstep with
  | unconfigured hpoint _ | begin_refused hpoint _ _ | begun hpoint _ _ | dialing hpoint =>
    exact blameless_of_health (hhealth hpoint (by simp)) (by simp) (by simp)
  | login_phase hpoint =>
    rw [hpoint] at hsession
    obtain ⟨session, _, heq⟩ := advance_eq hsession (show BarrierBackendLogin = BarrierDraining + 1 from rfl)
    rw [heq]
    exact blameless_of_health (hhealth hpoint (by simp)) (by simp) (by simp)
  | no_address hpoint haddress => exact absurd haddress (of_decide_eq_true hcancelled)
  | configuration_phase hpoint =>
    rw [hpoint] at hsession
    obtain ⟨session, _, heq⟩ :=
      advance_eq hsession (show BarrierBackendConfiguration = BarrierBackendLogin + 1 from rfl)
    rw [heq]
    refine ⟨fun _ => hhealth hpoint (by simp), by simp, fun exchange hexchange => ?_⟩
    cases hexchange
    rfl
  | finished hpoint =>
    -- the backend is marked healthy, and the last advance then succeeds
    rw [hpoint] at hsession
    obtain ⟨session, _, heq⟩ := advance_eq (s := { s with dialer := s.dialer.mark_healthy }) hsession
      (show BarrierAwaitingClientConfigurationStart = BarrierBackendConfiguration + 1 from rfl)
    rw [heq]
    exact ⟨fun hreturned => absurd rfl (hreturned _), by simp, by simp⟩
  | closed hpoint =>
    have hkept : s.close_backend.dialer = s.dialer := by
      unfold Preparing.close_backend
      cases s.backend_conn <;> rfl
    refine blameless_of_health ?_ (by simp) (by simp)
    show s.close_backend.dialer.health.state = _
    rw [hkept]
    exact hhealth hpoint (by simp)
  | rolled_back hpoint => exact blameless_of_health (hhealth hpoint (by simp)) (by simp) (by simp)
  | connected hpoint => exact blameless_of_health (hhealth hpoint (by simp)) (by simp) (by simp)
  | dial_failed hpoint =>
    have hunhealthy : s.dialer.health.state = .Unhealthy := of_decide_eq_true hsurvives
    refine blameless_of_health ?_ (by simp) (by simp)
    rw [← hhealth hpoint (by simp), hunhealthy]
    exact Dialer.set_state _ _ _
  | wrote_handshake hpoint => exact blameless_of_health (hhealth hpoint (by simp)) (by simp) (by simp)
  | wrote_login_start hpoint =>
    refine ⟨fun _ => hhealth hpoint (by simp), fun reads hreads => ?_, by simp⟩
    cases hreads
    rfl
  | write_failed hpoint => cases hcancelled
  | login_waits hpoint hlogin =>
    refine ⟨fun _ => hhealth hpoint (by simp), fun reads hreads => ?_, by simp⟩
    cases hreads
    exact hlogin
  | logged_in hpoint => exact blameless_of_health (hhealth hpoint (by simp)) (by simp) (by simp)
  | login_failed hpoint hlogin =>
    have hcanceled := login_canceled (h.login _ hpoint) hcancelled hlogin
    refine blameless_of_health ?_ (by simp [exchange_failed]) (by simp [exchange_failed])
    simp only [exchange_failed, hcanceled, ne_eq, not_true, if_false]
    exact hhealth hpoint (by simp)
  | configuration_waits hpoint _ hresult =>
    refine ⟨fun _ => hhealth hpoint (by simp), by simp, fun exchange hexchange => ?_⟩
    cases hexchange
    exact hresult
  | configured hpoint _ _ => exact blameless_of_health (hhealth hpoint (by simp)) (by simp) (by simp)
  | configuration_failed hpoint hnext hresult =>
    have hcanceled := configuration_canceled hpoint (h.exchange _ hpoint) hcancelled hnext hresult
    refine blameless_of_health ?_ (by simp [exchange_failed]) (by simp [exchange_failed])
    simp only [exchange_failed, hcanceled, ne_eq, not_true, if_false]
    exact hhealth hpoint (by simp)
  | timed_out hpoint => exact ⟨fun hreturned => absurd rfl (hreturned _), by simp, by simp⟩
  | cancelled | read _ _ | called _ => exact ⟨h.health, h.login, h.exchange⟩

end Health

/-- A cancelled context leaves the backend's health alone: in every run in which
nothing else can make `Prepare` fail, and in which the cancellation does not
strike while the backend is being dialed, a failed `Prepare` leaves the
health state as it found it. -/
theorem cancellation_keeps_health {player : Player} {before : Session} {dialer : Dialer}
    {acts : List PrepareAction} {s : Preparing} {e : Error} (hlimbo : before.state = .LimboPlay)
    (run : Runs (Preparing.step player)
      (fun s a => s.only_cancelled player a = true ∧ s.dial_survives a = true)
      (Preparing.start before dialer) acts s)
    (hfailed : s.point = .Failed e) : s.dialer.health.state = dialer.health.state := by
  cases hconfigured : player.configured with
  | false =>
    rw [(prepare_untouched hconfigured hlimbo run.reaches).dialer]
  | true =>
    have hinv : s.Invariant before ∧ s.Blameless player dialer := by
      apply run.invariant
      · exact ⟨Preparing.start_invariant before dialer, start_blameless player before dialer⟩
      · rintro s a s' ⟨hinv, hblameless⟩ ⟨hcancelled, hsurvives⟩ hstep
        exact ⟨step_invariant hconfigured hlimbo hinv hstep,
          step_blameless hinv hblameless hcancelled hsurvives hstep⟩
    exact hinv.2.health (by simp [hfailed])

/-- The call has returned an error. -/
private def hasFailed (s : Preparing) : Bool :=
  match s.point with
  | .Failed _ => true
  | _ => false

/-- The client leaves while the backend logs its player in. -/
theorem cancellation_keeps_health_during_login :
    ∃ s, Runs (Preparing.step samplePlayer)
        (fun s a => s.only_cancelled samplePlayer a = true ∧ s.dial_survives a = true)
        (Preparing.start Preparing.limbo sampleDialer)
        [.Proceed, .Proceed, .Proceed, .Connect none, .Write true, .Write true, .Cancel,
         .LoginRead (.Failed (some .Canceled)), .Proceed, .Proceed] s ∧
      s.dialer.health.state = .Healthy := by
  have hreached : ∃ s, Runs (Preparing.step samplePlayer)
      (fun s a => s.only_cancelled samplePlayer a = true ∧ s.dial_survives a = true)
      (Preparing.start Preparing.limbo sampleDialer)
      [.Proceed, .Proceed, .Proceed, .Connect none, .Write true, .Write true, .Cancel,
       .LoginRead (.Failed (some .Canceled)), .Proceed, .Proceed] s ∧ hasFailed s = true :=
    Runs.of_exec (fun (s : Preparing) a
        (hok : (s.only_cancelled samplePlayer a && s.dial_survives a) = true) =>
      Bool.and_eq_true_iff.mp hok) _ (by decide +kernel)
  obtain ⟨s, run, hobserved⟩ := hreached
  cases hpoint : s.point with
  | Failed e => exact ⟨s, run, cancellation_keeps_health rfl run hpoint⟩
  | _ => simp [hasFailed, hpoint] at hobserved

/-- The client leaves while the backend is being dialed, and the healthy backend
is recorded as unhealthy. -/
theorem cancelled_dial_marks_unhealthy :
    ∃ s, Runs (Preparing.step samplePlayer) (fun s a => s.only_cancelled samplePlayer a = true)
        (Preparing.start Preparing.limbo sampleDialer)
        [.Proceed, .Proceed, .Proceed, .Cancel, .Connect (some .Canceled), .Proceed] s ∧
      (match s.point with | .Failed e => decide (e = .Canceled) | _ => false) = true ∧
      sampleDialer.health.state = .Healthy ∧ s.dialer.health.state = .Unhealthy := by
  have hreached : ∃ s, Runs (Preparing.step samplePlayer)
      (fun s a => s.only_cancelled samplePlayer a = true) (Preparing.start Preparing.limbo sampleDialer)
      [.Proceed, .Proceed, .Proceed, .Cancel, .Connect (some .Canceled), .Proceed] s ∧
      ((match s.point with | .Failed e => decide (e = .Canceled) | _ => false) &&
        decide (s.dialer.health.state = .Unhealthy)) = true :=
    Runs.of_exec (fun (s : Preparing) a (hok : s.only_cancelled samplePlayer a = true) => hok) _
      (by decide +kernel)
  obtain ⟨s, run, hobserved⟩ := hreached
  obtain ⟨hfailed, hunhealthy⟩ := Bool.and_eq_true_iff.mp hobserved
  exact ⟨s, run, hfailed, rfl, of_decide_eq_true hunhealthy⟩

end regiongate.transfer
