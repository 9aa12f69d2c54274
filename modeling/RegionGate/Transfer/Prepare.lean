import RegionGate.Backend.Configuration
import RegionGate.Backend.Dialer
import RegionGate.Backend.Login
import RegionGate.Server.BarrierFrame
import RegionGate.Transfer.Prepared

open checked execution regiongate.session regiongate.server regiongate.backend

namespace regiongate.transfer

/-- What `Prepare` reads besides its session: the coordinator's configuration
and the player. `forwarder` is the signature function of the forwarder. -/
structure Player where
  configured : Bool
  max_pending_commands : Int
  configuration : ConfigurationConfig
  component_text : Bytes → Option Bytes
  forwarder : Bytes → Bytes
  identity : forwarding.PlayerIdentity
  old_keep_alives : List Int

/-- Where `Prepare` stands between two atomic steps. `LoggingIn` and
`Configuring` hold what was read of the backend so far, and `Closing` and
`RollingBack` are the two halves of its `rollback` closure. -/
inductive PreparePoint where
  | Start
  | Begun
  | Dialing
  | Connecting
  | WritingHandshake
  | WritingLoginStart
  | LoggingIn (reads : List Received)
  | LoggedIn
  | Configuring (exchange : Configuring)
  | Configured (packets : List Bytes)
  | Closing (err : Error)
  | RollingBack (err : Error)
  | Failed (err : Error)
  | Returned (prepared : Prepared)

/-- A call of `Prepare`, the session it works on with the client frame that is
being handled meanwhile, and the dialer. `cancelled` tells whether the
call's context was cancelled, `dialed` counts the transports that were
opened, `open_conns` lists those not closed yet and `backend_conn` is the
local variable of that name. -/
structure Preparing where
  session : Session
  handling : Option (BarrierCall × Bytes)
  dialer : Dialer
  cancelled : Bool
  dialed : Nat
  open_conns : List Nat
  backend_conn : Option Nat
  point : PreparePoint

/-- `Proceed` is a step of `Prepare` that needs no outside result. The next four
are results of its calls, `Timeout` is the barrier timer of the prepared
transfer, and the last two are the halves of `handleBarrierFrame`. -/
inductive PrepareAction where
  | Proceed
  | Connect (err : Option Error)
  | Write (written : Bool)
  | LoginRead (read : Received)
  | ConfigurationRead (read : ConfigurationRead)
  | Cancel
  | Timeout
  | Read (frame : Bytes)
  | Call

namespace Preparing

/-- The session in `StateLimboPlay` as `RollbackTransfer` leaves it. -/
def limbo : Session := { state := .LimboPlay, barrier := none }

/-- A call of `Prepare` for a session, which may hold the barrier of a transfer
that a plain `Transition` ended. -/
def start (session : Session) (dialer : Dialer) : Preparing where
  session := session
  handling := none
  dialer := dialer
  cancelled := false
  dialed := 0
  open_conns := []
  backend_conn := none
  point := .Start

/-- `Close` on the transport that `backendConn` holds, if it holds one. -/
def close_backend (s : Preparing) : Preparing :=
  match s.backend_conn with
  | none => s
  | some conn => { s with open_conns := s.open_conns.filter (· ≠ conn) }

/-- `AdvanceBarrier`, with what follows a success and a failure. -/
def advance (s : Preparing) (phase : BarrierPhase) (next : PreparePoint) (failed : Error → PreparePoint) :
    Preparing :=
  match s.session.advance_barrier phase with
  | .error e => { s with point := failed e }
  | .ok session => { s with session, point := next }

/-- A failed write of `Dial`, which closes its transport itself. -/
def dial_write_failed (s : Preparing) : Preparing :=
  { s.close_backend with
    dialer := s.dialer.mark_unhealthy .Write
    point := .RollingBack .Write }

/-- A failure of the login or configuration exchange: the backend is marked
unhealthy unless the context was cancelled. -/
def exchange_failed (s : Preparing) (err : Error) : Preparing :=
  { s with
    dialer := if err ≠ .Canceled then s.dialer.mark_unhealthy err else s.dialer
    point := .Closing err }

/-- The steps of `Prepare` itself. An allocation of `newBarrier` that panics ends the
process, so there is no step from there. -/
def proceed (player : Player) (s : Preparing) : Option Preparing :=
  match s.point with
  | .Start =>
    if ¬ player.configured then some { s with point := .Failed .CoordinatorNotConfigured }
    else
      match s.session.begin_transfer_checked player.old_keep_alives player.max_pending_commands with
      | (.Panic, _) => none
      | (.Fail e, _) => some { s with point := .Failed e }
      | (.Ok _, session) => some { s with session, point := .Begun }
  | .Begun => some (s.advance BarrierBackendLogin .Dialing .RollingBack)
  | .Dialing =>
    if s.dialer.address = [] then
      some { s with
        dialer := s.dialer.mark_unhealthy .BackendAddressEmpty
        point := .RollingBack .BackendAddressEmpty }
    else some { s with point := .Connecting }
  | .LoggedIn =>
    some (s.advance BarrierBackendConfiguration (.Configuring (.start player.configuration)) .Closing)
  | .Configured packets =>
    some ({ s with dialer := s.dialer.mark_healthy }.advance BarrierAwaitingClientConfigurationStart
      (.Returned { backend := s.backend_conn, packets, finalized := false, done_closed := false,
                   final_err := none }) .Closing)
  | .Closing e => some { s.close_backend with point := .RollingBack e }
  | .RollingBack e => some { s with session := Prepared.rolledBack s.session, point := .Failed e }
  | _ => none

/-- One step of `Prepare`, of the goroutines and timers around it, or of the backend.
`none` where it cannot be taken. -/
def step (player : Player) (s : Preparing) : PrepareAction → Option Preparing
  | .Proceed => s.proceed player
  | .Connect err =>
    match s.point, err with
    | .Connecting, none =>
      some { s with
        dialed := s.dialed + 1
        open_conns := s.open_conns ++ [s.dialed]
        backend_conn := some s.dialed
        point := .WritingHandshake }
    | .Connecting, some e =>
      some { s with dialer := s.dialer.mark_unhealthy e, point := .RollingBack e }
    | _, _ => none
  | .Write written =>
    match s.point with
    | .WritingHandshake =>
      some (if written then { s with point := .WritingLoginStart } else s.dial_write_failed)
    | .WritingLoginStart =>
      some (if written then { s with point := .LoggingIn [] } else s.dial_write_failed)
    | _ => none
  | .LoginRead read =>
    match s.point with
    | .LoggingIn reads =>
      match complete_login player.component_text (some player.forwarder) player.identity
        (reads ++ [read]) with
      | .Ok none => some { s with point := .LoggingIn (reads ++ [read]) }
      | .Ok (some _) => some { s with point := .LoggedIn }
      | .Fail e => some (s.exchange_failed e)
      | .Panic => none
    | _ => none
  | .ConfigurationRead read =>
    match s.point with
    | .Configuring exchange =>
      match exchange.step read with
      | none => none
      | some exchange =>
        match exchange.result with
        | none => some { s with point := .Configuring exchange }
        | some (.ok _) => some { s with point := .Configured exchange.packets }
        | some (.error e) => some (s.exchange_failed e)
    | _ => none
  | .Cancel => some { s with cancelled := true }
  | .Timeout =>
    match s.point with
    | .Returned p =>
      let (p', session, effects) := p.timeout s.session
      some { s with
        session
        point := .Returned p'
        open_conns := s.open_conns.filter (.BackendClosed · ∉ effects) }
    | _ => none
  | .Read frame =>
    match s.handling, codec.packet_id frame, s.session.barrier_phase with
    | none, .ok (id, _), .ok phase =>
      match barrier_call phase id frame with
      | .error _ => none
      | .ok call => some { s with handling := some (call, frame) }
    | _, _, _ => none
  | .Call =>
    match s.handling with
    | none => none
    | some (call, _) => some { s with session := (call.perform s.session).1, handling := none }

end Preparing

/-- What one step does, with the guard under which it does it. -/
inductive PrepareEffect (player : Player) (s : Preparing) : PrepareAction → Preparing → Prop where
  | unconfigured (hpoint : s.point = .Start) (hconfigured : player.configured = false) :
    PrepareEffect player s .Proceed { s with point := .Failed .CoordinatorNotConfigured }
  | begin_refused {e : Error} (hpoint : s.point = .Start) (hconfigured : player.configured = true)
      (hstate : can_transition s.session.state .TransferBarrier = false) :
    PrepareEffect player s .Proceed { s with point := .Failed e }
  | begun {session : Session} (hpoint : s.point = .Start) (hconfigured : player.configured = true)
      (hbegin : s.session.begin_transfer player.old_keep_alives player.max_pending_commands =
        .ok session) :
    PrepareEffect player s .Proceed { s with session, point := .Begun }
  | login_phase (hpoint : s.point = .Begun) :
    PrepareEffect player s .Proceed (s.advance BarrierBackendLogin .Dialing .RollingBack)
  | no_address (hpoint : s.point = .Dialing) (haddress : s.dialer.address = []) :
    PrepareEffect player s .Proceed
      { s with
        dialer := s.dialer.mark_unhealthy .BackendAddressEmpty
        point := .RollingBack .BackendAddressEmpty }
  | dialing (hpoint : s.point = .Dialing) :
    PrepareEffect player s .Proceed { s with point := .Connecting }
  | configuration_phase (hpoint : s.point = .LoggedIn) :
    PrepareEffect player s .Proceed
      (s.advance BarrierBackendConfiguration (.Configuring (.start player.configuration)) .Closing)
  | finished {packets : List Bytes} (hpoint : s.point = .Configured packets) :
    PrepareEffect player s .Proceed
      ({ s with dialer := s.dialer.mark_healthy }.advance BarrierAwaitingClientConfigurationStart
        (.Returned { backend := s.backend_conn, packets, finalized := false, done_closed := false,
                     final_err := none }) .Closing)
  | closed {e : Error} (hpoint : s.point = .Closing e) :
    PrepareEffect player s .Proceed { s.close_backend with point := .RollingBack e }
  | rolled_back {e : Error} (hpoint : s.point = .RollingBack e) :
    PrepareEffect player s .Proceed
      { s with session := Prepared.rolledBack s.session, point := .Failed e }
  | connected (hpoint : s.point = .Connecting) :
    PrepareEffect player s (.Connect none)
      { s with
        dialed := s.dialed + 1
        open_conns := s.open_conns ++ [s.dialed]
        backend_conn := some s.dialed
        point := .WritingHandshake }
  | dial_failed {e : Error} (hpoint : s.point = .Connecting) :
    PrepareEffect player s (.Connect (some e))
      { s with dialer := s.dialer.mark_unhealthy e, point := .RollingBack e }
  | wrote_handshake (hpoint : s.point = .WritingHandshake) :
    PrepareEffect player s (.Write true) { s with point := .WritingLoginStart }
  | wrote_login_start (hpoint : s.point = .WritingLoginStart) :
    PrepareEffect player s (.Write true) { s with point := .LoggingIn [] }
  | write_failed (hpoint : s.point = .WritingHandshake ∨ s.point = .WritingLoginStart) :
    PrepareEffect player s (.Write false) s.dial_write_failed
  | login_waits {reads : List Received} {read : Received} (hpoint : s.point = .LoggingIn reads)
      (hlogin : complete_login player.component_text (some player.forwarder) player.identity
        (reads ++ [read]) = .Ok none) :
    PrepareEffect player s (.LoginRead read) { s with point := .LoggingIn (reads ++ [read]) }
  | logged_in {reads : List Received} {read : Received} (hpoint : s.point = .LoggingIn reads) :
    PrepareEffect player s (.LoginRead read) { s with point := .LoggedIn }
  | login_failed {reads : List Received} {read : Received} {e : Error}
      (hpoint : s.point = .LoggingIn reads)
      (hlogin : complete_login player.component_text (some player.forwarder) player.identity
        (reads ++ [read]) = .Fail e) :
    PrepareEffect player s (.LoginRead read) (s.exchange_failed e)
  | configuration_waits {exchange next : Configuring} {read : ConfigurationRead}
      (hpoint : s.point = .Configuring exchange) (hstep : exchange.step read = some next)
      (hresult : next.result = none) :
    PrepareEffect player s (.ConfigurationRead read) { s with point := .Configuring next }
  | configured {exchange next : Configuring} {read : ConfigurationRead}
      (hpoint : s.point = .Configuring exchange) (hstep : exchange.step read = some next)
      (hresult : next.result = some (.ok ())) :
    PrepareEffect player s (.ConfigurationRead read) { s with point := .Configured next.packets }
  | configuration_failed {exchange next : Configuring} {read : ConfigurationRead} {e : Error}
      (hpoint : s.point = .Configuring exchange) (hstep : exchange.step read = some next)
      (hresult : next.result = some (.error e)) :
    PrepareEffect player s (.ConfigurationRead read) (s.exchange_failed e)
  | cancelled : PrepareEffect player s .Cancel { s with cancelled := true }
  | timed_out {p : Prepared} (hpoint : s.point = .Returned p) :
    PrepareEffect player s .Timeout
      { s with
        session := (p.timeout s.session).2.1
        point := .Returned (p.timeout s.session).1
        open_conns := s.open_conns.filter (.BackendClosed · ∉ (p.timeout s.session).2.2) }
  | read {frame : Bytes} {id : Int} {phase : BarrierPhase} {call : BarrierCall}
      (hcall : barrier_call phase id frame = .ok call) (hphase : s.session.barrier_phase = .ok phase) :
    PrepareEffect player s (.Read frame) { s with handling := some (call, frame) }
  | called {call : BarrierCall} {frame : Bytes} (hhandling : s.handling = some (call, frame)) :
    PrepareEffect player s .Call { s with session := (call.perform s.session).1, handling := none }

section Step

variable {player : Player} {s s' : Preparing}

open Preparing

private theorem proceed_effect (h : s.proceed player = some s') :
    PrepareEffect player s .Proceed s' := by
  unfold proceed at h
  cases hpoint : s.point <;> simp only [hpoint, Option.some.injEq, reduceCtorEq] at h
  case Start =>
    split at h
    · rename_i hconfigured
      obtain rfl := Option.some.inj h
      exact .unconfigured hpoint (by simpa using hconfigured)
    · rename_i hconfigured
      rw [not_not] at hconfigured
      split at h
      · cases h
      · rename_i hrefused
        obtain rfl := Option.some.inj h
        exact .begin_refused hpoint hconfigured (Session.begin_transfer_checked_fail hrefused)
      · rename_i hbegin
        obtain rfl := Option.some.inj h
        exact .begun hpoint hconfigured (Session.begin_transfer_checked_ok hbegin)
  case Begun =>
    subst h
    exact .login_phase hpoint
  case Dialing =>
    split at h
    · rename_i haddress
      obtain rfl := Option.some.inj h
      exact .no_address hpoint haddress
    · obtain rfl := Option.some.inj h
      exact .dialing hpoint
  case LoggedIn =>
    subst h
    exact .configuration_phase hpoint
  case Configured packets =>
    subst h
    exact .finished hpoint
  case Closing e =>
    subst h
    exact .closed hpoint
  case RollingBack e =>
    subst h
    exact .rolled_back hpoint

private theorem login_read_effect {read : Received} (h : s.step player (.LoginRead read) = some s') :
    PrepareEffect player s (.LoginRead read) s' := by
  simp only [Preparing.step] at h
  cases hpoint : s.point <;> simp only [hpoint, reduceCtorEq] at h
  case LoggingIn reads =>
    cases hlogin : complete_login player.component_text (some player.forwarder) player.identity
      (reads ++ [read]) with
    | Panic => simp [hlogin] at h
    | Fail e =>
      simp only [hlogin, Option.some.injEq] at h
      subst h
      exact .login_failed hpoint hlogin
    | Ok result =>
      cases result with
      | none =>
        simp only [hlogin, Option.some.injEq] at h
        subst h
        exact .login_waits hpoint hlogin
      | some result =>
        simp only [hlogin, Option.some.injEq] at h
        subst h
        exact .logged_in hpoint

private theorem configuration_read_effect {read : ConfigurationRead}
    (h : s.step player (.ConfigurationRead read) = some s') :
    PrepareEffect player s (.ConfigurationRead read) s' := by
  simp only [Preparing.step] at h
  cases hpoint : s.point <;> simp only [hpoint, reduceCtorEq] at h
  case Configuring exchange =>
    cases hstep : exchange.step read with
    | none => simp [hstep] at h
    | some next =>
      cases hresult : next.result with
      | none =>
        simp only [hstep, hresult, Option.some.injEq] at h
        subst h
        exact .configuration_waits hpoint hstep hresult
      | some result =>
        cases result with
        | ok value =>
          simp only [hstep, hresult, Option.some.injEq] at h
          subst h
          exact .configured hpoint hstep hresult
        | error e =>
          simp only [hstep, hresult, Option.some.injEq] at h
          subst h
          exact .configuration_failed hpoint hstep hresult

theorem prepare_effect {a : PrepareAction} (h : s.step player a = some s') :
    PrepareEffect player s a s' := by
  cases a with
  | Proceed => exact proceed_effect h
  | Connect err =>
    simp only [Preparing.step] at h
    cases hpoint : s.point <;> simp only [hpoint, reduceCtorEq] at h
    cases err with
    | none =>
      obtain rfl := Option.some.inj h
      exact .connected hpoint
    | some e =>
      obtain rfl := Option.some.inj h
      exact .dial_failed hpoint
  | Write written =>
    simp only [Preparing.step] at h
    cases hpoint : s.point <;> simp only [hpoint, reduceCtorEq] at h
    case WritingHandshake =>
      obtain rfl := Option.some.inj h
      cases written with
      | true => exact .wrote_handshake hpoint
      | false => exact .write_failed (.inl hpoint)
    case WritingLoginStart =>
      obtain rfl := Option.some.inj h
      cases written with
      | true => exact .wrote_login_start hpoint
      | false => exact .write_failed (.inr hpoint)
  | LoginRead read => exact login_read_effect h
  | ConfigurationRead read => exact configuration_read_effect h
  | Cancel =>
    obtain rfl := Option.some.inj h
    exact .cancelled
  | Timeout =>
    simp only [Preparing.step] at h
    cases hpoint : s.point <;> simp only [hpoint, reduceCtorEq] at h
    obtain rfl := Option.some.inj h
    exact .timed_out hpoint
  | Read frame =>
    simp only [Preparing.step] at h
    split at h
    · rename_i hphase
      split at h
      · cases h
      · rename_i hcall
        obtain rfl := Option.some.inj h
        exact .read hcall hphase
    · cases h
  | Call =>
    simp only [Preparing.step] at h
    cases hhandling : s.handling with
    | none => simp [hhandling] at h
    | some handling =>
      obtain ⟨call, frame⟩ := handling
      simp only [hhandling, Option.some.injEq] at h
      subst h
      exact .called hhandling

end Step

end regiongate.transfer
