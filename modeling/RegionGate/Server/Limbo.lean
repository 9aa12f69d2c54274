import RegionGate.Hex
import RegionGate.Queue.FIFO
import RegionGate.Server.BarrierFrame
import RegionGate.Transfer.Prepared

open regiongate.session regiongate.transfer execution

namespace regiongate.server

/-- Connections are numbered in the order in which they are accepted. -/
abbrev Conn := Nat

/-- The contexts of queue items: `queueCtx` of a connection's `serveLimbo`, or
the background context. -/
inductive Context where
  | Background
  | Queue (conn : Conn)
  deriving DecidableEq

/-- The admission queue; an item's callback is `Admit` on a connection. -/
abbrev AdmissionQueue := queue.FIFO Context Conn

/-- What `Prepare` reads of its coordinator: whether it has a dialer and a forwarder,
and the limit of the commands, which is taken to be one for which `newBarrier` can
allocate. -/
structure Coordinator where
  configured : Bool
  max_pending_commands : Int
  deriving DecidableEq

/-- The parts of the server configuration that `serveLimbo` reads: the transfer
coordinator, if any, and whether a queue and a challenge hook are set. -/
structure Config where
  transfer_coordinator : Option Coordinator
  admission_queue : Bool
  challenge_hook : Bool
  deriving DecidableEq

/-- The packets the gateway writes to a client in Limbo and during a transfer.
`Configuration` relays a backend configuration packet and `Backend` a
frame of the play bridge. -/
inductive Clientbound where
  | JoinGame
  | ChunkBatchStart
  | MapChunk
  | ChunkBatchFinished
  | SpawnPosition
  | PositionLook
  | KeepAlive (id : Int)
  | ActionBar (position : Nat)
  | StartConfiguration
  | Configuration (packet : Bytes)
  | FinishConfiguration
  | Backend (frame : Bytes)
  deriving DecidableEq

/-- The history of one session. A write names the prepared transfer that made
it, if any; transfers are numbered by the `Prepare` call they come from. -/
inductive Event where
  | Wrote (transfer : Option Nat) (packet : Clientbound)
  | KeepAliveAnswered (id : Int)
  | FrameRejected (frame : Bytes) (err : Error)
  | ChallengePassed
  | Enqueued
  | TransferBegun (transfer : Nat)
  | LoginCompleted (transfer : Nat)
  | ConfigurationCompleted (transfer : Nat) (packets : List Bytes)
  | ConfigurationAcknowledged
  | FinishAcknowledged
  | Released (transfer : Nat)
  deriving DecidableEq

/-- Where the goroutine of `serveLimbo` stands between two atomic steps. -/
inductive Location where
  | Joining (rest : List Clientbound)
  | AwaitingTeleport
  | FirstKeepAlive
  | Select
  | BarrierFrame (id : Int) (frame : Bytes)
  | BarrierCall (call : BarrierCall) (frame : Bytes)
  | Progress
  | LimboFrame (id : Int) (frame : Bytes)
  | TickWrite
  | StatusPosition
  | ActionBarWrite (position : Nat)
  | BeginCheck
  | BeginWrite
  | BeginRecheck
  | BeginFailed (err : Error)
  | WriteCheck
  | WritePackets (rest : List Bytes)
  | WriteFinish
  | Releasing
  | Replaying (replay : Replay)
  | Answering
  | Bridge
  | Blocked
  | CancelItem (err : Error)
  | CancelContext (err : Error)
  | Untrack (err : Error)
  | Closed (err : Error)
  deriving DecidableEq

/-- Where a goroutine of `prepareTransfer` stands. `Outcome` is its select
between the result channel and its context. -/
inductive PrepareLocation where
  | Start
  | Begun
  | Dialing
  | LoggingIn
  | LoggedIn
  | Configuring
  | Configured (packets : List Bytes)
  | RollingBack (err : Error)
  | Outcome (err : Option Error)
  | Done
  deriving DecidableEq

/-- One accepted admission: its request, the keepalive snapshot given to
`Prepare` and the prepared transfer, once there is one. -/
structure Attempt where
  request : Nat
  old_keep_alives : List Int
  location : PrepareLocation
  prepared : Option Prepared
  deriving DecidableEq

/-- Where a caller of `Admit` is: at its first `select`, at its second one, or back. -/
inductive AdmitLocation where
  | Sending
  | Waiting
  | Returned (err : Option Error)
  deriving DecidableEq

/-- One call of `Admit` and its request. `own` calls use the session's own
queue context; `results` are the values sent on the result channel. -/
structure AdmitCall where
  own : Bool
  cancelled : Bool
  location : AdmitLocation
  placed : Bool
  results : List (Option Error)
  deriving DecidableEq

/-- One session of `serveLimbo`: the objects it shares with other goroutines,
its local variables under their Go names, and its history. `required` is
what the hook's `RequiredKeepAlives` reports when it is asked, if the hook
has that method; it is asked at most once. -/
structure Limbo where
  conn : Conn
  uuid : UUID
  required : Option Int
  session : Session
  attempts : List Attempt
  admissions : List Nat
  calls : List AdmitCall
  tracked : Bool
  queue_done : Bool
  location : Location
  keep_alive_id : Int
  pending_keep_alive : Int
  timeout_armed : Bool
  prepared : Option Nat
  prepare_done : Option Nat
  prepare_result : Option Nat
  active_admission : Option Nat
  client_configuration_sent : Bool
  queued : Bool
  challenge_started : Bool
  challenge_passed : Bool
  valid_keep_alives : Int
  required_keep_alives : Int
  challenge_result : Bool
  log : List Event
  deriving DecidableEq

/-- What can happen next in a session. `Proceed` is the next step of the loop's
goroutine outside its select, with the result of a client write; the
actions up to `QueueTick` are the cases of the select. -/
inductive Action where
  | Proceed (written : Bool)
  | ChallengeResult (err : Option Error)
  | Admission
  | PrepareResult
  | PrepareDone
  | Frame (frame : Except Error Bytes)
  | Tick
  | Timeout
  | QueueTick
  | Relay (frame : Bytes)
  | Prepare (attempt : Nat) (outcome : Except Error (List Bytes))
  | PrepareDropped (attempt : Nat)
  | BarrierTimeout (attempt : Nat)
  | AdmitCalled (own : Bool)
  | AdmitSent (call : Nat)
  | AdmitReceived (call : Nat)
  | AdmitCancelled (call : Nat)
  | ContextCancelled (call : Nat)

namespace Limbo

/-- The packets with which a client enters Limbo, in order. -/
def joinPackets : List Clientbound :=
  [.JoinGame, .ChunkBatchStart, .MapChunk, .ChunkBatchFinished, .SpawnPosition, .PositionLook]

/-- The session as `serveLogin` hands it to `serveLimbo`, after the admission
channel was registered. -/
def start (conn : Conn) (uuid : UUID) (required : Option Int) : Limbo where
  conn := conn
  uuid := uuid
  required := required
  session := { state := .LimboPlay, barrier := none }
  attempts := []
  admissions := []
  calls := []
  tracked := true
  queue_done := false
  location := .Joining joinPackets
  keep_alive_id := 1
  pending_keep_alive := 1
  timeout_armed := false
  prepared := none
  prepare_done := none
  prepare_result := none
  active_admission := none
  client_configuration_sent := false
  queued := false
  challenge_started := false
  challenge_passed := false
  valid_keep_alives := 0
  required_keep_alives := 1
  challenge_result := false
  log := []

/-- The identifier of the player in the queue. -/
def queue_id (s : Limbo) : Bytes := hex.encode_to_string s.uuid.val

/-- Returning an error from the loop starts the deferred calls. -/
def fail (s : Limbo) (err : Error) : Limbo := { s with location := .CancelItem err }

/-- Returning because a client frame was refused. -/
def reject (s : Limbo) (frame : Bytes) (err : Error) : Limbo :=
  { s with location := .CancelItem err, log := s.log ++ [.FrameRejected frame err] }

/-- A send on the result channel of a request. -/
def send (s : Limbo) (request : Nat) (err : Option Error) : Limbo :=
  { s with calls := s.calls.modify request fun call => { call with results := call.results ++ [err] } }

/-- A send on `activeAdmission.result`, after which the loop goes on as `next`;
on the zero request it blocks forever. -/
def respond (s : Limbo) (err : Option Error) (next : Limbo) : Limbo :=
  match s.active_admission with
  | none => { s with location := .Blocked }
  | some request => next.send request err

/-- The prepared transfer the loop holds, with its number. -/
def current (s : Limbo) : Option (Nat × Prepared) :=
  match s.prepared with
  | none => none
  | some k =>
    match s.attempts[k]? with
    | none => none
    | some attempt => attempt.prepared.map (k, ·)

/-- A transfer of a call of `Prepare` is made or changes. -/
def setPrepared (s : Limbo) (k : Nat) (p : Prepared) : Limbo :=
  { s with attempts := s.attempts.modify k fun attempt => { attempt with prepared := some p } }

/-- A call of `Prepare` goes on to another place. -/
def moveAttempt (s : Limbo) (k : Nat) (location : PrepareLocation) : Limbo :=
  { s with attempts := s.attempts.modify k fun attempt => { attempt with location } }

/-- The context of a request: the session's own queue context or the caller's. -/
def contextDone (s : Limbo) (call : AdmitCall) : Bool :=
  if call.own then s.queue_done else call.cancelled

/-- `pendingIDs`: zero stands for no keepalive. -/
def pending_ids (id : Int) : List Int := if id = 0 then [] else [id]

/-- The closure `enqueue`: the player enters the queue once, if there is one. -/
def enqueue (cfg : Config) (q : AdmissionQueue) (s : Limbo) : Except Error (AdmissionQueue × Limbo) :=
  if s.queued ∨ ¬ cfg.admission_queue ∨ cfg.transfer_coordinator.isNone then .ok (q, s)
  else
    match q.enqueue .Background
      { id := s.queue_id, context := some (.Queue s.conn), admit_callback := some s.conn } with
    | .error e => .error e
    | .ok (_, q) => .ok (q, { s with queued := true, log := s.log ++ [.Enqueued] })

/-- The closure `maybeEnqueue`: both the hook and the answers have to be there. -/
def maybe_enqueue (cfg : Config) (q : AdmissionQueue) (s : Limbo) :
    Except Error (AdmissionQueue × Limbo) :=
  if s.challenge_passed ∧ s.valid_keep_alives ≥ s.required_keep_alives then s.enqueue cfg q
  else .ok (q, s)

/-- The first accepted answer starts the challenge, or passes it when there is
no hook; then the queue is tried once already in the latter case. -/
def start_challenge (cfg : Config) (q : AdmissionQueue) (s : Limbo) :
    Except Error (AdmissionQueue × Limbo) :=
  if s.challenge_started then .ok (q, s)
  else if ¬ cfg.challenge_hook then
    { s with challenge_started := true, challenge_passed := true }.maybe_enqueue cfg q
  else
    .ok (q, { s with
      challenge_started := true
      challenge_result := true
      required_keep_alives :=
        match s.required with
        | none => s.required_keep_alives
        | some required => if required < 1 then 1 else required })

/-- The keepalive case of the Limbo frame handler. -/
def keep_alive_frame (cfg : Config) (q : AdmissionQueue) (s : Limbo) (frame : Bytes) :
    AdmissionQueue × Limbo :=
  match play.parse_keep_alive frame with
  | .error _ => (q, s.reject frame .PlayMalformed)
  | .ok value =>
    if s.pending_keep_alive = 0 ∨ value ≠ s.pending_keep_alive then (q, s.reject frame .PlayMalformed)
    else
      let s := { s with
        pending_keep_alive := 0
        valid_keep_alives := s.valid_keep_alives + 1
        log := s.log ++ [Event.KeepAliveAnswered value] }
      match s.start_challenge cfg q with
      | .error e => (q, s.reject frame e)
      | .ok (q, s) =>
        match s.maybe_enqueue cfg q with
        | .error e => (q, s.reject frame e)
        | .ok (q, s) => (q, { s with timeout_armed := false, location := .Select })

/-- A frame read while the session was not in `StateTransferBarrier`. -/
def limbo_frame (cfg : Config) (q : AdmissionQueue) (s : Limbo) (id : Int) (frame : Bytes) :
    AdmissionQueue × Limbo :=
  if id = play.ServerboundKeepAliveID then s.keep_alive_frame cfg q frame
  else if id = play.ServerboundPositionID ∨ id = play.ServerboundPositionLookID then
    match play.parse_movement frame with
    | .error e => (q, s.reject frame e)
    | .ok _ => (q, { s with location := .Select })
  else (q, s.reject frame .PlayMalformed)

/-- The events of a session call that a client frame led to. -/
def callEvents : BarrierCall → List Event
  | .Advance phase =>
    if phase = BarrierClientConfiguration then [.ConfigurationAcknowledged] else [.FinishAcknowledged]
  | .Input input => if input.kind = .KeepAlive then [.KeepAliveAnswered input.keep_alive_id] else []
  | .Done => []

/-- `progress` up to the method of the prepared transfer that it calls. -/
def progress (s : Limbo) : Limbo :=
  match s.prepared with
  | none => { s with location := .Select }
  | some _ =>
    match s.session.barrier_phase with
    | .error e => s.fail e
    | .ok phase =>
      if phase = BarrierClientConfiguration ∧ ¬ s.client_configuration_sent then
        { s with location := .WriteCheck }
      else if phase = BarrierReady then { s with location := .Releasing }
      else { s with location := .Select }

/-- A client write, made for a prepared transfer or not. -/
def write (s : Limbo) (transfer : Option Nat) (packet : Clientbound) (next : Location) : Limbo :=
  { s with location := next, log := s.log ++ [.Wrote transfer packet] }

/-- The methods of the prepared transfer that the loop calls, one
critical section or one client write at a time. -/
def prepared_step (s : Limbo) (k : Nat) (p : Prepared) (written : Bool) : Option Limbo :=
  match s.location with
  | .BeginCheck =>
    match p.begin_check s.session with
    | .error e => some { s with location := .BeginFailed e }
    | .ok _ => some { s with location := .BeginWrite }
  | .BeginWrite =>
    if written then some (s.write (some k) .StartConfiguration .BeginRecheck)
    else some { s with location := .BeginFailed .Write }
  | .BeginRecheck =>
    match p.begin_check s.session with
    | .error e => some { s with location := .BeginFailed e }
    | .ok _ => some { s with location := .Select }
  | .BeginFailed e =>
    let (p, session, _, _) := p.rollback s.session
    let s := { s.setPrepared k p with session }
    some (s.respond (some e) { s with prepared := none, prepare_done := none, location := .Select })
  | .WriteCheck =>
    match p.write_check s.session with
    | .error e => some (s.fail e)
    | .ok packets => some { s with location := .WritePackets packets }
  | .WritePackets (packet :: rest) =>
    if written then some (s.write (some k) (.Configuration packet) (.WritePackets rest))
    else some (s.fail .Write)
  | .WritePackets [] =>
    if written then some (s.write (some k) .FinishConfiguration .WriteFinish) else some (s.fail .Write)
  | .WriteFinish =>
    match p.write_finish s.session with
    | .error e => some (s.fail e)
    | .ok session => some { s with session, client_configuration_sent := true, location := .Select }
  | .Releasing =>
    match p.release s.session with
    | .error e => some (s.fail e)
    | .ok ((replay, _), p, session, _) =>
      some { s.setPrepared k p with
        session, location := .Replaying replay, log := s.log ++ [.Released k] }
  | .Replaying _ => if written then some { s with location := .Answering } else some (s.fail .Write)
  | .Answering => some (s.respond none { s with location := .Bridge })
  | .Bridge => some (s.fail .Read)
  | _ => none

/-- The next step of the loop's goroutine outside its select. -/
def proceed (cfg : Config) (q : AdmissionQueue) (s : Limbo) (written : Bool) :
    Option (AdmissionQueue × Limbo) :=
  match s.location with
  | .Joining (packet :: rest) =>
    some (q, if written then s.write none packet (.Joining rest) else s.fail .Write)
  | .Joining [] => some (q, { s with location := .AwaitingTeleport })
  | .FirstKeepAlive =>
    some (q,
      if written then { s.write none (.KeepAlive s.keep_alive_id) .Select with timeout_armed := true }
      else s.fail .Write)
  | .BarrierFrame id frame =>
    match s.session.barrier_phase with
    | .error e => some (q, s.reject frame e)
    | .ok phase =>
      match barrier_call phase id frame with
      | .error e => some (q, s.reject frame e)
      | .ok call => some (q, { s with location := .BarrierCall call frame })
  | .BarrierCall call frame =>
    match call.perform s.session with
    | (session, some e) => some (q, { s with session }.reject frame e)
    | (session, none) =>
      some (q, { s with session, location := .Progress, log := s.log ++ callEvents call })
  | .Progress => some (q, s.progress)
  | .LimboFrame id frame => some (s.limbo_frame cfg q id frame)
  | .TickWrite =>
    some (q,
      if written then { s.write none (.KeepAlive s.keep_alive_id) .Select with timeout_armed := true }
      else s.fail .Write)
  | .StatusPosition =>
    match q.position s.queue_id with
    | none => some (q, { s with location := .Select })
    | some position => some (q, { s with location := .ActionBarWrite position })
  | .ActionBarWrite position =>
    some (q, if written then s.write none (.ActionBar position) .Select else s.fail .Write)
  | .CancelItem e =>
    some (if cfg.admission_queue then (q.cancel s.queue_id).2 else q, { s with location := .CancelContext e })
  | .CancelContext e => some (q, { s with queue_done := true, location := .Untrack e })
  | .Untrack e => some (q, { s with tracked := false, location := .Closed e })
  | .AwaitingTeleport | .Select | .Blocked | .Closed _ => none
  | _ =>
    match s.current with
    | none => none
    | some (k, p) => (s.prepared_step k p written).map (q, ·)

/-- The challenge goroutine's verdict reaches the loop. -/
def challenge_verdict (cfg : Config) (q : AdmissionQueue) (s : Limbo) (err : Option Error) :
    AdmissionQueue × Limbo :=
  let s := { s with challenge_result := false }
  match err with
  | some _ => (q, s.fail .ChallengeFailed)
  | none =>
    let s := { s with challenge_passed := true, log := s.log ++ [Event.ChallengePassed] }
    match s.maybe_enqueue cfg q with
    | .error e => (q, s.fail e)
    | .ok (q, s) => (q, s)

/-- The admission case: the request is refused, or a goroutine of
`prepareTransfer` is started for it. -/
def admission (cfg : Config) (s : Limbo) : Option Limbo :=
  match s.admissions with
  | [] => none
  | request :: rest =>
    let s := { s with admissions := rest }
    if cfg.transfer_coordinator.isNone ∨ s.prepared.isSome ∨ s.session.state ≠ .LimboPlay then
      some (s.send request (some .NotAvailableForTransfer))
    else
      some { s with
        active_admission := some request
        prepare_result := some s.attempts.length
        attempts := s.attempts ++ [{
          request, old_keep_alives := pending_ids s.pending_keep_alive, location := .Start,
          prepared := none }] }

/-- The outcome of the attempt whose channel the loop listens on. -/
def prepare_outcome (s : Limbo) : Option Limbo :=
  match s.prepare_result with
  | none => none
  | some k =>
    match s.attempts[k]? with
    | none => none
    | some attempt =>
      match attempt.location with
      | .Outcome (some e) =>
        let s := { s.moveAttempt k .Done with prepare_result := none }
        some (s.respond (some e)
          { s with active_admission := none, pending_keep_alive := 0, timeout_armed := false })
      | .Outcome none =>
        some { s.moveAttempt k .Done with
          prepare_result := none, prepared := some k, prepare_done := some k
          client_configuration_sent := false, location := .BeginCheck }
      | _ => none

/-- The done case: only a timed out transfer has an error. -/
def prepare_finished (s : Limbo) : Option Limbo :=
  match s.prepare_done with
  | none => none
  | some k =>
    match (s.attempts[k]?).bind (·.prepared) with
    | none => none
    | some finished =>
      if ¬ finished.done_closed then none
      else
        match s.current.bind (·.2.final_err) with
        | none => some s
        | some e =>
          some (s.respond (some e) { s with
            prepared := none, prepare_done := none, active_admission := none
            pending_keep_alive := 0, timeout_armed := false })

/-- A frame, or the read error that ends the client's reader. -/
def client_frame (s : Limbo) (frame : Except Error Bytes) : Option Limbo :=
  match s.location, frame with
  | .AwaitingTeleport, .error e => some (s.fail e)
  | .AwaitingTeleport, .ok frame =>
    match play.parse_teleport_confirm frame with
    | .error _ => some s
    | .ok teleport => some (if teleport ≠ 1 then s.fail .PlayMalformed else { s with location := .FirstKeepAlive })
  | .Select, .error e => some (s.fail e)
  | .Select, .ok frame =>
    match codec.packet_id frame with
    | .error _ => some (s.reject frame .PlayMalformed)
    | .ok (id, _) =>
      some { s with
        location := if s.session.state = .TransferBarrier then .BarrierFrame id frame else .LimboFrame id frame }
  | _, _ => none

/-- The keepalive ticker: in Limbo a new keepalive is written when the last one was
answered. -/
def tick (s : Limbo) : Limbo :=
  if s.session.state = .LimboPlay ∧ s.pending_keep_alive = 0 then
    { s with
      keep_alive_id := s.keep_alive_id + 1
      pending_keep_alive := s.keep_alive_id + 1
      location := .TickWrite }
  else s

/-- The ticker of the queue position. -/
def queue_tick (s : Limbo) : Limbo :=
  if s.queued ∧ s.session.state = .LimboPlay then { s with location := .StatusPosition } else s

/-- One step of `Coordinator.Prepare`. `outcome` is what the backend exchange
of the step yields: dialing, login or configuration. -/
def prepare (cfg : Config) (s : Limbo) (k : Nat) (attempt : Attempt) (outcome : Except Error (List Bytes)) :
    Option Limbo :=
  match attempt.location with
  | .Start =>
    match cfg.transfer_coordinator with
    | none => none
    | some coordinator =>
      if ¬ coordinator.configured then some (s.moveAttempt k (.Outcome (some .CoordinatorNotConfigured)))
      else
        match s.session.begin_transfer attempt.old_keep_alives coordinator.max_pending_commands with
        | .error e => some (s.moveAttempt k (.Outcome (some e)))
        | .ok session =>
          some { s.moveAttempt k .Begun with session, log := s.log ++ [.TransferBegun k] }
  | .Begun =>
    match s.session.advance_barrier BarrierBackendLogin with
    | .error e => some (s.moveAttempt k (.RollingBack e))
    | .ok session => some { s.moveAttempt k .Dialing with session }
  | .Dialing =>
    match outcome with
    | .error e => some (s.moveAttempt k (.RollingBack e))
    | .ok _ => some (s.moveAttempt k .LoggingIn)
  | .LoggingIn =>
    match outcome with
    | .error e => some (s.moveAttempt k (.RollingBack e))
    | .ok _ => some { s.moveAttempt k .LoggedIn with log := s.log ++ [.LoginCompleted k] }
  | .LoggedIn =>
    match s.session.advance_barrier BarrierBackendConfiguration with
    | .error e => some (s.moveAttempt k (.RollingBack e))
    | .ok session => some { s.moveAttempt k .Configuring with session }
  | .Configuring =>
    match outcome with
    | .error e => some (s.moveAttempt k (.RollingBack e))
    | .ok packets =>
      some { s.moveAttempt k (.Configured packets) with
        log := s.log ++ [.ConfigurationCompleted k packets] }
  | .Configured packets =>
    match s.session.advance_barrier BarrierAwaitingClientConfigurationStart with
    | .error e => some (s.moveAttempt k (.RollingBack e))
    | .ok session => some { (s.moveAttempt k (.Outcome none)).setPrepared k (.new k packets) with session }
  | .RollingBack e =>
    some { s.moveAttempt k (.Outcome (some e)) with session := Prepared.rolledBack s.session }
  | .Outcome _ | .Done => none

/-- The context branch of `prepareTransfer`: an outcome nobody took is dropped,
and a prepared transfer is rolled back. -/
def prepare_dropped (s : Limbo) (k : Nat) (attempt : Attempt) : Option Limbo :=
  match attempt.location, s.calls[attempt.request]? with
  | .Outcome _, some call =>
    if ¬ (s.queue_done ∨ s.contextDone call) then none
    else
      match attempt.prepared with
      | none => some (s.moveAttempt k .Done)
      | some p =>
        let (p, session, _, _) := p.rollback s.session
        some { (s.moveAttempt k .Done).setPrepared k p with session }
  | _, _ => none

/-- The timer of a prepared transfer fires. -/
def barrier_timeout (s : Limbo) (k : Nat) (attempt : Attempt) : Option Limbo :=
  match attempt.prepared with
  | none => none
  | some p =>
    let (p, session, _) := p.timeout s.session
    some { s.setPrepared k p with session }

/-- A caller of `Admit` goes on to another place. -/
def moveCall (s : Limbo) (i : Nat) (location : AdmitLocation) : Limbo :=
  { s with calls := s.calls.modify i fun call => { call with location } }

/-- `Admit` after it found the admission channel: the request enters the
buffered channel when there is room. -/
def admit_send (s : Limbo) (i : Nat) (call : AdmitCall) : Option Limbo :=
  if call.location = .Sending ∧ s.admissions = [] then
    some { s with
      admissions := [i]
      calls := s.calls.modify i fun call => { call with location := .Waiting, placed := true } }
  else none

/-- `Admit` receives its result, which is the first that the loop has sent. -/
def admit_receive (s : Limbo) (i : Nat) (call : AdmitCall) : Option Limbo :=
  match call.location, call.results with
  | .Waiting, result :: _ => some (s.moveCall i (.Returned result))
  | _, _ => none

/-- `Admit` returns because its context is done, from either `select`. -/
def admit_cancelled (s : Limbo) (i : Nat) (call : AdmitCall) : Option Limbo :=
  if s.contextDone call ∧ (call.location = .Sending ∨ call.location = .Waiting) then
    some (s.moveCall i (.Returned (some .ContextDone)))
  else none

/-- The atomic steps of one session, with the admission queue it shares with
every other session. -/
def step (cfg : Config) (q : AdmissionQueue) (s : Limbo) : Action → Option (AdmissionQueue × Limbo)
  | .Proceed written => s.proceed cfg q written
  | .ChallengeResult err =>
    if s.location = .Select ∧ s.challenge_result then some (s.challenge_verdict cfg q err) else none
  | .Admission => if s.location = .Select then (s.admission cfg).map (q, ·) else none
  | .PrepareResult => if s.location = .Select then s.prepare_outcome.map (q, ·) else none
  | .PrepareDone => if s.location = .Select then s.prepare_finished.map (q, ·) else none
  | .Frame frame => (s.client_frame frame).map (q, ·)
  | .Tick => if s.location = .Select then some (q, s.tick) else none
  | .Timeout =>
    if s.location = .Select ∧ s.timeout_armed then
      some (q, s.fail (.KeepAliveTimedOut s.pending_keep_alive))
    else none
  | .QueueTick => if s.location = .Select then some (q, s.queue_tick) else none
  | .Relay frame =>
    match s.location, s.prepared with
    | .Bridge, some k => some (q, s.write (some k) (.Backend frame) .Bridge)
    | _, _ => none
  | .Prepare k outcome => (s.attempts[k]?).bind fun attempt => (s.prepare cfg k attempt outcome).map (q, ·)
  | .PrepareDropped k => (s.attempts[k]?).bind fun attempt => (s.prepare_dropped k attempt).map (q, ·)
  | .BarrierTimeout k => (s.attempts[k]?).bind fun attempt => (s.barrier_timeout k attempt).map (q, ·)
  | .AdmitCalled own =>
    if s.tracked then
      some (q, { s with calls := s.calls ++ [{
        own, cancelled := false, location := .Sending, placed := false, results := [] }] })
    else none
  | .AdmitSent i => (s.calls[i]?).bind fun call => (s.admit_send i call).map (q, ·)
  | .AdmitReceived i => (s.calls[i]?).bind fun call => (s.admit_receive i call).map (q, ·)
  | .AdmitCancelled i => (s.calls[i]?).bind fun call => (s.admit_cancelled i call).map (q, ·)
  | .ContextCancelled i =>
    some (q, { s with calls := s.calls.modify i fun call => { call with cancelled := true } })

end Limbo

/-- One session with the queue as it finds it. Other sessions and the scheduler
may do anything to the queue between two of its steps. -/
structure World where
  queue : AdmissionQueue
  limbo : Limbo

/-- A step of the session, or of others that leave the queue in some state. -/
inductive Move where
  | Session (action : Action)
  | Others (queue : AdmissionQueue)

/-- One session with a queue that it shares with any number of others. -/
def World.step (cfg : Config) (w : World) : Move → Option World
  | .Session action => (w.limbo.step cfg w.queue action).map fun (queue, limbo) => { queue, limbo }
  | .Others queue => some { w with queue }

end regiongate.server
