import Mathlib.Data.Finset.Card
import RegionGate.Error
import RegionGate.Execution

namespace regiongate.server.serve

/-- Why `Serve` returns: its context was cancelled, the listener was closed by
someone else, or `Accept` failed. -/
inductive Reason where
  | Cancelled
  | Closed
  | Failed
  deriving DecidableEq

/-- Where the accept loop of `Serve` stands, with the connection in its hands. -/
inductive LoopLocation where
  | Accepting
  | Accepted (conn : Nat)
  | Counting (conn : Nat)
  | Selecting (conn : Nat)
  | Tracking (conn : Nat)
  | Refused (conn : Nat)
  | Tracked (conn : Nat)
  | Spawning (conn : Nat)
  | Returning (reason : Reason)
  | Returned (reason : Reason)
  deriving DecidableEq

/-- Where the goroutine of a connection stands. `Handshake`, `Login` and `Limbo`
are `serveConn` after its client, its session and its admissions were tracked;
from `Returning` on its deferred calls run. -/
inductive ConnLocation where
  | Unstarted
  | Spawned
  | Handshake
  | Login
  | Limbo
  | Returning
  | ClientClosed
  | Untracked
  | SessionUntracked
  | ClientUntracked
  | AdmissionUntracked
  | Closed
  | Ended
  deriving DecidableEq

/-- Where the shutdown goroutine of `Serve` stands. It ends after closing
everything or, when it saw that `Serve` returned, after doing nothing. -/
inductive ShutdownLocation where
  | Select
  | CloseListener
  | CloseConnections
  | ClosedAll
  | Skipped
  deriving DecidableEq

/-- The limits of the configuration. -/
structure Limits where
  max_connections : Nat
  max_connections_per_ip : Nat
  deriving DecidableEq

/-- The limits that `New` leaves, with its defaults. -/
def Limits.new (max_connections max_connections_per_ip : Int) : Limits where
  max_connections := if max_connections ≤ 0 then 10000 else max_connections.toNat
  max_connections_per_ip := if max_connections_per_ip ≤ 0 then 16 else max_connections_per_ip.toNat

/-- A server within `Serve`. Connections are numbered in the order in which
`Accept` returned them. The maps of sessions, clients and admissions are
given by their keys, a missing value of `ip_connections` is an address that
the map does not hold, and `sem` is the number of taken slots. `tracked` is
the history of `track`. -/
structure Server where
  ctx_done : Bool
  listener_closed : Bool
  shutdown_done : Bool
  next : Nat
  sem : Nat
  conns : Finset Nat
  sessions : Finset Nat
  clients : Finset Nat
  admissions : Finset Nat
  ip_connections : Bytes → Option Nat
  accepted : UInt64
  rejected_cap : UInt64
  rejected_ip : UInt64
  closed : Nat → Bool
  loop : LoopLocation
  location : Nat → ConnLocation
  shutdown : ShutdownLocation
  tracked : List Nat

/-- What happens next. `Accept` and `AcceptFails` are what the listener returns
to the waiting loop, `Loop` is the loop's next statement, `Goes` and
`Returns` are the next statement of a connection's goroutine and the return
of its `serveConn`. -/
inductive Action where
  | Cancel
  | Accept
  | AcceptFails (closed : Bool)
  | Loop
  | Goes (conn : Nat)
  | Returns (conn : Nat)
  | TakeContext
  | TakeDone
  | Shutdown
  deriving DecidableEq

namespace Server

/-- `Serve` has been called. -/
def start : Server where
  ctx_done := false
  listener_closed := false
  shutdown_done := false
  next := 0
  sem := 0
  conns := ∅
  sessions := ∅
  clients := ∅
  admissions := ∅
  ip_connections := fun _ => none
  accepted := 0
  rejected_cap := 0
  rejected_ip := 0
  closed := fun _ => false
  loop := .Accepting
  location := fun _ => .Unstarted
  shutdown := .Select
  tracked := []

/-- A connection is closed. -/
def close (s : Server) (conn : Nat) : Server := { s with closed := Function.update s.closed conn true }

/-- The goroutine of a connection goes on to another place. -/
def move (s : Server) (conn : Nat) (location : ConnLocation) : Server :=
  { s with location := Function.update s.location conn location }

section

-- The remote host of each connection.
variable (host : Nat → Bytes)

/-- `track`: an address that has as many connections as it may is turned away. -/
def track (limits : Limits) (s : Server) (conn : Nat) : Bool × Server :=
  let ip := host conn
  let count := (s.ip_connections ip).getD 0
  if count ≥ limits.max_connections_per_ip then (false, { s with rejected_ip := s.rejected_ip + 1 })
  else (true, { s with
    conns := insert conn s.conns
    ip_connections := Function.update s.ip_connections ip (some (count + 1))
    tracked := s.tracked ++ [conn] })

/-- `untrack`: an address without connections leaves the map. -/
def untrack (s : Server) (conn : Nat) : Server :=
  let ip := host conn
  let count := (s.ip_connections ip).getD 0
  { s with
    conns := s.conns.erase conn
    ip_connections := Function.update s.ip_connections ip (if count ≤ 1 then none else some (count - 1)) }

/-- `closeConnections`. -/
def close_connections (s : Server) : Server :=
  { s with closed := fun conn => conn ∈ s.conns || s.closed conn }

/-- The next statement of the accept loop. -/
def loopStep (limits : Limits) (s : Server) : Option Server :=
  match s.loop with
  | .Accepted conn =>
    if s.ctx_done then some { s.close conn with loop := .Returning .Cancelled }
    else some { s with loop := .Counting conn }
  | .Counting conn => some { s with accepted := s.accepted + 1, loop := .Selecting conn }
  | .Selecting conn =>
    if s.sem < limits.max_connections then some { s with sem := s.sem + 1, loop := .Tracking conn }
    else some { s.close conn with rejected_cap := s.rejected_cap + 1, loop := .Accepting }
  | .Tracking conn =>
    let (ok, s) := s.track host limits conn
    some { s with loop := if ok then .Tracked conn else .Refused conn }
  | .Refused conn =>
    if s.sem = 0 then none else some { s.close conn with sem := s.sem - 1, loop := .Accepting }
  | .Tracked conn =>
    let s := if s.ctx_done then s.close conn else s
    some { s with loop := .Spawning conn }
  | .Spawning conn => some { s.move conn .Spawned with loop := .Accepting }
  | .Returning reason => some { s with shutdown_done := true, loop := .Returned reason }
  | _ => none

/-- The next statement of a connection's goroutine. -/
def connStep (s : Server) (conn : Nat) : Option Server :=
  match s.location conn with
  | .Spawned => some ({ s with clients := insert conn s.clients }.move conn .Handshake)
  | .Handshake => some ({ s with sessions := insert conn s.sessions }.move conn .Login)
  | .Login => some ({ s with admissions := insert conn s.admissions }.move conn .Limbo)
  | .Returning => some ((s.close conn).move conn .ClientClosed)
  | .ClientClosed => some ((s.untrack host conn).move conn .Untracked)
  | .Untracked => some ({ s with sessions := s.sessions.erase conn }.move conn .SessionUntracked)
  | .SessionUntracked => some ({ s with clients := s.clients.erase conn }.move conn .ClientUntracked)
  | .ClientUntracked => some ({ s with admissions := s.admissions.erase conn }.move conn .AdmissionUntracked)
  | .AdmissionUntracked => some ((s.close conn).move conn .Closed)
  | .Closed => if s.sem = 0 then none else some ({ s with sem := s.sem - 1 }.move conn .Ended)
  | .Unstarted | .Limbo | .Ended => none

/-- One statement of the accept loop, of the goroutine that waits for the context, or
of the goroutine of a connection. -/
def step (limits : Limits) (s : Server) : Action → Option Server
  | .Cancel => some { s with ctx_done := true }
  | .Accept =>
    if s.loop = .Accepting ∧ s.listener_closed = false then
      some { s with next := s.next + 1, loop := .Accepted s.next }
    else none
  | .AcceptFails closed =>
    if s.loop = .Accepting then
      some { s with loop := .Returning (if s.ctx_done then .Cancelled else if closed then .Closed else .Failed) }
    else none
  | .Loop => s.loopStep host limits
  | .Goes conn => s.connStep host conn
  | .Returns conn =>
    if s.location conn = .Handshake ∨ s.location conn = .Login ∨ s.location conn = .Limbo then
      some (s.move conn .Returning)
    else none
  | .TakeContext => if s.shutdown = .Select ∧ s.ctx_done then some { s with shutdown := .CloseListener } else none
  | .TakeDone => if s.shutdown = .Select ∧ s.shutdown_done then some { s with shutdown := .Skipped } else none
  | .Shutdown =>
    match s.shutdown with
    | .CloseListener => some { s with listener_closed := true, shutdown := .CloseConnections }
    | .CloseConnections => some { s.close_connections with shutdown := .ClosedAll }
    | _ => none

end

end Server

namespace Server

variable {host : Nat → Bytes} {limits : Limits} {s s' : Server} {conn : Nat} {a : Action}

@[simp] theorem close_location : (s.close conn).location = s.location := rfl

@[simp] theorem close_loop : (s.close conn).loop = s.loop := rfl

@[simp] theorem close_connections_location : s.close_connections.location = s.location := rfl

@[simp] theorem close_connections_loop : s.close_connections.loop = s.loop := rfl

@[simp] theorem move_location (l : ConnLocation) (c : Nat) :
    (s.move conn l).location c = if c = conn then l else s.location c :=
  Function.update_apply ..

@[simp] theorem move_loop (l : ConnLocation) : (s.move conn l).loop = s.loop := rfl

@[simp] theorem move_sessions (l : ConnLocation) : (s.move conn l).sessions = s.sessions := rfl

@[simp] theorem move_clients (l : ConnLocation) : (s.move conn l).clients = s.clients := rfl

@[simp] theorem move_admissions (l : ConnLocation) : (s.move conn l).admissions = s.admissions := rfl

/-- What one statement of a connection's goroutine can do. -/
inductive ConnEffect (host : Nat → Bytes) (s : Server) (conn : Nat) : Server → Prop where
  | tracksClient (hlocation : s.location conn = .Spawned) :
      ConnEffect host s conn ({ s with clients := insert conn s.clients }.move conn .Handshake)
  | tracksSession (hlocation : s.location conn = .Handshake) :
      ConnEffect host s conn ({ s with sessions := insert conn s.sessions }.move conn .Login)
  | tracksAdmission (hlocation : s.location conn = .Login) :
      ConnEffect host s conn ({ s with admissions := insert conn s.admissions }.move conn .Limbo)
  | closesClient (hlocation : s.location conn = .Returning) :
      ConnEffect host s conn ((s.close conn).move conn .ClientClosed)
  | untracks (hlocation : s.location conn = .ClientClosed) :
      ConnEffect host s conn ((s.untrack host conn).move conn .Untracked)
  | untracksSession (hlocation : s.location conn = .Untracked) :
      ConnEffect host s conn ({ s with sessions := s.sessions.erase conn }.move conn .SessionUntracked)
  | untracksClient (hlocation : s.location conn = .SessionUntracked) :
      ConnEffect host s conn ({ s with clients := s.clients.erase conn }.move conn .ClientUntracked)
  | untracksAdmission (hlocation : s.location conn = .ClientUntracked) :
      ConnEffect host s conn ({ s with admissions := s.admissions.erase conn }.move conn .AdmissionUntracked)
  | closes (hlocation : s.location conn = .AdmissionUntracked) :
      ConnEffect host s conn ((s.close conn).move conn .Closed)
  | ends (hlocation : s.location conn = .Closed) (hsem : s.sem ≠ 0) :
      ConnEffect host s conn ({ s with sem := s.sem - 1 }.move conn .Ended)

theorem connStep_effect (hstep : s.connStep host conn = some s') : ConnEffect host s conn s' := by
  rw [connStep] at hstep
  split at hstep
  next hlocation =>
    cases hstep
    exact .tracksClient hlocation
  next hlocation =>
    cases hstep
    exact .tracksSession hlocation
  next hlocation =>
    cases hstep
    exact .tracksAdmission hlocation
  next hlocation =>
    cases hstep
    exact .closesClient hlocation
  next hlocation =>
    cases hstep
    exact .untracks hlocation
  next hlocation =>
    cases hstep
    exact .untracksSession hlocation
  next hlocation =>
    cases hstep
    exact .untracksClient hlocation
  next hlocation =>
    cases hstep
    exact .untracksAdmission hlocation
  next hlocation =>
    cases hstep
    exact .closes hlocation
  next hlocation =>
    split at hstep
    next => cases hstep
    next hsem =>
      cases hstep
      exact .ends hlocation hsem
  all_goals cases hstep

/-- What one step can do. -/
inductive Effect (host : Nat → Bytes) (limits : Limits) (s : Server) : Action → Server → Prop where
  | cancel : Effect host limits s .Cancel { s with ctx_done := true }
  | accept (hloop : s.loop = .Accepting) (hopen : s.listener_closed = false) :
      Effect host limits s .Accept { s with next := s.next + 1, loop := .Accepted s.next }
  | fails {closed : Bool} {reason : Reason} (hloop : s.loop = .Accepting)
      (hreason : reason = .Cancelled ↔ s.ctx_done = true) :
      Effect host limits s (.AcceptFails closed) { s with loop := .Returning reason }
  | late {conn : Nat} (hloop : s.loop = .Accepted conn) (hctx : s.ctx_done = true) :
      Effect host limits s .Loop { s.close conn with loop := .Returning .Cancelled }
  | checked {conn : Nat} (hloop : s.loop = .Accepted conn) (hctx : s.ctx_done = false) :
      Effect host limits s .Loop { s with loop := .Counting conn }
  | counted {conn : Nat} (hloop : s.loop = .Counting conn) :
      Effect host limits s .Loop { s with accepted := s.accepted + 1, loop := .Selecting conn }
  | acquired {conn : Nat} (hloop : s.loop = .Selecting conn) (hroom : s.sem < limits.max_connections) :
      Effect host limits s .Loop { s with sem := s.sem + 1, loop := .Tracking conn }
  | full {conn : Nat} (hloop : s.loop = .Selecting conn) (hfull : ¬ s.sem < limits.max_connections) :
      Effect host limits s .Loop { s.close conn with rejected_cap := s.rejected_cap + 1, loop := .Accepting }
  | tracked {conn : Nat} (hloop : s.loop = .Tracking conn)
      (hcount : (s.ip_connections (host conn)).getD 0 < limits.max_connections_per_ip) :
      Effect host limits s .Loop { s with
        conns := insert conn s.conns
        ip_connections := Function.update s.ip_connections (host conn)
          (some ((s.ip_connections (host conn)).getD 0 + 1))
        tracked := s.tracked ++ [conn]
        loop := .Tracked conn }
  | refused {conn : Nat} (hloop : s.loop = .Tracking conn)
      (hcount : limits.max_connections_per_ip ≤ (s.ip_connections (host conn)).getD 0) :
      Effect host limits s .Loop { s with rejected_ip := s.rejected_ip + 1, loop := .Refused conn }
  | released {conn : Nat} (hloop : s.loop = .Refused conn) (hsem : s.sem ≠ 0) :
      Effect host limits s .Loop { s.close conn with sem := s.sem - 1, loop := .Accepting }
  | kept {conn : Nat} (hloop : s.loop = .Tracked conn) (hctx : s.ctx_done = false) :
      Effect host limits s .Loop { s with loop := .Spawning conn }
  | closed {conn : Nat} (hloop : s.loop = .Tracked conn) (hctx : s.ctx_done = true) :
      Effect host limits s .Loop { s.close conn with loop := .Spawning conn }
  | spawned {conn : Nat} (hloop : s.loop = .Spawning conn) :
      Effect host limits s .Loop { s.move conn .Spawned with loop := .Accepting }
  | done {reason : Reason} (hloop : s.loop = .Returning reason) :
      Effect host limits s .Loop { s with shutdown_done := true, loop := .Returned reason }
  | goes {conn : Nat} {s' : Server} (hgoes : ConnEffect host s conn s') : Effect host limits s (.Goes conn) s'
  | returns {conn : Nat}
      (hlocation : s.location conn = .Handshake ∨ s.location conn = .Login ∨ s.location conn = .Limbo) :
      Effect host limits s (.Returns conn) (s.move conn .Returning)
  | takesContext (hshutdown : s.shutdown = .Select) (hctx : s.ctx_done = true) :
      Effect host limits s .TakeContext { s with shutdown := .CloseListener }
  | takesDone (hshutdown : s.shutdown = .Select) (hdone : s.shutdown_done = true) :
      Effect host limits s .TakeDone { s with shutdown := .Skipped }
  | closesListener (hshutdown : s.shutdown = .CloseListener) :
      Effect host limits s .Shutdown { s with listener_closed := true, shutdown := .CloseConnections }
  | closesConnections (hshutdown : s.shutdown = .CloseConnections) :
      Effect host limits s .Shutdown { s.close_connections with shutdown := .ClosedAll }

theorem loopStep_effect (hstep : s.loopStep host limits = some s') : Effect host limits s .Loop s' := by
  rw [loopStep] at hstep
  split at hstep
  next conn hloop =>
    split at hstep
    next hctx =>
      cases hstep
      exact .late hloop hctx
    next hctx =>
      cases hstep
      exact .checked hloop (by simpa using hctx)
  next conn hloop =>
    cases hstep
    exact .counted hloop
  next conn hloop =>
    split at hstep
    next hroom =>
      cases hstep
      exact .acquired hloop hroom
    next hfull =>
      cases hstep
      exact .full hloop hfull
  next conn hloop =>
    simp only [track] at hstep
    split at hstep
    next hcount =>
      cases hstep
      exact .refused hloop hcount
    next hcount =>
      cases hstep
      exact .tracked hloop (by omega)
  next conn hloop =>
    split at hstep
    next => cases hstep
    next hsem =>
      cases hstep
      exact .released hloop hsem
  next conn hloop =>
    by_cases hctx : s.ctx_done = true
    · simp only [if_pos hctx] at hstep
      cases hstep
      exact .closed hloop hctx
    · simp only [if_neg hctx] at hstep
      cases hstep
      exact .kept hloop (by simpa using hctx)
  next conn hloop =>
    cases hstep
    exact .spawned hloop
  next reason hloop =>
    cases hstep
    exact .done hloop
  next => cases hstep

theorem step_effect (hstep : s.step host limits a = some s') : Effect host limits s a s' := by
  cases a with
  | Cancel =>
    cases hstep
    exact .cancel
  | Accept =>
    rw [step] at hstep
    split at hstep
    next hloop =>
      cases hstep
      exact .accept hloop.1 hloop.2
    next => cases hstep
  | AcceptFails closed =>
    rw [step] at hstep
    split at hstep
    next hloop =>
      cases hstep
      refine .fails hloop ?_
      cases s.ctx_done <;> cases closed <;> simp
    next => cases hstep
  | Loop => exact loopStep_effect hstep
  | Goes conn => exact .goes (connStep_effect hstep)
  | Returns conn =>
    rw [step] at hstep
    split at hstep
    next hlocation =>
      cases hstep
      exact .returns hlocation
    next => cases hstep
  | TakeContext =>
    rw [step] at hstep
    split at hstep
    next hshutdown =>
      cases hstep
      exact .takesContext hshutdown.1 hshutdown.2
    next => cases hstep
  | TakeDone =>
    rw [step] at hstep
    split at hstep
    next hshutdown =>
      cases hstep
      exact .takesDone hshutdown.1 hshutdown.2
    next => cases hstep
  | Shutdown =>
    rw [step] at hstep
    split at hstep
    next hshutdown =>
      cases hstep
      exact .closesListener hshutdown
    next hshutdown =>
      cases hstep
      exact .closesConnections hshutdown
    next => cases hstep

end Server

end regiongate.server.serve
