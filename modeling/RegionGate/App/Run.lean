import Mathlib.Logic.Function.Basic
import RegionGate.Execution

open execution

namespace regiongate.app

/-- A goroutine of `Run` that serves, and then puts what it has got in a channel with
room for one. -/
inductive ServingPoint (ρ : Type) where
  | Serving
  | Ended (result : ρ)
  | Sent (result : ρ)
  deriving DecidableEq

/-- What `ListenAndServe` returns. -/
inductive HttpError (ε : Type) where
  | ServerClosed
  | Failed (err : ε)
  deriving DecidableEq

/-- The goroutine that shuts an HTTP server down once `runCtx` is done. -/
inductive ShutdownPoint where
  | Waiting
  | Shutting
  | Finished
  deriving DecidableEq

/-- The two goroutines of an HTTP server and the channel of its errors, which has room
for one. -/
structure HttpServer (ε : Type) where
  serving : ServingPoint (HttpError ε)
  channel : Option (HttpError ε)
  shutdown : ShutdownPoint
  deriving DecidableEq

/-- The HTTP servers of `Run`; that of the profiles is there only when it has an
address. -/
inductive Service where
  | Health
  | Pprof
  deriving DecidableEq

/-- What `Run` returns other than `nil`, with where it comes from. -/
inductive RunError (ε : Type) where
  | Serve (err : ε)
  | Http (service : Service) (err : HttpError ε)
  deriving DecidableEq

/-- Where `Run` is from its `select` on: there, at the receive after `runCtx.Done()`, at
its deferred calls, or back at its caller. -/
inductive RunPoint (ε : Type) where
  | Select
  | Drain
  | CloseListener (result : Option (RunError ε))
  | CancelRun (result : Option (RunError ε))
  | Returned (result : Option (RunError ε))
  deriving DecidableEq

/-- `Run` with the goroutines that it starts. `closing` is the goroutine of `Serve`
that waits for its context, and `gateway` and `serve_errors` belong to `Serve`
itself. -/
structure Running (ε : Type) where
  ctx_done : Bool
  cancelled : Bool
  listener_closed : Bool
  gateway : ServingPoint (Option ε)
  serve_errors : Option (Option ε)
  closing : Bool
  http : Service → Option (HttpServer ε)
  point : RunPoint ε

/-- The steps of the goroutines of an HTTP server: `ListenAndServe` fails or finds the
server closed, its result is sent, and `Shutdown` is called once `runCtx` is done
and returns. -/
inductive HttpAction (ε : Type) where
  | Fail (err : ε)
  | Closed
  | Send
  | Shutdown
  | ShutdownReturns

/-- The steps of `Run` and of what it has started: the context of the caller ends,
`Accept` hands over a connection or fails, the result of `Serve` is sent, the
goroutine of `Serve` closes the listener or leaves, an HTTP server takes a step,
one case of the `select` is taken, and the receive after it and the deferred calls
are made. -/
inductive RunAction (ε : Type) where
  | CancelCtx
  | Accept
  | AcceptFails (err : ε)
  | AcceptClosed
  | SendServe
  | CloseOnDone
  | CloserLeaves
  | Http (service : Service) (action : HttpAction ε)
  | TakeServe
  | TakeHttp (service : Service)
  | TakeDone
  | Drain
  | CloseListener
  | CancelRun

variable {ε : Type}

namespace HttpServer

/-- Both goroutines have been started. -/
def start : HttpServer ε := ⟨.Serving, none, .Waiting⟩

/-- A step of the goroutines of an HTTP server. `ListenAndServe` returns
`ErrServerClosed` once `Shutdown` has been called, and may fail at any time. -/
def act (done : Bool) (h : HttpServer ε) : HttpAction ε → Option (HttpServer ε)
  | .Fail err =>
    match h.serving with
    | .Serving => some { h with serving := .Ended (.Failed err) }
    | _ => none
  | .Closed =>
    match h.serving, h.shutdown with
    | .Serving, .Shutting | .Serving, .Finished => some { h with serving := .Ended .ServerClosed }
    | _, _ => none
  | .Send =>
    match h.serving, h.channel with
    | .Ended result, none => some { h with serving := .Sent result, channel := some result }
    | _, _ => none
  | .Shutdown =>
    match h.shutdown, done with
    | .Waiting, true => some { h with shutdown := .Shutting }
    | _, _ => none
  | .ShutdownReturns =>
    match h.shutdown with
    | .Shutting => some { h with shutdown := .Finished }
    | _ => none

end HttpServer

namespace Running

/-- After the listener is open and everything has been started. -/
def start (pprof : Bool) : Running ε where
  ctx_done := false
  cancelled := false
  listener_closed := false
  gateway := .Serving
  serve_errors := none
  closing := true
  http
    | .Health => some .start
    | .Pprof => if pprof then some .start else none
  point := .Select

/-- `runCtx.Err() != nil`. -/
def done (s : Running ε) : Bool := s.ctx_done || s.cancelled

/-- What `Run` makes of the error of an HTTP server. -/
def httpResult (s : Running ε) (service : Service) : HttpError ε → Option (RunError ε)
  | .ServerClosed => if s.done then none else some (.Http service .ServerClosed)
  | .Failed err => some (.Http service (.Failed err))

/-- One step, or `none` where it cannot be taken. A case of the `select` is taken only
when its channel is ready, and of several that are ready any may be taken. -/
def step (s : Running ε) : RunAction ε → Option (Running ε)
  | .CancelCtx => some { s with ctx_done := true }
  | .Accept =>
    match s.gateway, s.listener_closed with
    | .Serving, false => some (if s.done then { s with gateway := .Ended none } else s)
    | _, _ => none
  | .AcceptFails err =>
    match s.gateway with
    | .Serving => some { s with gateway := .Ended (if s.done then none else some err) }
    | _ => none
  | .AcceptClosed =>
    match s.gateway, s.listener_closed with
    | .Serving, true => some { s with gateway := .Ended none }
    | _, _ => none
  | .SendServe =>
    match s.gateway, s.serve_errors with
    | .Ended result, none => some { s with gateway := .Sent result, serve_errors := some result }
    | _, _ => none
  | .CloseOnDone =>
    if s.closing ∧ s.done then some { s with closing := false, listener_closed := true } else none
  | .CloserLeaves =>
    match s.gateway, s.closing with
    | .Serving, _ | _, false => none
    | _, true => some { s with closing := false }
  | .Http service action =>
    match s.http service with
    | none => none
    | some h =>
      match h.act s.done action with
      | none => none
      | some h => some { s with http := Function.update s.http service (some h) }
  | .TakeServe =>
    match s.point, s.serve_errors with
    | .Select, some result => some { s with serve_errors := none, point := .CloseListener (result.map .Serve) }
    | _, _ => none
  | .TakeHttp service =>
    match s.point, s.http service with
    | .Select, some h =>
      match h.channel with
      | none => none
      | some err =>
        some { s with
          http := Function.update s.http service (some { h with channel := none })
          point := .CloseListener (s.httpResult service err) }
    | _, _ => none
  | .TakeDone =>
    match s.point with
    | .Select => if s.done then some { s with point := .Drain } else none
    | _ => none
  | .Drain =>
    match s.point, s.serve_errors with
    | .Drain, some result => some { s with serve_errors := none, point := .CloseListener (result.map .Serve) }
    | _, _ => none
  | .CloseListener =>
    match s.point with
    | .CloseListener result => some { s with listener_closed := true, point := .CancelRun result }
    | _ => none
  | .CancelRun =>
    match s.point with
    | .CancelRun result => some { s with cancelled := true, point := .Returned result }
    | _ => none

end Running

/-- What a step of an HTTP server does, with the guard under which it does it. -/
inductive HttpEffect (done : Bool) (h : HttpServer ε) : HttpAction ε → HttpServer ε → Prop where
  | Fail {err : ε} (hserving : h.serving = .Serving) :
      HttpEffect done h (.Fail err) { h with serving := .Ended (.Failed err) }
  | Closed (hserving : h.serving = .Serving) (hshutdown : h.shutdown ≠ .Waiting) :
      HttpEffect done h .Closed { h with serving := .Ended .ServerClosed }
  | Send {result : HttpError ε} (hserving : h.serving = .Ended result) (hroom : h.channel = none) :
      HttpEffect done h .Send { h with serving := .Sent result, channel := some result }
  | Shutdown (hshutdown : h.shutdown = .Waiting) (hdone : done = true) :
      HttpEffect done h .Shutdown { h with shutdown := .Shutting }
  | ShutdownReturns (hshutdown : h.shutdown = .Shutting) :
      HttpEffect done h .ShutdownReturns { h with shutdown := .Finished }

theorem http_effect {done : Bool} {h h' : HttpServer ε} {a : HttpAction ε} (hact : h.act done a = some h') :
    HttpEffect done h a h' := by
  cases a with
  | Fail err =>
    simp only [HttpServer.act] at hact
    split at hact
    · rename_i hserving
      cases hact
      exact .Fail hserving
    · cases hact
  | Closed =>
    simp only [HttpServer.act] at hact
    split at hact
    · rename_i hserving hshutdown
      cases hact
      exact .Closed hserving (by simp [hshutdown])
    · rename_i hserving hshutdown
      cases hact
      exact .Closed hserving (by simp [hshutdown])
    · cases hact
  | Send =>
    simp only [HttpServer.act] at hact
    split at hact
    · rename_i result hserving hroom
      cases hact
      exact .Send hserving hroom
    · cases hact
  | Shutdown =>
    simp only [HttpServer.act] at hact
    split at hact
    · rename_i hshutdown
      cases hact
      exact .Shutdown hshutdown rfl
    · cases hact
  | ShutdownReturns =>
    simp only [HttpServer.act] at hact
    split at hact
    · rename_i hshutdown
      cases hact
      exact .ShutdownReturns hshutdown
    · cases hact

/-- What a step of `Run` or of one of its goroutines does, with the guard under which it
does it. -/
inductive RunEffect (s : Running ε) : RunAction ε → Running ε → Prop where
  | CancelCtx : RunEffect s .CancelCtx { s with ctx_done := true }
  | Accept : RunEffect s .Accept s
  | AcceptDone {a : RunAction ε} (hserving : s.gateway = .Serving) (hdone : s.done = true) :
      RunEffect s a { s with gateway := .Ended none }
  | AcceptFails {err : ε} (hserving : s.gateway = .Serving) :
      RunEffect s (.AcceptFails err) { s with gateway := .Ended (some err) }
  | AcceptClosed (hserving : s.gateway = .Serving) (hclosed : s.listener_closed = true) :
      RunEffect s .AcceptClosed { s with gateway := .Ended none }
  | SendServe {result : Option ε} (hgateway : s.gateway = .Ended result) (hroom : s.serve_errors = none) :
      RunEffect s .SendServe { s with gateway := .Sent result, serve_errors := some result }
  | CloseOnDone (hclosing : s.closing = true) (hdone : s.done = true) :
      RunEffect s .CloseOnDone { s with closing := false, listener_closed := true }
  | CloserLeaves (hgateway : s.gateway ≠ .Serving) (hclosing : s.closing = true) :
      RunEffect s .CloserLeaves { s with closing := false }
  | Http {service : Service} {action : HttpAction ε} {h h' : HttpServer ε} (hh : s.http service = some h)
      (heffect : HttpEffect s.done h action h') :
      RunEffect s (.Http service action) { s with http := Function.update s.http service (some h') }
  | TakeServe {result : Option ε} (hpoint : s.point = .Select) (hresult : s.serve_errors = some result) :
      RunEffect s .TakeServe { s with serve_errors := none, point := .CloseListener (result.map .Serve) }
  | TakeHttp {service : Service} {h : HttpServer ε} {err : HttpError ε} (hpoint : s.point = .Select)
      (hh : s.http service = some h) (herr : h.channel = some err) :
      RunEffect s (.TakeHttp service)
        { s with
          http := Function.update s.http service (some { h with channel := none })
          point := .CloseListener (s.httpResult service err) }
  | TakeDone (hpoint : s.point = .Select) (hdone : s.done = true) : RunEffect s .TakeDone { s with point := .Drain }
  | Drain {result : Option ε} (hpoint : s.point = .Drain) (hresult : s.serve_errors = some result) :
      RunEffect s .Drain { s with serve_errors := none, point := .CloseListener (result.map .Serve) }
  | CloseListener {result : Option (RunError ε)} (hpoint : s.point = .CloseListener result) :
      RunEffect s .CloseListener { s with listener_closed := true, point := .CancelRun result }
  | CancelRun {result : Option (RunError ε)} (hpoint : s.point = .CancelRun result) :
      RunEffect s .CancelRun { s with cancelled := true, point := .Returned result }

theorem run_effect {s s' : Running ε} {a : RunAction ε} (hstep : s.step a = some s') : RunEffect s a s' := by
  cases a with
  | CancelCtx =>
    cases hstep
    exact .CancelCtx
  | Accept =>
    simp only [Running.step] at hstep
    split at hstep
    · rename_i hserving _
      cases hdone : s.done with
      | true =>
        simp only [hdone, if_true, Option.some.injEq] at hstep
        subst hstep
        exact .AcceptDone hserving hdone
      | false =>
        simp only [hdone, Bool.false_eq_true, if_false, Option.some.injEq] at hstep
        subst hstep
        exact .Accept
    · cases hstep
  | AcceptFails err =>
    simp only [Running.step] at hstep
    split at hstep
    · rename_i hserving
      cases hdone : s.done with
      | true =>
        simp only [hdone, if_true, Option.some.injEq] at hstep
        subst hstep
        exact .AcceptDone hserving hdone
      | false =>
        simp only [hdone, Bool.false_eq_true, if_false, Option.some.injEq] at hstep
        subst hstep
        exact .AcceptFails hserving
    · cases hstep
  | AcceptClosed =>
    simp only [Running.step] at hstep
    split at hstep
    · rename_i hserving hclosed
      cases hstep
      exact .AcceptClosed hserving hclosed
    · cases hstep
  | SendServe =>
    simp only [Running.step] at hstep
    split at hstep
    · rename_i result hgateway hroom
      cases hstep
      exact .SendServe hgateway hroom
    · cases hstep
  | CloseOnDone =>
    simp only [Running.step] at hstep
    split at hstep
    · rename_i hguard
      cases hstep
      exact .CloseOnDone hguard.1 hguard.2
    · cases hstep
  | CloserLeaves =>
    simp only [Running.step] at hstep
    split at hstep
    · cases hstep
    · cases hstep
    · rename_i hclosing hgateway
      cases hstep
      exact .CloserLeaves hgateway hclosing
  | Http service action =>
    simp only [Running.step] at hstep
    split at hstep
    · cases hstep
    rename_i h hh
    split at hstep
    · cases hstep
    rename_i h' hact
    cases hstep
    exact .Http hh (http_effect hact)
  | TakeServe =>
    simp only [Running.step] at hstep
    split at hstep
    · rename_i result hpoint hresult
      cases hstep
      exact .TakeServe hpoint hresult
    · cases hstep
  | TakeHttp service =>
    simp only [Running.step] at hstep
    split at hstep
    · rename_i h hpoint hh
      split at hstep
      · cases hstep
      rename_i err herr
      cases hstep
      exact .TakeHttp hpoint hh herr
    · cases hstep
  | TakeDone =>
    simp only [Running.step] at hstep
    split at hstep
    · rename_i hpoint
      split at hstep
      · rename_i hdone
        cases hstep
        exact .TakeDone hpoint hdone
      · cases hstep
    · cases hstep
  | Drain =>
    simp only [Running.step] at hstep
    split at hstep
    · rename_i result hpoint hresult
      cases hstep
      exact .Drain hpoint hresult
    · cases hstep
  | CloseListener =>
    simp only [Running.step] at hstep
    split at hstep
    · rename_i result hpoint
      cases hstep
      exact .CloseListener hpoint
    · cases hstep
  | CancelRun =>
    simp only [Running.step] at hstep
    split at hstep
    · rename_i result hpoint
      cases hstep
      exact .CancelRun hpoint
    · cases hstep

/-- An HTTP server closes only in a shutdown, which waits for `runCtx`, and its channel
holds what it has ended with. -/
structure HttpServer.Fine (done : Bool) (h : HttpServer ε) : Prop where
  closed : h.serving = .Ended .ServerClosed ∨ h.serving = .Sent .ServerClosed → h.shutdown ≠ .Waiting
  begun : h.shutdown ≠ .Waiting → done = true
  room : (∀ result, h.serving ≠ .Sent result) → h.channel = none
  sent : ∀ result, h.channel = some result → h.serving = .Sent result

theorem HttpEffect.fine {done : Bool} {h h' : HttpServer ε} {a : HttpAction ε} (hfine : h.Fine done)
    (heffect : HttpEffect done h a h') : h'.Fine done := by
  obtain ⟨hclosed, hbegun, hroom, hsent⟩ := hfine
  cases heffect with
  | Fail hserving => exact ⟨by simp, hbegun, fun _ => hroom (by simp [hserving]), by simp [hroom, hserving]⟩
  | Closed hserving hshutdown =>
    exact ⟨fun _ => hshutdown, hbegun, fun _ => hroom (by simp [hserving]), by simp [hroom, hserving]⟩
  | Send hserving hempty =>
    refine ⟨fun h => hclosed ?_, hbegun, fun h => absurd rfl (h _), by simp⟩
    simpa [hserving] using h
  | Shutdown hshutdown hdone => exact ⟨by simp, fun _ => hdone, hroom, hsent⟩
  | ShutdownReturns hshutdown => exact ⟨by simp, fun _ => hbegun (by simp [hshutdown]), hroom, hsent⟩

theorem HttpEffect.sent {done : Bool} {h h' : HttpServer ε} {action : HttpAction ε} {result : HttpError ε}
    (heffect : HttpEffect done h action h') (hsent : h.serving = .Sent result) : h'.serving = .Sent result := by
  cases heffect <;> simp_all

theorem HttpServer.Fine.later {done done' : Bool} {h : HttpServer ε} (hfine : h.Fine done)
    (hdone : done = true → done' = true) : h.Fine done' :=
  ⟨hfine.closed, fun hshutdown => hdone (hfine.begun hshutdown), hfine.room, hfine.sent⟩

namespace Running

variable {s s' : Running ε} {a : RunAction ε}

/-- What the result of `Run` rests on. -/
structure Justified (s : Running ε) (result : Option (RunError ε)) : Prop where
  stopped : result = none → s.ctx_done = true
  serve : ∀ err, result = some (.Serve err) → s.gateway = .Sent (some err)
  http : ∀ service err, result = some (.Http service err) → err ≠ .ServerClosed ∧
    ∃ h, s.http service = some h ∧ h.serving = .Sent err

/-- `Serve` and its two goroutines. -/
structure Gatewaying (s : Running ε) : Prop where
  room : (∀ result, s.gateway ≠ .Sent result) → s.serve_errors = none
  sent : ∀ result, s.serve_errors = some result → s.gateway = .Sent result
  kept : ∀ result, s.gateway = .Sent result → s.point = .Select ∨ s.point = .Drain → s.serve_errors = some result
  stopped : s.gateway = .Ended none ∨ s.gateway = .Sent none → s.done = true ∨ s.listener_closed = true
  closing : s.closing = false → s.listener_closed = true ∨ s.gateway ≠ .Serving

/-- `Run` itself. -/
structure Pointed (s : Running ε) : Prop where
  early : s.point = .Select ∨ s.point = .Drain →
    s.cancelled = false ∧ (s.listener_closed = true → s.ctx_done = true)
  drain : s.point = .Drain → s.ctx_done = true
  closed : ∀ result, s.point = .CancelRun result ∨ s.point = .Returned result → s.listener_closed = true
  cancelled : ∀ result, s.point = .Returned result → s.cancelled = true
  result : ∀ result, s.point = .CloseListener result ∨ s.point = .CancelRun result ∨ s.point = .Returned result →
    s.Justified result

/-- What holds between the steps: each HTTP server, `Serve` and `Run` are where the
contexts and the channels allow them to be. -/
structure Invariant (s : Running ε) : Prop where
  http : ∀ service h, s.http service = some h → h.Fine s.done
  gateway : s.Gatewaying
  run : s.Pointed

/-- The invariant holds once the listener is open. -/
theorem start_invariant (pprof : Bool) : (start pprof : Running ε).Invariant := by
  refine ⟨?_, ?_, ?_⟩
  · intro service h hh
    have hstart : h = .start := by
      cases service <;> cases pprof <;> simp [start] at hh <;> exact hh.symm
    subst hstart
    constructor <;> simp [HttpServer.start]
  · constructor <;> simp [start]
  · constructor <;> simp [start]

/-- The servers after one of them has changed. -/
theorem http_update {P : HttpServer ε → Prop} {http : Service → Option (HttpServer ε)} {service : Service}
    {h : HttpServer ε} (hold : ∀ service server, http service = some server → P server) (hnew : P h) :
    ∀ other server, Function.update http service (some h) other = some server → P server := by
  intro other server hserver
  by_cases hsame : other = service
  · subst hsame
    rw [Function.update_self, Option.some.injEq] at hserver
    exact hserver ▸ hnew
  · rw [Function.update_of_ne hsame] at hserver
    exact hold other server hserver

/-- The HTTP servers keep to their part of the invariant. -/
theorem effect_http (h : s.Invariant) (heffect : RunEffect s a s') :
    ∀ service server, s'.http service = some server → server.Fine s'.done := by
  have hother := h.http
  cases heffect with
  | CancelCtx => exact fun service server hserver => (hother service server hserver).later fun _ => by simp [done]
  | CancelRun => exact fun service server hserver => (hother service server hserver).later fun _ => by simp [done]
  | Http hh hhttp => exact http_update hother (HttpEffect.fine (hother _ _ hh) hhttp)
  | TakeHttp hpoint hh herr =>
    have hfine := hother _ _ hh
    exact http_update hother ⟨hfine.closed, hfine.begun, fun _ => rfl, by simp⟩
  | _ => exact hother

/-- `Serve` keeps to its part of the invariant. -/
theorem effect_gateway (h : s.Gatewaying) (heffect : RunEffect s a s') : s'.Gatewaying := by
  obtain ⟨hroom, hsent, hkept, hstopped, hclosing⟩ := h
  cases heffect with
  | _ => constructor <;> simp_all [done]

/-- What has been sent has been sent. -/
structure Persists (s s' : Running ε) : Prop where
  ctx_done : s.ctx_done = true → s'.ctx_done = true
  gateway : ∀ result, s.gateway = .Sent result → s'.gateway = .Sent result
  http : ∀ service result, (∃ h, s.http service = some h ∧ h.serving = .Sent result) →
    ∃ h, s'.http service = some h ∧ h.serving = .Sent result

/-- A reason to return remains one, as nothing that it rests on is ever taken back. -/
theorem Justified.persists {result : Option (RunError ε)} (h : s.Justified result) (hkept : s.Persists s') :
    s'.Justified result := by
  refine ⟨fun hnone => hkept.ctx_done (h.stopped hnone), fun err herr => hkept.gateway _ (h.serve err herr), ?_⟩
  intro service err herr
  obtain ⟨hother, hsent⟩ := h.http service err herr
  exact ⟨hother, hkept.http service err hsent⟩

/-- A step of one server does not touch what another has sent. -/
theorem http_update_sent {http : Service → Option (HttpServer ε)} {service : Service} {h h' : HttpServer ε}
    (hh : http service = some h) (hsent : ∀ result, h.serving = .Sent result → h'.serving = .Sent result)
    (other : Service) (result : HttpError ε)
    (hserver : ∃ server, http other = some server ∧ server.serving = .Sent result) :
    ∃ server, Function.update http service (some h') other = some server ∧ server.serving = .Sent result := by
  obtain ⟨server, hserver, hserving⟩ := hserver
  by_cases hsame : other = service
  · subst hsame
    obtain rfl := Option.some.inj (hh.symm.trans hserver)
    exact ⟨h', Function.update_self .., hsent result hserving⟩
  · exact ⟨server, by rw [Function.update_of_ne hsame, hserver], hserving⟩

/-- Contexts stay done, the listener stays closed and results stay sent. -/
theorem effect_persists (heffect : RunEffect s a s') : s.Persists s' := by
  cases heffect with
  | CancelCtx => exact ⟨fun _ => rfl, fun _ => id, fun _ _ => id⟩
  | AcceptDone hserving | AcceptFails hserving | AcceptClosed hserving =>
    exact ⟨id, by simp [hserving], fun _ _ => id⟩
  | SendServe hgateway => exact ⟨id, by simp [hgateway], fun _ _ => id⟩
  | Http hh hhttp => exact ⟨id, fun _ => id, http_update_sent hh fun _ => HttpEffect.sent hhttp⟩
  | TakeHttp hpoint hh => exact ⟨id, fun _ => id, http_update_sent hh fun _ => id⟩
  | _ => exact ⟨id, fun _ => id, fun _ _ => id⟩

/-- `Run` returns what `Serve` has sent: `nil` only when the context is done. -/
theorem Invariant.take_serve {result : Option ε} (h : s.Invariant) (hpoint : s.point = .Select ∨ s.point = .Drain)
    (hresult : s.serve_errors = some result) :
    Justified { s with serve_errors := none, point := .CloseListener (result.map .Serve) } (result.map .Serve) := by
  have hsent := h.gateway.sent result hresult
  obtain ⟨hrunning, hlistener⟩ := h.run.early hpoint
  refine ⟨fun hnone => ?_, fun err herr => ?_, by simp⟩
  · obtain rfl : result = none := by simpa using hnone
    obtain hdone | hclosed := h.gateway.stopped (.inr hsent)
    · simpa [done, hrunning] using hdone
    · exact hlistener hclosed
  · obtain rfl : result = some err := by simpa using herr
    exact hsent

/-- `ErrServerClosed` comes from the shutdown that follows the context. -/
theorem Invariant.take_http {service : Service} {server : HttpServer ε} {err : HttpError ε} (h : s.Invariant)
    (hpoint : s.point = .Select) (hserver : s.http service = some server) (herr : server.channel = some err) :
    Justified { s with
      http := Function.update s.http service (some { server with channel := none })
      point := .CloseListener (s.httpResult service err) } (s.httpResult service err) := by
  have hfine := h.http service server hserver
  have hsent := hfine.sent err herr
  obtain ⟨hrunning, -⟩ := h.run.early (.inl hpoint)
  cases err with
  | ServerClosed =>
    have hdone := hfine.begun (hfine.closed (.inr hsent))
    have hctx : s.ctx_done = true := by simpa [done, hrunning] using hdone
    exact ⟨fun _ => hctx, by simp [httpResult, hdone], by simp [httpResult, hdone]⟩
  | Failed err =>
    refine ⟨by simp [httpResult], by simp [httpResult], ?_⟩
    simp only [httpResult, Option.some.injEq, RunError.Http.injEq]
    rintro other err' ⟨rfl, rfl⟩
    exact ⟨by simp, _, Function.update_self .., hsent⟩

/-- `Run` keeps to its part of the invariant: a result comes with its reason when it
is taken from a channel, and keeps it through the deferred calls. -/
theorem effect_run (h : s.Invariant) (heffect : RunEffect s a s') : s'.Pointed := by
  have hkept := effect_persists heffect
  have hresult := fun result hpoint => (h.run.result result hpoint).persists hkept
  obtain ⟨hearly, hdrain, hclosed, hcancelled, -⟩ := h.run
  cases heffect with
  | TakeServe hpoint hserve =>
    refine ⟨by simp, by simp, by simp, by simp, fun result hat => ?_⟩
    obtain rfl : _ = result := by simpa using hat
    exact h.take_serve (.inl hpoint) hserve
  | Drain hpoint hserve =>
    refine ⟨by simp, by simp, by simp, by simp, fun result hat => ?_⟩
    obtain rfl : _ = result := by simpa using hat
    exact h.take_serve (.inr hpoint) hserve
  | TakeHttp hpoint hh herr =>
    refine ⟨by simp, by simp, by simp, by simp, fun result hat => ?_⟩
    obtain rfl : _ = result := by simpa using hat
    exact h.take_http hpoint hh herr
  | TakeDone hpoint hdone =>
    have hctx : s.ctx_done = true := by simpa [done, (hearly (.inl hpoint)).1] using hdone
    exact ⟨fun _ => hearly (.inl hpoint), fun _ => hctx, by simp, by simp, by simp⟩
  | CloseListener hpoint =>
    refine ⟨by simp, by simp, by simp, by simp, fun result hat => hresult result ?_⟩
    simpa [hpoint] using hat
  | CancelRun hpoint =>
    refine ⟨by simp, by simp, fun result _ => hclosed _ (.inl hpoint), by simp, fun result hat => hresult result ?_⟩
    simpa [hpoint] using hat
  | CancelCtx => exact ⟨fun hat => ⟨(hearly hat).1, fun _ => rfl⟩, fun _ => rfl, hclosed, hcancelled, hresult⟩
  | CloseOnDone hclosing hdone =>
    refine ⟨fun hat => ⟨(hearly hat).1, fun _ => ?_⟩, hdrain, fun _ _ => rfl, hcancelled, hresult⟩
    simpa [done, (hearly hat).1] using hdone
  | _ => exact ⟨hearly, hdrain, hclosed, hcancelled, hresult⟩

theorem step_invariant (h : s.Invariant) (hstep : s.step a = some s') : s'.Invariant := by
  have heffect := run_effect hstep
  exact ⟨effect_http h heffect, effect_gateway h.gateway heffect, effect_run h heffect⟩

theorem reaches_invariant {pprof : Bool} {acts : List (RunAction ε)} (run : Reaches step (start pprof) acts s) :
    s.Invariant :=
  run.invariant (start_invariant pprof) fun h _ hstep => step_invariant h hstep

/-- `Run` returns `nil` only when its context is cancelled, and otherwise the error with
which the gateway or an HTTP server has ended; the `ErrServerClosed` of its own
shutdown is never reported. When it is back, `runCtx` is cancelled and the listener
is closed. -/
theorem run_returns_for_a_reason {pprof : Bool} {acts : List (RunAction ε)} {result : Option (RunError ε)}
    (run : Reaches step (start pprof) acts s) (hreturned : s.point = .Returned result) :
    s.Justified result ∧ s.cancelled = true ∧ s.listener_closed = true := by
  have h := (reaches_invariant run).run
  exact ⟨h.result result (.inr (.inr hreturned)), h.cancelled result hreturned, h.closed result (.inr hreturned)⟩

/-- The health endpoint cannot listen. -/
theorem run_returns_for_a_reason_of_health :
    ∃ s : Running Nat, Reaches step (start false)
        [.Http .Health (.Fail 98), .Http .Health .Send, .TakeHttp .Health, .CloseListener, .CancelRun] s ∧
      s.point = .Returned (some (.Http .Health (.Failed 98))) ∧
      s.Justified (some (.Http .Health (.Failed 98))) ∧ s.cancelled = true ∧ s.listener_closed = true := by
  have hreached : ∃ s : Running Nat, Reaches step (start false)
      [.Http .Health (.Fail 98), .Http .Health .Send, .TakeHttp .Health, .CloseListener, .CancelRun] s ∧
      decide (s.point = .Returned (some (.Http .Health (.Failed 98)))) = true :=
    Reaches.of_exec _ (by decide +kernel)
  obtain ⟨s, run, hobserved⟩ := hreached
  have hreturned := of_decide_eq_true hobserved
  exact ⟨s, run, hreturned, run_returns_for_a_reason run hreturned⟩

end Running

end regiongate.app
