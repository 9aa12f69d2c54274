import RegionGate.Error
import RegionGate.Execution

open execution

namespace regiongate.backend

/-- Where the function that `interruptOnDone` gives to `context.AfterFunc` is. The
context starts it in a goroutine of its own, or `stop` keeps it from ever
running, whichever comes first. -/
inductive HookPoint where
  | Armed
  | Started
  | Interrupted
  | Closed
  | Stopped
  deriving DecidableEq

/-- One `CompleteLogin` or `CompleteConfiguration`: its context with a timeout, and
the function registered on it. `once` is the `sync.Once` of `stopInterrupt`. -/
structure Attempt where
  timeout : Nat
  expires : Nat
  err : Option CtxErr
  hook : Option HookPoint
  once : Bool
  deriving DecidableEq

/-- What comes after `stopInterrupt` and `cancel`: the rest of the successful case,
or the return of the function, whose deferred calls they are. -/
inductive Ending where
  | Success
  | Return (result : Except Error Unit)

/-- Where the caller is. `Write` is a `WriteFrame` under way; the last one is the
acknowledgement, after which the exchange has succeeded. -/
inductive ExchangePoint where
  | SetRead
  | SetWrite
  | Register
  | Read
  | Handle
  | Write (last : Bool)
  | Stop (ending : Ending)
  | Wait (ending : Ending)
  | Cancel (ending : Ending)
  | ClearRead
  | ClearWrite
  | Returned (result : Except Error Unit)

/-- The exchanges of `Prepare` with one backend connection, one after the other.
The deadlines are those of the connection, `none` for the zero time. `buffered`
counts the whole frames in the buffer of the transport's reader, which are read
without the connection. `past` holds the attempts that have returned, whose
functions may still be around. -/
structure Exchanging where
  now : Nat
  parent : Option CtxErr
  read_deadline : Option Nat
  write_deadline : Option Nat
  buffered : Nat
  timeouts : List Nat
  past : List Attempt
  current : Attempt
  point : ExchangePoint

/-- The steps of a context and of the function registered on it. -/
inductive HookAction where
  | Propagate
  | Expire
  | Fire
  | Interrupt
  | Close
  deriving DecidableEq

/-- The steps of the function, not of the context. -/
def HookAction.ofFunction : HookAction → Bool
  | .Propagate | .Expire => false
  | .Fire | .Interrupt | .Close => true

/-- The steps of the clock, of the contexts with their functions, of the connection
and of the caller. `Receive` is a read of the connection that completes some
frames, `Frame` takes one of them. `Continue`, `Reply` and `Fail` are what the
caller makes of a frame: nothing, a frame to write, or an error. -/
inductive ExchangeAction where
  | Tick
  | CancelParent (err : CtxErr)
  | Current (action : HookAction)
  | Past (index : Nat) (action : HookAction)
  | Proceed
  | Receive (frames : Nat)
  | Frame
  | ReadTimeout
  | ReadError
  | Continue
  | Reply (last : Bool)
  | Fail (err : Error)
  | Written
  | WriteTimeout
  | WriteError
  | Next
  deriving DecidableEq

namespace Attempt

/-- `context.WithTimeout`. -/
def start (now timeout : Nat) : Attempt :=
  { timeout, expires := now + timeout, err := none, hook := none, once := false }

/-- A step of the context or of the registered function; `Interrupt` is the one that
uses the connection. -/
def act (a : Attempt) (now : Nat) (parent : Option CtxErr) : HookAction → Option Attempt
  | .Propagate => if a.err = none ∧ parent ≠ none then some { a with err := parent } else none
  | .Expire => if a.err = none ∧ a.expires ≤ now then some { a with err := some .DeadlineExceeded } else none
  | .Fire => if a.err ≠ none ∧ a.hook = some .Armed then some { a with hook := some .Started } else none
  | .Interrupt => if a.hook = some .Started then some { a with hook := some .Interrupted } else none
  | .Close => if a.hook = some .Interrupted then some { a with hook := some .Closed } else none

/-- The function will never run again. -/
def Dead (a : Attempt) : Prop := a.hook = some .Stopped ∨ a.hook = some .Closed

end Attempt

namespace Exchanging

/-- The first exchange is about to set its deadlines, under a context that may
still end. -/
def start (timeout : Nat) (timeouts : List Nat) : Exchanging where
  now := 0
  parent := none
  read_deadline := none
  write_deadline := none
  buffered := 0
  timeouts
  past := []
  current := .start 0 timeout
  point := .SetRead

/-- After `stopInterrupt`, `cancel`. -/
def stopped (s : Exchanging) (ending : Ending) : Exchanging := { s with point := .Cancel ending }

/-- The caller's own steps, between its reads and writes. -/
def proceed (s : Exchanging) : Option Exchanging :=
  match s.point with
  | .SetRead => some { s with read_deadline := some (s.now + s.current.timeout), point := .SetWrite }
  | .SetWrite => some { s with write_deadline := some (s.now + s.current.timeout), point := .Register }
  | .Register => some { s with current := { s.current with hook := some .Armed }, point := .Read }
  | .Stop ending =>
    if s.current.once then some (s.stopped ending)
    else
      let current := { s.current with once := true }
      if s.current.hook = some .Armed then
        some { s with current := { current with hook := some .Stopped }, point := .Cancel ending }
      else some { s with current, point := .Wait ending }
  | .Wait ending => if s.current.hook = some .Closed then some (s.stopped ending) else none
  | .Cancel ending =>
    let s := { s with current := { s.current with err := s.current.err <|> some CtxErr.Canceled } }
    match ending with
    | .Success => some { s with point := .ClearRead }
    | .Return result => some { s with point := .Returned result }
  | .ClearRead => some { s with read_deadline := none, point := .ClearWrite }
  | .ClearWrite => some { s with write_deadline := none, point := .Stop (.Return (.ok ())) }
  | .Read | .Handle | .Write _ | .Returned _ => none

/-- The error of a failed read: the context's own, if it is done. -/
def readErr (s : Exchanging) : Error :=
  match s.current.err with
  | none => .Read
  | some .Canceled => .Canceled
  | some .DeadlineExceeded => .DeadlineExceeded

/-- A read of the connection fails once its deadline has passed. -/
def readable (s : Exchanging) : Bool := s.read_deadline.all (s.now < ·)

/-- One step, of whoever comes first. -/
def step (s : Exchanging) : ExchangeAction → Option Exchanging
  | .Tick => some { s with now := s.now + 1 }
  | .CancelParent err => if s.parent = none then some { s with parent := some err } else none
  | .Current action =>
    match s.current.act s.now s.parent action with
    | none => none
    | some current =>
      some { s with current, read_deadline := if action = .Interrupt then some s.now else s.read_deadline }
  | .Past index action =>
    match s.past[index]? with
    | none => none
    | some a =>
      match a.act s.now s.parent action with
      | none => none
      | some a =>
        some { s with past := s.past.set index a,
                      read_deadline := if action = .Interrupt then some s.now else s.read_deadline }
  | .Proceed => s.proceed
  | .Receive frames =>
    match s.point with
    | .Read => if s.buffered = 0 ∧ s.readable then some { s with buffered := frames } else none
    | _ => none
  | .Frame =>
    match s.point, s.buffered with
    | .Read, buffered + 1 => some { s with buffered, point := .Handle }
    | _, _ => none
  | .ReadTimeout =>
    match s.point with
    | .Read =>
      if s.buffered = 0 ∧ ¬ s.readable then some { s with point := .Stop (.Return (.error s.readErr)) } else none
    | _ => none
  | .ReadError =>
    match s.point with
    | .Read => some { s with point := .Stop (.Return (.error s.readErr)) }
    | _ => none
  | .Continue =>
    match s.point with
    | .Handle => some { s with point := .Read }
    | _ => none
  | .Reply last =>
    match s.point with
    | .Handle => some { s with point := .Write last }
    | _ => none
  | .Fail err =>
    match s.point with
    | .Handle => some { s with point := .Stop (.Return (.error err)) }
    | _ => none
  | .Written =>
    match s.point with
    | .Write last => some { s with point := if last then .Stop .Success else .Read }
    | _ => none
  | .WriteTimeout =>
    match s.point, s.write_deadline with
    | .Write _, some deadline =>
      if deadline ≤ s.now then some { s with point := .Stop (.Return (.error .Write)) } else none
    | _, _ => none
  | .WriteError =>
    match s.point with
    | .Write _ => some { s with point := .Stop (.Return (.error .Write)) }
    | _ => none
  | .Next =>
    match s.point, s.timeouts with
    | .Returned (.ok ()), timeout :: timeouts =>
      some { s with timeouts, past := s.past ++ [s.current], current := .start s.now timeout, point := .SetRead }
    | _, _ => none

end Exchanging

section Effects

variable {a a' : Attempt} {now : Nat} {parent : Option CtxErr} {action : HookAction}

/-- What a context and its function can do. -/
theorem act_cases (h : a.act now parent action = some a') :
    (action.ofFunction = false ∧ ∃ err, a' = { a with err := some err }) ∨
      (action = .Fire ∧ a.hook = some .Armed ∧ a' = { a with hook := some .Started }) ∨
      (action = .Interrupt ∧ a.hook = some .Started ∧ a' = { a with hook := some .Interrupted }) ∨
      (action = .Close ∧ a.hook = some .Interrupted ∧ a' = { a with hook := some .Closed }) := by
  cases action with
  | Propagate =>
    simp only [Attempt.act] at h
    split at h
    · rename_i hdone
      obtain ⟨err, herr⟩ := Option.ne_none_iff_exists'.mp hdone.2
      cases h
      exact .inl ⟨rfl, err, by rw [herr]⟩
    · cases h
  | Expire =>
    simp only [Attempt.act] at h
    split at h
    · cases h
      exact .inl ⟨rfl, _, rfl⟩
    · cases h
  | Fire =>
    simp only [Attempt.act] at h
    split at h
    · rename_i harmed
      cases h
      exact .inr (.inl ⟨rfl, harmed.2, rfl⟩)
    · cases h
  | Interrupt =>
    simp only [Attempt.act] at h
    split at h
    · rename_i hstarted
      cases h
      exact .inr (.inr (.inl ⟨rfl, hstarted, rfl⟩))
    · cases h
  | Close =>
    simp only [Attempt.act] at h
    split at h
    · rename_i hinterrupted
      cases h
      exact .inr (.inr (.inr ⟨rfl, hinterrupted, rfl⟩))
    · cases h

theorem HookAction.ne_interrupt (h : action.ofFunction = false) : action ≠ .Interrupt := by
  rintro rfl
  cases h

/-- A function that is done with does nothing more, whatever its context does. -/
theorem Attempt.Dead.act (hdead : a.Dead) (h : a.act now parent action = some a') :
    action ≠ .Interrupt ∧ ∃ err, a' = { a with err := some err } := by
  obtain ⟨hcontext, herr⟩ | ⟨-, hhook, -⟩ | ⟨-, hhook, -⟩ | ⟨-, hhook, -⟩ := act_cases h
  · exact ⟨HookAction.ne_interrupt hcontext, herr⟩
  all_goals
    unfold Attempt.Dead at hdead
    simp [hhook] at hdead

end Effects

namespace Exchanging

/-- The state after a step of the current attempt's function. -/
def acted (s : Exchanging) (action : HookAction) (current : Attempt) : Exchanging :=
  { s with current, read_deadline := if action = .Interrupt then some s.now else s.read_deadline }

/-- What the caller does between its deadlines and `stopInterrupt`: where it gets to,
and the frames that are then buffered. -/
inductive Move (s : Exchanging) : ExchangeAction → Nat → ExchangePoint → Prop where
  | frame {buffered : Nat} (hpoint : s.point = .Read) (hbuffered : s.buffered = buffered + 1) :
      Move s .Frame buffered .Handle
  | read_timeout (hpoint : s.point = .Read) :
      Move s .ReadTimeout s.buffered (.Stop (.Return (.error s.readErr)))
  | read_error (hpoint : s.point = .Read) :
      Move s .ReadError s.buffered (.Stop (.Return (.error s.readErr)))
  | ignored (hpoint : s.point = .Handle) : Move s .Continue s.buffered .Read
  | reply (last : Bool) (hpoint : s.point = .Handle) : Move s (.Reply last) s.buffered (.Write last)
  | fail (err : Error) (hpoint : s.point = .Handle) : Move s (.Fail err) s.buffered (.Stop (.Return (.error err)))
  | written {last : Bool} (hpoint : s.point = .Write last) :
      Move s .Written s.buffered (if last then .Stop .Success else .Read)
  | write_timeout {last : Bool} (hpoint : s.point = .Write last) :
      Move s .WriteTimeout s.buffered (.Stop (.Return (.error .Write)))
  | write_error {last : Bool} (hpoint : s.point = .Write last) :
      Move s .WriteError s.buffered (.Stop (.Return (.error .Write)))

/-- What a step can do. -/
inductive Effect (s : Exchanging) : ExchangeAction → Exchanging → Prop where
  | tick : Effect s .Tick { s with now := s.now + 1 }
  | cancelled (err : CtxErr) : Effect s (.CancelParent err) { s with parent := some err }
  | current {action : HookAction} {current : Attempt} (hact : s.current.act s.now s.parent action = some current) :
      Effect s (.Current action) (s.acted action current)
  | past {index : Nat} {action : HookAction} {a a' : Attempt} (ha : s.past[index]? = some a)
      (hact : a.act s.now s.parent action = some a') :
      Effect s (.Past index action)
        { s with past := s.past.set index a',
                 read_deadline := if action = .Interrupt then some s.now else s.read_deadline }
  | proceeded {s' : Exchanging} (hproceed : s.proceed = some s') : Effect s .Proceed s'
  | received (frames : Nat) (hpoint : s.point = .Read) (hreadable : s.readable = true) :
      Effect s (.Receive frames) { s with buffered := frames }
  | moved {a : ExchangeAction} {buffered : Nat} {point : ExchangePoint} (hmove : Move s a buffered point) :
      Effect s a { s with buffered, point }
  | next {timeout : Nat} {timeouts : List Nat} (hpoint : s.point = .Returned (.ok ())) :
      Effect s .Next
        { s with timeouts, past := s.past ++ [s.current], current := .start s.now timeout, point := .SetRead }

theorem step_effect {s s' : Exchanging} {a : ExchangeAction} (h : s.step a = some s') : Effect s a s' := by
  cases a with
  | Tick =>
    cases h
    exact .tick
  | CancelParent err =>
    simp only [step] at h
    split at h
    · cases h
      exact .cancelled err
    · cases h
  | Current action =>
    simp only [step] at h
    split at h
    · cases h
    · rename_i current hact
      cases h
      exact .current hact
  | Past index action =>
    simp only [step] at h
    split at h
    · cases h
    · rename_i a ha
      split at h
      · cases h
      · rename_i a' hact
        cases h
        exact .past ha hact
  | Proceed => exact .proceeded h
  | Receive frames =>
    simp only [step] at h
    split at h
    · rename_i hpoint
      split at h
      · rename_i hopen
        cases h
        exact .received frames hpoint hopen.2
      · cases h
    · cases h
  | Frame =>
    simp only [step] at h
    split at h
    · rename_i buffered hpoint hbuffered
      cases h
      exact .moved (.frame hpoint hbuffered)
    · cases h
  | ReadTimeout =>
    simp only [step] at h
    split at h
    · rename_i hpoint
      split at h
      · cases h
        exact .moved (.read_timeout hpoint)
      · cases h
    · cases h
  | ReadError =>
    simp only [step] at h
    split at h
    · rename_i hpoint
      cases h
      exact .moved (.read_error hpoint)
    · cases h
  | Continue =>
    simp only [step] at h
    split at h
    · rename_i hpoint
      cases h
      exact .moved (.ignored hpoint)
    · cases h
  | Reply last =>
    simp only [step] at h
    split at h
    · rename_i hpoint
      cases h
      exact .moved (.reply last hpoint)
    · cases h
  | Fail err =>
    simp only [step] at h
    split at h
    · rename_i hpoint
      cases h
      exact .moved (.fail err hpoint)
    · cases h
  | Written =>
    simp only [step] at h
    split at h
    · rename_i last hpoint
      cases h
      exact .moved (.written hpoint)
    · cases h
  | WriteTimeout =>
    simp only [step] at h
    split at h
    · rename_i last deadline hpoint hdeadline
      split at h
      · cases h
        exact .moved (.write_timeout hpoint)
      · cases h
    · cases h
  | WriteError =>
    simp only [step] at h
    split at h
    · rename_i last hpoint
      cases h
      exact .moved (.write_error hpoint)
    · cases h
  | Next =>
    simp only [step] at h
    split at h
    · rename_i timeout timeouts hpoint htimeouts
      cases h
      exact .next hpoint
    · cases h

end Exchanging

/-- What a point of the caller says about the function and the deadlines. -/
inductive Stage where
  | Entering
  | Deadlined
  | Watched
  | Waiting
  | Released
  | ReadCleared
  | Cleared
  | Unreachable

/-- The stage of each point. A success waits for the hook before it becomes the
result, so it is not the result while the exchange waits. -/
def ExchangePoint.stage : ExchangePoint → Stage
  | .SetRead => .Entering
  | .SetWrite | .Register => .Deadlined
  | .Read | .Handle | .Write _ | .Stop .Success | .Stop (.Return (.error _)) => .Watched
  | .Wait .Success | .Wait (.Return (.error _)) => .Waiting
  | .Wait (.Return (.ok ())) => .Unreachable
  | .Cancel .Success | .Cancel (.Return (.error _)) | .ClearRead | .Returned (.error _) => .Released
  | .ClearWrite => .ReadCleared
  | .Stop (.Return (.ok ())) | .Cancel (.Return (.ok ())) | .Returned (.ok ()) => .Cleared

namespace Exchanging

/-- The deadline of the reads is set, and nothing is registered. -/
structure Deadlined (s : Exchanging) : Prop where
  once : s.current.once = false
  hook : s.current.hook = none
  deadline : ∃ deadline, s.read_deadline = some deadline ∧ deadline ≤ s.now + s.current.timeout

/-- An exchange under way: its reads have a deadline, and since the function is
registered after the deadline was set, its interrupt is the later of the
two. -/
structure Watched (s : Exchanging) : Prop where
  once : s.current.once = false
  hook : ∃ point, s.current.hook = some point ∧ point ≠ .Stopped ∧
    ∃ deadline, s.read_deadline = some deadline ∧ deadline ≤ s.now + s.current.timeout ∧
      (point = .Interrupted ∨ point = .Closed → deadline ≤ s.now)

/-- `stopInterrupt` waits for a function that has started. -/
structure Waiting (s : Exchanging) : Prop where
  once : s.current.once = true
  hook : s.current.hook = some .Started ∨ s.current.hook = some .Interrupted ∨ s.current.hook = some .Closed

/-- `stopInterrupt` has returned. -/
structure Released (s : Exchanging) : Prop where
  once : s.current.once = true
  dead : s.current.Dead

/-- Both deadlines are cleared and the hook is over. -/
structure Cleared (s : Exchanging) : Prop extends s.Released where
  read : s.read_deadline = none
  write : s.write_deadline = none

/-- What holds of the hook and the deadlines at each stage. -/
def Holds (s : Exchanging) : Stage → Prop
  | .Entering => s.current.once = false ∧ s.current.hook = none
  | .Deadlined => s.Deadlined
  | .Watched => s.Watched
  | .Waiting => s.Waiting
  | .Released => s.Released
  | .ReadCleared => s.Released ∧ s.read_deadline = none
  | .Cleared => s.Cleared
  | .Unreachable => False

/-- The hooks of earlier exchanges can do nothing any more, and that of the present
one is where the exchange has brought it. -/
structure Invariant (s : Exchanging) : Prop where
  past : ∀ a ∈ s.past, a.Dead
  holds : s.Holds s.point.stage

variable {s s' : Exchanging} {stage : Stage} {action : HookAction} {current : Attempt}

theorem start_invariant (timeout : Nat) (timeouts : List Nat) : (start timeout timeouts).Invariant :=
  ⟨by simp [start], rfl, rfl⟩

/-- What leaves the function and the deadlines alone keeps every stage. -/
theorem Holds.unchanged (h : s.Holds stage) (hcurrent : s'.current = { s.current with err := s'.current.err })
    (hread : s'.read_deadline = s.read_deadline) (hwrite : s'.write_deadline = s.write_deadline)
    (hnow : s.now ≤ s'.now) : s'.Holds stage := by
  have honce : s'.current.once = s.current.once := by rw [hcurrent]
  have hhook : s'.current.hook = s.current.hook := by rw [hcurrent]
  have htimeout : s'.current.timeout = s.current.timeout := by rw [hcurrent]
  have hreleased : s.Released → s'.Released := fun h => ⟨honce.trans h.once, by
    rw [Attempt.Dead, hhook]
    exact h.dead⟩
  cases stage with
  | Entering => exact ⟨honce.trans h.1, hhook.trans h.2⟩
  | Deadlined =>
    obtain ⟨hfirst, hnone, deadline, hdeadline, hbound⟩ := h
    exact ⟨honce.trans hfirst, hhook.trans hnone, deadline, hread.trans hdeadline, by omega⟩
  | Watched =>
    obtain ⟨hfirst, point, hpoint, hlive, deadline, hdeadline, hbound, hlate⟩ := h
    exact ⟨honce.trans hfirst, point, hhook.trans hpoint, hlive, deadline, hread.trans hdeadline, by omega,
      fun hp => Nat.le_trans (hlate hp) hnow⟩
  | Waiting =>
    obtain ⟨hfirst, hstarted⟩ := h
    rw [← hhook] at hstarted
    exact ⟨honce.trans hfirst, hstarted⟩
  | Released => exact hreleased h
  | ReadCleared => exact ⟨hreleased h.1, hread.trans h.2⟩
  | Cleared => exact ⟨hreleased h.toReleased, hread.trans h.read, hwrite.trans h.write⟩
  | Unreachable => exact h

/-- A function that can still run belongs to an exchange under way, or to a
`stopInterrupt` that waits for it. -/
theorem Holds.live {point : HookPoint} (h : s.Holds stage) (hhook : s.current.hook = some point)
    (hlive : point ≠ .Stopped ∧ point ≠ .Closed) :
    (stage = .Watched ∧ s.Watched) ∨ (stage = .Waiting ∧ s.Waiting) := by
  have hnotDead : ¬ s.current.Dead := by
    rintro (hdead | hdead)
    · exact hlive.1 (Option.some.inj (hhook.symm.trans hdead))
    · exact hlive.2 (Option.some.inj (hhook.symm.trans hdead))
  cases stage with
  | Entering => cases hhook.symm.trans h.2
  | Deadlined => cases hhook.symm.trans h.hook
  | Watched => exact .inl ⟨rfl, h⟩
  | Waiting => exact .inr ⟨rfl, h⟩
  | Released => exact absurd h.dead hnotDead
  | ReadCleared => exact absurd h.1.dead hnotDead
  | Cleared => exact absurd h.dead hnotDead
  | Unreachable => exact h.elim

/-- A step of the hook or of its context does not leave the stage. -/
theorem Holds.act (h : s.Holds stage) (hact : s.current.act s.now s.parent action = some current) :
    (s.acted action current).Holds stage := by
  obtain ⟨hquiet, err, rfl⟩ | ⟨rfl, hhook, rfl⟩ | ⟨rfl, hhook, rfl⟩ | ⟨rfl, hhook, rfl⟩ := act_cases hact
  · exact h.unchanged rfl (if_neg (HookAction.ne_interrupt hquiet)) rfl (Nat.le_refl _)
  · obtain ⟨rfl, hfirst, _, _, _, deadline, hdeadline, hbound, _⟩ | ⟨rfl, hwaiting⟩ := h.live hhook (by simp)
    · exact ⟨hfirst, .Started, rfl, by simp, deadline, hdeadline, hbound, by simp⟩
    · obtain ⟨-, hstarted⟩ := hwaiting
      simp [hhook] at hstarted
  · obtain ⟨rfl, hfirst, _, _, _, deadline, hdeadline, hbound, _⟩ | ⟨rfl, hwaiting⟩ := h.live hhook (by simp)
    · exact ⟨hfirst, .Interrupted, rfl, by simp, s.now, rfl, Nat.le_add_right _ _, fun _ => Nat.le_refl _⟩
    · exact ⟨hwaiting.once, .inr (.inl rfl)⟩
  · obtain ⟨rfl, hfirst, point, hpoint, _, deadline, hdeadline, hbound, hlate⟩ | ⟨rfl, hwaiting⟩ :=
      h.live hhook (by simp)
    · obtain rfl : .Interrupted = point := Option.some.inj (hhook.symm.trans hpoint)
      exact ⟨hfirst, .Closed, rfl, by simp, deadline, hdeadline, hbound, fun _ => hlate (.inl rfl)⟩
    · exact ⟨hwaiting.once, .inr (.inr rfl)⟩

theorem stage_of_ending (ending : Ending) : ending = .Return (.ok ()) ∨
    (ExchangePoint.stage (.Stop ending) = .Watched ∧ ExchangePoint.stage (.Wait ending) = .Waiting ∧
      ExchangePoint.stage (.Cancel ending) = .Released) := by
  rcases ending with _ | _ | _
  · exact .inr ⟨rfl, rfl, rfl⟩
  · exact .inr ⟨rfl, rfl, rfl⟩
  · exact .inl rfl

/-- `stopInterrupt` releases the function or goes to wait for it. -/
theorem Holds.stop {ending : Ending} (h : s.Holds (ExchangePoint.stage (.Stop ending)))
    (hpoint : s.point = .Stop ending) (hstep : s.proceed = some s') :
    s'.past = s.past ∧ s'.Holds s'.point.stage := by
  rw [proceed, hpoint] at hstep
  dsimp only at hstep
  obtain rfl | ⟨hstop, hwait, hcancel⟩ := stage_of_ending ending
  · have hcleared : s.Cleared := h
    rw [if_pos hcleared.once] at hstep
    cases hstep
    exact ⟨rfl, ⟨hcleared.once, hcleared.dead⟩, hcleared.read, hcleared.write⟩
  · rw [hstop] at h
    obtain ⟨hfirst, point, hhook, hlive, -⟩ := h
    rw [if_neg (by simp [hfirst])] at hstep
    split at hstep
    · cases hstep
      refine ⟨rfl, ?_⟩
      dsimp only
      rw [hcancel]
      exact ⟨rfl, .inl rfl⟩
    · rename_i harmed
      cases hstep
      refine ⟨rfl, ?_⟩
      dsimp only
      rw [hwait]
      refine ⟨rfl, ?_⟩
      dsimp only
      rw [hhook] at harmed ⊢
      cases point <;> simp_all

/-- A step of the caller brings it to its next stage, of which it has made the
condition true. -/
theorem Invariant.proceed (h : s.Invariant) (hstep : s.proceed = some s') : s'.Invariant := by
  have hholds := h.holds
  cases hpoint : s.point with
  | SetRead =>
    rw [Exchanging.proceed, hpoint] at hstep
    rw [hpoint] at hholds
    cases hstep
    exact ⟨h.past, hholds.1, hholds.2, _, rfl, Nat.le_refl _⟩
  | SetWrite =>
    rw [Exchanging.proceed, hpoint] at hstep
    rw [hpoint] at hholds
    cases hstep
    exact ⟨h.past, hholds.once, hholds.hook, hholds.deadline⟩
  | Register =>
    rw [Exchanging.proceed, hpoint] at hstep
    rw [hpoint] at hholds
    obtain ⟨hfirst, -, deadline, hdeadline, hbound⟩ := hholds
    cases hstep
    exact ⟨h.past, hfirst, .Armed, rfl, by simp, deadline, hdeadline, hbound, by simp⟩
  | Read =>
    rw [Exchanging.proceed, hpoint] at hstep
    cases hstep
  | Handle =>
    rw [Exchanging.proceed, hpoint] at hstep
    cases hstep
  | Write last =>
    rw [Exchanging.proceed, hpoint] at hstep
    cases hstep
  | Stop ending =>
    rw [hpoint] at hholds
    obtain ⟨hpast, hnext⟩ := hholds.stop hpoint hstep
    exact ⟨hpast ▸ h.past, hnext⟩
  | Wait ending =>
    rw [Exchanging.proceed, hpoint] at hstep
    rw [hpoint] at hholds
    dsimp only at hstep
    split at hstep
    · rename_i hclosed
      cases hstep
      refine ⟨h.past, ?_⟩
      obtain rfl | ⟨-, hwait, hcancel⟩ := stage_of_ending ending
      · exact hholds.elim
      · rw [hwait] at hholds
        dsimp only [stopped]
        rw [hcancel]
        exact ⟨hholds.once, .inr hclosed⟩
    · cases hstep
  | Cancel ending =>
    rw [Exchanging.proceed, hpoint] at hstep
    rw [hpoint] at hholds
    rcases ending with _ | _ | _
    · cases hstep
      exact ⟨h.past, hholds.once, hholds.dead⟩
    · cases hstep
      exact ⟨h.past, hholds.once, hholds.dead⟩
    · cases hstep
      exact ⟨h.past, ⟨hholds.once, hholds.dead⟩, hholds.read, hholds.write⟩
  | ClearRead =>
    rw [Exchanging.proceed, hpoint] at hstep
    rw [hpoint] at hholds
    cases hstep
    exact ⟨h.past, ⟨hholds.once, hholds.dead⟩, rfl⟩
  | ClearWrite =>
    rw [Exchanging.proceed, hpoint] at hstep
    rw [hpoint] at hholds
    cases hstep
    exact ⟨h.past, ⟨hholds.1.once, hholds.1.dead⟩, hholds.2, rfl⟩
  | Returned result =>
    rw [Exchanging.proceed, hpoint] at hstep
    cases hstep

/-- The hooks of earlier exchanges change nothing. -/
theorem Invariant.act_past {index : Nat} {a a' : Attempt} (h : s.Invariant) (ha : s.past[index]? = some a)
    (hact : a.act s.now s.parent action = some a') :
    Invariant { s with
      past := s.past.set index a'
      read_deadline := if action = .Interrupt then some s.now else s.read_deadline } := by
  have hdead := h.past a (List.mem_of_getElem? ha)
  obtain ⟨hquiet, err, rfl⟩ := hdead.act hact
  refine ⟨fun b hb => ?_, h.holds.unchanged rfl (if_neg hquiet) rfl (Nat.le_refl _)⟩
  obtain hb | rfl := List.mem_or_eq_of_mem_set hb
  · exact h.past b hb
  · exact hdead

/-- Reads and writes are made with the hook registered. -/
theorem Move.watched {a : ExchangeAction} {buffered : Nat} {point : ExchangePoint} (h : Move s a buffered point) :
    s.point.stage = .Watched ∧ point.stage = .Watched := by
  cases h with
  | frame hpoint | read_timeout hpoint | read_error hpoint | ignored hpoint | reply _ hpoint | fail _ hpoint
  | write_timeout hpoint | write_error hpoint => exact ⟨by rw [hpoint]; rfl, rfl⟩
  | @written last hpoint =>
    rw [hpoint]
    cases last <;> exact ⟨rfl, rfl⟩

theorem step_invariant {a : ExchangeAction} (h : s.Invariant) (hstep : s.step a = some s') : s'.Invariant := by
  have hholds := h.holds
  cases step_effect hstep with
  | tick => exact ⟨h.past, hholds.unchanged rfl rfl rfl (Nat.le_succ _)⟩
  | cancelled err => exact ⟨h.past, hholds.unchanged rfl rfl rfl (Nat.le_refl _)⟩
  | current hact => exact ⟨h.past, hholds.act hact⟩
  | past ha hact => exact h.act_past ha hact
  | proceeded hproceed => exact h.proceed hproceed
  | received frames => exact ⟨h.past, hholds.unchanged rfl rfl rfl (Nat.le_refl _)⟩
  | moved hmove =>
    -- reads, writes and the handling of frames do not touch the function
    rw [hmove.watched.1] at hholds
    refine ⟨h.past, ?_⟩
    dsimp only
    rw [hmove.watched.2]
    exact ⟨hholds.once, hholds.hook⟩
  | next hpoint =>
    rw [hpoint] at hholds
    refine ⟨fun a ha => ?_, rfl, rfl⟩
    obtain ha | ha := List.mem_append.mp ha
    · exact h.past a ha
    · rw [List.mem_singleton.mp ha]
      exact hholds.dead

theorem reaches_invariant {timeout : Nat} {timeouts : List Nat} {acts : List ExchangeAction}
    (run : Reaches step (start timeout timeouts) acts s) : s.Invariant :=
  run.invariant (start_invariant timeout timeouts) fun h _ hstep => step_invariant h hstep

/-- An exchange that has returned stays so until the next one begins. -/
theorem step_returned {a : ExchangeAction} {result : Except Error Unit} (hreturned : s.point = .Returned result)
    (hother : a ≠ .Next) (hstep : s.step a = some s') : s'.point = .Returned result := by
  cases step_effect hstep with
  | tick | cancelled | current | past | received => exact hreturned
  | proceeded hproceed =>
    rw [proceed, hreturned] at hproceed
    cases hproceed
  | moved hmove =>
    have hstage := hmove.watched.1
    rw [hreturned] at hstage
    cases result <;> cases hstage
  | next => exact absurd rfl hother

/-- The exchange has returned without an error. -/
structure Succeeded (s : Exchanging) : Prop where
  invariant : s.Invariant
  returned : s.point = .Returned (.ok ())

/-- A function interrupts the connection only during its own exchange, before
`stopInterrupt` has returned. Once an exchange has succeeded the connection has
no deadline, and none comes back, whatever the contexts do. -/
theorem interrupt_ends_with_exchange {timeout : Nat} {timeouts : List Nat} {acts : List ExchangeAction}
    (run : Reaches step (start timeout timeouts) acts s) :
    (∀ index, s.step (.Past index .Interrupt) = none) ∧
      (s.step (.Current .Interrupt) ≠ none → s.point.stage = .Watched ∨ s.point.stage = .Waiting) ∧
      (s.point = .Returned (.ok ()) → ∀ later s', Runs step (fun _ a => a ≠ .Next) s later s' →
        s'.read_deadline = none ∧ s'.write_deadline = none) := by
  have hinv := reaches_invariant run
  refine ⟨fun index => ?_, fun hinterrupt => ?_, fun hreturned later s' hlater => ?_⟩
  · simp only [step]
    split
    · rfl
    · rename_i a ha
      split
      · rfl
      · rename_i a' hact
        exact absurd rfl ((hinv.past a (List.mem_of_getElem? ha)).act hact).1
  · obtain ⟨s', hstep⟩ := Option.ne_none_iff_exists'.mp hinterrupt
    simp only [step] at hstep
    split at hstep
    · cases hstep
    · rename_i current hact
      obtain ⟨hquiet, -⟩ | ⟨hfire, -⟩ | ⟨-, hhook, -⟩ | ⟨hclose, -⟩ := act_cases hact
      · cases hquiet
      · cases hfire
      · obtain ⟨hstage, -⟩ | ⟨hstage, -⟩ := hinv.holds.live hhook (by simp)
        · exact .inl hstage
        · exact .inr hstage
      · cases hclose
  · have hlast : s'.Succeeded := hlater.invariant ⟨hinv, hreturned⟩ fun h hother hstep =>
      ⟨step_invariant h.invariant hstep, step_returned h.returned hother hstep⟩
    have hcleared := hlast.invariant.holds
    rw [hlast.returned] at hcleared
    exact ⟨hcleared.read, hcleared.write⟩

/-- The request is cancelled while the last frame of a login is handled, and
`stopInterrupt` has to wait. -/
def sampleRace : List ExchangeAction :=
  [.Proceed, .Proceed, .Proceed, .Receive 1, .Frame, .CancelParent .Canceled, .Current .Propagate, .Current .Fire,
    .Reply true, .Written, .Proceed, .Tick, .Current .Interrupt, .Current .Close, .Proceed, .Proceed, .Proceed,
    .Proceed, .Proceed, .Proceed]

/-- `Succeeded` as a test, for runs that are computed. -/
def returnedOk (s : Exchanging) : Bool :=
  match s.point with
  | .Returned (.ok ()) => true
  | _ => false

theorem returned_of_returnedOk (h : s.returnedOk = true) : s.point = .Returned (.ok ()) := by
  unfold returnedOk at h
  split at h
  · rename_i hpoint
    exact hpoint
  · cases h

/-- The context ends while a successful exchange is about to stop its hook, which has
to be waited for. -/
theorem interrupt_ends_with_exchange_of_a_race :
    ∃ s, Reaches step (start 10 [15]) sampleRace s ∧ s.point = .Returned (.ok ()) ∧
      s.read_deadline = none ∧ s.write_deadline = none := by
  have hreached : ∃ s, Reaches step (start 10 [15]) sampleRace s ∧ s.returnedOk = true :=
    Reaches.of_exec returnedOk (by decide)
  obtain ⟨s, run, hok⟩ := hreached
  have hreturned := returned_of_returnedOk hok
  exact ⟨s, run, hreturned, (interrupt_ends_with_exchange run).2.2 hreturned [] s .nil⟩

end Exchanging

end regiongate.backend
