import RegionGate.Server.Limbo

open regiongate.session regiongate.transfer execution

namespace regiongate.server

/-- The loop has returned and its deferred calls run. -/
def Location.ended : Location → Bool
  | .CancelItem _ | .CancelContext _ | .Untrack _ | .Closed _ => true
  | _ => false

/-- The deferred calls after the item was cancelled. -/
def Location.closing : Location → Bool
  | .CancelContext _ | .Untrack _ | .Closed _ => true
  | _ => false

/-- The transfer is released and the loop hands the sockets over. -/
def Location.handing : Location → Bool
  | .Replaying _ | .Answering | .Bridge => true
  | _ => false

/-- `Prepare` has begun its transfer and neither left it nor handed it out. -/
def PrepareLocation.working : PrepareLocation → Bool
  | .Begun | .Dialing | .LoggingIn | .LoggedIn | .Configuring | .Configured _ | .RollingBack _ => true
  | _ => false

namespace Limbo

theorem current_eq_some {s : Limbo} {k : Nat} {p : Prepared} :
    s.current = some (k, p) ↔
      s.prepared = some k ∧ ∃ attempt, s.attempts[k]? = some attempt ∧ attempt.prepared = some p := by
  unfold current
  cases hprepared : s.prepared with
  | none => simp
  | some k' =>
    dsimp only
    cases hattempt : s.attempts[k']? with
    | none =>
      simp only [reduceCtorEq, Option.some.injEq, false_iff, not_and]
      rintro rfl
      simp [hattempt]
    | some attempt =>
      simp only [Option.map_eq_some_iff, Prod.mk.injEq, Option.some.injEq]
      constructor
      · rintro ⟨_, hopen, rfl, rfl⟩
        exact ⟨rfl, attempt, hattempt, hopen⟩
      · rintro ⟨rfl, other, hother, hopen⟩
        rw [hattempt, Option.some.injEq] at hother
        subst hother
        exact ⟨p, hopen, rfl, rfl⟩

/-- An element of a list with one element changed. -/
theorem modify_eq_some {α : Type} {l : List α} {k i : Nat} {f : α → α} {x : α}
    (h : (l.modify k f)[i]? = some x) : ∃ old, l[i]? = some old ∧ x = if k = i then f old else old := by
  rw [List.getElem?_modify, Option.map_eq_map, Option.map_eq_some_iff] at h
  obtain ⟨old, hold, rfl⟩ := h
  exact ⟨old, hold, rfl⟩

/-- `respond` sends the answer of the active request; without one it sends on a nil
channel and blocks. -/
theorem respond_cases (s next : Limbo) (err : Option Error) :
    (s.active_admission = none ∧ s.respond err next = { s with location := .Blocked }) ∨
      ∃ request, s.active_admission = some request ∧ s.respond err next = next.send request err := by
  unfold respond
  cases s.active_admission with
  | none => exact .inl ⟨rfl, rfl⟩
  | some request => exact .inr ⟨request, rfl, rfl⟩

theorem respond_location (s next : Limbo) (err : Option Error) :
    (s.respond err next).location = .Blocked ∨ (s.respond err next).location = next.location := by
  obtain ⟨_, heq⟩ | ⟨_, _, heq⟩ := respond_cases s next err
  · exact .inl (by rw [heq])
  · exact .inr (by rw [heq]; rfl)

/-- The session after an accepted keepalive answer, before the gate is tried. -/
def answer (s : Limbo) (value : Int) : Limbo :=
  { s with
    pending_keep_alive := 0
    valid_keep_alives := s.valid_keep_alives + 1
    log := s.log ++ [.KeepAliveAnswered value] }

/-- The gate's variables after `startChallenge`, the queue apart. -/
def challenged (cfg : Config) (s : Limbo) : Limbo :=
  { s with
    challenge_started := true
    challenge_passed := s.challenge_passed || (!s.challenge_started && !cfg.challenge_hook)
    challenge_result := s.challenge_result || (!s.challenge_started && cfg.challenge_hook)
    required_keep_alives :=
      if s.challenge_started ∨ ¬ cfg.challenge_hook then s.required_keep_alives
      else
        match s.required with
        | none => s.required_keep_alives
        | some required => if required < 1 then 1 else required }

/-- The session after it entered the queue. -/
def enqueued (s : Limbo) : Limbo := { s with queued := true, log := s.log ++ [.Enqueued] }

/-- The session after its challenge hook returned nil. -/
def verdict (s : Limbo) : Limbo :=
  { s with challenge_result := false, challenge_passed := true, log := s.log ++ [.ChallengePassed] }

/-- The gate is open: the challenge passed and enough answers were counted. -/
def Open (s : Limbo) : Prop := s.challenge_passed = true ∧ s.required_keep_alives ≤ s.valid_keep_alives

/-- The session's item enters the queue. -/
structure Enqueues (cfg : Config) (q : AdmissionQueue) (s : Limbo) (q' : AdmissionQueue) : Prop where
  fresh : s.queued = false
  gate : s.Open
  configured : cfg.admission_queue = true ∧ cfg.transfer_coordinator.isSome = true
  item : ∃ n, q.enqueue .Background
    { id := s.queue_id, context := some (.Queue s.conn), admit_callback := some s.conn } = .ok (n, q')

/-- The queue is not tried: the session is in it already or was, the gate is
closed, or nothing is configured to admit it. -/
def Waits (cfg : Config) (s : Limbo) : Prop :=
  s.queued = true ∨ ¬ s.Open ∨ cfg.admission_queue = false ∨ cfg.transfer_coordinator = none

/-- The errors that `Enqueue` returns. -/
def queueErrors : List Error := [.QueueItemInvalid, .QueueDuplicate, .QueueFull]

theorem enqueue_error {background : Context} {q : AdmissionQueue} {item : queue.Item Context Conn}
    {e : Error} (h : q.enqueue background item = .error e) : e ∈ queueErrors := by
  unfold queue.FIFO.enqueue at h
  split at h
  · cases h
    decide
  · split at h
    · cases h
      decide
    · split at h
      · cases h
        decide
      · cases h

/-- The errors of `maybeEnqueue` are those of the queue. -/
theorem maybe_enqueue_error {cfg : Config} {q : AdmissionQueue} {s : Limbo} {e : Error}
    (h : s.maybe_enqueue cfg q = .error e) : e ∈ queueErrors := by
  unfold maybe_enqueue enqueue at h
  split at h
  · split at h
    · cases h
    · split at h
      · rename_i hqueue
        cases h
        exact enqueue_error hqueue
      · cases h
  · cases h

/-- `maybeEnqueue` does nothing or puts the player into the queue. -/
theorem maybe_enqueue_ok {cfg : Config} {q q' : AdmissionQueue} {s s' : Limbo}
    (h : s.maybe_enqueue cfg q = .ok (q', s')) :
    (s.Waits cfg ∧ q' = q ∧ s' = s) ∨ (s.Enqueues cfg q q' ∧ s' = s.enqueued) := by
  unfold maybe_enqueue enqueue at h
  split at h
  · rename_i hopen
    split at h
    · rename_i hunavailable
      cases h
      refine .inl ⟨?_, rfl, rfl⟩
      obtain hqueued | hqueue | hcoordinator := hunavailable
      · exact .inl hqueued
      · exact .inr (.inr (.inl (by simpa using hqueue)))
      · exact .inr (.inr (.inr (by simpa using hcoordinator)))
    · rename_i havailable
      obtain ⟨hfresh, hqueue, hcoordinator⟩ : s.queued = false ∧ cfg.admission_queue = true ∧
          cfg.transfer_coordinator.isSome = true := by
        simpa [not_or, Option.isSome_iff_ne_none] using havailable
      split at h
      · cases h
      · rename_i n next hitem
        cases h
        exact .inr ⟨⟨hfresh, hopen, ⟨hqueue, hcoordinator⟩, n, hitem⟩, rfl⟩
  · rename_i hclosed
    cases h
    exact .inl ⟨.inr (.inl hclosed), rfl, rfl⟩

theorem challenged_of_started {cfg : Config} {s : Limbo} (h : s.challenge_started = true) :
    s.challenged cfg = s := by
  cases s
  simp_all [challenged]

/-- The errors of a first answer are those of the queue. -/
theorem start_challenge_error {cfg : Config} {q : AdmissionQueue} {s : Limbo} {e : Error}
    (h : s.start_challenge cfg q = .error e) : e ∈ queueErrors := by
  unfold start_challenge at h
  split at h
  · cases h
  · split at h
    · exact maybe_enqueue_error h
    · cases h

/-- Without a hook the start of the challenge passes it and tries the gate. -/
theorem start_challenge_ok {cfg : Config} {q q' : AdmissionQueue} {s s' : Limbo}
    (h : s.start_challenge cfg q = .ok (q', s')) :
    (q' = q ∧ s' = s.challenged cfg) ∨
      ((s.challenged cfg).Enqueues cfg q q' ∧ s' = (s.challenged cfg).enqueued) := by
  unfold start_challenge at h
  split at h
  · rename_i hstarted
    cases h
    exact .inl ⟨rfl, (challenged_of_started hstarted).symm⟩
  · rename_i hstarted
    split at h
    · rename_i hhook
      have hchallenged : s.challenged cfg = { s with challenge_started := true, challenge_passed := true } := by
        simp_all [challenged]
      rw [← hchallenged] at h
      obtain ⟨_, rfl, rfl⟩ | hqueue := maybe_enqueue_ok h
      · exact .inl ⟨rfl, rfl⟩
      · exact .inr hqueue
    · rename_i hhook
      cases h
      refine .inl ⟨rfl, ?_⟩
      cases hrequired : s.required <;> simp_all [challenged]

/-- What an accepted answer does at the gate. -/
theorem gate_ok {cfg : Config} {q q₁ q' : AdmissionQueue} {s s₁ s' : Limbo}
    (hstart : s.start_challenge cfg q = .ok (q₁, s₁)) (hmaybe : s₁.maybe_enqueue cfg q₁ = .ok (q', s')) :
    ((s.challenged cfg).Waits cfg ∧ q' = q ∧ s' = s.challenged cfg) ∨
      ((s.challenged cfg).Enqueues cfg q q' ∧ s' = (s.challenged cfg).enqueued) := by
  obtain ⟨rfl, rfl⟩ | ⟨hqueue, rfl⟩ := start_challenge_ok hstart
  · exact maybe_enqueue_ok hmaybe
  · -- The second try finds the session queued.
    obtain ⟨_, rfl, rfl⟩ | ⟨hagain, _⟩ := maybe_enqueue_ok hmaybe
    · exact .inr ⟨hqueue, rfl⟩
    · cases hagain.fresh

/-- A refused enqueue leaves the queue alone. -/
theorem gate_error {cfg : Config} {q q₁ : AdmissionQueue} {s s₁ : Limbo} {e : Error}
    (hstart : s.start_challenge cfg q = .ok (q₁, s₁)) (hmaybe : s₁.maybe_enqueue cfg q₁ = .error e) :
    q₁ = q ∧ s₁ = s.challenged cfg := by
  obtain hsame | ⟨_, rfl⟩ := start_challenge_ok hstart
  · exact hsame
  · simp [maybe_enqueue, enqueue, enqueued] at hmaybe

/-- Everything a step of a session can do, branch by branch. -/
inductive Effect (cfg : Config) (q : AdmissionQueue) (s : Limbo) :
    Action → AdmissionQueue → Limbo → Prop where
  -- The loop returns, or takes a case that does nothing.
  | failed {a : Action} {e : Error} (hrunning : s.location.ended = false)
      (hhanding : s.location.handing = true →
        s.location = .Bridge ∨ a = .Proceed false ∧ ∃ replay, s.location = .Replaying replay) :
    Effect cfg q s a q (s.fail e)
  | idle {a : Action} (hlocation : s.location = .Select ∨ s.location = .AwaitingTeleport) : Effect cfg q s a q s
  -- The join sequence and the keepalives.
  | join_packet {packet : Clientbound} {rest : List Clientbound}
      (hlocation : s.location = .Joining (packet :: rest)) :
    Effect cfg q s (.Proceed true) q (s.write none packet (.Joining rest))
  | join_sent {written : Bool} (hlocation : s.location = .Joining []) :
    Effect cfg q s (.Proceed written) q { s with location := .AwaitingTeleport }
  | teleported {frame : Bytes} (hlocation : s.location = .AwaitingTeleport) :
    Effect cfg q s (.Frame (.ok frame)) q { s with location := .FirstKeepAlive }
  | keep_alive_sent (hlocation : s.location = .FirstKeepAlive ∨ s.location = .TickWrite) :
    Effect cfg q s (.Proceed true) q
      { s.write none (.KeepAlive s.keep_alive_id) .Select with timeout_armed := true }
  | ticked (hlocation : s.location = .Select) (hstate : s.session.state = .LimboPlay)
      (hpending : s.pending_keep_alive = 0) :
    Effect cfg q s .Tick q
      { s with
        keep_alive_id := s.keep_alive_id + 1
        pending_keep_alive := s.keep_alive_id + 1
        location := .TickWrite }
  | timed_out (hlocation : s.location = .Select) (harmed : s.timeout_armed = true) :
    Effect cfg q s .Timeout q (s.fail (.KeepAliveTimedOut s.pending_keep_alive))
  -- The queue status.
  | status_due (hlocation : s.location = .Select) (hqueued : s.queued = true)
      (hstate : s.session.state = .LimboPlay) :
    Effect cfg q s .QueueTick q { s with location := .StatusPosition }
  | unplaced {written : Bool} (hlocation : s.location = .StatusPosition) :
    Effect cfg q s (.Proceed written) q { s with location := .Select }
  | placed {written : Bool} {position : Nat} (hlocation : s.location = .StatusPosition) :
    Effect cfg q s (.Proceed written) q { s with location := .ActionBarWrite position }
  | action_bar_sent {position : Nat} (hlocation : s.location = .ActionBarWrite position) :
    Effect cfg q s (.Proceed true) q (s.write none (.ActionBar position) .Select)
  -- Client frames.
  | frame_malformed {frame : Bytes} {e : Error} (hlocation : s.location = .Select)
      (hid : codec.packet_id frame = .error e) :
    Effect cfg q s (.Frame (.ok frame)) q (s.reject frame .PlayMalformed)
  | barrier_frame {frame body : Bytes} {id : Int} (hlocation : s.location = .Select)
      (hid : codec.packet_id frame = .ok (id, body)) (hstate : s.session.state = .TransferBarrier) :
    Effect cfg q s (.Frame (.ok frame)) q { s with location := .BarrierFrame id frame }
  | limbo_frame {frame body : Bytes} {id : Int} (hlocation : s.location = .Select)
      (hid : codec.packet_id frame = .ok (id, body)) (hstate : s.session.state ≠ .TransferBarrier) :
    Effect cfg q s (.Frame (.ok frame)) q { s with location := .LimboFrame id frame }
  | barrier_inactive {written : Bool} {id : Int} {frame : Bytes}
      (hlocation : s.location = .BarrierFrame id frame) (hactive : s.session.active = none) :
    Effect cfg q s (.Proceed written) q (s.reject frame .BarrierInactive)
  | barrier_refused {written : Bool} {id : Int} {frame : Bytes} {b : BarrierState} {e : Error}
      (hlocation : s.location = .BarrierFrame id frame) (hactive : s.session.active = some b)
      (hcall : barrier_call b.phase id frame = .error e) :
    Effect cfg q s (.Proceed written) q (s.reject frame e)
  | barrier_read {written : Bool} {id : Int} {frame : Bytes} {b : BarrierState} {call : BarrierCall}
      (hlocation : s.location = .BarrierFrame id frame) (hactive : s.session.active = some b)
      (hcall : barrier_call b.phase id frame = .ok call) :
    Effect cfg q s (.Proceed written) q { s with location := .BarrierCall call frame }
  | call_refused {written : Bool} {call : BarrierCall} {frame : Bytes} {e : Error}
      (hlocation : s.location = .BarrierCall call frame)
      (hperform : call.perform s.session = (s.session, some e)) :
    Effect cfg q s (.Proceed written) q (s.reject frame e)
  | called {written : Bool} {call : BarrierCall} {frame : Bytes} {session : Session}
      (hlocation : s.location = .BarrierCall call frame)
      (hperform : call.perform s.session = (session, none)) :
    Effect cfg q s (.Proceed written) q
      { s with session, location := .Progress, log := s.log ++ callEvents call }
  | progressed {written : Bool} (hlocation : s.location = .Progress) :
    Effect cfg q s (.Proceed written) q { s with location := .Select }
  | progress_writes {written : Bool} {k : Nat} {b : BarrierState} (hlocation : s.location = .Progress)
      (hprepared : s.prepared = some k) (hactive : s.session.active = some b)
      (hphase : b.phase = BarrierClientConfiguration) (hsent : s.client_configuration_sent = false) :
    Effect cfg q s (.Proceed written) q { s with location := .WriteCheck }
  | progress_releases {written : Bool} {k : Nat} {b : BarrierState} (hlocation : s.location = .Progress)
      (hprepared : s.prepared = some k) (hactive : s.session.active = some b)
      (hphase : b.phase = BarrierReady) :
    Effect cfg q s (.Proceed written) q { s with location := .Releasing }
  | answer_refused {written : Bool} {frame : Bytes}
      (hlocation : s.location = .LimboFrame play.ServerboundKeepAliveID frame)
      (hanswer : ∀ value, play.parse_keep_alive frame = .ok value →
        s.pending_keep_alive = 0 ∨ value ≠ s.pending_keep_alive) :
    Effect cfg q s (.Proceed written) q (s.reject frame .PlayMalformed)
  | answer_unqueued {written : Bool} {frame : Bytes} {s₁ : Limbo} {e : Error}
      (hlocation : s.location = .LimboFrame play.ServerboundKeepAliveID frame)
      (hparse : play.parse_keep_alive frame = .ok s.pending_keep_alive)
      (hpending : s.pending_keep_alive ≠ 0) (he : e ∈ queueErrors)
      (hnext : s₁ = s.answer s.pending_keep_alive ∨ s₁ = (s.answer s.pending_keep_alive).challenged cfg) :
    Effect cfg q s (.Proceed written) q (s₁.reject frame e)
  | answered {written : Bool} {frame : Bytes}
      (hlocation : s.location = .LimboFrame play.ServerboundKeepAliveID frame)
      (hparse : play.parse_keep_alive frame = .ok s.pending_keep_alive)
      (hpending : s.pending_keep_alive ≠ 0)
      (hwaits : ((s.answer s.pending_keep_alive).challenged cfg).Waits cfg) :
    Effect cfg q s (.Proceed written) q
      { (s.answer s.pending_keep_alive).challenged cfg with timeout_armed := false, location := .Select }
  | answered_enqueued {written : Bool} {frame : Bytes} {q' : AdmissionQueue}
      (hlocation : s.location = .LimboFrame play.ServerboundKeepAliveID frame)
      (hparse : play.parse_keep_alive frame = .ok s.pending_keep_alive)
      (hpending : s.pending_keep_alive ≠ 0)
      (henqueues : ((s.answer s.pending_keep_alive).challenged cfg).Enqueues cfg q q') :
    Effect cfg q s (.Proceed written) q'
      { ((s.answer s.pending_keep_alive).challenged cfg).enqueued with
        timeout_armed := false, location := .Select }
  | frame_accepted {written : Bool} {id : Int} {frame : Bytes}
      (hlocation : s.location = .LimboFrame id frame) (hid : id ≠ play.ServerboundKeepAliveID) :
    Effect cfg q s (.Proceed written) q { s with location := .Select }
  | frame_refused {written : Bool} {id : Int} {frame : Bytes} {e : Error}
      (hlocation : s.location = .LimboFrame id frame) (hid : id ≠ play.ServerboundKeepAliveID) :
    Effect cfg q s (.Proceed written) q (s.reject frame e)
  -- The challenge verdict.
  | challenge_failed {err : Error} (hlocation : s.location = .Select) :
    Effect cfg q s (.ChallengeResult (some err)) q ({ s with challenge_result := false }.fail .ChallengeFailed)
  | challenge_unqueued {e : Error} (hlocation : s.location = .Select) (hresult : s.challenge_result = true) :
    Effect cfg q s (.ChallengeResult none) q (s.verdict.fail e)
  | challenge_passed (hlocation : s.location = .Select) (hresult : s.challenge_result = true)
      (hwaits : s.verdict.Waits cfg) :
    Effect cfg q s (.ChallengeResult none) q s.verdict
  | challenge_enqueued {q' : AdmissionQueue} (hlocation : s.location = .Select)
      (hresult : s.challenge_result = true) (henqueues : s.verdict.Enqueues cfg q q') :
    Effect cfg q s (.ChallengeResult none) q' s.verdict.enqueued
  -- Admission requests and the outcome of `Prepare`.
  | admission_refused {request : Nat} {rest : List Nat} (hlocation : s.location = .Select)
      (hadmissions : s.admissions = request :: rest)
      (hbusy : cfg.transfer_coordinator = none ∨ s.prepared.isSome = true ∨ s.session.state ≠ .LimboPlay) :
    Effect cfg q s .Admission q
      ({ s with admissions := rest }.send request (some .NotAvailableForTransfer))
  | admission_accepted {request : Nat} {rest : List Nat} (hlocation : s.location = .Select)
      (hadmissions : s.admissions = request :: rest) (hcoordinator : cfg.transfer_coordinator.isSome = true)
      (hprepared : s.prepared = none) (hstate : s.session.state = .LimboPlay) :
    Effect cfg q s .Admission q
      { s with
        admissions := rest
        active_admission := some request
        prepare_result := some s.attempts.length
        attempts := s.attempts ++ [{
          request, old_keep_alives := pending_ids s.pending_keep_alive, location := .Start,
          prepared := none }] }
  | prepare_failed {k : Nat} {attempt : Attempt} {e : Error} (hlocation : s.location = .Select)
      (hresult : s.prepare_result = some k) (hattempt : s.attempts[k]? = some attempt)
      (houtcome : attempt.location = .Outcome (some e)) :
    Effect cfg q s .PrepareResult q
      ({ s.moveAttempt k .Done with prepare_result := none }.respond (some e)
        { s.moveAttempt k .Done with
          prepare_result := none, active_admission := none, pending_keep_alive := 0
          timeout_armed := false })
  | prepare_succeeded {k : Nat} {attempt : Attempt} (hlocation : s.location = .Select)
      (hresult : s.prepare_result = some k) (hattempt : s.attempts[k]? = some attempt)
      (houtcome : attempt.location = .Outcome none) :
    Effect cfg q s .PrepareResult q
      { s.moveAttempt k .Done with
        prepare_result := none, prepared := some k, prepare_done := some k
        client_configuration_sent := false, location := .BeginCheck }
  | transfer_lost {k : Nat} {attempt : Attempt} {p : Prepared} {e : Error}
      (hlocation : s.location = .Select) (hprepared : s.prepared = some k)
      (hattempt : s.attempts[k]? = some attempt) (hopen : attempt.prepared = some p)
      (herr : p.final_err = some e) :
    Effect cfg q s .PrepareDone q
      (s.respond (some e)
        { s with
          prepared := none, prepare_done := none, active_admission := none
          pending_keep_alive := 0, timeout_armed := false })
  -- The prepared transfer that the loop holds.
  | begin_checked {written : Bool} {k : Nat} {attempt : Attempt} {p : Prepared}
      (hlocation : s.location = .BeginCheck) (hprepared : s.prepared = some k)
      (hattempt : s.attempts[k]? = some attempt) (hopen : attempt.prepared = some p)
      (hcheck : p.begin_check s.session = .ok ()) :
    Effect cfg q s (.Proceed written) q { s with location := .BeginWrite }
  | begin_refused {written : Bool} {e : Error}
      (hlocation : s.location = .BeginCheck ∨ s.location = .BeginWrite ∨ s.location = .BeginRecheck)
      (hcheck : s.location ≠ .BeginWrite → ∃ k attempt p, s.prepared = some k ∧
        s.attempts[k]? = some attempt ∧ attempt.prepared = some p ∧ p.begin_check s.session = .error e) :
    Effect cfg q s (.Proceed written) q { s with location := .BeginFailed e }
  | start_sent {k : Nat} {attempt : Attempt} {p : Prepared} (hlocation : s.location = .BeginWrite)
      (hprepared : s.prepared = some k) (hattempt : s.attempts[k]? = some attempt)
      (hopen : attempt.prepared = some p) :
    Effect cfg q s (.Proceed true) q (s.write (some k) .StartConfiguration .BeginRecheck)
  | begin_rechecked {written : Bool} {k : Nat} {attempt : Attempt} {p : Prepared}
      (hlocation : s.location = .BeginRecheck) (hprepared : s.prepared = some k)
      (hattempt : s.attempts[k]? = some attempt) (hopen : attempt.prepared = some p)
      (hcheck : p.begin_check s.session = .ok ()) :
    Effect cfg q s (.Proceed written) q { s with location := .Select }
  | begin_undone {written : Bool} {k : Nat} {attempt : Attempt} {p : Prepared} {e : Error}
      (hlocation : s.location = .BeginFailed e) (hprepared : s.prepared = some k)
      (hattempt : s.attempts[k]? = some attempt) (hopen : attempt.prepared = some p) :
    Effect cfg q s (.Proceed written) q
      ({ s.setPrepared k (p.rollback s.session).1 with session := (p.rollback s.session).2.1 }.respond
        (some e)
        { s.setPrepared k (p.rollback s.session).1 with
          session := (p.rollback s.session).2.1
          prepared := none, prepare_done := none, location := .Select })
  | write_checked {written : Bool} {k : Nat} {attempt : Attempt} {p : Prepared} {packets : List Bytes}
      (hlocation : s.location = .WriteCheck) (hprepared : s.prepared = some k)
      (hattempt : s.attempts[k]? = some attempt) (hopen : attempt.prepared = some p)
      (hcheck : p.write_check s.session = .ok packets) :
    Effect cfg q s (.Proceed written) q { s with location := .WritePackets packets }
  | packet_sent {k : Nat} {packet : Bytes} {rest : List Bytes}
      (hlocation : s.location = .WritePackets (packet :: rest)) (hprepared : s.prepared = some k) :
    Effect cfg q s (.Proceed true) q (s.write (some k) (.Configuration packet) (.WritePackets rest))
  | finish_sent {k : Nat} (hlocation : s.location = .WritePackets []) (hprepared : s.prepared = some k) :
    Effect cfg q s (.Proceed true) q (s.write (some k) .FinishConfiguration .WriteFinish)
  | write_finished {written : Bool} {k : Nat} {attempt : Attempt} {p : Prepared} {session : Session}
      (hlocation : s.location = .WriteFinish) (hprepared : s.prepared = some k)
      (hattempt : s.attempts[k]? = some attempt) (hopen : attempt.prepared = some p)
      (hfinish : p.write_finish s.session = .ok session) :
    Effect cfg q s (.Proceed written) q
      { s with session, client_configuration_sent := true, location := .Select }
  | released {written : Bool} {k : Nat} {attempt : Attempt} {p p' : Prepared} {session : Session}
      {replay : Replay} {conn : Option Nat} {effects : List transfer.Effect}
      (hlocation : s.location = .Releasing) (hprepared : s.prepared = some k)
      (hattempt : s.attempts[k]? = some attempt) (hopen : attempt.prepared = some p)
      (hrelease : p.release s.session = .ok ((replay, conn), p', session, effects)) :
    Effect cfg q s (.Proceed written) q
      { s.setPrepared k p' with session, location := .Replaying replay, log := s.log ++ [.Released k] }
  | replayed {replay : Replay} (hlocation : s.location = .Replaying replay) :
    Effect cfg q s (.Proceed true) q { s with location := .Answering }
  | admitted {written : Bool} {k : Nat} (hlocation : s.location = .Answering)
      (hprepared : s.prepared = some k) :
    Effect cfg q s (.Proceed written) q (s.respond none { s with location := .Bridge })
  | relayed {k : Nat} {frame : Bytes} (hlocation : s.location = .Bridge) (hprepared : s.prepared = some k) :
    Effect cfg q s (.Relay frame) q (s.write (some k) (.Backend frame) .Bridge)
  -- The deferred calls.
  | item_cancelled {written : Bool} {e : Error} (hlocation : s.location = .CancelItem e) :
    Effect cfg q s (.Proceed written) (if cfg.admission_queue then (q.cancel s.queue_id).2 else q)
      { s with location := .CancelContext e }
  | context_cancelled {written : Bool} {e : Error} (hlocation : s.location = .CancelContext e) :
    Effect cfg q s (.Proceed written) q { s with queue_done := true, location := .Untrack e }
  | untracked {written : Bool} {e : Error} (hlocation : s.location = .Untrack e) :
    Effect cfg q s (.Proceed written) q { s with tracked := false, location := .Closed e }
  -- The goroutine of `prepareTransfer`.
  | prepare_refused {k : Nat} {attempt : Attempt} {outcome : Except Error (List Bytes)} {e : Error}
      (hattempt : s.attempts[k]? = some attempt) (hstart : attempt.location = .Start) :
    Effect cfg q s (.Prepare k outcome) q (s.moveAttempt k (.Outcome (some e)))
  | transfer_begun {k : Nat} {attempt : Attempt} {outcome : Except Error (List Bytes)}
      {coordinator : Coordinator} {session : Session} (hattempt : s.attempts[k]? = some attempt)
      (hstart : attempt.location = .Start) (hcoordinator : cfg.transfer_coordinator = some coordinator)
      (hbegin : s.session.begin_transfer attempt.old_keep_alives coordinator.max_pending_commands =
        .ok session) :
    Effect cfg q s (.Prepare k outcome) q
      { s.moveAttempt k .Begun with session, log := s.log ++ [.TransferBegun k] }
  | prepare_aborted {k : Nat} {attempt : Attempt} {outcome : Except Error (List Bytes)} {e : Error}
      (hattempt : s.attempts[k]? = some attempt) (hworking : attempt.location.working = true) :
    Effect cfg q s (.Prepare k outcome) q (s.moveAttempt k (.RollingBack e))
  | login_phase {k : Nat} {attempt : Attempt} {outcome : Except Error (List Bytes)} {session : Session}
      (hattempt : s.attempts[k]? = some attempt) (hbegun : attempt.location = .Begun)
      (hadvance : s.session.advance_barrier BarrierBackendLogin = .ok session) :
    Effect cfg q s (.Prepare k outcome) q { s.moveAttempt k .Dialing with session }
  | dialed {k : Nat} {attempt : Attempt} {outcome : Except Error (List Bytes)}
      (hattempt : s.attempts[k]? = some attempt) (hdialing : attempt.location = .Dialing) :
    Effect cfg q s (.Prepare k outcome) q (s.moveAttempt k .LoggingIn)
  | logged_in {k : Nat} {attempt : Attempt} {outcome : Except Error (List Bytes)}
      (hattempt : s.attempts[k]? = some attempt) (hlogin : attempt.location = .LoggingIn) :
    Effect cfg q s (.Prepare k outcome) q
      { s.moveAttempt k .LoggedIn with log := s.log ++ [.LoginCompleted k] }
  | configuration_phase {k : Nat} {attempt : Attempt} {outcome : Except Error (List Bytes)}
      {session : Session} (hattempt : s.attempts[k]? = some attempt)
      (hloggedIn : attempt.location = .LoggedIn)
      (hadvance : s.session.advance_barrier BarrierBackendConfiguration = .ok session) :
    Effect cfg q s (.Prepare k outcome) q { s.moveAttempt k .Configuring with session }
  | configured {k : Nat} {attempt : Attempt} {packets : List Bytes}
      (hattempt : s.attempts[k]? = some attempt) (hconfiguring : attempt.location = .Configuring) :
    Effect cfg q s (.Prepare k (.ok packets)) q
      { s.moveAttempt k (.Configured packets) with log := s.log ++ [.ConfigurationCompleted k packets] }
  | prepared {k : Nat} {attempt : Attempt} {outcome : Except Error (List Bytes)} {packets : List Bytes}
      {session : Session} (hattempt : s.attempts[k]? = some attempt)
      (hconfigured : attempt.location = .Configured packets)
      (hadvance : s.session.advance_barrier BarrierAwaitingClientConfigurationStart = .ok session) :
    Effect cfg q s (.Prepare k outcome) q
      { (s.moveAttempt k (.Outcome none)).setPrepared k (.new k packets) with session }
  | rolled_back {k : Nat} {attempt : Attempt} {outcome : Except Error (List Bytes)} {e : Error}
      (hattempt : s.attempts[k]? = some attempt) (hrolling : attempt.location = .RollingBack e) :
    Effect cfg q s (.Prepare k outcome) q
      { s.moveAttempt k (.Outcome (some e)) with session := Prepared.rolledBack s.session }
  | outcome_dropped {k : Nat} {attempt : Attempt} {outcome : Option Error}
      (hattempt : s.attempts[k]? = some attempt) (houtcome : attempt.location = .Outcome outcome)
      (hopen : attempt.prepared = none) :
    Effect cfg q s (.PrepareDropped k) q (s.moveAttempt k .Done)
  | transfer_dropped {k : Nat} {attempt : Attempt} {outcome : Option Error} {p : Prepared}
      (hattempt : s.attempts[k]? = some attempt) (houtcome : attempt.location = .Outcome outcome)
      (hopen : attempt.prepared = some p) :
    Effect cfg q s (.PrepareDropped k) q
      { (s.moveAttempt k .Done).setPrepared k (p.rollback s.session).1 with
        session := (p.rollback s.session).2.1 }
  | barrier_timed_out {k : Nat} {attempt : Attempt} {p : Prepared}
      (hattempt : s.attempts[k]? = some attempt) (hopen : attempt.prepared = some p) :
    Effect cfg q s (.BarrierTimeout k) q
      { s.setPrepared k (p.timeout s.session).1 with session := (p.timeout s.session).2.1 }
  -- The callers of `Admit`.
  | admit_called {own : Bool} (htracked : s.tracked = true) :
    Effect cfg q s (.AdmitCalled own) q
      { s with calls := s.calls ++ [{
        own, cancelled := false, location := .Sending, placed := false, results := [] }] }
  | admit_sent {i : Nat} {call : AdmitCall} (hcall : s.calls[i]? = some call)
      (hsending : call.location = .Sending) (hroom : s.admissions = []) :
    Effect cfg q s (.AdmitSent i) q
      { s with
        admissions := [i]
        calls := s.calls.modify i fun call => { call with location := .Waiting, placed := true } }
  | admit_received {i : Nat} {call : AdmitCall} {result : Option Error} {rest : List (Option Error)}
      (hcall : s.calls[i]? = some call) (hwaiting : call.location = .Waiting)
      (hresults : call.results = result :: rest) :
    Effect cfg q s (.AdmitReceived i) q (s.moveCall i (.Returned result))
  | admit_cancelled {i : Nat} {call : AdmitCall} (hcall : s.calls[i]? = some call)
      (hdone : s.contextDone call = true) (hopen : call.location = .Sending ∨ call.location = .Waiting) :
    Effect cfg q s (.AdmitCancelled i) q (s.moveCall i (.Returned (some .ContextDone)))
  | caller_cancelled {i : Nat} :
    Effect cfg q s (.ContextCancelled i) q
      { s with calls := s.calls.modify i fun call => { call with cancelled := true } }

section Inversion

variable {cfg : Config} {q q' : AdmissionQueue} {s s' : Limbo}

/-- Before a transfer is released the loop may return for any reason. -/
theorem failed_at {location : Location} {a : Action} {e : Error} (hlocation : s.location = location)
    (hrunning : location.ended = false) (hhanding : location.handing = false) :
    Effect cfg q s a q (s.fail e) := by
  refine .failed (by rw [hlocation]; exact hrunning) ?_
  intro hreleased
  rw [hlocation, hhanding] at hreleased
  cases hreleased

theorem keep_alive_frame_effect {frame : Bytes} {written : Bool}
    (hlocation : s.location = .LimboFrame play.ServerboundKeepAliveID frame) :
    Effect cfg q s (.Proceed written) (s.keep_alive_frame cfg q frame).1 (s.keep_alive_frame cfg q frame).2 := by
  unfold keep_alive_frame
  cases hparse : play.parse_keep_alive frame with
  | error e =>
    refine .answer_refused hlocation ?_
    intro value hvalue
    rw [hparse] at hvalue
    cases hvalue
  | ok value =>
    dsimp only
    by_cases hmismatch : s.pending_keep_alive = 0 ∨ value ≠ s.pending_keep_alive
    · rw [if_pos hmismatch]
      refine .answer_refused hlocation ?_
      intro other hother
      rw [hparse, Except.ok.injEq] at hother
      subst hother
      exact hmismatch
    · rw [if_neg hmismatch]
      obtain ⟨hpending, hvalue⟩ := not_or.mp hmismatch
      rw [not_not] at hvalue
      subst hvalue
      cases hstart : (s.answer s.pending_keep_alive).start_challenge cfg q with
      | error e =>
        unfold answer at hstart
        simp only [hstart]
        exact .answer_unqueued hlocation hparse hpending (start_challenge_error hstart) (.inl rfl)
      | ok tried =>
        obtain ⟨q₁, s₁⟩ := tried
        have hstart' := hstart
        unfold answer at hstart'
        simp only [hstart']
        cases hmaybe : s₁.maybe_enqueue cfg q₁ with
        | error e =>
          obtain ⟨rfl, rfl⟩ := gate_error hstart hmaybe
          exact .answer_unqueued hlocation hparse hpending (maybe_enqueue_error hmaybe) (.inr rfl)
        | ok result =>
          obtain ⟨q', s'⟩ := result
          obtain ⟨hwaits, rfl, rfl⟩ | ⟨henqueues, rfl⟩ := gate_ok hstart hmaybe
          · exact .answered hlocation hparse hpending hwaits
          · exact .answered_enqueued hlocation hparse hpending henqueues

theorem limbo_frame_effect {id : Int} {frame : Bytes} {written : Bool}
    (hlocation : s.location = .LimboFrame id frame) :
    Effect cfg q s (.Proceed written) (s.limbo_frame cfg q id frame).1 (s.limbo_frame cfg q id frame).2 := by
  unfold Limbo.limbo_frame
  by_cases hid : id = play.ServerboundKeepAliveID
  · subst hid
    rw [if_pos rfl]
    exact keep_alive_frame_effect hlocation
  · rw [if_neg hid]
    by_cases hmovement : id = play.ServerboundPositionID ∨ id = play.ServerboundPositionLookID
    · rw [if_pos hmovement]
      cases play.parse_movement frame with
      | error e => exact .frame_refused hlocation hid
      | ok _ => exact .frame_accepted hlocation hid
    · rw [if_neg hmovement]
      exact .frame_refused hlocation hid

/-- What the loop does after a frame at the barrier, by the phase. -/
theorem progress_effect {written : Bool} (hlocation : s.location = .Progress) :
    Effect cfg q s (.Proceed written) q s.progress := by
  unfold progress
  split
  · exact .progressed hlocation
  · rename_i k hprepared
    split
    · exact failed_at hlocation rfl rfl
    · rename_i phase hphase
      obtain ⟨b, hactive, rfl⟩ := Session.barrier_phase_eq_ok.mp hphase
      split
      · rename_i hwrites
        exact .progress_writes hlocation hprepared hactive hwrites.1 (by simpa using hwrites.2)
      · split
        · rename_i hready
          exact .progress_releases hlocation hprepared hactive hready
        · exact .progressed hlocation

/-- The methods of the transfer, one critical section or one write at a time. -/
theorem prepared_step_effect {k : Nat} {attempt : Attempt} {p : Prepared} {written : Bool}
    (hprepared : s.prepared = some k) (hattempt : s.attempts[k]? = some attempt)
    (hopen : attempt.prepared = some p) (h : s.prepared_step k p written = some s') :
    Effect cfg q s (.Proceed written) q s' := by
  unfold prepared_step at h
  cases hlocation : s.location with
  | BeginCheck =>
    simp only [hlocation] at h
    cases hcheck : p.begin_check s.session with
    | error e =>
      simp only [hcheck, Option.some.injEq] at h
      subst h
      exact .begin_refused (.inl hlocation) fun _ => ⟨k, attempt, p, hprepared, hattempt, hopen, hcheck⟩
    | ok _ =>
      simp only [hcheck, Option.some.injEq] at h
      subst h
      exact .begin_checked hlocation hprepared hattempt hopen hcheck
  | BeginWrite =>
    simp only [hlocation] at h
    cases written with
    | true =>
      cases h
      exact .start_sent hlocation hprepared hattempt hopen
    | false =>
      cases h
      exact .begin_refused (.inr (.inl hlocation)) fun hother => absurd hlocation hother
  | BeginRecheck =>
    simp only [hlocation] at h
    cases hcheck : p.begin_check s.session with
    | error e =>
      simp only [hcheck, Option.some.injEq] at h
      subst h
      exact .begin_refused (.inr (.inr hlocation)) fun _ => ⟨k, attempt, p, hprepared, hattempt, hopen, hcheck⟩
    | ok _ =>
      simp only [hcheck, Option.some.injEq] at h
      subst h
      exact .begin_rechecked hlocation hprepared hattempt hopen hcheck
  | BeginFailed e =>
    simp only [hlocation, Option.some.injEq] at h
    subst h
    exact .begin_undone hlocation hprepared hattempt hopen
  | WriteCheck =>
    simp only [hlocation] at h
    cases hcheck : p.write_check s.session with
    | error e =>
      simp only [hcheck, Option.some.injEq] at h
      subst h
      exact failed_at hlocation rfl rfl
    | ok packets =>
      simp only [hcheck, Option.some.injEq] at h
      subst h
      exact .write_checked hlocation hprepared hattempt hopen hcheck
  | WritePackets rest =>
    cases rest with
    | nil =>
      simp only [hlocation] at h
      cases written with
      | true =>
        cases h
        exact .finish_sent hlocation hprepared
      | false =>
        cases h
        exact failed_at hlocation rfl rfl
    | cons packet rest =>
      simp only [hlocation] at h
      cases written with
      | true =>
        cases h
        exact .packet_sent hlocation hprepared
      | false =>
        cases h
        exact failed_at hlocation rfl rfl
  | WriteFinish =>
    simp only [hlocation] at h
    cases hfinish : p.write_finish s.session with
    | error e =>
      simp only [hfinish, Option.some.injEq] at h
      subst h
      exact failed_at hlocation rfl rfl
    | ok session =>
      simp only [hfinish, Option.some.injEq] at h
      subst h
      exact .write_finished hlocation hprepared hattempt hopen hfinish
  | Releasing =>
    simp only [hlocation] at h
    cases hrelease : p.release s.session with
    | error e =>
      simp only [hrelease, Option.some.injEq] at h
      subst h
      exact failed_at hlocation rfl rfl
    | ok result =>
      simp only [hrelease, Option.some.injEq] at h
      subst h
      exact .released hlocation hprepared hattempt hopen hrelease
  | Replaying replay =>
    simp only [hlocation] at h
    cases written with
    | true =>
      cases h
      exact .replayed hlocation
    | false =>
      cases h
      exact .failed (by rw [hlocation]; rfl) fun _ => .inr ⟨rfl, replay, hlocation⟩
  | Answering =>
    simp only [hlocation, Option.some.injEq] at h
    subst h
    exact .admitted hlocation hprepared
  | Bridge =>
    simp only [hlocation, Option.some.injEq] at h
    subst h
    exact .failed (by rw [hlocation]; rfl) fun _ => .inl hlocation
  | _ =>
    simp only [hlocation] at h
    cases h

/-- A client write either happens or ends the loop. -/
theorem written_effect {written : Bool} {location : Location} {next : Limbo}
    (hlocation : s.location = location) (hrunning : location.ended = false)
    (hhanding : location.handing = false) (hwritten : Effect cfg q s (.Proceed true) q next) :
    Effect cfg q s (.Proceed written) q (if written then next else s.fail .Write) := by
  cases written with
  | true => exact hwritten
  | false => exact failed_at hlocation hrunning hhanding

theorem proceed_effect {written : Bool} (h : s.proceed cfg q written = some (q', s')) :
    Effect cfg q s (.Proceed written) q' s' := by
  unfold proceed at h
  cases hlocation : s.location with
  | Joining rest =>
    cases rest with
    | nil =>
      simp only [hlocation] at h
      cases h
      exact .join_sent hlocation
    | cons packet rest =>
      simp only [hlocation, Option.some.injEq, Prod.mk.injEq] at h
      obtain ⟨rfl, rfl⟩ := h
      exact written_effect hlocation rfl rfl (.join_packet hlocation)
  | FirstKeepAlive =>
    simp only [hlocation, Option.some.injEq, Prod.mk.injEq] at h
    obtain ⟨rfl, rfl⟩ := h
    exact written_effect hlocation rfl rfl (.keep_alive_sent (.inl hlocation))
  | TickWrite =>
    simp only [hlocation, Option.some.injEq, Prod.mk.injEq] at h
    obtain ⟨rfl, rfl⟩ := h
    exact written_effect hlocation rfl rfl (.keep_alive_sent (.inr hlocation))
  | BarrierFrame id frame =>
    simp only [hlocation] at h
    unfold Session.barrier_phase at h
    cases hactive : s.session.active with
    | none =>
      simp only [hactive, Option.some.injEq, Prod.mk.injEq] at h
      obtain ⟨rfl, rfl⟩ := h
      exact .barrier_inactive hlocation hactive
    | some b =>
      simp only [hactive] at h
      cases hcall : barrier_call b.phase id frame with
      | error e =>
        simp only [hcall, Option.some.injEq, Prod.mk.injEq] at h
        obtain ⟨rfl, rfl⟩ := h
        exact .barrier_refused hlocation hactive hcall
      | ok call =>
        simp only [hcall, Option.some.injEq, Prod.mk.injEq] at h
        obtain ⟨rfl, rfl⟩ := h
        exact .barrier_read hlocation hactive hcall
  | BarrierCall call frame =>
    simp only [hlocation] at h
    cases hperform : call.perform s.session with
    | mk session err =>
      cases err with
      | some e =>
        obtain rfl := BarrierCall.perform_error hperform
        simp only [hperform, Option.some.injEq, Prod.mk.injEq] at h
        obtain ⟨rfl, rfl⟩ := h
        exact .call_refused hlocation hperform
      | none =>
        simp only [hperform, Option.some.injEq, Prod.mk.injEq] at h
        obtain ⟨rfl, rfl⟩ := h
        exact .called hlocation hperform
  | Progress =>
    simp only [hlocation, Option.some.injEq, Prod.mk.injEq] at h
    obtain ⟨rfl, rfl⟩ := h
    exact progress_effect hlocation
  | LimboFrame id frame =>
    simp only [hlocation, Option.some.injEq] at h
    have heffect : Effect cfg q s (.Proceed written) _ _ := limbo_frame_effect hlocation
    rwa [h] at heffect
  | StatusPosition =>
    simp only [hlocation] at h
    cases hposition : q.position s.queue_id with
    | none =>
      simp only [hposition, Option.some.injEq, Prod.mk.injEq] at h
      obtain ⟨rfl, rfl⟩ := h
      exact .unplaced hlocation
    | some position =>
      simp only [hposition, Option.some.injEq, Prod.mk.injEq] at h
      obtain ⟨rfl, rfl⟩ := h
      exact .placed hlocation
  | ActionBarWrite position =>
    simp only [hlocation, Option.some.injEq, Prod.mk.injEq] at h
    obtain ⟨rfl, rfl⟩ := h
    exact written_effect hlocation rfl rfl (.action_bar_sent hlocation)
  | CancelItem e =>
    simp only [hlocation, Option.some.injEq, Prod.mk.injEq] at h
    obtain ⟨rfl, rfl⟩ := h
    exact .item_cancelled hlocation
  | CancelContext e =>
    simp only [hlocation, Option.some.injEq, Prod.mk.injEq] at h
    obtain ⟨rfl, rfl⟩ := h
    exact .context_cancelled hlocation
  | Untrack e =>
    simp only [hlocation, Option.some.injEq, Prod.mk.injEq] at h
    obtain ⟨rfl, rfl⟩ := h
    exact .untracked hlocation
  | AwaitingTeleport | Select | Blocked | Closed _ =>
    simp only [hlocation] at h
    cases h
  | _ =>
    simp only [hlocation] at h
    cases hcurrent : s.current with
    | none =>
      simp only [hcurrent] at h
      cases h
    | some holding =>
      obtain ⟨k, p⟩ := holding
      obtain ⟨hprepared, attempt, hattempt, hopen⟩ := current_eq_some.mp hcurrent
      simp only [hcurrent, Option.map_eq_some_iff, Prod.mk.injEq] at h
      obtain ⟨next, hnext, rfl, rfl⟩ := h
      exact prepared_step_effect hprepared hattempt hopen hnext

theorem challenge_verdict_effect {err : Option Error} (hlocation : s.location = .Select)
    (hresult : s.challenge_result = true) :
    Effect cfg q s (.ChallengeResult err) (s.challenge_verdict cfg q err).1
      (s.challenge_verdict cfg q err).2 := by
  cases err with
  | some e => exact .challenge_failed hlocation
  | none =>
    cases hmaybe : s.verdict.maybe_enqueue cfg q with
    | error e =>
      have hverdict : s.challenge_verdict cfg q none = (q, s.verdict.fail e) := by
        rw [verdict] at hmaybe ⊢
        rw [challenge_verdict, hmaybe]
      rw [hverdict]
      exact .challenge_unqueued hlocation hresult
    | ok tried =>
      obtain ⟨q', s'⟩ := tried
      have hverdict : s.challenge_verdict cfg q none = (q', s') := by
        rw [verdict] at hmaybe
        rw [challenge_verdict, hmaybe]
      rw [hverdict]
      obtain ⟨hwaits, rfl, rfl⟩ | ⟨henqueues, rfl⟩ := maybe_enqueue_ok hmaybe
      · exact .challenge_passed hlocation hresult hwaits
      · exact .challenge_enqueued hlocation hresult henqueues

/-- A request is refused when the session is busy and accepted otherwise. -/
theorem admission_eq_some (h : s.admission cfg = some s') :
    ∃ request rest, s.admissions = request :: rest ∧
      (((cfg.transfer_coordinator = none ∨ s.prepared.isSome = true ∨ s.session.state ≠ .LimboPlay) ∧
          s' = { s with admissions := rest }.send request (some .NotAvailableForTransfer)) ∨
        (cfg.transfer_coordinator.isSome = true ∧ s.prepared = none ∧ s.session.state = .LimboPlay ∧
          s' = { s with
            admissions := rest
            active_admission := some request
            prepare_result := some s.attempts.length
            attempts := s.attempts ++ [{
              request, old_keep_alives := pending_ids s.pending_keep_alive, location := .Start,
              prepared := none }] })) := by
  unfold admission at h
  split at h
  · cases h
  · rename_i request rest hadmissions
    refine ⟨request, rest, hadmissions, ?_⟩
    dsimp only at h
    split at h
    · rename_i hbusy
      cases h
      exact .inl ⟨by simpa using hbusy, rfl⟩
    · rename_i hfree
      cases h
      obtain ⟨hcoordinator, hprepared, hstate⟩ : cfg.transfer_coordinator.isSome = true ∧
          s.prepared = none ∧ s.session.state = .LimboPlay := by
        simpa [not_or, Option.isSome_iff_ne_none] using hfree
      exact .inr ⟨hcoordinator, hprepared, hstate, rfl⟩

theorem admission_effect (hlocation : s.location = .Select) (h : s.admission cfg = some s') :
    Effect cfg q s .Admission q s' := by
  obtain ⟨request, rest, hadmissions, ⟨hbusy, rfl⟩ | ⟨hcoordinator, hprepared, hstate, rfl⟩⟩ :=
    admission_eq_some h
  · exact .admission_refused hlocation hadmissions hbusy
  · exact .admission_accepted hlocation hadmissions hcoordinator hprepared hstate

theorem prepare_outcome_effect (hlocation : s.location = .Select) (h : s.prepare_outcome = some s') :
    Effect cfg q s .PrepareResult q s' := by
  unfold prepare_outcome at h
  split at h
  · cases h
  · rename_i k hresult
    split at h
    · cases h
    · rename_i attempt hattempt
      split at h
      · rename_i e houtcome
        cases h
        exact .prepare_failed hlocation hresult hattempt houtcome
      · rename_i houtcome
        cases h
        exact .prepare_succeeded hlocation hresult hattempt houtcome
      · cases h

/-- The end of the transfer, as the loop sees it. -/
theorem prepare_finished_effect (hlocation : s.location = .Select) (h : s.prepare_finished = some s') :
    Effect cfg q s .PrepareDone q s' := by
  unfold prepare_finished at h
  split at h
  · cases h
  · split at h
    · cases h
    · split at h
      · cases h
      · split at h
        · cases h
          exact .idle (.inl hlocation)
        · rename_i e herr
          cases h
          obtain ⟨⟨k, p⟩, hcurrent, hfinal⟩ := Option.bind_eq_some_iff.mp herr
          obtain ⟨hprepared, attempt, hattempt, hopen⟩ := current_eq_some.mp hcurrent
          exact .transfer_lost hlocation hprepared hattempt hopen hfinal

/-- A frame of the client, or the error of its reader. -/
theorem client_frame_effect {frame : Except Error Bytes} (h : s.client_frame frame = some s') :
    Effect cfg q s (.Frame frame) q s' := by
  unfold client_frame at h
  split at h
  · rename_i hlocation
    cases h
    exact failed_at hlocation rfl rfl
  · rename_i frame hlocation
    split at h
    · cases h
      exact .idle (.inr hlocation)
    · split at h
      · cases h
        exact failed_at hlocation rfl rfl
      · cases h
        exact .teleported hlocation
  · rename_i hlocation
    cases h
    exact failed_at hlocation rfl rfl
  · rename_i frame hlocation
    split at h
    · rename_i hid
      cases h
      exact .frame_malformed hlocation hid
    · rename_i id body hid
      cases h
      split
      · rename_i hstate
        exact .barrier_frame hlocation hid hstate
      · rename_i hstate
        exact .limbo_frame hlocation hid hstate
  · cases h

theorem tick_effect (hlocation : s.location = .Select) : Effect cfg q s .Tick q s.tick := by
  unfold tick
  split
  · rename_i hdue
    exact .ticked hlocation hdue.1 hdue.2
  · exact .idle (.inl hlocation)

theorem queue_tick_effect (hlocation : s.location = .Select) : Effect cfg q s .QueueTick q s.queue_tick := by
  unfold queue_tick
  split
  · rename_i hdue
    exact .status_due hlocation hdue.1 hdue.2
  · exact .idle (.inl hlocation)

theorem prepare_effect {k : Nat} {attempt : Attempt} {outcome : Except Error (List Bytes)}
    (hattempt : s.attempts[k]? = some attempt) (h : s.prepare cfg k attempt outcome = some s') :
    Effect cfg q s (.Prepare k outcome) q s' := by
  unfold Limbo.prepare at h
  have hworking : ∀ {location}, attempt.location = location → location.working = true →
      attempt.location.working = true := by
    rintro _ rfl hworking
    exact hworking
  cases hpoint : attempt.location with
  | Start =>
    simp only [hpoint] at h
    split at h
    · cases h
    · rename_i coordinator hcoordinator
      split at h
      · cases h
        exact .prepare_refused hattempt hpoint
      · split at h
        · cases h
          exact .prepare_refused hattempt hpoint
        · rename_i session hbegin
          cases h
          exact .transfer_begun hattempt hpoint hcoordinator hbegin
  | Begun =>
    simp only [hpoint] at h
    split at h
    · cases h
      exact .prepare_aborted hattempt (hworking hpoint rfl)
    · rename_i session hadvance
      cases h
      exact .login_phase hattempt hpoint hadvance
  | Dialing =>
    simp only [hpoint] at h
    cases outcome with
    | error e =>
      cases h
      exact .prepare_aborted hattempt (hworking hpoint rfl)
    | ok packets =>
      cases h
      exact .dialed hattempt hpoint
  | LoggingIn =>
    simp only [hpoint] at h
    cases outcome with
    | error e =>
      cases h
      exact .prepare_aborted hattempt (hworking hpoint rfl)
    | ok packets =>
      cases h
      exact .logged_in hattempt hpoint
  | LoggedIn =>
    simp only [hpoint] at h
    split at h
    · cases h
      exact .prepare_aborted hattempt (hworking hpoint rfl)
    · rename_i session hadvance
      cases h
      exact .configuration_phase hattempt hpoint hadvance
  | Configuring =>
    simp only [hpoint] at h
    cases outcome with
    | error e =>
      cases h
      exact .prepare_aborted hattempt (hworking hpoint rfl)
    | ok packets =>
      cases h
      exact .configured hattempt hpoint
  | Configured packets =>
    simp only [hpoint] at h
    split at h
    · cases h
      exact .prepare_aborted hattempt (hworking hpoint rfl)
    · rename_i session hadvance
      cases h
      exact .prepared hattempt hpoint hadvance
  | RollingBack e =>
    simp only [hpoint] at h
    cases h
    exact .rolled_back hattempt hpoint
  | Outcome err =>
    simp only [hpoint] at h
    cases h
  | Done =>
    simp only [hpoint] at h
    cases h

/-- A result of `Prepare` that the loop is not there to take. -/
theorem prepare_dropped_effect {k : Nat} {attempt : Attempt} (hattempt : s.attempts[k]? = some attempt)
    (h : s.prepare_dropped k attempt = some s') : Effect cfg q s (.PrepareDropped k) q s' := by
  unfold prepare_dropped at h
  split at h
  · rename_i houtcome _
    split at h
    · cases h
    · split at h
      · rename_i hopen
        cases h
        exact .outcome_dropped hattempt houtcome hopen
      · rename_i p hopen
        cases h
        exact .transfer_dropped hattempt houtcome hopen
  · cases h

theorem barrier_timeout_effect {k : Nat} {attempt : Attempt} (hattempt : s.attempts[k]? = some attempt)
    (h : s.barrier_timeout k attempt = some s') : Effect cfg q s (.BarrierTimeout k) q s' := by
  unfold barrier_timeout at h
  split at h
  · cases h
  · rename_i p hopen
    cases h
    exact .barrier_timed_out hattempt hopen

/-- The inversion of a step, for every action. -/
theorem step_effect {a : Action} (h : s.step cfg q a = some (q', s')) : Effect cfg q s a q' s' := by
  unfold step at h
  cases a with
  | Proceed written => exact proceed_effect h
  | ChallengeResult err =>
    simp only [Option.ite_none_right_eq_some, Option.some.injEq] at h
    obtain ⟨⟨hlocation, hresult⟩, h⟩ := h
    have heffect : Effect cfg q s (.ChallengeResult err) _ _ := challenge_verdict_effect hlocation hresult
    rwa [h] at heffect
  | Admission =>
    simp only [Option.ite_none_right_eq_some, Option.map_eq_some_iff, Prod.mk.injEq] at h
    obtain ⟨hlocation, next, hnext, rfl, rfl⟩ := h
    exact admission_effect hlocation hnext
  | PrepareResult =>
    simp only [Option.ite_none_right_eq_some, Option.map_eq_some_iff, Prod.mk.injEq] at h
    obtain ⟨hlocation, next, hnext, rfl, rfl⟩ := h
    exact prepare_outcome_effect hlocation hnext
  | PrepareDone =>
    simp only [Option.ite_none_right_eq_some, Option.map_eq_some_iff, Prod.mk.injEq] at h
    obtain ⟨hlocation, next, hnext, rfl, rfl⟩ := h
    exact prepare_finished_effect hlocation hnext
  | Frame frame =>
    simp only [Option.map_eq_some_iff, Prod.mk.injEq] at h
    obtain ⟨next, hnext, rfl, rfl⟩ := h
    exact client_frame_effect hnext
  | Tick =>
    simp only [Option.ite_none_right_eq_some, Option.some.injEq, Prod.mk.injEq] at h
    obtain ⟨hlocation, rfl, rfl⟩ := h
    exact tick_effect hlocation
  | Timeout =>
    simp only [Option.ite_none_right_eq_some, Option.some.injEq, Prod.mk.injEq] at h
    obtain ⟨⟨hlocation, harmed⟩, rfl, rfl⟩ := h
    exact .timed_out hlocation harmed
  | QueueTick =>
    simp only [Option.ite_none_right_eq_some, Option.some.injEq, Prod.mk.injEq] at h
    obtain ⟨hlocation, rfl, rfl⟩ := h
    exact queue_tick_effect hlocation
  | Relay frame =>
    dsimp only at h
    split at h
    · rename_i k hlocation hprepared
      cases h
      exact .relayed hlocation hprepared
    · cases h
  | Prepare k outcome =>
    simp only [Option.bind_eq_some_iff, Option.map_eq_some_iff, Prod.mk.injEq] at h
    obtain ⟨attempt, hattempt, next, hnext, rfl, rfl⟩ := h
    exact prepare_effect hattempt hnext
  | PrepareDropped k =>
    simp only [Option.bind_eq_some_iff, Option.map_eq_some_iff, Prod.mk.injEq] at h
    obtain ⟨attempt, hattempt, next, hnext, rfl, rfl⟩ := h
    exact prepare_dropped_effect hattempt hnext
  | BarrierTimeout k =>
    simp only [Option.bind_eq_some_iff, Option.map_eq_some_iff, Prod.mk.injEq] at h
    obtain ⟨attempt, hattempt, next, hnext, rfl, rfl⟩ := h
    exact barrier_timeout_effect hattempt hnext
  | AdmitCalled own =>
    simp only [Option.ite_none_right_eq_some, Option.some.injEq, Prod.mk.injEq] at h
    obtain ⟨htracked, rfl, rfl⟩ := h
    exact .admit_called htracked
  | AdmitSent i =>
    simp only [admit_send, Option.bind_eq_some_iff, Option.map_eq_some_iff, Option.ite_none_right_eq_some,
      Option.some.injEq, Prod.mk.injEq] at h
    obtain ⟨call, hcall, _, ⟨⟨hsending, hroom⟩, rfl⟩, rfl, rfl⟩ := h
    exact .admit_sent hcall hsending hroom
  | AdmitReceived i =>
    simp only [Option.bind_eq_some_iff, Option.map_eq_some_iff, Prod.mk.injEq] at h
    obtain ⟨call, hcall, next, hnext, rfl, rfl⟩ := h
    unfold admit_receive at hnext
    split at hnext
    · rename_i result rest hwaiting hresults
      cases hnext
      exact .admit_received hcall hwaiting hresults
    · cases hnext
  | AdmitCancelled i =>
    simp only [Limbo.admit_cancelled, Option.bind_eq_some_iff, Option.map_eq_some_iff,
      Option.ite_none_right_eq_some, Option.some.injEq, Prod.mk.injEq] at h
    obtain ⟨call, hcall, _, ⟨⟨hdone, hopen⟩, rfl⟩, rfl, rfl⟩ := h
    exact .admit_cancelled hcall hdone hopen
  | ContextCancelled i =>
    simp only [Option.some.injEq, Prod.mk.injEq] at h
    obtain ⟨rfl, rfl⟩ := h
    exact .caller_cancelled

/-- A loop that has returned does not run again. -/
theorem Effect.running {a : Action} (h : Effect cfg q s a q' s') (hrunning : s'.location.ended = false) :
    s.location.ended = false := by
  cases h with
  | item_cancelled | context_cancelled | untracked => cases hrunning
  | failed h => exact h
  | keep_alive_sent hlocation | idle hlocation => obtain hlocation | hlocation := hlocation <;> rw [hlocation] <;> rfl
  | begin_refused hlocation =>
    obtain hlocation | hlocation | hlocation := hlocation <;> rw [hlocation] <;> rfl
  | prepare_refused | transfer_begun | prepare_aborted | login_phase | dialed | logged_in
  | configuration_phase | configured | prepared | rolled_back | outcome_dropped | transfer_dropped
  | barrier_timed_out | admit_called | admit_sent | admit_received | admit_cancelled
  | caller_cancelled => exact hrunning
  | join_packet hlocation | join_sent hlocation | teleported hlocation | ticked hlocation
  | timed_out hlocation | status_due hlocation | unplaced hlocation | placed hlocation
  | action_bar_sent hlocation | frame_malformed hlocation | barrier_frame hlocation
  | limbo_frame hlocation | barrier_inactive hlocation | barrier_refused hlocation
  | barrier_read hlocation | call_refused hlocation | called hlocation | progressed hlocation
  | progress_writes hlocation | progress_releases hlocation | answer_refused hlocation
  | answer_unqueued hlocation | answered hlocation | answered_enqueued hlocation
  | frame_accepted hlocation | frame_refused hlocation | challenge_failed hlocation
  | challenge_unqueued hlocation | challenge_passed hlocation | challenge_enqueued hlocation
  | admission_refused hlocation | admission_accepted hlocation | prepare_failed hlocation
  | prepare_succeeded hlocation | transfer_lost hlocation | begin_checked hlocation
  | start_sent hlocation | begin_rechecked hlocation | begin_undone hlocation | write_checked hlocation
  | packet_sent hlocation | finish_sent hlocation | write_finished hlocation | released hlocation
  | replayed hlocation | admitted hlocation | relayed hlocation =>
    rw [hlocation]
    rfl

/-- Only the release of a transfer brings a session to the backend. -/
theorem Effect.plays {a : Action} (h : Effect cfg q s a q' s') (hplays : s'.session.state = .BackendPlay) :
    s.session.state = .BackendPlay ∨ ∃ replay, s'.location = .Replaying replay := by
  cases h with
  | released => exact .inr ⟨_, rfl⟩
  | called _ hperform =>
    rw [BarrierCall.perform_state hperform] at hplays
    exact .inl hplays
  | write_finished _ _ _ _ hfinish =>
    obtain ⟨_, b, _, _, rfl⟩ := Prepared.write_finish_eq_ok.mp hfinish
    exact .inl hplays
  | transfer_begun _ _ _ hbegin =>
    obtain ⟨_, rfl⟩ := Session.begin_transfer_eq_ok.mp hbegin
    cases hplays
  | login_phase _ _ hadvance | configuration_phase _ _ hadvance | prepared _ _ hadvance =>
    obtain ⟨b, _, _, rfl⟩ := Session.advance_barrier_eq_ok.mp hadvance
    exact .inl hplays
  | rolled_back => exact .inl (Prepared.rolledBack_plays hplays)
  | transfer_dropped => exact .inl (Prepared.rollback_plays hplays)
  | barrier_timed_out => exact .inl (Prepared.timeout_plays hplays)
  | begin_undone =>
    obtain ⟨_, heq⟩ | ⟨_, _, heq⟩ := respond_cases _ _ _ <;> rw [heq] at hplays <;>
      exact .inl (Prepared.rollback_plays hplays)
  | prepare_failed | transfer_lost | admitted =>
    obtain ⟨_, heq⟩ | ⟨_, _, heq⟩ := respond_cases _ _ _ <;> rw [heq] at hplays <;> exact .inl hplays
  | answer_unqueued _ _ _ _ hnext => obtain rfl | rfl := hnext <;> exact .inl hplays
  | _ => exact .inl hplays

end Inversion

end Limbo

/-- A condition on the session's own steps; the others may do anything. -/
def World.permits (ok : Limbo → Action → Bool) (w : World) : Move → Bool
  | .Session a => ok w.limbo a
  | .Others _ => true

/-- The runs of one session whose own steps all meet a condition. -/
abbrev SessionRuns (cfg : Config) (ok : Limbo → Action → Bool) : World → List Move → World → Prop :=
  Runs (World.step cfg) fun w move => w.permits ok move = true

theorem SessionRuns.of_reaches {cfg : Config} {start w : World} {moves : List Move}
    (run : Reaches (World.step cfg) start moves w) : SessionRuns cfg (fun _ _ => true) start moves w := by
  refine run.mono ?_
  intro w move _
  cases move <;> rfl

/-- A property of the session that holds at its start and that every permitted
step of the session preserves holds in every state reached, whatever the
others do to the queue. -/
theorem World.limbo_invariant {cfg : Config} {ok : Limbo → Action → Bool} {start w : World}
    {moves : List Move} (Inv : Limbo → Prop) (run : SessionRuns cfg ok start moves w)
    (hstart : Inv start.limbo)
    (hstep : ∀ {q a q' s s'}, Inv s → ok s a = true → Limbo.Effect cfg q s a q' s' → Inv s') :
    Inv w.limbo := by
  have hworld : ∀ {w : World} {move : Move} {w' : World}, Inv w.limbo → w.permits ok move = true →
      w.step cfg move = some w' → Inv w'.limbo := by
    intro w move w' hinv hpermitted hmove
    cases move with
    | Others queue =>
      cases hmove
      exact hinv
    | Session a =>
      obtain ⟨⟨q', s'⟩, hnext, rfl⟩ := Option.map_eq_some_iff.mp hmove
      exact hstep hinv hpermitted (Limbo.step_effect hnext)
  exact @Runs.invariant _ _ _ _ _ _ _ (fun w => Inv w.limbo) run hstart hworld

end regiongate.server
