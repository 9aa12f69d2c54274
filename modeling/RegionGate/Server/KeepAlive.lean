import RegionGate.Server.LimboEffect

open regiongate.session regiongate.transfer execution

namespace regiongate.server

/-- The identifier of a keepalive that was written. -/
def keepAliveSent : Event → Option Int
  | .Wrote _ (.KeepAlive id) => some id
  | _ => none

/-- The identifier that an answer has cleared. -/
def keepAliveAnswered : Event → Option Int
  | .KeepAliveAnswered id => some id
  | _ => none

/-- The keepalives that a history sent and did not answer, oldest first. -/
def unanswered (log : List Event) : List Int :=
  (log.filterMap keepAliveSent).filter (· ∉ log.filterMap keepAliveAnswered)

/-- The pending keepalive has not been written to the client yet. -/
def Location.sending : Location → Bool
  | .Joining _ | .AwaitingTeleport | .FirstKeepAlive | .TickWrite => true
  | _ => false

/-- Events that neither send nor answer a keepalive. -/
def Quiet (events : List Event) : Prop :=
  ∀ e ∈ events, keepAliveSent e = none ∧ keepAliveAnswered e = none

@[simp] theorem quiet_nil : Quiet [] := by
  simp [Quiet]

@[simp] theorem quiet_singleton {e : Event} :
    Quiet [e] ↔ keepAliveSent e = none ∧ keepAliveAnswered e = none := by
  simp [Quiet]

section Unanswered

variable {log events : List Event} {id : Int}

/-- Unanswered are the identifiers that were sent and not answered. -/
theorem mem_unanswered :
    id ∈ unanswered log ↔ id ∈ log.filterMap keepAliveSent ∧ id ∉ log.filterMap keepAliveAnswered := by
  simp [unanswered]

theorem Quiet.filterMap_sent (h : Quiet events) : events.filterMap keepAliveSent = [] :=
  List.filterMap_eq_nil_iff.mpr fun e he => (h e he).1

theorem Quiet.filterMap_answered (h : Quiet events) : events.filterMap keepAliveAnswered = [] :=
  List.filterMap_eq_nil_iff.mpr fun e he => (h e he).2

theorem Quiet.unanswered_append (h : Quiet events) : unanswered (log ++ events) = unanswered log := by
  simp [unanswered, h.filterMap_sent, h.filterMap_answered]

/-- A keepalive with a new identifier is the last one that is unanswered. -/
theorem unanswered_sent {transfer : Option Nat} (hfresh : id ∉ log.filterMap keepAliveAnswered) :
    unanswered (log ++ [.Wrote transfer (.KeepAlive id)]) = unanswered log ++ [id] := by
  simp only [unanswered, List.filterMap_append, List.filterMap_cons, List.filterMap_nil, keepAliveSent,
    keepAliveAnswered, List.append_nil, List.filter_append]
  simpa using hfresh

/-- An answer settles its identifier and no other. -/
theorem unanswered_answered :
    unanswered (log ++ [.KeepAliveAnswered id]) = (unanswered log).filter (· ≠ id) := by
  simp only [unanswered, List.filterMap_append, List.filterMap_cons, List.filterMap_nil, keepAliveSent,
    keepAliveAnswered, List.append_nil, List.filter_filter]
  apply List.filter_congr
  intro other _
  by_cases hother : other = id <;> simp [hother]

end Unanswered

/-- The keepalive answers that the barrier of a transfer still accepts. -/
def accepted (session : Session) : Option (Finset Int) := session.active.map (·.limbo_keep_alives)

section Accepted

variable {s s' : Session}

/-- Replacing the active barrier by one with the same awaited answers. -/
theorem accepted_replaced {b b' : BarrierState} (hactive : s.active = some b)
    (hids : b'.limbo_keep_alives = b.limbo_keep_alives) :
    accepted { s with barrier := some b' } = accepted s := by
  have hactive' : ({ s with barrier := some b' } : Session).active = some b' :=
    Session.active_eq_some.mpr ⟨(Session.active_eq_some.mp hactive).1, rfl⟩
  rw [accepted, accepted, hactive, hactive', Option.map_some, Option.map_some, hids]

theorem accepted_advance {phase : BarrierPhase} (h : s.advance_barrier phase = .ok s') :
    accepted s' = accepted s := by
  obtain ⟨b, hactive, _, rfl⟩ := Session.advance_barrier_eq_ok.mp h
  exact accepted_replaced hactive rfl

theorem accepted_rolledBack : accepted (Prepared.rolledBack s) = none := by
  cases hactive : s.active with
  | none => simp [accepted, Prepared.rolledBack, Session.rollback_transfer, hactive]
  | some b =>
    rw [Prepared.rolledBack_of_active (by simp [hactive])]
    rfl

/-- A new barrier accepts the identifiers that it was given. -/
theorem accepted_begin {ids : List Int} {limit : Int} (h : s.begin_transfer ids limit = .ok s') :
    accepted s' = some ids.toFinset := by
  obtain ⟨_, rfl⟩ := Session.begin_transfer_eq_ok.mp h
  rfl

theorem accepted_release {p p' : Prepared} {replay : Replay} {conn : Option Nat}
    {effects : List transfer.Effect} (h : p.release s = .ok ((replay, conn), p', s', effects)) :
    accepted s' = none := by
  obtain ⟨_, _, _, _, hrelease⟩ := Prepared.release_eq_ok.mp h
  obtain ⟨b, _, _, _, rfl⟩ := Session.release_transfer_eq_ok.mp hrelease
  rfl

theorem accepted_write_finish {p : Prepared} (h : p.write_finish s = .ok s') : accepted s' = accepted s := by
  obtain ⟨_, b, hactive, _, rfl⟩ := Prepared.write_finish_eq_ok.mp h
  exact accepted_replaced hactive rfl

/-- A rollback or a timeout either finds the transfer finalized or ends it. -/
theorem accepted_rollback (p : Prepared) :
    accepted (p.rollback s).2.1 = accepted s ∨ accepted (p.rollback s).2.1 = none := by
  unfold Prepared.rollback
  split
  · exact .inl rfl
  · exact .inr accepted_rolledBack

theorem accepted_timeout (p : Prepared) :
    accepted (p.timeout s).2.1 = accepted s ∨ accepted (p.timeout s).2.1 = none := by
  unfold Prepared.timeout
  split
  · exact .inl rfl
  · exact .inr accepted_rolledBack

/-- A call that is not a keepalive answer leaves the accepted answers alone, and
an answer is one of them and removes itself. -/
theorem accepted_perform {call : BarrierCall} (h : call.perform s = (s', none)) :
    (accepted s' = accepted s ∧ ∀ input, call = .Input input → input.kind ≠ .KeepAlive) ∨
      ∃ input ids, call = .Input input ∧ input.kind = .KeepAlive ∧ accepted s = some ids ∧
        input.keep_alive_id ∈ ids ∧ accepted s' = some (ids.erase input.keep_alive_id) := by
  cases hactive : s.active with
  | none =>
    cases call with
    | Advance phase => simp [BarrierCall.perform, Session.advance_barrier, hactive] at h
    | Input input => simp [BarrierCall.perform, Session.handle_barrier_input, hactive] at h
    | Done =>
      refine .inl ⟨?_, by simp⟩
      rw [accepted, accepted, hactive, BarrierCall.perform_inactive hactive h]
  | some b =>
    obtain ⟨hactive', hinput⟩ := BarrierCall.perform_active hactive h
    cases call with
    | Advance phase =>
      refine .inl ⟨?_, by simp⟩
      simp [accepted, hactive, hactive', BarrierCall.applied]
    | Done =>
      refine .inl ⟨?_, by simp⟩
      simp [accepted, hactive, hactive', BarrierCall.applied]
    | Input input =>
      by_cases hkind : input.kind = .KeepAlive
      · refine .inr ⟨input, b.limbo_keep_alives, rfl, hkind, by simp [accepted, hactive], ?_, ?_⟩
        · have haccepted := hinput input rfl
          rw [b.handle_keep_alive_error input hkind] at haccepted
          by_contra hmissing
          rw [if_neg hmissing] at haccepted
          cases haccepted
        · simp [accepted, hactive', BarrierCall.applied, BarrierState.handle_keep_alives, hkind]
      · refine .inl ⟨?_, ?_⟩
        · simp [accepted, hactive, hactive', BarrierCall.applied, BarrierState.handle_keep_alives, hkind]
        · intro other hother
          cases hother
          exact hkind

end Accepted

namespace Limbo

/-- The identifiers that each call of `Prepare` was given as unanswered. -/
def snapshots (s : Limbo) : List (List Int) := s.attempts.map (·.old_keep_alives)

@[simp] theorem snapshots_moveAttempt (s : Limbo) (k : Nat) (location : PrepareLocation) :
    (s.moveAttempt k location).snapshots = s.snapshots := by
  simp only [snapshots, moveAttempt]
  apply List.ext_getElem?
  intro i
  simp only [List.getElem?_map, List.getElem?_modify]
  cases s.attempts[i]? with
  | none => rfl
  | some attempt => by_cases hi : k = i <;> simp [hi]

@[simp] theorem snapshots_setPrepared (s : Limbo) (k : Nat) (p : Prepared) :
    (s.setPrepared k p).snapshots = s.snapshots := by
  simp only [snapshots, setPrepared]
  apply List.ext_getElem?
  intro i
  simp only [List.getElem?_map, List.getElem?_modify]
  cases s.attempts[i]? with
  | none => rfl
  | some attempt => by_cases hi : k = i <;> simp [hi]

theorem snapshots_handed_out (s : Limbo) (k : Nat) (location : PrepareLocation) (p : Prepared) :
    ((s.moveAttempt k location).setPrepared k p).snapshots = s.snapshots := by
  simp

/-- The loop is about to take the error of an attempt or of its prepared
transfer, after which it forgets the pending keepalive. -/
def forgets (s : Limbo) : Action → Bool
  | .PrepareResult =>
    match s.prepare_result.bind (s.attempts[·]?) with
    | some { location := .Outcome (some _), .. } => true
    | _ => false
  | .PrepareDone => (s.current.bind (·.2.final_err)).isSome
  | _ => false

/-- The snapshot with which the step asks for `BeginTransfer`, if it does. -/
def begins (s : Limbo) : Action → Option (List Int)
  | .Prepare k _ =>
    (s.attempts[k]?).bind fun attempt =>
      if attempt.location = .Start then some attempt.old_keep_alives else none
  | _ => none

/-- A step that leaves the keepalives alone: the barrier may be dropped but not
replaced, and the loop neither sends, receives nor forgets one. -/
structure Undisturbed (s s' : Limbo) : Prop where
  id : s'.keep_alive_id = s.keep_alive_id := by rfl
  pending : s'.pending_keep_alive = s.pending_keep_alive := by rfl
  armed : s'.timeout_armed = s.timeout_armed := by rfl
  valid : s'.valid_keep_alives = s.valid_keep_alives := by rfl
  snapshots : s'.snapshots = s.snapshots := by rfl
  running : s'.location.ended = false →
    s.location.ended = false ∧ s'.location.sending = s.location.sending
  barrier : accepted s'.session = accepted s.session ∨ accepted s'.session = none := by exact .inl rfl
  log : ∃ events, Quiet events ∧ s'.log = s.log ++ events := by
    exact ⟨[], quiet_nil, (List.append_nil _).symm⟩

/-- What a step does to the keepalives of a session. -/
inductive KeepAliveEffect (s : Limbo) : Action → Limbo → Prop where
  | undisturbed {a : Action} {s' : Limbo} (h : s.Undisturbed s') : KeepAliveEffect s a s'
  | sent {a : Action} (hlocation : s.location = .FirstKeepAlive ∨ s.location = .TickWrite) :
    KeepAliveEffect s a
      { s.write none (.KeepAlive s.keep_alive_id) .Select with timeout_armed := true }
  | ticked {a : Action} (hlocation : s.location = .Select) (hpending : s.pending_keep_alive = 0)
      (hstate : s.session.state = .LimboPlay) :
    KeepAliveEffect s a
      { s with
        keep_alive_id := s.keep_alive_id + 1
        pending_keep_alive := s.keep_alive_id + 1
        location := .TickWrite }
  | answered {a : Action} {s' : Limbo} {frame : Bytes} {events : List Event}
      (hlocation : s.location = .LimboFrame play.ServerboundKeepAliveID frame)
      (hpending : s.pending_keep_alive ≠ 0) (hid : s'.keep_alive_id = s.keep_alive_id)
      (hpending' : s'.pending_keep_alive = 0)
      (hvalid : s'.valid_keep_alives = s.valid_keep_alives + 1) (hsnapshots : s'.snapshots = s.snapshots)
      (hsession : s'.session = s.session) (hsending : s'.location.sending = false)
      (harmed : s'.location.ended = true ∨ s'.timeout_armed = false) (hquiet : Quiet events)
      (hlog : s'.log = s.log ++ .KeepAliveAnswered s.pending_keep_alive :: events) :
    KeepAliveEffect s a s'
  | barrier_answered {written : Bool} {input : Input} {frame : Bytes} {ids : Finset Int} {session : Session}
      (hlocation : s.location = .BarrierCall (.Input input) frame) (hkind : input.kind = .KeepAlive)
      (haccepted : accepted s.session = some ids) (hid : input.keep_alive_id ∈ ids)
      (haccepted' : accepted session = some (ids.erase input.keep_alive_id)) :
    KeepAliveEffect s (.Proceed written)
      { s with session, location := .Progress, log := s.log ++ [.KeepAliveAnswered input.keep_alive_id] }
  | forgotten {a : Action} {s' : Limbo} (hforgets : s.forgets a = true) (hlocation : s.location = .Select)
      (hlocation' : s'.location = .Select) (hid : s'.keep_alive_id = s.keep_alive_id)
      (hpending : s'.pending_keep_alive = 0) (harmed : s'.timeout_armed = false)
      (hvalid : s'.valid_keep_alives = s.valid_keep_alives) (hsnapshots : s'.snapshots = s.snapshots)
      (hsession : s'.session = s.session) (hlog : s'.log = s.log) :
    KeepAliveEffect s a s'
  | snapshotted {a : Action} {s' : Limbo} (hlocation : s.location = .Select)
      (hlocation' : s'.location = .Select) (hid : s'.keep_alive_id = s.keep_alive_id)
      (hpending : s'.pending_keep_alive = s.pending_keep_alive)
      (harmed : s'.timeout_armed = s.timeout_armed)
      (hvalid : s'.valid_keep_alives = s.valid_keep_alives)
      (hsnapshots : s'.snapshots = s.snapshots ++ [pending_ids s.pending_keep_alive])
      (hsession : s'.session = s.session) (hlog : s'.log = s.log) :
    KeepAliveEffect s a s'
  | begun {a : Action} {s' : Limbo} {ids : List Int} {k : Nat} (hbegins : s.begins a = some ids)
      (hids : ids ∈ s.snapshots) (hlocation' : s'.location = s.location)
      (hid : s'.keep_alive_id = s.keep_alive_id)
      (hpending : s'.pending_keep_alive = s.pending_keep_alive)
      (harmed : s'.timeout_armed = s.timeout_armed)
      (hvalid : s'.valid_keep_alives = s.valid_keep_alives) (hsnapshots : s'.snapshots = s.snapshots)
      (haccepted : accepted s'.session = some ids.toFinset)
      (hlog : s'.log = s.log ++ [.TransferBegun k]) :
    KeepAliveEffect s a s'

theorem Undisturbed.moved {s : Limbo} {next : Location}
    (hrunning : next.ended = false → s.location.ended = false ∧ next.sending = s.location.sending) :
    s.Undisturbed { s with location := next } :=
  { running := hrunning }

theorem Undisturbed.ended {s : Limbo} (e : Error) : s.Undisturbed (s.fail e) :=
  { running := nofun }

theorem Undisturbed.rejected {s : Limbo} (frame : Bytes) (e : Error) : s.Undisturbed (s.reject frame e) :=
  { running := nofun, log := ⟨[.FrameRejected frame e], by simp [keepAliveSent, keepAliveAnswered], rfl⟩ }

/-- A client write other than a keepalive. -/
theorem Undisturbed.wrote {s : Limbo} {transfer : Option Nat} {packet : Clientbound} {next : Location}
    (hpacket : keepAliveSent (.Wrote transfer packet) = none)
    (hrunning : next.ended = false → s.location.ended = false ∧ next.sending = s.location.sending) :
    s.Undisturbed (s.write transfer packet next) :=
  { running := hrunning, log := ⟨[.Wrote transfer packet], by simp [hpacket, keepAliveAnswered], rfl⟩ }

/-- A step of `Prepare` or of its transfer that keeps or drops the barrier. -/
theorem Undisturbed.attempt {s s' : Limbo} {events : List Event} (hlocation : s'.location = s.location)
    (hid : s'.keep_alive_id = s.keep_alive_id) (hpending : s'.pending_keep_alive = s.pending_keep_alive)
    (harmed : s'.timeout_armed = s.timeout_armed)
    (hvalid : s'.valid_keep_alives = s.valid_keep_alives) (hsnapshots : s'.snapshots = s.snapshots)
    (hbarrier : accepted s'.session = accepted s.session ∨ accepted s'.session = none)
    (hquiet : Quiet events) (hlog : s'.log = s.log ++ events) : s.Undisturbed s' :=
  ⟨hid, hpending, harmed, hvalid, hsnapshots, fun h => ⟨by rwa [← hlocation], by rw [hlocation]⟩, hbarrier,
    events, hquiet, hlog⟩

section Classification

variable {cfg : Config} {q q' : AdmissionQueue} {s s' : Limbo} {a : Action}

/-- A failed `Prepare` makes the loop forget its keepalive. -/
theorem forgets_prepareResult {k : Nat} {attempt : Attempt} {e : Error} (hresult : s.prepare_result = some k)
    (hattempt : s.attempts[k]? = some attempt) (houtcome : attempt.location = .Outcome (some e)) :
    s.forgets .PrepareResult = true := by
  obtain ⟨request, ids, location, prepared⟩ := attempt
  dsimp only at houtcome
  subst houtcome
  simp [forgets, hresult, hattempt]

/-- So does a transfer that was finalized with an error. -/
theorem forgets_prepareDone {k : Nat} {attempt : Attempt} {p : Prepared} {e : Error}
    (hprepared : s.prepared = some k) (hattempt : s.attempts[k]? = some attempt)
    (hopen : attempt.prepared = some p) (herr : p.final_err = some e) : s.forgets .PrepareDone = true := by
  have hcurrent := current_eq_some.mpr ⟨hprepared, attempt, hattempt, hopen⟩
  simp [forgets, hcurrent, herr]

/-- A call of `Prepare` begins a transfer with the identifiers that it was given. -/
theorem begins_prepare {k : Nat} {attempt : Attempt} {outcome : Except Error (List Bytes)}
    (hattempt : s.attempts[k]? = some attempt) (hstart : attempt.location = .Start) :
    s.begins (.Prepare k outcome) = some attempt.old_keep_alives := by
  simp [begins, hattempt, hstart]

/-- The join sequence that is left to write is the end of the whole one. -/
def Joins (s : Limbo) : Prop := ∀ rest, s.location = .Joining rest → rest <:+ joinPackets

theorem start_joins (conn : Conn) (uuid : UUID) (required : Option Int) : (start conn uuid required).Joins := by
  intro rest hrest
  cases hrest
  exact List.suffix_rfl

theorem joinPackets_quiet {packet : Clientbound} (h : packet ∈ joinPackets) (transfer : Option Nat) :
    keepAliveSent (.Wrote transfer packet) = none := by
  simp only [joinPackets, List.mem_cons, List.not_mem_nil, or_false] at h
  obtain rfl | rfl | rfl | rfl | rfl | rfl := h <;> rfl

/-- One step of a session that is sending its join packets. -/
theorem effect_joins (hjoins : s.Joins) (h : Effect cfg q s a q' s') : s'.Joins := by
  intro rest hrest
  cases h with
  | join_packet hlocation =>
    cases hrest
    exact (List.suffix_cons _ _).trans (hjoins _ hlocation)
  | prepare_failed hlocation | transfer_lost hlocation | begin_undone | admitted =>
    obtain hblocked | hnext := respond_location _ _ _
    · rw [hblocked] at hrest
      cases hrest
    · rw [hnext] at hrest
      first
        | cases hrest
        | cases hlocation.symm.trans hrest
  | idle | challenge_passed | challenge_enqueued | admission_refused | admission_accepted
  | prepare_refused | transfer_begun | prepare_aborted | login_phase | dialed | logged_in
  | configuration_phase | configured | prepared | rolled_back | outcome_dropped | transfer_dropped
  | barrier_timed_out | admit_called | admit_sent | admit_received | admit_cancelled
  | caller_cancelled => exact hjoins rest hrest
  | _ => cases hrest

theorem callEvents_quiet {call : BarrierCall} (h : ∀ input, call = .Input input → input.kind ≠ .KeepAlive) :
    Quiet (callEvents call) := by
  cases call with
  | Advance phase =>
    by_cases hphase : phase = BarrierClientConfiguration <;>
      simp [callEvents, hphase, keepAliveSent, keepAliveAnswered]
  | Input input => simp [callEvents, h input rfl]
  | Done => exact quiet_nil

/-- Every step of a session, as far as the keepalives are concerned. -/
theorem keep_alive_effect (hjoins : s.Joins) (h : Effect cfg q s a q' s') : KeepAliveEffect s a s' := by
  cases h with
  | failed hrunning => exact .undisturbed (.ended _)
  | timed_out hlocation harmed => exact .undisturbed (.ended _)
  | idle hlocation => exact .undisturbed { running := fun h => ⟨h, rfl⟩ }
  | @join_packet packet rest hlocation =>
    have hpacket : packet ∈ joinPackets := (hjoins _ hlocation).subset List.mem_cons_self
    exact .undisturbed (.wrote (joinPackets_quiet hpacket none)
      (by simp [hlocation, Location.ended, Location.sending]))
  | keep_alive_sent hlocation => exact .sent hlocation
  | ticked hlocation hstate hpending => exact .ticked hlocation hpending hstate
  | join_sent hlocation | teleported hlocation | status_due hlocation | unplaced hlocation
  | placed hlocation | barrier_frame hlocation | limbo_frame hlocation | barrier_read hlocation
  | progressed hlocation | progress_writes hlocation | progress_releases hlocation
  | frame_accepted hlocation | begin_checked hlocation | begin_rechecked hlocation
  | write_checked hlocation | replayed hlocation =>
    exact .undisturbed (.moved (by simp [hlocation, Location.ended, Location.sending]))
  | begin_refused hlocation =>
    refine .undisturbed (.moved ?_)
    obtain hlocation | hlocation | hlocation := hlocation <;>
      simp [hlocation, Location.ended, Location.sending]
  | action_bar_sent hlocation | start_sent hlocation | packet_sent hlocation | finish_sent hlocation
  | relayed hlocation =>
    exact .undisturbed (.wrote rfl (by simp [hlocation, Location.ended, Location.sending]))
  | frame_malformed hlocation hid => exact .undisturbed (.rejected _ _)
  | barrier_inactive hlocation hactive => exact .undisturbed (.rejected _ _)
  | barrier_refused hlocation hactive hcall => exact .undisturbed (.rejected _ _)
  | call_refused hlocation hperform => exact .undisturbed (.rejected _ _)
  | answer_refused hlocation hanswer => exact .undisturbed (.rejected _ _)
  | frame_refused hlocation hid => exact .undisturbed (.rejected _ _)
  | @called _ call frame session hlocation hperform =>
    obtain ⟨hsame, hother⟩ | ⟨input, ids, rfl, hkind, haccepted, hid, haccepted'⟩ :=
      accepted_perform hperform
    · refine .undisturbed {
        running := by simp [hlocation, Location.ended, Location.sending]
        barrier := .inl hsame
        log := ⟨callEvents call, ?_, rfl⟩ }
      exact callEvents_quiet hother
    · have hevents : callEvents (.Input input) = [.KeepAliveAnswered input.keep_alive_id] := by
        simp [callEvents, hkind]
      rw [hevents]
      exact .barrier_answered hlocation hkind haccepted hid haccepted'
  | @answer_unqueued _ frame _ e hlocation hparse hpending he hnext =>
    have hquiet : Quiet [.FrameRejected frame e] := by simp [keepAliveSent, keepAliveAnswered]
    obtain rfl | rfl := hnext
    · exact .answered hlocation hpending rfl rfl rfl rfl rfl rfl (.inl rfl) hquiet (List.append_assoc _ _ _)
    · exact .answered hlocation hpending rfl rfl rfl rfl rfl rfl (.inl rfl) hquiet (List.append_assoc _ _ _)
  | answered hlocation hparse hpending hwaits =>
    exact .answered hlocation hpending rfl rfl rfl rfl rfl rfl (.inr rfl) quiet_nil rfl
  | answered_enqueued hlocation hparse hpending henqueues =>
    refine .answered hlocation hpending rfl rfl rfl rfl rfl rfl (.inr rfl) ?_ (List.append_assoc _ _ _)
    simp [keepAliveSent, keepAliveAnswered]
  | challenge_failed hlocation => exact .undisturbed { running := nofun }
  | challenge_unqueued hlocation hresult =>
    exact .undisturbed {
      running := nofun
      log := ⟨[.ChallengePassed], by simp [keepAliveSent, keepAliveAnswered], rfl⟩ }
  | challenge_passed hlocation hresult hwaits =>
    exact .undisturbed {
      running := fun h => ⟨h, rfl⟩
      log := ⟨[.ChallengePassed], by simp [keepAliveSent, keepAliveAnswered], rfl⟩ }
  | challenge_enqueued hlocation hresult henqueues =>
    exact .undisturbed {
      running := fun h => ⟨h, rfl⟩
      log := ⟨[.ChallengePassed, .Enqueued], by simp [Quiet, keepAliveSent, keepAliveAnswered],
        List.append_assoc _ _ _⟩ }
  | admission_accepted hlocation hadmissions hcoordinator hprepared hstate =>
    exact .snapshotted hlocation hlocation rfl rfl rfl rfl (by simp [snapshots]) rfl rfl
  | prepare_failed hlocation hresult hattempt houtcome =>
    obtain ⟨_, heq⟩ | ⟨request, _, heq⟩ := respond_cases _ _ _ <;> rw [heq]
    · exact .undisturbed {
        snapshots := snapshots_moveAttempt s _ _
        running := by simp [hlocation, Location.ended, Location.sending] }
    · exact .forgotten (forgets_prepareResult hresult hattempt houtcome) hlocation hlocation rfl rfl rfl rfl
        (snapshots_moveAttempt s _ _) rfl rfl
  | prepare_succeeded hlocation hresult hattempt houtcome =>
    exact .undisturbed {
      snapshots := snapshots_moveAttempt s _ _
      running := by simp [hlocation, Location.ended, Location.sending] }
  | transfer_lost hlocation hprepared hattempt hopen herr =>
    obtain ⟨_, heq⟩ | ⟨request, _, heq⟩ := respond_cases _ _ _ <;> rw [heq]
    · exact .undisturbed (.moved (by simp [hlocation, Location.ended, Location.sending]))
    · exact .forgotten (forgets_prepareDone hprepared hattempt hopen herr) hlocation hlocation rfl rfl rfl rfl
        rfl rfl rfl
  | begin_undone hlocation hprepared hattempt hopen =>
    obtain ⟨_, heq⟩ | ⟨request, _, heq⟩ := respond_cases _ _ _ <;> rw [heq]
    all_goals
      exact .undisturbed {
        snapshots := snapshots_setPrepared s _ _
        barrier := accepted_rollback _
        running := by simp [hlocation, send, Location.ended, Location.sending] }
  | write_finished hlocation hprepared hattempt hopen hfinish =>
    exact .undisturbed {
      barrier := .inl (accepted_write_finish hfinish)
      running := by simp [hlocation, Location.ended, Location.sending] }
  | @released _ k _ _ _ _ _ _ _ hlocation hprepared hattempt hopen hrelease =>
    exact .undisturbed {
      snapshots := snapshots_setPrepared s _ _
      barrier := .inr (accepted_release hrelease)
      running := by simp [hlocation, Location.ended, Location.sending]
      log := ⟨[.Released k], by simp [keepAliveSent, keepAliveAnswered], rfl⟩ }
  | admitted hlocation =>
    obtain ⟨_, heq⟩ | ⟨request, _, heq⟩ := respond_cases _ _ _ <;> rw [heq]
    all_goals exact .undisturbed { running := by simp [hlocation, send, Location.ended, Location.sending] }
  | item_cancelled hlocation => exact .undisturbed (.moved nofun)
  | context_cancelled hlocation => exact .undisturbed { running := nofun }
  | untracked hlocation => exact .undisturbed { running := nofun }
  | transfer_begun hattempt hstart hcoordinator hbegin =>
    have hids := List.mem_map_of_mem (f := (·.old_keep_alives)) (List.mem_of_getElem? hattempt)
    exact .begun (begins_prepare hattempt hstart) hids rfl rfl rfl rfl rfl (snapshots_moveAttempt s _ _)
      (accepted_begin hbegin) rfl
  | prepare_refused | prepare_aborted | dialed | outcome_dropped =>
    exact .undisturbed (.attempt rfl rfl rfl rfl rfl (snapshots_moveAttempt s _ _) (.inl rfl) quiet_nil
      (List.append_nil _).symm)
  | login_phase hattempt hbegun hadvance | configuration_phase hattempt hloggedIn hadvance =>
    exact .undisturbed (.attempt rfl rfl rfl rfl rfl (snapshots_moveAttempt s _ _)
      (.inl (accepted_advance hadvance)) quiet_nil (List.append_nil _).symm)
  | @logged_in k =>
    have hquiet : Quiet [.LoginCompleted k] := by simp [keepAliveSent, keepAliveAnswered]
    exact .undisturbed (.attempt rfl rfl rfl rfl rfl (snapshots_moveAttempt s _ _) (.inl rfl) hquiet rfl)
  | @configured k _ packets =>
    have hquiet : Quiet [.ConfigurationCompleted k packets] := by simp [keepAliveSent, keepAliveAnswered]
    exact .undisturbed (.attempt rfl rfl rfl rfl rfl (snapshots_moveAttempt s _ _) (.inl rfl) hquiet rfl)
  | prepared hattempt hconfigured hadvance =>
    exact .undisturbed (.attempt rfl rfl rfl rfl rfl (snapshots_handed_out s _ _ _)
      (.inl (accepted_advance hadvance)) quiet_nil (List.append_nil _).symm)
  | rolled_back =>
    exact .undisturbed (.attempt rfl rfl rfl rfl rfl (snapshots_moveAttempt s _ _) (.inr accepted_rolledBack)
      quiet_nil (List.append_nil _).symm)
  | transfer_dropped =>
    exact .undisturbed (.attempt rfl rfl rfl rfl rfl (snapshots_handed_out s _ _ _) (accepted_rollback _) quiet_nil
      (List.append_nil _).symm)
  | barrier_timed_out =>
    exact .undisturbed (.attempt rfl rfl rfl rfl rfl (snapshots_setPrepared s _ _) (accepted_timeout _) quiet_nil
      (List.append_nil _).symm)
  | admission_refused | admit_called | admit_sent | admit_received | admit_cancelled | caller_cancelled =>
    exact .undisturbed { running := fun h => ⟨h, rfl⟩ }

end Classification

end Limbo

end regiongate.server
