import RegionGate.Server.KeepAlive
import RegionGate.Server.TransferOwner

open regiongate.session regiongate.transfer execution

namespace regiongate.server

/-- The protocol state of the client as the gateway's packets and the client's
acknowledgement determine it. -/
inductive ClientState where
  | Play
  | Configuration
  | Finishing
  deriving DecidableEq

/-- How a packet that the client gets, or its acknowledgement, moves it on. -/
def ClientState.next : ClientState → Event → ClientState
  | .Play, .Wrote _ .StartConfiguration => .Configuration
  | .Configuration, .Wrote _ .FinishConfiguration => .Finishing
  | .Finishing, .FinishAcknowledged => .Play
  | state, _ => state

/-- The state of a client that has been in Play from the start. -/
def clientState (log : List Event) : ClientState := log.foldl ClientState.next .Play

/-- Events that move no client to another protocol state. -/
def Neutral (events : List Event) : Prop := ∀ e ∈ events, ∀ state : ClientState, state.next e = state

theorem neutral_nil : Neutral [] := by
  intro e he
  cases he

theorem neutral_singleton {e : Event} (h : ∀ state : ClientState, state.next e = state) : Neutral [e] := by
  intro other hother
  rw [List.mem_singleton.mp hother]
  exact h

theorem Neutral.append {events events' : List Event} (h : Neutral events) (h' : Neutral events') :
    Neutral (events ++ events') := by
  intro e he
  obtain he | he := List.mem_append.mp he
  · exact h e he
  · exact h' e he

theorem clientState_snoc (log : List Event) (e : Event) :
    clientState (log ++ [e]) = (clientState log).next e := by
  simp [clientState]

/-- Neutral events leave the client where it is. -/
theorem Neutral.clientState_append {log events : List Event} (h : Neutral events) :
    clientState (log ++ events) = clientState log := by
  induction events using List.reverseRecOn with
  | nil => rw [List.append_nil]
  | append_singleton events e ih =>
    rw [← List.append_assoc, clientState_snoc, h e (by simp)]
    exact ih fun other hother => h other (by simp [hother])

/-- How far the client's configuration has come. `Writing` is followed by the
packets that are left. -/
inductive Stage where
  | Prepared
  | Started
  | Acknowledged
  | Writing (rest : List Bytes)
  | Finished
  | Complete
  deriving DecidableEq

/-- The stage of the transfer that the loop holds, by where the loop stands and,
outside the methods of the transfer, by the barrier's phase. -/
def stage (location : Location) (phase : BarrierPhase) : Stage :=
  match location with
  | .BeginCheck | .BeginWrite | .BeginFailed _ => .Prepared
  | .BeginRecheck => .Started
  | .WritePackets rest => .Writing rest
  | .WriteFinish => .Finished
  | _ =>
    if phase = BarrierAwaitingClientConfigurationStart then .Started
    else if phase = BarrierClientConfiguration then .Acknowledged
    else if phase = BarrierAwaitingClientConfigurationFinish then .Finished
    else .Complete

/-- The steps between stages, with what they record. -/
inductive StageStep (k : Nat) (packets : List Bytes) : Stage → List Event → Stage → Prop where
  | stay {stage : Stage} {events : List Event} (h : Neutral events) : StageStep k packets stage events stage
  | start : StageStep k packets .Prepared [.Wrote (some k) .StartConfiguration] .Started
  | acknowledge : StageStep k packets .Started [.ConfigurationAcknowledged] .Acknowledged
  | check : StageStep k packets .Acknowledged [] (.Writing packets)
  | packet {packet : Bytes} {rest : List Bytes} :
    StageStep k packets (.Writing (packet :: rest)) [.Wrote (some k) (.Configuration packet)] (.Writing rest)
  | finish : StageStep k packets (.Writing []) [.Wrote (some k) .FinishConfiguration] .Finished
  | complete : StageStep k packets .Finished [.FinishAcknowledged] .Complete

namespace Limbo

/-- The loop holds the prepared transfer, which is open and owns the barrier. -/
structure Held (s : Limbo) (k : Nat) (p : Prepared) (b : BarrierState) : Prop where
  prepared : s.prepared = some k
  attempt : ∃ attempt, s.attempts[k]? = some attempt ∧ attempt.prepared = some p
  opened : p.finalized = false
  active : s.session.active = some b

section Step

variable {cfg : Config} {q q' : AdmissionQueue} {s s' : Limbo} {a : Action} {k : Nat} {p : Prepared}
  {b b' : BarrierState}

/-- What does not change the transfer holds it before and after. -/
theorem Held.of_same (h : s'.Held k p b) (hattempts : s'.attempts = s.attempts)
    (hsession : s'.session = s.session) (hprepared : s'.prepared = s.prepared) : s.Held k p b := by
  refine ⟨hprepared ▸ h.prepared, ?_, h.opened, hsession ▸ h.active⟩
  rw [← hattempts]
  exact h.attempt

/-- How the loop came to hold the transfer: it was taken in this step, its
configuration was refused after Start Configuration was written, or it was
held before and has come to the next stage. -/
inductive HeldEffect (s s' : Limbo) (k : Nat) (p : Prepared) (b' : BarrierState) : Prop where
  | taken {attempt : Attempt} (hlocation' : s'.location = .BeginCheck) (hlog : s'.log = s.log)
      (hnew : s.prepared ≠ some k) (hattempt : s.attempts[k]? = some attempt)
      (hopen : attempt.prepared = some p)
  | refused {e : Error} (hlocation : s.location = .BeginRecheck) (hlocation' : s'.location = .BeginFailed e)
      (hlog : s'.log = s.log) (hheld : s.Held k p b') (hcheck : p.begin_check s.session = .error e)
  | continues {b : BarrierState} {events : List Event} (hheld : s.Held k p b)
      (hlog : s'.log = s.log ++ events)
      (hstep : StageStep k p.packets (stage s.location b.phase) events (stage s'.location b'.phase))

/-- A step elsewhere, after which the transfer is at the same stage. -/
theorem Held.stays {events : List Event} (h : s'.Held k p b') (hattempts : s'.attempts = s.attempts)
    (hsession : s'.session = s.session) (hprepared : s'.prepared = s.prepared)
    (hlog : s'.log = s.log ++ events) (hneutral : Neutral events)
    (hstage : ∀ phase, stage s.location phase = stage s'.location phase) : HeldEffect s s' k p b' :=
  .continues (h.of_same hattempts hsession hprepared) hlog (hstage b'.phase ▸ .stay hneutral)

theorem Held.idles (h : s'.Held k p b') (hattempts : s'.attempts = s.attempts)
    (hsession : s'.session = s.session) (hprepared : s'.prepared = s.prepared) (hlog : s'.log = s.log)
    (hstage : ∀ phase, stage s.location phase = stage s'.location phase) : HeldEffect s s' k p b' :=
  h.stays hattempts hsession hprepared (by rw [hlog, List.append_nil]) neutral_nil hstage

/-- A step of a call of `Prepare` leaves the transfers. -/
theorem Held.before_move {j : Nat} {location : PrepareLocation} (h : s'.Held k p b')
    (hattempts : s'.attempts = (s.moveAttempt j location).attempts) :
    ∃ attempt, s.attempts[k]? = some attempt ∧ attempt.prepared = some p := by
  obtain ⟨attempt, hattempt, hopen⟩ := h.attempt
  rw [hattempts] at hattempt
  obtain ⟨old, hold, rfl⟩ := modify_eq_some hattempt
  refine ⟨old, hold, ?_⟩
  split at hopen
  · exact hopen
  · exact hopen

/-- A step of a call of `Prepare` that touches neither the session nor the log. -/
theorem Held.idles_moved {j : Nat} {location : PrepareLocation} (h : s'.Held k p b')
    (hattempts : s'.attempts = (s.moveAttempt j location).attempts) (hsession : s'.session = s.session)
    (hprepared : s'.prepared = s.prepared) (hlog : s'.log = s.log)
    (hstage : ∀ phase, stage s.location phase = stage s'.location phase) : HeldEffect s s' k p b' := by
  have hbefore : s.Held k p b' :=
    ⟨hprepared ▸ h.prepared, h.before_move hattempts, h.opened, hsession ▸ h.active⟩
  refine .continues hbefore (by rw [hlog, List.append_nil]) ?_
  rw [hstage]
  exact .stay neutral_nil

/-- A transfer that has just been finalized is not the one that is held. -/
theorem Held.before_set {j : Nat} {ended : Prepared} (h : s'.Held k p b')
    (hattempts : s'.attempts = (s.setPrepared j ended).attempts) (hfinal : ended.finalized = true) :
    j ≠ k ∧ ∃ attempt, s.attempts[k]? = some attempt ∧ attempt.prepared = some p := by
  obtain ⟨attempt, hattempt, hopen⟩ := h.attempt
  rw [hattempts] at hattempt
  obtain ⟨old, hold, rfl⟩ := modify_eq_some hattempt
  split at hopen
  · cases hopen
    rw [h.opened] at hfinal
    cases hfinal
  · rename_i hne
    exact ⟨hne, old, hold, hopen⟩

theorem Held.same_transfer {j : Nat} {attempt : Attempt} {other : Prepared} (h : s.Held k p b)
    (hprepared : s.prepared = some j) (hattempt : s.attempts[j]? = some attempt)
    (hopen : attempt.prepared = some other) : p = other := by
  obtain rfl := Option.some.inj (hprepared.symm.trans h.prepared)
  obtain ⟨held, hheld, hopen'⟩ := h.attempt
  obtain rfl := Option.some.inj (hattempt.symm.trans hheld)
  exact Option.some.inj (hopen'.symm.trans hopen)

/-- Beside an open prepared transfer no call of `Prepare` is within one. -/
theorem Owner.not_working (h : s.Owner) {j : Nat} {x y : Attempt} (hx : s.attempts[k]? = some x)
    (hopen : x.prepared = some p) (hopened : p.finalized = false) (hy : s.attempts[j]? = some y) :
    y.location.working = false := by
  by_contra hworking
  rw [Bool.not_eq_false] at hworking
  have hjk := h.unique hy hx (by simp [Attempt.opened, hworking]) (by simp [Attempt.opened, hopen, hopened])
  subst hjk
  obtain rfl := Option.some.inj (hx.symm.trans hy)
  rw [(h.prepared_idle hx hopen).1] at hworking
  cases hworking

/-- The barrier of an open prepared transfer. -/
theorem Owner.prepared_active (h : s.Owner) {x : Attempt} (hx : s.attempts[k]? = some x)
    (hopen : x.prepared = some p) (hopened : p.finalized = false) :
    ∃ b, s.session.active = some b := by
  obtain ⟨b, hb, _⟩ := h.active hx (by simp [Attempt.opened, hopen, hopened])
  exact ⟨b, hb⟩

/-- Whoever ends another transfer beside an open one finds it ended already. -/
theorem Owner.other_finalized (h : s.Owner) {j : Nat} {x y : Attempt} {other : Prepared}
    (hx : s.attempts[k]? = some x) (hopen : x.prepared = some p) (hopened : p.finalized = false)
    (hy : s.attempts[j]? = some y) (hother : y.prepared = some other) (hne : j ≠ k) :
    other.finalized = true := by
  by_contra hfinal
  exact hne (h.unique hy hx (by simp [Attempt.opened, hother, hfinal])
    (by simp [Attempt.opened, hopen, hopened]))

theorem neutral_input (input : Input) : Neutral (callEvents (.Input input)) := by
  by_cases hkind : input.kind = .KeepAlive
  · simp only [callEvents, hkind, if_true]
    exact neutral_singleton fun state => by cases state <;> rfl
  · simp only [callEvents, hkind, if_false]
    exact neutral_nil

/-- A client frame at the barrier of the held transfer. -/
theorem called_continues {call : BarrierCall} {frame : Bytes} {session : Session} (howner : s.Owner)
    (hlocation : s.location = .BarrierCall call frame) (hperform : call.perform s.session = (session, none))
    (hheld : Held { s with session, location := .Progress, log := s.log ++ callEvents call } k p b') :
    HeldEffect s { s with session, location := .Progress, log := s.log ++ callEvents call } k p b' := by
  cases hactive : s.session.active with
  | none =>
    have hnone := BarrierCall.perform_inactive hactive hperform
    rw [hheld.active] at hnone
    cases hnone
  | some b =>
    obtain ⟨hactive', _⟩ := BarrierCall.perform_active hactive hperform
    obtain rfl := Option.some.inj (hactive'.symm.trans hheld.active)
    have hbefore : s.Held k p b := ⟨hheld.prepared, hheld.attempt, hheld.opened, hactive⟩
    refine .continues hbefore rfl ?_
    rw [hlocation]
    cases call with
    | Done => exact .stay neutral_nil
    | Input input =>
      have hphase : (BarrierCall.applied b (.Input input)).phase = b.phase := BarrierState.handle_phase b input
      rw [hphase]
      exact .stay (neutral_input input)
    | Advance phase =>
      simp only [BarrierCall.perform] at hperform
      cases hadvance : s.session.advance_barrier phase with
      | error e => simp [hadvance] at hperform
      | ok next =>
        obtain ⟨old, hold, hnext, _⟩ := Session.advance_barrier_eq_ok.mp hadvance
        obtain rfl := Option.some.inj (hactive.symm.trans hold)
        obtain rfl | rfl := howner.call hlocation
        · have hphase : b.phase = BarrierAwaitingClientConfigurationStart := (UInt8.add_left_inj 1).mp hnext.symm
          rw [hphase]
          exact .acknowledge
        · have hphase : b.phase = BarrierAwaitingClientConfigurationFinish := (UInt8.add_left_inj 1).mp hnext.symm
          rw [hphase]
          exact .complete

/-- The join packets are all of the play state. -/
theorem joinPackets_neutral {packet : Clientbound} (h : packet ∈ joinPackets) (state : ClientState) :
    state.next (.Wrote none packet) = state := by
  simp only [joinPackets, List.mem_cons, List.not_mem_nil, or_false] at h
  obtain rfl | rfl | rfl | rfl | rfl | rfl := h <;> cases state <;> rfl

/-- A packet of the held transfer reaches the client. -/
theorem written_continues {j : Nat} {packet : Clientbound} {next : Location} (hprepared : s.prepared = some j)
    (hheld : (s.write (some j) packet next).Held k p b')
    (hstep : StageStep j p.packets (stage s.location b'.phase) [.Wrote (some j) packet] (stage next b'.phase)) :
    HeldEffect s (s.write (some j) packet next) k p b' := by
  obtain rfl := Option.some.inj (hprepared.symm.trans hheld.prepared)
  exact .continues (hheld.of_same rfl rfl rfl) rfl hstep

/-- `BeginClientConfiguration` fails, before or after Start Configuration is written. -/
theorem refused_effect {e : Error}
    (hlocation : s.location = .BeginCheck ∨ s.location = .BeginWrite ∨ s.location = .BeginRecheck)
    (hcheck : s.location ≠ .BeginWrite → ∃ j attempt other, s.prepared = some j ∧
      s.attempts[j]? = some attempt ∧ attempt.prepared = some other ∧ other.begin_check s.session = .error e)
    (hheld : Held { s with location := .BeginFailed e } k p b') :
    HeldEffect s { s with location := .BeginFailed e } k p b' := by
  obtain hlocation | hlocation | hlocation := hlocation
  · exact hheld.idles rfl rfl rfl rfl fun _ => by rw [hlocation]; rfl
  · exact hheld.idles rfl rfl rfl rfl fun _ => by rw [hlocation]; rfl
  · obtain ⟨j, attempt, other, hprepared, hattempt, hopen, hrefused⟩ := hcheck (by rw [hlocation]; rintro ⟨⟩)
    have hbefore := hheld.of_same (s := s) rfl rfl rfl
    obtain rfl := hbefore.same_transfer hprepared hattempt hopen
    exact .refused hlocation rfl rfl hbefore hrefused

/-- The second check of `BeginClientConfiguration` finds the barrier waiting for the client. -/
theorem rechecked_continues {other : Prepared} (hlocation : s.location = .BeginRecheck)
    (hcheck : other.begin_check s.session = .ok ()) (hheld : Held { s with location := .Select } k p b') :
    HeldEffect s { s with location := .Select } k p b' := by
  obtain ⟨_, b, hactive, hphase⟩ := Prepared.begin_check_eq_ok.mp hcheck
  obtain rfl := Option.some.inj (hactive.symm.trans hheld.active)
  refine .continues (hheld.of_same rfl rfl rfl) (List.append_nil _).symm ?_
  rw [hlocation]
  simp only [stage, hphase, if_true]
  exact .stay neutral_nil

/-- `WriteClientConfiguration` takes up the packets of the held transfer. -/
theorem write_checked_continues {j : Nat} {attempt : Attempt} {other : Prepared} {packets : List Bytes}
    (hlocation : s.location = .WriteCheck) (hprepared : s.prepared = some j)
    (hattempt : s.attempts[j]? = some attempt) (hopen : attempt.prepared = some other)
    (hcheck : other.write_check s.session = .ok packets)
    (hheld : Held { s with location := .WritePackets packets } k p b') :
    HeldEffect s { s with location := .WritePackets packets } k p b' := by
  obtain ⟨_, rfl, b, hactive, hphase⟩ := Prepared.write_check_eq_ok.mp hcheck
  have hbefore := hheld.of_same (s := s) rfl rfl rfl
  obtain rfl := hbefore.same_transfer hprepared hattempt hopen
  obtain rfl := Option.some.inj (hactive.symm.trans hheld.active)
  have hstage : stage s.location b.phase = .Acknowledged := by
    rw [hlocation, hphase]
    rfl
  refine .continues hbefore (List.append_nil _).symm ?_
  rw [hstage]
  exact .check

/-- `WriteClientConfiguration` moves the barrier on once Finish Configuration is written. -/
theorem write_finished_continues {other : Prepared} {session : Session} (hlocation : s.location = .WriteFinish)
    (hfinish : other.write_finish s.session = .ok session)
    (hheld : Held { s with session, client_configuration_sent := true, location := .Select } k p b') :
    HeldEffect s { s with session, client_configuration_sent := true, location := .Select } k p b' := by
  obtain ⟨_, b, hactive, hphase, rfl⟩ := Prepared.write_finish_eq_ok.mp hfinish
  have hbefore : s.Held k p b := ⟨hheld.prepared, hheld.attempt, hheld.opened, hactive⟩
  have hphase' : b'.phase = BarrierAwaitingClientConfigurationFinish := by
    have hactive' := hheld.active
    rw [Session.active_eq_some] at hactive'
    rw [← Option.some.inj hactive'.2]
  refine .continues hbefore (List.append_nil _).symm ?_
  rw [hlocation, hphase']
  exact .stay neutral_nil

/-- A new call of `Prepare` has no transfer, so the held one is an earlier call's. -/
theorem Held.before_append {fresh : Attempt} (h : s'.Held k p b') (hattempts : s'.attempts = s.attempts ++ [fresh])
    (hfresh : fresh.prepared = none) : ∃ attempt, s.attempts[k]? = some attempt ∧ attempt.prepared = some p := by
  obtain ⟨attempt, hattempt, hopen⟩ := h.attempt
  rw [hattempts, List.getElem?_append] at hattempt
  split at hattempt
  · exact ⟨attempt, hattempt, hopen⟩
  · rw [List.mem_singleton.mp (List.mem_of_getElem? hattempt), hfresh] at hopen
    cases hopen

/-- While a transfer is held, no other call of `Prepare` that takes a step is within one. -/
theorem Owner.move_not_working {j : Nat} {location : PrepareLocation} {attempt : Attempt} (h : s.Owner)
    (hheld : s'.Held k p b') (hattempts : s'.attempts = (s.moveAttempt j location).attempts)
    (hattempt : s.attempts[j]? = some attempt) : attempt.location.working = false := by
  obtain ⟨x, hx, hopen⟩ := hheld.before_move hattempts
  exact h.not_working hx hopen hheld.opened hattempt

/-- An open transfer leaves no room for another one to begin. -/
theorem Owner.none_begins {ids : List Int} {max : Int} {session : Session} {j : Nat}
    {location : PrepareLocation} (h : s.Owner) (hheld : s'.Held k p b')
    (hattempts : s'.attempts = (s.moveAttempt j location).attempts) :
    s.session.begin_transfer ids max ≠ .ok session := by
  intro hbegin
  obtain ⟨x, hx, hopen⟩ := hheld.before_move hattempts
  obtain ⟨b, hb⟩ := h.prepared_active hx hopen hheld.opened
  obtain ⟨hinactive, _⟩ := begin_active hbegin
  cases hinactive.symm.trans hb

/-- The end of another transfer, which has ended before, leaves the held one where it is. -/
theorem Held.other_ended {j : Nat} {x y : Attempt} {other ended : Prepared} (h : s'.Held k p b') (howner : s.Owner)
    (hx : s.attempts[k]? = some x) (hopen : x.prepared = some p) (hy : s.attempts[j]? = some y)
    (hother : y.prepared = some other) (hne : j ≠ k)
    (hends : Finalizes other s.session ended s'.session) (hprepared : s'.prepared = s.prepared)
    (hlog : s'.log = s.log) (hlocation : s'.location = s.location) : HeldEffect s s' k p b' := by
  have hfinal := howner.other_finalized hx hopen h.opened hy hother hne
  have hsession := hends.same hfinal
  have hbefore : s.Held k p b' := ⟨hprepared ▸ h.prepared, ⟨x, hx, hopen⟩, h.opened, hsession ▸ h.active⟩
  refine .continues hbefore (by rw [hlog, List.append_nil]) ?_
  rw [hlocation]
  exact .stay neutral_nil

/-- Every step that leaves the loop with an open transfer has taken it, has been
refused its configuration, or has brought it to the next stage. -/
theorem held_effect (hjoins : s.Joins) (howner : s.Owner) (heffect : Effect cfg q s a q' s')
    (hrunning : s'.location.ended = false) (hheld : s'.Held k p b') : HeldEffect s s' k p b' := by
  cases heffect with
  | failed | timed_out | frame_malformed | barrier_inactive | barrier_refused | call_refused
  | answer_refused | frame_refused | challenge_failed | challenge_unqueued | item_cancelled
  | context_cancelled | untracked => cases hrunning
  | answer_unqueued _ _ _ _ hnext => obtain rfl | rfl := hnext <;> cases hrunning
  | idle | admission_refused | admit_called | admit_sent | admit_received | admit_cancelled
  | caller_cancelled => exact hheld.idles rfl rfl rfl rfl fun _ => rfl
  | join_sent hlocation | teleported hlocation | ticked hlocation | status_due hlocation
  | unplaced hlocation | placed hlocation | barrier_frame hlocation | limbo_frame hlocation
  | barrier_read hlocation | progressed hlocation | progress_writes hlocation
  | progress_releases hlocation | frame_accepted hlocation | begin_checked hlocation
  | replayed hlocation =>
    exact hheld.idles rfl rfl rfl rfl fun _ => by rw [hlocation]; rfl
  -- Client packets of the loop itself: none of them changes the client's protocol state.
  | action_bar_sent hlocation | relayed hlocation | answered hlocation =>
    exact hheld.stays rfl rfl rfl rfl
      (neutral_singleton fun state => by cases state <;> rfl) (fun _ => by rw [hlocation]; rfl)
  | answered_enqueued hlocation =>
    refine hheld.stays rfl rfl rfl (List.append_assoc _ _ _) ?_
      (fun _ => by rw [hlocation]; rfl)
    exact (neutral_singleton fun state => by cases state <;> rfl).append
      (neutral_singleton fun state => by cases state <;> rfl)
  | challenge_passed =>
    exact hheld.stays rfl rfl rfl rfl
      (neutral_singleton fun state => by cases state <;> rfl) fun _ => rfl
  | challenge_enqueued =>
    refine hheld.stays rfl rfl rfl (List.append_assoc _ _ _) ?_ fun _ => rfl
    exact (neutral_singleton fun state => by cases state <;> rfl).append
      (neutral_singleton fun state => by cases state <;> rfl)
  | join_packet hlocation =>
    have hpacket := (hjoins _ hlocation).subset List.mem_cons_self
    exact hheld.stays rfl rfl rfl rfl
      (neutral_singleton (joinPackets_neutral hpacket)) (fun _ => by rw [hlocation]; rfl)
  | keep_alive_sent hlocation =>
    refine hheld.stays rfl rfl rfl rfl (neutral_singleton fun state => by cases state <;> rfl) ?_
    intro _
    obtain hlocation | hlocation := hlocation <;> rw [hlocation] <;> rfl
  -- The methods of the held transfer and the client's frames at its barrier.
  | begin_refused hlocation hcheck => exact refused_effect hlocation hcheck hheld
  | start_sent hlocation hprepared =>
    exact written_continues hprepared hheld (by rw [hlocation]; exact .start)
  | begin_rechecked hlocation _ _ _ hcheck => exact rechecked_continues hlocation hcheck hheld
  | called hlocation hperform => exact called_continues howner hlocation hperform hheld
  | write_checked hlocation hprepared hattempt hopen hcheck =>
    exact write_checked_continues hlocation hprepared hattempt hopen hcheck hheld
  | packet_sent hlocation hprepared =>
    exact written_continues hprepared hheld (by rw [hlocation]; exact .packet)
  | finish_sent hlocation hprepared =>
    exact written_continues hprepared hheld (by rw [hlocation]; exact .finish)
  | write_finished hlocation _ _ _ hfinish => exact write_finished_continues hlocation hfinish hheld
  | released hlocation hprepared hattempt hopen hrelease =>
    obtain ⟨hne, _⟩ := hheld.before_set (s := s) rfl (finalizes_release hrelease).finalized
    exact absurd (Option.some.inj (hprepared.symm.trans hheld.prepared)) hne
  -- Requests and the results of `Prepare`.
  | admission_accepted =>
    have hbefore : s.Held k p b' := ⟨hheld.prepared, hheld.before_append rfl rfl, hheld.opened, hheld.active⟩
    exact .continues hbefore (List.append_nil _).symm (.stay neutral_nil)
  | prepare_failed hlocation =>
    obtain ⟨_, heq⟩ | ⟨request, _, heq⟩ := respond_cases _ _ _ <;> rw [heq] at hheld ⊢ <;>
      exact hheld.idles_moved rfl rfl rfl rfl fun _ => by simp only [send, moveAttempt, hlocation, stage]
  | prepare_succeeded hlocation hresult hattempt houtcome =>
    obtain rfl := Option.some.inj hheld.prepared
    have hnew := howner.not_held hattempt (by rw [houtcome]; rintro ⟨⟩)
    obtain ⟨attempt, hattempt, hopen⟩ := hheld.before_move rfl
    exact .taken rfl rfl hnew hattempt hopen
  | transfer_lost hlocation =>
    obtain ⟨_, heq⟩ | ⟨request, _, heq⟩ := respond_cases _ _ _ <;> rw [heq] at hheld ⊢
    · exact hheld.idles rfl rfl rfl rfl fun _ => by rw [hlocation]; rfl
    · cases hheld.prepared
  | begin_undone hlocation hprepared hattempt hopen =>
    obtain ⟨_, heq⟩ | ⟨request, _, heq⟩ := respond_cases _ _ _ <;> rw [heq] at hheld
    · obtain ⟨hne, _⟩ := hheld.before_set (s := s) rfl (finalizes_rollback _ _).finalized
      exact absurd (Option.some.inj (hprepared.symm.trans hheld.prepared)) hne
    · cases hheld.prepared
  | admitted hlocation =>
    obtain ⟨_, heq⟩ | ⟨request, _, heq⟩ := respond_cases _ _ _ <;> rw [heq] at hheld ⊢ <;>
      exact hheld.idles rfl rfl rfl rfl fun _ => by rw [hlocation]; rfl
  -- The goroutines of `Prepare`: with a transfer held, none is within one.
  | prepare_refused | outcome_dropped => exact hheld.idles_moved rfl rfl rfl rfl fun _ => rfl
  | transfer_begun _ _ _ hbegin => exact absurd hbegin (howner.none_begins hheld rfl)
  | prepare_aborted hattempt hworking =>
    rw [howner.move_not_working hheld rfl hattempt] at hworking
    cases hworking
  | login_phase hattempt hpoint | dialed hattempt hpoint | logged_in hattempt hpoint
  | configuration_phase hattempt hpoint | configured hattempt hpoint | rolled_back hattempt hpoint =>
    have hworking := howner.move_not_working hheld rfl hattempt
    rw [hpoint] at hworking
    cases hworking
  | @prepared j attempt _ _ _ hattempt hpoint =>
    have hne : k ≠ j := by
      rintro rfl
      exact howner.not_held hattempt (by rw [hpoint]; rintro ⟨⟩) hheld.prepared
    obtain ⟨x, hx, hopen⟩ := hheld.attempt
    rw [attempts_setPrepared_ne _ hne, attempts_moveAttempt_ne _ hne] at hx
    have hworking := howner.not_working hx hopen hheld.opened hattempt
    rw [hpoint] at hworking
    cases hworking
  | @transfer_dropped j attempt _ p' hattempt houtcome hopen =>
    have hends := finalizes_rollback p' s.session
    obtain ⟨hne, x, hx, hopen'⟩ := hheld.before_set (s := s.moveAttempt j .Done) rfl hends.finalized
    rw [attempts_moveAttempt_ne _ hne.symm] at hx
    exact hheld.other_ended howner hx hopen' hattempt hopen hne hends rfl rfl rfl
  | @barrier_timed_out j attempt p' hattempt hopen =>
    have hends := finalizes_timeout p' s.session
    obtain ⟨hne, x, hx, hopen'⟩ := hheld.before_set (s := s) rfl hends.finalized
    exact hheld.other_ended howner hx hopen' hattempt hopen hne hends rfl rfl rfl

end Step

end Limbo

end regiongate.server
