import RegionGate.Server.AdmissionAnswers
import RegionGate.Server.TransferOrder

open regiongate.session regiongate.transfer execution

namespace regiongate.server

/-- The packets of the gateway that a client understands in its Play state
only. The frames of the play bridge are the backend's. -/
def Clientbound.playState : Clientbound → Bool
  | .Configuration _ | .FinishConfiguration | .Backend _ => false
  | _ => true

/-- The protocol state of the client at each stage. -/
def Stage.client : Stage → ClientState
  | .Prepared | .Complete => .Play
  | .Started | .Acknowledged | .Writing _ => .Configuration
  | .Finished => .Finishing

/-- The loop is on its way to writing a Play packet, the configuration transition
apart. -/
def Location.playing : Location → Bool
  | .Joining _ | .AwaitingTeleport | .FirstKeepAlive | .TickWrite | .StatusPosition | .ActionBarWrite _ => true
  | _ => false

/-- A client in its Play state stays there until Start Configuration is written. -/
theorem clientState_play {log events : List Event} (hplay : clientState log = .Play)
    (hevents : ∀ transfer, .Wrote transfer .StartConfiguration ∉ events) :
    clientState (log ++ events) = .Play := by
  induction events using List.reverseRecOn with
  | nil => rwa [List.append_nil]
  | append_singleton events e ih =>
    have hbefore := ih fun transfer hmem => hevents transfer (by simp [hmem])
    rw [← List.append_assoc, clientState_snoc, hbefore]
    cases e with
    | Wrote transfer packet =>
      cases packet with
      | StartConfiguration => exact absurd (by simp) (hevents transfer)
      | _ => rfl
    | _ => rfl

/-- The client's state follows the stages. -/
theorem StageStep.client {k : Nat} {packets : List Bytes} {old new : Stage} {log events : List Event}
    (hstep : StageStep k packets old events new) (h : clientState log = old.client) :
    clientState (log ++ events) = new.client := by
  cases hstep with
  | stay hneutral => rw [hneutral.clientState_append, h]
  | check => rw [List.append_nil, h]; rfl
  | start | acknowledge | packet | finish | complete => rw [clientState_snoc, h]; rfl

/-- Every Play packet of the gateway meets a client in its Play state. -/
def PlaysInPlay (log : List Event) : Prop :=
  Every (fun before event => ∀ transfer packet, event = .Wrote transfer packet → packet.playState = true →
    clientState before = .Play) log

namespace Limbo

/-- The barrier timer does not fire for the transfer that the loop holds between
the check before Start Configuration and the client's last acknowledgement. -/
def timesOutInPlay (s : Limbo) : Action → Bool
  | .BarrierTimeout k =>
    !(decide (s.prepared = some k) && (decide (s.location = .BeginWrite) || decide (clientState s.log ≠ .Play)))
  | _ => true

/-- What becomes of the transfer that the loop holds. -/
inductive Fate (s : Limbo) (a : Action) (s' : Limbo) (k : Nat) (p : Prepared) (b : BarrierState) : Prop where
  | held (hheld : s'.Held k p b)
  | advanced {b' : BarrierState}
      (hlocation : (∃ call frame, s.location = .BarrierCall call frame) ∨ s.location = .WriteFinish)
      (hheld : s'.Held k p b')
  | undone {e : Error} (hlocation : s.location = .BeginFailed e)
  | released (hlocation : s.location = .Releasing) (hphase : b.phase = BarrierReady)
  | timed_out (ha : a = .BarrierTimeout k)

section Step

variable {cfg : Config} {q q' : AdmissionQueue} {s s' : Limbo} {a : Action} {k : Nat} {p : Prepared}
  {b : BarrierState}

theorem Held.after_move {j : Nat} {location : PrepareLocation} (h : s.Held k p b)
    (hattempts : s'.attempts = (s.moveAttempt j location).attempts) :
    ∃ attempt, s'.attempts[k]? = some attempt ∧ attempt.prepared = some p := by
  obtain ⟨attempt, hattempt, hopen⟩ := h.attempt
  rw [hattempts]
  by_cases hjk : k = j
  · subst hjk
    exact ⟨_, attempts_moveAttempt location hattempt, hopen⟩
  · rw [attempts_moveAttempt_ne location hjk]
    exact ⟨attempt, hattempt, hopen⟩

/-- Nobody but the holder's own call is at work beside a held transfer. -/
theorem Held.done (howner : s.Owner) (h : s.Held k p b) {j : Nat} {attempt : Attempt}
    (hattempt : s.attempts[j]? = some attempt) (hlocation : attempt.location ≠ .Done) : j ≠ k := by
  rintro rfl
  exact howner.not_held hattempt hlocation h.prepared

/-- What becomes of a held transfer in a step: it is held on, released, undone by the
loop, or ended by its own timeout. -/
theorem held_fate (howner : s.Owner) (hexclusive : s.prepare_result = none ∨ s.prepared = none)
    (heffect : Effect cfg q s a q' s') (hrunning : s'.location.ended = false) (hheld : s.Held k p b) :
    Fate s a s' k p b := by
  cases heffect with
  | failed | timed_out | frame_malformed | barrier_inactive | barrier_refused | call_refused
  | answer_refused | frame_refused | challenge_failed | challenge_unqueued | item_cancelled
  | context_cancelled | untracked => cases hrunning
  | answer_unqueued _ _ _ _ hnext => obtain rfl | rfl := hnext <;> cases hrunning
  | idle | join_packet | join_sent | teleported | keep_alive_sent | ticked | status_due | unplaced
  | placed | action_bar_sent | barrier_frame | limbo_frame | barrier_read | progressed
  | progress_writes | progress_releases | answered | answered_enqueued | frame_accepted
  | challenge_passed | challenge_enqueued | admission_refused | begin_checked | begin_refused
  | start_sent | begin_rechecked | write_checked | packet_sent | finish_sent | replayed | relayed
  | admit_called | admit_sent | admit_received | admit_cancelled | caller_cancelled =>
    exact .held (hheld.of_same rfl rfl rfl)
  | admitted =>
    obtain ⟨_, heq⟩ | ⟨request, _, heq⟩ := respond_cases _ _ _ <;> rw [heq]
    all_goals exact .held (hheld.of_same rfl rfl rfl)
  | called hlocation hperform =>
    obtain ⟨hactive, _⟩ := BarrierCall.perform_active hheld.active hperform
    exact .advanced (.inl ⟨_, _, hlocation⟩) ⟨hheld.prepared, hheld.attempt, hheld.opened, hactive⟩
  | write_finished hlocation _ _ _ hfinish =>
    obtain ⟨_, b', hactive, _, rfl⟩ := Prepared.write_finish_eq_ok.mp hfinish
    have hstate := (Session.active_eq_some.mp hactive).1
    exact .advanced (.inr hlocation)
      ⟨hheld.prepared, hheld.attempt, hheld.opened, Session.active_eq_some.mpr ⟨hstate, rfl⟩⟩
  | begin_undone hlocation => exact .undone hlocation
  | released hlocation _ _ _ hrelease =>
    obtain ⟨_, _, _, rfl, hsession⟩ := Prepared.release_eq_ok.mp hrelease
    obtain ⟨b', hactive, hphase, _, rfl⟩ := Session.release_transfer_eq_ok.mp hsession
    obtain rfl := Option.some.inj (hactive.symm.trans hheld.active)
    exact .released hlocation hphase
  | admission_accepted _ _ _ hprepared =>
    rw [hheld.prepared] at hprepared
    cases hprepared
  | prepare_failed =>
    obtain ⟨_, heq⟩ | ⟨request, _, heq⟩ := respond_cases _ _ _ <;> rw [heq]
    all_goals exact .held ⟨hheld.prepared, hheld.after_move rfl, hheld.opened, hheld.active⟩
  | prepare_succeeded _ hresult =>
    obtain hnone | hnone := hexclusive
    · rw [hresult] at hnone
      cases hnone
    · rw [hheld.prepared] at hnone
      cases hnone
  | transfer_lost _ hprepared hattempt hopen herr =>
    obtain rfl := hheld.same_transfer hprepared hattempt hopen
    have hfinal := (howner.sound hattempt).final _ hopen (by rw [herr]; rfl)
    rw [hheld.opened] at hfinal
    cases hfinal
  | prepare_refused | outcome_dropped =>
    exact .held ⟨hheld.prepared, hheld.after_move rfl, hheld.opened, hheld.active⟩
  | transfer_begun _ _ _ hbegin =>
    obtain ⟨hinactive, _⟩ := begin_active hbegin
    cases hinactive.symm.trans hheld.active
  | prepare_aborted hattempt hworking =>
    obtain ⟨x, hx, hopen⟩ := hheld.attempt
    rw [howner.not_working hx hopen hheld.opened hattempt] at hworking
    cases hworking
  | login_phase hattempt hpoint | dialed hattempt hpoint | logged_in hattempt hpoint
  | configuration_phase hattempt hpoint | configured hattempt hpoint | prepared hattempt hpoint
  | rolled_back hattempt hpoint =>
    obtain ⟨x, hx, hopen⟩ := hheld.attempt
    have hworking := howner.not_working hx hopen hheld.opened hattempt
    rw [hpoint] at hworking
    cases hworking
  | @transfer_dropped j attempt _ p' hattempt houtcome hopen =>
    obtain ⟨x, hx, hopen'⟩ := hheld.attempt
    have hne := hheld.done howner hattempt (by rw [houtcome]; nofun)
    have hfinal := howner.other_finalized hx hopen' hheld.opened hattempt hopen hne
    have hsession := (finalizes_rollback p' s.session).same hfinal
    refine .held ⟨hheld.prepared, ⟨x, ?_, hopen'⟩, hheld.opened, hsession.symm ▸ hheld.active⟩
    exact (attempts_setPrepared_ne _ hne.symm).trans ((attempts_moveAttempt_ne _ hne.symm).trans hx)
  | @barrier_timed_out j attempt p' hattempt hopen =>
    by_cases hne : j = k
    · exact .timed_out (by rw [hne])
    · obtain ⟨x, hx, hopen'⟩ := hheld.attempt
      have hfinal := howner.other_finalized hx hopen' hheld.opened hattempt hopen hne
      have hsession := (finalizes_timeout p' s.session).same hfinal
      refine .held ⟨hheld.prepared, ⟨x, ?_, hopen'⟩, hheld.opened, hsession.symm ▸ hheld.active⟩
      exact (attempts_setPrepared_ne _ (Ne.symm hne)).trans hx

/-- What a step writes to the client, and how the loop comes to a Play write. -/
inductive ClientEffect (s s' : Limbo) : Prop where
  | unseen {events : List Event} (hlog : s'.log = s.log ++ events)
      (hevents : ∀ transfer packet, .Wrote transfer packet ∈ events → packet.playState = false)
      (hplaying : s'.location.playing = true →
        s.location.playing = true ∨ (s.location = .Select ∧ s.session.state = .LimboPlay))
  | played {packet : Clientbound} (hlocation : s.location.playing = true)
      (hlog : s'.log = s.log ++ [.Wrote none packet]) (hpacket : packet ≠ .StartConfiguration)
  | started {transfer : Option Nat} (hlocation : s.location = .BeginWrite)
      (hlocation' : s'.location = .BeginRecheck) (hlog : s'.log = s.log ++ [.Wrote transfer .StartConfiguration])

/-- A frame at the barrier writes nothing to the client. -/
theorem callEvents_unwritten (call : BarrierCall) (transfer : Option Nat) (packet : Clientbound) :
    .Wrote transfer packet ∉ callEvents call := by
  cases call with
  | Advance phase =>
    by_cases hphase : phase = BarrierClientConfiguration <;> simp [callEvents, hphase]
  | Input input =>
    by_cases hkind : input.kind = .KeepAlive <;> simp [callEvents, hkind]
  | Done => simp [callEvents]

theorem ClientEffect.silent (hlog : s'.log = s.log)
    (hplaying : s'.location.playing = true →
      s.location.playing = true ∨ (s.location = .Select ∧ s.session.state = .LimboPlay)) : ClientEffect s s' :=
  .unseen (hlog.trans (List.append_nil _).symm) (fun _ _ h => absurd h List.not_mem_nil) hplaying

/-- A step that says nothing to the client and does not end before a Play write. -/
theorem ClientEffect.elsewhere (hlog : s'.log = s.log) (hlocation : s'.location.playing = false) :
    ClientEffect s s' :=
  .silent hlog fun hplaying => absurd (hlocation.symm.trans hplaying) Bool.false_ne_true

/-- The play packets of a step, with the places that they are written at. -/
theorem client_effect (hjoins : s.Joins) (heffect : Effect cfg q s a q' s') : ClientEffect s s' := by
  cases heffect with
  | join_packet hlocation =>
    have hpacket := (hjoins _ hlocation).subset List.mem_cons_self
    refine .played (by rw [hlocation]; rfl) rfl ?_
    rintro rfl
    exact absurd hpacket (by decide)
  | keep_alive_sent hlocation =>
    refine .played ?_ rfl nofun
    obtain hlocation | hlocation := hlocation <;> rw [hlocation] <;> rfl
  | action_bar_sent hlocation => exact .played (by rw [hlocation]; rfl) rfl nofun
  | start_sent hlocation => exact .started hlocation rfl rfl
  | join_sent hlocation | teleported hlocation | placed hlocation =>
    exact .silent rfl fun _ => .inl (by rw [hlocation]; rfl)
  | ticked hlocation hstate | status_due hlocation _ hstate =>
    exact .silent rfl fun _ => .inr ⟨hlocation, hstate⟩
  | idle | admission_refused | admission_accepted | prepare_refused | prepare_aborted | login_phase
  | dialed | configuration_phase | prepared | rolled_back | outcome_dropped | transfer_dropped
  | barrier_timed_out | admit_called | admit_sent | admit_received | admit_cancelled
  | caller_cancelled => exact .silent rfl .inl
  | challenge_passed | transfer_begun | logged_in | configured => exact .unseen rfl (by simp) .inl
  | challenge_enqueued => exact .unseen (List.append_assoc _ _ _) (by simp) .inl
  | failed | timed_out | unplaced | barrier_frame | limbo_frame | barrier_read | progressed
  | progress_writes | progress_releases | frame_accepted | challenge_failed | prepare_succeeded
  | begin_checked | begin_refused | begin_rechecked | write_checked | write_finished | replayed
  | item_cancelled | context_cancelled | untracked =>
    exact .elsewhere rfl rfl
  | frame_malformed | barrier_inactive | barrier_refused | call_refused | answer_refused | answered
  | frame_refused | challenge_unqueued | released => exact .unseen rfl (by simp) nofun
  | packet_sent | finish_sent | relayed => exact .unseen rfl (by simp [Clientbound.playState]) nofun
  | answered_enqueued => exact .unseen (List.append_assoc _ _ _) (by simp) nofun
  | answer_unqueued _ _ _ _ hnext =>
    obtain rfl | rfl := hnext <;> exact .unseen (List.append_assoc _ _ _) (by simp) nofun
  | @called _ call =>
    exact .unseen rfl (fun transfer packet hmem => absurd hmem (callEvents_unwritten call transfer packet)) nofun
  | prepare_failed hlocation | transfer_lost hlocation =>
    obtain ⟨_, heq⟩ | ⟨request, _, heq⟩ := respond_cases _ _ _ <;> rw [heq]
    · exact .elsewhere rfl rfl
    · exact .silent rfl .inl
  | begin_undone | admitted =>
    obtain ⟨_, heq⟩ | ⟨request, _, heq⟩ := respond_cases _ _ _ <;> rw [heq]
    all_goals exact .elsewhere rfl rfl

/-- The loop holds a transfer that waits for Start Configuration. -/
def Beginning (s : Limbo) : Prop :=
  ∃ k p b, s.Held k p b ∧ b.phase = BarrierAwaitingClientConfigurationStart

/-- The loop comes to the write of Start Configuration, and past it, only after
the check before it. -/
theorem begin_effect (heffect : Effect cfg q s a q' s')
    (hlocation' : s'.location = .BeginWrite ∨ s'.location = .BeginRecheck) :
    s'.Beginning ∨ s.location = .BeginWrite ∨ s.location = .BeginRecheck := by
  cases heffect with
  | @begin_checked _ k attempt p hlocation hprepared hattempt hopen hcheck =>
    obtain ⟨hopened, b, hactive, hphase⟩ := Prepared.begin_check_eq_ok.mp hcheck
    exact .inl ⟨k, p, b, ⟨hprepared, ⟨attempt, hattempt, hopen⟩, hopened, hactive⟩, hphase⟩
  | start_sent hlocation => exact .inr (.inl hlocation)
  | idle | challenge_passed | challenge_enqueued | admission_refused | admission_accepted
  | prepare_refused | transfer_begun | prepare_aborted | login_phase | dialed | logged_in
  | configuration_phase | configured | prepared | rolled_back | outcome_dropped | transfer_dropped
  | barrier_timed_out | admit_called | admit_sent | admit_received | admit_cancelled
  | caller_cancelled => exact .inr hlocation'
  | prepare_failed hlocation | transfer_lost hlocation =>
    obtain ⟨_, heq⟩ | ⟨request, _, heq⟩ := respond_cases _ _ _ <;> rw [heq] at hlocation'
    · obtain hlocation' | hlocation' := hlocation' <;> cases hlocation'
    · exact .inr hlocation'
  | begin_undone | admitted =>
    obtain ⟨_, heq⟩ | ⟨request, _, heq⟩ := respond_cases _ _ _ <;> rw [heq] at hlocation'
    all_goals obtain hlocation' | hlocation' := hlocation' <;> cases hlocation'
  | answer_unqueued _ _ _ _ hnext =>
    obtain rfl | rfl := hnext <;> obtain hlocation' | hlocation' := hlocation' <;> cases hlocation'
  | _ => obtain hlocation' | hlocation' := hlocation' <;> cases hlocation'

/-- The client's protocol state is that of the transfer which the loop holds, and
Play when it holds none. -/
structure Agrees (s : Limbo) : Prop where
  joins : s.Joins
  owner : s.Owner
  requests : s.Requests
  held : s.location.ended = false → ∀ {k : Nat} {p : Prepared} {b : BarrierState}, s.Held k p b →
    clientState s.log = (stage s.location b.phase).client
  configuring : s.location.ended = false → clientState s.log ≠ .Play → ∃ k p b, s.Held k p b
  beginning : s.location = .BeginWrite ∨ s.location = .BeginRecheck → s.Beginning
  playing : s.location.playing = true → clientState s.log = .Play
  written : PlaysInPlay s.log

/-- Start Configuration is written to a client in Play. -/
theorem Agrees.play_of_begin (h : s.Agrees) (hlocation : s.location = .BeginWrite) :
    clientState s.log = .Play := by
  obtain ⟨k, p, b, hheld, _⟩ := h.beginning (.inl hlocation)
  rw [h.held (by rw [hlocation]; rfl) hheld, hlocation]
  rfl

/-- A session in Limbo holds no transfer. -/
theorem Agrees.play_of_limbo (h : s.Agrees) (hrunning : s.location.ended = false)
    (hstate : s.session.state = .LimboPlay) : clientState s.log = .Play := by
  by_contra hplay
  obtain ⟨k, p, b, hheld⟩ := h.configuring hrunning hplay
  have hbarrier := (Session.active_eq_some.mp hheld.active).1
  rw [hstate] at hbarrier
  cases hbarrier

/-- A transfer that is permitted to time out is not in the client's hands. -/
theorem not_timed_out (hpermitted : s.timesOutInPlay a = true) (hheld : s.Held k p b)
    (hconfiguring : s.location = .BeginWrite ∨ clientState s.log ≠ .Play) : a ≠ .BarrierTimeout k := by
  rintro rfl
  obtain hlocation | hplay := hconfiguring
  · simp [timesOutInPlay, hheld.prepared, hlocation] at hpermitted
  · simp [timesOutInPlay, hheld.prepared, hplay] at hpermitted

/-- One step: the client is where the stage of the held transfer says. -/
theorem effect_held (h : s.Agrees) (heffect : Effect cfg q s a q' s') (hrunning : s'.location.ended = false)
    (hheld : s'.Held k p b) : clientState s'.log = (stage s'.location b.phase).client := by
  cases held_effect h.joins h.owner heffect hrunning hheld with
  | taken hlocation' hlog hnew hattempt hopen =>
    -- Another transfer in the client's hands would be a second open one.
    rw [hlocation', hlog]
    by_contra hplay
    obtain ⟨j, p', b', hother⟩ := h.configuring (heffect.running hrunning) hplay
    obtain ⟨x, hx, hopen'⟩ := hother.attempt
    have hjk := h.owner.unique hx hattempt (by simp [Attempt.opened, hopen', hother.opened])
      (by simp [Attempt.opened, hopen, hheld.opened])
    exact hnew (hjk ▸ hother.prepared)
  | refused hlocation hlocation' hlog hbefore hcheck =>
    obtain ⟨j, p', b', hother, hphase⟩ := h.beginning (.inr hlocation)
    obtain ⟨x, hx, hopen⟩ := hother.attempt
    obtain rfl := hbefore.same_transfer hother.prepared hx hopen
    rw [Prepared.begin_check_eq_ok.mpr ⟨hother.opened, b', hother.active, hphase⟩] at hcheck
    cases hcheck
  | continues hbefore hlog hstep =>
    rw [hlog]
    exact hstep.client (h.held (heffect.running hrunning) hbefore)

/-- One step: a client outside Play has a held transfer. The timeout of a transfer is
the case that counts. -/
theorem effect_configuring (h : s.Agrees) (hpermitted : s.timesOutInPlay a = true)
    (heffect : Effect cfg q s a q' s') (hrunning : s'.location.ended = false)
    (hplay : clientState s'.log ≠ .Play) : ∃ k p b, s'.Held k p b := by
  have hrunning' := heffect.running hrunning
  have hexclusive := h.requests.exclusive
  cases client_effect h.joins heffect with
  | unseen hlog hevents =>
    have hbefore : clientState s.log ≠ .Play := by
      intro hbefore
      rw [hlog] at hplay
      refine hplay (clientState_play hbefore fun transfer hmem => ?_)
      exact absurd (hevents _ _ hmem) (by simp [Clientbound.playState])
    obtain ⟨k, p, b, hheld⟩ := h.configuring hrunning' hbefore
    have hclient := h.held hrunning' hheld
    cases held_fate h.owner hexclusive heffect hrunning hheld with
    | held hheld' => exact ⟨k, p, b, hheld'⟩
    | advanced _ hheld' => exact ⟨k, p, _, hheld'⟩
    | undone hlocation =>
      rw [hlocation] at hclient
      exact absurd hclient hbefore
    | released hlocation hphase =>
      rw [hlocation, hphase] at hclient
      exact absurd hclient hbefore
    | timed_out ha => exact absurd ha (not_timed_out hpermitted hheld (.inr hbefore))
  | played hlocation hlog hpacket =>
    have hbefore := h.playing hlocation
    rw [hlog] at hplay
    refine absurd (clientState_play hbefore ?_) hplay
    simpa using hpacket.symm
  | started hlocation hlocation' hlog =>
    obtain ⟨k, p, b, hheld, _⟩ := h.beginning (.inl hlocation)
    cases held_fate h.owner hexclusive heffect hrunning hheld with
    | held hheld' => exact ⟨k, p, b, hheld'⟩
    | advanced _ hheld' => exact ⟨k, p, _, hheld'⟩
    | undone hlocation'' => cases hlocation.symm.trans hlocation''
    | released hlocation'' => cases hlocation.symm.trans hlocation''
    | timed_out ha => exact absurd ha (not_timed_out hpermitted hheld (.inl hlocation))

/-- One step: whoever writes Start Configuration holds the transfer. -/
theorem effect_beginning (h : s.Agrees) (hpermitted : s.timesOutInPlay a = true)
    (heffect : Effect cfg q s a q' s')
    (hlocation' : s'.location = .BeginWrite ∨ s'.location = .BeginRecheck) : s'.Beginning := by
  obtain hbeginning | hlocation := begin_effect heffect hlocation'
  · exact hbeginning
  · obtain ⟨k, p, b, hheld, hphase⟩ := h.beginning hlocation
    have hrunning : s'.location.ended = false := by
      obtain hlocation' | hlocation' := hlocation' <;> rw [hlocation'] <;> rfl
    have hconfiguring : s.location = .BeginWrite ∨ clientState s.log ≠ .Play := by
      refine hlocation.imp_right fun hrecheck => ?_
      rw [h.held (by rw [hrecheck]; rfl) hheld, hrecheck]
      nofun
    cases held_fate h.owner h.requests.exclusive heffect hrunning hheld with
    | held hheld' => exact ⟨k, p, b, hheld', hphase⟩
    | advanced hadvances =>
      obtain ⟨call, frame, hcall⟩ | hfinish := hadvances
      · obtain hlocation | hlocation := hlocation <;> cases hlocation.symm.trans hcall
      · obtain hlocation | hlocation := hlocation <;> cases hlocation.symm.trans hfinish
    | undone hfailed => obtain hlocation | hlocation := hlocation <;> cases hlocation.symm.trans hfailed
    | released hreleasing => obtain hlocation | hlocation := hlocation <;> cases hlocation.symm.trans hreleasing
    | timed_out ha => exact absurd ha (not_timed_out hpermitted hheld hconfiguring)

/-- One step: at the places that write play packets the client is in Play. -/
theorem effect_playing (h : s.Agrees) (heffect : Effect cfg q s a q' s')
    (hplaying : s'.location.playing = true) : clientState s'.log = .Play := by
  cases client_effect h.joins heffect with
  | unseen hlog hevents hfrom =>
    have hbefore : clientState s.log = .Play := by
      obtain hlocation | ⟨hselect, hstate⟩ := hfrom hplaying
      · exact h.playing hlocation
      · exact h.play_of_limbo (by rw [hselect]; rfl) hstate
    rw [hlog]
    exact clientState_play hbefore fun transfer hmem => absurd (hevents _ _ hmem) (by simp [Clientbound.playState])
  | played hlocation hlog hpacket =>
    rw [hlog]
    refine clientState_play (h.playing hlocation) ?_
    simpa using hpacket.symm
  | started hlocation hlocation' hlog =>
    rw [hlocation'] at hplaying
    cases hplaying

/-- One step: the play packets of the log were written to a client in Play. -/
theorem effect_written (h : s.Agrees) (heffect : Effect cfg q s a q' s') : PlaysInPlay s'.log := by
  cases client_effect h.joins heffect with
  | unseen hlog hevents =>
    rw [hlog]
    refine Every.append h.written ?_
    rintro before e he transfer packet rfl hpacket
    rw [hevents _ _ he] at hpacket
    cases hpacket
  | played hlocation hlog =>
    rw [hlog]
    exact every_snoc.mpr ⟨h.written, fun _ _ _ _ => h.playing hlocation⟩
  | started hlocation hlocation' hlog =>
    rw [hlog]
    exact every_snoc.mpr ⟨h.written, fun _ _ _ _ => h.play_of_begin hlocation⟩

theorem effect_agrees (h : s.Agrees) (hpermitted : s.timesOutInPlay a = true)
    (heffect : Effect cfg q s a q' s') : s'.Agrees where
  joins := effect_joins h.joins heffect
  owner := effect_owner h.owner heffect
  requests := effect_requests h.requests heffect
  held := fun hrunning _ _ _ hheld => effect_held h heffect hrunning hheld
  configuring := effect_configuring h hpermitted heffect
  beginning := effect_beginning h hpermitted heffect
  playing := effect_playing h heffect
  written := effect_written h heffect

end Step

theorem start_agrees (conn : Conn) (uuid : UUID) (required : Option Int) :
    (start conn uuid required).Agrees where
  joins := start_joins conn uuid required
  owner := start_owner conn uuid required
  requests := start_requests conn uuid required
  held := by
    intro _ k p b hheld
    cases hheld.prepared
  configuring := fun _ hplay => absurd rfl hplay
  beginning := by
    rintro (hlocation | hlocation) <;> cases hlocation
  playing := fun _ => rfl
  written := every_nil

end Limbo

open Limbo

/-- In every run in which the barrier timer never fires for the held transfer
between the check before Start Configuration and the client's last
acknowledgement, the gateway writes its Play packets only to a client in the
Play state. -/
theorem play_packets_in_play {cfg : Config} {queue : AdmissionQueue} {conn : Conn} {uuid : UUID}
    {required : Option Int} {moves : List Move} {w : World}
    (run : SessionRuns cfg timesOutInPlay { queue, limbo := start conn uuid required } moves w) :
    PlaysInPlay w.limbo.log := by
  have hagrees : w.limbo.Agrees :=
    World.limbo_invariant Agrees run (start_agrees conn uuid required) effect_agrees
  exact hagrees.written

/-- A whole transfer with one configuration packet. -/
theorem play_packets_in_play_one_packet :
    ∃ w, SessionRuns sampleConfig timesOutInPlay sampleWorld releaseMoves w ∧
      .Wrote (some 0) .StartConfiguration ∈ w.limbo.log ∧ PlaysInPlay w.limbo.log := by
  obtain ⟨w, run, hobserved⟩ : ∃ w, SessionRuns sampleConfig timesOutInPlay sampleWorld releaseMoves w ∧
      decide (.Wrote (some 0) .StartConfiguration ∈ w.limbo.log) = true :=
    Runs.of_exec (fun _ _ hok => hok) _ (by decide +kernel)
  exact ⟨w, run, of_decide_eq_true hobserved, play_packets_in_play run⟩

/-- The timer fires after Start Configuration was written; the session is back in
Limbo and the next tick sends a keepalive to a client in its Configuration
state. -/
def lateTimeoutMoves : List Move :=
  joinMoves ++ [.Session (.Frame (.ok (keepAliveFrame 1))), .Session (.Proceed true)] ++ beginMoves ++
    prepareMoves [] ++ startMoves ++
    [.Session (.BarrierTimeout 0), .Session .Tick, .Session (.Proceed true)]

/-- A transfer that times out after Start Configuration was written: the loop goes on
with keepalives of the play state. -/
theorem keep_alive_in_configuration :
    ∃ w, Reaches (World.step sampleConfig) sampleWorld lateTimeoutMoves w ∧ ¬ PlaysInPlay w.limbo.log := by
  obtain ⟨w, run, hobserved⟩ : ∃ w, Reaches (World.step sampleConfig) sampleWorld lateTimeoutMoves w ∧
      decide (∃ before ∈ w.limbo.log.inits, clientState before = .Configuration ∧
        before ++ [.Wrote none (.KeepAlive 2)] = w.limbo.log) = true :=
    Reaches.of_exec _ (by decide +kernel)
  obtain ⟨before, _, hclient, hlog⟩ := of_decide_eq_true hobserved
  refine ⟨w, run, fun h => ?_⟩
  have hplay := h before (.Wrote none (.KeepAlive 2)) [] hlog.symm none (.KeepAlive 2) rfl rfl
  rw [hclient] at hplay
  cases hplay

end regiongate.server
