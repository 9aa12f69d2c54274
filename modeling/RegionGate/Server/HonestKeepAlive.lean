import RegionGate.Server.KeepAliveTimeout

open regiongate.session regiongate.transfer execution

namespace regiongate.server

/-- The client answers keepalives in the order in which they were sent: a
keepalive frame is the answer to the oldest unanswered one. -/
def Limbo.honest (s : Limbo) : Action → Bool
  | .Frame (.ok frame) =>
    match codec.packet_id frame with
    | .error _ => true
    | .ok (id, _) =>
      id ≠ play.ServerboundKeepAliveID ||
        match play.parse_keep_alive frame with
        | .error _ => false
        | .ok value => (unanswered s.log).head? = some value
  | _ => true

/-- The step forgets no unanswered keepalive: the loop takes the error of an
attempt only when nothing is unanswered, and a transfer begins only with
every unanswered keepalive in its snapshot and none on its way out. -/
def Limbo.remembers (s : Limbo) (a : Action) : Bool :=
  (!s.forgets a || unanswered s.log = []) &&
    match s.begins a with
    | none => true
    | some ids => !s.location.sending && (unanswered s.log).all (· ∈ ids)

/-- A frame that carries a keepalive answer. -/
def IsAnswer (frame : Bytes) : Prop :=
  ∃ body, codec.packet_id frame = .ok (play.ServerboundKeepAliveID, body)

/-- A frame that is being handled; a keepalive among them answers an unanswered
one. -/
structure Answers (id : Int) (frame : Bytes) (log : List Event) : Prop where
  packet : ∃ body, codec.packet_id frame = .ok (id, body)
  value : id = play.ServerboundKeepAliveID →
    ∃ value, play.parse_keep_alive frame = .ok value ∧ value ∈ unanswered log

theorem Answers.isAnswer_id {id : Int} {frame : Bytes} {log : List Event} (h : Answers id frame log)
    (hanswer : IsAnswer frame) : id = play.ServerboundKeepAliveID := by
  obtain ⟨body, hbody⟩ := h.packet
  obtain ⟨body', hbody'⟩ := hanswer
  rw [hbody] at hbody'
  cases hbody'
  rfl

/-- A frame of the client has been taken and is being handled. -/
def Location.handling : Location → Bool
  | .BarrierFrame _ _ | .BarrierCall _ _ | .LimboFrame _ _ => true
  | _ => false

namespace Limbo

/-- At most the pending keepalive is unanswered, and a barrier accepts its
answer. -/
structure Outstanding (s : Limbo) : Prop where
  awaited : unanswered s.log = [] ∨ (s.pending_keep_alive ≠ 0 ∧ unanswered s.log = [s.pending_keep_alive])
  sending : s.location.sending = true → unanswered s.log = [] ∧ accepted s.session = none
  barrier : ∀ ids, accepted s.session = some ids → ∀ id ∈ unanswered s.log, id ∈ ids

/-- What the loop holds while it handles a frame, and why it refused others. -/
structure Handling (s : Limbo) : Prop where
  limbo : ∀ id frame, s.location = .LimboFrame id frame → Answers id frame s.log
  barrier : ∀ id frame, s.location = .BarrierFrame id frame → Answers id frame s.log
  call : ∀ call frame, s.location = .BarrierCall call frame →
    ∃ phase id, Answers id frame s.log ∧ barrier_call phase id frame = .ok call
  refused : ∀ frame err, .FrameRejected frame err ∈ s.log → IsAnswer frame →
    err ≠ .PlayMalformed ∧ err ≠ .UnexpectedKeepAlive

section Step

variable {cfg : Config} {q q' : AdmissionQueue} {s s' : Limbo} {a : Action}

/-- One step of a run that forgets no keepalive: what the client may still answer is
pending in Limbo or accepted at the barrier. -/
theorem effect_outstanding (hids : s.Identifiers) (h : s.Outstanding) (hremembers : s.remembers a = true)
    (heffect : Effect cfg q s a q' s') : s'.Outstanding := by
  cases keep_alive_effect hids.joins heffect with
  | undisturbed hsame =>
    refine ⟨?_, ?_, ?_⟩
    · rw [hsame.unanswered, hsame.pending]
      exact h.awaited
    · intro hsending
      obtain ⟨hnone, haccepted⟩ := h.sending (hsame.sending hsending)
      rw [hsame.unanswered]
      refine ⟨hnone, ?_⟩
      obtain hbarrier | hbarrier := hsame.barrier
      · rw [hbarrier, haccepted]
      · exact hbarrier
    · intro ids hids'
      rw [hsame.unanswered]
      exact h.barrier ids (hsame.accepted hids')
  | sent hlocation =>
    have hsending : s.location.sending = true := by
      obtain hlocation | hlocation := hlocation <;> rw [hlocation] <;> rfl
    obtain ⟨hnone, haccepted⟩ := h.sending hsending
    have hsent : unanswered (s.log ++ [.Wrote none (.KeepAlive s.keep_alive_id)]) = [s.keep_alive_id] := by
      rw [unanswered_sent (hids.fresh hsending), hnone]
      rfl
    refine ⟨.inr ⟨?_, ?_⟩, by rintro ⟨⟩, ?_⟩
    · change s.pending_keep_alive ≠ 0
      rw [hids.sending hsending]
      exact hids.positive.ne'
    · change unanswered (s.log ++ [.Wrote none (.KeepAlive s.keep_alive_id)]) = [s.pending_keep_alive]
      rw [hsent, hids.sending hsending]
    · intro ids hids'
      change accepted s.session = some ids at hids'
      rw [haccepted] at hids'
      cases hids'
  | ticked hlocation hpending hstate =>
    have hnone : unanswered s.log = [] := by
      obtain hnone | ⟨hnonzero, _⟩ := h.awaited
      · exact hnone
      · exact absurd hpending hnonzero
    have haccepted : accepted s.session = none := by
      simp [accepted, Session.active, hstate]
    exact ⟨.inl hnone, fun _ => ⟨hnone, haccepted⟩, h.barrier⟩
  | answered hlocation hpending hid hpending' hvalid hsnapshots hsession hsending harmed hquiet hlog =>
    have hnone : unanswered s'.log = [] := by
      rw [hlog, List.append_cons, hquiet.unanswered_append, unanswered_answered]
      obtain hnone | ⟨_, hone⟩ := h.awaited
      · simp [hnone]
      · simp [hone]
    refine ⟨.inl hnone, ?_, ?_⟩
    · rw [hsending]
      rintro ⟨⟩
    · rw [hnone]
      simp
  | @barrier_answered _ input _ _ _ hlocation hkind haccepted hid haccepted' =>
    refine ⟨?_, by rintro ⟨⟩, ?_⟩
    · rw [unanswered_answered]
      obtain hnone | ⟨hnonzero, hone⟩ := h.awaited
      · exact .inl (by simp [hnone])
      · rw [hone]
        by_cases hsame : s.pending_keep_alive = input.keep_alive_id
        · exact .inl (by simp [hsame])
        · exact .inr ⟨hnonzero, by simp [hsame]⟩
    · intro ids hids' id hmem
      rw [haccepted', Option.some.injEq] at hids'
      subst hids'
      rw [unanswered_answered, List.mem_filter] at hmem
      exact Finset.mem_erase.mpr ⟨by simpa using hmem.2, h.barrier _ haccepted id hmem.1⟩
  | forgotten hforgets hlocation hlocation' hid hpending harmed hvalid hsnapshots hsession hlog =>
    have hnone : unanswered s.log = [] := by
      simp only [remembers, hforgets, Bool.and_eq_true] at hremembers
      simpa using hremembers.1
    refine ⟨.inl (by rw [hlog]; exact hnone), ?_, ?_⟩
    · rw [hlocation']
      rintro ⟨⟩
    · rw [hlog, hnone]
      simp
  | snapshotted hlocation hlocation' hid hpending harmed hvalid hsnapshots hsession hlog =>
    refine ⟨?_, ?_, ?_⟩
    · rw [hlog, hpending]
      exact h.awaited
    · rw [hlocation']
      rintro ⟨⟩
    · rw [hsession, hlog]
      exact h.barrier
  | begun hbegins hsnapshot hlocation' hid hpending harmed hvalid hsnapshots haccepted hlog =>
    have hquiet : unanswered s'.log = unanswered s.log := by
      rw [hlog, Quiet.unanswered_append (by simp [keepAliveSent, keepAliveAnswered])]
    obtain ⟨hsending, hall⟩ : s.location.sending = false ∧ ∀ id ∈ unanswered s.log, id ∈ _ := by
      simpa [remembers, hbegins] using (Bool.and_eq_true_iff.mp hremembers).2
    refine ⟨?_, ?_, ?_⟩
    · rw [hquiet, hpending]
      exact h.awaited
    · rw [hlocation', hsending]
      rintro ⟨⟩
    · intro ids' hids' id hmem
      rw [haccepted, Option.some.injEq] at hids'
      subst hids'
      rw [hquiet] at hmem
      exact List.mem_toFinset.mpr (hall id hmem)

/-- A step that leaves the frame being handled and the keepalives alone. -/
theorem Handling.kept {events : List Event} (h : s.Handling) (hlocation : s'.location = s.location)
    (hlog : s'.log = s.log ++ events) (hquiet : Quiet events)
    (hrefused : ∀ frame err, Event.FrameRejected frame err ∉ events) : s'.Handling := by
  have hanswers : ∀ {id frame}, Answers id frame s.log → Answers id frame s'.log := by
    intro id frame hanswer
    refine ⟨hanswer.packet, ?_⟩
    rw [hlog, hquiet.unanswered_append]
    exact hanswer.value
  refine ⟨?_, ?_, ?_, ?_⟩
  · intro id frame hframe
    exact hanswers (h.limbo id frame (hlocation ▸ hframe))
  · intro id frame hframe
    exact hanswers (h.barrier id frame (hlocation ▸ hframe))
  · intro call frame hframe
    obtain ⟨phase, id, hanswer, hcall⟩ := h.call call frame (hlocation ▸ hframe)
    exact ⟨phase, id, hanswers hanswer, hcall⟩
  · intro frame err hmem
    rw [hlog] at hmem
    obtain hmem | hmem := List.mem_append.mp hmem
    · exact h.refused frame err hmem
    · exact absurd hmem (hrefused frame err)

/-- A step after which the loop handles no frame. -/
theorem Handling.moved {events : List Event} (h : s.Handling) (hlocation : s'.location.handling = false)
    (hlog : s'.log = s.log ++ events)
    (hrefused : ∀ frame err, Event.FrameRejected frame err ∈ events → IsAnswer frame →
      err ≠ .PlayMalformed ∧ err ≠ .UnexpectedKeepAlive) : s'.Handling := by
  refine ⟨?_, ?_, ?_, ?_⟩
  · intro id frame hframe
    rw [hframe] at hlocation
    cases hlocation
  · intro id frame hframe
    rw [hframe] at hlocation
    cases hlocation
  · intro call frame hframe
    rw [hframe] at hlocation
    cases hlocation
  · intro frame err hmem
    rw [hlog] at hmem
    obtain hmem | hmem := List.mem_append.mp hmem
    · exact h.refused frame err hmem
    · exact hrefused frame err hmem

/-- A step that moves the loop elsewhere and records nothing. -/
theorem Handling.idle (h : s.Handling) (hlocation : s'.location.handling = false) (hlog : s'.log = s.log) :
    s'.Handling :=
  h.moved hlocation (hlog.trans (List.append_nil _).symm) (by simp)

/-- Refusing a frame for a reason that no answer gives. -/
theorem Handling.reject (h : s.Handling) {frame : Bytes} {e : Error}
    (he : IsAnswer frame → e ≠ .PlayMalformed ∧ e ≠ .UnexpectedKeepAlive) :
    (s.reject frame e).Handling := by
  refine h.moved rfl rfl ?_
  intro other err hmem
  obtain ⟨rfl, rfl⟩ : other = frame ∧ err = e := by simpa using hmem
  exact he

/-- A frame that an honest client sends is handled as an answer only when it is
one to an unanswered keepalive. -/
theorem honest_answers {frame body : Bytes} {id : Int} (hid : codec.packet_id frame = .ok (id, body))
    (hhonest : s.honest (.Frame (.ok frame)) = true) : Answers id frame s.log := by
  refine ⟨⟨body, hid⟩, ?_⟩
  rintro rfl
  cases hparse : play.parse_keep_alive frame with
  | error e => simp [honest, hid, hparse] at hhonest
  | ok value =>
    refine ⟨value, rfl, List.mem_of_mem_head? ?_⟩
    simpa [honest, hid, hparse] using hhonest

theorem callEvents_accepts {frame : Bytes} {err : Error} (call : BarrierCall) :
    Event.FrameRejected frame err ∉ callEvents call := by
  unfold callEvents
  split
  · split <;> simp
  · split <;> simp
  · simp

/-- The barrier refuses no answer of an honest client as unexpected. -/
theorem perform_refused {call : BarrierCall} {frame : Bytes} {e : Error} (houtstanding : s.Outstanding)
    (hhandling : s.Handling) (hlocation : s.location = .BarrierCall call frame)
    (hperform : call.perform s.session = (s.session, some e)) (hanswer : IsAnswer frame) :
    e ≠ .PlayMalformed ∧ e ≠ .UnexpectedKeepAlive := by
  obtain ⟨phase, id, hanswers, hcall⟩ := hhandling.call call frame hlocation
  obtain rfl := hanswers.isAnswer_id hanswer
  obtain ⟨value, hparse, hmem⟩ := hanswers.value rfl
  rw [barrier_call_keep_alive, hparse, Except.ok.injEq] at hcall
  subst hcall
  simp only [BarrierCall.perform, Session.handle_barrier_input] at hperform
  cases hactive : s.session.active with
  | none =>
    simp only [hactive, Prod.mk.injEq, Option.some.injEq] at hperform
    rw [← hperform.2]
    decide
  | some b =>
    have hids : value ∈ b.limbo_keep_alives := houtstanding.barrier _ (by simp [accepted, hactive]) value hmem
    have hnone := b.handle_keep_alive_error { kind := .KeepAlive, keep_alive_id := value } rfl
    rw [if_pos hids] at hnone
    simp only [hactive, hnone, Prod.mk.injEq, reduceCtorEq, and_false] at hperform

/-- One step of a run with an honest client: a frame that is being handled is no
answer that would be refused. -/
theorem effect_handling (houtstanding : s.Outstanding) (h : s.Handling) (hhonest : s.honest a = true)
    (heffect : Effect cfg q s a q' s') : s'.Handling := by
  cases heffect with
  | failed | timed_out | join_sent | teleported | ticked | status_due | unplaced | placed | progressed
  | progress_writes | progress_releases | frame_accepted | challenge_failed | prepare_succeeded
  | begin_checked | begin_refused | begin_rechecked | write_checked | write_finished | replayed
  | item_cancelled | context_cancelled | untracked => exact h.idle rfl rfl
  | join_packet | keep_alive_sent | action_bar_sent | start_sent | packet_sent | finish_sent | relayed =>
    exact h.moved rfl rfl (by simp)
  | challenge_unqueued | released => exact h.moved rfl rfl (by simp)
  | idle | admission_refused | admission_accepted | admit_called | admit_sent | admit_received
  | admit_cancelled | caller_cancelled | prepare_refused | prepare_aborted | login_phase | dialed
  | configuration_phase | prepared | rolled_back | outcome_dropped | transfer_dropped
  | barrier_timed_out => exact h.kept rfl (List.append_nil _).symm quiet_nil (by simp)
  | challenge_passed => exact h.kept rfl rfl (by simp [keepAliveSent, keepAliveAnswered]) (by simp)
  | challenge_enqueued =>
    exact h.kept rfl (List.append_assoc _ _ _) (by simp [Quiet, keepAliveSent, keepAliveAnswered]) (by simp)
  | transfer_begun | logged_in | configured =>
    exact h.kept rfl rfl (by simp [keepAliveSent, keepAliveAnswered]) (by simp)
  | frame_malformed hlocation hid =>
    refine h.reject ?_
    rintro ⟨body, hbody⟩
    rw [hid] at hbody
    cases hbody
  | barrier_frame hlocation hid hstate =>
    have hanswers := honest_answers hid hhonest
    refine ⟨by rintro _ _ ⟨⟩, ?_, by rintro _ _ ⟨⟩, h.refused⟩
    intro id frame hframe
    cases hframe
    exact hanswers
  | limbo_frame hlocation hid hstate =>
    have hanswers := honest_answers hid hhonest
    refine ⟨?_, by rintro _ _ ⟨⟩, by rintro _ _ ⟨⟩, h.refused⟩
    intro id frame hframe
    cases hframe
    exact hanswers
  | barrier_inactive => exact h.reject fun _ => by decide
  | barrier_refused hlocation hactive hcall =>
    refine h.reject ?_
    intro hanswer
    have hanswers := h.barrier _ _ hlocation
    obtain rfl := hanswers.isAnswer_id hanswer
    obtain ⟨value, hparse, _⟩ := hanswers.value rfl
    rw [barrier_call_keep_alive, hparse] at hcall
    cases hcall
  | barrier_read hlocation hactive hcall =>
    refine ⟨by rintro _ _ ⟨⟩, by rintro _ _ ⟨⟩, ?_, h.refused⟩
    intro call frame hframe
    cases hframe
    exact ⟨_, _, h.barrier _ _ hlocation, hcall⟩
  | call_refused hlocation hperform => exact h.reject (perform_refused houtstanding h hlocation hperform)
  | @called _ call frame session hlocation hperform =>
    refine h.moved rfl rfl ?_
    intro other err hmem
    exact absurd hmem (callEvents_accepts call)
  | answer_refused hlocation hanswer =>
    refine h.reject ?_
    intro _
    obtain ⟨value, hparse, hmem⟩ := (h.limbo _ _ hlocation).value rfl
    obtain hnone | ⟨hnonzero, hone⟩ := houtstanding.awaited
    · rw [hnone] at hmem
      cases hmem
    · rw [hone, List.mem_singleton] at hmem
      obtain hzero | hother := hanswer value hparse
      · exact absurd hzero hnonzero
      · exact absurd hmem hother
  | @answer_unqueued _ frame s₁ e hlocation hparse hpending he hnext =>
    have hreasons : ∀ e ∈ queueErrors, e ≠ .PlayMalformed ∧ e ≠ .UnexpectedKeepAlive := by decide
    have hlog : (s₁.reject frame e).log =
        s.log ++ [.KeepAliveAnswered s.pending_keep_alive, .FrameRejected frame e] := by
      obtain rfl | rfl := hnext <;> exact List.append_assoc _ _ _
    refine h.moved rfl hlog ?_
    intro other err hmem _
    obtain ⟨rfl, rfl⟩ : other = frame ∧ err = e := by simpa using hmem
    exact hreasons err he
  | answered => exact h.moved rfl rfl (by simp)
  | answered_enqueued => exact h.moved rfl (List.append_assoc _ _ _) (by simp)
  | frame_refused hlocation hid =>
    refine h.reject ?_
    intro hanswer
    exact absurd ((h.limbo _ _ hlocation).isAnswer_id hanswer) hid
  | prepare_failed hlocation | transfer_lost hlocation =>
    obtain ⟨_, heq⟩ | ⟨request, _, heq⟩ := respond_cases _ _ _ <;> rw [heq]
    · exact h.idle rfl rfl
    · exact h.idle (congrArg Location.handling hlocation) rfl
  | begin_undone | admitted =>
    obtain ⟨_, heq⟩ | ⟨request, _, heq⟩ := respond_cases _ _ _ <;> rw [heq]
    · exact h.idle rfl rfl
    · exact h.idle rfl rfl

end Step

theorem start_outstanding (conn : Conn) (uuid : UUID) (required : Option Int) :
    (start conn uuid required).Outstanding :=
  ⟨.inl rfl, fun _ => ⟨rfl, rfl⟩, nofun⟩

theorem start_handling (conn : Conn) (uuid : UUID) (required : Option Int) :
    (start conn uuid required).Handling :=
  ⟨nofun, nofun, nofun, nofun⟩

end Limbo

open Limbo

/-- In every run of an honest client in which no unanswered keepalive is
forgotten, no answer is refused as malformed or unexpected. -/
theorem honest_answers_accepted {cfg : Config} {queue : AdmissionQueue} {conn : Conn} {uuid : UUID}
    {required : Option Int} {moves : List Move} {w : World}
    (run : SessionRuns cfg (fun s a => s.honest a && s.remembers a)
      { queue, limbo := start conn uuid required } moves w)
    {frame : Bytes} {err : Error} (hanswer : IsAnswer frame)
    (hrefused : .FrameRejected frame err ∈ w.limbo.log) :
    err ≠ .PlayMalformed ∧ err ≠ .UnexpectedKeepAlive := by
  have hinv : w.limbo.Identifiers ∧ w.limbo.Outstanding ∧ w.limbo.Handling := by
    apply World.limbo_invariant (fun s => s.Identifiers ∧ s.Outstanding ∧ s.Handling) run
    · exact ⟨start_identifiers conn uuid required, start_outstanding conn uuid required,
        start_handling conn uuid required⟩
    · rintro q a q' s s' ⟨hids, houtstanding, hhandling⟩ hpermitted heffect
      obtain ⟨hhonest, hremembers⟩ := Bool.and_eq_true_iff.mp hpermitted
      exact ⟨effect_identifiers hids heffect, effect_outstanding hids houtstanding hremembers heffect,
        effect_handling houtstanding hhandling hhonest heffect⟩
  exact hinv.2.2.refused frame err hrefused hanswer

/-- A queue with room for one item, which another session holds. -/
def fullQueue : AdmissionQueue where
  max_size := 1
  items := [{ id := [1], context := some (.Queue 1), admit_callback := some 1 }]
  queued := {[1]}

/-- The client answers its first keepalive at the barrier of a transfer. The dial of that
transfer fails, and the loop takes the error and goes on to the second keepalive. -/
def refusedMoves : List Move :=
  joinMoves ++ beginMoves ++
    [.Session (.Frame (.ok (keepAliveFrame 1))), .Session (.Proceed true), .Session (.Proceed true),
      .Session (.Proceed true), .Session (.Prepare 0 (.ok [])), .Session (.Prepare 0 (.error .Dial)),
      .Session (.Prepare 0 (.ok [])), .Session .PrepareResult, .Session .Tick, .Session (.Proceed true),
      .Others fullQueue, .Session (.Frame (.ok (keepAliveFrame 2))), .Session (.Proceed true)]

/-- The frame is not the one that was refused. -/
def sparesFrame (frame : Bytes) : Event → Bool
  | .FrameRejected other _ => other ≠ frame
  | _ => true

/-- Its answers are accepted at the barrier and after it; the second is refused only
because the queue is full. -/
theorem honest_answers_accepted_full_queue :
    ∃ w, SessionRuns sampleConfig (fun s a => s.honest a && s.remembers a) sampleWorld refusedMoves w ∧
      (∀ err, .FrameRejected (keepAliveFrame 1) err ∉ w.limbo.log) ∧
      .FrameRejected (keepAliveFrame 2) .QueueFull ∈ w.limbo.log ∧
      Error.QueueFull ≠ .PlayMalformed ∧ Error.QueueFull ≠ .UnexpectedKeepAlive := by
  obtain ⟨w, run, hobserved⟩ : ∃ w,
      SessionRuns sampleConfig (fun s a => s.honest a && s.remembers a) sampleWorld refusedMoves w ∧
        (w.limbo.log.all (sparesFrame (keepAliveFrame 1)) &&
          decide (.FrameRejected (keepAliveFrame 2) .QueueFull ∈ w.limbo.log)) = true :=
    Runs.of_exec (fun _ _ hok => hok) _ (by decide +kernel)
  obtain ⟨hfirst, hsecond⟩ := Bool.and_eq_true_iff.mp hobserved
  have hrefused := of_decide_eq_true hsecond
  have hanswer : IsAnswer (keepAliveFrame 2) := ⟨[0, 0, 0, 0, 0, 0, 0, 2], by decide⟩
  refine ⟨w, run, fun err hmem => ?_, hrefused, honest_answers_accepted run hanswer hrefused⟩
  have hspared := List.all_eq_true.mp hfirst _ hmem
  simp [sparesFrame] at hspared

/-- The dial of an admission fails before the client has answered the first
keepalive; the loop forgets it and sends the second. The client answers both
in order. -/
def forgottenMoves : List Move :=
  joinMoves ++ beginMoves ++
    [.Session (.Prepare 0 (.ok [])), .Session (.Prepare 0 (.error .Dial)), .Session (.Prepare 0 (.ok [])),
      .Session .PrepareResult, .Session .Tick, .Session (.Proceed true),
      .Session (.Frame (.ok (keepAliveFrame 1))), .Session (.Proceed true)]

/-- The first answer of that client ends its session. -/
theorem honest_answer_refused :
    ∃ w, SessionRuns sampleConfig (fun s a => s.honest a) sampleWorld forgottenMoves w ∧
      IsAnswer (keepAliveFrame 1) ∧ .FrameRejected (keepAliveFrame 1) .PlayMalformed ∈ w.limbo.log := by
  obtain ⟨w, run, hobserved⟩ : ∃ w,
      SessionRuns sampleConfig (fun s a => s.honest a) sampleWorld forgottenMoves w ∧
        decide (.FrameRejected (keepAliveFrame 1) .PlayMalformed ∈ w.limbo.log) = true :=
    Runs.of_exec (fun _ _ hok => hok) _ (by decide +kernel)
  exact ⟨w, run, ⟨[0, 0, 0, 0, 0, 0, 0, 1], by decide⟩, of_decide_eq_true hobserved⟩

end regiongate.server
