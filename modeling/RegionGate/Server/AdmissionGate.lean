import RegionGate.Server.KeepAliveTimeout

open regiongate.session regiongate.transfer execution

namespace regiongate.server

/-- The number of answers the gate waits for: what the hook reports, but at
least one; without a hook, or without its report, one. -/
def requirement (cfg : Config) (required : Option Int) : Int :=
  if cfg.challenge_hook then max 1 (required.getD 1) else 1

/-- A frame is being handled at the barrier. -/
def Location.atBarrier : Location → Bool
  | .BarrierFrame _ _ | .BarrierCall _ _ => true
  | _ => false

namespace Limbo

/-- Admission requests come only from the session's own queue item. -/
def ownItem (s : Limbo) : Action → Bool
  | .AdmitCalled own => own && .Enqueued ∈ s.log
  | _ => true

/-- A step that leaves the gate's variables alone and does not enter the queue. -/
structure Ungated (s s' : Limbo) : Prop where
  required : s'.required = s.required := by rfl
  valid : s'.valid_keep_alives = s.valid_keep_alives := by rfl
  started : s'.challenge_started = s.challenge_started := by rfl
  passed : s'.challenge_passed = s.challenge_passed := by rfl
  result : s'.challenge_result = s.challenge_result := by rfl
  required_keep_alives : s'.required_keep_alives = s.required_keep_alives := by rfl
  queued : s'.queued = s.queued := by rfl
  log : ∃ events, .Enqueued ∉ events ∧ s'.log = s.log ++ events := by
    exact ⟨[], List.not_mem_nil, (List.append_nil _).symm⟩

/-- What a step does at the admission gate. -/
inductive GateEffect (cfg : Config) (q : AdmissionQueue) (s : Limbo) : AdmissionQueue → Limbo → Prop where
  | ungated {q' : AdmissionQueue} {s' : Limbo} (h : s.Ungated s') : GateEffect cfg q s q' s'
  | answered {s₁ s' : Limbo} {frame : Bytes}
      (hlocation : s.location = .LimboFrame play.ServerboundKeepAliveID frame)
      (hpending : s.pending_keep_alive ≠ 0)
      (hnext : s₁ = s.answer s.pending_keep_alive ∨
        s₁ = (s.answer s.pending_keep_alive).challenged cfg) (h : s₁.Ungated s')
      (hwaits : s'.location.ended = true ∨ s'.Waits cfg) :
    GateEffect cfg q s q s'
  | answered_enqueued {q' : AdmissionQueue} {s' : Limbo} {frame : Bytes}
      (hlocation : s.location = .LimboFrame play.ServerboundKeepAliveID frame)
      (hpending : s.pending_keep_alive ≠ 0)
      (henqueues : ((s.answer s.pending_keep_alive).challenged cfg).Enqueues cfg q q')
      (h : ((s.answer s.pending_keep_alive).challenged cfg).enqueued.Ungated s') :
    GateEffect cfg q s q' s'
  | challenge_failed {e : Error} :
    GateEffect cfg q s q ({ s with challenge_result := false }.fail e)
  | challenge_passed {s' : Limbo} (hresult : s.challenge_result = true) (h : s.verdict.Ungated s')
      (hwaits : s'.location.ended = true ∨ s'.Waits cfg) :
    GateEffect cfg q s q s'
  | challenge_enqueued {q' : AdmissionQueue} (hresult : s.challenge_result = true)
      (henqueues : s.verdict.Enqueues cfg q q') : GateEffect cfg q s q' s.verdict.enqueued

section Step

variable {cfg : Config} {q q' : AdmissionQueue} {s s' : Limbo} {a : Action}

/-- Nobody enters the queue by a frame at the barrier. -/
theorem callEvents_not_enqueued (call : BarrierCall) : Event.Enqueued ∉ callEvents call := by
  unfold callEvents
  split
  · split <;> simp
  · split <;> simp
  · simp

/-- Every step of a session, as far as the admission gate is concerned. -/
theorem gate_effect (h : Effect cfg q s a q' s') : GateEffect cfg q s q' s' := by
  cases h with
  | @answer_unqueued _ frame s₁ e hlocation hparse hpending he hnext =>
    refine .answered hlocation hpending hnext { log := ⟨[.FrameRejected frame e], by simp, rfl⟩ } (.inl rfl)
  | answered hlocation hparse hpending hwaits =>
    exact .answered hlocation hpending (.inr rfl) {} (.inr hwaits)
  | answered_enqueued hlocation hparse hpending henqueues =>
    exact .answered_enqueued hlocation hpending henqueues {}
  | challenge_failed => exact .challenge_failed
  | challenge_unqueued hlocation hresult => exact .challenge_passed hresult {} (.inl rfl)
  | challenge_passed hlocation hresult hwaits => exact .challenge_passed hresult {} (.inr hwaits)
  | challenge_enqueued hlocation hresult henqueues => exact .challenge_enqueued hresult henqueues
  | prepare_failed | transfer_lost | begin_undone | admitted =>
    obtain ⟨_, heq⟩ | ⟨request, _, heq⟩ := respond_cases _ _ _ <;> rw [heq] <;> exact .ungated {}
  | called => exact .ungated { log := ⟨_, callEvents_not_enqueued _, rfl⟩ }
  | join_packet | keep_alive_sent | action_bar_sent | frame_malformed | barrier_inactive | barrier_refused
  | call_refused | answer_refused | frame_refused | start_sent | packet_sent | finish_sent | released
  | relayed | transfer_begun | logged_in | configured =>
    refine .ungated { log := ⟨[_], ?_, rfl⟩ }
    simp
  | _ => exact .ungated {}

/-- A history only grows. -/
theorem effect_log (h : Effect cfg q s a q' s') : ∃ events, s'.log = s.log ++ events := by
  cases gate_effect h with
  | ungated h => exact ⟨h.log.choose, h.log.choose_spec.2⟩
  | answered _ _ hnext h =>
    obtain ⟨events, _, hlog⟩ := h.log
    refine ⟨.KeepAliveAnswered s.pending_keep_alive :: events, ?_⟩
    obtain rfl | rfl := hnext <;> exact hlog.trans (List.append_assoc _ _ _)
  | answered_enqueued _ _ _ h =>
    obtain ⟨events, _, hlog⟩ := h.log
    exact ⟨.KeepAliveAnswered s.pending_keep_alive :: .Enqueued :: events, by
      rw [hlog]
      simp [enqueued, challenged, answer]⟩
  | challenge_failed => exact ⟨[], (List.append_nil _).symm⟩
  | challenge_passed _ h =>
    obtain ⟨events, _, hlog⟩ := h.log
    exact ⟨.ChallengePassed :: events, hlog.trans (List.append_assoc _ _ _)⟩
  | challenge_enqueued => exact ⟨[.ChallengePassed, .Enqueued], List.append_assoc _ _ _⟩

/-- A session that nobody has asked to admit: it has no transfer and its loop is
not at a barrier. -/
structure Unasked (s : Limbo) : Prop where
  calls : s.calls = []
  admissions : s.admissions = []
  attempts : s.attempts = []
  prepared : s.prepared = none
  session : s.session.state = .LimboPlay
  location : s.location.atBarrier = false

theorem Unasked.no_attempt (h : s.Unasked) {k : Nat} {attempt : Attempt}
    (hattempt : s.attempts[k]? = some attempt) : False := by
  simp [h.attempts] at hattempt

theorem Unasked.no_transfer (h : s.Unasked) {k : Nat} (hprepared : s.prepared = some k) : False := by
  simp [h.prepared] at hprepared

theorem Unasked.no_call (h : s.Unasked) {i : Nat} {call : AdmitCall} (hcall : s.calls[i]? = some call) :
    False := by
  simp [h.calls] at hcall

/-- Before the player is in the queue nobody asks for its admission, so there is no
call of `Prepare` and no transfer. -/
theorem effect_unasked (h : s.Unasked) (hown : s.ownItem a = true) (hlog : .Enqueued ∉ s.log)
    (heffect : Effect cfg q s a q' s') : s'.Unasked := by
  cases heffect with
  | failed | timed_out | join_packet | join_sent | teleported | keep_alive_sent | ticked | status_due
  | unplaced | placed | action_bar_sent | frame_malformed | limbo_frame | barrier_inactive
  | barrier_refused | call_refused | progressed | answer_refused | answered | answered_enqueued
  | frame_accepted | frame_refused | challenge_failed | challenge_unqueued | begin_refused | replayed
  | item_cancelled | context_cancelled | untracked =>
    exact ⟨h.calls, h.admissions, h.attempts, h.prepared, h.session, rfl⟩
  | answer_unqueued _ _ _ _ hnext =>
    obtain rfl | rfl := hnext <;>
      exact ⟨h.calls, h.admissions, h.attempts, h.prepared, h.session, rfl⟩
  | idle | challenge_passed | challenge_enqueued =>
    exact ⟨h.calls, h.admissions, h.attempts, h.prepared, h.session, h.location⟩
  | barrier_frame _ _ hstate =>
    rw [h.session] at hstate
    cases hstate
  | barrier_read hlocation | called hlocation =>
    have hbarrier := h.location
    rw [hlocation] at hbarrier
    cases hbarrier
  | admission_refused _ hadmissions | admission_accepted _ hadmissions =>
    rw [h.admissions] at hadmissions
    cases hadmissions
  | progress_writes _ hprepared | progress_releases _ hprepared | transfer_lost _ hprepared
  | begin_checked _ hprepared | start_sent _ hprepared | begin_rechecked _ hprepared
  | begin_undone _ hprepared | write_checked _ hprepared | packet_sent _ hprepared
  | finish_sent _ hprepared | write_finished _ hprepared | released _ hprepared
  | relayed _ hprepared => exact (h.no_transfer hprepared).elim
  | prepare_failed _ _ hattempt | prepare_succeeded _ _ hattempt => exact (h.no_attempt hattempt).elim
  | prepare_refused hattempt | transfer_begun hattempt | prepare_aborted hattempt | login_phase hattempt
  | dialed hattempt | logged_in hattempt | configuration_phase hattempt | configured hattempt
  | prepared hattempt | rolled_back hattempt | outcome_dropped hattempt | transfer_dropped hattempt
  | barrier_timed_out hattempt => exact (h.no_attempt hattempt).elim
  | admitted =>
    obtain ⟨_, heq⟩ | ⟨request, _, heq⟩ := respond_cases _ _ _ <;> rw [heq]
    · exact ⟨h.calls, h.admissions, h.attempts, h.prepared, h.session, rfl⟩
    · exact ⟨by simp [send, h.calls], h.admissions, h.attempts, h.prepared, h.session, rfl⟩
  | admit_called =>
    have hqueued := (Bool.and_eq_true_iff.mp hown).2
    exact absurd (of_decide_eq_true hqueued) hlog
  | admit_sent hcall | admit_received hcall | admit_cancelled hcall => exact (h.no_call hcall).elim
  | caller_cancelled =>
    exact ⟨by simp [h.calls], h.admissions, h.attempts, h.prepared, h.session, h.location⟩

/-- The answers that the gate counted: each is to a different keepalive, which
was unanswered when the answer came. -/
structure Counted (valid : Int) (log : List Event) : Prop where
  count : valid = (log.filterMap keepAliveAnswered).length
  nodup : (log.filterMap keepAliveAnswered).Nodup
  answered : ∀ id ∈ log.filterMap keepAliveAnswered,
    ∃ earlier later, log = earlier ++ .KeepAliveAnswered id :: later ∧ id ∈ unanswered earlier

theorem Counted.append {valid : Int} {log events : List Event} (h : Counted valid log)
    (hquiet : events.filterMap keepAliveAnswered = []) : Counted valid (log ++ events) := by
  refine ⟨?_, ?_, ?_⟩
  · simpa [hquiet] using h.count
  · simpa [hquiet] using h.nodup
  · intro id hid
    rw [List.filterMap_append, hquiet, List.append_nil] at hid
    obtain ⟨earlier, later, rfl, hopen⟩ := h.answered id hid
    exact ⟨earlier, later ++ events, by simp, hopen⟩

/-- An answer to an open keepalive is one more. -/
theorem Counted.answer {valid : Int} {log : List Event} {id : Int} (h : Counted valid log)
    (hopen : id ∈ unanswered log) : Counted (valid + 1) (log ++ [.KeepAliveAnswered id]) := by
  have hnew : (log ++ [Event.KeepAliveAnswered id]).filterMap keepAliveAnswered =
      log.filterMap keepAliveAnswered ++ [id] := by
    simp [keepAliveAnswered]
  refine ⟨?_, ?_, ?_⟩
  · have hcount := h.count
    rw [hnew, List.length_append, List.length_singleton]
    omega
  · rw [hnew]
    refine List.nodup_append.mpr ⟨h.nodup, List.nodup_singleton _, ?_⟩
    rintro other hother _ hid rfl
    rw [List.mem_singleton.mp hid] at hother
    exact (mem_unanswered.mp hopen).2 hother
  · rw [hnew]
    intro other hother
    obtain hother | hother := List.mem_append.mp hother
    · obtain ⟨earlier, later, rfl, hearlier⟩ := h.answered other hother
      exact ⟨earlier, later ++ [.KeepAliveAnswered id], by simp, hearlier⟩
    · rw [List.mem_singleton.mp hother]
      exact ⟨log, [], rfl, hopen⟩

/-- The gate's count is right, and the pending keepalive, once it was written,
is unanswered. -/
structure Counting (s : Limbo) : Prop where
  counted : Counted s.valid_keep_alives s.log
  pending : s.location.ended = false → s.location.sending = false → s.pending_keep_alive ≠ 0 →
    s.pending_keep_alive ∈ unanswered s.log

/-- One step outside the barrier: `validKeepAlives` counts the keepalives that were
answered. -/
theorem effect_counting (hids : s.Identifiers) (hlocation : s.location.atBarrier = false) (h : s.Counting)
    (heffect : Effect cfg q s a q' s') : s'.Counting := by
  cases keep_alive_effect hids.joins heffect with
  | undisturbed hsame =>
    obtain ⟨events, hquiet, hlog⟩ := hsame.log
    refine ⟨?_, ?_⟩
    · rw [hsame.valid, hlog]
      exact h.counted.append hquiet.filterMap_answered
    · intro hrunning hsending hpending
      obtain ⟨hrunning, hsame'⟩ := hsame.running hrunning
      rw [hsame.unanswered]
      rw [hsame.pending] at hpending ⊢
      exact h.pending hrunning (hsame' ▸ hsending) hpending
  | sent hlocation =>
    have hsending : s.location.sending = true := by
      obtain hlocation | hlocation := hlocation <;> rw [hlocation] <;> rfl
    refine ⟨h.counted.append (by simp [keepAliveAnswered]), ?_⟩
    intro _ _ _
    change s.pending_keep_alive ∈ unanswered (s.log ++ [.Wrote none (.KeepAlive s.keep_alive_id)])
    rw [unanswered_sent (hids.fresh hsending), hids.sending hsending]
    exact List.mem_append_right _ (List.mem_singleton.mpr rfl)
  | ticked => exact ⟨h.counted, by rintro _ ⟨⟩⟩
  | answered hframe hpending hid hpending' hvalid hsnapshots hsession hsending harmed hquiet hlog =>
    have hopen := h.pending (by rw [hframe]; rfl) (by rw [hframe]; rfl) hpending
    refine ⟨?_, fun _ _ hnonzero => absurd hpending' hnonzero⟩
    rw [hvalid, hlog, List.append_cons]
    exact (h.counted.answer hopen).append hquiet.filterMap_answered
  | barrier_answered hcall =>
    rw [hcall] at hlocation
    cases hlocation
  | forgotten hforgets hselect hselect' hid hpending harmed hvalid hsnapshots hsession hlog =>
    refine ⟨?_, fun _ _ hnonzero => absurd hpending hnonzero⟩
    rw [hvalid, hlog]
    exact h.counted
  | snapshotted hselect hselect' hid hpending harmed hvalid hsnapshots hsession hlog =>
    refine ⟨?_, ?_⟩
    · rw [hvalid, hlog]
      exact h.counted
    · rw [hpending, hlog]
      intro _ _
      exact h.pending (by rw [hselect]; rfl) (by rw [hselect]; rfl)
  | begun hbegins hsnapshot hsame hid hpending harmed hvalid hsnapshots haccepted hlog =>
    refine ⟨?_, ?_⟩
    · rw [hvalid, hlog]
      exact h.counted.append (by simp [keepAliveAnswered])
    · rw [hpending, hlog, hsame, Quiet.unanswered_append (by simp [keepAliveSent, keepAliveAnswered])]
      exact h.pending

/-- The gate was open when the session entered the queue. -/
def GateOpened (cfg : Config) (required : Option Int) (before : List Event) : Prop :=
  .Enqueued ∉ before ∧ (cfg.challenge_hook = true → .ChallengePassed ∈ before) ∧
    ∃ ids : List Int, ids.Nodup ∧ requirement cfg required ≤ ids.length ∧
      ∀ id ∈ ids, ∃ earlier later, before = earlier ++ .KeepAliveAnswered id :: later ∧
        id ∈ unanswered earlier

/-- What the gate's variables say about the history. -/
structure Gated (cfg : Config) (required : Option Int) (s : Limbo) : Prop where
  reported : s.required = required
  threshold : s.required_keep_alives = if s.challenge_started then requirement cfg required else 1
  started : s.challenge_passed = true ∨ s.challenge_result = true → s.challenge_started = true
  passed : s.challenge_passed = true → cfg.challenge_hook = true → .ChallengePassed ∈ s.log
  queued : .Enqueued ∈ s.log → s.queued = true
  opened : Every (fun before event => event = .Enqueued → GateOpened cfg required before) s.log

variable {required : Option Int}

/-- A step that touches neither the hook nor the count. -/
theorem Gated.ungated (h : s.Gated cfg required) (hsame : s.Ungated s') : s'.Gated cfg required := by
  obtain ⟨events, hfree, hlog⟩ := hsame.log
  refine ⟨hsame.required.trans h.reported, ?_, ?_, ?_, ?_, ?_⟩
  · rw [hsame.required_keep_alives, hsame.started]
    exact h.threshold
  · rw [hsame.passed, hsame.result, hsame.started]
    exact h.started
  · rw [hsame.passed, hlog]
    exact fun hpassed hhook => List.mem_append_left _ (h.passed hpassed hhook)
  · rw [hsame.queued, hlog]
    exact fun hmem => h.queued ((List.mem_append.mp hmem).resolve_right hfree)
  · rw [hlog]
    refine h.opened.append ?_
    rintro before _ hmem rfl
    exact absurd hmem hfree

theorem Gated.answer (h : s.Gated cfg required) (value : Int) : (s.answer value).Gated cfg required := by
  refine ⟨h.reported, h.threshold, h.started, ?_, ?_, ?_⟩
  · exact fun hpassed hhook => List.mem_append_left _ (h.passed hpassed hhook)
  · intro hmem
    exact h.queued (by simpa [Limbo.answer] using hmem)
  · exact h.opened.append (by simp)

/-- The hook is started at the first answer, with the number that it requires. -/
theorem Gated.challenged (h : s.Gated cfg required) : (s.challenged cfg).Gated cfg required := by
  refine ⟨h.reported, ?_, fun _ => rfl, ?_, h.queued, h.opened⟩
  · have hthreshold := h.threshold
    simp only [Limbo.challenged, h.reported, if_true]
    cases hstarted : s.challenge_started with
    | true =>
      rw [if_pos (.inl rfl)]
      simpa [hstarted] using hthreshold
    | false =>
      simp only [hstarted, Bool.false_eq_true, if_false, false_or] at hthreshold ⊢
      cases hhook : cfg.challenge_hook with
      | false => simpa [requirement, hhook] using hthreshold
      | true =>
        cases required with
        | none => simpa [requirement, hhook] using hthreshold
        | some n =>
          simp only [requirement, hhook, not_true, if_false, if_true, Option.getD_some]
          omega
  · intro hpassed hhook
    refine h.passed ?_ hhook
    simpa [Limbo.challenged, hhook] using hpassed

theorem Gated.verdict (h : s.Gated cfg required) (hresult : s.challenge_result = true) :
    s.verdict.Gated cfg required := by
  refine ⟨h.reported, h.threshold, ?_, ?_, ?_, ?_⟩
  · exact fun _ => h.started (.inr hresult)
  · exact fun _ _ => List.mem_append_right _ (List.mem_singleton.mpr rfl)
  · intro hmem
    exact h.queued (by simpa [Limbo.verdict] using hmem)
  · exact h.opened.append (by simp)

/-- A session that is not queued has never entered the queue. -/
theorem Gated.fresh (h : s.Gated cfg required) (hqueued : s.queued = false) : .Enqueued ∉ s.log := by
  intro hmem
  rw [h.queued hmem] at hqueued
  cases hqueued

/-- Entering the queue through the open gate. -/
theorem Gated.enqueued {q' : AdmissionQueue} (h : s.Gated cfg required) (hcounted : Counted s.valid_keep_alives s.log)
    (henqueues : s.Enqueues cfg q q') : s.enqueued.Gated cfg required := by
  refine ⟨h.reported, h.threshold, h.started, ?_, fun _ => rfl, ?_⟩
  · exact fun hpassed hhook => List.mem_append_left _ (h.passed hpassed hhook)
  · refine every_snoc.mpr ⟨h.opened, ?_⟩
    intro _
    obtain ⟨hpassed, hrequired⟩ := henqueues.gate
    refine ⟨?_, h.passed hpassed, s.log.filterMap keepAliveAnswered, hcounted.nodup, ?_, hcounted.answered⟩
    · exact h.fresh henqueues.fresh
    · rw [← hcounted.count]
      rw [h.threshold, h.started (.inl hpassed), if_pos rfl] at hrequired
      exact hrequired

/-- One step: the player enters the queue only with the hook's `nil` and enough
answers. -/
theorem effect_gated (h : s.Gated cfg required)
    (hcounting : .Enqueued ∉ s.log → s.Counting) (heffect : Effect cfg q s a q' s') :
    s'.Gated cfg required := by
  cases gate_effect heffect with
  | ungated hsame => exact h.ungated hsame
  | answered hlocation hpending hnext hsame hwaits =>
    obtain rfl | rfl := hnext
    · exact (h.answer _).ungated hsame
    · exact (h.answer _).challenged.ungated hsame
  | answered_enqueued hlocation hpending henqueues hsame =>
    have hcount := hcounting (h.fresh henqueues.fresh)
    have hopen := hcount.pending (by rw [hlocation]; rfl) (by rw [hlocation]; rfl) hpending
    exact ((h.answer _).challenged.enqueued (hcount.counted.answer hopen) henqueues).ungated hsame
  | challenge_failed =>
    refine ⟨h.reported, h.threshold, ?_, h.passed, h.queued, h.opened⟩
    rintro (hpassed | hresult)
    · exact h.started (.inl hpassed)
    · cases hresult
  | challenge_passed hresult hsame hwaits => exact (h.verdict hresult).ungated hsame
  | challenge_enqueued hresult henqueues =>
    have hcount := (hcounting (h.fresh henqueues.fresh)).counted
    exact (h.verdict hresult).enqueued (hcount.append (by simp [keepAliveAnswered])) henqueues

/-- Everything the gate theorem needs of a state. -/
structure GateInvariant (cfg : Config) (required : Option Int) (s : Limbo) : Prop where
  ids : s.Identifiers
  gated : s.Gated cfg required
  unasked : .Enqueued ∉ s.log → s.Unasked
  counting : .Enqueued ∉ s.log → s.Counting

theorem effect_gateInvariant (h : s.GateInvariant cfg required) (hown : s.ownItem a = true)
    (heffect : Effect cfg q s a q' s') : s'.GateInvariant cfg required := by
  have hearlier : .Enqueued ∉ s'.log → .Enqueued ∉ s.log := by
    obtain ⟨events, hlog⟩ := effect_log heffect
    rw [hlog]
    exact fun hfree hmem => hfree (List.mem_append_left _ hmem)
  refine ⟨effect_identifiers h.ids heffect, effect_gated h.gated h.counting heffect, ?_, ?_⟩
  · intro hfree
    exact effect_unasked (h.unasked (hearlier hfree)) hown (hearlier hfree) heffect
  · intro hfree
    exact effect_counting h.ids (h.unasked (hearlier hfree)).location (h.counting (hearlier hfree)) heffect

end Step

theorem start_gateInvariant (cfg : Config) (conn : Conn) (uuid : UUID) (required : Option Int) :
    (start conn uuid required).GateInvariant cfg required where
  ids := start_identifiers conn uuid required
  gated := ⟨rfl, rfl, by simp [start], by simp [start], by simp [start], every_nil⟩
  unasked := fun _ => ⟨rfl, rfl, rfl, rfl, rfl, rfl⟩
  counting := fun _ => ⟨⟨rfl, List.nodup_nil, by simp [start]⟩, nofun⟩

end Limbo

open Limbo

/-- In every run whose admission requests come only from the session's own queue
item, the session enters the queue at most once, and only after the hook, if
there is one, returned nil and after enough answers, each to a different
keepalive that was unanswered at that time. -/
theorem admission_gate_holds {cfg : Config} {queue : AdmissionQueue} {conn : Conn} {uuid : UUID}
    {required : Option Int} {moves : List Move} {w : World}
    (run : SessionRuns cfg ownItem { queue, limbo := start conn uuid required } moves w) :
    Every (fun before event => event = .Enqueued → GateOpened cfg required before) w.limbo.log := by
  have hinv : w.limbo.GateInvariant cfg required :=
    World.limbo_invariant (GateInvariant cfg required) run (start_gateInvariant cfg conn uuid required)
      effect_gateInvariant
  exact hinv.gated.opened

/-- A hook that asks for two answers: the verdict comes between them. -/
def gateMoves : List Move :=
  joinMoves ++
    [.Session (.Frame (.ok (keepAliveFrame 1))), .Session (.Proceed true),
      .Session (.ChallengeResult none), .Session .Tick, .Session (.Proceed true),
      .Session (.Frame (.ok (keepAliveFrame 2))), .Session (.Proceed true)]

/-- The sample configuration with a hook. -/
def hookedConfig : Config := { sampleConfig with challenge_hook := true }

/-- A session whose hook requires two answers. -/
def hookedWorld : World := { sampleWorld with limbo := start 0 sampleUUID (some 2) }

/-- A hook that requires two answers, and a player that gives them. -/
theorem admission_gate_holds_two_answers :
    ∃ w, SessionRuns hookedConfig ownItem hookedWorld gateMoves w ∧ .Enqueued ∈ w.limbo.log ∧
      Every (fun before event => event = .Enqueued → GateOpened hookedConfig (some 2) before)
        w.limbo.log := by
  obtain ⟨w, run, hobserved⟩ : ∃ w, SessionRuns hookedConfig ownItem hookedWorld gateMoves w ∧
      decide (.Enqueued ∈ w.limbo.log) = true :=
    Runs.of_exec (fun _ _ hok => hok) _ (by decide +kernel)
  exact ⟨w, run, of_decide_eq_true hobserved, admission_gate_holds run⟩

end regiongate.server
