import RegionGate.Server.KeepAlive

open regiongate.session regiongate.transfer execution

namespace regiongate.server

namespace Limbo

/-- Keepalive identifiers grow: every identifier the session knows of is at most
the last one, and below it while that one is still to be written. -/
structure Identifiers (s : Limbo) : Prop where
  joins : s.Joins
  positive : 0 < s.keep_alive_id
  pending : s.pending_keep_alive ≤ s.keep_alive_id
  sending : s.location.sending = true → s.pending_keep_alive = s.keep_alive_id
  snapshots : ∀ ids ∈ s.snapshots, ∀ id ∈ ids, id ≤ s.keep_alive_id
  barrier : ∀ ids, accepted s.session = some ids → ∀ id ∈ ids, id ≤ s.keep_alive_id
  answered : ∀ id ∈ s.log.filterMap keepAliveAnswered,
    id ≤ s.keep_alive_id ∧ (s.location.sending = true → id < s.keep_alive_id)

theorem start_identifiers (conn : Conn) (uuid : UUID) (required : Option Int) :
    (start conn uuid required).Identifiers where
  joins := start_joins conn uuid required
  positive := Int.one_pos
  pending := le_refl _
  sending := fun _ => rfl
  snapshots := by simp [Limbo.snapshots, start]
  barrier := by
    intro ids hids
    cases hids
  answered := by simp [start]

theorem mem_pending_ids {id pending : Int} (h : id ∈ pending_ids pending) : id = pending := by
  unfold pending_ids at h
  split at h
  · cases h
  · simpa using h

section Step

variable {cfg : Config} {q q' : AdmissionQueue} {s s' : Limbo} {a : Action}

theorem sending_of_ended {location : Location} (h : location.sending = true) : location.ended = false := by
  cases location <;> first | rfl | cases h

theorem Undisturbed.sending (h : s.Undisturbed s') (hsending : s'.location.sending = true) :
    s.location.sending = true := by
  rw [← (h.running (sending_of_ended hsending)).2]
  exact hsending

theorem Undisturbed.answered (h : s.Undisturbed s') :
    s'.log.filterMap keepAliveAnswered = s.log.filterMap keepAliveAnswered := by
  obtain ⟨events, hquiet, hlog⟩ := h.log
  rw [hlog, List.filterMap_append, hquiet.filterMap_answered, List.append_nil]

theorem Undisturbed.unanswered (h : s.Undisturbed s') : unanswered s'.log = unanswered s.log := by
  obtain ⟨events, hquiet, hlog⟩ := h.log
  rw [hlog, hquiet.unanswered_append]

theorem Undisturbed.accepted (h : s.Undisturbed s') {ids : Finset Int}
    (hids : accepted s'.session = some ids) : accepted s.session = some ids := by
  obtain hsame | hnone := h.barrier
  · rw [← hsame]
    exact hids
  · rw [hnone] at hids
    cases hids

/-- A step that sends no keepalive and leaves none to be written: the identifiers that
it brings in are those that the session knew. -/
theorem Identifiers.unsent (h : s.Identifiers) (hjoins : s'.Joins) (hid : s'.keep_alive_id = s.keep_alive_id)
    (hpending : s'.pending_keep_alive ≤ s.keep_alive_id) (hsending : s'.location.sending = false)
    (hsnapshots : ∀ ids ∈ s'.snapshots, ∀ id ∈ ids, id ≤ s.keep_alive_id)
    (hbarrier : ∀ ids, accepted s'.session = some ids → ∀ id ∈ ids, id ≤ s.keep_alive_id)
    (hanswered : ∀ id ∈ s'.log.filterMap keepAliveAnswered, id ≤ s.keep_alive_id) : s'.Identifiers := by
  rw [← hid] at hpending hsnapshots hbarrier hanswered
  refine ⟨hjoins, hid ▸ h.positive, hpending, ?_, hsnapshots, hbarrier, ?_⟩
  · rw [hsending]
    rintro ⟨⟩
  · rw [hsending]
    exact fun id hmem => ⟨hanswered id hmem, by rintro ⟨⟩⟩

theorem Identifiers.undisturbed (h : s.Identifiers) (hjoins : s'.Joins) (hsame : s.Undisturbed s') :
    s'.Identifiers := by
  refine ⟨hjoins, ?_, ?_, ?_, ?_, ?_, ?_⟩
  · rw [hsame.id]
    exact h.positive
  · rw [hsame.pending, hsame.id]
    exact h.pending
  · intro hsending
    rw [hsame.pending, hsame.id]
    exact h.sending (hsame.sending hsending)
  · rw [hsame.snapshots, hsame.id]
    exact h.snapshots
  · intro ids hids
    rw [hsame.id]
    exact h.barrier ids (hsame.accepted hids)
  · rw [hsame.answered, hsame.id]
    intro id hid
    exact ⟨(h.answered id hid).1, fun hsending => (h.answered id hid).2 (hsame.sending hsending)⟩

/-- One step: identifiers grow with every keepalive, and whatever waits for an answer
was sent. -/
theorem effect_identifiers (h : s.Identifiers) (heffect : Effect cfg q s a q' s') : s'.Identifiers := by
  have hjoins := effect_joins h.joins heffect
  have hknown := fun id hid => (h.answered id hid).1
  cases keep_alive_effect h.joins heffect with
  | undisturbed hsame => exact h.undisturbed hjoins hsame
  | sent hlocation =>
    refine h.unsent hjoins rfl h.pending rfl h.snapshots h.barrier ?_
    simpa [write, keepAliveAnswered] using hknown
  | ticked hlocation hpending hstate =>
    have hgrows : s.keep_alive_id < s.keep_alive_id + 1 := Int.lt_succ _
    refine ⟨hjoins, h.positive.trans hgrows, le_refl _, fun _ => rfl, ?_, ?_, ?_⟩
    · intro ids hids id hid
      exact (h.snapshots ids hids id hid).trans hgrows.le
    · intro ids hids id hid
      exact (h.barrier ids hids id hid).trans hgrows.le
    · intro id hid
      have hlt := (hknown id hid).trans_lt hgrows
      exact ⟨hlt.le, fun _ => hlt⟩
  | answered hlocation hpending hid hpending' hvalid hsnapshots hsession hsending harmed hquiet hlog =>
    refine h.unsent hjoins hid (hpending' ▸ h.positive.le) hsending (hsnapshots ▸ h.snapshots)
      (hsession ▸ h.barrier) ?_
    intro id hmem
    rw [hlog, List.filterMap_append, List.mem_append] at hmem
    obtain hmem | hmem := hmem
    · exact hknown id hmem
    · rw [List.filterMap_cons, hquiet.filterMap_answered] at hmem
      obtain rfl : id = s.pending_keep_alive := by simpa [keepAliveAnswered] using hmem
      exact h.pending
  | barrier_answered hlocation hkind haccepted hid haccepted' =>
    refine h.unsent hjoins rfl h.pending rfl h.snapshots ?_ ?_
    · intro ids hids id hmem
      rw [haccepted', Option.some.injEq] at hids
      subst hids
      exact h.barrier _ haccepted id (Finset.mem_of_mem_erase hmem)
    · intro id hmem
      rw [List.filterMap_append, List.mem_append] at hmem
      obtain hmem | hmem := hmem
      · exact hknown id hmem
      · obtain rfl := by simpa [keepAliveAnswered] using hmem
        exact h.barrier _ haccepted _ hid
  | forgotten hforgets hlocation hlocation' hid hpending harmed hvalid hsnapshots hsession hlog =>
    exact h.unsent hjoins hid (hpending ▸ h.positive.le) (hlocation' ▸ rfl) (hsnapshots ▸ h.snapshots)
      (hsession ▸ h.barrier) (hlog ▸ hknown)
  | snapshotted hlocation hlocation' hid hpending harmed hvalid hsnapshots hsession hlog =>
    refine h.unsent hjoins hid (hpending ▸ h.pending) (hlocation' ▸ rfl) ?_ (hsession ▸ h.barrier)
      (hlog ▸ hknown)
    rw [hsnapshots]
    intro ids hids id hmem
    obtain hids | hids := List.mem_append.mp hids
    · exact h.snapshots ids hids id hmem
    · rw [List.mem_singleton.mp hids] at hmem
      rw [mem_pending_ids hmem]
      exact h.pending
  | begun hbegins hids hlocation' hid hpending harmed hvalid hsnapshots haccepted hlog =>
    -- `Prepare` may begin while the loop is about to write, so this case keeps `sending`
    refine ⟨hjoins, ?_, ?_, ?_, ?_, ?_, ?_⟩
    · rw [hid]
      exact h.positive
    · rw [hid, hpending]
      exact h.pending
    · rw [hlocation', hid, hpending]
      exact h.sending
    · rw [hsnapshots, hid]
      exact h.snapshots
    · intro ids' hids' id hmem
      rw [haccepted, Option.some.injEq] at hids'
      subst hids'
      rw [hid]
      exact h.snapshots _ hids id (List.mem_toFinset.mp hmem)
    · rw [hlog, hid, hlocation']
      simpa [keepAliveAnswered] using h.answered

/-- A keepalive that is about to be written has a new identifier. -/
theorem Identifiers.fresh (h : s.Identifiers) (hsending : s.location.sending = true) :
    s.keep_alive_id ∉ s.log.filterMap keepAliveAnswered := by
  intro hmem
  exact lt_irrefl _ ((h.answered _ hmem).2 hsending)

/-- While the loop runs, an armed timeout waits for an unanswered keepalive. -/
def Armed (s : Limbo) : Prop :=
  s.location.ended = false → s.timeout_armed = true →
    s.pending_keep_alive ≠ 0 ∧ s.pending_keep_alive ∈ unanswered s.log

/-- The loop's next step hands the barrier no answer to the keepalive whose
timeout is armed. -/
def answersInLimbo (s : Limbo) : Action → Bool
  | .Proceed _ =>
    match s.location with
    | .BarrierCall (.Input input) _ =>
      !(s.timeout_armed && input.kind = .KeepAlive && input.keep_alive_id = s.pending_keep_alive)
    | _ => true
  | _ => true

/-- One step: while a keepalive of Limbo is unanswered its timer runs. -/
theorem effect_armed (hids : s.Identifiers) (h : s.Armed) (hallowed : s.answersInLimbo a = true)
    (heffect : Effect cfg q s a q' s') : s'.Armed := by
  intro hrunning harmed'
  cases keep_alive_effect hids.joins heffect with
  | undisturbed hsame =>
    rw [hsame.pending, hsame.unanswered]
    exact h (hsame.running hrunning).1 (hsame.armed ▸ harmed')
  | sent hlocation =>
    have hsending : s.location.sending = true := by
      obtain hlocation | hlocation := hlocation <;> rw [hlocation] <;> rfl
    have hpending := hids.sending hsending
    have hnonzero : s.pending_keep_alive ≠ 0 := by
      rw [hpending]
      exact hids.positive.ne'
    refine ⟨hnonzero, ?_⟩
    change s.pending_keep_alive ∈ unanswered (s.log ++ [.Wrote none (.KeepAlive s.keep_alive_id)])
    rw [unanswered_sent (hids.fresh hsending)]
    exact List.mem_append_right _ (List.mem_singleton.mpr hpending)
  | ticked hlocation hpending hstate =>
    have hopen := h (by rw [hlocation]; rfl) harmed'
    exact absurd hpending hopen.1
  | answered hlocation hpending hid hpending' hvalid hsnapshots hsession hsending harmed hquiet hlog =>
    obtain hended | hdisarmed := harmed
    · rw [hended] at hrunning
      cases hrunning
    · rw [hdisarmed] at harmed'
      cases harmed'
  | @barrier_answered _ input frame _ _ hlocation hkind haccepted hid haccepted' =>
    have hopen := h (by rw [hlocation]; rfl) harmed'
    change s.timeout_armed = true at harmed'
    have hother : s.pending_keep_alive ≠ input.keep_alive_id := by
      intro hsame
      simp [answersInLimbo, hlocation, hkind, harmed', hsame] at hallowed
    refine ⟨hopen.1, ?_⟩
    rw [unanswered_answered, List.mem_filter]
    exact ⟨hopen.2, by simpa using hother⟩
  | forgotten hforgets hlocation hlocation' hid hpending harmed hvalid hsnapshots hsession hlog =>
    rw [harmed] at harmed'
    cases harmed'
  | snapshotted hlocation hlocation' hid hpending harmed hvalid hsnapshots hsession hlog =>
    rw [hpending, hlog]
    exact h (by rw [hlocation]; rfl) (harmed ▸ harmed')
  | begun hbegins hids hlocation' hid hpending harmed hvalid hsnapshots haccepted hlog =>
    rw [hpending, hlog, Quiet.unanswered_append (by simp [keepAliveSent, keepAliveAnswered])]
    exact h (hlocation' ▸ hrunning) (harmed ▸ harmed')

end Step

/-- The moves that bring a session from its start to its first select, with the
first keepalive written. -/
def joinMoves : List Move :=
  List.replicate 7 (.Session (.Proceed true)) ++
    [.Session (.Frame (.ok [0x00, 0x01])), .Session (.Proceed true)]

/-- A caller's request is accepted and its `Prepare` begins the transfer. -/
def beginMoves : List Move :=
  [.Session (.AdmitCalled true), .Session (.AdmitSent 0), .Session .Admission,
    .Session (.Prepare 0 (.ok []))]

/-- The answer to a keepalive with a small identifier. -/
def keepAliveFrame (id : UInt8) : Bytes := [0x15, 0, 0, 0, 0, 0, 0, 0, id]

/-- A server with a backend and a queue, and without a hook. -/
def sampleConfig : Config where
  transfer_coordinator := some { configured := true, max_pending_commands := 8 }
  admission_queue := true
  challenge_hook := false

/-- The identifier of the sample sessions. -/
def sampleUUID : UUID := ⟨List.replicate 16 0, rfl⟩

/-- A session that has just come to Limbo, with an empty queue. -/
def sampleWorld : World where
  queue := .new 0
  limbo := start 0 sampleUUID none

end Limbo

open Limbo

/-- In every run in which the barrier consumes no answer to the keepalive whose
timeout is armed, the timeout is armed only while that keepalive is
unanswered, and the loop ends by timeout only for an unanswered one. -/
theorem keep_alive_timeout_sound {cfg : Config} {queue : AdmissionQueue} {conn : Conn} {uuid : UUID}
    {required : Option Int} {moves : List Move} {w : World}
    (run : SessionRuns cfg answersInLimbo { queue, limbo := start conn uuid required } moves w) :
    (w.limbo.location.ended = false → w.limbo.timeout_armed = true →
      w.limbo.pending_keep_alive ∈ unanswered w.limbo.log) ∧
    ∀ w', w.step cfg (.Session .Timeout) = some w' →
      ∃ id, w'.limbo.location = .CancelItem (.KeepAliveTimedOut id) ∧ id ∈ unanswered w'.limbo.log := by
  obtain ⟨_, harmed⟩ : w.limbo.Identifiers ∧ w.limbo.Armed := by
    apply World.limbo_invariant (fun s => s.Identifiers ∧ s.Armed) run
    · exact ⟨start_identifiers conn uuid required, nofun⟩
    · intro q a q' s s' h hpermitted heffect
      exact ⟨effect_identifiers h.1 heffect, effect_armed h.1 h.2 hpermitted heffect⟩
  refine ⟨fun hrunning htimer => (harmed hrunning htimer).2, ?_⟩
  intro w' htimeout
  simp only [World.step, step, Option.map_eq_some_iff, Option.ite_none_right_eq_some,
    Option.some.injEq] at htimeout
  obtain ⟨_, ⟨⟨hlocation, htimer⟩, rfl⟩, rfl⟩ := htimeout
  exact ⟨w.limbo.pending_keep_alive, rfl, (harmed (by rw [hlocation]; rfl) htimer).2⟩

/-- The first keepalive times out while the transfer waits at the backend. -/
theorem keep_alive_timeout_sound_unanswered :
    ∃ w, SessionRuns sampleConfig answersInLimbo sampleWorld (joinMoves ++ beginMoves) w ∧
      w.limbo.timeout_armed = true ∧ w.limbo.pending_keep_alive ∈ unanswered w.limbo.log := by
  obtain ⟨w, run, hobserved⟩ : ∃ w,
      SessionRuns sampleConfig answersInLimbo sampleWorld (joinMoves ++ beginMoves) w ∧
        (!w.limbo.location.ended && w.limbo.timeout_armed) = true :=
    Runs.of_exec (fun _ _ hok => hok) _ (by decide +kernel)
  rw [Bool.and_eq_true_iff, Bool.not_eq_true'] at hobserved
  exact ⟨w, run, hobserved.2, (keep_alive_timeout_sound run).1 hobserved.1 hobserved.2⟩

/-- The barrier consumes the answer to the first keepalive and leaves the timer
armed; when it fires, the loop blames the client for the answered keepalive. -/
theorem timeout_for_answer_at_barrier :
    ∃ w, Reaches (World.step sampleConfig) sampleWorld
        (joinMoves ++ beginMoves ++
          [.Session (.Frame (.ok (keepAliveFrame 1))), .Session (.Proceed true), .Session (.Proceed true),
            .Session (.Proceed true), .Session .Timeout]) w ∧
      w.limbo.location = .CancelItem (.KeepAliveTimedOut 1) ∧ Event.KeepAliveAnswered 1 ∈ w.limbo.log ∧
      unanswered w.limbo.log = [] := by
  have hreached : ∃ w, Reaches (World.step sampleConfig) sampleWorld
      (joinMoves ++ beginMoves ++
        [.Session (.Frame (.ok (keepAliveFrame 1))), .Session (.Proceed true), .Session (.Proceed true),
          .Session (.Proceed true), .Session .Timeout]) w ∧
      decide (w.limbo.location = .CancelItem (.KeepAliveTimedOut 1) ∧
        Event.KeepAliveAnswered 1 ∈ w.limbo.log ∧ unanswered w.limbo.log = []) = true :=
    Reaches.of_exec _ (by decide +kernel)
  obtain ⟨w, run, hobserved⟩ := hreached
  exact ⟨w, run, of_decide_eq_true hobserved⟩

end regiongate.server
