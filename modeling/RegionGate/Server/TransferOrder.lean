import RegionGate.Server.KeepAliveTimeout
import RegionGate.Server.TransferStage

open regiongate.session regiongate.transfer execution

namespace regiongate.server

/-- What the backend side of a transfer has to do before the client's. -/
def backendScript (k : Nat) (packets : List Bytes) : List Event :=
  [.LoginCompleted k, .ConfigurationCompleted k packets]

/-- Up to Start Configuration. -/
def startScript (k : Nat) (packets : List Bytes) : List Event :=
  backendScript k packets ++ [.Wrote (some k) .StartConfiguration]

/-- Up to the client's acknowledgement of it. -/
def acknowledgedScript (k : Nat) (packets : List Bytes) : List Event :=
  startScript k packets ++ [.ConfigurationAcknowledged]

/-- The client has been sent some of the buffered configuration packets. -/
def writingScript (k : Nat) (packets written : List Bytes) : List Event :=
  acknowledgedScript k packets ++ written.map fun packet => .Wrote (some k) (.Configuration packet)

/-- Up to Finish Configuration, all packets written. -/
def finishedScript (k : Nat) (packets : List Bytes) : List Event :=
  writingScript k packets packets ++ [.Wrote (some k) .FinishConfiguration]

/-- Everything a transfer has to do before its release, in order. -/
def releaseScript (k : Nat) (packets : List Bytes) : List Event :=
  finishedScript k packets ++ [.FinishAcknowledged]

/-- What has been done at each stage of the client's configuration. -/
inductive Script (k : Nat) (packets : List Bytes) : Stage → List Event → Prop where
  | prepared : Script k packets .Prepared (backendScript k packets)
  | started : Script k packets .Started (startScript k packets)
  | acknowledged : Script k packets .Acknowledged (acknowledgedScript k packets)
  | writing {written rest : List Bytes} (h : packets = written ++ rest) :
    Script k packets (.Writing rest) (writingScript k packets written)
  | finished : Script k packets .Finished (finishedScript k packets)
  | complete : Script k packets .Complete (releaseScript k packets)

/-- The script keeps up with the stages. -/
theorem StageStep.script {k : Nat} {packets : List Bytes} {stage stage' : Stage} {events script : List Event}
    (hstep : StageStep k packets stage events stage') (h : Script k packets stage script) :
    ∃ script', Script k packets stage' script' ∧ script'.Sublist (script ++ events) := by
  cases hstep with
  | stay => exact ⟨script, h, List.sublist_append_left _ _⟩
  | start =>
    cases h
    exact ⟨_, .started, List.Sublist.refl _⟩
  | acknowledge =>
    cases h
    exact ⟨_, .acknowledged, List.Sublist.refl _⟩
  | check =>
    cases h
    exact ⟨_, .writing (List.nil_append _).symm, List.Sublist.refl _⟩
  | @packet packet rest =>
    cases h with
    | @writing written _ hpackets =>
      refine ⟨writingScript k packets (written ++ [packet]), .writing (by simp [hpackets]), ?_⟩
      simp [writingScript]
  | finish =>
    cases h with
    | writing hpackets =>
      rw [List.append_nil] at hpackets
      subst hpackets
      exact ⟨_, .finished, List.Sublist.refl _⟩
  | complete =>
    cases h
    exact ⟨_, .complete, List.Sublist.refl _⟩

/-- Every release comes after the whole script of its transfer. -/
def ReleasesInOrder (log : List Event) : Prop :=
  Every (fun before event => ∀ k, event = .Released k →
    ∃ packets, Since (.TransferBegun k) (releaseScript k packets) before) log

theorem ReleasesInOrder.append {log events : List Event} (h : ReleasesInOrder log)
    (hevents : ∀ k, .Released k ∉ events) : ReleasesInOrder (log ++ events) := by
  refine Every.append h ?_
  rintro _ e he k rfl
  exact absurd he (hevents k)

/-- What an attempt has done at its backend. -/
def Attempt.script (attempt : Attempt) (k : Nat) : Option (List Event) :=
  match attempt.location with
  | .Begun | .Dialing | .LoggingIn => some []
  | .LoggedIn | .Configuring => some [.LoginCompleted k]
  | .Configured packets => some (backendScript k packets)
  | _ => attempt.prepared.map fun p => backendScript k p.packets

/-- A transfer that was handed out has all the events of the backend behind it. -/
theorem Attempt.script_of_idle {attempt : Attempt} {k : Nat} {p : Prepared}
    (hidle : attempt.location.working = false) (hopen : attempt.prepared = some p) :
    attempt.script k = some (backendScript k p.packets) := by
  unfold script
  cases hlocation : attempt.location with
  | Start | Outcome | Done | RollingBack => simp [hopen]
  | _ =>
    rw [hlocation] at hidle
    cases hidle

namespace Limbo

/-- Every attempt has done its backend script since it began its transfer. -/
structure Scripted (s : Limbo) : Prop where
  attempts : ∀ {k : Nat} {attempt : Attempt} {script : List Event}, s.attempts[k]? = some attempt →
    attempt.script k = some script → Since (.TransferBegun k) script s.log
  released : ReleasesInOrder s.log

section Step

variable {cfg : Config} {q q' : AdmissionQueue} {s s' : Limbo} {a : Action} {k : Nat}
  {attempt : Attempt} {events : List Event}

/-- A step that touches no attempt. -/
theorem Scripted.kept (h : s.Scripted) (hattempts : s'.attempts = s.attempts)
    (hlog : s'.log = s.log ++ events) (hevents : ∀ k, .Released k ∉ events) : s'.Scripted := by
  refine ⟨?_, ?_⟩
  · intro k attempt script hattempt hscript
    rw [hlog]
    exact (h.attempts (hattempts ▸ hattempt) hscript).append
  · rw [hlog]
    exact h.released.append hevents

/-- A step that changes one attempt. -/
theorem Scripted.replaced {new : Attempt} (h : s.Scripted) (hk : s'.attempts[k]? = some new)
    (hne : ∀ i, i ≠ k → s'.attempts[i]? = s.attempts[i]?) (hlog : s'.log = s.log ++ events)
    (hreleased : ReleasesInOrder (s.log ++ events))
    (hnew : ∀ script, new.script k = some script → Since (.TransferBegun k) script (s.log ++ events)) :
    s'.Scripted := by
  refine ⟨?_, ?_⟩
  · intro i x script hx hscript
    rw [hlog]
    by_cases hik : i = k
    · subst hik
      rw [hk, Option.some.injEq] at hx
      subst hx
      exact hnew script hscript
    · rw [hne i hik] at hx
      exact (h.attempts hx hscript).append
  · rw [hlog]
    exact hreleased

/-- A call of `Prepare` that goes on, with the events that it adds. -/
theorem Scripted.moved {location : PrepareLocation} (h : s.Scripted)
    (hattempt : s.attempts[k]? = some attempt)
    (hattempts : s'.attempts = (s.moveAttempt k location).attempts) (hlog : s'.log = s.log ++ events)
    (hevents : ∀ k, .Released k ∉ events)
    (hnew : ∀ script, ({ attempt with location } : Attempt).script k = some script →
      Since (.TransferBegun k) script (s.log ++ events)) : s'.Scripted := by
  have hk : s'.attempts[k]? = some { attempt with location } := by
    rw [hattempts]
    exact attempts_moveAttempt location hattempt
  refine h.replaced hk ?_ hlog (h.released.append hevents) hnew
  intro i hi
  rw [hattempts]
  exact attempts_moveAttempt_ne location hi

/-- An attempt moves on with nothing new to show. -/
theorem Scripted.relabeled {location : PrepareLocation} (h : s.Scripted)
    (hattempt : s.attempts[k]? = some attempt)
    (hattempts : s'.attempts = (s.moveAttempt k location).attempts) (hlog : s'.log = s.log)
    (hsame : ({ attempt with location } : Attempt).script k = attempt.script k) : s'.Scripted := by
  refine h.moved hattempt hattempts (hlog.trans (List.append_nil _).symm) (by simp) ?_
  intro script hscript
  exact (h.attempts hattempt (hsame ▸ hscript)).append

/-- A prepared transfer ends, which leaves its packets as they are. -/
theorem Scripted.closed {p p' : Prepared} {location : PrepareLocation} (h : s.Scripted)
    (hattempt : s.attempts[k]? = some attempt) (hopen : attempt.prepared = some p)
    (hpackets : p'.packets = p.packets)
    (hlocation : location = attempt.location ∨ ∃ err, attempt.location = .Outcome err ∧ location = .Done)
    (hk : s'.attempts[k]? = some { attempt with location, prepared := some p' })
    (hne : ∀ i, i ≠ k → s'.attempts[i]? = s.attempts[i]?) (hlog : s'.log = s.log) : s'.Scripted := by
  have hsame : ({ attempt with location, prepared := some p' } : Attempt).script k = attempt.script k := by
    obtain rfl | ⟨err, houtcome, rfl⟩ := hlocation
    · simp [Attempt.script, hopen, hpackets]
    · simp [Attempt.script, hopen, hpackets, houtcome]
  refine h.replaced hk hne (hlog.trans (List.append_nil _).symm) (h.released.append (by simp)) ?_
  intro script hscript
  exact (h.attempts hattempt (hsame ▸ hscript)).append

theorem callEvents_unreleased (call : BarrierCall) (k : Nat) : .Released k ∉ callEvents call := by
  cases call with
  | Advance phase =>
    by_cases hphase : phase = BarrierClientConfiguration <;> simp [callEvents, hphase]
  | Input input =>
    by_cases hkind : input.kind = .KeepAlive <;> simp [callEvents, hkind]
  | Done => simp [callEvents]

/-- What a step leaves of the scripts. A release needs the script of its own
transfer to be complete. -/
theorem effect_scripted (howner : s.Owner) (h : s.Scripted)
    (hcomplete : ∀ {k p b}, s.location = .Releasing → s.Held k p b → b.phase = BarrierReady →
      Since (.TransferBegun k) (releaseScript k p.packets) s.log)
    (heffect : Effect cfg q s a q' s') : s'.Scripted := by
  cases heffect with
  | failed | idle | join_sent | teleported | ticked | timed_out | status_due | unplaced | placed
  | barrier_frame | limbo_frame | barrier_read | progressed | progress_writes | progress_releases
  | frame_accepted | challenge_failed | admission_refused | begin_checked | begin_refused
  | begin_rechecked | write_checked | write_finished | replayed | item_cancelled | context_cancelled
  | untracked | admit_called | admit_sent | admit_received | admit_cancelled | caller_cancelled =>
    exact h.kept rfl (List.append_nil _).symm (by simp)
  | join_packet | keep_alive_sent | action_bar_sent | frame_malformed | barrier_inactive
  | barrier_refused | call_refused | answer_refused | answered | frame_refused | challenge_unqueued
  | challenge_passed | start_sent | packet_sent | finish_sent | relayed =>
    exact h.kept rfl rfl (by simp)
  | answered_enqueued | challenge_enqueued => exact h.kept rfl (List.append_assoc _ _ _) (by simp)
  | answer_unqueued _ _ _ _ hnext =>
    obtain rfl | rfl := hnext <;> exact h.kept rfl (List.append_assoc _ _ _) (by simp)
  | @called _ call => exact h.kept rfl rfl (callEvents_unreleased call)
  | transfer_lost | admitted =>
    obtain ⟨_, heq⟩ | ⟨request, _, heq⟩ := respond_cases _ _ _ <;> rw [heq]
    all_goals exact h.kept rfl (List.append_nil _).symm (by simp)
  | admission_accepted =>
    refine ⟨?_, h.released⟩
    intro k attempt script hattempt hscript
    rw [List.getElem?_append] at hattempt
    split at hattempt
    · exact h.attempts hattempt hscript
    · rw [List.mem_singleton.mp (List.mem_of_getElem? hattempt)] at hscript
      cases hscript
  | prepare_failed hlocation hresult hattempt houtcome =>
    obtain ⟨_, heq⟩ | ⟨request, _, heq⟩ := respond_cases _ _ _ <;> rw [heq]
    all_goals exact h.relabeled hattempt rfl rfl (by simp [Attempt.script, houtcome])
  | prepare_succeeded hlocation hresult hattempt houtcome =>
    exact h.relabeled hattempt rfl rfl (by simp [Attempt.script, houtcome])
  | outcome_dropped hattempt hpoint | prepare_refused hattempt hpoint | rolled_back hattempt hpoint
  | login_phase hattempt hpoint | dialed hattempt hpoint | configuration_phase hattempt hpoint =>
    exact h.relabeled hattempt rfl rfl (by simp [Attempt.script, hpoint])
  | begin_undone hlocation hprepared hattempt hopen =>
    obtain ⟨_, heq⟩ | ⟨request, _, heq⟩ := respond_cases _ _ _ <;> rw [heq]
    all_goals
      exact h.closed hattempt hopen (Prepared.rollback_packets _ _) (.inl rfl) (attempts_setPrepared _ hattempt)
        (fun i hi => attempts_setPrepared_ne _ hi) rfl
  | barrier_timed_out hattempt hopen =>
    exact h.closed hattempt hopen (Prepared.timeout_packets _ _) (.inl rfl) (attempts_setPrepared _ hattempt)
      (fun i hi => attempts_setPrepared_ne _ hi) rfl
  | transfer_dropped hattempt houtcome hopen =>
    refine h.closed hattempt hopen (Prepared.rollback_packets _ _) (.inr ⟨_, houtcome, rfl⟩)
      (attempts_setPrepared _ (attempts_moveAttempt _ hattempt)) ?_ rfl
    intro i hi
    exact (attempts_setPrepared_ne _ hi).trans (attempts_moveAttempt_ne _ hi)
  | transfer_begun hattempt hstart =>
    refine h.moved hattempt rfl rfl (by simp) ?_
    intro script hscript
    cases hscript
    exact since_mark
  | prepare_aborted hattempt hworking =>
    refine h.moved hattempt rfl (List.append_nil _).symm (by simp) ?_
    intro script hscript
    have hnone := (howner.sound hattempt).unprepared (.inl hworking)
    simp [Attempt.script, hnone] at hscript
  | @logged_in k attempt _ hattempt hpoint =>
    refine h.moved hattempt rfl rfl (by simp) ?_
    intro script hscript
    cases hscript
    have hbefore : attempt.script k = some [] := by rw [Attempt.script, hpoint]
    exact (h.attempts hattempt hbefore).extend (List.Sublist.refl _)
  | @configured k attempt packets hattempt hpoint =>
    refine h.moved hattempt rfl rfl (by simp) ?_
    intro script hscript
    cases hscript
    have hbefore : attempt.script k = some [.LoginCompleted k] := by rw [Attempt.script, hpoint]
    exact (h.attempts hattempt hbefore).extend (List.Sublist.refl _)
  | @prepared k attempt _ packets _ hattempt hpoint =>
    refine h.replaced (attempts_setPrepared _ (attempts_moveAttempt _ hattempt)) ?_ (List.append_nil _).symm
      (h.released.append (by simp)) ?_
    · intro i hi
      exact (attempts_setPrepared_ne _ hi).trans (attempts_moveAttempt_ne _ hi)
    · intro script hscript
      cases hscript
      have hbefore : attempt.script k = some (backendScript k packets) := by rw [Attempt.script, hpoint]
      exact (h.attempts hattempt hbefore).append
  | @released _ k attempt p p' _ _ _ _ hlocation hprepared hattempt hopen hrelease =>
    obtain ⟨hopened, _, _, rfl, hsession⟩ := Prepared.release_eq_ok.mp hrelease
    obtain ⟨b, hactive, hphase, _, rfl⟩ := Session.release_transfer_eq_ok.mp hsession
    have hscript := hcomplete hlocation ⟨hprepared, ⟨attempt, hattempt, hopen⟩, hopened, hactive⟩ hphase
    refine h.replaced (attempts_setPrepared _ hattempt) (fun i hi => attempts_setPrepared_ne _ hi) rfl ?_ ?_
    · refine every_snoc.mpr ⟨h.released, ?_⟩
      rintro _ ⟨⟩
      exact ⟨p.packets, hscript⟩
    · intro script hnew
      have hsame : attempt.script k = some script := by
        rw [← hnew]
        simp [Attempt.script, hopen]
      exact (h.attempts hattempt hsame).append

/-- The order of a session's transfers: what the attempts and the transfer that
the loop holds have done so far. -/
structure Ordered (s : Limbo) : Prop where
  joins : s.Joins
  owner : s.Owner
  scripted : s.Scripted
  held : s.location.ended = false → ∀ {k : Nat} {p : Prepared} {b : BarrierState}, s.Held k p b →
    ∃ script, Script k p.packets (stage s.location b.phase) script ∧ Since (.TransferBegun k) script s.log

/-- A transfer that is about to be released has its whole script behind it. -/
theorem Ordered.complete (h : s.Ordered) {p : Prepared} {b : BarrierState} (hlocation : s.location = .Releasing)
    (hheld : s.Held k p b) (hphase : b.phase = BarrierReady) :
    Since (.TransferBegun k) (releaseScript k p.packets) s.log := by
  obtain ⟨script, hscript, hsince⟩ := h.held (by rw [hlocation]; rfl) hheld
  rw [hlocation, hphase] at hscript
  cases hscript
  exact hsince

theorem effect_ordered (h : s.Ordered) (heffect : Effect cfg q s a q' s') : s'.Ordered := by
  refine ⟨effect_joins h.joins heffect, effect_owner h.owner heffect,
    effect_scripted h.owner h.scripted h.complete heffect, ?_⟩
  intro hrunning k p b hheld
  cases held_effect h.joins h.owner heffect hrunning hheld with
  | taken hlocation' hlog hnew hattempt hopen =>
    rw [hlocation', hlog]
    have hidle := (h.owner.prepared_idle hattempt hopen).1
    exact ⟨_, .prepared, h.scripted.attempts hattempt (Attempt.script_of_idle hidle hopen)⟩
  | refused hlocation hlocation' hlog hbefore hcheck =>
    rw [hlocation', hlog]
    obtain ⟨attempt, hattempt, hopen⟩ := hbefore.attempt
    have hidle := (h.owner.prepared_idle hattempt hopen).1
    exact ⟨_, .prepared, h.scripted.attempts hattempt (Attempt.script_of_idle hidle hopen)⟩
  | continues hbefore hlog hstep =>
    obtain ⟨script, hscript, hsince⟩ := h.held (heffect.running hrunning) hbefore
    obtain ⟨script', hscript', hsublist⟩ := hstep.script hscript
    rw [hlog]
    exact ⟨script', hscript', hsince.extend hsublist⟩

end Step

theorem start_ordered (conn : Conn) (uuid : UUID) (required : Option Int) :
    (start conn uuid required).Ordered := by
  refine ⟨start_joins conn uuid required, start_owner conn uuid required, ⟨nofun, every_nil⟩, ?_⟩
  intro _ k p b hheld
  cases hheld.prepared

/-- `Prepare` after it has begun its transfer, up to its outcome. -/
def prepareMoves (packets : List Bytes) : List Move :=
  List.replicate 6 (.Session (.Prepare 0 (.ok packets)))

/-- The loop takes the prepared transfer and writes Start Configuration. -/
def startMoves : List Move :=
  .Session .PrepareResult :: List.replicate 3 (.Session (.Proceed true))

/-- The frame of Configuration Acknowledged. -/
def configurationAcknowledged : Bytes := [0x0b]

/-- A client frame at the barrier, up to the loop's next select or write. -/
def barrierFrameMoves (frame : Bytes) : List Move :=
  .Session (.Frame (.ok frame)) :: List.replicate 3 (.Session (.Proceed true))

end Limbo

open Limbo

/-- In every run a released transfer has, since it began and in this order,
logged in to the backend, completed the backend configuration, written Start
Configuration, processed the client's acknowledgement, written every buffered
packet and Finish Configuration and processed the client's acknowledgement of
that. For the transfer that the loop holds the barrier's phase is never ahead
of this script once `BeginClientConfiguration` has written its packet. -/
theorem releases_in_order {cfg : Config} {queue : AdmissionQueue} {conn : Conn} {uuid : UUID}
    {required : Option Int} {moves : List Move} {w : World}
    (run : Reaches (World.step cfg) { queue, limbo := start conn uuid required } moves w) :
    ReleasesInOrder w.limbo.log ∧
      (w.limbo.location.ended = false → ∀ k p b, w.limbo.Held k p b →
        ∃ script, Script k p.packets (stage w.limbo.location b.phase) script ∧
          Since (.TransferBegun k) script w.limbo.log) := by
  have hordered : w.limbo.Ordered :=
    World.limbo_invariant Ordered (.of_reaches run) (start_ordered conn uuid required)
      fun h _ heffect => effect_ordered h heffect
  exact ⟨hordered.scripted.released, fun hrunning k p b hheld => hordered.held hrunning hheld⟩

/-- A transfer with one buffered packet, up to its release. -/
def releaseMoves : List Move :=
  joinMoves ++ beginMoves ++ prepareMoves [[0x07]] ++ startMoves ++
    barrierFrameMoves configurationAcknowledged ++ List.replicate 4 (.Session (.Proceed true)) ++
    barrierFrameMoves configuration.finish_acknowledged_payload ++ [.Session (.Proceed true)]

/-- A whole transfer with one configuration packet. -/
theorem releases_in_order_one_packet :
    ∃ w, Reaches (World.step sampleConfig) sampleWorld releaseMoves w ∧ .Released 0 ∈ w.limbo.log ∧
      ReleasesInOrder w.limbo.log := by
  obtain ⟨w, run, hobserved⟩ : ∃ w, Reaches (World.step sampleConfig) sampleWorld releaseMoves w ∧
      decide (.Released 0 ∈ w.limbo.log) = true :=
    Reaches.of_exec _ (by decide +kernel)
  exact ⟨w, run, of_decide_eq_true hobserved, (releases_in_order run).1⟩

/-- The client acknowledges before the loop has taken the prepared transfer: the
barrier is at `BarrierClientConfiguration` and no Start Configuration has
been written. -/
theorem early_acknowledgement_advances :
    ∃ w, Reaches (World.step sampleConfig) sampleWorld
        (joinMoves ++ beginMoves ++ prepareMoves [] ++ barrierFrameMoves configurationAcknowledged) w ∧
      w.limbo.session.barrier_phase = .ok BarrierClientConfiguration ∧
      .ConfigurationAcknowledged ∈ w.limbo.log ∧ .Wrote (some 0) .StartConfiguration ∉ w.limbo.log := by
  obtain ⟨w, run, hobserved⟩ : ∃ w, Reaches (World.step sampleConfig) sampleWorld
        (joinMoves ++ beginMoves ++ prepareMoves [] ++ barrierFrameMoves configurationAcknowledged) w ∧
      decide (w.limbo.session.barrier_phase = .ok BarrierClientConfiguration ∧
        .ConfigurationAcknowledged ∈ w.limbo.log ∧ .Wrote (some 0) .StartConfiguration ∉ w.limbo.log) = true :=
    Reaches.of_exec _ (by decide +kernel)
  exact ⟨w, run, of_decide_eq_true hobserved⟩

end regiongate.server
