import Mathlib.Algebra.BigOperators.Group.List.Basic
import Mathlib.Algebra.GroupWithZero.Nat
import RegionGate.Server.BackendConnections

open regiongate.session regiongate.transfer execution

namespace regiongate.server

/-- Where the loop is in a method of the prepared transfer, or hands it over. -/
def Location.transferring : Location → Bool
  | .BeginCheck | .BeginWrite | .BeginRecheck | .BeginFailed _ | .WriteCheck | .WritePackets _ | .WriteFinish
  | .Releasing | .Replaying _ | .Answering | .Bridge => true
  | _ => false

/-- Where the next write of the loop goes to the backend. -/
def Location.replaying : Location → Bool
  | .Replaying _ => true
  | _ => false

/-- How many steps the loop has left at most once its client is gone. -/
def Location.distance : Location → Nat
  | .BarrierFrame _ _ => 10
  | .BarrierCall _ _ => 9
  | .Progress | .BeginCheck => 8
  | .BeginWrite | .WriteCheck | .Releasing => 7
  | .StatusPosition | .BeginRecheck | .WritePackets _ | .Replaying _ => 6
  | .Joining _ | .LimboFrame _ _ | .ActionBarWrite _ | .BeginFailed _ | .WriteFinish | .Answering => 5
  | .AwaitingTeleport | .FirstKeepAlive | .Select | .TickWrite | .Bridge | .Blocked => 4
  | .CancelItem _ => 3
  | .CancelContext _ => 2
  | .Untrack _ => 1
  | .Closed _ => 0

theorem Location.distance_of_running {location : Location} (h : location.ended = false) :
    3 < location.distance := by
  cases location <;> simp_all [distance, ended]

/-- What the backend does: the outcome of the exchange at which an attempt stands,
and whether it takes the replay. -/
structure BackendAnswers where
  exchange : Nat → PrepareLocation → Except Error (List Bytes)
  replay : Bool

namespace Limbo

/-- The steps of a session whose client is gone: every write to the client fails
and so does the next read. The backend does as `answers` has it. -/
def departed (answers : BackendAnswers) (s : Limbo) : Action → Prop
  | .Proceed written => written = (s.location.replaying && answers.replay)
  | .Frame frame => frame = .error .Read
  | .Prepare k outcome => ∀ attempt, s.attempts[k]? = some attempt → outcome = answers.exchange k attempt.location
  | .PrepareDropped _ | .BarrierTimeout _ => True
  | _ => False

/-- The steps that the loop and the calls of `Prepare` have left. -/
def distance (s : Limbo) : Nat := s.location.distance + (s.attempts.map Attempt.distance).sum

/-- Nothing of the session is left: it is untracked and its context cancelled, no
goroutine of `prepareTransfer` runs and every prepared transfer is finalized,
with its backend connection closed or given away. -/
structure Gone (s : Limbo) : Prop where
  closed : ∃ e, s.location = .Closed e
  untracked : s.tracked = false
  cancelled : s.queue_done = true
  attempts : ∀ attempt ∈ s.attempts, attempt.location = .Done ∧
    ∀ p, attempt.prepared = some p → p.finalized = true ∧ p.done_closed = true ∧ p.backend = none

/-- What the loop relies on where it stands. -/
structure Standing (s : Limbo) : Prop where
  unblocked : s.location ≠ .Blocked
  holds : s.location.transferring = true → s.prepared.isSome = true
  cancelled : ∀ e, s.location = .Untrack e → s.queue_done = true
  closed : ∀ e, s.location = .Closed e → s.queue_done = true ∧ s.tracked = false

section Step

variable {cfg : Config} {q q' : AdmissionQueue} {s s' : Limbo} {a : Action}

/-- The loop goes to a place where it relies on nothing. -/
theorem Standing.elsewhere (hunblocked : s'.location ≠ .Blocked) (hidle : s'.location.transferring = false)
    (huntrack : ∀ e, s'.location ≠ .Untrack e) (hclosed : ∀ e, s'.location ≠ .Closed e) : s'.Standing := by
  refine ⟨hunblocked, ?_, ?_, ?_⟩
  · intro h
    rw [hidle] at h
    cases h
  · intro e h
    exact absurd h (huntrack e)
  · intro e h
    exact absurd h (hclosed e)

theorem Standing.kept (h : s.Standing) (hlocation : s'.location = s.location) (hprepared : s'.prepared = s.prepared)
    (hdone : s'.queue_done = s.queue_done) (htracked : s'.tracked = s.tracked) : s'.Standing := by
  obtain ⟨hunblocked, hholds, hcancelled, hclosed⟩ := h
  refine ⟨?_, ?_, ?_, ?_⟩ <;> rw [hlocation]
  · exact hunblocked
  · exact hprepared ▸ hholds
  · exact hdone ▸ hcancelled
  · rw [hdone, htracked]
    exact hclosed

/-- The loop goes to a place inside a method of the transfer that it holds. -/
theorem Standing.inside (hlocation : s'.location.transferring = true) (hprepared : s'.prepared.isSome = true) :
    s'.Standing := by
  refine ⟨?_, fun _ => hprepared, ?_, ?_⟩
  · intro h
    rw [h] at hlocation
    cases hlocation
  all_goals
    intro e h
    rw [h] at hlocation
    cases hlocation

/-- One step: the loop finds what it relies on where it stands. -/
theorem effect_standing (hrequests : s.Requests) (h : s.Standing) (heffect : Effect cfg q s a q' s') :
    s'.Standing := by
  cases heffect with
  | idle | challenge_passed | challenge_enqueued | admission_refused | admission_accepted | prepare_refused
  | transfer_begun | prepare_aborted | login_phase | dialed | logged_in | configuration_phase | configured
  | prepared | rolled_back | outcome_dropped | transfer_dropped | barrier_timed_out | admit_called | admit_sent
  | admit_received | admit_cancelled | caller_cancelled => exact h.kept rfl rfl rfl rfl
  | prepare_succeeded => exact .inside rfl rfl
  | progress_writes _ hprepared | progress_releases _ hprepared | begin_checked _ hprepared
  | start_sent _ hprepared | write_checked _ hprepared | packet_sent _ hprepared | finish_sent _ hprepared
  | released _ hprepared | relayed _ hprepared => exact .inside rfl (Option.isSome_iff_exists.mpr ⟨_, hprepared⟩)
  | replayed hlocation => exact .inside rfl (h.holds (by rw [hlocation]; rfl))
  | begin_refused hlocation =>
    refine .inside rfl (h.holds ?_)
    obtain hlocation | hlocation | hlocation := hlocation <;> rw [hlocation] <;> rfl
  | admitted hlocation hprepared =>
    obtain ⟨hnone, heq⟩ | ⟨request, _, heq⟩ := respond_cases _ _ _ <;> rw [heq]
    · exact (hrequests.not_idle (by simp [owes, hlocation, hprepared, Location.ended]) hnone).elim
    · exact .inside rfl (Option.isSome_iff_exists.mpr ⟨_, hprepared⟩)
  | prepare_failed hlocation hresult =>
    obtain ⟨hnone, heq⟩ | ⟨request, _, heq⟩ := respond_cases _ _ _ <;> rw [heq]
    · exact (hrequests.not_idle (by simp [owes, hlocation, hresult, Location.ended]) hnone).elim
    · exact h.kept rfl rfl rfl rfl
  | transfer_lost hlocation hprepared =>
    obtain ⟨hnone, heq⟩ | ⟨request, _, heq⟩ := respond_cases _ _ _ <;> rw [heq]
    · exact (hrequests.not_idle (by simp [owes, hlocation, hprepared, Location.ended]) hnone).elim
    · refine .elsewhere ?_ ?_ ?_ ?_ <;> simp [send, hlocation, Location.transferring]
  | begin_undone hlocation hprepared =>
    obtain ⟨hnone, heq⟩ | ⟨request, _, heq⟩ := respond_cases _ _ _ <;> rw [heq]
    · exact (hrequests.not_idle (by simp [owes, hlocation, hprepared, Location.ended]) hnone).elim
    · refine .elsewhere ?_ ?_ ?_ ?_ <;> simp [send, Location.transferring]
  | context_cancelled hlocation =>
    refine ⟨by simp, by rintro ⟨⟩, fun _ _ => rfl, by simp⟩
  | untracked hlocation =>
    exact ⟨by simp, by rintro ⟨⟩, by simp, fun _ _ => ⟨h.cancelled _ hlocation, rfl⟩⟩
  | answer_unqueued _ _ _ _ hnext =>
    obtain rfl | rfl := hnext <;> refine .elsewhere ?_ ?_ ?_ ?_ <;> simp [reject, Location.transferring]
  | _ => refine .elsewhere ?_ ?_ ?_ ?_ <;> simp [fail, reject, write, Location.transferring]

theorem start_standing (conn : Conn) (uuid : UUID) (required : Option Int) : (start conn uuid required).Standing := by
  refine .elsewhere ?_ ?_ ?_ ?_ <;> simp [start, Location.transferring]

/-- What holds in every state that a session reaches. -/
structure Invariant (cfg : Config) (s : Limbo) : Prop where
  owner : s.Owner
  requests : s.Requests
  accepted : s.Accepted cfg
  standing : s.Standing

theorem start_invariant (cfg : Config) (conn : Conn) (uuid : UUID) (required : Option Int) :
    (start conn uuid required).Invariant cfg :=
  ⟨start_owner conn uuid required, start_requests conn uuid required, start_accepted cfg conn uuid required,
    start_standing conn uuid required⟩

theorem effect_invariant (h : s.Invariant cfg) (heffect : Effect cfg q s a q' s') : s'.Invariant cfg :=
  ⟨effect_owner h.owner heffect, effect_requests h.requests heffect,
    effect_accepted h.requests h.accepted heffect, effect_standing h.requests h.standing heffect⟩

/-- Where no client answers, each step of the loop brings it nearer to its end. -/
theorem proceed_nearer {written : Bool} (hwritten : written = true → s.location.replaying = true)
    (hselect : s.location ≠ .Select) (hawaiting : s.location ≠ .AwaitingTeleport)
    (heffect : Effect cfg q s (.Proceed written) q' s') : s'.location.distance < s.location.distance := by
  cases heffect with
  | failed hrunning => exact Location.distance_of_running hrunning
  | idle hlocation => exact (hlocation.elim hselect hawaiting).elim
  | join_packet hlocation | action_bar_sent hlocation | start_sent hlocation | packet_sent hlocation
  | finish_sent hlocation =>
    rw [hlocation] at hwritten
    cases hwritten rfl
  | keep_alive_sent hlocation =>
    obtain hlocation | hlocation := hlocation <;> rw [hlocation] at hwritten <;> cases hwritten rfl
  | begin_refused hlocation =>
    obtain hlocation | hlocation | hlocation := hlocation <;> simp [hlocation, Location.distance]
  | begin_undone hlocation | admitted hlocation =>
    rw [hlocation]
    obtain hnext | hnext := respond_location _ _ _ <;> rw [hnext] <;> simp [Location.distance]
  | answer_unqueued hlocation _ _ _ hnext =>
    obtain rfl | rfl := hnext <;> simp [reject, hlocation, Location.distance]
  | join_sent hlocation | unplaced hlocation | placed hlocation | barrier_inactive hlocation
  | barrier_refused hlocation | barrier_read hlocation | call_refused hlocation | called hlocation
  | progressed hlocation | progress_writes hlocation | progress_releases hlocation | answer_refused hlocation
  | answered hlocation | answered_enqueued hlocation | frame_accepted hlocation | frame_refused hlocation
  | begin_checked hlocation | begin_rechecked hlocation | write_checked hlocation | write_finished hlocation
  | released hlocation | replayed hlocation | item_cancelled hlocation | context_cancelled hlocation
  | untracked hlocation =>
    simp [hlocation, reject, Location.distance]

/-- A sum over a list of which one element is replaced. -/
theorem sum_modify {α : Type} {l : List α} {k : Nat} {x : α} (measure : α → Nat) (f : α → α)
    (h : l[k]? = some x) : ((l.modify k f).map measure).sum + measure x = (l.map measure).sum + measure (f x) := by
  induction l generalizing k with
  | nil => cases h
  | cons y l ih =>
    cases k with
    | zero =>
      obtain rfl : y = x := Option.some.inj h
      simp only [List.modify_zero_cons, List.map_cons, List.sum_cons]
      omega
    | succ k =>
      have hrest := ih h
      simp only [List.modify_succ_cons, List.map_cons, List.sum_cons]
      omega

/-- Only an accepted request adds to what is left to do. -/
theorem attempts_nearer (haction : a ≠ .Admission) (heffect : Effect cfg q s a q' s') :
    (s'.attempts.map Attempt.distance).sum ≤ (s.attempts.map Attempt.distance).sum := by
  cases attempts_effect heffect with
  | same hattempts => rw [hattempts]
  | accepted hadmission => exact absurd hadmission haction
  | @changed k attempt f hattempt hchanges hattempts =>
    have hsum := sum_modify Attempt.distance f hattempt
    have hnearer := hchanges.nearer
    rw [hattempts]
    omega

/-- An attempt that comes nearer to its end brings the session nearer to its own. -/
theorem distance_changed {k : Nat} {attempt : Attempt} {f : Attempt → Attempt}
    (hattempt : s.attempts[k]? = some attempt) (hnearer : (f attempt).distance < attempt.distance)
    (hattempts : s'.attempts = s.attempts.modify k f) (hlocation : s'.location = s.location) :
    s'.distance < s.distance := by
  have hsum := sum_modify Attempt.distance f hattempt
  unfold distance
  rw [hattempts, hlocation]
  omega

/-- A call of `Prepare` that goes on brings the session nearer to its end. -/
theorem distance_moveAttempt {k : Nat} {attempt : Attempt} {location : PrepareLocation}
    (hattempt : s.attempts[k]? = some attempt) (hnearer : location.distance < attempt.location.distance) :
    (s.moveAttempt k location).distance < s.distance :=
  distance_changed hattempt (Nat.add_lt_add_right hnearer _) rfl rfl

/-- A call of `Prepare` that runs has a next step, whatever the backend does. -/
theorem prepare_progress {k : Nat} {attempt : Attempt} (haccepted : s.Accepted cfg)
    (hattempt : s.attempts[k]? = some attempt) (hrunning : attempt.location.running = true)
    (outcome : Except Error (List Bytes)) :
    ∃ s', s.prepare cfg k attempt outcome = some s' ∧ s'.distance < s.distance := by
  have hmoved : ∀ location : PrepareLocation, location.distance < attempt.location.distance →
      (s.moveAttempt k location).distance < s.distance := fun _ => distance_moveAttempt hattempt
  unfold prepare
  cases hpoint : attempt.location with
  | Outcome | Done =>
    rw [hpoint] at hrunning
    cases hrunning
  | Start =>
    obtain ⟨coordinator, hcoordinator⟩ :=
      Option.isSome_iff_exists.mp (haccepted.coordinator (List.ne_nil_of_mem (List.mem_of_getElem? hattempt)))
    rw [hpoint] at hmoved
    dsimp only
    rw [hcoordinator]
    dsimp only
    split
    · exact ⟨_, rfl, hmoved (.Outcome _) (by simp [PrepareLocation.distance])⟩
    · split
      · exact ⟨_, rfl, hmoved (.Outcome _) (by simp [PrepareLocation.distance])⟩
      · exact ⟨_, rfl, hmoved .Begun (by simp [PrepareLocation.distance])⟩
  | Begun =>
    rw [hpoint] at hmoved
    dsimp only
    split
    · exact ⟨_, rfl, hmoved (.RollingBack _) (by simp [PrepareLocation.distance])⟩
    · exact ⟨_, rfl, hmoved .Dialing (by simp [PrepareLocation.distance])⟩
  | Dialing =>
    rw [hpoint] at hmoved
    cases outcome with
    | error e => exact ⟨_, rfl, hmoved (.RollingBack _) (by simp [PrepareLocation.distance])⟩
    | ok packets => exact ⟨_, rfl, hmoved .LoggingIn (by simp [PrepareLocation.distance])⟩
  | LoggingIn =>
    rw [hpoint] at hmoved
    cases outcome with
    | error e => exact ⟨_, rfl, hmoved (.RollingBack _) (by simp [PrepareLocation.distance])⟩
    | ok packets => exact ⟨_, rfl, hmoved .LoggedIn (by simp [PrepareLocation.distance])⟩
  | LoggedIn =>
    rw [hpoint] at hmoved
    dsimp only
    split
    · exact ⟨_, rfl, hmoved (.RollingBack _) (by simp [PrepareLocation.distance])⟩
    · exact ⟨_, rfl, hmoved .Configuring (by simp [PrepareLocation.distance])⟩
  | Configuring =>
    rw [hpoint] at hmoved
    cases outcome with
    | error e => exact ⟨_, rfl, hmoved (.RollingBack _) (by simp [PrepareLocation.distance])⟩
    | ok packets => exact ⟨_, rfl, hmoved (.Configured packets) (by simp [PrepareLocation.distance])⟩
  | Configured packets =>
    rw [hpoint] at hmoved
    dsimp only
    split
    · exact ⟨_, rfl, hmoved (.RollingBack _) (by simp [PrepareLocation.distance])⟩
    · -- The goroutine is two steps nearer, and the timer of the new transfer has one step to do.
      refine ⟨_, rfl, distance_changed hattempt ?_ (List.modify_modify_eq _ _ _ _) rfl⟩
      simp only [Function.comp_apply, Attempt.distance, hpoint, PrepareLocation.distance, Option.any_some,
        Prepared.new, Bool.not_false, if_true]
      omega
  | RollingBack e =>
    rw [hpoint] at hmoved
    exact ⟨_, rfl, hmoved (.Outcome _) (by simp [PrepareLocation.distance])⟩

/-- A goroutine of an ended session drops its outcome. -/
theorem dropped_progress {k : Nat} {attempt : Attempt} {err : Option Error} (haccepted : s.Accepted cfg)
    (hdone : s.queue_done = true) (hattempt : s.attempts[k]? = some attempt)
    (hpoint : attempt.location = .Outcome err) :
    ∃ s', s.prepare_dropped k attempt = some s' ∧ s'.distance < s.distance := by
  have hrequest := haccepted.request attempt (List.mem_of_getElem? hattempt)
  unfold prepare_dropped
  rw [hpoint, List.getElem?_eq_getElem hrequest]
  dsimp only
  rw [if_neg (by simp [hdone])]
  cases hopen : attempt.prepared with
  | none => exact ⟨_, rfl, distance_moveAttempt hattempt (by simp [hpoint, PrepareLocation.distance])⟩
  | some p =>
    refine ⟨_, rfl, distance_changed hattempt ?_ (List.modify_modify_eq _ _ _ _) rfl⟩
    simp only [Function.comp_apply, Attempt.distance, hpoint, PrepareLocation.distance, Option.any_some,
      (finalizes_rollback p s.session).finalized, Bool.not_true, Bool.false_eq_true, if_false]
    omega

/-- The timer of an open transfer ends it. -/
theorem timeout_progress {k : Nat} {attempt : Attempt} {p : Prepared} (hattempt : s.attempts[k]? = some attempt)
    (hopen : attempt.prepared = some p) (hunfinalized : p.finalized = false) :
    ∃ s', s.barrier_timeout k attempt = some s' ∧ s'.distance < s.distance := by
  have hfinal := (finalizes_timeout p s.session).finalized
  refine ⟨{ s.setPrepared k (p.timeout s.session).1 with session := (p.timeout s.session).2.1 }, ?_,
    distance_changed hattempt ?_ rfl rfl⟩
  · rw [barrier_timeout, hopen]
  · simp [Attempt.distance, hopen, hunfinalized, hfinal]

theorem Owner.current (howner : s.Owner) (h : s.prepared.isSome = true) : s.current.isSome = true := by
  obtain ⟨k, hprepared⟩ := Option.isSome_iff_exists.mp h
  obtain ⟨attempt, hattempt, _, hopen⟩ := howner.held hprepared
  simpa [Limbo.current, hprepared, hattempt] using hopen

/-- Outside its select the loop has a next step. -/
theorem proceed_isSome (howner : s.Owner) (h : s.Standing) (hselect : s.location ≠ .Select)
    (hawaiting : s.location ≠ .AwaitingTeleport) (hclosed : ∀ e, s.location ≠ .Closed e) (written : Bool) :
    (s.proceed cfg q written).isSome = true := by
  have hcurrent : s.location.transferring = true → s.current.isSome = true := fun hloc => howner.current (h.holds hloc)
  cases hlocation : s.location with
  | Select => exact absurd hlocation hselect
  | AwaitingTeleport => exact absurd hlocation hawaiting
  | Blocked => exact absurd hlocation h.unblocked
  | Closed e => exact absurd hlocation (hclosed e)
  | Joining rest => cases rest <;> simp [proceed, hlocation]
  | BarrierFrame | BarrierCall | StatusPosition =>
    simp only [proceed, hlocation]
    repeat' split
    all_goals rfl
  | FirstKeepAlive | Progress | LimboFrame | TickWrite | ActionBarWrite | CancelItem | CancelContext | Untrack =>
    simp [proceed, hlocation]
  | WritePackets rest =>
    obtain ⟨⟨k, p⟩, hcurrent⟩ := Option.isSome_iff_exists.mp (hcurrent (by rw [hlocation]; rfl))
    cases rest <;> simp only [proceed, prepared_step, hlocation, hcurrent] <;> split <;> rfl
  | _ =>
    obtain ⟨⟨k, p⟩, hcurrent⟩ := Option.isSome_iff_exists.mp (hcurrent (by rw [hlocation]; rfl))
    simp only [proceed, prepared_step, hlocation, hcurrent]
    repeat' split
    all_goals rfl

/-- A loop whose client is gone has a next step until its deferred calls have run. -/
theorem loop_progress (answers : BackendAnswers) (howner : s.Owner) (h : s.Standing)
    (hclosed : ∀ e, s.location ≠ .Closed e) :
    ∃ a q' s', s.departed answers a ∧ s.step cfg q a = some (q', s') ∧ s'.distance < s.distance := by
  by_cases hreading : s.location = .Select ∨ s.location = .AwaitingTeleport
  · refine ⟨.Frame (.error .Read), q, s.fail .Read, rfl, ?_, ?_⟩
    · obtain hlocation | hlocation := hreading <;> simp [step, client_frame, hlocation]
    · refine Nat.add_lt_add_right (Location.distance_of_running ?_) _
      obtain hlocation | hlocation := hreading <;> rw [hlocation] <;> rfl
  · obtain ⟨hselect, hawaiting⟩ := not_or.mp hreading
    obtain ⟨⟨q', s'⟩, hnext⟩ := Option.isSome_iff_exists.mp
      (proceed_isSome howner h hselect hawaiting hclosed (s.location.replaying && answers.replay))
    have heffect : Effect cfg q s (.Proceed (s.location.replaying && answers.replay)) q' s' := step_effect hnext
    refine ⟨.Proceed (s.location.replaying && answers.replay), q', s', rfl, hnext, ?_⟩
    have hloop := proceed_nearer (fun hwritten => (Bool.and_eq_true_iff.mp hwritten).1) hselect hawaiting heffect
    have hattempts := attempts_nearer (by rintro ⟨⟩) heffect
    exact Nat.add_lt_add_of_lt_of_le hloop hattempts

/-- A session whose client is gone has a next step until nothing of it is left. -/
theorem departed_progress (answers : BackendAnswers) (h : s.Invariant cfg) (hleft : ¬ s.Gone) :
    ∃ a q' s', s.departed answers a ∧ s.step cfg q a = some (q', s') ∧ s'.distance < s.distance := by
  obtain ⟨howner, _, haccepted, hstanding⟩ := h
  by_cases hclosed : ∃ e, s.location = .Closed e
  · obtain ⟨e, hlocation⟩ := hclosed
    obtain ⟨hdone, huntracked⟩ := hstanding.closed e hlocation
    -- The loop is gone, so an attempt is left.
    have hattempt : ∃ attempt ∈ s.attempts, ¬ (attempt.location = .Done ∧
        ∀ p, attempt.prepared = some p → p.finalized = true ∧ p.done_closed = true ∧ p.backend = none) := by
      by_contra hnone
      push Not at hnone
      exact hleft ⟨⟨e, hlocation⟩, huntracked, hdone, fun attempt hmem => by simpa using hnone attempt hmem⟩
    obtain ⟨attempt, hmem, hleft⟩ := hattempt
    obtain ⟨k, hattempt⟩ := List.mem_iff_getElem?.mp hmem
    have hrunning : attempt.location.running = true ∨ (∃ err, attempt.location = .Outcome err) ∨
        attempt.location = .Done := by
      cases attempt.location <;> simp [PrepareLocation.running]
    obtain hrunning | ⟨err, hpoint⟩ | hpoint := hrunning
    · obtain ⟨s', hnext, hnearer⟩ :=
        prepare_progress haccepted hattempt hrunning (answers.exchange k attempt.location)
      refine ⟨.Prepare k (answers.exchange k attempt.location), q, s', ?_, by simp [step, hattempt, hnext], hnearer⟩
      intro other hother
      obtain rfl : attempt = other := Option.some.inj (hattempt.symm.trans hother)
      rfl
    · obtain ⟨s', hnext, hnearer⟩ := dropped_progress haccepted hdone hattempt hpoint
      exact ⟨.PrepareDropped k, q, s', trivial, by simp [step, hattempt, hnext], hnearer⟩
    · obtain ⟨p, hopen, hleft⟩ : ∃ p, attempt.prepared = some p ∧
          ¬ (p.finalized = true ∧ p.done_closed = true ∧ p.backend = none) := by
        simpa only [hpoint, true_and, not_forall, exists_prop] using hleft
      have hunfinalized : p.finalized = false := by
        by_contra hfinal
        have hfinal : p.finalized = true := by simpa using hfinal
        exact hleft ⟨hfinal, haccepted.settled attempt hmem p hopen hfinal⟩
      obtain ⟨s', hnext, hnearer⟩ := timeout_progress hattempt hopen hunfinalized
      exact ⟨.BarrierTimeout k, q, s', trivial, by simp [step, hattempt, hnext], hnearer⟩
  · exact loop_progress answers howner hstanding (fun e hlocation => hclosed ⟨e, hlocation⟩)

/-- No step of a session whose client is gone takes it away from its end. -/
theorem departed_nearer {answers : BackendAnswers} (hdeparted : s.departed answers a)
    (hstep : s.step cfg q a = some (q', s')) : s'.distance ≤ s.distance := by
  have heffect := step_effect hstep
  refine Nat.add_le_add ?_ (attempts_nearer (by rintro rfl; exact hdeparted) heffect)
  cases a with
  | Proceed written =>
    obtain rfl : written = (s.location.replaying && answers.replay) := hdeparted
    have hmoving : s.location ≠ .Select ∧ s.location ≠ .AwaitingTeleport := by
      refine ⟨?_, ?_⟩ <;> intro hlocation <;> simp [step, proceed, hlocation] at hstep
    exact (proceed_nearer (fun hwritten => (Bool.and_eq_true_iff.mp hwritten).1) hmoving.1 hmoving.2 heffect).le
  | Frame frame =>
    obtain rfl : frame = .error .Read := hdeparted
    cases heffect with
    | failed hrunning => exact (Location.distance_of_running hrunning).le
    | idle => exact Nat.le_refl _
  | Prepare | PrepareDropped | BarrierTimeout =>
    cases heffect with
    | failed hrunning => exact (Location.distance_of_running hrunning).le
    | _ => exact Nat.le_refl _
  | _ => exact hdeparted.elim

end Step

end Limbo

/-- The moves of a session whose client is gone, and nobody else's. -/
def World.departed (answers : BackendAnswers) (w : World) : Move → Prop
  | .Session a => w.limbo.departed answers a
  | .Others _ => False

open Limbo

/-- A client that is gone leaves nothing behind: from every state that a session
can reach, and whatever the backend does, the session's own steps bring it in
a bounded number to where nothing of it is left, and none of them leads away
from there. -/
theorem departed_client_leaves_nothing {cfg : Config} {queue : AdmissionQueue} {conn : Conn} {uuid : UUID}
    {required : Option Int} {moves : List Move} {w : World} (answers : BackendAnswers)
    (run : Reaches (World.step cfg) { queue, limbo := start conn uuid required } moves w) :
    (∃ rest w', Runs (World.step cfg) (World.departed answers) w rest w' ∧ w'.limbo.Gone ∧
      rest.length ≤ w.limbo.distance) ∧
    ∀ move w', w.departed answers move → w.step cfg move = some w' → w'.limbo.distance ≤ w.limbo.distance := by
  have hinvariant : w.limbo.Invariant cfg :=
    World.limbo_invariant (Invariant cfg) (.of_reaches run) (start_invariant cfg conn uuid required)
      fun h _ heffect => effect_invariant h heffect
  refine ⟨?_, ?_⟩
  · have hnearer : ∀ w : World, w.limbo.Invariant cfg → ¬ w.limbo.Gone → ∃ move w', w.departed answers move ∧
        w.step cfg move = some w' ∧ w'.limbo.Invariant cfg ∧ w'.limbo.distance < w.limbo.distance := by
      intro w h hleft
      obtain ⟨a, q', s', hdeparted, hnext, hlt⟩ := departed_progress (q := w.queue) answers h hleft
      exact ⟨.Session a, ⟨q', s'⟩, hdeparted, by simp [World.step, hnext], effect_invariant h (step_effect hnext), hlt⟩
    exact Runs.reaches_goal (fun w : World => w.limbo.distance) hnearer hinvariant
  · intro move w' hdeparted hstep
    cases move with
    | Others => exact hdeparted.elim
    | Session a =>
      obtain ⟨⟨q', s'⟩, hnext, rfl⟩ := Option.map_eq_some_iff.mp hstep
      exact departed_nearer hdeparted hnext

/-- The client disconnects while `Prepare` logs in to the backend for it. -/
theorem departed_client_leaves_nothing_during_login :
    ∃ w, Reaches (World.step sampleConfig) sampleWorld
        (joinMoves ++ beginMoves ++ List.replicate 2 (.Session (.Prepare 0 (.ok [])))) w ∧
      w.limbo.Connected 0 ∧
      ∃ rest w', Runs (World.step sampleConfig) (World.departed ⟨fun _ _ => .ok [], true⟩) w rest w' ∧
        w'.limbo.Gone ∧ rest.length ≤ 10 := by
  have hreached : ∃ w, Reaches (World.step sampleConfig) sampleWorld
        (joinMoves ++ beginMoves ++ List.replicate 2 (.Session (.Prepare 0 (.ok [])))) w ∧
      decide (w.limbo.attempts[0]?.any (·.location.connected) = true ∧ w.limbo.distance ≤ 10) = true :=
    Reaches.of_exec _ (by decide +kernel)
  obtain ⟨w, run, hobserved⟩ := hreached
  obtain ⟨hfirst, hdistance⟩ := of_decide_eq_true hobserved
  obtain ⟨attempt, hattempt, hconnected⟩ := (Option.any_eq_true _ _).mp hfirst
  obtain ⟨⟨rest, w', hrest, hgone, hlength⟩, _⟩ := departed_client_leaves_nothing ⟨fun _ _ => .ok [], true⟩ run
  exact ⟨w, run, ⟨attempt, hattempt, .inl hconnected⟩, rest, w', hrest, hgone, hlength.trans hdistance⟩

end regiongate.server
