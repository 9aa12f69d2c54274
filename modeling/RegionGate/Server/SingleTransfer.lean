import RegionGate.Server.KeepAliveTimeout

open regiongate.session regiongate.transfer execution

namespace regiongate.server

/-- The call of `Prepare` has not returned. -/
def PrepareLocation.running : PrepareLocation → Bool
  | .Outcome _ | .Done => false
  | _ => true

theorem PrepareLocation.running_of_working {location : PrepareLocation} (h : location.working = true) :
    location.running = true := by
  cases location <;> first | rfl | cases h

namespace Limbo

/-- The loop takes no further request while the outcome of an accepted one is
outstanding and its `Prepare` has not begun the transfer, or has rolled it
back. -/
def takesRequestsInTurn (s : Limbo) : Action → Bool
  | .Admission => s.prepare_result.isNone || s.session.state ≠ .LimboPlay
  | _ => true

/-- The call of `Prepare` has not returned. -/
def Running (s : Limbo) (i : Nat) : Prop :=
  ∃ attempt, s.attempts[i]? = some attempt ∧ attempt.location.running = true

/-- One call of `Prepare` runs at a time, and while the loop is alive it listens
for its outcome. -/
structure Single (s : Limbo) : Prop where
  unique : ∀ i j, s.Running i → s.Running j → i = j
  listens : s.location.ended = false → ∀ i, s.Running i → s.prepare_result = some i

section Step

variable {cfg : Config} {q q' : AdmissionQueue} {s s' : Limbo} {a : Action}

theorem Single.kept (h : s.Single) (hended : s'.location.ended = false → s.location.ended = false)
    (hresult : s'.prepare_result = s.prepare_result) (hrunning : ∀ i, s'.Running i → s.Running i) :
    s'.Single := by
  refine ⟨?_, ?_⟩
  · intro i j hi hj
    exact h.unique i j (hrunning i hi) (hrunning j hj)
  · intro hloop i hi
    rw [hresult]
    exact h.listens (hended hloop) i (hrunning i hi)

/-- Moving an attempt whose call runs, or one whose call then no longer does,
starts no other call. -/
theorem running_moveAttempt {k : Nat} {attempt : Attempt} {location : PrepareLocation}
    (hattempt : s.attempts[k]? = some attempt)
    (hlocation : attempt.location.running = true ∨ location.running = false) {i : Nat}
    (h : (s.moveAttempt k location).Running i) : s.Running i := by
  obtain ⟨moved, hmoved, hrunning⟩ := h
  obtain ⟨old, hold, rfl⟩ := modify_eq_some hmoved
  by_cases hk : k = i
  · subst hk
    rw [hattempt, Option.some.injEq] at hold
    subst hold
    obtain hwas | hstops := hlocation
    · exact ⟨attempt, hattempt, hwas⟩
    · simp [hstops] at hrunning
  · simp only [if_neg hk] at hrunning
    exact ⟨old, hold, hrunning⟩

theorem running_setPrepared {k : Nat} {p : Prepared} {i : Nat} (h : (s.setPrepared k p).Running i) :
    s.Running i := by
  obtain ⟨moved, hmoved, hrunning⟩ := h
  obtain ⟨old, hold, rfl⟩ := modify_eq_some hmoved
  refine ⟨old, hold, ?_⟩
  by_cases hk : k = i <;> simpa [hk] using hrunning

/-- A call of `Prepare` that goes on, or returns. -/
theorem Single.moveAttempt {k : Nat} {attempt : Attempt} {location : PrepareLocation} (h : s.Single)
    (hattempt : s.attempts[k]? = some attempt)
    (hlocation : attempt.location.running = true ∨ location.running = false)
    (hsame : s'.location = s.location) (hresult : s'.prepare_result = s.prepare_result)
    (hattempts : s'.attempts = (s.moveAttempt k location).attempts) : s'.Single := by
  refine h.kept (by rw [hsame]; exact id) hresult ?_
  intro i hi
  apply running_moveAttempt hattempt hlocation
  simpa only [Running, hattempts] using hi

/-- Once the awaited outcome is there, no call of `Prepare` runs. -/
theorem Single.finished {k : Nat} {attempt : Attempt} (h : s.Single) (hloop : s.location.ended = false)
    (hresult : s.prepare_result = some k) (hattempt : s.attempts[k]? = some attempt)
    (hstopped : attempt.location.running = false) (i : Nat) : ¬ s.Running i := by
  rintro ⟨other, hother, hrunning⟩
  have hlistens := h.listens hloop i ⟨other, hother, hrunning⟩
  rw [hresult, Option.some.injEq] at hlistens
  subst hlistens
  rw [hattempt, Option.some.injEq] at hother
  subst hother
  rw [hstopped] at hrunning
  cases hrunning

theorem Single.of_none (h : ∀ i, ¬ s.Running i) : s.Single :=
  ⟨fun i _ hi => absurd hi (h i), fun _ i hi => absurd hi (h i)⟩

/-- A new attempt is the only one that runs when no other did. -/
theorem running_append {attempt : Attempt} (hnone : ∀ i, ¬ s.Running i)
    (hattempts : s'.attempts = s.attempts ++ [attempt]) (i : Nat) (h : s'.Running i) :
    i = s.attempts.length := by
  obtain ⟨found, hfound, hrunning⟩ := h
  rw [hattempts] at hfound
  by_contra hother
  obtain hlt | hgt := Nat.lt_or_gt_of_ne hother
  · rw [List.getElem?_append_left hlt] at hfound
    exact hnone i ⟨found, hfound, hrunning⟩
  · rw [List.getElem?_eq_none (by simp; omega)] at hfound
    cases hfound

theorem Single.of_only {k : Nat} (h : ∀ i, s.Running i → i = k) (hresult : s.prepare_result = some k) :
    s.Single := by
  refine ⟨?_, ?_⟩
  · intro i j hi hj
    rw [h i hi, h j hj]
  · intro _ i hi
    rw [h i hi, hresult]

/-- One step: at most one call of `Prepare` is running, and the loop listens for it. -/
theorem effect_single (h : s.Single) (hturn : s.takesRequestsInTurn a = true)
    (heffect : Effect cfg q s a q' s') : s'.Single := by
  cases heffect with
  | failed | timed_out | frame_malformed | barrier_inactive | barrier_refused | call_refused
  | answer_refused | frame_refused | challenge_failed | challenge_unqueued =>
    exact h.kept nofun rfl fun _ hi => hi
  | answer_unqueued _ _ _ _ hnext => obtain rfl | rfl := hnext <;> exact h.kept nofun rfl fun _ hi => hi
  | idle | challenge_passed | challenge_enqueued | admission_refused | admit_called | admit_sent
  | admit_received | admit_cancelled | caller_cancelled => exact h.kept (fun h => h) rfl fun _ hi => hi
  | item_cancelled | context_cancelled | untracked => exact h.kept nofun rfl fun _ hi => hi
  | join_packet hlocation | join_sent hlocation | teleported hlocation | ticked hlocation
  | status_due hlocation | unplaced hlocation | placed hlocation | action_bar_sent hlocation
  | barrier_frame hlocation | limbo_frame hlocation | barrier_read hlocation | called hlocation
  | progressed hlocation | progress_writes hlocation | progress_releases hlocation | answered hlocation
  | answered_enqueued hlocation | frame_accepted hlocation | begin_checked hlocation | start_sent hlocation
  | begin_rechecked hlocation | write_checked hlocation | packet_sent hlocation | finish_sent hlocation
  | write_finished hlocation | replayed hlocation | relayed hlocation =>
    exact h.kept (fun _ => by rw [hlocation]; rfl) rfl fun _ hi => hi
  | keep_alive_sent hlocation =>
    refine h.kept (fun _ => ?_) rfl fun _ hi => hi
    obtain hlocation | hlocation := hlocation <;> rw [hlocation] <;> rfl
  | begin_refused hlocation =>
    refine h.kept (fun _ => ?_) rfl fun _ hi => hi
    obtain hlocation | hlocation | hlocation := hlocation <;> rw [hlocation] <;> rfl
  | @admission_accepted request rest hlocation hadmissions hcoordinator hprepared hstate =>
    have hfree : s.prepare_result = none := by
      simpa [takesRequestsInTurn, hstate] using hturn
    have hnone : ∀ i, ¬ s.Running i := by
      intro i hi
      have hlistens := h.listens (by rw [hlocation]; rfl) i hi
      rw [hfree] at hlistens
      cases hlistens
    exact .of_only (running_append hnone rfl) rfl
  | prepare_failed hlocation hresult hattempt houtcome =>
    have hnone := h.finished (by rw [hlocation]; rfl) hresult hattempt (by rw [houtcome]; rfl)
    obtain ⟨_, heq⟩ | ⟨request, _, heq⟩ := respond_cases _ _ _ <;> rw [heq]
    all_goals exact .of_none fun i hi => hnone i (running_moveAttempt hattempt (.inr rfl) hi)
  | prepare_succeeded hlocation hresult hattempt houtcome =>
    have hnone := h.finished (by rw [hlocation]; rfl) hresult hattempt (by rw [houtcome]; rfl)
    exact .of_none fun i hi => hnone i (running_moveAttempt hattempt (.inr rfl) hi)
  | transfer_lost hlocation =>
    obtain ⟨_, heq⟩ | ⟨request, _, heq⟩ := respond_cases _ _ _ <;> rw [heq]
    all_goals exact h.kept (fun _ => by rw [hlocation]; rfl) rfl fun _ hi => hi
  | begin_undone hlocation =>
    obtain ⟨_, heq⟩ | ⟨request, _, heq⟩ := respond_cases _ _ _ <;> rw [heq]
    all_goals exact h.kept (fun _ => by rw [hlocation]; rfl) rfl fun _ hi => running_setPrepared hi
  | admitted hlocation =>
    obtain ⟨_, heq⟩ | ⟨request, _, heq⟩ := respond_cases _ _ _ <;> rw [heq]
    all_goals exact h.kept (fun _ => by rw [hlocation]; rfl) rfl fun _ hi => hi
  | released hlocation =>
    exact h.kept (fun _ => by rw [hlocation]; rfl) rfl fun _ hi => running_setPrepared hi
  | barrier_timed_out => exact h.kept (fun h => h) rfl fun _ hi => running_setPrepared hi
  | prepare_refused hattempt hstart => exact h.moveAttempt hattempt (.inr rfl) rfl rfl rfl
  | transfer_begun hattempt hpoint | login_phase hattempt hpoint | dialed hattempt hpoint
  | logged_in hattempt hpoint | configuration_phase hattempt hpoint | configured hattempt hpoint =>
    exact h.moveAttempt hattempt (.inl (by rw [hpoint]; rfl)) rfl rfl rfl
  | prepare_aborted hattempt hworking =>
    exact h.moveAttempt hattempt (.inl (PrepareLocation.running_of_working hworking)) rfl rfl rfl
  | rolled_back hattempt | outcome_dropped hattempt => exact h.moveAttempt hattempt (.inr rfl) rfl rfl rfl
  | prepared hattempt | transfer_dropped hattempt =>
    exact h.kept (fun h => h) rfl fun _ hi => running_moveAttempt hattempt (.inr rfl) (running_setPrepared hi)

end Step

theorem start_single (conn : Conn) (uuid : UUID) (required : Option Int) :
    (start conn uuid required).Single := by
  refine .of_none ?_
  rintro i ⟨attempt, hattempt, _⟩
  simp [start] at hattempt

end Limbo

open Limbo

/-- In every run in which the loop takes requests in turn, at most one call of
`Prepare` runs, the loop listens for its outcome as long as it is alive, and
a request that it takes before it has consumed that outcome is refused. -/
theorem one_transfer_attempt {cfg : Config} {queue : AdmissionQueue} {conn : Conn} {uuid : UUID}
    {required : Option Int} {moves : List Move} {w : World}
    (run : SessionRuns cfg takesRequestsInTurn { queue, limbo := start conn uuid required } moves w) :
    (∀ i j, w.limbo.Running i → w.limbo.Running j → i = j) ∧
    (w.limbo.location.ended = false → ∀ i, w.limbo.Running i → w.limbo.prepare_result = some i) ∧
    ∀ w', w.limbo.prepare_result.isSome = true → w.permits takesRequestsInTurn (.Session .Admission) = true →
      w.step cfg (.Session .Admission) = some w' →
      ∃ request rest, w.limbo.admissions = request :: rest ∧
        w'.limbo = { w.limbo with admissions := rest }.send request (some .NotAvailableForTransfer) := by
  have hsingle : w.limbo.Single :=
    World.limbo_invariant Single run (start_single conn uuid required) effect_single
  refine ⟨hsingle.unique, hsingle.listens, ?_⟩
  intro w' houtstanding hturn hstep
  obtain ⟨⟨q', s'⟩, hnext, rfl⟩ := Option.map_eq_some_iff.mp hstep
  simp only [step, Option.ite_none_right_eq_some, Option.map_eq_some_iff, Prod.mk.injEq] at hnext
  obtain ⟨_, _, hadmission, rfl, rfl⟩ := hnext
  obtain ⟨request, rest, hadmissions, ⟨_, hrefused⟩ | ⟨_, _, hstate, _⟩⟩ := admission_eq_some hadmission
  · exact ⟨request, rest, hadmissions, hrefused⟩
  · have hfree : w.limbo.prepare_result = none := by
      simpa [World.permits, takesRequestsInTurn, hstate] using hturn
    rw [hfree] at houtstanding
    cases houtstanding

/-- A second caller asks while the first transfer waits at the backend. -/
def secondCallMoves : List Move :=
  joinMoves ++ beginMoves ++ [.Session (.AdmitCalled false), .Session (.AdmitSent 1)]

/-- A second request while the first one's call of `Prepare` is running. -/
theorem one_transfer_attempt_second_call :
    ∃ w w', SessionRuns sampleConfig takesRequestsInTurn sampleWorld secondCallMoves w ∧
      w.limbo.prepare_result = some 0 ∧ (∀ i j, w.limbo.Running i → w.limbo.Running j → i = j) ∧
      w.step sampleConfig (.Session .Admission) = some w' ∧
      w'.limbo = { w.limbo with admissions := [] }.send 1 (some .NotAvailableForTransfer) := by
  obtain ⟨w, run, hobserved⟩ : ∃ w,
      SessionRuns sampleConfig takesRequestsInTurn sampleWorld secondCallMoves w ∧
        decide (w.limbo.prepare_result = some 0 ∧ w.limbo.admissions = [1] ∧
          w.permits takesRequestsInTurn (.Session .Admission) = true ∧
          (w.step sampleConfig (.Session .Admission)).isSome = true) = true :=
    Runs.of_exec (fun _ _ hok => hok) _ (by decide +kernel)
  obtain ⟨hresult, hadmissions, hturn, hsome⟩ := of_decide_eq_true hobserved
  obtain ⟨w', hstep⟩ := Option.isSome_iff_exists.mp hsome
  obtain ⟨hunique, -, hrefused⟩ := one_transfer_attempt run
  obtain ⟨request, rest, hrequest, hw'⟩ := hrefused w' (by simp [hresult]) hturn hstep
  obtain ⟨rfl, rfl⟩ : 1 = request ∧ [] = rest := by simpa using hadmissions.symm.trans hrequest
  exact ⟨w, w', run, hresult, hunique, hstep, hw'⟩

/-- Two callers ask before the first call of `Prepare` has begun its transfer:
both requests are accepted and the first outcome channel is replaced. -/
theorem two_transfer_attempts :
    ∃ w, Reaches (World.step sampleConfig) sampleWorld
        (joinMoves ++
          [.Session (.AdmitCalled true), .Session (.AdmitSent 0), .Session .Admission,
            .Session (.AdmitCalled false), .Session (.AdmitSent 1), .Session .Admission]) w ∧
      w.limbo.location.ended = false ∧ w.limbo.Running 0 ∧ w.limbo.Running 1 ∧
      w.limbo.prepare_result = some 1 := by
  have hreached : ∃ w, Reaches (World.step sampleConfig) sampleWorld
      (joinMoves ++
        [.Session (.AdmitCalled true), .Session (.AdmitSent 0), .Session .Admission,
          .Session (.AdmitCalled false), .Session (.AdmitSent 1), .Session .Admission]) w ∧
      decide (w.limbo.location.ended = false ∧ w.limbo.prepare_result = some 1 ∧
        (w.limbo.attempts.map (·.location)) = [.Start, .Start]) = true :=
    Reaches.of_exec _ (by decide +kernel)
  obtain ⟨w, run, hobserved⟩ := hreached
  obtain ⟨hended, hresult, hlocations⟩ := of_decide_eq_true hobserved
  have hrunning : ∀ i < 2, w.limbo.Running i := by
    intro i hi
    have hget : (w.limbo.attempts.map (·.location))[i]? = some .Start := by
      rw [hlocations]
      obtain rfl | rfl : i = 0 ∨ i = 1 := by omega
      · rfl
      · rfl
    rw [List.getElem?_map, Option.map_eq_some_iff] at hget
    obtain ⟨attempt, hattempt, hstart⟩ := hget
    exact ⟨attempt, hattempt, by rw [hstart]; rfl⟩
  exact ⟨w, run, hended, hrunning 0 (by decide), hrunning 1 (by decide), hresult⟩

end regiongate.server
