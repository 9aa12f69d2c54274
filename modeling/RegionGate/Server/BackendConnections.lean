import RegionGate.Server.OwnAdmission
import RegionGate.Server.TransferOrder

open regiongate.session regiongate.transfer execution

namespace regiongate.transfer.Prepared

/-- A finalized transfer has closed its `done` channel and owns no backend. -/
def Settled (p : Prepared) : Prop := p.finalized = true → p.done_closed = true ∧ p.backend = none

theorem settled_new (backend : Nat) (packets : List Bytes) : (new backend packets).Settled := by
  rintro ⟨⟩

theorem Settled.rollback {p : Prepared} (h : p.Settled) (s : Session) : (p.rollback s).1.Settled := by
  unfold Prepared.rollback
  split
  · exact h
  · exact fun _ => ⟨rfl, rfl⟩

theorem Settled.timeout {p : Prepared} (h : p.Settled) (s : Session) : (p.timeout s).1.Settled := by
  unfold Prepared.timeout
  split
  · exact h
  · exact fun _ => ⟨rfl, rfl⟩

theorem settled_release {p p' : Prepared} {s s' : Session} {replay : Replay} {conn : Option Nat}
    {effects : List Effect} (h : p.release s = .ok ((replay, conn), p', s', effects)) : p'.Settled := by
  obtain ⟨_, _, _, rfl, _⟩ := release_eq_ok.mp h
  exact fun _ => ⟨rfl, rfl⟩

end regiongate.transfer.Prepared

namespace regiongate.server

/-- How many steps a goroutine of `prepareTransfer` has left at most. -/
def PrepareLocation.distance : PrepareLocation → Nat
  | .Start => 9
  | .Begun => 8
  | .Dialing => 7
  | .LoggingIn => 6
  | .LoggedIn => 5
  | .Configuring => 4
  | .Configured _ => 3
  | .RollingBack _ => 2
  | .Outcome _ => 1
  | .Done => 0

theorem PrepareLocation.distance_of_working {location : PrepareLocation} (h : location.working = true) :
    2 ≤ location.distance := by
  cases location <;> simp_all [distance, working]

namespace Attempt

/-- The steps left to the goroutine, and to the timer of a transfer that is open. -/
def distance (attempt : Attempt) : Nat :=
  attempt.location.distance + if attempt.prepared.any (!·.finalized) then 1 else 0

/-- What a step may do to an attempt: it comes no farther from its end, opens a
transfer only at its start and leaves a finalized one without a backend. -/
structure Changes (attempt new : Attempt) : Prop where
  request : new.request = attempt.request
  nearer : new.distance ≤ attempt.distance
  opened : new.opened = true → attempt.opened = true ∨ attempt.location = .Start
  settled : (∀ p, attempt.prepared = some p → p.Settled) → ∀ p, new.prepared = some p → p.Settled

variable {attempt : Attempt} {location : PrepareLocation} {p p' : Prepared}

theorem Changes.moved (hnearer : location.distance ≤ attempt.location.distance)
    (hopened : location.working = true → attempt.location.working = true ∨ attempt.location = .Start) :
    attempt.Changes { attempt with location } := by
  refine ⟨rfl, Nat.add_le_add_right hnearer _, ?_, fun h => h⟩
  intro h
  simp only [Attempt.opened, Bool.or_eq_true] at h ⊢
  obtain hworking | hopen := h
  · obtain hworking | hstart := hopened hworking
    · exact .inl (.inl hworking)
    · exact .inr hstart
  · exact .inl (.inr hopen)

/-- The transfer of the attempt ends, and with it perhaps the goroutine. -/
theorem Changes.ended (hopen : attempt.prepared = some p) (hfinal : p'.finalized = true)
    (hsettled : p.Settled → p'.Settled) (hlocation : location = attempt.location ∨ location = .Done) :
    attempt.Changes { attempt with location, prepared := some p' } := by
  have hnearer : location.distance ≤ attempt.location.distance := by
    obtain rfl | rfl := hlocation
    · exact Nat.le_refl _
    · exact Nat.zero_le _
  refine ⟨rfl, ?_, ?_, ?_⟩
  · simp only [Attempt.distance, Option.any_some, hfinal, Bool.not_true, Bool.false_eq_true, if_false]
    omega
  · intro h
    simp only [Attempt.opened, Option.any_some, hfinal, Bool.not_true, Bool.or_false] at h
    obtain rfl | rfl := hlocation
    · exact .inl (by simp [Attempt.opened, h])
    · cases h
  · intro h q hq
    obtain rfl : p' = q := Option.some.inj hq
    exact hsettled (h p hopen)

theorem Changes.prepared {packets : List Bytes} {k : Nat} (hpoint : attempt.location = .Configured packets) :
    attempt.Changes { attempt with location := .Outcome none, prepared := some (.new k packets) } := by
  refine ⟨rfl, ?_, ?_, ?_⟩
  · simp only [Attempt.distance, hpoint, PrepareLocation.distance]
    split <;> split <;> omega
  · intro _
    exact .inl (by simp [Attempt.opened, hpoint, PrepareLocation.working])
  · intro _ q hq
    obtain rfl := Option.some.inj hq
    exact Prepared.settled_new k packets

end Attempt

namespace Limbo

/-- What a step does to the attempts of a session: it leaves them, changes one
of them or adds the one of a request that it accepts. -/
inductive AttemptsEffect (cfg : Config) (s : Limbo) (a : Action) (s' : Limbo) : Prop where
  | same (hattempts : s'.attempts = s.attempts)
  | changed {k : Nat} {attempt : Attempt} {f : Attempt → Attempt} (hattempt : s.attempts[k]? = some attempt)
      (hchanges : attempt.Changes (f attempt)) (hattempts : s'.attempts = s.attempts.modify k f)
  | accepted {attempt : Attempt} (haction : a = .Admission) (hrequest : attempt.request ∈ s.admissions)
      (hcoordinator : cfg.transfer_coordinator.isSome = true) (hstart : attempt.location = .Start)
      (hprepared : attempt.prepared = none) (hattempts : s'.attempts = s.attempts ++ [attempt])

section Step

variable {cfg : Config} {q q' : AdmissionQueue} {s s' : Limbo} {a : Action}

/-- What a step does to the calls of `Prepare`. -/
theorem attempts_effect (heffect : Effect cfg q s a q' s') : AttemptsEffect cfg s a s' := by
  cases heffect with
  | answer_unqueued _ _ _ _ hnext => obtain rfl | rfl := hnext <;> exact .same rfl
  | transfer_lost | admitted =>
    obtain ⟨_, heq⟩ | ⟨request, _, heq⟩ := respond_cases _ _ _ <;> rw [heq] <;> exact .same rfl
  | admission_accepted hlocation hadmissions hcoordinator =>
    exact .accepted rfl (by rw [hadmissions]; exact List.mem_cons_self) hcoordinator rfl rfl rfl
  | @prepare_failed k attempt e hlocation hresult hattempt houtcome =>
    have hchanges : attempt.Changes { attempt with location := .Done } := .moved (Nat.zero_le _) (by rintro ⟨⟩)
    obtain ⟨_, heq⟩ | ⟨request, _, heq⟩ := respond_cases _ _ _ <;> rw [heq]
    all_goals exact .changed hattempt hchanges rfl
  | prepare_succeeded hlocation hresult hattempt | outcome_dropped hattempt =>
    exact .changed hattempt (.moved (Nat.zero_le _) (by rintro ⟨⟩)) rfl
  | begin_undone hlocation hprepared hattempt hopen =>
    have hchanges := Attempt.Changes.ended hopen (finalizes_rollback _ s.session).finalized (·.rollback s.session)
      (.inl rfl)
    obtain ⟨_, heq⟩ | ⟨request, _, heq⟩ := respond_cases _ _ _ <;> rw [heq]
    all_goals exact .changed hattempt hchanges rfl
  | released hlocation hprepared hattempt hopen hrelease =>
    exact .changed hattempt
      (.ended hopen (finalizes_release hrelease).finalized (fun _ => Prepared.settled_release hrelease) (.inl rfl)) rfl
  | barrier_timed_out hattempt hopen =>
    exact .changed hattempt
      (.ended hopen (finalizes_timeout _ s.session).finalized (·.timeout s.session) (.inl rfl)) rfl
  | transfer_dropped hattempt houtcome hopen =>
    exact .changed hattempt
      (.ended hopen (finalizes_rollback _ s.session).finalized (·.rollback s.session) (.inr rfl))
      (List.modify_modify_eq _ _ _ _)
  | prepare_refused hattempt hpoint =>
    exact .changed hattempt (.moved (by simp [hpoint, PrepareLocation.distance]) (by rintro ⟨⟩)) rfl
  | transfer_begun hattempt hpoint | login_phase hattempt hpoint | dialed hattempt hpoint
  | logged_in hattempt hpoint | configuration_phase hattempt hpoint | configured hattempt hpoint =>
    exact .changed hattempt (.moved (by simp [hpoint, PrepareLocation.distance]) fun _ => by rw [hpoint]; decide) rfl
  | @prepare_aborted k attempt outcome e hattempt hworking =>
    have hchanges : attempt.Changes { attempt with location := .RollingBack e } :=
      .moved (PrepareLocation.distance_of_working hworking) fun _ => .inl hworking
    exact .changed hattempt hchanges rfl
  | rolled_back hattempt hpoint =>
    exact .changed hattempt (.moved (by simp [hpoint, PrepareLocation.distance]) (by rintro ⟨⟩)) rfl
  | prepared hattempt hpoint => exact .changed hattempt (.prepared hpoint) (List.modify_modify_eq _ _ _ _)
  | _ => exact .same rfl

/-- What holds of every attempt that a session has accepted. -/
structure Accepted (cfg : Config) (s : Limbo) : Prop where
  request : ∀ attempt ∈ s.attempts, attempt.request < s.calls.length
  coordinator : s.attempts ≠ [] → cfg.transfer_coordinator.isSome = true
  settled : ∀ attempt ∈ s.attempts, ∀ p, attempt.prepared = some p → p.Settled

theorem calls_length_le (heffect : Effect cfg q s a q' s') : s.calls.length ≤ s'.calls.length := by
  by_cases hcalled : ∃ own, a = .AdmitCalled own
  · obtain ⟨own, rfl⟩ := hcalled
    cases heffect with
    | failed | idle => exact Nat.le_refl _
    | admit_called => simp
  · have hsame := effect_calls_length (fun own heq => hcalled ⟨own, heq⟩) heffect
    omega

/-- One step: each call of `Prepare` belongs to a request that was accepted. -/
theorem effect_accepted (hrequests : s.Requests) (h : s.Accepted cfg) (heffect : Effect cfg q s a q' s') :
    s'.Accepted cfg := by
  have hcalls := calls_length_le heffect
  cases attempts_effect heffect with
  | same hattempts =>
    refine ⟨?_, ?_, ?_⟩ <;> rw [hattempts]
    · intro attempt hattempt
      exact Nat.lt_of_lt_of_le (h.request attempt hattempt) hcalls
    · exact h.coordinator
    · exact h.settled
  | @changed k attempt f hattempt hchanges hattempts =>
    have hold := List.mem_of_getElem? hattempt
    refine ⟨?_, ?_, ?_⟩ <;> rw [hattempts]
    · intro new hnew
      refine Nat.lt_of_lt_of_le ?_ hcalls
      obtain hsame | ⟨old, hk, rfl⟩ := mem_modify hnew
      · exact h.request new hsame
      · obtain rfl : attempt = old := Option.some.inj (hattempt.symm.trans hk)
        rw [hchanges.request]
        exact h.request attempt hold
    · exact fun _ => h.coordinator (List.ne_nil_of_mem hold)
    · intro new hnew
      obtain hsame | ⟨old, hk, rfl⟩ := mem_modify hnew
      · exact h.settled new hsame
      · obtain rfl : attempt = old := Option.some.inj (hattempt.symm.trans hk)
        exact hchanges.settled (h.settled attempt hold)
  | @accepted new haction hrequest hcoordinator hstart hprepared hattempts =>
    refine ⟨?_, fun _ => hcoordinator, ?_⟩ <;> rw [hattempts] <;> intro attempt hattempt
    · refine Nat.lt_of_lt_of_le ?_ hcalls
      obtain hold | rfl := List.mem_append.mp hattempt |>.imp_right List.mem_singleton.mp
      · exact h.request attempt hold
      · obtain ⟨call, hcall, _⟩ := hrequests.waiting hrequest
        exact (List.getElem?_eq_some_iff.mp hcall).1
    · obtain hold | rfl := List.mem_append.mp hattempt |>.imp_right List.mem_singleton.mp
      · exact h.settled attempt hold
      · intro p hp
        rw [hprepared] at hp
        cases hp

theorem start_accepted (cfg : Config) (conn : Conn) (uuid : UUID) (required : Option Int) :
    (start conn uuid required).Accepted cfg := by
  refine ⟨?_, fun h => absurd rfl h, ?_⟩
  all_goals
    intro attempt hattempt
    cases hattempt

/-- While the loop hands a transfer over or bridges it, no other one is open. -/
structure Alone (s : Limbo) : Prop where
  holds : s.location.handing = true → s.prepared.isSome = true
  closed : s.location.handing = true → ∀ attempt ∈ s.attempts, attempt.opened = false

/-- How the loop comes to hand a transfer over: it did before, or it releases it. -/
inductive HandingEffect (s s' : Limbo) : Prop where
  | continues (hhanding : s.location.handing = true) (hprepared : s'.prepared = s.prepared)
  | releases {k : Nat} {attempt : Attempt} {p p' : Prepared} (hprepared : s.prepared = some k)
      (hattempt : s.attempts[k]? = some attempt) (hopen : attempt.prepared = some p)
      (hunfinalized : p.finalized = false) (hfinal : p'.finalized = true) (hprepared' : s'.prepared = s.prepared)
      (hattempts : s'.attempts = s.attempts.modify k fun attempt => { attempt with prepared := some p' })

/-- Every step that ends in the hand-over is a release, or one within it. -/
theorem handing_effect (heffect : Effect cfg q s a q' s') (hhanding : s'.location.handing = true) :
    HandingEffect s s' := by
  cases heffect with
  | released hlocation hprepared hattempt hopen hrelease =>
    exact .releases hprepared hattempt hopen (Prepared.release_eq_ok.mp hrelease).1
      (finalizes_release hrelease).finalized rfl rfl
  | replayed hlocation | relayed hlocation => exact .continues (by rw [hlocation]; rfl) rfl
  | admitted hlocation =>
    refine .continues (by rw [hlocation]; rfl) ?_
    obtain ⟨_, heq⟩ | ⟨request, _, heq⟩ := respond_cases _ _ _
    · rw [heq]
    · rw [heq]
      rfl
  | prepare_refused | transfer_begun | prepare_aborted | login_phase | dialed | logged_in
  | configuration_phase | configured | prepared | rolled_back | outcome_dropped | transfer_dropped
  | barrier_timed_out | admit_called | admit_sent | admit_received | admit_cancelled | caller_cancelled
  | idle | challenge_passed | challenge_enqueued | admission_refused | admission_accepted =>
    exact .continues hhanding rfl
  | prepare_failed hlocation | transfer_lost hlocation =>
    obtain ⟨_, heq⟩ | ⟨request, _, heq⟩ := respond_cases _ _ _ <;> rw [heq] at hhanding
    · cases hhanding
    · change s.location.handing = true at hhanding
      rw [hlocation] at hhanding
      cases hhanding
  | begin_undone =>
    obtain ⟨_, heq⟩ | ⟨request, _, heq⟩ := respond_cases _ _ _
    all_goals
      rw [heq] at hhanding
      cases hhanding
  | answer_unqueued _ _ _ _ hnext => obtain rfl | rfl := hnext <;> cases hhanding
  | _ => cases hhanding

theorem running_of_handing (h : s.location.handing = true) : s.location.ended = false := by
  cases hlocation : s.location <;> simp_all [Location.handing, Location.ended]

/-- A loop that listens for the one call of `Prepare` holds no transfer while the
call runs, so nothing opens beside a transfer that is handed over. -/
theorem effect_alone (howner : s.Owner) (hrequests : s.Requests) (hsingle : s.Single) (h : s.Alone)
    (heffect : Effect cfg q s a q' s') : s'.Alone := by
  suffices hhanding : s'.location.handing = true →
      s'.prepared.isSome = true ∧ ∀ attempt ∈ s'.attempts, attempt.opened = false from
    ⟨fun hloc => (hhanding hloc).1, fun hloc => (hhanding hloc).2⟩
  intro hhanding
  cases handing_effect heffect hhanding with
  | continues hbefore hprepared =>
    have hheld := h.holds hbefore
    refine ⟨hprepared ▸ hheld, ?_⟩
    intro new hnew
    cases attempts_effect heffect with
    | same hattempts => exact h.closed hbefore new (hattempts ▸ hnew)
    | accepted _ _ _ hstart hunprepared hattempts =>
      rw [hattempts, List.mem_append, List.mem_singleton] at hnew
      obtain hold | rfl := hnew
      · exact h.closed hbefore new hold
      · simp [Attempt.opened, hstart, hunprepared, PrepareLocation.working]
    | @changed k attempt f hattempt hchanges hattempts =>
      rw [hattempts] at hnew
      obtain hold | ⟨old, hk, rfl⟩ := mem_modify hnew
      · exact h.closed hbefore new hold
      · obtain rfl : attempt = old := Option.some.inj (hattempt.symm.trans hk)
        by_contra hopened
        obtain hopen | hstart := hchanges.opened (by simpa using hopened)
        · rw [h.closed hbefore attempt (List.mem_of_getElem? hattempt)] at hopen
          cases hopen
        · have hlistens := hsingle.listens (running_of_handing hbefore) k ⟨attempt, hattempt, by rw [hstart]; rfl⟩
          obtain hnone | hnone := hrequests.exclusive
          · rw [hnone] at hlistens
            cases hlistens
          · rw [hnone] at hheld
            cases hheld
  | @releases k attempt p p' hprepared hattempt hopen hunfinalized hfinal hprepared' hattempts =>
    have hopened : attempt.opened = true := by simp [Attempt.opened, hopen, hunfinalized]
    refine ⟨by rw [hprepared', hprepared]; rfl, ?_⟩
    intro new hnew
    rw [hattempts] at hnew
    obtain ⟨i, hi⟩ := List.mem_iff_getElem?.mp hnew
    obtain ⟨old, hold, rfl⟩ := modify_eq_some hi
    split
    · rename_i hki
      subst hki
      obtain ⟨held, hheld, hdone, _⟩ := howner.held hprepared
      obtain rfl : held = old := Option.some.inj (hheld.symm.trans hold)
      simp [Attempt.opened, hdone, hfinal, PrepareLocation.working]
    · rename_i hki
      exact howner.alone hattempt hopened (Ne.symm hki) hold

theorem start_alone (conn : Conn) (uuid : UUID) (required : Option Int) : (start conn uuid required).Alone := by
  refine ⟨?_, ?_⟩ <;> rintro ⟨⟩

end Step

end Limbo

/-- `Prepare` holds the backend connection that it dialed. A rollback that follows
a failed dial has none to close. -/
def PrepareLocation.connected : PrepareLocation → Bool
  | .LoggingIn | .LoggedIn | .Configuring | .Configured _ | .RollingBack _ => true
  | _ => false

theorem PrepareLocation.working_of_connected {location : PrepareLocation} (h : location.connected = true) :
    location.working = true := by
  cases location <;> simp_all [connected, working]

namespace Limbo

/-- The backend connection of an attempt may be open: `Prepare` holds it, the
prepared transfer owns it, or the loop plays on it. -/
def Connected (s : Limbo) (k : Nat) : Prop :=
  ∃ attempt, s.attempts[k]? = some attempt ∧
    (attempt.location.connected = true ∨ attempt.prepared.any (·.backend.isSome) = true ∨
      s.prepared = some k ∧ s.location.handing = true)

/-- A backend connection belongs to an open call of `Prepare` or to the hand-over. -/
theorem Connected.opened {cfg : Config} {s : Limbo} {k : Nat} (haccepted : s.Accepted cfg) (h : s.Connected k) :
    ∃ attempt, s.attempts[k]? = some attempt ∧
      (attempt.opened = true ∨ s.prepared = some k ∧ s.location.handing = true) := by
  obtain ⟨attempt, hattempt, hconnected | hbackend | hhanding⟩ := h
  · refine ⟨attempt, hattempt, .inl ?_⟩
    simp [Attempt.opened, PrepareLocation.working_of_connected hconnected]
  · refine ⟨attempt, hattempt, .inl ?_⟩
    cases hopen : attempt.prepared with
    | none => simp [hopen] at hbackend
    | some p =>
      have hunfinalized : p.finalized = false := by
        by_contra hfinal
        have hsettled := haccepted.settled attempt (List.mem_of_getElem? hattempt) p hopen (by simpa using hfinal)
        simp [hopen, hsettled.2] at hbackend
      simp [Attempt.opened, hopen, hunfinalized]
  · exact ⟨attempt, hattempt, .inr hhanding⟩

end Limbo

open Limbo

/-- In every run in which the loop takes requests in turn, a session has one
backend connection at a time: in a call of `Prepare`, in the prepared transfer
or in the play bridge. -/
theorem one_backend_connection {cfg : Config} {queue : AdmissionQueue} {conn : Conn} {uuid : UUID}
    {required : Option Int} {moves : List Move} {w : World}
    (run : SessionRuns cfg takesRequestsInTurn { queue, limbo := start conn uuid required } moves w) :
    ∀ i j, w.limbo.Connected i → w.limbo.Connected j → i = j := by
  obtain ⟨howner, -, haccepted, -, halone⟩ : w.limbo.Owner ∧ w.limbo.Requests ∧ w.limbo.Accepted cfg ∧
      w.limbo.Single ∧ w.limbo.Alone := by
    apply World.limbo_invariant
      (fun s => s.Owner ∧ s.Requests ∧ s.Accepted cfg ∧ s.Single ∧ s.Alone) run
    · exact ⟨start_owner conn uuid required, start_requests conn uuid required,
        start_accepted cfg conn uuid required, start_single conn uuid required, start_alone conn uuid required⟩
    · rintro q a q' s s' ⟨howner, hrequests, haccepted, hsingle, halone⟩ hturn heffect
      exact ⟨effect_owner howner heffect, effect_requests hrequests heffect,
        effect_accepted hrequests haccepted heffect, effect_single hsingle hturn heffect,
        effect_alone howner hrequests hsingle halone heffect⟩
  intro i j hi hj
  obtain ⟨x, hx, hopenx | ⟨hpreparedx, hhandingx⟩⟩ := hi.opened haccepted
  · obtain ⟨y, hy, hopeny | ⟨_, hhanding⟩⟩ := hj.opened haccepted
    · exact howner.unique hx hy hopenx hopeny
    · rw [halone.closed hhanding x (List.mem_of_getElem? hx)] at hopenx
      cases hopenx
  · obtain ⟨y, hy, hopeny | ⟨hpreparedy, _⟩⟩ := hj.opened haccepted
    · rw [halone.closed hhandingx y (List.mem_of_getElem? hy)] at hopeny
      cases hopeny
    · exact Option.some.inj (hpreparedx.symm.trans hpreparedy)

/-- The session plays on the connection of its only transfer. -/
theorem one_backend_connection_at_release :
    ∃ w, SessionRuns sampleConfig takesRequestsInTurn sampleWorld releaseMoves w ∧ w.limbo.Connected 0 ∧
      ∀ i j, w.limbo.Connected i → w.limbo.Connected j → i = j := by
  have hreached : ∃ w, SessionRuns sampleConfig takesRequestsInTurn sampleWorld releaseMoves w ∧
      decide (w.limbo.attempts[0]?.isSome ∧ w.limbo.prepared = some 0 ∧ w.limbo.location.handing = true) = true :=
    Runs.of_exec (fun _ _ hok => hok) _ (by decide +kernel)
  obtain ⟨w, run, hobserved⟩ := hreached
  obtain ⟨hsome, hprepared, hhanding⟩ := of_decide_eq_true hobserved
  obtain ⟨attempt, hattempt⟩ := Option.isSome_iff_exists.mp hsome
  exact ⟨w, run, ⟨attempt, hattempt, .inr (.inr ⟨hprepared, hhanding⟩)⟩, one_backend_connection run⟩

/-- Two requests are accepted before either `Prepare` has begun. The loop plays on
the connection of the second when the first begins and dials. -/
def lateFirstMoves : List Move :=
  joinMoves ++
    [.Session (.AdmitCalled true), .Session (.AdmitSent 0), .Session .Admission,
      .Session (.AdmitCalled false), .Session (.AdmitSent 1), .Session .Admission] ++
    List.replicate 7 (.Session (.Prepare 1 (.ok []))) ++ startMoves ++
    barrierFrameMoves configurationAcknowledged ++ List.replicate 3 (.Session (.Proceed true)) ++
    barrierFrameMoves configuration.finish_acknowledged_payload ++ List.replicate 3 (.Session (.Proceed true)) ++
    List.replicate 3 (.Session (.Prepare 0 (.ok [])))

/-- Out of turn, one player can have two backend connections. -/
theorem two_backend_connections :
    ∃ w, Reaches (World.step sampleConfig) sampleWorld lateFirstMoves w ∧ w.limbo.location = .Bridge ∧
      w.limbo.Connected 0 ∧ w.limbo.Connected 1 := by
  have hreached : ∃ w, Reaches (World.step sampleConfig) sampleWorld lateFirstMoves w ∧
      decide (w.limbo.location = .Bridge ∧ w.limbo.prepared = some 1 ∧ w.limbo.attempts[1]?.isSome ∧
        w.limbo.attempts[0]?.any (·.location.connected)) = true :=
    Reaches.of_exec _ (by decide +kernel)
  obtain ⟨w, run, hobserved⟩ := hreached
  obtain ⟨hlocation, hprepared, hsecond, hfirst⟩ := of_decide_eq_true hobserved
  obtain ⟨second, hsecond⟩ := Option.isSome_iff_exists.mp hsecond
  obtain ⟨first, hattempt, hconnected⟩ := (Option.any_eq_true _ _).mp hfirst
  exact ⟨w, run, hlocation, ⟨first, hattempt, .inl hconnected⟩,
    ⟨second, hsecond, .inr (.inr ⟨hprepared, by rw [hlocation]; rfl⟩)⟩⟩

end regiongate.server
