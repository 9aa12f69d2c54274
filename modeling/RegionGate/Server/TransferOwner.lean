import RegionGate.Server.LimboEffect

open regiongate.session regiongate.transfer execution

namespace regiongate.server

namespace Attempt

/-- The attempt has begun a transfer that is neither released nor rolled back. -/
def opened (attempt : Attempt) : Bool :=
  attempt.location.working || attempt.prepared.any (!·.finalized)

/-- The phases in which an opened attempt leaves the barrier. -/
def phases (attempt : Attempt) : List BarrierPhase :=
  match attempt.location with
  | .Begun => [BarrierDraining]
  | .Dialing | .LoggingIn | .LoggedIn => [BarrierBackendLogin]
  | .Configuring | .Configured _ => [BarrierBackendConfiguration]
  | .RollingBack _ => [BarrierDraining, BarrierBackendLogin, BarrierBackendConfiguration]
  | _ =>
    [BarrierAwaitingClientConfigurationStart, BarrierClientConfiguration,
      BarrierAwaitingClientConfigurationFinish, BarrierReady]

/-- A transfer that was handed out is in a phase of the client's configuration. -/
theorem phases_of_idle {attempt : Attempt} (h : attempt.location.working = false) :
    attempt.phases =
      [BarrierAwaitingClientConfigurationStart, BarrierClientConfiguration,
        BarrierAwaitingClientConfigurationFinish, BarrierReady] := by
  unfold phases
  cases hlocation : attempt.location <;> first | rfl | (rw [hlocation] at h; cases h)

/-- A call of `Prepare` is in a phase of the backend's. -/
theorem phases_of_working {attempt : Attempt} {phase : BarrierPhase} (h : attempt.location.working = true)
    (hphase : phase ∈ attempt.phases) :
    phase ∈ [BarrierDraining, BarrierBackendLogin, BarrierBackendConfiguration] := by
  unfold phases at hphase
  cases hlocation : attempt.location with
  | Start | Outcome | Done =>
    rw [hlocation] at h
    cases h
  | _ =>
    simp only [hlocation, List.mem_cons, List.not_mem_nil, or_false] at hphase ⊢
    tauto

/-- Only a prepared transfer is in a phase that the client or the loop leaves
for the next one, and it expects that one too. -/
theorem phases_succ {attempt : Attempt} {phase : BarrierPhase} (h : phase ∈ attempt.phases)
    (hnext : phase + 1 ∈ [BarrierClientConfiguration, BarrierAwaitingClientConfigurationFinish, BarrierReady]) :
    phase + 1 ∈ attempt.phases := by
  cases hworking : attempt.location.working with
  | false =>
    rw [phases_of_idle hworking]
    exact List.mem_cons_of_mem _ hnext
  | true =>
    -- The phases of a working `Prepare` end before the client's.
    have hearly := phases_of_working hworking h
    simp only [List.mem_cons, List.not_mem_nil, or_false] at hearly
    obtain rfl | rfl | rfl := hearly <;> exact absurd hnext (by decide)

/-- A prepared transfer comes from a call of `Prepare` that has returned, and
has an error only once it is finalized. -/
structure Sound (attempt : Attempt) : Prop where
  unprepared : attempt.location.working = true ∨ attempt.location = .Start → attempt.prepared = none
  outcome : attempt.location = .Outcome none → attempt.prepared.isSome = true
  final : ∀ p, attempt.prepared = some p → p.final_err.isSome = true → p.finalized = true

end Attempt

namespace Limbo

/-- At most one attempt has an open transfer, and the session's barrier is that
transfer's. -/
structure Owner (s : Limbo) : Prop where
  sound : ∀ {k : Nat} {attempt : Attempt}, s.attempts[k]? = some attempt → attempt.Sound
  active : ∀ {k : Nat} {attempt : Attempt}, s.attempts[k]? = some attempt → attempt.opened = true →
    ∃ b, s.session.active = some b ∧ b.phase ∈ attempt.phases
  unique : ∀ {i j : Nat} {x y : Attempt}, s.attempts[i]? = some x → s.attempts[j]? = some y →
    x.opened = true → y.opened = true → i = j
  held : ∀ {k : Nat}, s.prepared = some k → ∃ attempt, s.attempts[k]? = some attempt ∧
    attempt.location = .Done ∧ attempt.prepared.isSome = true
  call : ∀ {phase : BarrierPhase} {frame : Bytes}, s.location = .BarrierCall (.Advance phase) frame →
    phase = BarrierClientConfiguration ∨ phase = BarrierReady

section Step

variable {cfg : Config} {q q' : AdmissionQueue} {s s' : Limbo} {a : Action} {k : Nat} {attempt : Attempt}

theorem attempts_moveAttempt (location : PrepareLocation) (h : s.attempts[k]? = some attempt) :
    (s.moveAttempt k location).attempts[k]? = some { attempt with location } := by
  simp [moveAttempt, h]

theorem attempts_moveAttempt_ne (location : PrepareLocation) {i : Nat} (h : i ≠ k) :
    (s.moveAttempt k location).attempts[i]? = s.attempts[i]? := by
  simp [moveAttempt, h.symm]

theorem attempts_setPrepared (p : Prepared) (h : s.attempts[k]? = some attempt) :
    (s.setPrepared k p).attempts[k]? = some { attempt with prepared := some p } := by
  simp [setPrepared, h]

theorem attempts_setPrepared_ne (p : Prepared) {i : Nat} (h : i ≠ k) :
    (s.setPrepared k p).attempts[i]? = s.attempts[i]? := by
  simp [setPrepared, h.symm]

/-- Beside an open transfer every other attempt is closed. -/
theorem Owner.alone (h : s.Owner) (hattempt : s.attempts[k]? = some attempt)
    (hopened : attempt.opened = true) {i : Nat} {x : Attempt} (hne : i ≠ k) (hx : s.attempts[i]? = some x) :
    x.opened = false := by
  by_contra hopen
  exact hne (h.unique hx hattempt (by simpa using hopen) hopened)

/-- Without a barrier nobody has a transfer open. -/
theorem Owner.none_opened (h : s.Owner) (hactive : s.session.active = none) {i : Nat} {x : Attempt}
    (hx : s.attempts[i]? = some x) : x.opened = false := by
  by_contra hopen
  obtain ⟨b, hb, _⟩ := h.active hx (by simpa using hopen)
  rw [hactive] at hb
  cases hb

/-- A step that touches no transfer. -/
theorem Owner.kept (h : s.Owner) (hattempts : s'.attempts = s.attempts)
    (hsession : s'.session = s.session) (hprepared : s'.prepared = s.prepared ∨ s'.prepared = none)
    (hcall : ∀ {phase frame}, s'.location = .BarrierCall (.Advance phase) frame →
      phase = BarrierClientConfiguration ∨ phase = BarrierReady) : s'.Owner := by
  refine ⟨?_, ?_, ?_, ?_, hcall⟩
  · rw [hattempts]
    exact h.sound
  · rw [hattempts, hsession]
    exact h.active
  · rw [hattempts]
    exact h.unique
  · intro k hk
    rw [hattempts]
    obtain hsame | hnone := hprepared
    · exact h.held (hsame ▸ hk)
    · rw [hnone] at hk
      cases hk

/-- A step that moves the barrier of the open transfer, whoever owns it. -/
theorem Owner.advanced (h : s.Owner) (hattempts : s'.attempts = s.attempts)
    (hprepared : s'.prepared = s.prepared)
    (hactive : ∀ {attempt : Attempt} {b : BarrierState}, s.session.active = some b →
      b.phase ∈ attempt.phases → ∃ b', s'.session.active = some b' ∧ b'.phase ∈ attempt.phases)
    (hcall : ∀ {phase frame}, s'.location ≠ .BarrierCall (.Advance phase) frame) : s'.Owner := by
  refine ⟨?_, ?_, ?_, ?_, fun hcall' => absurd hcall' hcall⟩
  · rw [hattempts]
    exact h.sound
  · intro k attempt hattempt hopened
    rw [hattempts] at hattempt
    obtain ⟨b, hb, hphase⟩ := h.active hattempt hopened
    exact hactive hb hphase
  · rw [hattempts]
    exact h.unique
  · rw [hattempts, hprepared]
    exact h.held

/-- A step that changes one attempt. Either no other attempt is open, or the
changed one is closed and the session stays as it is. -/
theorem Owner.replaced {new : Attempt} (h : s.Owner) (hk : s'.attempts[k]? = some new)
    (hne : ∀ i, i ≠ k → s'.attempts[i]? = s.attempts[i]?) (hsound : new.Sound)
    (hopened : new.opened = true → ∃ b, s'.session.active = some b ∧ b.phase ∈ new.phases)
    (hothers : (∀ i x, i ≠ k → s.attempts[i]? = some x → x.opened = false) ∨
      (new.opened = false ∧ s'.session = s.session))
    (hprepared : s'.prepared = s.prepared ∨ s'.prepared = none ∨ s'.prepared = some k)
    (hdone : s'.prepared = some k → new.location = .Done ∧ new.prepared.isSome = true)
    (hcall : ∀ {phase frame}, s'.location = .BarrierCall (.Advance phase) frame →
      phase = BarrierClientConfiguration ∨ phase = BarrierReady) : s'.Owner := by
  have hcases : ∀ {i : Nat} {x : Attempt}, s'.attempts[i]? = some x →
      (i = k ∧ x = new) ∨ (i ≠ k ∧ s.attempts[i]? = some x) := by
    intro i x hx
    by_cases hik : i = k
    · subst hik
      rw [hk, Option.some.injEq] at hx
      exact .inl ⟨rfl, hx.symm⟩
    · rw [hne i hik] at hx
      exact .inr ⟨hik, hx⟩
  refine ⟨?_, ?_, ?_, ?_, hcall⟩
  · intro i x hx
    obtain ⟨_, rfl⟩ | ⟨_, hx⟩ := hcases hx
    · exact hsound
    · exact h.sound hx
  · intro i x hx hxopened
    obtain ⟨_, rfl⟩ | ⟨hik, hx⟩ := hcases hx
    · exact hopened hxopened
    · obtain hclosed | ⟨_, hsession⟩ := hothers
      · rw [hclosed i x hik hx] at hxopened
        cases hxopened
      · rw [hsession]
        exact h.active hx hxopened
  · intro i j x y hx hy hxopened hyopened
    obtain ⟨hi, hxnew⟩ | ⟨hi, hx⟩ := hcases hx <;> obtain ⟨hj, hynew⟩ | ⟨hj, hy⟩ := hcases hy
    · rw [hi, hj]
    · obtain hclosed | ⟨hclosed, _⟩ := hothers
      · rw [hclosed j y hj hy] at hyopened
        cases hyopened
      · rw [hxnew, hclosed] at hxopened
        cases hxopened
    · obtain hclosed | ⟨hclosed, _⟩ := hothers
      · rw [hclosed i x hi hx] at hxopened
        cases hxopened
      · rw [hynew, hclosed] at hyopened
        cases hyopened
    · exact h.unique hx hy hxopened hyopened
  · intro i hi
    by_cases hik : i = k
    · subst hik
      exact ⟨new, hk, hdone hi⟩
    · rw [hne i hik]
      obtain hsame | hnone | hself := hprepared
      · exact h.held (hsame ▸ hi)
      · rw [hnone] at hi
        cases hi
      · rw [hself, Option.some.injEq] at hi
        exact absurd hi.symm hik

/-- The loop holds the transfers of finished calls only. -/
theorem Owner.not_held (h : s.Owner) (hattempt : s.attempts[k]? = some attempt)
    (hlocation : attempt.location ≠ .Done) : s.prepared ≠ some k := by
  intro hk
  obtain ⟨held, hheld, hdone, _⟩ := h.held hk
  rw [hattempt, Option.some.injEq] at hheld
  subst hheld
  exact hlocation hdone

/-- An attempt that is past `Prepare`, or before it, moves on. -/
theorem Owner.relabeled {location : PrepareLocation} (h : s.Owner)
    (hattempt : s.attempts[k]? = some attempt) (hold : attempt.location.working = false)
    (hnew : location = .Done ∨ ∃ e, location = .Outcome (some e) ∧ attempt.location = .Start)
    (hattempts : s'.attempts = (s.moveAttempt k location).attempts) (hsession : s'.session = s.session)
    (hprepared : s'.prepared = s.prepared ∨ s'.prepared = none ∨ s'.prepared = some k)
    (hdone : s'.prepared = some k → location = .Done ∧ attempt.prepared.isSome = true)
    (hcall : ∀ {phase frame}, s'.location = .BarrierCall (.Advance phase) frame →
      phase = BarrierClientConfiguration ∨ phase = BarrierReady) : s'.Owner := by
  have hworking : location.working = false := by
    obtain rfl | ⟨e, rfl, _⟩ := hnew <;> rfl
  have hsame : ({ attempt with location } : Attempt).opened = attempt.opened := by
    simp [Attempt.opened, hold, hworking]
  have hk : s'.attempts[k]? = some { attempt with location } := by
    rw [hattempts]
    exact attempts_moveAttempt location hattempt
  have hne : ∀ i, i ≠ k → s'.attempts[i]? = s.attempts[i]? := by
    intro i hi
    rw [hattempts]
    exact attempts_moveAttempt_ne location hi
  refine h.replaced hk hne ?_ ?_ ?_ hprepared hdone hcall
  · refine ⟨?_, ?_, (h.sound hattempt).final⟩
    · rintro (hwork | hstart)
      · rw [hworking] at hwork
        cases hwork
      · obtain rfl | ⟨e, rfl, _⟩ := hnew <;> cases hstart
    · rintro houtcome
      obtain rfl | ⟨e, rfl, _⟩ := hnew <;> cases houtcome
  · intro hopened
    rw [hsame] at hopened
    obtain ⟨b, hb, hphase⟩ := h.active hattempt hopened
    refine ⟨b, by rw [hsession]; exact hb, ?_⟩
    rw [Attempt.phases_of_idle hworking]
    rwa [Attempt.phases_of_idle hold] at hphase
  · by_cases hopened : attempt.opened = true
    · exact .inl fun i x hi hx => h.alone hattempt hopened hi hx
    · exact .inr ⟨by rw [hsame]; simpa using hopened, hsession⟩

/-- A prepared transfer belongs to a call of `Prepare` that has returned. -/
theorem Owner.prepared_idle {p : Prepared} (h : s.Owner) (hattempt : s.attempts[k]? = some attempt)
    (hopen : attempt.prepared = some p) :
    attempt.location.working = false ∧ attempt.location ≠ .Start := by
  refine ⟨?_, ?_⟩
  · by_contra hworking
    have hnone := (h.sound hattempt).unprepared (.inl (by simpa using hworking))
    rw [hopen] at hnone
    cases hnone
  · intro hstart
    have hnone := (h.sound hattempt).unprepared (.inr hstart)
    rw [hopen] at hnone
    cases hnone

/-- What ends a prepared transfer either finds it finalized or finalizes it. -/
structure Finalizes (p : Prepared) (session : Session) (p' : Prepared) (session' : Session) : Prop where
  finalized : p'.finalized = true
  same : p.finalized = true → session' = session

/-- `Rollback` finalizes, and does nothing the second time. -/
theorem finalizes_rollback (p : Prepared) (session : Session) :
    Finalizes p session (p.rollback session).1 (p.rollback session).2.1 := by
  unfold Prepared.rollback
  split
  · rename_i hfinal
    exact ⟨hfinal, fun _ => rfl⟩
  · rename_i hopen
    exact ⟨rfl, fun hfinal => absurd hfinal hopen⟩

theorem finalizes_timeout (p : Prepared) (session : Session) :
    Finalizes p session (p.timeout session).1 (p.timeout session).2.1 := by
  unfold Prepared.timeout
  split
  · rename_i hfinal
    exact ⟨hfinal, fun _ => rfl⟩
  · rename_i hopen
    exact ⟨rfl, fun hfinal => absurd hfinal hopen⟩

theorem finalizes_release {p p' : Prepared} {session session' : Session} {replay : Replay}
    {conn : Option Nat} {effects : List transfer.Effect}
    (h : p.release session = .ok ((replay, conn), p', session', effects)) :
    Finalizes p session p' session' := by
  obtain ⟨hopen, _, _, rfl, _⟩ := Prepared.release_eq_ok.mp h
  refine ⟨rfl, ?_⟩
  rw [hopen]
  nofun

/-- A prepared transfer ends. -/
theorem Owner.closed {p p' : Prepared} {location : PrepareLocation} (h : s.Owner)
    (hattempt : s.attempts[k]? = some attempt) (hopen : attempt.prepared = some p)
    (hends : Finalizes p s.session p' s'.session)
    (hlocation : location = attempt.location ∨ location = .Done)
    (hk : s'.attempts[k]? = some { attempt with location, prepared := some p' })
    (hne : ∀ i, i ≠ k → s'.attempts[i]? = s.attempts[i]?)
    (hprepared : s'.prepared = s.prepared ∨ s'.prepared = none)
    (hcall : ∀ {phase frame}, s'.location = .BarrierCall (.Advance phase) frame →
      phase = BarrierClientConfiguration ∨ phase = BarrierReady) : s'.Owner := by
  obtain ⟨hworking, hstart⟩ : location.working = false ∧ location ≠ .Start := by
    obtain rfl | rfl := hlocation
    · exact h.prepared_idle hattempt hopen
    · exact ⟨rfl, nofun⟩
  have hnew : ({ attempt with location, prepared := some p' } : Attempt).opened = false := by
    simp [Attempt.opened, hworking, hends.finalized]
  refine h.replaced hk hne ?_ ?_ ?_ ?_ ?_ hcall
  · refine ⟨?_, fun _ => rfl, ?_⟩
    · rintro (hwork | hbefore)
      · rw [hworking] at hwork
        cases hwork
      · exact absurd hbefore hstart
    · intro other hother _
      cases hother
      exact hends.finalized
  · rw [hnew]
    nofun
  · by_cases hfinal : p.finalized = true
    · exact .inr ⟨hnew, hends.same hfinal⟩
    · refine .inl fun i x hi hx => h.alone hattempt ?_ hi hx
      simp [Attempt.opened, hopen, hfinal]
  · exact hprepared.imp_right .inl
  · intro hheld
    refine ⟨?_, rfl⟩
    obtain rfl | rfl := hlocation
    · obtain hsame | hnone := hprepared
      · obtain ⟨held, hheld', hdone, _⟩ := h.held (hsame ▸ hheld)
        rw [hattempt, Option.some.injEq] at hheld'
        rw [hheld']
        exact hdone
      · rw [hnone] at hheld
        cases hheld
    · rfl

/-- A step of `Prepare` within its transfer. -/
theorem Owner.worked {new : Attempt} (h : s.Owner) (hattempt : s.attempts[k]? = some attempt)
    (hworking : attempt.location.working = true) (hk : s'.attempts[k]? = some new)
    (hne : ∀ i, i ≠ k → s'.attempts[i]? = s.attempts[i]?) (hsound : new.Sound)
    (hopened : ∀ {b}, s.session.active = some b → b.phase ∈ attempt.phases → new.opened = true →
      ∃ b', s'.session.active = some b' ∧ b'.phase ∈ new.phases)
    (hprepared : s'.prepared = s.prepared) (hsame : s'.location = s.location) : s'.Owner := by
  have hopen : attempt.opened = true := by simp [Attempt.opened, hworking]
  obtain ⟨b, hb, hphase⟩ := h.active hattempt hopen
  refine h.replaced hk hne hsound (hopened hb hphase) (.inl fun i x hi hx => h.alone hattempt hopen hi hx)
    (.inl hprepared) ?_ ?_
  · intro hheld
    refine absurd (hprepared ▸ hheld) (h.not_held hattempt ?_)
    intro hdone
    rw [hdone] at hworking
    cases hworking
  · intro phase frame hcall
    exact h.call (hsame ▸ hcall)

/-- A call of `Prepare` that goes on while it has the barrier. -/
theorem Owner.moves {location : PrepareLocation} (h : s.Owner) (hattempt : s.attempts[k]? = some attempt)
    (hworking : attempt.location.working = true) (hworking' : location.working = true)
    (hattempts : s'.attempts = (s.moveAttempt k location).attempts)
    (hprepared : s'.prepared = s.prepared) (hsame : s'.location = s.location)
    (hphases : ∀ {b}, s.session.active = some b → b.phase ∈ attempt.phases →
      ∃ b', s'.session.active = some b' ∧ b'.phase ∈ ({ attempt with location } : Attempt).phases) :
    s'.Owner := by
  have hnone := (h.sound hattempt).unprepared (.inl hworking)
  refine h.worked hattempt hworking ?_ ?_ ?_ (fun hb hphase _ => hphases hb hphase) hprepared hsame
  · rw [hattempts]
    exact attempts_moveAttempt location hattempt
  · intro i hi
    rw [hattempts]
    exact attempts_moveAttempt_ne location hi
  · refine ⟨fun _ => hnone, ?_, (h.sound hattempt).final⟩
    rintro rfl
    cases hworking'

theorem advance_active {session session' : Session} {phase : BarrierPhase}
    (h : session.advance_barrier phase = .ok session') :
    ∃ b, session'.active = some b ∧ b.phase = phase := by
  obtain ⟨b, hactive, _, rfl⟩ := Session.advance_barrier_eq_ok.mp h
  exact ⟨_, Session.active_eq_some.mpr ⟨(Session.active_eq_some.mp hactive).1, rfl⟩, rfl⟩

theorem begin_active {session session' : Session} {ids : List Int} {limit : Int}
    (h : session.begin_transfer ids limit = .ok session') :
    session.active = none ∧ ∃ b, session'.active = some b ∧ b.phase = BarrierDraining := by
  obtain ⟨hstate, rfl⟩ := Session.begin_transfer_eq_ok.mp h
  refine ⟨?_, _, rfl, rfl⟩
  obtain hstate | hstate := hstate <;> simp [Session.active, hstate]

/-- A new attempt has no transfer yet. -/
theorem Owner.appended {new : Attempt} (h : s.Owner) (hattempts : s'.attempts = s.attempts ++ [new])
    (hstart : new.location = .Start) (hnone : new.prepared = none) (hsession : s'.session = s.session)
    (hprepared : s'.prepared = s.prepared)
    (hcall : ∀ {phase frame}, s'.location = .BarrierCall (.Advance phase) frame →
      phase = BarrierClientConfiguration ∨ phase = BarrierReady) : s'.Owner := by
  have hclosed : new.opened = false := by simp [Attempt.opened, hstart, hnone, PrepareLocation.working]
  have hcases : ∀ {i : Nat} {x : Attempt}, s'.attempts[i]? = some x → s.attempts[i]? = some x ∨ x = new := by
    intro i x hx
    rw [hattempts, List.getElem?_append] at hx
    split at hx
    · exact .inl hx
    · exact .inr (List.mem_singleton.mp (List.mem_of_getElem? hx))
  refine ⟨?_, ?_, ?_, ?_, hcall⟩
  · intro i x hx
    obtain hx | rfl := hcases hx
    · exact h.sound hx
    · refine ⟨fun _ => hnone, ?_, ?_⟩
      · rw [hstart]
        nofun
      · rw [hnone]
        nofun
  · intro i x hx hopened
    obtain hx | rfl := hcases hx
    · rw [hsession]
      exact h.active hx hopened
    · rw [hclosed] at hopened
      cases hopened
  · intro i j x y hx hy hxopened hyopened
    obtain hx | rfl := hcases hx
    · obtain hy | rfl := hcases hy
      · exact h.unique hx hy hxopened hyopened
      · rw [hclosed] at hyopened
        cases hyopened
    · rw [hclosed] at hxopened
      cases hxopened
  · intro i hi
    obtain ⟨held, hheld, hdone⟩ := h.held (hprepared ▸ hi)
    refine ⟨held, ?_, hdone⟩
    rw [hattempts, List.getElem?_append_left (List.getElem?_eq_some_iff.mp hheld).1]
    exact hheld

/-- A client frame moves the barrier only within the phases of a prepared
transfer. -/
theorem called_phases {call : BarrierCall} {session : Session} {b : BarrierState}
    (hcall : ∀ phase, call = .Advance phase → phase = BarrierClientConfiguration ∨ phase = BarrierReady)
    (hperform : call.perform s.session = (session, none)) (hactive : s.session.active = some b)
    (hphase : b.phase ∈ attempt.phases) :
    ∃ b', session.active = some b' ∧ b'.phase ∈ attempt.phases := by
  refine ⟨call.applied b, (BarrierCall.perform_active hactive hperform).1, ?_⟩
  cases call with
  | Done => exact hphase
  | Input input =>
    rw [BarrierCall.applied, BarrierState.handle_phase]
    exact hphase
  | Advance phase =>
    simp only [BarrierCall.perform] at hperform
    cases hadvance : s.session.advance_barrier phase with
    | error e => simp [hadvance] at hperform
    | ok next =>
      obtain ⟨old, hold, hnext, _⟩ := Session.advance_barrier_eq_ok.mp hadvance
      rw [hactive, Option.some.injEq] at hold
      subst hold
      have hlater : b.phase + 1 ∈
          [BarrierClientConfiguration, BarrierAwaitingClientConfigurationFinish, BarrierReady] := by
        rw [← hnext]
        obtain rfl | rfl := hcall phase rfl <;> decide
      rw [BarrierCall.applied, hnext]
      exact Attempt.phases_succ hphase hlater

/-- So does the end of `WriteClientConfiguration`. -/
theorem write_finish_phases {p : Prepared} {session session' : Session}
    (hfinish : p.write_finish session = .ok session') {b : BarrierState}
    (hactive : session.active = some b) (hphase : b.phase ∈ attempt.phases) :
    ∃ b', session'.active = some b' ∧ b'.phase ∈ attempt.phases := by
  obtain ⟨_, old, hold, hwriting, rfl⟩ := Prepared.write_finish_eq_ok.mp hfinish
  rw [hactive, Option.some.injEq] at hold
  subst hold
  have hnext : BarrierAwaitingClientConfigurationFinish = b.phase + 1 := by
    rw [hwriting]
    rfl
  refine ⟨_, Session.active_eq_some.mpr ⟨(Session.active_eq_some.mp hactive).1, rfl⟩, ?_⟩
  dsimp only
  rw [hnext]
  exact Attempt.phases_succ hphase (by rw [← hnext]; decide)

/-- One step: the barrier belongs to the one call of `Prepare`, or prepared transfer,
that is open. -/
theorem effect_owner (h : s.Owner) (heffect : Effect cfg q s a q' s') : s'.Owner := by
  cases heffect with
  | failed | timed_out | join_packet | join_sent | teleported | keep_alive_sent | ticked | status_due
  | unplaced | placed | action_bar_sent | frame_malformed | barrier_frame | limbo_frame
  | barrier_inactive | barrier_refused | call_refused | progressed | progress_writes | progress_releases
  | answer_refused | answered | answered_enqueued | frame_accepted | frame_refused | challenge_failed
  | challenge_unqueued | begin_checked | begin_refused | start_sent | begin_rechecked | write_checked
  | packet_sent | finish_sent | replayed | relayed | item_cancelled | context_cancelled | untracked =>
    exact h.kept rfl rfl (.inl rfl) (by rintro _ _ ⟨⟩)
  | answer_unqueued _ _ _ _ hnext =>
    obtain rfl | rfl := hnext <;> exact h.kept rfl rfl (.inl rfl) (by rintro _ _ ⟨⟩)
  | idle | challenge_passed | challenge_enqueued | admission_refused | admit_called | admit_sent
  | admit_received | admit_cancelled | caller_cancelled => exact h.kept rfl rfl (.inl rfl) h.call
  | transfer_lost hlocation =>
    obtain ⟨_, heq⟩ | ⟨request, _, heq⟩ := respond_cases _ _ _ <;> rw [heq]
    · exact h.kept rfl rfl (.inl rfl) (by rintro _ _ ⟨⟩)
    · exact h.kept rfl rfl (.inr rfl) h.call
  | admitted hlocation =>
    obtain ⟨_, heq⟩ | ⟨request, _, heq⟩ := respond_cases _ _ _ <;> rw [heq]
    all_goals exact h.kept rfl rfl (.inl rfl) (by rintro _ _ ⟨⟩)
  | barrier_read hlocation hactive hcall =>
    refine h.kept rfl rfl (.inl rfl) ?_
    intro phase frame hframe
    cases hframe
    obtain ⟨_, rfl⟩ | ⟨_, rfl⟩ := barrier_call_advance hcall
    · exact .inl rfl
    · exact .inr rfl
  | called hlocation hperform =>
    refine h.advanced rfl rfl ?_ (by rintro _ _ ⟨⟩)
    intro attempt b hactive hphase
    refine called_phases ?_ hperform hactive hphase
    rintro phase rfl
    exact h.call hlocation
  | write_finished hlocation hprepared hattempt hopen hfinish =>
    exact h.advanced rfl rfl (write_finish_phases hfinish) (by rintro _ _ ⟨⟩)
  | admission_accepted hlocation =>
    exact h.appended rfl rfl rfl rfl rfl h.call
  | @prepare_failed k attempt e hlocation hresult hattempt houtcome =>
    have hworking : attempt.location.working = false := by
      rw [houtcome]
      rfl
    have hnot := h.not_held hattempt (by rw [houtcome]; rintro ⟨⟩)
    obtain ⟨_, heq⟩ | ⟨request, _, heq⟩ := respond_cases _ _ _ <;> rw [heq]
    · exact h.relabeled hattempt hworking (.inl rfl) rfl rfl (.inl rfl) (fun hheld => absurd hheld hnot)
        (by rintro _ _ ⟨⟩)
    · exact h.relabeled hattempt hworking (.inl rfl) rfl rfl (.inl rfl) (fun hheld => absurd hheld hnot) h.call
  | prepare_succeeded hlocation hresult hattempt houtcome =>
    refine h.relabeled hattempt (by rw [houtcome]; rfl) (.inl rfl) rfl rfl (.inr (.inr rfl)) ?_ (by rintro _ _ ⟨⟩)
    exact fun _ => ⟨rfl, (h.sound hattempt).outcome houtcome⟩
  | begin_undone hlocation hprepared hattempt hopen =>
    obtain ⟨_, heq⟩ | ⟨request, _, heq⟩ := respond_cases _ _ _ <;> rw [heq]
    · exact h.closed hattempt hopen (finalizes_rollback _ _) (.inl rfl) (attempts_setPrepared _ hattempt)
        (fun i hi => attempts_setPrepared_ne _ hi) (.inl rfl) (by rintro _ _ ⟨⟩)
    · exact h.closed hattempt hopen (finalizes_rollback _ _) (.inl rfl) (attempts_setPrepared _ hattempt)
        (fun i hi => attempts_setPrepared_ne _ hi) (.inr rfl) (by rintro _ _ ⟨⟩)
  | released hlocation hprepared hattempt hopen hrelease =>
    exact h.closed hattempt hopen (finalizes_release hrelease) (.inl rfl) (attempts_setPrepared _ hattempt)
      (fun i hi => attempts_setPrepared_ne _ hi) (.inl rfl) (by rintro _ _ ⟨⟩)
  | barrier_timed_out hattempt hopen =>
    exact h.closed hattempt hopen (finalizes_timeout _ _) (.inl rfl) (attempts_setPrepared _ hattempt)
      (fun i hi => attempts_setPrepared_ne _ hi) (.inl rfl) h.call
  | transfer_dropped hattempt houtcome hopen =>
    refine h.closed hattempt hopen (finalizes_rollback _ _) (.inr rfl)
      (attempts_setPrepared _ (attempts_moveAttempt _ hattempt)) ?_ (.inl rfl) h.call
    intro i hi
    exact (attempts_setPrepared_ne _ hi).trans (attempts_moveAttempt_ne _ hi)
  | outcome_dropped hattempt houtcome =>
    have hnot := h.not_held hattempt (by rw [houtcome]; rintro ⟨⟩)
    exact h.relabeled hattempt (by rw [houtcome]; rfl) (.inl rfl) rfl rfl (.inl rfl)
      (fun hheld => absurd hheld hnot) h.call
  | prepare_refused hattempt hstart =>
    have hnot := h.not_held hattempt (by rw [hstart]; rintro ⟨⟩)
    exact h.relabeled hattempt (by rw [hstart]; rfl) (.inr ⟨_, rfl, hstart⟩) rfl rfl (.inl rfl)
      (fun hheld => absurd hheld hnot) h.call
  | @transfer_begun k attempt _ _ session hattempt hstart hcoordinator hbegin =>
    obtain ⟨hinactive, b, hactive, hphase⟩ := begin_active hbegin
    have hnot := h.not_held hattempt (by rw [hstart]; rintro ⟨⟩)
    have hnone := (h.sound hattempt).unprepared (.inr hstart)
    refine h.replaced (attempts_moveAttempt _ hattempt) (fun i hi => attempts_moveAttempt_ne _ hi) ?_ ?_
      (.inl fun i x _ hx => h.none_opened hinactive hx) (.inl rfl) (fun hheld => absurd hheld hnot) h.call
    · exact ⟨fun _ => hnone, by rintro ⟨⟩, (h.sound hattempt).final⟩
    · intro _
      exact ⟨b, hactive, List.mem_singleton.mpr hphase⟩
  | prepare_aborted hattempt hworking =>
    refine h.moves hattempt hworking rfl rfl rfl rfl ?_
    intro b hb hphase
    exact ⟨b, hb, Attempt.phases_of_working hworking hphase⟩
  | login_phase hattempt hpoint hadvance | configuration_phase hattempt hpoint hadvance =>
    refine h.moves hattempt (by rw [hpoint]; rfl) rfl rfl rfl rfl ?_
    intro _ _ _
    obtain ⟨b, hactive, hphase⟩ := advance_active hadvance
    exact ⟨b, hactive, List.mem_singleton.mpr hphase⟩
  | dialed hattempt hpoint | logged_in hattempt hpoint | configured hattempt hpoint =>
    refine h.moves hattempt (by rw [hpoint]; rfl) rfl rfl rfl rfl ?_
    intro b hb hphase
    refine ⟨b, hb, ?_⟩
    simpa [Attempt.phases, hpoint] using hphase
  | @prepared k attempt _ packets session hattempt hpoint hadvance =>
    refine h.worked hattempt (by rw [hpoint]; rfl) (attempts_setPrepared _ (attempts_moveAttempt _ hattempt))
      ?_ ?_ ?_ rfl rfl
    · intro i hi
      exact (attempts_setPrepared_ne _ hi).trans (attempts_moveAttempt_ne _ hi)
    · refine ⟨by simp [PrepareLocation.working], fun _ => rfl, ?_⟩
      intro p hp herr
      cases hp
      cases herr
    · intro _ _ _ _
      obtain ⟨b, hactive, hphase⟩ := advance_active hadvance
      exact ⟨b, hactive, hphase ▸ List.mem_cons_self⟩
  | @rolled_back k attempt _ e hattempt hpoint =>
    have hnone := (h.sound hattempt).unprepared (.inl (by rw [hpoint]; rfl))
    refine h.worked hattempt (by rw [hpoint]; rfl) (attempts_moveAttempt _ hattempt)
      (fun i hi => attempts_moveAttempt_ne _ hi) ?_ ?_ rfl rfl
    · exact ⟨fun _ => hnone, by rintro ⟨⟩, (h.sound hattempt).final⟩
    · intro b _ _ hopened
      simp [Attempt.opened, hnone, PrepareLocation.working] at hopened

theorem start_owner (conn : Conn) (uuid : UUID) (required : Option Int) :
    (start conn uuid required).Owner :=
  ⟨nofun, nofun, nofun, nofun, nofun⟩

end Step

end Limbo

end regiongate.server
