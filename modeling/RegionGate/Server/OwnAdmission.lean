import RegionGate.Server.AdmissionAnswers
import RegionGate.Server.AdmissionGate
import RegionGate.Server.TransferOwner

open regiongate.session regiongate.transfer execution

namespace regiongate.server

namespace Limbo

/-- The session's own `Admit` returns no error while the loop runs. -/
def admittedOrEnded (s : Limbo) : Action → Bool
  | .AdmitReceived i => s.location.ended || ((s.calls[i]?).bind (·.results.head?)).all (·.isNone)
  | .AdmitCalled own => own
  | _ => true

/-- The session plays on the backend and no transfer of it is left. -/
def HandedOver (s : Limbo) : Prop :=
  s.session.state = .BackendPlay ∧
    ∀ attempt ∈ s.attempts, attempt.location = .Done ∧ ∃ p, attempt.prepared = some p ∧ p.finalized = true

/-- How an admission of the session stands when it has at most one caller, which is
its own queue item. -/
structure Admission (cfg : Config) (s : Limbo) : Prop where
  owner : s.Owner
  requests : s.Requests
  -- the gate was tried whenever it opened
  settled : s.location.ended = true ∨ s.Waits cfg
  done : s.queue_done = true ∨ s.tracked = false → s.location.ended = true
  own : ∀ call ∈ s.calls, call.own = true
  -- every request made one attempt at most
  places : s.attempts.length + s.admissions.length ≤ s.calls.countP (·.placed)
  handing : s.location.handing = true → s.HandedOver
  succeeded : ∀ call ∈ s.calls, none ∈ call.results → s.location = .Bridge ∨ s.location.ended = true
  returned : ∀ call ∈ s.calls, ∀ result, call.location = .Returned result →
    none ∈ call.results ∨ s.location.ended = true

section Step

variable {cfg : Config} {q q' : AdmissionQueue} {s s' : Limbo} {a : Action}

/-- A player waits on through a step that touches neither the hook nor the count. -/
theorem Waits.ungated (h : s.Waits cfg) (hsame : s.Ungated s') : s'.Waits cfg := by
  unfold Waits Open at h ⊢
  rw [hsame.queued, hsame.passed, hsame.required_keep_alives, hsame.valid]
  exact h

/-- One step: unless the session has ended, whoever may enter the queue is in it or
was. -/
theorem effect_settled (h : s.location.ended = true ∨ s.Waits cfg) (heffect : Effect cfg q s a q' s') :
    s'.location.ended = true ∨ s'.Waits cfg := by
  cases hended : s'.location.ended with
  | true => exact .inl rfl
  | false =>
    have hwaits := h.resolve_left (by simp [heffect.running hended])
    refine .inr ?_
    cases gate_effect heffect with
    | ungated hsame => exact hwaits.ungated hsame
    | answered _ _ _ _ hwaits' | challenge_passed _ _ hwaits' => exact hwaits'.resolve_left (by simp [hended])
    | answered_enqueued _ _ _ hsame => exact .inl hsame.queued
    | challenge_failed => cases hended
    | challenge_enqueued => exact .inl rfl

/-- One step: the queue's context ends, and the session is untracked, when the loop
has ended. -/
theorem effect_done (h : s.queue_done = true ∨ s.tracked = false → s.location.ended = true)
    (heffect : Effect cfg q s a q' s') (hdone : s'.queue_done = true ∨ s'.tracked = false) :
    s'.location.ended = true := by
  by_contra hrunning
  have hrunning' := heffect.running (by simpa using hrunning)
  have hopen : ¬ (s.queue_done = true ∨ s.tracked = false) := fun hdone => by simp [h hdone] at hrunning'
  cases heffect with
  | context_cancelled | untracked => exact hrunning rfl
  | prepare_failed | transfer_lost | begin_undone | admitted =>
    obtain ⟨_, heq⟩ | ⟨request, _, heq⟩ := respond_cases _ _ _ <;> rw [heq] at hdone <;> exact hopen hdone
  | answer_unqueued _ _ _ _ hnext => obtain rfl | rfl := hnext <;> exact hopen hdone
  | _ => exact hopen hdone

theorem mem_modify {α : Type} {l : List α} {i : Nat} {f : α → α} {x : α} (h : x ∈ l.modify i f) :
    x ∈ l ∨ ∃ old, l[i]? = some old ∧ x = f old := by
  obtain ⟨j, hj⟩ := List.mem_iff_getElem?.mp h
  obtain ⟨old, hold, rfl⟩ := modify_eq_some hj
  split
  · rename_i hij
    subst hij
    exact .inr ⟨old, hold, rfl⟩
  · exact .inl (List.mem_of_getElem? hold)

/-- Where a call comes from that is there after a step. -/
inductive CallStep (s : Limbo) (a : Action) (s' : Limbo) (call : AdmitCall) : Prop where
  | same (hcall : call ∈ s.calls)
  | called (haction : a = .AdmitCalled call.own) (hlocation : call.location = .Sending)
      (hresults : call.results = [])
  | kept {old : AdmitCall} (hold : old ∈ s.calls) (hown : call.own = old.own)
      (hlocation : ∀ result, call.location = .Returned result → old.location = .Returned result)
      (hresults : call.results = old.results)
  | answered {old : AdmitCall} {err : Option Error} (hold : old ∈ s.calls)
      (hcall : call = { old with results := old.results ++ [err] }) (herr : err = none → s'.location = .Bridge)
  | received {old : AdmitCall} {i : Nat} {result : Option Error} (haction : a = .AdmitReceived i)
      (hold : s.calls[i]? = some old) (hresult : old.results.head? = some result)
      (hcall : call = { old with location := .Returned result })
  | cancelled {old : AdmitCall} (hold : old ∈ s.calls) (hdone : s.contextDone old = true)
      (hcall : call = { old with location := .Returned (some .ContextDone) })

theorem call_sent {calls : List AdmitCall} {request : Nat} {err : Option Error} {call : AdmitCall}
    (hcalls : s.calls = calls) (hcall : call ∈ calls.modify request fun call =>
      { call with results := call.results ++ [err] }) (herr : err = none → s'.location = .Bridge) :
    CallStep s a s' call := by
  subst hcalls
  obtain hsame | ⟨old, hold, rfl⟩ := mem_modify hcall
  · exact .same hsame
  · exact .answered (List.mem_of_getElem? hold) rfl herr

theorem call_step {call : AdmitCall} (heffect : Effect cfg q s a q' s') (hcall : call ∈ s'.calls) :
    CallStep s a s' call := by
  cases heffect with
  | admit_called =>
    obtain hsame | hnew := List.mem_append.mp hcall
    · exact .same hsame
    · rw [List.mem_singleton] at hnew
      subst hnew
      exact .called rfl rfl rfl
  | admit_sent hold hsending =>
    obtain hsame | ⟨old, hold, rfl⟩ := mem_modify hcall
    · exact .same hsame
    · exact .kept (List.mem_of_getElem? hold) rfl nofun rfl
  | admit_received hold hwaiting hresults =>
    obtain hsame | ⟨old, hold', rfl⟩ := mem_modify hcall
    · exact .same hsame
    · rw [hold, Option.some.injEq] at hold'
      subst hold'
      exact .received rfl hold (by rw [hresults]; rfl) rfl
  | admit_cancelled hold hdone hopen =>
    obtain hsame | ⟨old, hold', rfl⟩ := mem_modify hcall
    · exact .same hsame
    · rw [hold, Option.some.injEq] at hold'
      subst hold'
      exact .cancelled (List.mem_of_getElem? hold) hdone rfl
  | caller_cancelled =>
    obtain hsame | ⟨old, hold, rfl⟩ := mem_modify hcall
    · exact .same hsame
    · exact .kept (List.mem_of_getElem? hold) rfl (fun _ h => h) rfl
  | admission_refused => exact call_sent rfl hcall nofun
  | prepare_failed | transfer_lost | begin_undone =>
    obtain ⟨_, heq⟩ | ⟨request, _, heq⟩ := respond_cases _ _ _ <;> rw [heq] at hcall
    · exact .same hcall
    · exact call_sent rfl hcall nofun
  | admitted =>
    obtain ⟨_, heq⟩ | ⟨request, _, heq⟩ := respond_cases _ _ _ <;> rw [heq] at hcall ⊢
    · exact .same hcall
    · exact call_sent rfl hcall fun _ => rfl
  | answer_unqueued _ _ _ _ hnext => obtain rfl | rfl := hnext <;> exact .same hcall
  | _ => exact .same hcall

/-- One step: the scheduler is the only caller. -/
theorem effect_own (h : ∀ call ∈ s.calls, call.own = true) (hpermitted : s.admittedOrEnded a = true)
    (heffect : Effect cfg q s a q' s') : ∀ call ∈ s'.calls, call.own = true := by
  intro call hcall
  cases call_step heffect hcall with
  | same hcall => exact h call hcall
  | called haction =>
    rw [haction] at hpermitted
    exact hpermitted
  | kept hold hown => rw [hown, h _ hold]
  | answered hold hcall | cancelled hold _ hcall =>
    have hown := h _ hold
    rwa [hcall]
  | received _ hold _ hcall =>
    have hown := h _ (List.mem_of_getElem? hold)
    rwa [hcall]

/-- The bridge is left only to end. -/
theorem effect_bridge (heffect : Effect cfg q s a q' s')
    (hbridge : s.location = .Bridge ∨ s.location.ended = true) :
    s'.location = .Bridge ∨ s'.location.ended = true := by
  obtain hbridge | hended := hbridge
  · cases heffect with
    | failed => exact .inr rfl
    | prepare_failed hlocation | transfer_lost hlocation | begin_undone hlocation | admitted hlocation =>
      rw [hlocation] at hbridge
      cases hbridge
    | keep_alive_sent hlocation | idle hlocation =>
      obtain hlocation | hlocation := hlocation <;> rw [hlocation] at hbridge <;> cases hbridge
    | begin_refused hlocation =>
      obtain hlocation | hlocation | hlocation := hlocation <;> rw [hlocation] at hbridge <;> cases hbridge
    | _ => first | exact .inl hbridge | exact .inl rfl | simp_all
  · refine .inr ?_
    by_contra hrunning
    rw [heffect.running (by simpa using hrunning)] at hended
    cases hended

/-- One step: a success is sent when the client is handed over. -/
theorem effect_succeeded
    (h : ∀ call ∈ s.calls, none ∈ call.results → s.location = .Bridge ∨ s.location.ended = true)
    (heffect : Effect cfg q s a q' s') {call : AdmitCall} (hcall : call ∈ s'.calls) (hnone : none ∈ call.results) :
    s'.location = .Bridge ∨ s'.location.ended = true := by
  cases call_step heffect hcall with
  | same hcall => exact effect_bridge heffect (h call hcall hnone)
  | called _ _ hresults => simp [hresults] at hnone
  | kept hold _ _ hresults => exact effect_bridge heffect (h _ hold (hresults ▸ hnone))
  | answered hold hcall herr =>
    rw [hcall, List.mem_append, List.mem_singleton] at hnone
    obtain hnone | hnone := hnone
    · exact effect_bridge heffect (h _ hold hnone)
    · exact .inl (herr hnone.symm)
  | received _ hold _ hcall =>
    rw [hcall] at hnone
    exact effect_bridge heffect (h _ (List.mem_of_getElem? hold) hnone)
  | cancelled hold _ hcall =>
    rw [hcall] at hnone
    exact effect_bridge heffect (h _ hold hnone)

/-- One step: a call that has returned has got a success, or the session has ended. -/
theorem effect_returned (h : s.Admission cfg) (hpermitted : s.admittedOrEnded a = true)
    (heffect : Effect cfg q s a q' s') {call : AdmitCall} (hcall : call ∈ s'.calls) {result : Option Error}
    (hreturned : call.location = .Returned result) : none ∈ call.results ∨ s'.location.ended = true := by
  cases hended : s'.location.ended with
  | true => exact .inr rfl
  | false =>
    have hrunning := heffect.running hended
    have hstill : ∀ old ∈ s.calls, ∀ result, old.location = .Returned result → none ∈ old.results :=
      fun old hold result hlocation => (h.returned old hold result hlocation).resolve_right (by simp [hrunning])
    refine .inl ?_
    cases call_step heffect hcall with
    | same hcall => exact hstill call hcall result hreturned
    | called _ hlocation =>
      rw [hlocation] at hreturned
      cases hreturned
    | kept hold _ hlocation hresults => exact hresults ▸ hstill _ hold result (hlocation result hreturned)
    | answered hold hcall =>
      subst hcall
      exact List.mem_append_left _ (hstill _ hold result hreturned)
    | received haction hold hresult hcall =>
      subst hcall
      subst haction
      simp only [admittedOrEnded, hrunning, hold, Option.bind_some, hresult, Option.all_some, Bool.false_or,
        Option.isNone_iff_eq_none] at hpermitted
      subst hpermitted
      exact List.mem_of_mem_head? hresult
    | cancelled hold hdone =>
      -- its context is the session's own, which ends with the loop
      rw [contextDone, h.own _ hold, if_pos rfl] at hdone
      rw [h.done (.inl hdone)] at hrunning
      cases hrunning

theorem countP_modify {α : Type} {l : List α} {i : Nat} {f : α → α} {p : α → Bool} (h : ∀ x, p (f x) = p x) :
    (l.modify i f).countP p = l.countP p := by
  induction l generalizing i with
  | nil => simp
  | cons x rest ih =>
    cases i with
    | zero => simp [List.countP_cons, h]
    | succ i => simp [List.countP_cons, ih]

theorem countP_modify_new {α : Type} {l : List α} {i : Nat} {f : α → α} {p : α → Bool} {x : α}
    (hx : l[i]? = some x) (hold : p x = false) (hnew : p (f x) = true) :
    (l.modify i f).countP p = l.countP p + 1 := by
  induction l generalizing i with
  | nil => simp at hx
  | cons y rest ih =>
    cases i with
    | zero =>
      obtain rfl : y = x := by simpa using hx
      simp [hold, hnew]
    | succ i =>
      simp only [List.modify_succ_cons, List.countP_cons, ih (by simpa using hx)]
      omega

theorem placed_send (request : Nat) (err : Option Error) :
    (s.send request err).calls.countP (·.placed) = s.calls.countP (·.placed) :=
  countP_modify fun _ => rfl

theorem placed_moveCall (i : Nat) (location : AdmitLocation) :
    (s.moveCall i location).calls.countP (·.placed) = s.calls.countP (·.placed) :=
  countP_modify fun _ => rfl

/-- One step: every call of `Prepare` and every waiting request was placed by a call. -/
theorem effect_places (hrequests : s.Requests)
    (h : s.attempts.length + s.admissions.length ≤ s.calls.countP (·.placed)) (heffect : Effect cfg q s a q' s') :
    s'.attempts.length + s'.admissions.length ≤ s'.calls.countP (·.placed) := by
  cases heffect with
  | admission_refused _ hadmissions =>
    rw [placed_send]
    simp only [send, hadmissions, List.length_cons] at h ⊢
    omega
  | admission_accepted _ hadmissions =>
    rw [hadmissions, List.length_cons] at h
    simp only [List.length_append, List.length_singleton]
    omega
  | admit_called =>
    simpa [List.countP_append] using h
  | admit_sent hcall hsending hroom =>
    have hplaced := (hrequests.sending hcall hsending).1
    have hcount : (s.calls.modify _ fun call =>
        { call with location := .Waiting, placed := true }).countP (·.placed) = s.calls.countP (·.placed) + 1 :=
      countP_modify_new hcall hplaced rfl
    rw [hroom, List.length_nil] at h
    simp only [hcount, List.length_singleton]
    omega
  | admit_received | admit_cancelled =>
    rw [placed_moveCall]
    exact h
  | @caller_cancelled i =>
    have hcount : (s.calls.modify i fun call => { call with cancelled := true }).countP (·.placed) =
        s.calls.countP (·.placed) := countP_modify fun _ => rfl
    exact hcount ▸ h
  | prepare_failed | transfer_lost | begin_undone | admitted =>
    obtain ⟨_, heq⟩ | ⟨request, _, heq⟩ := respond_cases _ _ _ <;> rw [heq]
    · simpa [moveAttempt, setPrepared] using h
    · rw [placed_send]
      simpa [send, moveAttempt, setPrepared] using h
  | answer_unqueued _ _ _ _ hnext => obtain rfl | rfl := hnext <;> exact h
  | _ => first | exact h | simpa [moveAttempt, setPrepared] using h

theorem HandedOver.not_open {k : Nat} {attempt : Attempt} (h : s.HandedOver)
    (hattempt : s.attempts[k]? = some attempt) : attempt.location = .Done :=
  (h.2 attempt (List.mem_of_getElem? hattempt)).1

/-- The release of the only transfer hands the client over. -/
theorem released_handedOver {k : Nat} {attempt : Attempt} {p p' : Prepared} {session : Session} {replay : Replay}
    {conn : Option Nat} {effects : List transfer.Effect} {next : Limbo} (howner : s.Owner)
    (hone : s.attempts.length ≤ 1) (hprepared : s.prepared = some k) (hattempt : s.attempts[k]? = some attempt)
    (hrelease : p.release s.session = .ok ((replay, conn), p', session, effects))
    (hsession : next.session = session) (hattempts : next.attempts = (s.setPrepared k p').attempts) :
    next.HandedOver := by
  obtain ⟨_, _, _, rfl, hreleased⟩ := Prepared.release_eq_ok.mp hrelease
  obtain ⟨b, _, _, _, rfl⟩ := Session.release_transfer_eq_ok.mp hreleased
  refine ⟨by rw [hsession], ?_⟩
  rw [hattempts]
  intro x hx
  obtain ⟨i, hi⟩ := List.mem_iff_getElem?.mp hx
  obtain ⟨old, hold, rfl⟩ := modify_eq_some hi
  -- there is one attempt, so it is the released one
  have hki : k = i := by
    have hk := (List.getElem?_eq_some_iff.mp hattempt).1
    have hi := (List.getElem?_eq_some_iff.mp hold).1
    omega
  subst hki
  obtain ⟨held, hheld, hdone, _⟩ := howner.held hprepared
  rw [hold, Option.some.injEq] at hheld
  subst hheld
  simp [hdone]

/-- A late timeout does not take the client back. -/
theorem HandedOver.timed_out {k : Nat} {attempt : Attempt} {p : Prepared} {next : Limbo} (h : s.HandedOver)
    (hattempt : s.attempts[k]? = some attempt) (hopen : attempt.prepared = some p)
    (hsession : next.session = (p.timeout s.session).2.1)
    (hattempts : next.attempts = (s.setPrepared k (p.timeout s.session).1).attempts) : next.HandedOver := by
  have hfinal : p.finalized = true := by
    obtain ⟨_, p', hp', hfinal⟩ := h.2 attempt (List.mem_of_getElem? hattempt)
    rw [hopen, Option.some.injEq] at hp'
    exact hp' ▸ hfinal
  have hfinalizes := finalizes_timeout p s.session
  refine ⟨by rw [hsession, hfinalizes.same hfinal, h.1], ?_⟩
  rw [hattempts]
  intro x hx
  obtain hsame | ⟨old, hold, rfl⟩ := mem_modify hx
  · exact h.2 x hsame
  · exact ⟨(h.2 old (List.mem_of_getElem? hold)).1, _, rfl, hfinalizes.finalized⟩

/-- With one attempt at most, nothing moves the session once its transfer is
released. -/
theorem effect_handing (h : s.Admission cfg) (hsingle : s.calls.length ≤ 1) (heffect : Effect cfg q s a q' s')
    (hhanding : s'.location.handing = true) : s'.HandedOver := by
  have hone : s.attempts.length ≤ 1 := by
    have hplaces := h.places
    have hcount : s.calls.countP (·.placed) ≤ s.calls.length := List.countP_le_length
    omega
  cases heffect with
  | released _ hprepared hattempt _ hrelease =>
    exact released_handedOver h.owner hone hprepared hattempt hrelease rfl rfl
  | replayed hlocation | relayed hlocation => exact h.handing (by rw [hlocation]; rfl)
  | admitted hlocation =>
    have hover := h.handing (by rw [hlocation]; rfl)
    obtain ⟨_, heq⟩ | ⟨request, _, heq⟩ := respond_cases _ _ _ <;> rw [heq] <;> exact hover
  | barrier_timed_out hattempt hopen => exact (h.handing hhanding).timed_out hattempt hopen rfl rfl
  | prepare_refused hattempt hstart | transfer_begun hattempt hstart | login_phase hattempt hstart
  | dialed hattempt hstart | logged_in hattempt hstart | configuration_phase hattempt hstart
  | configured hattempt hstart | prepared hattempt hstart | rolled_back hattempt hstart
  | outcome_dropped hattempt hstart | transfer_dropped hattempt hstart =>
    have hdone := (h.handing hhanding).not_open hattempt
    rw [hstart] at hdone
    cases hdone
  | prepare_aborted hattempt hworking =>
    rw [(h.handing hhanding).not_open hattempt] at hworking
    cases hworking
  | admit_called | admit_sent | admit_received | admit_cancelled | caller_cancelled => exact h.handing hhanding
  | idle hlocation =>
    obtain hlocation | hlocation := hlocation <;> simp [hlocation, Location.handing] at hhanding
  | challenge_passed hlocation | challenge_enqueued hlocation | admission_refused hlocation
  | admission_accepted hlocation =>
    change s.location.handing = true at hhanding
    rw [hlocation] at hhanding
    cases hhanding
  | prepare_failed hlocation | transfer_lost hlocation =>
    obtain ⟨_, heq⟩ | ⟨request, _, heq⟩ := respond_cases _ _ _ <;> rw [heq] at hhanding
    · cases hhanding
    · change s.location.handing = true at hhanding
      rw [hlocation] at hhanding
      cases hhanding
  | begin_undone =>
    obtain ⟨_, heq⟩ | ⟨request, _, heq⟩ := respond_cases _ _ _ <;> rw [heq] at hhanding <;> cases hhanding
  | answer_unqueued _ _ _ _ hnext => obtain rfl | rfl := hnext <;> cases hhanding
  | _ => cases hhanding

theorem effect_admission (h : s.Admission cfg) (hsingle : s.calls.length ≤ 1)
    (hpermitted : s.admittedOrEnded a = true) (heffect : Effect cfg q s a q' s') : s'.Admission cfg where
  owner := effect_owner h.owner heffect
  requests := effect_requests h.requests heffect
  settled := effect_settled h.settled heffect
  done := effect_done h.done heffect
  own := effect_own h.own hpermitted heffect
  places := effect_places h.requests h.places heffect
  handing := effect_handing h hsingle heffect
  succeeded := fun _ hcall hnone => effect_succeeded h.succeeded heffect hcall hnone
  returned := fun _ hcall _ hreturned => effect_returned h hpermitted heffect hcall hreturned

/-- A session in Limbo whose loop runs has no admission that returned. -/
theorem Admission.pending (h : s.Admission cfg) (hrunning : s.location.ended = false)
    (hstate : s.session.state = .LimboPlay) {call : AdmitCall} (hcall : call ∈ s.calls) (result : Option Error) :
    call.location ≠ .Returned result := by
  intro hreturned
  have hnone := (h.returned call hcall result hreturned).resolve_right (by simp [hrunning])
  have hbridge := (h.succeeded call hcall hnone).resolve_right (by simp [hrunning])
  have hover := h.handing (by rw [hbridge]; rfl)
  rw [hover.1] at hstate
  cases hstate

/-- Only a caller adds a call. -/
theorem effect_calls_length (hcalled : ∀ own, a ≠ .AdmitCalled own) (heffect : Effect cfg q s a q' s') :
    s'.calls.length = s.calls.length := by
  cases heffect with
  | @admit_called own => exact absurd rfl (hcalled own)
  | prepare_failed | transfer_lost | begin_undone | admitted =>
    obtain ⟨_, heq⟩ | ⟨request, _, heq⟩ := respond_cases _ _ _
    · exact congrArg (·.calls.length) heq
    · exact (congrArg (·.calls.length) heq).trans (List.length_modify ..)
  | admission_refused | admit_sent | admit_received | admit_cancelled | caller_cancelled =>
    exact List.length_modify ..
  | answer_unqueued _ _ _ _ hnext => obtain rfl | rfl := hnext <;> rfl
  | _ => rfl

end Step

theorem start_admission (cfg : Config) (conn : Conn) (uuid : UUID) (required : Option Int) :
    (start conn uuid required).Admission cfg where
  owner := start_owner conn uuid required
  requests := start_requests conn uuid required
  settled := .inr (.inr (.inl fun hopen => by cases hopen.1))
  done := by simp [start]
  own := by rintro _ ⟨⟩
  places := Nat.le_refl 0
  handing := by rintro ⟨⟩
  succeeded := by rintro _ ⟨⟩
  returned := by rintro _ ⟨⟩

end Limbo

end regiongate.server
