import RegionGate.Server.SingleTransfer

open regiongate.session regiongate.transfer execution

namespace regiongate.server

namespace Limbo

/-- The loop still has to answer the request in `activeAdmission`. -/
def owes (s : Limbo) : Bool :=
  !s.location.ended && (s.prepare_result.isSome || (s.prepared.isSome && s.location ≠ .Bridge))

/-- No request is lost in this step. Requests are taken in turn and placed only
while the loop runs, the replay of a released transfer is written, and the
deferred calls start when no request is in the channel, no outcome of
`Prepare` is awaited and no transfer is held but a released one. -/
def losesNoRequest (s : Limbo) (a : Action) : Bool :=
  s.takesRequestsInTurn a &&
    match a, s.location with
    | .AdmitSent _, location => !location.ended
    | .Proceed written, .Replaying _ => written
    | .Proceed _, .CancelItem _ =>
      s.admissions = [] && s.prepare_result.isNone &&
        (s.prepared.isNone || s.session.state = .BackendPlay)
    | _, _ => true

/-- A step that touches no request. -/
structure Unaffected (s s' : Limbo) : Prop where
  calls : s'.calls = s.calls := by rfl
  admissions : s'.admissions = s.admissions := by rfl
  active : s'.active_admission = s.active_admission := by rfl
  result : s'.prepare_result = s.prepare_result := by rfl
  prepared : s'.prepared = s.prepared := by rfl
  ended : s'.location.ended = s.location.ended
  bridge : s'.location = .Bridge ↔ s.location = .Bridge
  handing : s.location.handing = true → s'.location.handing = true
  closing : s'.location.closing = true → s.location.closing = true

/-- The loop returns; a released transfer was handed to the bridge before, or its
replay could not be written. -/
structure Ends (s : Limbo) (a : Action) (s' : Limbo) : Prop where
  calls : s'.calls = s.calls := by rfl
  admissions : s'.admissions = s.admissions := by rfl
  active : s'.active_admission = s.active_admission := by rfl
  result : s'.prepare_result = s.prepare_result := by rfl
  prepared : s'.prepared = s.prepared := by rfl
  session : s'.session = s.session := by rfl
  location : ∃ e, s'.location = .CancelItem e := by exact ⟨_, rfl⟩
  running : s.location.ended = false
  handing : s.location.handing = true →
    s.location = .Bridge ∨ a = .Proceed false ∧ ∃ replay, s.location = .Replaying replay

/-- The loop takes a request from the channel and calls `Prepare` for it. -/
structure Accepts (s : Limbo) (request : Nat) (s' : Limbo) : Prop where
  select : s.location = .Select
  channel : ∃ rest, s.admissions = request :: rest ∧ s'.admissions = rest
  free : s.prepared = none
  state : s.session.state = .LimboPlay
  location : s'.location = .Select
  calls : s'.calls = s.calls
  active : s'.active_admission = some request
  result : s'.prepare_result.isSome = true
  prepared : s'.prepared = none

/-- The loop takes a prepared transfer from `Prepare`. -/
structure Takes (s s' : Limbo) : Prop where
  select : s.location = .Select
  awaited : s.prepare_result.isSome = true
  location : s'.location = .BeginCheck
  calls : s'.calls = s.calls
  admissions : s'.admissions = s.admissions
  active : s'.active_admission = s.active_admission
  result : s'.prepare_result = none
  prepared : s'.prepared.isSome = true

/-- The loop answers the request in `activeAdmission`. -/
structure Answers (s : Limbo) (request : Nat) (err : Option Error) (s' : Limbo) : Prop where
  owed : s.owes = true
  holds : s.active_admission = some request
  calls : s'.calls = (s.send request err).calls
  admissions : s'.admissions = s.admissions
  active : s'.active_admission = none ∨ s'.active_admission = some request
  owes : s'.owes = false
  exclusive : s'.prepare_result = none ∨ s'.prepared = none
  handing : s.location.handing = true → s'.location.handing = true
  closing : s'.location.closing = false

/-- What a step does to the admission requests of a session. -/
inductive RequestEffect (s : Limbo) : Action → Limbo → Prop where
  | unaffected {a : Action} {s' : Limbo} (h : s.Unaffected s') : RequestEffect s a s'
  | ended {a : Action} {s' : Limbo} (h : s.Ends a s') : RequestEffect s a s'
  | called {a : Action} {own : Bool} :
    RequestEffect s a
      { s with calls := s.calls ++ [{
        own, cancelled := false, location := .Sending, placed := false, results := [] }] }
  | sent {i : Nat} {call : AdmitCall} (hcall : s.calls[i]? = some call)
      (hsending : call.location = .Sending) (hroom : s.admissions = []) :
    RequestEffect s (.AdmitSent i)
      { s with
        admissions := [i]
        calls := s.calls.modify i fun call => { call with location := .Waiting, placed := true } }
  | moved {a : Action} {i : Nat} {f : AdmitCall → AdmitCall} (hplaced : ∀ call, (f call).placed = call.placed)
      (hresults : ∀ call, (f call).results = call.results)
      (hsending : ∀ call, (f call).location = .Sending → call.location = .Sending) :
    RequestEffect s a { s with calls := s.calls.modify i f }
  | refused {request : Nat} {rest : List Nat} (hlocation : s.location = .Select)
      (hadmissions : s.admissions = request :: rest) :
    RequestEffect s .Admission ({ s with admissions := rest }.send request (some .NotAvailableForTransfer))
  | accepted {request : Nat} {s' : Limbo} (h : s.Accepts request s') : RequestEffect s .Admission s'
  | taken {a : Action} {s' : Limbo} (h : s.Takes s') : RequestEffect s a s'
  | answered {a : Action} {request : Nat} {err : Option Error} {s' : Limbo} (h : s.Answers request err s') :
    RequestEffect s a s'
  | item_cancelled {written : Bool} {e : Error} (hlocation : s.location = .CancelItem e) :
    RequestEffect s (.Proceed written) { s with location := .CancelContext e }

/-- How the requests of a session stand: each was answered at most once, those
in the channel and the one the loop owes an answer were not. -/
structure Requests (s : Limbo) : Prop where
  once : ∀ {i : Nat} {call : AdmitCall}, s.calls[i]? = some call → call.results.length ≤ 1
  sending : ∀ {i : Nat} {call : AdmitCall}, s.calls[i]? = some call → call.location = .Sending →
    call.placed = false ∧ call.results = []
  channel : s.admissions.length ≤ 1
  waiting : ∀ {i : Nat}, i ∈ s.admissions →
    ∃ call, s.calls[i]? = some call ∧ call.placed = true ∧ call.results = []
  owed : s.owes = true → ∃ request call, s.active_admission = some request ∧ request ∉ s.admissions ∧
    s.calls[request]? = some call ∧ call.placed = true ∧ call.results = []
  exclusive : s.prepare_result = none ∨ s.prepared = none

section Step

variable {cfg : Config} {q q' : AdmissionQueue} {s s' : Limbo} {a : Action}

/-- While the loop owes an answer it knows the request. -/
theorem Requests.not_idle (h : s.Requests) (howes : s.owes = true) (hnone : s.active_admission = none) :
    False := by
  obtain ⟨request, _, hactive, _⟩ := h.owed howes
  rw [hnone] at hactive
  cases hactive

/-- What a step does to the requests: nothing, take one, answer one, or end the loop. -/
theorem request_effect (h : s.Requests) (heffect : Effect cfg q s a q' s') : RequestEffect s a s' := by
  cases heffect with
  | failed hrunning hhanding => exact .ended { running := hrunning, handing := hhanding }
  | timed_out hlocation | frame_malformed hlocation | barrier_inactive hlocation | barrier_refused hlocation
  | call_refused hlocation | answer_refused hlocation | frame_refused hlocation | challenge_failed hlocation
  | challenge_unqueued hlocation =>
    exact .ended { running := by rw [hlocation]; rfl, handing := by rw [hlocation]; rintro ⟨⟩ }
  | answer_unqueued hlocation _ _ _ hnext =>
    obtain rfl | rfl := hnext <;>
      exact .ended { running := by rw [hlocation]; rfl, handing := by rw [hlocation]; rintro ⟨⟩ }
  | idle | challenge_passed | challenge_enqueued =>
    exact .unaffected { ended := rfl, bridge := Iff.rfl, handing := fun h => h, closing := fun h => h }
  | join_packet hlocation | join_sent hlocation | teleported hlocation | ticked hlocation
  | status_due hlocation | unplaced hlocation | placed hlocation | action_bar_sent hlocation
  | barrier_frame hlocation | limbo_frame hlocation | barrier_read hlocation | called hlocation
  | progressed hlocation | progress_writes hlocation | progress_releases hlocation | answered hlocation
  | answered_enqueued hlocation | frame_accepted hlocation | begin_checked hlocation | start_sent hlocation
  | begin_rechecked hlocation | write_checked hlocation | packet_sent hlocation | finish_sent hlocation
  | write_finished hlocation | replayed hlocation | relayed hlocation | released hlocation =>
    exact .unaffected {
      ended := by rw [hlocation]; rfl
      bridge := by simp [hlocation, write]
      handing := by simp [hlocation, write, Location.handing]
      closing := by rintro ⟨⟩ }
  | keep_alive_sent hlocation =>
    obtain hlocation | hlocation := hlocation <;>
      exact .unaffected {
        ended := by rw [hlocation]; rfl
        bridge := by simp [hlocation, write]
        handing := by simp [hlocation, Location.handing]
        closing := by rintro ⟨⟩ }
  | begin_refused hlocation =>
    obtain hlocation | hlocation | hlocation := hlocation <;>
      exact .unaffected {
        ended := by rw [hlocation]; rfl
        bridge := by simp [hlocation]
        handing := by simp [hlocation, Location.handing]
        closing := by rintro ⟨⟩ }
  | item_cancelled hlocation => exact .item_cancelled hlocation
  | context_cancelled hlocation | untracked hlocation =>
    exact .unaffected {
      ended := by rw [hlocation]; rfl
      bridge := by simp [hlocation]
      handing := by simp [hlocation, Location.handing]
      closing := fun _ => by rw [hlocation]; rfl }
  | admission_refused hlocation hadmissions => exact .refused hlocation hadmissions
  | admission_accepted hlocation hadmissions hcoordinator hprepared hstate =>
    exact .accepted ⟨hlocation, ⟨_, hadmissions, rfl⟩, hprepared, hstate, hlocation, rfl, rfl, rfl, hprepared⟩
  | prepare_succeeded hlocation hresult =>
    exact .taken ⟨hlocation, by simp [hresult], rfl, rfl, rfl, rfl, rfl, rfl⟩
  | prepare_failed hlocation hresult =>
    have howes : s.owes = true := by simp [owes, hlocation, hresult, Location.ended]
    obtain ⟨hnone, heq⟩ | ⟨request, hactive, heq⟩ := respond_cases _ _ _ <;> rw [heq]
    · exact (h.not_idle howes hnone).elim
    · have hprepared := h.exclusive.resolve_left (by simp [hresult])
      refine .answered ⟨howes, hactive, rfl, rfl, .inl rfl, ?_, .inl rfl, fun h => h, ?_⟩
      · simp [owes, send, moveAttempt, hprepared]
      · simp [send, moveAttempt, hlocation, Location.closing]
  | transfer_lost hlocation hprepared =>
    have howes : s.owes = true := by simp [owes, hlocation, hprepared, Location.ended]
    obtain ⟨hnone, heq⟩ | ⟨request, hactive, heq⟩ := respond_cases _ _ _ <;> rw [heq]
    · exact (h.not_idle howes hnone).elim
    · have hresult := h.exclusive.resolve_right (by simp [hprepared])
      refine .answered ⟨howes, hactive, rfl, rfl, .inl rfl, ?_, .inr rfl, fun h => h, ?_⟩
      · simp [owes, send, hresult]
      · simp [send, hlocation, Location.closing]
  | begin_undone hlocation hprepared =>
    have howes : s.owes = true := by simp [owes, hlocation, hprepared, Location.ended]
    obtain ⟨hnone, heq⟩ | ⟨request, hactive, heq⟩ := respond_cases _ _ _ <;> rw [heq]
    · exact (h.not_idle howes hnone).elim
    · have hresult := h.exclusive.resolve_right (by simp [hprepared])
      refine .answered ⟨howes, hactive, rfl, rfl, .inr hactive, ?_, .inr rfl, ?_, rfl⟩
      · simp [owes, send, setPrepared, hresult]
      · rw [hlocation]
        rintro ⟨⟩
  | admitted hlocation hprepared =>
    have howes : s.owes = true := by simp [owes, hlocation, hprepared, Location.ended]
    obtain ⟨hnone, heq⟩ | ⟨request, hactive, heq⟩ := respond_cases _ _ _ <;> rw [heq]
    · exact (h.not_idle howes hnone).elim
    · have hresult := h.exclusive.resolve_right (by simp [hprepared])
      refine .answered ⟨howes, hactive, rfl, rfl, .inr hactive, ?_, .inl hresult, fun _ => rfl, rfl⟩
      simp [owes, send, hresult]
  | prepare_refused | transfer_begun | prepare_aborted | login_phase | dialed | logged_in
  | configuration_phase | configured | prepared | rolled_back | outcome_dropped | transfer_dropped
  | barrier_timed_out =>
    exact .unaffected { ended := rfl, bridge := Iff.rfl, handing := fun h => h, closing := fun h => h }
  | admit_called => exact .called
  | admit_sent hcall hsending hroom => exact .sent hcall hsending hroom
  | admit_received | admit_cancelled =>
    exact .moved (fun _ => rfl) (fun _ => rfl) (by rintro _ ⟨⟩)
  | caller_cancelled => exact .moved (fun _ => rfl) (fun _ => rfl) fun _ h => h

theorem Unaffected.owes (h : s.Unaffected s') : s'.owes = s.owes := by
  by_cases hat : s.location = .Bridge
  · simp only [Limbo.owes, h.result, h.prepared, hat, h.bridge.mpr hat]
  · have hat' : s'.location ≠ .Bridge := fun hat' => hat (h.bridge.mp hat')
    simp [Limbo.owes, h.ended, h.result, h.prepared, hat, hat']

theorem Ends.not_owes (h : s.Ends a s') : s'.owes = false := by
  obtain ⟨e, hlocation⟩ := h.location
  simp [Limbo.owes, hlocation, Location.ended]

theorem Takes.owes (h : s.Takes s') : s.owes = true := by
  simp [Limbo.owes, h.select, h.awaited, Location.ended]

/-- A call in a list with one more call at its end. -/
theorem appended_call {calls : List AdmitCall} {new call : AdmitCall} {i : Nat}
    (h : (calls ++ [new])[i]? = some call) : calls[i]? = some call ∨ call = new := by
  rw [List.getElem?_append] at h
  split at h
  · exact .inl h
  · exact .inr (List.mem_singleton.mp (List.mem_of_getElem? h))

theorem appended_call_left {calls : List AdmitCall} {new call : AdmitCall} {i : Nat}
    (h : calls[i]? = some call) : (calls ++ [new])[i]? = some call := by
  rw [List.getElem?_append_left (List.getElem?_eq_some_iff.mp h).1]
  exact h

/-- A call other than the one that changed. -/
theorem modified_call_ne {calls : List AdmitCall} {f : AdmitCall → AdmitCall} {call : AdmitCall} {k i : Nat}
    (hne : k ≠ i) (h : calls[i]? = some call) : (calls.modify k f)[i]? = some call := by
  rw [List.getElem?_modify, h]
  simp [hne]

theorem modified_call {calls : List AdmitCall} {f : AdmitCall → AdmitCall} {call : AdmitCall} {k i : Nat}
    (h : calls[i]? = some call) :
    (calls.modify k f)[i]? = some (if k = i then f call else call) := by
  rw [List.getElem?_modify, h]
  rfl

/-- The calls after an answer to an unanswered request. -/
structure AnsweredOnce (calls : List AdmitCall) : Prop where
  once : ∀ {i : Nat} {call : AdmitCall}, calls[i]? = some call → call.results.length ≤ 1
  sending : ∀ {i : Nat} {call : AdmitCall}, calls[i]? = some call → call.location = .Sending →
    call.placed = false ∧ call.results = []

/-- An answer is sent to a request that has none, so none gets two. -/
theorem Requests.send {request : Nat} {call : AdmitCall} (h : s.Requests) (err : Option Error)
    (hcall : s.calls[request]? = some call) (hplaced : call.placed = true) (hresults : call.results = []) :
    AnsweredOnce (s.send request err).calls := by
  refine ⟨?_, ?_⟩
  · intro i other hother
    obtain ⟨old, hold, rfl⟩ := modify_eq_some hother
    split
    · rename_i hi
      subst hi
      rw [hcall, Option.some.injEq] at hold
      subst hold
      simp [hresults]
    · exact h.once hold
  · intro i other hother hsending
    obtain ⟨old, hold, rfl⟩ := modify_eq_some hother
    split at hsending
    · -- An answered request was placed, so its caller is past the send.
      rename_i hi
      subst hi
      rw [hcall, Option.some.injEq] at hold
      subst hold
      rw [(h.sending hcall hsending).1] at hplaced
      cases hplaced
    · rename_i hi
      rw [if_neg hi]
      exact h.sending hold hsending

theorem Requests.rest_eq_nil {request : Nat} {rest : List Nat} (h : s.Requests)
    (hadmissions : s.admissions = request :: rest) : rest = [] := by
  have hchannel := h.channel
  rw [hadmissions, List.length_cons] at hchannel
  exact List.length_eq_zero_iff.mp (by omega)

/-- The request that the loop takes from the channel is its only one. -/
theorem Requests.alone {request : Nat} {rest : List Nat} (h : s.Requests)
    (hadmissions : s.admissions = request :: rest) : rest = [] ∧
      ∃ call, s.calls[request]? = some call ∧ call.placed = true ∧ call.results = [] :=
  ⟨h.rest_eq_nil hadmissions, h.waiting (by rw [hadmissions]; exact List.mem_cons_self)⟩

/-- A step that keeps the calls, the channel and the active request owes no more
than before. -/
theorem Requests.kept (h : s.Requests) (hcalls : s'.calls = s.calls) (hadmissions : s'.admissions = s.admissions)
    (hactive : s'.active_admission = s.active_admission) (howes : s'.owes = true → s.owes = true)
    (hexclusive : s'.prepare_result = none ∨ s'.prepared = none) : s'.Requests := by
  refine ⟨?_, ?_, ?_, ?_, ?_, hexclusive⟩
  · rw [hcalls]
    exact h.once
  · rw [hcalls]
    exact h.sending
  · rw [hadmissions]
    exact h.channel
  · rw [hadmissions, hcalls]
    exact h.waiting
  · intro howed
    rw [hactive, hadmissions, hcalls]
    exact h.owed (howes howed)

theorem Requests.called (h : s.Requests) (own : Bool) :
    Requests { s with calls := s.calls ++ [{
      own, cancelled := false, location := .Sending, placed := false, results := [] }] } := by
  refine ⟨?_, ?_, h.channel, ?_, ?_, h.exclusive⟩
  · intro i call hcall
    obtain hcall | rfl := appended_call hcall
    · exact h.once hcall
    · exact Nat.zero_le 1
  · intro i call hcall hsending
    obtain hcall | rfl := appended_call hcall
    · exact h.sending hcall hsending
    · exact ⟨rfl, rfl⟩
  · intro i hi
    obtain ⟨call, hcall, hwaiting⟩ := h.waiting hi
    exact ⟨call, appended_call_left hcall, hwaiting⟩
  · intro howes
    obtain ⟨request, call, hactive, hfree, hcall, howed⟩ := h.owed howes
    exact ⟨request, call, hactive, hfree, appended_call_left hcall, howed⟩

/-- A caller places its request in the empty channel. -/
theorem Requests.sent {i : Nat} {call : AdmitCall} (h : s.Requests) (hcall : s.calls[i]? = some call)
    (hsending : call.location = .Sending) :
    Requests { s with
      admissions := [i]
      calls := s.calls.modify i fun call => { call with location := .Waiting, placed := true } } := by
  obtain ⟨hunplaced, hunanswered⟩ := h.sending hcall hsending
  refine ⟨?_, ?_, le_refl _, ?_, ?_, h.exclusive⟩
  · intro j other hother
    obtain ⟨old, hold, rfl⟩ := modify_eq_some hother
    have honce := h.once hold
    split
    · exact honce
    · exact honce
  · intro j other hother hsending'
    obtain ⟨old, hold, rfl⟩ := modify_eq_some hother
    split at hsending'
    · cases hsending'
    · rename_i hne
      simpa [hne] using h.sending hold hsending'
  · intro j hj
    rw [List.mem_singleton.mp hj]
    exact ⟨_, modified_call hcall, by simp, by simpa using hunanswered⟩
  · intro howes
    obtain ⟨request, other, hactive, _, hother, hplaced, howed⟩ := h.owed howes
    have hne : i ≠ request := by
      rintro rfl
      rw [hcall, Option.some.injEq] at hother
      subst hother
      rw [hunplaced] at hplaced
      cases hplaced
    refine ⟨request, other, hactive, ?_, modified_call_ne hne hother, hplaced, howed⟩
    simpa using hne.symm

/-- A caller moves on; neither its request nor its answers change. -/
theorem Requests.moved {i : Nat} {f : AdmitCall → AdmitCall} (h : s.Requests)
    (hplaced : ∀ call, (f call).placed = call.placed) (hresults : ∀ call, (f call).results = call.results)
    (hsending : ∀ call, (f call).location = .Sending → call.location = .Sending) :
    Requests { s with calls := s.calls.modify i f } := by
  have hsame : ∀ {j : Nat} {call : AdmitCall}, s.calls[j]? = some call → call.placed = true →
      call.results = [] →
      ∃ call, (s.calls.modify i f)[j]? = some call ∧ call.placed = true ∧ call.results = [] := by
    intro j call hcall hplaced' hresults'
    refine ⟨_, modified_call hcall, ?_, ?_⟩
    · split
      · rw [hplaced, hplaced']
      · exact hplaced'
    · split
      · rw [hresults, hresults']
      · exact hresults'
  refine ⟨?_, ?_, h.channel, ?_, ?_, h.exclusive⟩
  · intro j call hcall
    obtain ⟨old, hold, rfl⟩ := modify_eq_some hcall
    split
    · rw [hresults]
      exact h.once hold
    · exact h.once hold
  · intro j call hcall hat
    obtain ⟨old, hold, rfl⟩ := modify_eq_some hcall
    split at hat
    · rename_i hij
      rw [if_pos hij, hplaced, hresults]
      exact h.sending hold (hsending old hat)
    · rename_i hij
      rw [if_neg hij]
      exact h.sending hold hat
  · intro j hj
    obtain ⟨call, hcall, hplaced', hresults'⟩ := h.waiting hj
    exact hsame hcall hplaced' hresults'
  · intro howes
    obtain ⟨request, call, hactive, hfree, hcall, hplaced', hresults'⟩ := h.owed howes
    obtain ⟨call', hcall', howed'⟩ := hsame hcall hplaced' hresults'
    exact ⟨request, call', hactive, hfree, hcall', howed'⟩

/-- The loop refuses the request in the channel. -/
theorem Requests.refused {request : Nat} {rest : List Nat} (h : s.Requests)
    (hadmissions : s.admissions = request :: rest) (err : Option Error) :
    ({ s with admissions := rest }.send request err).Requests := by
  obtain ⟨rfl, call, hcall, hplaced, hresults⟩ := h.alone hadmissions
  have hsent := h.send err hcall hplaced hresults
  refine ⟨hsent.once, hsent.sending, Nat.zero_le 1, by rintro _ ⟨⟩, ?_, h.exclusive⟩
  intro howes
  obtain ⟨active, other, hactive, hfree, hother, howed⟩ := h.owed howes
  have hne : request ≠ active := by
    rintro rfl
    exact hfree (hadmissions ▸ List.mem_singleton.mpr rfl)
  exact ⟨active, other, hactive, List.not_mem_nil, modified_call_ne hne hother, howed⟩

theorem Requests.accepted {request : Nat} (h : s.Requests) (haccepts : s.Accepts request s') : s'.Requests := by
  obtain ⟨rest, hadmissions, hadmissions'⟩ := haccepts.channel
  obtain ⟨rfl, call, hcall, howed⟩ := h.alone hadmissions
  refine ⟨?_, ?_, ?_, ?_, ?_, .inr haccepts.prepared⟩
  · rw [haccepts.calls]
    exact h.once
  · rw [haccepts.calls]
    exact h.sending
  · rw [hadmissions']
    exact Nat.zero_le 1
  · rw [hadmissions']
    rintro _ ⟨⟩
  · intro _
    rw [hadmissions', haccepts.calls]
    exact ⟨request, call, haccepts.active, List.not_mem_nil, hcall, howed⟩

/-- A request that is answered is not owed anything afterwards. -/
theorem Requests.answered {request : Nat} {err : Option Error} (h : s.Requests)
    (hanswers : s.Answers request err s') : s'.Requests := by
  obtain ⟨owed, call, howed, hfree, hcall, hplaced, hresults⟩ := h.owed hanswers.owed
  obtain rfl : request = owed := by
    rw [hanswers.holds, Option.some.injEq] at howed
    exact howed
  have hsent := h.send err hcall hplaced hresults
  refine ⟨?_, ?_, ?_, ?_, ?_, hanswers.exclusive⟩
  · rw [hanswers.calls]
    exact hsent.once
  · rw [hanswers.calls]
    exact hsent.sending
  · rw [hanswers.admissions]
    exact h.channel
  · intro i hi
    rw [hanswers.admissions] at hi
    rw [hanswers.calls]
    obtain ⟨other, hother, hwaiting⟩ := h.waiting hi
    have hne : request ≠ i := by
      rintro rfl
      exact hfree hi
    exact ⟨other, modified_call_ne hne hother, hwaiting⟩
  · rw [hanswers.owes]
    rintro ⟨⟩

/-- One step: every request has at most one answer. -/
theorem effect_requests (h : s.Requests) (heffect : Effect cfg q s a q' s') : s'.Requests := by
  cases request_effect h heffect with
  | unaffected hsame =>
    refine h.kept hsame.calls hsame.admissions hsame.active (by rw [hsame.owes]; exact id) ?_
    rw [hsame.result, hsame.prepared]
    exact h.exclusive
  | ended hends =>
    refine h.kept hends.calls hends.admissions hends.active (by rw [hends.not_owes]; rintro ⟨⟩) ?_
    rw [hends.result, hends.prepared]
    exact h.exclusive
  | called => exact h.called _
  | sent hcall hsending => exact h.sent hcall hsending
  | moved hplaced hresults hsending => exact h.moved hplaced hresults hsending
  | refused _ hadmissions => exact h.refused hadmissions _
  | accepted haccepts => exact h.accepted haccepts
  | taken htakes =>
    exact h.kept htakes.calls htakes.admissions htakes.active (fun _ => htakes.owes) (.inl htakes.result)
  | answered hanswers => exact h.answered hanswers
  | item_cancelled => exact h.kept rfl rfl rfl (by rintro ⟨⟩) h.exclusive

/-- Nothing is left to do for the request in `activeAdmission`: no outcome is
awaited, and the transfer it led to is gone or was handed to the bridge. -/
structure Concluded (s : Limbo) : Prop where
  result : s.prepare_result = none
  prepared : s.prepared = none ∨ s.location = .Bridge ∨
    s.location.ended = true ∧ s.session.state = .BackendPlay

/-- No request is lost: an unanswered one waits in the channel or is the active
one, and none is left once the deferred calls run. -/
structure Kept (s : Limbo) : Prop where
  settled : s.Concluded → ∀ {request : Nat}, s.active_admission = some request →
    ∃ call, s.calls[request]? = some call ∧ call.results ≠ []
  released : s.session.state = .BackendPlay → s.location.ended = false → s.location.handing = true
  found : ∀ {i : Nat} {call : AdmitCall}, s.calls[i]? = some call → call.placed = true →
    call.results = [] → s.location.closing = false ∧ (i ∈ s.admissions ∨ s.active_admission = some i)

/-- An answered call is not the unanswered one. -/
theorem unanswered_after_send {request i : Nat} {call : AdmitCall} {err : Option Error}
    (hcall : (s.send request err).calls[i]? = some call) (hresults : call.results = []) :
    request ≠ i ∧ s.calls[i]? = some call := by
  obtain ⟨old, hold, rfl⟩ := modify_eq_some hcall
  split at hresults
  · simp at hresults
  · rename_i hne
    rw [if_neg hne]
    exact ⟨hne, hold⟩

theorem not_closing_of_running {location : Location} (h : location.ended = false) :
    location.closing = false := by
  cases location <;> first | rfl | cases h

/-- The loop goes on with a released transfer until it returns. -/
theorem RequestEffect.handing (heffect : RequestEffect s a s') (hrunning : s'.location.ended = false)
    (hhanding : s.location.handing = true) : s'.location.handing = true := by
  cases heffect with
  | unaffected hsame => exact hsame.handing hhanding
  | ended hends =>
    obtain ⟨e, hlocation⟩ := hends.location
    rw [hlocation] at hrunning
    cases hrunning
  | called | sent | moved | refused => exact hhanding
  | accepted haccepts =>
    rw [haccepts.select] at hhanding
    cases hhanding
  | taken htakes =>
    rw [htakes.select] at hhanding
    cases hhanding
  | answered hanswers => exact hanswers.handing hhanding
  | item_cancelled => cases hrunning

/-- Only the hand-over to the backend comes after a release. -/
theorem effect_released (hrequests : s.Requests) (h : s.Kept) (heffect : Effect cfg q s a q' s')
    (hplays : s'.session.state = .BackendPlay) (hrunning : s'.location.ended = false) :
    s'.location.handing = true := by
  obtain hplayed | ⟨replay, hreplaying⟩ := heffect.plays hplays
  · exact (request_effect hrequests heffect).handing hrunning (h.released hplayed (heffect.running hrunning))
  · rw [hreplaying]
    rfl

section Kept

variable (h : s.Kept) (hreleased : s'.session.state = .BackendPlay → s'.location.ended = false →
  s'.location.handing = true)
include h hreleased

/-- A step that touches no request concludes none. -/
theorem Kept.unaffected (hsame : s.Unaffected s')
    (hplays : s'.location.ended = true → s'.session.state = .BackendPlay → s.session.state = .BackendPlay) :
    s'.Kept := by
  refine ⟨?_, hreleased, ?_⟩
  · intro hconcluded
    rw [hsame.active, hsame.calls]
    refine h.settled ⟨by rw [← hsame.result]; exact hconcluded.result, ?_⟩
    rw [← hsame.prepared, ← hsame.bridge, ← hsame.ended]
    exact hconcluded.prepared.imp_right (Or.imp_right fun hover => ⟨hover.1, hplays hover.1 hover.2⟩)
  · intro i call hcall hplaced hresults
    rw [hsame.calls] at hcall
    rw [hsame.admissions, hsame.active]
    obtain ⟨hclosing, hfound⟩ := h.found hcall hplaced hresults
    refine ⟨?_, hfound⟩
    by_contra hclosing'
    rw [hsame.closing (by simpa using hclosing')] at hclosing
    cases hclosing

/-- The loop returns. A transfer that was released by then had its request
answered before the bridge ran. -/
theorem Kept.ended (hends : s.Ends a s') (hpermitted : s.losesNoRequest a = true) : s'.Kept := by
  obtain ⟨e, hlocation⟩ := hends.location
  refine ⟨?_, hreleased, ?_⟩
  · intro hconcluded
    rw [hends.active, hends.calls]
    refine h.settled ⟨by rw [← hends.result]; exact hconcluded.result, ?_⟩
    obtain hnone | hbridge | ⟨_, hplays⟩ := hconcluded.prepared
    · exact .inl (by rw [← hends.prepared]; exact hnone)
    · rw [hlocation] at hbridge
      cases hbridge
    · rw [hends.session] at hplays
      obtain hbridge | ⟨rfl, replay, hreplaying⟩ := hends.handing (h.released hplays hends.running)
      · exact .inr (.inl hbridge)
      · simp [losesNoRequest, hreplaying] at hpermitted
  · intro i call hcall hplaced hresults
    rw [hends.calls] at hcall
    rw [hends.admissions, hends.active, hlocation]
    exact ⟨rfl, (h.found hcall hplaced hresults).2⟩

theorem Kept.called {own : Bool} (hsame : s' = { s with calls := s.calls ++ [{
      own, cancelled := false, location := .Sending, placed := false, results := [] }] }) : s'.Kept := by
  subst hsame
  refine ⟨?_, hreleased, ?_⟩
  · intro hconcluded request hactive
    obtain ⟨call, hcall, hanswered⟩ := h.settled ⟨hconcluded.result, hconcluded.prepared⟩ hactive
    exact ⟨call, appended_call_left hcall, hanswered⟩
  · intro i call hcall hplaced hresults
    obtain hcall | rfl := appended_call hcall
    · exact h.found hcall hplaced hresults
    · cases hplaced

/-- A request is placed in a channel that the loop still reads. -/
theorem Kept.sent {i : Nat} (hroom : s.admissions = []) (hrunning : s.location.ended = false)
    (hsame : s' = { s with
      admissions := [i]
      calls := s.calls.modify i fun call => { call with location := .Waiting, placed := true } }) :
    s'.Kept := by
  subst hsame
  refine ⟨?_, hreleased, ?_⟩
  · intro hconcluded request hactive
    obtain ⟨other, hother, hanswered⟩ := h.settled ⟨hconcluded.result, hconcluded.prepared⟩ hactive
    refine ⟨_, modified_call hother, ?_⟩
    split
    · exact hanswered
    · exact hanswered
  · intro j other hother hplaced hresults
    refine ⟨not_closing_of_running hrunning, ?_⟩
    obtain ⟨old, hold, rfl⟩ := modify_eq_some hother
    by_cases hij : i = j
    · exact .inl (List.mem_singleton.mpr hij.symm)
    · rw [if_neg hij] at hplaced hresults
      obtain ⟨_, hfound⟩ := h.found hold hplaced hresults
      rw [hroom] at hfound
      exact .inr (hfound.resolve_left List.not_mem_nil)

/-- Callers come and go without a change to the requests. -/
theorem Kept.moved {i : Nat} {f : AdmitCall → AdmitCall} (hplaced : ∀ call, (f call).placed = call.placed)
    (hresults : ∀ call, (f call).results = call.results)
    (hsame : s' = { s with calls := s.calls.modify i f }) : s'.Kept := by
  subst hsame
  refine ⟨?_, hreleased, ?_⟩
  · intro hconcluded request hactive
    obtain ⟨call, hcall, hanswered⟩ := h.settled ⟨hconcluded.result, hconcluded.prepared⟩ hactive
    refine ⟨_, modified_call hcall, ?_⟩
    split
    · rw [hresults]
      exact hanswered
    · exact hanswered
  · intro j call hcall hplaced' hresults'
    obtain ⟨old, hold, rfl⟩ := modify_eq_some hcall
    split at hplaced'
    · rename_i hij
      rw [if_pos hij, hresults] at hresults'
      rw [hplaced] at hplaced'
      exact h.found hold hplaced' hresults'
    · rename_i hij
      rw [if_neg hij] at hresults'
      exact h.found hold hplaced' hresults'

/-- A request that is refused is answered at once. -/
theorem Kept.refused {request : Nat} {rest : List Nat} {err : Option Error} (hrequests : s.Requests)
    (hadmissions : s.admissions = request :: rest)
    (hsame : s' = { s with admissions := rest }.send request err) : s'.Kept := by
  subst hsame
  obtain ⟨rfl, _⟩ := hrequests.alone hadmissions
  refine ⟨?_, hreleased, ?_⟩
  · intro hconcluded active hactive
    obtain ⟨call, hcall, hanswered⟩ := h.settled ⟨hconcluded.result, hconcluded.prepared⟩ hactive
    refine ⟨_, modified_call hcall, ?_⟩
    split
    · simp
    · exact hanswered
  · intro i call hcall hplaced hresults
    obtain ⟨hne, hcall⟩ := unanswered_after_send hcall hresults
    obtain ⟨hclosing, hfound⟩ := h.found hcall hplaced hresults
    refine ⟨hclosing, .inr (hfound.resolve_left ?_)⟩
    rw [hadmissions, List.mem_singleton]
    exact hne.symm

/-- A request is accepted: the one before it was concluded. -/
theorem Kept.accepted {request : Nat} (hrequests : s.Requests) (haccepts : s.Accepts request s')
    (hturn : s.prepare_result = none) : s'.Kept := by
  obtain ⟨rest, hadmissions, hadmissions'⟩ := haccepts.channel
  obtain ⟨rfl, _⟩ := hrequests.alone hadmissions
  refine ⟨?_, hreleased, ?_⟩
  · intro hconcluded
    have hresult := haccepts.result
    rw [hconcluded.result] at hresult
    cases hresult
  · intro i call hcall hplaced hresults
    rw [haccepts.calls] at hcall
    rw [haccepts.location, haccepts.active]
    refine ⟨rfl, .inr ?_⟩
    obtain ⟨_, hwaiting | hactive⟩ := h.found hcall hplaced hresults
    · rw [hadmissions, List.mem_singleton] at hwaiting
      rw [hwaiting]
    · obtain ⟨other, hother, hanswered⟩ := h.settled ⟨hturn, .inl haccepts.free⟩ hactive
      rw [hcall, Option.some.injEq] at hother
      subst hother
      exact absurd hresults hanswered

theorem Kept.taken (htakes : s.Takes s') : s'.Kept := by
  refine ⟨?_, hreleased, ?_⟩
  · intro hconcluded
    have hprepared := hconcluded.prepared
    simp [htakes.location, Option.isSome_iff_ne_none.mp htakes.prepared, Location.ended] at hprepared
  · intro i call hcall hplaced hresults
    rw [htakes.calls] at hcall
    rw [htakes.location, htakes.admissions, htakes.active]
    exact ⟨rfl, (h.found hcall hplaced hresults).2⟩

theorem Kept.answered {request : Nat} {err : Option Error} (hrequests : s.Requests)
    (hanswers : s.Answers request err s') : s'.Kept := by
  obtain ⟨owed, call, howed, _, hcall, _⟩ := hrequests.owed hanswers.owed
  obtain rfl : request = owed := by
    rw [hanswers.holds, Option.some.injEq] at howed
    exact howed
  refine ⟨?_, hreleased, ?_⟩
  · intro _ active hsame
    obtain rfl : request = active := by
      obtain hnone | hsome := hanswers.active
      · rw [hnone] at hsame
        cases hsame
      · rw [hsome, Option.some.injEq] at hsame
        exact hsame
    rw [hanswers.calls]
    exact ⟨_, modified_call hcall, by simp⟩
  · intro i call hcall hplaced hresults
    rw [hanswers.calls] at hcall
    obtain ⟨hne, hcall⟩ := unanswered_after_send hcall hresults
    obtain ⟨_, hfound⟩ := h.found hcall hplaced hresults
    refine ⟨hanswers.closing, .inl ?_⟩
    rw [hanswers.admissions]
    refine hfound.resolve_right ?_
    rw [hanswers.holds, Option.some.injEq]
    exact hne

/-- The deferred calls start when nothing is left to answer. -/
theorem Kept.item_cancelled {e : Error} {written : Bool} (hlocation : s.location = .CancelItem e)
    (hpermitted : s.losesNoRequest (.Proceed written) = true)
    (hsame : s' = { s with location := .CancelContext e }) : s'.Kept := by
  subst hsame
  obtain ⟨⟨hempty, hresult⟩, hprepared⟩ : (s.admissions = [] ∧ s.prepare_result = none) ∧
      (s.prepared = none ∨ s.session.state = .BackendPlay) := by
    simpa [losesNoRequest, takesRequestsInTurn, hlocation] using hpermitted
  have hconcluded : s.Concluded :=
    ⟨hresult, hprepared.imp_right fun hplays => .inr ⟨by rw [hlocation]; rfl, hplays⟩⟩
  refine ⟨fun _ => h.settled hconcluded, hreleased, ?_⟩
  intro i call hcall hplaced hresults
  obtain ⟨_, hwaiting | hactive⟩ := h.found hcall hplaced hresults
  · rw [hempty] at hwaiting
    cases hwaiting
  · obtain ⟨other, hother, hanswered⟩ := h.settled hconcluded hactive
    rw [hcall, Option.some.injEq] at hother
    subst hother
    exact absurd hresults hanswered

end Kept

/-- One step of a run in which the loop does not end over a request: everything placed
is waiting, active or answered. -/
theorem effect_kept (hrequests : s.Requests) (h : s.Kept) (hpermitted : s.losesNoRequest a = true)
    (heffect : Effect cfg q s a q' s') : s'.Kept := by
  have hreleased := effect_released hrequests h heffect
  cases request_effect hrequests heffect with
  | unaffected hsame =>
    refine h.unaffected hreleased hsame ?_
    intro hended hplays
    obtain hplayed | ⟨replay, hreplaying⟩ := heffect.plays hplays
    · exact hplayed
    · rw [hreplaying] at hended
      cases hended
  | ended hends => exact h.ended hreleased hends hpermitted
  | called => exact h.called hreleased rfl
  | sent _ _ hroom =>
    have hrunning : s.location.ended = false := by
      simpa [losesNoRequest, takesRequestsInTurn] using hpermitted
    exact h.sent hreleased hroom hrunning rfl
  | moved hplaced hresults => exact h.moved hreleased hplaced hresults rfl
  | refused _ hadmissions => exact h.refused hreleased hrequests hadmissions rfl
  | accepted haccepts =>
    have hturn : s.prepare_result = none := by
      simpa [losesNoRequest, takesRequestsInTurn, haccepts.state] using hpermitted
    exact h.accepted hreleased hrequests haccepts hturn
  | taken htakes => exact h.taken hreleased htakes
  | answered hanswers => exact h.answered hreleased hrequests hanswers
  | item_cancelled hlocation => exact h.item_cancelled hreleased hlocation hpermitted rfl

end Step

theorem start_requests (conn : Conn) (uuid : UUID) (required : Option Int) :
    (start conn uuid required).Requests :=
  ⟨nofun, nofun, Nat.zero_le 1, nofun, nofun, .inl rfl⟩

theorem start_kept (conn : Conn) (uuid : UUID) (required : Option Int) : (start conn uuid required).Kept :=
  ⟨nofun, nofun, nofun⟩

end Limbo

open Limbo

/-- In every run, whatever its steps, no request is answered twice. -/
theorem request_answered_at_most_once {cfg : Config} {ok : Limbo → Action → Bool} {queue : AdmissionQueue}
    {conn : Conn} {uuid : UUID} {required : Option Int} {moves : List Move} {w : World}
    (run : SessionRuns cfg ok { queue, limbo := start conn uuid required } moves w)
    {call : AdmitCall} (hcall : call ∈ w.limbo.calls) : call.results.length ≤ 1 := by
  have hrequests : w.limbo.Requests :=
    World.limbo_invariant Requests run (start_requests conn uuid required)
      fun h _ heffect => effect_requests h heffect
  obtain ⟨i, hi⟩ := List.mem_iff_getElem?.mp hcall
  exact hrequests.once hi

/-- In every run in which no step loses a request, each request that a caller
placed has exactly one answer once the session is closed, and at most one
before. -/
theorem requests_answered_once {cfg : Config} {queue : AdmissionQueue} {conn : Conn} {uuid : UUID}
    {required : Option Int} {moves : List Move} {w : World}
    (run : SessionRuns cfg losesNoRequest { queue, limbo := start conn uuid required } moves w)
    {call : AdmitCall} (hcall : call ∈ w.limbo.calls) (hplaced : call.placed = true) :
    call.results.length ≤ 1 ∧
      ∀ e, w.limbo.location = .Closed e → ∃ result, call.results = [result] := by
  have hinv : w.limbo.Requests ∧ w.limbo.Kept := by
    apply World.limbo_invariant (fun s => s.Requests ∧ s.Kept) run
    · exact ⟨start_requests conn uuid required, start_kept conn uuid required⟩
    · intro q a q' s s' h hpermitted heffect
      exact ⟨effect_requests h.1 heffect, effect_kept h.1 h.2 hpermitted heffect⟩
  obtain ⟨i, hi⟩ := List.mem_iff_getElem?.mp hcall
  have honce := hinv.1.once hi
  refine ⟨honce, ?_⟩
  intro e hclosed
  have hanswered : call.results ≠ [] := by
    intro hresults
    obtain ⟨hclosing, _⟩ := hinv.2.found hi hplaced hresults
    rw [hclosed] at hclosing
    cases hclosing
  exact List.length_eq_one_iff.mp (le_antisymm honce (List.length_pos_iff.mpr hanswered))

/-- The dial of an admission fails, the loop answers its request, and then the
client disconnects. -/
def answeredMoves : List Move :=
  joinMoves ++ beginMoves ++
    [.Session (.Prepare 0 (.ok [])), .Session (.Prepare 0 (.error .Dial)), .Session (.Prepare 0 (.ok [])),
      .Session .PrepareResult, .Session (.Frame (.error .Read)), .Session (.Proceed true),
      .Session (.Proceed true), .Session (.Proceed true)]

/-- The session's own request after a backend that could not be dialed. -/
def failedCall : AdmitCall where
  own := true
  cancelled := false
  location := .Waiting
  placed := true
  results := [some .Dial]

/-- A request whose backend cannot be dialed, after which the client leaves. -/
theorem requests_answered_once_failed_dial :
    ∃ w, SessionRuns sampleConfig losesNoRequest sampleWorld answeredMoves w ∧
      w.limbo.location = .Closed .Read ∧ failedCall ∈ w.limbo.calls ∧
      ∃ result, failedCall.results = [result] := by
  obtain ⟨w, run, hobserved⟩ : ∃ w, SessionRuns sampleConfig losesNoRequest sampleWorld answeredMoves w ∧
      decide (w.limbo.location = .Closed .Read ∧ failedCall ∈ w.limbo.calls) = true :=
    Runs.of_exec (fun _ _ hok => hok) _ (by decide +kernel)
  obtain ⟨hclosed, hcall⟩ := of_decide_eq_true hobserved
  exact ⟨w, run, hclosed, hcall, (requests_answered_once run hcall rfl).2 _ hclosed⟩

/-- The client disconnects before the loop has taken a placed request, and
nobody ever answers it. -/
theorem request_lost_on_disconnect :
    ∃ w, Reaches (World.step sampleConfig) sampleWorld
        (joinMoves ++
          [.Session (.AdmitCalled false), .Session (.AdmitSent 0), .Session (.Frame (.error .Read)),
            .Session (.Proceed true), .Session (.Proceed true), .Session (.Proceed true)]) w ∧
      w.limbo.location = .Closed .Read ∧
      { own := false, cancelled := false, location := .Waiting, placed := true, results := [] } ∈
        w.limbo.calls := by
  have hreached : ∃ w, Reaches (World.step sampleConfig) sampleWorld
      (joinMoves ++
        [.Session (.AdmitCalled false), .Session (.AdmitSent 0), .Session (.Frame (.error .Read)),
          .Session (.Proceed true), .Session (.Proceed true), .Session (.Proceed true)]) w ∧
      decide (w.limbo.location = .Closed .Read ∧
        { own := false, cancelled := false, location := .Waiting, placed := true, results := [] } ∈
          w.limbo.calls) = true :=
    Reaches.of_exec _ (by decide +kernel)
  obtain ⟨w, run, hobserved⟩ := hreached
  exact ⟨w, run, of_decide_eq_true hobserved⟩

end regiongate.server
