import RegionGate.Transfer.Prepared

open regiongate.session execution

namespace regiongate.transfer

/-- Which operation finalized a prepared transfer. -/
inductive Finalization where
  | Release
  | Rollback
  | Timeout
  deriving DecidableEq, Repr

/-- Where a call of `BeginClientConfiguration` or `WriteClientConfiguration`
stands between two of its critical sections. Only `WriteAdvancing` holds
the mutex of the prepared transfer. -/
inductive Call where
  | BeginWriting
  | BeginChecking
  | Writing (rest : List Bytes)
  | WriteChecking
  | WriteAdvancing
  | Returned
  deriving DecidableEq

/-- An operation on the session that does not go through the prepared
transfer. -/
inductive SessionOp where
  | Advance (phase : BarrierPhase)
  | Input (input : Input)
  | Release
  | Rollback
  deriving DecidableEq

/-- An operation of the session that others may call between those of the transfer;
one that fails leaves the session as it was. -/
def SessionOp.perform (s : Session) : SessionOp → Session
  | .Advance phase =>
    match s.advance_barrier phase with
    | .ok s' => s'
    | .error _ => s
  | .Input input => (s.handle_barrier_input input).1
  | .Release =>
    match s.release_transfer with
    | .ok (_, s') => s'
    | .error _ => s
  | .Rollback =>
    match s.rollback_transfer with
    | .ok s' => s'
    | .error _ => s

/-- One prepared transfer with its session, its mutex, any number of calls in
flight, and the history of what took effect. `later` tells whether another
transfer has begun on the session. -/
structure Lifecycle where
  session : Session
  prepared : Prepared
  mu : Option Nat
  calls : List Call
  finalizations : List Finalization
  returned : List (Option Nat)
  effects : List Effect
  later : Bool

/-- The calls that are one critical section of the transfer's mutex, the calls that
write to the client and give the mutex up in between, and what others do to the
session. -/
inductive LifecycleAction where
  | Release
  | Rollback
  | Timeout
  | AcknowledgeClientStart
  | AcknowledgeClientConfiguration
  | BeginClientConfiguration
  | WriteClientConfiguration
  | Continue (call : Nat) (written : Bool)
  | ClientInput (input : Input)
  | ClientAdvance (phase : BarrierPhase)
  | BeginTransfer (ids : List Int) (limit : Int)
  | Later (op : SessionOp)

/-- The actions of the prepared transfer itself, the timeout goroutine
included. The other actions are the client's and later transfers'. -/
def LifecycleAction.ofPrepared : LifecycleAction → Bool
  | .ClientInput _ | .ClientAdvance _ | .BeginTransfer _ _ | .Later _ => false
  | _ => true

namespace Lifecycle

/-- A prepared transfer as `Prepare` returns it: open, owning its backend
transport, on a session whose barrier is active in any phase. -/
def start (session : Session) (conn : Nat) (packets : List Bytes) : Lifecycle where
  session := session
  prepared := .new conn packets
  mu := none
  calls := []
  finalizations := []
  returned := []
  effects := []
  later := false

/-- The session after an advance whose error the caller only reports. -/
def advanced (s : Session) (result : Except Error Session) : Session :=
  match result with
  | .ok s' => s'
  | .error _ => s

/-- One step of a call in flight. `written` is the result of a client write. -/
def continueCall (s : Lifecycle) (i : Nat) (written : Bool) : Call → Option Lifecycle
  | .BeginWriting => some { s with calls := s.calls.set i (if written then .BeginChecking else .Returned) }
  | .BeginChecking =>
    if s.mu.isSome then none else some { s with calls := s.calls.set i .Returned }
  | .Writing (_ :: rest) =>
    some { s with calls := s.calls.set i (if written then .Writing rest else .Returned) }
  | .Writing [] => some { s with calls := s.calls.set i (if written then .WriteChecking else .Returned) }
  | .WriteChecking =>
    if s.mu.isSome then none
    else
      match s.prepared.write_check s.session with
      | .error _ => some { s with calls := s.calls.set i .Returned }
      | .ok _ => some { s with calls := s.calls.set i .WriteAdvancing, mu := some i }
  | .WriteAdvancing =>
    some { s with
      calls := s.calls.set i .Returned
      mu := none
      session := advanced s.session
        (s.session.advance_barrier BarrierAwaitingClientConfigurationFinish) }
  | .Returned => none

/-- The atomic steps. A method that takes the mutex waits while a call holds
it; a critical section with one session call is one step. -/
def step (s : Lifecycle) : LifecycleAction → Option Lifecycle
  | .Release =>
    if s.mu.isSome then none
    else
      match s.prepared.release s.session with
      | .error _ => some s
      | .ok ((_, conn), prepared, session, effects) =>
        some { s with
          session, prepared
          finalizations := s.finalizations ++ [.Release]
          returned := s.returned ++ [conn]
          effects := s.effects ++ effects }
  | .Rollback =>
    if s.mu.isSome then none
    else
      let (prepared, session, effects, _) := s.prepared.rollback s.session
      some { s with
        session, prepared
        finalizations := s.finalizations ++ if s.prepared.finalized then [] else [.Rollback]
        effects := s.effects ++ effects }
  | .Timeout =>
    if s.mu.isSome then none
    else
      let (prepared, session, effects) := s.prepared.timeout s.session
      some { s with
        session, prepared
        finalizations := s.finalizations ++ if s.prepared.finalized then [] else [.Timeout]
        effects := s.effects ++ effects }
  | .AcknowledgeClientStart =>
    if s.mu.isSome then none
    else some { s with session := advanced s.session (s.prepared.acknowledge_client_start s.session) }
  | .AcknowledgeClientConfiguration =>
    if s.mu.isSome then none
    else
      some { s with
        session := advanced s.session (s.prepared.acknowledge_client_configuration s.session) }
  | .BeginClientConfiguration =>
    if s.mu.isSome then none
    else
      match s.prepared.begin_check s.session with
      | .error _ => some s
      | .ok _ => some { s with calls := s.calls ++ [.BeginWriting] }
  | .WriteClientConfiguration =>
    if s.mu.isSome then none
    else
      match s.prepared.write_check s.session with
      | .error _ => some s
      | .ok packets => some { s with calls := s.calls ++ [.Writing packets] }
  | .Continue i written =>
    match s.calls[i]? with
    | none => none
    | some call => s.continueCall i written call
  | .ClientInput input => some { s with session := (s.session.handle_barrier_input input).1 }
  | .ClientAdvance phase => some { s with session := advanced s.session (s.session.advance_barrier phase) }
  | .BeginTransfer ids limit =>
    match s.session.begin_transfer ids limit with
    | .error _ => some s
    | .ok session => some { s with session, later := true }
  | .Later op => if s.later then some { s with session := op.perform s.session } else none

/-- How far the transfer has been finalized: what was recorded, what became of
the backend transport and, until a later transfer begins, where the session
stands. -/
inductive Stage (conn : Nat) (s : Lifecycle) : Prop where
  | opened (hopen : s.prepared.finalized = false) (hbackend : s.prepared.backend = some conn)
      (hactive : s.session.active.isSome) (hlater : s.later = false)
      (hfinal : s.finalizations = []) (hreturned : s.returned = []) (heffects : s.effects = [])
  | released (hclosed : s.prepared.finalized = true)
      (hsession : s.later = false → s.session = { state := .BackendPlay, barrier := none })
      (hfinal : s.finalizations = [.Release]) (hreturned : s.returned = [some conn])
      (heffects : s.effects = [.DoneClosed])
  | rolledBack (hclosed : s.prepared.finalized = true)
      (hsession : s.later = false → s.session = { state := .LimboPlay, barrier := none })
      (hfinal : s.finalizations = [.Rollback] ∨ s.finalizations = [.Timeout])
      (hreturned : s.returned = [])
      (heffects : s.effects.Perm [.DoneClosed, .BackendClosed conn])

/-- Between the steps the transfer is open or finalized, and in the latter case no
call holds its mutex. -/
structure Invariant (conn : Nat) (s : Lifecycle) : Prop where
  stage : Stage conn s
  holder : ∀ i, s.calls[i]? = some .WriteAdvancing → s.mu = some i
  unlocked : s.mu.isSome → s.prepared.finalized = false

theorem start_invariant {session : Session} (hactive : session.active.isSome) (conn : Nat)
    (packets : List Bytes) : Invariant conn (start session conn packets) where
  stage := .opened rfl rfl hactive rfl rfl rfl rfl
  holder := by simp [start]
  unlocked := by simp [start]

/-- A session step outside the prepared transfer keeps the stage when it keeps
an active barrier active and, before a later transfer, changes nothing
else. -/
theorem Stage.of_session {conn : Nat} {s : Lifecycle} (h : Stage conn s) {session : Session}
    (hactive : s.session.active.isSome → session.active.isSome)
    (hidle : s.session.active = none → s.later = false → session = s.session) :
    Stage conn { s with session } := by
  cases h with
  | opened hopen hbackend hbarrier hlater hfinal hreturned heffects =>
    exact .opened hopen hbackend (hactive hbarrier) hlater hfinal hreturned heffects
  | released hclosed hsession hfinal hreturned heffects =>
    refine .released hclosed (fun hlater => ?_) hfinal hreturned heffects
    have hold := hsession hlater
    rw [← hold]
    exact hidle (by rw [hold]; rfl) hlater
  | rolledBack hclosed hsession hfinal hreturned heffects =>
    refine .rolledBack hclosed (fun hlater => ?_) hfinal hreturned heffects
    have hold := hsession hlater
    rw [← hold]
    exact hidle (by rw [hold]; rfl) hlater

theorem advanced_active {s : Session} {phase : BarrierPhase} :
    s.active.isSome → (advanced s (s.advance_barrier phase)).active.isSome := by
  intro hactive
  unfold advanced
  cases hadvance : s.advance_barrier phase with
  | error e => exact hactive
  | ok s' =>
    obtain ⟨b, hb, _, rfl⟩ := Session.advance_barrier_eq_ok.mp hadvance
    have hstate := (Session.active_eq_some.mp hb).1
    simp [Session.active, hstate]

theorem advanced_idle {s : Session} {phase : BarrierPhase} (hidle : s.active = none) :
    advanced s (s.advance_barrier phase) = s := by
  unfold advanced Session.advance_barrier
  rw [hidle]

/-- Advancing from inside or outside the prepared transfer keeps the stage. -/
theorem Stage.advance {conn : Nat} {s : Lifecycle} (h : Stage conn s) (phase : BarrierPhase) :
    Stage conn { s with session := advanced s.session (s.session.advance_barrier phase) } :=
  h.of_session advanced_active fun hidle _ => advanced_idle hidle

/-- A client frame leaves the transfer where it is. -/
theorem Stage.input {conn : Nat} {s : Lifecycle} (h : Stage conn s) (input : Input) :
    Stage conn { s with session := (s.session.handle_barrier_input input).1 } := by
  refine h.of_session (fun hactive => ?_) (fun hidle _ => ?_)
  · rw [Session.handle_barrier_input_active]
    simpa using hactive
  · unfold Session.handle_barrier_input
    rw [hidle]

/-- The stage does not depend on the calls in flight or the mutex. -/
theorem Stage.of_calls {conn : Nat} {s : Lifecycle} (h : Stage conn s) (calls : List Call)
    (mu : Option Nat) : Stage conn { s with calls, mu } := by
  cases h with
  | opened hopen hbackend hactive hlater hfinal hreturned heffects =>
    exact .opened hopen hbackend hactive hlater hfinal hreturned heffects
  | released hclosed hsession hfinal hreturned heffects =>
    exact .released hclosed hsession hfinal hreturned heffects
  | rolledBack hclosed hsession hfinal hreturned heffects =>
    exact .rolledBack hclosed hsession hfinal hreturned heffects

/-- Replacing a call by one that does not hold the mutex. -/
theorem holder_set {s : Lifecycle} {i : Nat} {c : Call}
    (h : ∀ j, s.calls[j]? = some .WriteAdvancing → s.mu = some j) (hcall : c ≠ .WriteAdvancing) :
    ∀ j, (s.calls.set i c)[j]? = some .WriteAdvancing → s.mu = some j := by
  intro j hj
  rw [List.getElem?_set] at hj
  split at hj
  · split at hj
    · exact absurd (Option.some.inj hj) hcall
    · cases hj
  · exact h j hj

theorem holder_append {s : Lifecycle} {call : Call}
    (h : ∀ j, s.calls[j]? = some .WriteAdvancing → s.mu = some j) (hcall : call ≠ .WriteAdvancing) :
    ∀ j, (s.calls ++ [call])[j]? = some .WriteAdvancing → s.mu = some j := by
  intro j hj
  rw [List.getElem?_append] at hj
  split at hj
  · exact h j hj
  · rw [List.getElem?_singleton] at hj
    split at hj
    · exact absurd (Option.some.inj hj) hcall
    · cases hj

/-- A call that goes on after its write keeps the invariant. It may find the transfer
finalized in between. -/
theorem continueCall_invariant {conn : Nat} {s s' : Lifecycle} {i : Nat} {written : Bool} {call : Call}
    (hinv : Invariant conn s) (hcall : s.calls[i]? = some call)
    (hstep : s.continueCall i written call = some s') : Invariant conn s' := by
  obtain ⟨hstage, hholder, hunlocked⟩ := hinv
  have quiet (next : Call) (hnext : next ≠ .WriteAdvancing) :
      Invariant conn { s with calls := s.calls.set i next } :=
    ⟨hstage.of_calls _ _, holder_set hholder hnext, hunlocked⟩
  cases call with
  | BeginWriting =>
    simp only [continueCall, Option.some.injEq] at hstep
    subst s'
    exact quiet _ (by split <;> simp)
  | BeginChecking =>
    simp only [continueCall] at hstep
    split at hstep
    · cases hstep
    · cases hstep
      exact quiet _ (by simp)
  | Writing rest =>
    cases rest with
    | nil =>
      simp only [continueCall, Option.some.injEq] at hstep
      subst s'
      exact quiet _ (by split <;> simp)
    | cons packet rest =>
      simp only [continueCall, Option.some.injEq] at hstep
      subst s'
      exact quiet _ (by split <;> simp)
  | WriteChecking =>
    simp only [continueCall] at hstep
    split at hstep
    · cases hstep
    · rename_i hfree
      split at hstep
      · cases hstep
        exact quiet _ (by simp)
      · rename_i packets hcheck
        cases hstep
        refine ⟨hstage.of_calls _ _, fun j hj => ?_, fun _ => ?_⟩
        · simp only [List.getElem?_set] at hj
          split at hj
          · rename_i hij
            rw [hij]
          · have hmu := hholder j hj
            simp [hmu] at hfree
        · exact (Prepared.write_check_eq_ok.mp hcheck).1
  | WriteAdvancing =>
    simp only [continueCall, Option.some.injEq] at hstep
    subst s'
    have hmu := hholder i hcall
    refine ⟨(hstage.advance _).of_calls _ _, fun j hj => ?_, by simp⟩
    have hj' := holder_set hholder (c := .Returned) (by simp) j hj
    rw [hmu, Option.some.injEq] at hj'
    subst j
    simp only [List.getElem?_set, if_true] at hj
    split at hj <;> simp at hj
  | Returned => cases hstep

/-- The three finalizers find the transfer open at most once. -/
theorem Stage.release {conn : Nat} {s : Lifecycle} (h : Stage conn s) {replay : Replay}
    {returned : Option Nat} {prepared : Prepared} {session : Session} {effects : List Effect}
    (hrelease : s.prepared.release s.session = .ok ((replay, returned), prepared, session, effects)) :
    Stage conn { s with
      session, prepared, finalizations := s.finalizations ++ [.Release],
      returned := s.returned ++ [returned], effects := s.effects ++ effects } := by
  obtain ⟨hopen, rfl, rfl, rfl, htransfer⟩ := Prepared.release_eq_ok.mp hrelease
  obtain ⟨_, _, _, _, rfl⟩ := Session.release_transfer_eq_ok.mp htransfer
  cases h with
  | opened _ hbackend _ _ hfinal hreturned heffects =>
    refine .released rfl (fun _ => rfl) ?_ ?_ ?_
    · simp [hfinal]
    · simp [hreturned, hbackend]
    · simp [heffects]
  | released hclosed => rw [hopen] at hclosed; cases hclosed
  | rolledBack hclosed => rw [hopen] at hclosed; cases hclosed

theorem Stage.rollback {conn : Nat} {s : Lifecycle} (h : Stage conn s) :
    Stage conn { s with
      session := (s.prepared.rollback s.session).2.1
      prepared := (s.prepared.rollback s.session).1
      finalizations := s.finalizations ++ if s.prepared.finalized then [] else [.Rollback]
      effects := s.effects ++ (s.prepared.rollback s.session).2.2.1 } := by
  cases h with
  | opened hopen hbackend hactive _ hfinal hreturned heffects =>
    refine .rolledBack ?_ (fun _ => ?_) (.inl ?_) hreturned ?_
    · simp [Prepared.rollback, hopen]
    · simp [Prepared.rollback, hopen, Prepared.rolledBack_of_active hactive]
    · simp [hfinal, hopen]
    · simp [Prepared.rollback, Prepared.closeBackend, hopen, hbackend, heffects]
  | released hclosed hsession hfinal hreturned heffects =>
    refine .released ?_ (fun hlater => ?_) ?_ hreturned ?_
    · simp [Prepared.rollback, hclosed]
    · simpa [Prepared.rollback, hclosed] using hsession hlater
    · simp [hfinal, hclosed]
    · simp [Prepared.rollback, hclosed, heffects]
  | rolledBack hclosed hsession hfinal hreturned heffects =>
    refine .rolledBack ?_ (fun hlater => ?_) ?_ hreturned ?_
    · simp [Prepared.rollback, hclosed]
    · simpa [Prepared.rollback, hclosed] using hsession hlater
    · simpa [hclosed] using hfinal
    · simpa [Prepared.rollback, hclosed] using heffects

theorem Stage.timeout {conn : Nat} {s : Lifecycle} (h : Stage conn s) :
    Stage conn { s with
      session := (s.prepared.timeout s.session).2.1
      prepared := (s.prepared.timeout s.session).1
      finalizations := s.finalizations ++ if s.prepared.finalized then [] else [.Timeout]
      effects := s.effects ++ (s.prepared.timeout s.session).2.2 } := by
  cases h with
  | opened hopen hbackend hactive _ hfinal hreturned heffects =>
    refine .rolledBack ?_ (fun _ => ?_) (.inr ?_) hreturned ?_
    · simp [Prepared.timeout, hopen]
    · simp [Prepared.timeout, hopen, Prepared.rolledBack_of_active hactive]
    · simp [hfinal, hopen]
    · simpa [Prepared.timeout, Prepared.closeBackend, hopen, hbackend, heffects] using
        List.Perm.swap Effect.DoneClosed (Effect.BackendClosed conn) []
  | released hclosed hsession hfinal hreturned heffects =>
    refine .released ?_ (fun hlater => ?_) ?_ hreturned ?_
    · simp [Prepared.timeout, hclosed]
    · simpa [Prepared.timeout, hclosed] using hsession hlater
    · simp [hfinal, hclosed]
    · simp [Prepared.timeout, hclosed, heffects]
  | rolledBack hclosed hsession hfinal hreturned heffects =>
    refine .rolledBack ?_ (fun hlater => ?_) ?_ hreturned ?_
    · simp [Prepared.timeout, hclosed]
    · simpa [Prepared.timeout, hclosed] using hsession hlater
    · simpa [hclosed] using hfinal
    · simpa [Prepared.timeout, hclosed] using heffects

/-- Acknowledging through the prepared transfer is an advance, or nothing once
it is finalized. -/
theorem Stage.acknowledge {conn : Nat} {s : Lifecycle} (h : Stage conn s) (phase : BarrierPhase) :
    Stage conn { s with
      session := advanced s.session
        (if s.prepared.finalized then .error .TransferAlreadyFinalized
         else s.session.advance_barrier phase) } := by
  cases hfinalized : s.prepared.finalized with
  | true => simpa [advanced] using h
  | false => simpa using h.advance phase

theorem step_invariant {conn : Nat} {s s' : Lifecycle} {a : LifecycleAction}
    (hinv : Invariant conn s) (hstep : s.step a = some s') : Invariant conn s' := by
  have hstage := hinv.stage
  have locked {P : Prop} (hfree : ¬ s.mu.isSome) (hmu : s.mu.isSome) : P := absurd hmu hfree
  cases a with
  | Release =>
    simp only [step] at hstep
    split at hstep
    · cases hstep
    · rename_i hfree
      split at hstep
      · cases hstep
        exact hinv
      · rename_i replay returned prepared session effects hrelease
        cases hstep
        exact ⟨hstage.release hrelease, hinv.holder, locked hfree⟩
  | Rollback =>
    simp only [step] at hstep
    split at hstep
    · cases hstep
    · rename_i hfree
      cases hstep
      exact ⟨hstage.rollback, hinv.holder, locked hfree⟩
  | Timeout =>
    simp only [step] at hstep
    split at hstep
    · cases hstep
    · rename_i hfree
      cases hstep
      exact ⟨hstage.timeout, hinv.holder, locked hfree⟩
  | AcknowledgeClientStart =>
    simp only [step] at hstep
    split at hstep
    · cases hstep
    · cases hstep
      exact ⟨hstage.acknowledge _, hinv.holder, hinv.unlocked⟩
  | AcknowledgeClientConfiguration =>
    simp only [step] at hstep
    split at hstep
    · cases hstep
    · cases hstep
      exact ⟨hstage.acknowledge _, hinv.holder, hinv.unlocked⟩
  | BeginClientConfiguration =>
    simp only [step] at hstep
    split at hstep
    · cases hstep
    · split at hstep
      · cases hstep
        exact hinv
      · cases hstep
        exact ⟨hstage.of_calls _ _, holder_append hinv.holder (by simp), hinv.unlocked⟩
  | WriteClientConfiguration =>
    simp only [step] at hstep
    split at hstep
    · cases hstep
    · split at hstep
      · cases hstep
        exact hinv
      · cases hstep
        exact ⟨hstage.of_calls _ _, holder_append hinv.holder (by simp), hinv.unlocked⟩
  | Continue i written =>
    simp only [step] at hstep
    split at hstep
    · cases hstep
    · rename_i call hcall
      exact continueCall_invariant hinv hcall hstep
  | ClientInput input =>
    cases hstep
    exact ⟨hstage.input input, hinv.holder, hinv.unlocked⟩
  | ClientAdvance phase =>
    cases hstep
    exact ⟨hstage.advance phase, hinv.holder, hinv.unlocked⟩
  | BeginTransfer ids limit =>
    simp only [step] at hstep
    split at hstep
    · cases hstep
      exact hinv
    · rename_i session hbegin
      cases hstep
      obtain ⟨hstate, rfl⟩ := Session.begin_transfer_eq_ok.mp hbegin
      refine ⟨?_, hinv.holder, hinv.unlocked⟩
      cases hstage with
      | opened _ _ hactive =>
        obtain ⟨b, hb⟩ := Option.isSome_iff_exists.mp hactive
        rw [(Session.active_eq_some.mp hb).1] at hstate
        simp at hstate
      | released hclosed _ hfinal hreturned heffects =>
        exact .released hclosed (by simp) hfinal hreturned heffects
      | rolledBack hclosed _ hfinal hreturned heffects =>
        exact .rolledBack hclosed (by simp) hfinal hreturned heffects
  | Later op =>
    simp only [step] at hstep
    split at hstep
    · rename_i hlater
      cases hstep
      refine ⟨?_, hinv.holder, hinv.unlocked⟩
      cases hstage with
      | opened _ _ _ hnone => rw [hnone] at hlater; cases hlater
      | released hclosed _ hfinal hreturned heffects =>
        exact .released hclosed (by simp [hlater]) hfinal hreturned heffects
      | rolledBack hclosed _ hfinal hreturned heffects =>
        exact .rolledBack hclosed (by simp [hlater]) hfinal hreturned heffects
    · cases hstep

/-- Once finalized, no operation of the prepared transfer touches the session,
not even one that passed its first checks while the transfer was open. -/
theorem finalized_step_session {conn : Nat} {s s' : Lifecycle} {a : LifecycleAction}
    (hinv : Invariant conn s) (hclosed : s.prepared.finalized = true) (hown : a.ofPrepared)
    (hstep : s.step a = some s') : s'.session = s.session := by
  cases a with
  | Continue i written =>
    simp only [step] at hstep
    split at hstep
    · cases hstep
    · rename_i call hcall
      cases call with
      | WriteAdvancing =>
        have hopen := hinv.unlocked (by rw [hinv.holder i hcall]; rfl)
        rw [hopen] at hclosed
        cases hclosed
      | BeginWriting => cases hstep; rfl
      | BeginChecking => simp only [continueCall] at hstep; split at hstep <;> cases hstep; rfl
      | Writing rest => cases rest <;> cases hstep <;> rfl
      | WriteChecking =>
        simp only [continueCall, Prepared.write_check, hclosed, if_true] at hstep
        split at hstep <;> cases hstep
        rfl
      | Returned => cases hstep
  | ClientInput _ | ClientAdvance _ | BeginTransfer _ _ | Later _ =>
    simp [LifecycleAction.ofPrepared] at hown
  | _ =>
    simp only [step, Prepared.release, Prepared.rollback, Prepared.timeout, Prepared.begin_check,
      Prepared.write_check, Prepared.acknowledge_client_start,
      Prepared.acknowledge_client_configuration, hclosed, if_true, advanced] at hstep
    split at hstep <;> cases hstep
    rfl

/-- Whatever calls interleave on one prepared transfer, at most one finalizer
takes effect; the backend transport is handed out once and never closed, or
closed once and never handed out; the session rests where that finalizer
put it until a later transfer begins; the done channel is closed at most
once; and a finalized transfer never changes the session again. -/
theorem prepared_finalizes_once {session : Session} (hactive : session.active.isSome) {conn : Nat}
    {packets : List Bytes} {acts : List LifecycleAction} {s : Lifecycle}
    (run : Reaches step (start session conn packets) acts s) :
    s.finalizations.length ≤ 1 ∧
    ((s.finalizations = [] ∧ s.returned = [] ∧ .BackendClosed conn ∉ s.effects) ∨
      (s.finalizations = [.Release] ∧ s.returned = [some conn] ∧ .BackendClosed conn ∉ s.effects) ∨
      ((s.finalizations = [.Rollback] ∨ s.finalizations = [.Timeout]) ∧ s.returned = [] ∧
        s.effects.count (.BackendClosed conn) = 1)) ∧
    (s.later = false →
      (s.session.state = .BackendPlay ↔ .Release ∈ s.finalizations) ∧
      (s.session.state = .LimboPlay ∧ s.session.barrier = none ↔
        .Rollback ∈ s.finalizations ∨ .Timeout ∈ s.finalizations)) ∧
    s.effects.count .DoneClosed ≤ 1 ∧
    (s.prepared.finalized = true → ∀ a s', a.ofPrepared → s.step a = some s' → s'.session = s.session) := by
  have hinv : Invariant conn s :=
    run.invariant (start_invariant hactive conn packets) fun h _ hstep => step_invariant h hstep
  have hquiet : s.prepared.finalized = true →
      ∀ a s', a.ofPrepared → s.step a = some s' → s'.session = s.session :=
    fun hclosed a s' hown hstep => finalized_step_session hinv hclosed hown hstep
  cases hinv.stage with
  | opened _ _ hbarrier _ hfinal hreturned heffects =>
    obtain ⟨b, hb⟩ := Option.isSome_iff_exists.mp hbarrier
    have hstate := (Session.active_eq_some.mp hb).1
    refine ⟨by simp [hfinal], .inl ⟨hfinal, hreturned, by simp [heffects]⟩, fun _ => ?_,
      by simp [heffects], hquiet⟩
    simp [hstate, hfinal]
  | released _ hsession hfinal hreturned heffects =>
    refine ⟨by simp [hfinal], .inr (.inl ⟨hfinal, hreturned, by simp [heffects]⟩), fun hlater => ?_,
      by simp [heffects], hquiet⟩
    simp [hsession hlater, hfinal]
  | rolledBack _ hsession hfinal hreturned heffects =>
    have hcount : s.effects.count (.BackendClosed conn) = 1 := by
      rw [heffects.count_eq]
      simp
    refine ⟨?_, .inr (.inr ⟨hfinal, hreturned, hcount⟩), fun hlater => ?_, ?_, hquiet⟩
    · rcases hfinal with h | h <;> simp [h]
    · rcases hfinal with h | h <;> simp [hsession hlater, h]
    · rw [heffects.count_eq]
      simp

/-- A session that waits for the client's configuration acknowledgement. -/
def awaitingStart : Session where
  state := .TransferBarrier
  barrier := some { new_barrier [1] 4 with phase := BarrierAwaitingClientConfigurationStart }

/-- The timeout fires while Start Configuration is being written; a release and
a rollback that come later find the transfer finalized. -/
theorem prepared_finalizes_once_timeout_during_write :
    ∃ s, Reaches step (start awaitingStart 7 [[1, 2, 3]])
        [.BeginClientConfiguration, .Timeout, .Continue 0 true, .Continue 0 true, .Release, .Rollback] s ∧
      s.finalizations = [.Timeout] ∧ s.finalizations.length ≤ 1 ∧ s.effects.count .DoneClosed ≤ 1 := by
  obtain ⟨s, run, hs⟩ := Reaches.of_exec (fun s : Lifecycle => s.finalizations = [.Timeout])
    (show (exec step (fun _ _ => true) (start awaitingStart 7 [[1, 2, 3]])
      [.BeginClientConfiguration, .Timeout, .Continue 0 true, .Continue 0 true, .Release,
        .Rollback]).map _ = some true by decide)
  have h := prepared_finalizes_once (by decide) run
  exact ⟨s, run, by simpa using hs, h.1, h.2.2.2.1⟩

end Lifecycle

end regiongate.transfer
