import RegionGate.Session.Session

open execution

namespace regiongate.session

/-- A call of one of the operations that change a session. The time that
`BeginTransfer` takes is never read. -/
inductive Operation where
  | Transition (target : State)
  | BeginTransfer (limbo_keep_alive_ids : List Int) (max_pending_commands : Int)
  | HandleBarrierInput (input : Input)
  | AdvanceBarrier (phase : BarrierPhase)
  | ReleaseTransfer
  | RollbackTransfer
  deriving DecidableEq

/-- What can be done with a barrier short of ending the transfer. -/
def Operation.isBarrierActivity : Operation → Bool
  | .HandleBarrierInput _ => true
  | .AdvanceBarrier _ => true
  | _ => false

namespace Session

/-- A call that failed leaves the session as it was. -/
def outcome (s : Session) : Except Error Session → Bool × Session
  | .ok s' => (true, s')
  | .error _ => (false, s)

/-- One call: whether it returned without an error, and the session after it. A
call that panics has not returned, and leaves what it has done so far. -/
def perform (s : Session) : Operation → Bool × Session
  | .Transition target => s.outcome (s.transition target)
  | .BeginTransfer ids limit =>
    let (result, s) := s.begin_transfer_checked ids limit
    (result = .Ok (), s)
  | .HandleBarrierInput input =>
    let (s, _, err) := s.handle_barrier_input input
    (err.isNone, s)
  | .AdvanceBarrier phase => s.outcome (s.advance_barrier phase)
  | .ReleaseTransfer => s.outcome (s.release_transfer.map (·.2))
  | .RollbackTransfer => s.outcome s.rollback_transfer

/-- Why a transition, the start of a transfer or an advance is refused. -/
def Refuses (s : Session) : Operation → Prop
  | .Transition target => can_transition s.state target = false
  | .BeginTransfer _ _ => can_transition s.state .TransferBarrier = false
  | .AdvanceBarrier phase => ∀ b, s.active = some b → phase ≠ b.phase + 1
  | _ => True

/-- Everything that a call can do to a session. -/
inductive OperationEffect (s : Session) : Operation → Bool → Session → Prop where
  | refused {op : Operation} (hrefuses : s.Refuses op) : OperationEffect s op false s
  | transitioned {target : State} (hpermitted : can_transition s.state target = true) :
    OperationEffect s (.Transition target) true
      { state := target, barrier := if target = .Closing then none else s.barrier }
  | begun {ids : List Int} {limit : Int} (hpermitted : can_transition s.state .TransferBarrier = true)
      (hlimit : storable limit = true) :
    OperationEffect s (.BeginTransfer ids limit) true
      { state := .TransferBarrier, barrier := some (new_barrier ids limit) }
  | panicked {ids : List Int} {limit : Int} (hpermitted : can_transition s.state .TransferBarrier = true)
      (hlimit : storable limit = false) :
    OperationEffect s (.BeginTransfer ids limit) false { s with state := .TransferBarrier }
  | handled {b : BarrierState} {input : Input} (hactive : s.active = some b) :
    OperationEffect s (.HandleBarrierInput input) true { s with barrier := some (b.handle input).1 }
  | advanced {b : BarrierState} {phase : BarrierPhase} (hactive : s.active = some b)
      (hphase : phase = b.phase + 1) :
    OperationEffect s (.AdvanceBarrier phase) true { s with barrier := some { b with phase } }
  | released {b : BarrierState} (hactive : s.active = some b) (hready : b.phase = BarrierReady) :
    OperationEffect s .ReleaseTransfer true { state := .BackendPlay, barrier := none }
  | rolled_back {b : BarrierState} (hactive : s.active = some b) :
    OperationEffect s .RollbackTransfer true { state := .LimboPlay, barrier := none }

section Effect

variable {s : Session} {op : Operation}

theorem transition_eq_ok {s' : Session} {target : State} :
    s.transition target = .ok s' ↔ can_transition s.state target = true ∧
      s' = { state := target, barrier := if target = .Closing then none else s.barrier } := by
  unfold transition
  by_cases hpermitted : can_transition s.state target = true
  · simp [hpermitted, eq_comm]
  · simp [hpermitted]

/-- A refused input leaves an active barrier, and so the session, as it was. -/
private theorem handle_effect {b : BarrierState} {input : Input} (hactive : s.active = some b) :
    OperationEffect s (.HandleBarrierInput input) (b.handle input).2.2.isNone
      { s with barrier := some (b.handle input).1 } := by
  cases herr : (b.handle input).2.2 with
  | none => exact .handled hactive
  | some e =>
    have hsame : ({ s with barrier := some (b.handle input).1 } : Session) = s := by
      rw [BarrierState.handle_refused herr, ← (active_eq_some.mp hactive).2]
    rw [hsame]
    exact .refused trivial

theorem perform_effect : OperationEffect s op (s.perform op).1 (s.perform op).2 := by
  cases op with
  | Transition target =>
    cases hresult : s.transition target with
    | error e =>
      rw [perform, hresult]
      refine .refused (Bool.eq_false_iff.mpr fun hpermitted => ?_)
      rw [transition_eq_ok.mpr ⟨hpermitted, rfl⟩] at hresult
      cases hresult
    | ok s' =>
      obtain ⟨hpermitted, rfl⟩ := transition_eq_ok.mp hresult
      rw [perform, hresult]
      exact .transitioned hpermitted
  | BeginTransfer ids limit =>
    rw [perform, begin_transfer_checked_eq]
    cases hpermitted : can_transition s.state .TransferBarrier with
    | false => exact .refused hpermitted
    | true =>
      cases hlimit : storable limit with
      | false => exact .panicked hpermitted hlimit
      | true => exact .begun hpermitted hlimit
  | HandleBarrierInput input =>
    cases hactive : s.active with
    | none =>
      rw [perform, handle_barrier_input, hactive]
      exact .refused trivial
    | some b =>
      rw [perform, handle_barrier_input, hactive]
      exact handle_effect hactive
  | AdvanceBarrier phase =>
    cases hresult : s.advance_barrier phase with
    | error e =>
      rw [perform, hresult]
      refine .refused fun b hactive hphase => ?_
      rw [advance_barrier_eq_ok.mpr ⟨b, hactive, hphase, rfl⟩] at hresult
      cases hresult
    | ok s' =>
      obtain ⟨b, hactive, hphase, rfl⟩ := advance_barrier_eq_ok.mp hresult
      rw [perform, hresult]
      exact .advanced hactive hphase
  | ReleaseTransfer =>
    cases hresult : s.release_transfer with
    | error e =>
      rw [perform, hresult]
      exact .refused trivial
    | ok result =>
      obtain ⟨replay, s'⟩ := result
      obtain ⟨b, hactive, hready, _, rfl⟩ := release_transfer_eq_ok.mp hresult
      rw [perform, hresult]
      exact .released hactive hready
  | RollbackTransfer =>
    cases hresult : s.rollback_transfer with
    | error e =>
      rw [perform, hresult]
      exact .refused trivial
    | ok s' =>
      obtain ⟨hactive, rfl⟩ := rollback_transfer_eq_ok.mp hresult
      obtain ⟨b, hactive⟩ := Option.isSome_iff_exists.mp hactive
      rw [perform, hresult]
      exact .rolled_back hactive

end Effect

/-- Sequences of calls: every call is made, and it may fail. -/
def step (s : Session) (op : Operation) : Option Session := some (s.perform op).2

/-- There is a barrier exactly during a transfer. -/
def Represented (s : Session) : Prop := s.barrier.isSome = true ↔ s.state = .TransferBarrier

/-- The call is not a transition that enters or leaves `StateTransferBarrier`
behind the back of the transfer operations, and does not begin a transfer
whose commands could never be stored. Closing clears the barrier. -/
def keepsBarrier (s : Session) : Operation → Bool
  | .Transition target =>
    !can_transition s.state target || target = .Closing ||
      (s.state ≠ .TransferBarrier && target ≠ .TransferBarrier)
  | .BeginTransfer _ limit => !can_transition s.state .TransferBarrier || storable limit
  | _ => true

section Represented

variable {s : Session} {op : Operation}

/-- A session in the barrier can be rolled back. -/
theorem Represented.rollback (h : s.Represented) (hstate : s.state = .TransferBarrier) :
    s.rollback_transfer = .ok { state := .LimboPlay, barrier := none } := by
  obtain ⟨b, hbarrier⟩ := Option.isSome_iff_exists.mp (h.mpr hstate)
  have hactive : s.active = some b := active_eq_some.mpr ⟨hstate, hbarrier⟩
  rw [rollback_transfer, hactive]

/-- A call keeps the invariant exactly when it is not such a transition and does
not panic. -/
theorem Represented.perform_iff (h : s.Represented) :
    (s.perform op).2.Represented ↔ s.keepsBarrier op = true := by
  have heffect : OperationEffect s op (s.perform op).1 (s.perform op).2 := perform_effect
  generalize (s.perform op).1 = ok at heffect
  generalize (s.perform op).2 = s' at heffect
  cases heffect with
  | refused hrefuses =>
    refine iff_of_true h ?_
    cases op with
    | Transition target =>
      have hrefused : can_transition s.state target = false := hrefuses
      simp [keepsBarrier, hrefused]
    | BeginTransfer ids limit =>
      have hrefused : can_transition s.state .TransferBarrier = false := hrefuses
      simp [keepsBarrier, hrefused]
    | _ => rfl
  | @transitioned target hpermitted =>
    by_cases hclosing : target = .Closing
    · simp [Represented, keepsBarrier, hclosing]
    · have hleaves : s.state = .TransferBarrier → target ≠ .TransferBarrier := by
        rintro hstate rfl
        simp [can_transition, hstate] at hpermitted
      have hkept : ({ state := target, barrier := if target = .Closing then none else s.barrier } :
          Session).Represented ↔ (s.state = .TransferBarrier ↔ target = .TransferBarrier) := by
        unfold Represented at h ⊢
        rw [if_neg hclosing, h]
      rw [hkept, keepsBarrier, hpermitted]
      by_cases hstate : s.state = .TransferBarrier
      · simp [hclosing, hstate, hleaves hstate]
      · simp [hclosing, hstate]
  | begun hpermitted hlimit => simp [Represented, keepsBarrier, hlimit]
  | panicked hpermitted hlimit =>
    have hidle : s.state ≠ .TransferBarrier := by
      intro hstate
      simp [can_transition, hstate] at hpermitted
    have hbarrier : ¬ s.barrier.isSome = true := fun hsome => hidle (h.mp hsome)
    simp [Represented, keepsBarrier, hpermitted, hlimit, hbarrier]
  | handled hactive =>
    obtain ⟨hstate, _⟩ := active_eq_some.mp hactive
    simp [Represented, keepsBarrier, hstate]
  | advanced hactive hphase =>
    obtain ⟨hstate, _⟩ := active_eq_some.mp hactive
    simp [Represented, keepsBarrier, hstate]
  | released hactive hready => simp [Represented, keepsBarrier]
  | rolled_back hactive => simp [Represented, keepsBarrier]

end Represented

/-- In every run in which no transition enters or leaves `StateTransferBarrier`
on its own and no `BeginTransfer` panics, a session has a barrier exactly
while it is in that state, and can then be rolled back. The next call keeps
it so exactly when it is not such a transition and does not panic. -/
theorem barrier_iff_transferring {ops : List Operation} {s : Session}
    (run : Runs step (fun s op => s.keepsBarrier op = true) new ops s) :
    (s.barrier.isSome = true ↔ s.state = .TransferBarrier) ∧
      (s.state = .TransferBarrier →
        s.rollback_transfer = .ok { state := .LimboPlay, barrier := none }) ∧
      ∀ op, (((s.perform op).2.barrier.isSome = true ↔ (s.perform op).2.state = .TransferBarrier) ↔
        s.keepsBarrier op = true) := by
  have hrepresented : s.Represented := by
    refine run.invariant (by simp [Represented, new]) fun {s op s'} h hkeeps hstep => ?_
    obtain rfl := Option.some.inj hstep
    exact h.perform_iff.mpr hkeeps
  exact ⟨hrepresented, hrepresented.rollback, fun op => hrepresented.perform_iff⟩

/-- The calls that lead a new session to Limbo. -/
def limboOperations : List Operation :=
  [.Transition .Login, .Transition .Configuration, .Transition .LimboPlay]

/-- A session that comes to Limbo and begins a transfer. -/
theorem barrier_iff_transferring_begun :
    ∃ s, Runs step (fun s op => s.keepsBarrier op = true) new (limboOperations ++ [.BeginTransfer [7] 1]) s ∧
      s.state = .TransferBarrier ∧ s.barrier.isSome = true := by
  obtain ⟨s, run, hobserved⟩ : ∃ s, Runs step (fun s op => s.keepsBarrier op = true) new
      (limboOperations ++ [.BeginTransfer [7] 1]) s ∧ decide (s.state = .TransferBarrier) = true :=
    Runs.of_exec (fun _ _ hok => hok) _ (by decide +kernel)
  have hstate := of_decide_eq_true hobserved
  exact ⟨s, run, hstate, (barrier_iff_transferring run).1.mpr hstate⟩

/-- A transition alone enters `StateTransferBarrier` without a barrier, one that
leaves it takes the barrier along, and a `BeginTransfer` that panics enters
it without a barrier too. -/
theorem transition_splits_barrier :
    (∃ s, Reaches step new (limboOperations ++ [.Transition .TransferBarrier]) s ∧
      s.state = .TransferBarrier ∧ s.barrier = none ∧ s.rollback_transfer = .error .BarrierInactive) ∧
    (∃ s, Reaches step new (limboOperations ++ [.BeginTransfer [7] 1, .Transition .LimboPlay]) s ∧
      s.state = .LimboPlay ∧ s.barrier = some (new_barrier [7] 1)) ∧
    ∃ s, Reaches step new (limboOperations ++ [.BeginTransfer [7] 0x4000000000000000]) s ∧
      s.state = .TransferBarrier ∧ s.barrier = none ∧ s.rollback_transfer = .error .BarrierInactive := by
  refine ⟨?_, ?_, ?_⟩
  · obtain ⟨s, run, hobserved⟩ : ∃ s, Reaches step new (limboOperations ++ [.Transition .TransferBarrier]) s ∧
        decide (s.state = .TransferBarrier ∧ s.barrier = none ∧
          s.rollback_transfer = .error .BarrierInactive) = true :=
      Reaches.of_exec _ (by decide +kernel)
    exact ⟨s, run, of_decide_eq_true hobserved⟩
  · obtain ⟨s, run, hobserved⟩ : ∃ s, Reaches step new
        (limboOperations ++ [.BeginTransfer [7] 1, .Transition .LimboPlay]) s ∧
        decide (s.state = .LimboPlay ∧ s.barrier = some (new_barrier [7] 1)) = true :=
      Reaches.of_exec _ (by decide +kernel)
    exact ⟨s, run, of_decide_eq_true hobserved⟩
  · obtain ⟨s, run, hobserved⟩ : ∃ s, Reaches step new
        (limboOperations ++ [.BeginTransfer [7] 0x4000000000000000]) s ∧
        decide (s.state = .TransferBarrier ∧ s.barrier = none ∧
          s.rollback_transfer = .error .BarrierInactive) = true :=
      Reaches.of_exec _ (by decide +kernel)
    exact ⟨s, run, of_decide_eq_true hobserved⟩

/-- The session is in a transfer that can be handled, advanced or ended. -/
def Transferring (s : Session) : Prop := s.active.isSome = true

section Rollback

variable {s : Session} {ids : List Int} {limit : Int}

/-- Barrier activity leaves the barrier active, whatever its results. -/
theorem Transferring.perform {op : Operation} (h : s.Transferring)
    (hactivity : op.isBarrierActivity = true) : (s.perform op).2.Transferring := by
  have heffect : OperationEffect s op (s.perform op).1 (s.perform op).2 := perform_effect
  generalize (s.perform op).1 = ok at heffect
  generalize (s.perform op).2 = s' at heffect
  cases heffect with
  | refused => exact h
  | handled hactive =>
    obtain ⟨hstate, _⟩ := active_eq_some.mp hactive
    simp [Transferring, active, hstate]
  | advanced hactive hphase =>
    obtain ⟨hstate, _⟩ := active_eq_some.mp hactive
    simp [Transferring, active, hstate]
  | transitioned | begun | panicked | released | rolled_back => cases hactivity

/-- `BeginTransfer` leaves a session in the barrier. -/
theorem transferring_of_begin {s' : Session} (hbegin : s.begin_transfer ids limit = .ok s') :
    s'.Transferring := by
  obtain ⟨_, rfl⟩ := begin_transfer_eq_ok.mp hbegin
  rfl

/-- However the transfer went on, rolling it back leads to Limbo. -/
theorem rollback_after_begin {s' final : Session} {ops : List Operation}
    (hbegin : s.begin_transfer ids limit = .ok s')
    (run : Runs step (fun _ op => op.isBarrierActivity = true) s' ops final) :
    final.rollback_transfer = .ok { state := .LimboPlay, barrier := none } := by
  have htransferring : final.Transferring := by
    refine run.invariant (transferring_of_begin hbegin) fun {s op s'} h hactivity hstep => ?_
    obtain rfl := Option.some.inj hstep
    exact h.perform hactivity
  exact rollback_transfer_eq_ok.mpr ⟨htransferring, rfl⟩

end Rollback

/-- After any barrier activity, rolling back a transfer succeeds and leads to
Limbo. That is the state before `BeginTransfer` exactly when the transfer
was begun from Limbo. -/
theorem rollback_restores_iff {s begun : Session} {ids : List Int} {limit : Int}
    (hbegin : s.begin_transfer ids limit = .ok begun) :
    (∀ ops final, Runs step (fun _ op => op.isBarrierActivity = true) begun ops final →
      final.rollback_transfer = .ok { state := .LimboPlay, barrier := none }) ∧
    ((∀ ops final, Runs step (fun _ op => op.isBarrierActivity = true) begun ops final →
      final.rollback_transfer = .ok { state := s.state, barrier := none }) ↔ s.state = .LimboPlay) := by
  refine ⟨fun ops final run => rollback_after_begin hbegin run, ?_, ?_⟩
  · intro hrestores
    have hrestored := hrestores [] begun .nil
    rw [rollback_after_begin hbegin .nil] at hrestored
    have hsession := Except.ok.inj hrestored
    exact (congrArg Session.state hsession).symm
  · intro hstate ops final run
    rw [rollback_after_begin hbegin run, hstate]

/-- A transfer from Limbo that got to the backend login. -/
theorem rollback_restores_iff_from_limbo :
    ∃ s begun final, Reaches step new limboOperations s ∧ s.begin_transfer [7] 1 = .ok begun ∧
      Runs step (fun _ op => op.isBarrierActivity = true) begun
        [.HandleBarrierInput { kind := .KeepAlive, keep_alive_id := 7 }, .AdvanceBarrier BarrierBackendLogin] final ∧
      final.rollback_transfer = .ok s := by
  obtain ⟨s, run, hobserved⟩ : ∃ s, Reaches step new limboOperations s ∧
      decide (s = { state := .LimboPlay, barrier := none }) = true :=
    Reaches.of_exec _ (by decide +kernel)
  obtain rfl := of_decide_eq_true hobserved
  have hbegin : ({ state := .LimboPlay, barrier := none } : Session).begin_transfer [7] 1 =
      .ok { state := .TransferBarrier, barrier := some (new_barrier [7] 1) } := rfl
  obtain ⟨final, hrun, _⟩ : ∃ final, Runs step (fun _ op => op.isBarrierActivity = true)
      { state := .TransferBarrier, barrier := some (new_barrier [7] 1) }
      [.HandleBarrierInput { kind := .KeepAlive, keep_alive_id := 7 }, .AdvanceBarrier BarrierBackendLogin] final ∧
      decide (final.barrier_phase = .ok BarrierBackendLogin) = true :=
    Runs.of_exec (fun _ _ hok => hok) _ (by decide +kernel)
  exact ⟨_, _, final, run, hbegin, hrun, (rollback_restores_iff hbegin).2.mpr rfl _ _ hrun⟩

/-- The calls of a whole transfer, up to the backend's play state. -/
def transferOperations : List Operation :=
  [.BeginTransfer [7] 1, .AdvanceBarrier BarrierBackendLogin, .AdvanceBarrier BarrierBackendConfiguration,
    .AdvanceBarrier BarrierAwaitingClientConfigurationStart, .AdvanceBarrier BarrierClientConfiguration,
    .AdvanceBarrier BarrierAwaitingClientConfigurationFinish, .AdvanceBarrier BarrierReady]

/-- A second transfer, begun from the backend's play state, is rolled back to
Limbo. -/
theorem rollback_leaves_backend_play :
    ∃ s begun, Reaches step new (limboOperations ++ transferOperations ++ [.ReleaseTransfer]) s ∧
      s.state = .BackendPlay ∧ s.begin_transfer [] 0 = .ok begun ∧
      begun.rollback_transfer = .ok { state := .LimboPlay, barrier := none } := by
  obtain ⟨s, run, hobserved⟩ : ∃ s, Reaches step new
      (limboOperations ++ transferOperations ++ [.ReleaseTransfer]) s ∧
      decide (s = { state := .BackendPlay, barrier := none }) = true :=
    Reaches.of_exec _ (by decide +kernel)
  obtain rfl := of_decide_eq_true hobserved
  exact ⟨_, _, run, rfl, rfl, rfl⟩

end Session

/-- The phases of a transfer in the order in which the source declares them. -/
def phaseOrder : List BarrierPhase :=
  [BarrierDraining, BarrierBackendLogin, BarrierBackendConfiguration,
    BarrierAwaitingClientConfigurationStart, BarrierClientConfiguration,
    BarrierAwaitingClientConfigurationFinish, BarrierReady]

/-- A session with the phases that its barrier has taken since the last
successful `BeginTransfer`. -/
structure Traced where
  current : Session
  taken : List BarrierPhase

namespace Traced

/-- Before the first call. -/
def new : Traced := { current := .new, taken := [] }

/-- The phase of the stored barrier, as a list. -/
def phases (s : Session) : List BarrierPhase := s.barrier.toList.map (·.phase)

/-- The phases after a call: a successful `BeginTransfer` starts anew, and a
successful `AdvanceBarrier` adds the phase that the barrier has then. -/
def extend (taken : List BarrierPhase) (s : Session) : Operation → Bool → List BarrierPhase
  | .BeginTransfer _ _, true => phases s
  | .AdvanceBarrier _, true => taken ++ phases s
  | _, _ => taken

/-- A call, with the states and phases that it goes through. -/
def perform (t : Traced) (op : Operation) : Traced where
  current := (t.current.perform op).2
  taken := extend t.taken (t.current.perform op).2 op (t.current.perform op).1

/-- Every call is possible at any time. -/
def step (t : Traced) (op : Operation) : Option Traced := some (t.perform op)

/-- While there is a barrier, its phases so far are the first of the declared
order, and its phase is the last of them. -/
def Disciplined (t : Traced) : Prop :=
  ∀ b, t.current.barrier = some b → t.taken <+: phaseOrder ∧ t.taken.getLast? = some b.phase

/-- The call does not advance a barrier past `BarrierReady`. -/
def inOrder (t : Traced) : Operation → Bool
  | .AdvanceBarrier phase => t.current.barrier_phase ≠ .ok BarrierReady || phase ≠ BarrierReady + 1
  | _ => true

/-- The call neither advances a barrier past `BarrierReady` nor parts it from
`StateTransferBarrier`. -/
def permitted (t : Traced) (op : Operation) : Bool := t.inOrder op && t.current.keepsBarrier op

/-- After an initial part of the order, the next phase goes on with it except at
its end. -/
theorem next_phase_iff {taken : List BarrierPhase} {phase : BarrierPhase}
    (hinitial : taken <+: phaseOrder) (hlast : taken.getLast? = some phase) :
    taken ++ [phase + 1] <+: phaseOrder ↔ phase ≠ BarrierReady := by
  have hall : ∀ taken ∈ phaseOrder.inits, ∀ phase ∈ taken.getLast?,
      (taken ++ [phase + 1] <+: phaseOrder ↔ phase ≠ BarrierReady) := by
    decide +kernel
  exact hall taken ((List.mem_inits taken phaseOrder).mpr hinitial) phase hlast

section Disciplined

variable {t : Traced} {op : Operation}

/-- A call keeps the discipline exactly when it does not advance past
`BarrierReady`. -/
theorem Disciplined.perform_iff (h : t.Disciplined) :
    (t.perform op).Disciplined ↔ t.inOrder op = true := by
  have heffect : Session.OperationEffect t.current op (t.current.perform op).1 (t.current.perform op).2 :=
    Session.perform_effect
  unfold perform
  generalize (t.current.perform op).1 = ok at heffect
  generalize (t.current.perform op).2 = s' at heffect
  cases heffect with
  | refused hrefuses =>
    have hsame : extend t.taken t.current op false = t.taken := by
      cases op <;> rfl
    rw [hsame]
    refine iff_of_true h ?_
    cases op with
    | AdvanceBarrier phase =>
      by_cases hready : t.current.barrier_phase = .ok BarrierReady
      · obtain ⟨b, hactive, hphase⟩ := Session.barrier_phase_eq_ok.mp hready
        have hnext : phase ≠ b.phase + 1 := hrefuses b hactive
        simp [inOrder, ← hphase, hnext]
      · simp [inOrder, hready]
    | _ => rfl
  | @transitioned target hpermitted =>
    refine iff_of_true (fun b hbarrier => ?_) rfl
    by_cases hclosing : target = .Closing
    · simp [hclosing] at hbarrier
    · exact h b (by simpa [hclosing] using hbarrier)
  | begun hpermitted hlimit =>
    refine iff_of_true (fun b hbarrier => ?_) rfl
    obtain rfl := Option.some.inj hbarrier
    exact ⟨List.prefix_iff_eq_take.mpr rfl, rfl⟩
  | panicked hpermitted hlimit => exact iff_of_true h rfl
  | @handled b input hactive =>
    refine iff_of_true (fun b' hbarrier => ?_) rfl
    obtain rfl := Option.some.inj hbarrier
    rw [BarrierState.handle_phase]
    exact h b (Session.active_eq_some.mp hactive).2
  | @advanced b phase hactive hphase =>
    subst hphase
    obtain ⟨hinitial, hlast⟩ := h b (Session.active_eq_some.mp hactive).2
    have hready : t.current.barrier_phase = .ok b.phase := Session.barrier_phase_eq_ok.mpr ⟨b, hactive, rfl⟩
    have hkept : ({ current := { t.current with barrier := some { b with phase := b.phase + 1 } }
                    taken := t.taken ++ [b.phase + 1] } : Traced).Disciplined ↔
        t.taken ++ [b.phase + 1] <+: phaseOrder := by
      simp [Disciplined]
    refine hkept.trans ((next_phase_iff hinitial hlast).trans ?_)
    by_cases hphase : b.phase = BarrierReady
    · simp [inOrder, hready, hphase]
    · simp [inOrder, hready, hphase]
  | released hactive hready => exact iff_of_true (by rintro b ⟨⟩) rfl
  | rolled_back hactive => exact iff_of_true (by rintro b ⟨⟩) rfl

end Disciplined

/-- `ReleaseTransfer` succeeds in the last phase only. -/
theorem release_iff_ready {s : Session} :
    (s.perform .ReleaseTransfer).1 = true ↔ s.barrier_phase = .ok BarrierReady := by
  unfold Session.perform Session.release_transfer Session.barrier_phase
  cases s.active with
  | none => simp [Session.outcome, Except.map]
  | some b =>
    by_cases hphase : b.phase = BarrierReady
    · simp [hphase, Session.outcome, Except.map]
    · simp [hphase, Session.outcome, Except.map]

/-- A ready barrier stays ready until its transfer ends. -/
theorem ready_kept {t : Traced} {op : Operation} (hready : t.current.barrier_phase = .ok BarrierReady)
    (hpermitted : t.permitted op = true) :
    (t.perform op).current.barrier_phase = .ok BarrierReady ∨
      op = .ReleaseTransfer ∨ op = .RollbackTransfer ∨ op = .Transition .Closing := by
  obtain ⟨b, hactive, hphase⟩ := Session.barrier_phase_eq_ok.mp hready
  obtain ⟨hstate, hbarrier⟩ := Session.active_eq_some.mp hactive
  obtain ⟨horder, hkeeps⟩ := Bool.and_eq_true_iff.mp hpermitted
  have heffect : Session.OperationEffect t.current op (t.current.perform op).1 (t.current.perform op).2 :=
    Session.perform_effect
  unfold perform
  generalize (t.current.perform op).1 = ok at heffect
  generalize (t.current.perform op).2 = s' at heffect
  cases heffect with
  | refused hrefuses => exact .inl hready
  | @transitioned target htarget =>
    -- From `StateTransferBarrier` only closing keeps state and barrier together.
    rw [hstate] at htarget
    have hclosing : target = .Closing := by
      simpa [Session.keepsBarrier, hstate, htarget] using hkeeps
    simp [hclosing]
  | begun hbegins | panicked hbegins =>
    rw [hstate] at hbegins
    cases hbegins
  | handled hactive' =>
    obtain rfl := Option.some.inj (hactive.symm.trans hactive')
    left
    exact Session.barrier_phase_eq_ok.mpr ⟨_, Session.active_eq_some.mpr ⟨hstate, rfl⟩, by simp [hphase]⟩
  | advanced hactive' hnext =>
    obtain rfl := Option.some.inj (hactive.symm.trans hactive')
    simp [inOrder, hready, hnext, hphase] at horder
  | released => simp
  | rolled_back => simp

/-- In every run in which no call advances a barrier past `BarrierReady` or parts
it from `StateTransferBarrier`, a session in that state has a barrier whose
phases so far are the first of the declared order, one for each successful
`AdvanceBarrier`; `ReleaseTransfer` succeeds exactly in `BarrierReady`; and a
ready barrier stays ready until its transfer ends. The next call keeps the
order exactly when it does not advance past `BarrierReady`. -/
theorem phases_in_order {ops : List Operation} {t : Traced}
    (run : Runs step (fun t op => t.permitted op = true) new ops t) :
    (t.current.state = .TransferBarrier ↔ ∃ phase, t.current.barrier_phase = .ok phase) ∧
      (∀ phase, t.current.barrier_phase = .ok phase →
        t.taken <+: phaseOrder ∧ t.taken.getLast? = some phase) ∧
      ((t.current.perform .ReleaseTransfer).1 = true ↔ t.current.barrier_phase = .ok BarrierReady) ∧
      (t.current.barrier_phase = .ok BarrierReady → ∀ op, t.permitted op = true →
        (t.perform op).current.barrier_phase = .ok BarrierReady ∨
          op = .ReleaseTransfer ∨ op = .RollbackTransfer ∨ op = .Transition .Closing) ∧
      ∀ op, ((t.perform op).Disciplined ↔ t.inOrder op = true) := by
  have hdisciplined : t.Disciplined := by
    refine run.invariant (by rintro b ⟨⟩) fun {t op t'} h hpermitted hstep => ?_
    obtain rfl := Option.some.inj hstep
    exact h.perform_iff.mpr (Bool.and_eq_true_iff.mp hpermitted).1
  have hrepresented : t.current.Represented := by
    apply run.invariant
    · simp [new, Session.Represented, Session.new]
    · intro t op t' h hpermitted hstep
      obtain rfl := Option.some.inj hstep
      exact Session.Represented.perform_iff h |>.mpr (Bool.and_eq_true_iff.mp hpermitted).2
  refine ⟨⟨?_, ?_⟩, ?_, release_iff_ready, fun hready op hpermitted => ready_kept hready hpermitted,
    fun op => hdisciplined.perform_iff⟩
  · intro hstate
    obtain ⟨b, hbarrier⟩ := Option.isSome_iff_exists.mp (hrepresented.mpr hstate)
    exact ⟨b.phase, Session.barrier_phase_eq_ok.mpr ⟨b, Session.active_eq_some.mpr ⟨hstate, hbarrier⟩, rfl⟩⟩
  · rintro ⟨phase, hphase⟩
    obtain ⟨b, hactive, _⟩ := Session.barrier_phase_eq_ok.mp hphase
    exact (Session.active_eq_some.mp hactive).1
  · intro phase hphase
    obtain ⟨b, hactive, rfl⟩ := Session.barrier_phase_eq_ok.mp hphase
    exact hdisciplined b (Session.active_eq_some.mp hactive).2

/-- A whole transfer takes all phases and can then be released. -/
theorem phases_in_order_whole_transfer :
    ∃ t, Runs step (fun t op => t.permitted op = true) new
        (Session.limboOperations ++ Session.transferOperations) t ∧
      t.taken = phaseOrder ∧ (t.current.perform .ReleaseTransfer).1 = true := by
  obtain ⟨t, run, hobserved⟩ : ∃ t, Runs step (fun t op => t.permitted op = true) new
      (Session.limboOperations ++ Session.transferOperations) t ∧
      decide (t.taken = phaseOrder ∧ t.current.barrier_phase = .ok BarrierReady) = true :=
    Runs.of_exec (fun _ _ hok => hok) _ (by decide +kernel)
  obtain ⟨htaken, hready⟩ := of_decide_eq_true hobserved
  exact ⟨t, run, htaken, (phases_in_order run).2.2.1.mpr hready⟩

/-- `AdvanceBarrier` goes on past `BarrierReady`, and the transfer can no longer
be released. -/
theorem advance_past_ready :
    ∃ t, Reaches step new (Session.limboOperations ++ Session.transferOperations ++
        [.AdvanceBarrier (BarrierReady + 1)]) t ∧
      t.taken = phaseOrder ++ [7] ∧ t.current.barrier_phase = .ok 7 ∧
      t.current.release_transfer = .error .BarrierNotReady := by
  obtain ⟨t, run, hobserved⟩ : ∃ t, Reaches step new (Session.limboOperations ++
      Session.transferOperations ++ [.AdvanceBarrier (BarrierReady + 1)]) t ∧
      decide (t.taken = phaseOrder ++ [7] ∧ t.current.barrier_phase = .ok 7) = true :=
    Reaches.of_exec _ (by decide +kernel)
  obtain ⟨htaken, hphase⟩ := of_decide_eq_true hobserved
  obtain ⟨b, hactive, hseven⟩ := Session.barrier_phase_eq_ok.mp hphase
  refine ⟨t, run, htaken, hphase, ?_⟩
  rw [Session.release_transfer, hactive]
  simp [hseven, BarrierReady]

end Traced

end regiongate.session
