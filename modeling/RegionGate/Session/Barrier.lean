import Mathlib.Data.Finset.Basic
import RegionGate.Checked
import RegionGate.Error

open checked

namespace regiongate.session

/-- Barrier phases are bytes: `AdvanceBarrier` compares with the successor in
8-bit arithmetic and knows no last phase. -/
abbrev BarrierPhase := UInt8

-- The phases in the order in which a transfer goes through them.
def BarrierDraining : BarrierPhase := 0
def BarrierBackendLogin : BarrierPhase := 1
def BarrierBackendConfiguration : BarrierPhase := 2
def BarrierAwaitingClientConfigurationStart : BarrierPhase := 3
def BarrierClientConfiguration : BarrierPhase := 4
def BarrierAwaitingClientConfigurationFinish : BarrierPhase := 5
def BarrierReady : BarrierPhase := 6

/-- `InputKind`. -/
inductive InputKind where
  | KeepAlive
  | Movement
  | PlayerCommand
  | Unsafe
  deriving DecidableEq, Repr

/-- `InputDisposition`: what has become of an input. -/
inductive InputDisposition where
  | Consumed
  | Coalesced
  | Queued
  | Dropped
  deriving DecidableEq, Repr

/-- A player position; coordinates and angles are IEEE 754 bit patterns. -/
structure Position where
  x : UInt64 := 0
  y : UInt64 := 0
  z : UInt64 := 0
  yaw : UInt32 := 0
  pitch : UInt32 := 0
  on_ground : Bool := false
  deriving DecidableEq, Repr

/-- `PlayerCommand`. -/
structure PlayerCommand where
  entity_id : Int := 0
  action_id : Int := 0
  data : Int := 0
  deriving DecidableEq, Repr

/-- `Input`, of which each kind uses its own fields. -/
structure Input where
  kind : InputKind
  keep_alive_id : Int := 0
  position : Position := {}
  has_look : Bool := false
  command : PlayerCommand := {}
  deriving DecidableEq, Repr

/-- `Replay`: what the backend has to be told after a transfer. -/
structure Replay where
  position : Option Position
  commands : List PlayerCommand
  deriving DecidableEq, Repr

/-- What the transfer barrier records. The start time is never read. -/
structure BarrierState where
  phase : BarrierPhase
  limbo_keep_alives : Finset Int
  latest_position : Position
  has_position : Bool
  commands : List PlayerCommand
  max_commands : Int
  deriving DecidableEq

/-- `newBarrier`; a negative limit of the commands is taken as zero. -/
def new_barrier (keep_alive_ids : List Int) (max_commands : Int) : BarrierState where
  phase := BarrierDraining
  limbo_keep_alives := keep_alive_ids.toFinset
  latest_position := {}
  has_position := false
  commands := []
  max_commands := if max_commands < 0 then 0 else max_commands

/-- The bytes of a `PlayerCommand`, three 32-bit numbers. -/
def playerCommandSize : Nat := 12

/-- `newBarrier` with its allocation: `make` panics for a limit whose commands
could never be stored. -/
def new_barrier_checked (keep_alive_ids : List Int) (max_commands : Int) : Outcome Error BarrierState := do
  let commands ← makeSlice playerCommandSize (if max_commands < 0 then 0 else max_commands)
  .Ok { new_barrier keep_alive_ids max_commands with commands }

/-- The commands of this limit can be stored; a negative limit counts as none. -/
def storable (max_commands : Int) : Bool := max_commands * playerCommandSize ≤ maxAlloc

/-- One client input at the barrier: the new barrier, the disposition and the
error, if any. -/
def BarrierState.handle (b : BarrierState) (input : Input) :
    BarrierState × InputDisposition × Option Error :=
  match input.kind with
  | .KeepAlive =>
    if input.keep_alive_id ∉ b.limbo_keep_alives then (b, .Dropped, some .UnexpectedKeepAlive)
    else
      ({ b with limbo_keep_alives := b.limbo_keep_alives.erase input.keep_alive_id }, .Consumed, none)
  | .Movement =>
    let position :=
      if ¬ input.has_look ∧ b.has_position then
        { input.position with yaw := b.latest_position.yaw, pitch := b.latest_position.pitch }
      else input.position
    ({ b with latest_position := position, has_position := true }, .Coalesced, none)
  | .PlayerCommand =>
    if b.commands.length ≥ b.max_commands then (b, .Dropped, some .CommandQueueExhausted)
    else ({ b with commands := b.commands ++ [input.command] }, .Queued, none)
  | .Unsafe => (b, .Dropped, none)

/-- `replay`: the last position, if there was one, and the commands in order. -/
def BarrierState.replay (b : BarrierState) : Replay where
  position := if b.has_position then some b.latest_position else none
  commands := b.commands

/-- `newBarrier` makes its barrier exactly for a limit that can be stored. -/
theorem new_barrier_checked_eq (ids : List Int) (limit : Int) :
    new_barrier_checked ids limit = if storable limit then .Ok (new_barrier ids limit) else .Panic := by
  have hallocated : (makeSlice playerCommandSize (if limit < 0 then 0 else limit) :
      Outcome Error (List PlayerCommand)) = if storable limit then .Ok [] else .Panic := by
    unfold makeSlice storable playerCommandSize maxAlloc
    simp only [decide_eq_true_eq]
    split_ifs <;> first | rfl | omega
  unfold new_barrier_checked
  rw [hallocated]
  split
  · rfl
  · rfl

/-- No input moves the phase; phases only move through `AdvanceBarrier`. -/
@[simp] theorem BarrierState.handle_phase (b : BarrierState) (input : Input) :
    (b.handle input).1.phase = b.phase := by
  unfold BarrierState.handle
  cases input.kind with
  | KeepAlive => dsimp only; split <;> rfl
  | Movement => rfl
  | PlayerCommand => dsimp only; split <;> rfl
  | Unsafe => rfl

/-- An input other than a keepalive answer leaves the pending answers alone,
and an accepted answer removes exactly its own identifier. -/
theorem BarrierState.handle_keep_alives (b : BarrierState) (input : Input) :
    (b.handle input).1.limbo_keep_alives =
      if input.kind = .KeepAlive then b.limbo_keep_alives.erase input.keep_alive_id
      else b.limbo_keep_alives := by
  unfold BarrierState.handle
  cases input.kind with
  | KeepAlive =>
    dsimp only
    split
    · rename_i hmissing
      rw [if_pos rfl, Finset.erase_eq_of_notMem hmissing]
    · rw [if_pos rfl]
  | Movement => simp
  | PlayerCommand => dsimp only; split <;> simp
  | Unsafe => simp

/-- A refused input leaves the barrier as it was. -/
theorem BarrierState.handle_refused {b : BarrierState} {input : Input} {e : Error}
    (h : (b.handle input).2.2 = some e) : (b.handle input).1 = b := by
  cases hkind : input.kind with
  | KeepAlive =>
    simp only [BarrierState.handle, hkind] at h ⊢
    split at h
    · rename_i hmissing
      rw [if_pos hmissing]
    · cases h
  | Movement => simp [BarrierState.handle, hkind] at h
  | PlayerCommand =>
    simp only [BarrierState.handle, hkind] at h ⊢
    split at h
    · rename_i hfull
      rw [if_pos hfull]
    · cases h
  | Unsafe => simp [BarrierState.handle, hkind]

/-- A keepalive answer is refused exactly when it is not awaited. -/
theorem BarrierState.handle_keep_alive_error (b : BarrierState) (input : Input)
    (hkind : input.kind = .KeepAlive) :
    (b.handle input).2.2 =
      if input.keep_alive_id ∈ b.limbo_keep_alives then none else some .UnexpectedKeepAlive := by
  unfold BarrierState.handle
  rw [hkind]
  dsimp only
  by_cases hmem : input.keep_alive_id ∈ b.limbo_keep_alives
  · rw [if_neg (not_not.mpr hmem), if_pos hmem]
  · rw [if_pos hmem, if_neg hmem]

end regiongate.session
