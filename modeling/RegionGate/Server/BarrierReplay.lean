import RegionGate.Server.BarrierFrame
import RegionGate.Protocol.Play.RoundTrip

open regiongate.session execution

namespace regiongate.transfer

/-- The packets that bring the backend up to date with what the client did
during the barrier. -/
def replay_payloads (replay : Replay) : List Bytes :=
  (match replay.position with
    | none => []
    | some p => [play.serverbound_position_look_payload p.x p.y p.z p.yaw p.pitch p.on_ground]) ++
  replay.commands.map fun c => play.player_command_payload c.entity_id c.action_id c.data

end regiongate.transfer

namespace regiongate.server

/-- A session between transfers and during them, as the reader of client frames
and the goroutines that move the barrier see it. `handling` is the session
call of a `handleBarrierFrame` that has read the phase and not yet made its
call, with its frame. `accepted` collects the frames accepted since the last
`BeginTransfer`, and `limit` is the command limit given there. -/
structure BarrierRun where
  session : Session
  handling : Option (BarrierCall × Bytes)
  accepted : List Bytes
  limit : Int
  deriving DecidableEq

/-- `Read` and `Call` are the two halves of `handleBarrierFrame`; the other
actions are calls that other goroutines make in any order. -/
inductive BarrierAction where
  | Begin (keep_alives : List Int) (limit : Int)
  | Advance (phase : BarrierPhase)
  | Rollback
  | Read (frame : Bytes)
  | Call

namespace BarrierRun

/-- A session in Limbo, with no frame at hand. -/
def start : BarrierRun where
  session := { state := .LimboPlay, barrier := none }
  handling := none
  accepted := []
  limit := 0

/-- One step, or `none` where the session refuses it. A frame is read in one step and
its call is made in another, so the phase may change in between. -/
def step (s : BarrierRun) : BarrierAction → Option BarrierRun
  | .Begin keep_alives limit =>
    match s.session.begin_transfer keep_alives limit with
    | .error _ => none
    | .ok session => some { s with session, accepted := [], limit }
  | .Advance phase =>
    match s.session.advance_barrier phase with
    | .error _ => none
    | .ok session => some { s with session }
  | .Rollback =>
    match s.session.rollback_transfer with
    | .error _ => none
    | .ok session => some { s with session }
  | .Read frame =>
    match s.handling, codec.packet_id frame, s.session.barrier_phase with
    | none, .ok (id, _), .ok phase =>
      match barrier_call phase id frame with
      | .error _ => none
      | .ok call => some { s with handling := some (call, frame) }
    | _, _, _ => none
  | .Call =>
    match s.handling with
    | none => none
    | some (call, frame) =>
      match call.perform s.session with
      | (session, some _) => some { s with session, handling := none }
      | (session, none) =>
        some { s with session, handling := none, accepted := s.accepted ++ [frame] }

end BarrierRun

/-- The movements and the commands among client frames, in arrival order. -/
def movements (frames : List Bytes) : List play.Movement :=
  frames.filterMap fun frame => (play.decode_movement frame).toOption

/-- The player commands among the frames. -/
def commands (frames : List Bytes) : List play.PlayerCommand :=
  frames.filterMap fun frame => (play.parse_player_command frame).toOption

/-- The angles of the last movement that carried a look, zero when none did. -/
def lastLook (moves : List play.Movement) : UInt32 × UInt32 :=
  match (moves.filter (·.has_look)).getLast? with
  | none => (0, 0)
  | some m => (m.yaw, m.pitch)

/-- The one movement that stands for all: the last position with the last look. -/
def coalesced (moves : List play.Movement) : Option play.Movement :=
  moves.getLast?.map fun m =>
    { m with yaw := (lastLook moves).1, pitch := (lastLook moves).2, has_look := true }

/-- What a backend reads from a replayed packet. -/
inductive Replayed where
  | Movement (movement : play.Movement)
  | Command (command : play.PlayerCommand)
  deriving DecidableEq

/-- A replayed packet as the backend decodes it. -/
def decode_replayed (payload : Bytes) : Option Replayed :=
  match play.decode_movement payload with
  | .ok m => some (.Movement m)
  | .error _ =>
    match play.parse_player_command payload with
    | .ok c => some (.Command c)
    | .error _ => none

section Frames

variable {phase : BarrierPhase} {id : Int} {frame body : Bytes} {call : BarrierCall}

private theorem decode_movement_other (hid : codec.packet_id frame = .ok (id, body))
    (hposition : id ≠ play.ServerboundPositionID) (hlook : id ≠ play.ServerboundPositionLookID) :
    (play.decode_movement frame).toOption = none := by
  cases hdecode : play.decode_movement frame with
  | error e => rfl
  | ok m =>
    obtain ⟨other, body', hother, hmovement⟩ := play.decode_movement_id hdecode
    rw [hid] at hother
    simp only [Except.ok.injEq, Prod.mk.injEq] at hother
    obtain ⟨rfl, _⟩ := hother
    exact absurd hmovement (not_or.mpr ⟨hposition, hlook⟩)

private theorem parse_player_command_other (hid : codec.packet_id frame = .ok (id, body))
    (hcommand : id ≠ play.ServerboundPlayerCommandID) :
    (play.parse_player_command frame).toOption = none := by
  cases hparse : play.parse_player_command frame with
  | error e => rfl
  | ok c =>
    obtain ⟨⟨body', hother⟩, _⟩ := play.parse_player_command_eq_ok hparse
    rw [hid] at hother
    simp only [Except.ok.injEq, Prod.mk.injEq] at hother
    exact absurd hother.1 hcommand

/-- The session call of an accepted frame, told by what the frame decodes to:
a movement and a command are offered to the barrier with their values, and
every other frame leaves position and commands alone. -/
theorem barrier_call_classified (hid : codec.packet_id frame = .ok (id, body))
    (hcall : barrier_call phase id frame = .ok call) :
    (∃ m, play.decode_movement frame = .ok m ∧ (play.parse_player_command frame).toOption = none ∧
      call = .Input { kind := .Movement, has_look := m.has_look,
                      position := { x := m.x, y := m.y, z := m.z, yaw := m.yaw, pitch := m.pitch,
                                    on_ground := m.on_ground } }) ∨
    (∃ c, play.parse_player_command frame = .ok c ∧ (play.decode_movement frame).toOption = none ∧
      call = .Input { kind := .PlayerCommand,
                      command := { entity_id := c.entity_id, action_id := c.action_id, data := c.data } }) ∨
    ((play.decode_movement frame).toOption = none ∧ (play.parse_player_command frame).toOption = none ∧
      ∀ input, call = .Input input → input.kind = .KeepAlive ∨ input.kind = .Unsafe) := by
  by_cases hmovement : id = play.ServerboundPositionID ∨ id = play.ServerboundPositionLookID
  · left
    have hother : (play.parse_player_command frame).toOption = none := by
      apply parse_player_command_other hid
      rintro rfl
      revert hmovement
      decide
    have hnot : ∀ other ∈ [play.ServerboundConfigurationAcknowledgedID,
        configuration.ServerboundFinishConfigurationID, configuration.ServerboundClientInformationID,
        configuration.ServerboundPluginMessageID, play.ServerboundKeepAliveID], id ≠ other := by
      obtain rfl | rfl := hmovement <;> decide
    simp only [List.forall_mem_cons, List.not_mem_nil, false_imp_iff, implies_true, and_true] at hnot
    obtain ⟨hstart, hfinish, hinformation, hplugin, hkeepAlive⟩ := hnot
    cases hdecode : play.decode_movement frame with
    | error e =>
      simp [barrier_call, hstart, hfinish, hinformation, hplugin, hkeepAlive, hmovement, hdecode] at hcall
    | ok m =>
      refine ⟨m, rfl, hother, ?_⟩
      simpa [barrier_call, hstart, hfinish, hinformation, hplugin, hkeepAlive, hmovement, hdecode,
        eq_comm] using hcall
  · obtain ⟨hposition, hlook⟩ := not_or.mp hmovement
    have hnoMovement := decode_movement_other hid hposition hlook
    by_cases hcommand : id = play.ServerboundPlayerCommandID
    · right; left
      have hnot : ∀ other ∈ [play.ServerboundConfigurationAcknowledgedID,
          configuration.ServerboundFinishConfigurationID, configuration.ServerboundClientInformationID,
          configuration.ServerboundPluginMessageID, play.ServerboundKeepAliveID], id ≠ other := by
        rw [hcommand]
        decide
      simp only [List.forall_mem_cons, List.not_mem_nil, false_imp_iff, implies_true, and_true] at hnot
      obtain ⟨hstart, hfinish, hinformation, hplugin, hkeepAlive⟩ := hnot
      subst hcommand
      cases hparse : play.parse_player_command frame with
      | error e =>
        simp [barrier_call, hstart, hfinish, hinformation, hplugin, hkeepAlive, hposition, hlook,
          hparse] at hcall
      | ok c =>
        refine ⟨c, rfl, hnoMovement, ?_⟩
        simpa [barrier_call, hstart, hfinish, hinformation, hplugin, hkeepAlive, hposition, hlook,
          hparse, eq_comm] using hcall
    · right; right
      refine ⟨hnoMovement, parse_player_command_other hid hcommand, ?_⟩
      rintro input rfl
      unfold barrier_call at hcall
      rw [if_neg hmovement, if_neg hcommand] at hcall
      repeat' split at hcall
      all_goals cases hcall
      all_goals simp

end Frames

section Coalescing

variable {moves : List play.Movement} {m : play.Movement}

private theorem lastLook_snoc :
    lastLook (moves ++ [m]) = if m.has_look then (m.yaw, m.pitch) else lastLook moves := by
  unfold lastLook
  cases hlook : m.has_look <;> simp [List.filter_append, hlook]

/-- One movement coalesced into what the barrier already holds. -/
private theorem coalesced_snoc (hlook : m.has_look = false → m.yaw = 0 ∧ m.pitch = 0) :
    coalesced (moves ++ [m]) = some { m with
      yaw := if m.has_look = false ∧ moves ≠ [] then (lastLook moves).1 else m.yaw
      pitch := if m.has_look = false ∧ moves ≠ [] then (lastLook moves).2 else m.pitch
      has_look := true } := by
  unfold coalesced
  rw [List.getLast?_concat, Option.map_some, lastLook_snoc]
  cases hcase : m.has_look with
  | true => simp
  | false =>
    obtain ⟨hyaw, hpitch⟩ := hlook hcase
    by_cases hempty : moves = []
    · subst hempty
      simp [lastLook, hyaw, hpitch]
    · simp [hempty]

end Coalescing

namespace BarrierRun

/-- What the barrier holds of the accepted frames. -/
structure Recorded (b : BarrierState) (frames : List Bytes) (limit : Int) : Prop where
  position : (coalesced (movements frames)).map (fun m =>
      ({ x := m.x, y := m.y, z := m.z, yaw := m.yaw, pitch := m.pitch, on_ground := m.on_ground } :
        Position)) =
    if b.has_position then some b.latest_position else none
  commands : b.commands = (commands frames).map fun c =>
    { entity_id := c.entity_id, action_id := c.action_id, data := c.data }
  max_commands : b.max_commands = max 0 limit
  bounded : (b.commands.length : Int) ≤ max 0 limit

theorem Recorded.new (keep_alives : List Int) (limit : Int) :
    Recorded (new_barrier keep_alives limit) [] limit where
  position := by simp [new_barrier, coalesced, movements]
  commands := by simp [new_barrier, server.commands]
  max_commands := by
    simp only [new_barrier]
    split <;> omega
  bounded := by simp [new_barrier]

/-- A frame that is neither a movement nor a command adds nothing. -/
theorem Recorded.other {b b' : BarrierState} {frames : List Bytes} {limit : Int} {frame : Bytes}
    (h : Recorded b frames limit) (hmovement : (play.decode_movement frame).toOption = none)
    (hcommand : (play.parse_player_command frame).toOption = none)
    (hposition : b'.latest_position = b.latest_position) (hhas : b'.has_position = b.has_position)
    (hcommands : b'.commands = b.commands) (hmax : b'.max_commands = b.max_commands) :
    Recorded b' (frames ++ [frame]) limit where
  position := by
    rw [hposition, hhas, ← h.position]
    simp [movements, hmovement]
  commands := by
    rw [hcommands, h.commands]
    simp [server.commands, hcommand]
  max_commands := by rw [hmax, h.max_commands]
  bounded := by rw [hcommands]; exact h.bounded

/-- An accepted movement is coalesced: its position replaces the old one, and
without a look of its own it keeps the old angles. -/
theorem Recorded.movement {b : BarrierState} {frames : List Bytes} {limit : Int} {frame : Bytes}
    {m : play.Movement} (h : Recorded b frames limit) (hdecode : play.decode_movement frame = .ok m)
    (hcommand : (play.parse_player_command frame).toOption = none) :
    Recorded (b.handle { kind := .Movement, has_look := m.has_look,
                         position := { x := m.x, y := m.y, z := m.z, yaw := m.yaw, pitch := m.pitch,
                                       on_ground := m.on_ground } }).1 (frames ++ [frame]) limit where
  position := by
    have hmoves : movements (frames ++ [frame]) = movements frames ++ [m] := by
      simp [movements, hdecode, Except.toOption]
    have hold := h.position
    rw [hmoves, coalesced_snoc (play.decode_movement_eq_ok hdecode).2.2.2.2.2]
    cases hfirst : movements frames with
    | nil =>
      have hnone : b.has_position = false := by
        rw [hfirst] at hold
        cases hhas : b.has_position with
        | false => rfl
        | true => simp [coalesced, hhas] at hold
      simp [BarrierState.handle, hnone]
    | cons first rest =>
      have hlast : ∃ last, (movements frames).getLast? = some last := by
        rw [hfirst]
        exact ⟨_, List.getLast?_eq_some_getLast (by simp)⟩
      obtain ⟨last, hlast⟩ := hlast
      simp only [coalesced, hlast, Option.map_some] at hold
      have hhas : b.has_position = true := by
        cases hhas : b.has_position with
        | true => rfl
        | false => simp [hhas] at hold
      rw [hhas, if_pos rfl, Option.some.injEq] at hold
      rw [hfirst] at hold
      cases hlook : m.has_look with
      | true => simp [BarrierState.handle]
      | false => simp [BarrierState.handle, hhas, ← hold]
  commands := by
    have hsame : server.commands (frames ++ [frame]) = server.commands frames := by
      simp [server.commands, hcommand]
    rw [hsame]
    exact h.commands
  max_commands := h.max_commands
  bounded := h.bounded

/-- An accepted command is appended, and there was room for it. -/
theorem Recorded.command {b : BarrierState} {frames : List Bytes} {limit : Int} {frame : Bytes}
    {c : play.PlayerCommand} {input : Input} (h : Recorded b frames limit)
    (hparse : play.parse_player_command frame = .ok c)
    (hmovement : (play.decode_movement frame).toOption = none)
    (hinput : input = { kind := .PlayerCommand,
                        command := { entity_id := c.entity_id, action_id := c.action_id, data := c.data } })
    (haccepted : (b.handle input).2.2 = none) :
    Recorded (b.handle input).1 (frames ++ [frame]) limit := by
  by_cases hroom : (b.commands.length : Int) ≥ b.max_commands
  · simp [hinput, BarrierState.handle, hroom] at haccepted
  · have hhandle : (b.handle input).1 =
        { b with commands := b.commands ++
            [{ entity_id := c.entity_id, action_id := c.action_id, data := c.data }] } := by
      simp only [hinput, BarrierState.handle]
      rw [if_neg hroom]
    rw [hhandle]
    refine ⟨?_, ?_, h.max_commands, ?_⟩
    · rw [show movements (frames ++ [frame]) = movements frames by simp [movements, hmovement]]
      exact h.position
    · have hcommands : server.commands (frames ++ [frame]) = server.commands frames ++ [c] := by
        simp [server.commands, hparse, Except.toOption]
      rw [hcommands, List.map_append, ← h.commands]
      rfl
    · have hmax := h.max_commands
      simp only [List.length_append, List.length_singleton]
      omega

/-- In every reachable state an active barrier holds what was accepted since
its transfer began, and a frame in handling was dispatched by its packet
identifier in some phase. -/
structure Invariant (s : BarrierRun) : Prop where
  recorded : ∀ b, s.session.active = some b → Recorded b s.accepted s.limit
  dispatched : ∀ call frame, s.handling = some (call, frame) →
    ∃ phase id body, codec.packet_id frame = .ok (id, body) ∧ barrier_call phase id frame = .ok call

theorem start_invariant : start.Invariant where
  recorded b hactive := by simp [start, Session.active] at hactive
  dispatched call frame hhandling := by simp [start] at hhandling

/-- One accepted call keeps the barrier and the accepted frames in step. -/
theorem Recorded.applied {b : BarrierState} {frames : List Bytes} {limit : Int}
    {phase : BarrierPhase} {id : Int} {frame body : Bytes} {call : BarrierCall}
    (h : Recorded b frames limit) (hid : codec.packet_id frame = .ok (id, body))
    (hcall : barrier_call phase id frame = .ok call)
    (haccepted : ∀ input, call = .Input input → (b.handle input).2.2 = none) :
    Recorded (call.applied b) (frames ++ [frame]) limit := by
  obtain ⟨m, hdecode, hcommand, rfl⟩ | ⟨c, hparse, hmovement, rfl⟩ | ⟨hmovement, hcommand, hother⟩ :=
    barrier_call_classified hid hcall
  · exact h.movement hdecode hcommand
  · exact h.command hparse hmovement rfl (haccepted _ rfl)
  · cases call with
    | Advance target => exact h.other hmovement hcommand rfl rfl rfl rfl
    | Input input =>
      have hkind := hother input rfl
      apply h.other hmovement hcommand <;>
        · simp only [BarrierCall.applied, BarrierState.handle]
          obtain hkind | hkind := hkind
          · rw [hkind]
            dsimp only
            split <;> rfl
          · rw [hkind]
    | Done => exact h.other hmovement hcommand rfl rfl rfl rfl

/-- One step: the barrier holds the last position with the last direction, and the
commands in order up to its limit. -/
theorem step_invariant {s s' : BarrierRun} {a : BarrierAction} (h : s.Invariant)
    (hstep : s.step a = some s') : s'.Invariant := by
  cases a with
  | Begin keep_alives limit =>
    simp only [step] at hstep
    split at hstep
    · cases hstep
    · rename_i session hbegin
      cases hstep
      obtain ⟨_, rfl⟩ := Session.begin_transfer_eq_ok.mp hbegin
      refine ⟨?_, h.dispatched⟩
      intro b hactive
      obtain ⟨_, hbarrier⟩ := Session.active_eq_some.mp hactive
      simp only [Option.some.injEq] at hbarrier
      subst hbarrier
      exact .new keep_alives limit
  | Advance phase =>
    simp only [step] at hstep
    split at hstep
    · cases hstep
    · rename_i session hadvance
      cases hstep
      obtain ⟨old, hold, _, rfl⟩ := Session.advance_barrier_eq_ok.mp hadvance
      refine ⟨?_, h.dispatched⟩
      intro b hactive
      obtain ⟨_, hbarrier⟩ := Session.active_eq_some.mp hactive
      simp only [Option.some.injEq] at hbarrier
      subst hbarrier
      have hrecorded := h.recorded old hold
      exact ⟨hrecorded.position, hrecorded.commands, hrecorded.max_commands, hrecorded.bounded⟩
  | Rollback =>
    simp only [step] at hstep
    split at hstep
    · cases hstep
    · rename_i session hrollback
      cases hstep
      obtain ⟨_, rfl⟩ := Session.rollback_transfer_eq_ok.mp hrollback
      refine ⟨?_, h.dispatched⟩
      intro b hactive
      simp [Session.active] at hactive
  | Read frame =>
    simp only [step] at hstep
    split at hstep
    · rename_i id body phase _ hid _
      split at hstep
      · cases hstep
      · rename_i call hcall
        cases hstep
        refine ⟨h.recorded, ?_⟩
        intro other frame' hhandling
        simp only [Option.some.injEq, Prod.mk.injEq] at hhandling
        obtain ⟨rfl, rfl⟩ := hhandling
        exact ⟨phase, id, body, hid, hcall⟩
    · cases hstep
  | Call =>
    simp only [step] at hstep
    split at hstep
    · cases hstep
    · rename_i call frame hhandling
      obtain ⟨phase, id, body, hid, hcall⟩ := h.dispatched call frame hhandling
      split at hstep
      · rename_i session e hperform
        cases hstep
        obtain rfl := BarrierCall.perform_error hperform
        exact ⟨h.recorded, by simp⟩
      · rename_i session hperform
        cases hstep
        refine ⟨?_, by simp⟩
        intro b' hactive'
        cases hactive : s.session.active with
        | none =>
          have hidle := BarrierCall.perform_inactive hactive hperform
          rw [hactive'] at hidle
          cases hidle
        | some b =>
          obtain ⟨happlied, haccepted⟩ := BarrierCall.perform_active hactive hperform
          rw [hactive', Option.some.injEq] at happlied
          rw [happlied]
          exact (h.recorded b hactive).applied hid hcall haccepted

end BarrierRun

/-- Movements that were decoded from frames have finite fields, and so has the
one they are coalesced into. -/
private theorem coalesced_finite {frames : List Bytes} {m : play.Movement}
    (h : coalesced (movements frames) = some m) :
    play.finite64 m.x ∧ play.finite64 m.y ∧ play.finite64 m.z ∧ play.finite32 m.yaw ∧
      play.finite32 m.pitch ∧ m.has_look = true := by
  have hdecoded : ∀ move ∈ movements frames, ∃ frame, play.decode_movement frame = .ok move := by
    intro move hmove
    obtain ⟨frame, _, hframe⟩ := List.mem_filterMap.mp hmove
    refine ⟨frame, ?_⟩
    cases hdecode : play.decode_movement frame with
    | error e => simp [hdecode, Except.toOption] at hframe
    | ok other =>
      simp only [hdecode, Except.toOption, Option.some.injEq] at hframe
      rw [hframe]
  obtain ⟨last, hlast, rfl⟩ := Option.map_eq_some_iff.mp h
  obtain ⟨frame, hframe⟩ := hdecoded last (List.mem_of_getLast? hlast)
  obtain ⟨hx, hy, hz, _⟩ := play.decode_movement_eq_ok hframe
  have hlook : play.finite32 (lastLook (movements frames)).1 ∧
      play.finite32 (lastLook (movements frames)).2 := by
    unfold lastLook
    cases hlook : ((movements frames).filter (·.has_look)).getLast? with
    | none => decide
    | some look =>
      have hmem := List.mem_of_getLast? hlook
      obtain ⟨frame', hframe'⟩ := hdecoded look (List.mem_filter.mp hmem).1
      obtain ⟨_, _, _, hyaw, hpitch, _⟩ := play.decode_movement_eq_ok hframe'
      exact ⟨hyaw, hpitch⟩
  exact ⟨hx, hy, hz, hlook.1, hlook.2, rfl⟩

/-- The replayed position is read as the coalesced movement. -/
private theorem decode_replayed_movement {frames : List Bytes} {m : play.Movement}
    (h : coalesced (movements frames) = some m) :
    decode_replayed (play.serverbound_position_look_payload m.x m.y m.z m.yaw m.pitch m.on_ground) =
      some (.Movement m) := by
  obtain ⟨hx, hy, hz, hyaw, hpitch, hlook⟩ := coalesced_finite h
  rw [decode_replayed, play.decode_position_look _ _ _ _ _ _ hx hy hz hyaw hpitch]
  rw [← hlook]

/-- A replayed command is read as the one that came in. -/
private theorem decode_replayed_command {frames : List Bytes} {c : play.PlayerCommand}
    (h : c ∈ commands frames) :
    decode_replayed (play.player_command_payload c.entity_id c.action_id c.data) =
      some (.Command c) := by
  obtain ⟨frame, _, hframe⟩ := List.mem_filterMap.mp h
  cases hparse : play.parse_player_command frame with
  | error e => simp [hparse, Except.toOption] at hframe
  | ok other =>
    simp only [hparse, Except.toOption, Option.some.injEq] at hframe
    subst hframe
    obtain ⟨_, hentity, haction, hdata⟩ := play.parse_player_command_eq_ok hparse
    have hback := play.parse_player_command_payload hentity haction hdata
    obtain ⟨⟨body, hid⟩, _⟩ := play.parse_player_command_eq_ok hback
    have hmovement := decode_movement_other hid (by decide) (by decide)
    rw [decode_replayed]
    cases hdecode : play.decode_movement
        (play.player_command_payload other.entity_id other.action_id other.data) with
    | ok m => simp [hdecode, Except.toOption] at hmovement
    | error e => simp [hback]

/-- What the backend decodes from the replay is what the client did during the
barrier: the last position with the last look, then every accepted command
in arrival order, never more of them than the limit. -/
theorem replay_is_faithful {acts : List BarrierAction} {s : BarrierRun} {replay : Replay}
    {released : Session} (run : Reaches BarrierRun.step BarrierRun.start acts s)
    (hrelease : s.session.release_transfer = .ok (replay, released)) :
    (transfer.replay_payloads replay).map decode_replayed =
      ((coalesced (movements s.accepted)).toList.map fun m => some (.Movement m)) ++
        ((commands s.accepted).map fun c => some (.Command c)) ∧
    ((commands s.accepted).length : Int) ≤ max 0 s.limit := by
  have hinvariant : s.Invariant := run.invariant BarrierRun.start_invariant
    fun hold _ hstep => BarrierRun.step_invariant hold hstep
  obtain ⟨b, hactive, _, rfl, _⟩ := Session.release_transfer_eq_ok.mp hrelease
  have hrecorded := hinvariant.recorded b hactive
  have hposition : (BarrierState.replay b).position = (coalesced (movements s.accepted)).map _ :=
    hrecorded.position.symm
  have hcommands : (BarrierState.replay b).commands = (commands s.accepted).map _ := hrecorded.commands
  constructor
  · rw [transfer.replay_payloads, hposition, hcommands, List.map_append]
    congr 1
    · cases hcoalesced : coalesced (movements s.accepted) with
      | none => rfl
      | some m =>
        have hdecoded := decode_replayed_movement hcoalesced
        simpa using hdecoded
    · rw [List.map_map, List.map_map]
      apply List.map_congr_left
      intro c hc
      exact decode_replayed_command hc
  · have hbounded := hrecorded.bounded
    rw [hrecorded.commands, List.length_map] at hbounded
    exact hbounded

/-- A look, a position without a look and a command, with acknowledgements and a
keepalive answer between them. -/
private def mixedFrames : List Bytes :=
  [play.serverbound_position_look_payload 1 2 3 4 5 true,
    0x15 :: play.put_uint64 7,
    0x17 :: (play.put_uint64 7 ++ play.put_uint64 8 ++ play.put_uint64 9 ++ [0]),
    [0x0b],
    play.player_command_payload 1 3 0,
    [0x02]]

/-- Frames of all kinds in different phases of one barrier. -/
private def mixedRun : List BarrierAction :=
  let frame := fun i => [.Read (mixedFrames.getD i []), .Call]
  [.Begin [7] 2, .Advance 1] ++ frame 0 ++ [.Advance 2, .Advance 3] ++ frame 1 ++ frame 2 ++ frame 3 ++
    frame 4 ++ [.Advance 5] ++ frame 5

/-- A barrier with movements, commands, a keepalive and frames that are dropped. -/
theorem replay_is_faithful_mixed_frames :
    ∃ s replay released, Reaches BarrierRun.step BarrierRun.start mixedRun s ∧
      s.session.release_transfer = .ok (replay, released) ∧
      (transfer.replay_payloads replay).map decode_replayed =
        [some (.Movement { x := 7, y := 8, z := 9, yaw := 4, pitch := 5, on_ground := false,
                           has_look := true }),
          some (.Command { entity_id := 1, action_id := 3, data := 0 })] := by
  have hreached : ∃ s, Reaches BarrierRun.step BarrierRun.start mixedRun s ∧
      decide (s.accepted = mixedFrames ∧ s.session.active.map (·.phase) = some BarrierReady) = true :=
    Reaches.of_exec _ (by decide +kernel)
  obtain ⟨s, run, hobserved⟩ := hreached
  obtain ⟨haccepted, hphase⟩ := of_decide_eq_true hobserved
  obtain ⟨b, hactive, hready⟩ := Option.map_eq_some_iff.mp hphase
  have hrelease := Session.release_transfer_eq_ok.mpr ⟨b, hactive, hready, rfl, rfl⟩
  refine ⟨s, b.replay, _, run, hrelease, ?_⟩
  rw [(replay_is_faithful run hrelease).1, haccepted]
  decide +kernel

end regiongate.server
