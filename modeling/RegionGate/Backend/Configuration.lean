import RegionGate.Codec.RoundTrip
import RegionGate.Protocol.Configuration

open execution regiongate.codec regiongate.configuration

namespace regiongate.backend

/-- The limits of `CompleteConfiguration`, zero for the defaults. -/
structure ConfigurationConfig where
  max_packets : Int
  max_bytes : Int
  deriving DecidableEq

/-- A run of `CompleteConfiguration`: its limits and local variables, the frames
it has read, the frames it has written to the backend, and its result once
it has returned. -/
structure Configuring where
  max_packets : Int
  max_bytes : Int
  packets : List Bytes
  bytes_buffered : Nat
  received : List Bytes
  replies : List Bytes
  result : Option (Except Error Unit)

/-- A frame of the backend, with the result of the write it leads to, or a read
error, with the context's error at that time. -/
inductive ConfigurationRead where
  | Frame (frame : Bytes) (written : Bool)
  | Failed (ctx_err : Option Error)

namespace Configuring

/-- Before the first frame, with the defaults in place. -/
def start (config : ConfigurationConfig) : Configuring where
  max_packets := if config.max_packets ≤ 0 then 128 else config.max_packets
  max_bytes := if config.max_bytes ≤ 0 then 8 * 2 ^ 20 else config.max_bytes
  packets := []
  bytes_buffered := 0
  received := []
  replies := []
  result := none

/-- The exchange ends with an error. -/
def fail (s : Configuring) (err : Error) : Configuring := { s with result := some (.error err) }

/-- A reply to the backend; a failed write ends the exchange. -/
def reply (s : Configuring) (payload : Bytes) (written : Bool) : Configuring :=
  if written then { s with replies := s.replies ++ [payload] } else s.fail .Write

/-- The packet switch of the loop. -/
def frame (s : Configuring) (frame : Bytes) (written : Bool) : Configuring :=
  let s := { s with received := s.received ++ [frame] }
  match packet_id frame with
  | .error _ => s.fail .BackendConfigurationPacket
  | .ok (id, body) =>
    if id = ClientboundFinishConfigurationID then
      if body.length ≠ 0 then s.fail .BackendConfigurationPacket
      else if written then
        { s with replies := s.replies ++ [finish_acknowledged_payload], result := some (.ok ()) }
      else s.fail .Write
    else if id = ClientboundKeepAliveID then
      if body.length ≠ 8 then s.fail .BackendConfigurationPacket
      else s.reply (append_var_int [] ServerboundKeepAliveID ++ body) written
    else if id = ClientboundPingID then
      if body.length ≠ 4 then s.fail .BackendConfigurationPacket
      else s.reply (append_var_int [] ServerboundPongID ++ body) written
    else if id = ClientboundDisconnectID then s.fail .BackendConfigurationDisconnected
    else if (s.packets.length : Int) ≥ s.max_packets ∨
        (s.bytes_buffered : Int) + frame.length > s.max_bytes then
      s.fail .BackendConfigurationTooLarge
    else
      { s with
        packets := s.packets ++ [frame]
        bytes_buffered := s.bytes_buffered + frame.length }

/-- One turn of the loop of `CompleteConfiguration`: a frame, or a read that fails, in
which case the context's error takes the place of the disconnect. -/
def step (s : Configuring) (read : ConfigurationRead) : Option Configuring :=
  if s.result.isSome then none
  else
    match read with
    | .Frame frame written => some (s.frame frame written)
    | .Failed ctx_err => some (s.fail (ctx_err.getD .BackendConfigurationDisconnected))

end Configuring

/-- The frames that are meant for the client: all but the four kinds that the
gateway answers or acts on itself. -/
def relayed (frame : Bytes) : Bool :=
  match packet_id frame with
  | .error _ => false
  | .ok (id, _) =>
    id ≠ ClientboundFinishConfigurationID ∧ id ≠ ClientboundKeepAliveID ∧ id ≠ ClientboundPingID ∧
      id ≠ ClientboundDisconnectID

/-- The reply that a frame calls for: the body of a keepalive or ping under the
serverbound identifier. -/
def configuration_reply (frame : Bytes) : Option Bytes :=
  match packet_id frame with
  | .error _ => none
  | .ok (id, body) =>
    if id = ClientboundKeepAliveID then some (append_var_int [] ServerboundKeepAliveID ++ body)
    else if id = ClientboundPingID then some (append_var_int [] ServerboundPongID ++ body)
    else none

/-- Keepalives and pings have the body that the protocol gives them. -/
def BodiesComplete (frames : List Bytes) : Prop :=
  ∀ frame ∈ frames, ∀ id body, packet_id frame = .ok (id, body) →
    (id = ClientboundKeepAliveID → body.length = 8) ∧ (id = ClientboundPingID → body.length = 4)

namespace Configuring

/-- The buffer of a run stays within its limits. -/
structure Bounded (s : Configuring) : Prop where
  counted : s.bytes_buffered = (s.packets.map List.length).sum
  packets : (s.packets.length : Int) ≤ s.max_packets
  bytes : (s.bytes_buffered : Int) ≤ s.max_bytes

/-- What a run that has not failed has done with the frames it read: the ones for
the client are buffered and the others answered, in order. The
acknowledgement of Finish is the last reply. -/
structure Faithful (s : Configuring) : Prop where
  buffered : s.packets = s.received.filter relayed
  replies : s.replies = s.received.filterMap configuration_reply ++
    if s.result = none then [] else [finish_acknowledged_payload]
  bodies : BodiesComplete s.received

/-- A run is bounded, and faithful unless it has failed. -/
structure Invariant (s : Configuring) : Prop where
  bounded : s.Bounded
  faithful : (∀ err, s.result ≠ some (.error err)) → s.Faithful

theorem start_invariant (config : ConfigurationConfig) : (start config).Invariant where
  bounded := by
    refine ⟨by simp [start], ?_, ?_⟩
    · simp only [start, List.length_nil]
      split <;> omega
    · simp only [start]
      split <;> omega
  faithful := fun _ => ⟨by simp [start], by simp [start], by simp [start, BodiesComplete]⟩

/-- A failure changes nothing that the limits are about. -/
private theorem Bounded.fail {s : Configuring} (h : s.Bounded) (err : Error) : (s.fail err).Invariant :=
  ⟨⟨h.counted, h.packets, h.bytes⟩, fun hok => absurd rfl (hok err)⟩

/-- A further frame whose body has been checked. -/
private theorem bodies_snoc {frames : List Bytes} {frame body : Bytes} {id : Int}
    (h : BodiesComplete frames) (hid : packet_id frame = .ok (id, body))
    (hkeepAlive : id = ClientboundKeepAliveID → body.length = 8)
    (hping : id = ClientboundPingID → body.length = 4) : BodiesComplete (frames ++ [frame]) := by
  intro other hother id' body' hid'
  obtain hother | hother := List.mem_append.mp hother
  · exact h other hother id' body' hid'
  · rw [List.mem_singleton.mp hother, hid] at hid'
    simp only [Except.ok.injEq, Prod.mk.injEq] at hid'
    obtain ⟨rfl, rfl⟩ := hid'
    exact ⟨hkeepAlive, hping⟩

/-- The frame is answered and not buffered. -/
private theorem Invariant.answered {s : Configuring} {frame payload : Bytes} {written : Bool}
    (h : s.Invariant) (hrunning : s.result = none) (hrelayed : relayed frame = false)
    (hreply : configuration_reply frame = some payload) (hbodies : BodiesComplete (s.received ++ [frame])) :
    ({ s with received := s.received ++ [frame] }.reply payload written).Invariant := by
  have hbounded : { s with received := s.received ++ [frame] }.Bounded :=
    ⟨h.bounded.counted, h.bounded.packets, h.bounded.bytes⟩
  cases written with
  | false => exact hbounded.fail _
  | true =>
    refine ⟨⟨hbounded.counted, hbounded.packets, hbounded.bytes⟩, fun _ => ?_⟩
    have hfaithful := h.faithful (by simp [hrunning])
    refine ⟨?_, ?_, hbodies⟩
    · simp [reply, hfaithful.buffered, hrelayed]
    · have hold := hfaithful.replies
      simp only [hrunning, if_true, List.append_nil] at hold
      simp [reply, hold, hreply, hrunning]

/-- One frame: what is stored stays within both limits, and the answers are those to
the keepalives and pings so far. -/
theorem frame_invariant {s : Configuring} (h : s.Invariant) (hrunning : s.result = none) (frame : Bytes)
    (written : Bool) : (s.frame frame written).Invariant := by
  have hbounded : { s with received := s.received ++ [frame] }.Bounded :=
    ⟨h.bounded.counted, h.bounded.packets, h.bounded.bytes⟩
  have hfaithful := h.faithful (by simp [hrunning])
  have hreplies := hfaithful.replies
  simp only [hrunning, if_true, List.append_nil] at hreplies
  unfold Configuring.frame
  cases hid : packet_id frame with
  | error e => exact hbounded.fail _
  | ok packet =>
    obtain ⟨id, body⟩ := packet
    dsimp only
    by_cases hfinish : id = ClientboundFinishConfigurationID
    · -- Finish ends the exchange; it is neither buffered nor counted as a reply of its own.
      rw [if_pos hfinish]
      by_cases hbody : body.length ≠ 0
      · rw [if_pos hbody]
        exact hbounded.fail _
      · rw [if_neg hbody]
        cases written with
        | false => exact hbounded.fail _
        | true =>
          refine ⟨⟨hbounded.counted, hbounded.packets, hbounded.bytes⟩, fun _ => ⟨?_, ?_, ?_⟩⟩
          · simp [hfaithful.buffered, relayed, hid, hfinish]
          · subst hfinish
            simp [hreplies, configuration_reply, hid, ClientboundFinishConfigurationID,
              ClientboundKeepAliveID, ClientboundPingID]
          · subst hfinish
            exact bodies_snoc hfaithful.bodies hid (absurd · (by decide)) (absurd · (by decide))
    · rw [if_neg hfinish]
      by_cases hkeepAlive : id = ClientboundKeepAliveID
      · rw [if_pos hkeepAlive]
        by_cases hbody : body.length ≠ 8
        · rw [if_pos hbody]
          exact hbounded.fail _
        · rw [if_neg hbody]
          rw [not_not] at hbody
          apply h.answered hrunning
          · simp [relayed, hid, hkeepAlive]
          · simp [configuration_reply, hid, hkeepAlive]
          · subst hkeepAlive
            exact bodies_snoc hfaithful.bodies hid (fun _ => hbody) (absurd · (by decide))
      · rw [if_neg hkeepAlive]
        by_cases hping : id = ClientboundPingID
        · rw [if_pos hping]
          by_cases hbody : body.length ≠ 4
          · rw [if_pos hbody]
            exact hbounded.fail _
          · rw [if_neg hbody]
            rw [not_not] at hbody
            apply h.answered hrunning
            · simp [relayed, hid, hping]
            · rw [configuration_reply, hid]
              dsimp only
              rw [if_neg hkeepAlive, if_pos hping]
            · exact bodies_snoc hfaithful.bodies hid (absurd · hkeepAlive) (fun _ => hbody)
        · rw [if_neg hping]
          by_cases hdisconnect : id = ClientboundDisconnectID
          · rw [if_pos hdisconnect]
            exact hbounded.fail _
          · rw [if_neg hdisconnect]
            by_cases hfull : (s.packets.length : Int) ≥ s.max_packets ∨
                (s.bytes_buffered : Int) + frame.length > s.max_bytes
            · rw [if_pos hfull]
              exact hbounded.fail _
            · rw [if_neg hfull]
              obtain ⟨hpackets, hbytes⟩ := not_or.mp hfull
              refine ⟨⟨?_, ?_, ?_⟩, fun _ => ⟨?_, ?_, ?_⟩⟩
              · simp [h.bounded.counted]
              · simp only [List.length_append, List.length_singleton]
                omega
              · simp only
                omega
              · simp [hfaithful.buffered, relayed, hid, hfinish, hkeepAlive, hping, hdisconnect]
              · simp [hreplies, configuration_reply, hid, hkeepAlive, hping, hrunning]
              · exact bodies_snoc hfaithful.bodies hid (absurd · hkeepAlive) (absurd · hping)

theorem step_invariant {s s' : Configuring} {read : ConfigurationRead} (h : s.Invariant)
    (hstep : s.step read = some s') : s'.Invariant := by
  unfold step at hstep
  split at hstep
  · cases hstep
  · rename_i hrunning
    cases read with
    | Frame frame written =>
      cases hstep
      exact frame_invariant h (by simpa using hrunning) frame written
    | Failed ctx_err =>
      cases hstep
      exact h.bounded.fail _

/-- No step changes the limits. -/
theorem step_limits {s s' : Configuring} {read : ConfigurationRead} (hstep : s.step read = some s') :
    s'.max_packets = s.max_packets ∧ s'.max_bytes = s.max_bytes := by
  unfold step at hstep
  split at hstep
  · cases hstep
  · cases read with
    | Frame frame written =>
      cases hstep
      unfold Configuring.frame reply fail
      dsimp only
      split
      · exact ⟨rfl, rfl⟩
      · repeat' split
        all_goals exact ⟨rfl, rfl⟩
    | Failed ctx_err =>
      cases hstep
      exact ⟨rfl, rfl⟩

/-- The invariant holds however far the exchange has come. -/
theorem run_invariant {config : ConfigurationConfig} {reads : List ConfigurationRead} {s : Configuring}
    (run : Reaches step (start config) reads s) : s.Invariant :=
  run.invariant (start_invariant config) fun h _ hstep => step_invariant h hstep

theorem run_limits {config : ConfigurationConfig} {reads : List ConfigurationRead} {s : Configuring}
    (run : Reaches step (start config) reads s) :
    s.max_packets = (start config).max_packets ∧ s.max_bytes = (start config).max_bytes := by
  induction run with
  | nil => exact ⟨rfl, rfl⟩
  | snoc _ _ hstep ih =>
    obtain ⟨hpackets, hbytes⟩ := step_limits hstep
    exact ⟨hpackets.trans ih.1, hbytes.trans ih.2⟩

end Configuring

end regiongate.backend
