import RegionGate.Codec.Checked
import RegionGate.Codec.Frame
import Mathlib.Algebra.Group.Int.Defs

open checked framing

namespace regiongate.codec

/-- What the compression layer relies on in zlib: a stream that was deflated is
inflated to the same bytes, it is never empty, and it grows by no more than
a thousandth and 64 bytes. -/
structure Zlib where
  deflate : Bytes → Bytes
  inflate : Bytes → Option Bytes
  inflate_deflate : ∀ data, inflate (deflate data) = some data
  deflate_ne_nil : ∀ data, deflate data ≠ []
  deflate_length : ∀ data, (deflate data).length ≤ data.length + data.length / 1000 + 64

/-- `CompressionState`: the two limits on a packet, and the framer around its packets. -/
structure CompressionState where
  threshold : Nat
  max_packet_size : Nat
  wire_framer : Framer
  deriving DecidableEq

/-- The wire limit of `NewCompressionState`. -/
def wire_limit (maxPacketSize : Nat) : Int :=
  wrap64 ((maxPacketSize + maxPacketSize / 1000 + 64 + MaxVarIntBytes : Nat) : Int)

/-- `NewCompressionState`, with the framer for packets as they are on the wire. -/
def new_compression_state (threshold maxPacketSize : Int) : Except Error CompressionState :=
  if threshold < 0 then .error .InvalidCompressionThreshold
  else
    let maxPacketSize : Nat := if maxPacketSize ≤ 0 then DefaultMaxPacketSize else maxPacketSize.toNat
    .ok { threshold := threshold.toNat, max_packet_size := maxPacketSize,
          wire_framer := new_framer (wire_limit maxPacketSize) }

namespace CompressionState

/-- `ReadFrame` from the wire frame on. Inflating gives the whole stream, which
is as long as the header says when `io.ReadFull` succeeds and the read of
one more byte finds the end. -/
def read_wire (zlib : Zlib) (c : CompressionState) (wire : Bytes) : Outcome Error Bytes := do
  let (dataLength, used) ← (consume_var_int_checked wire).mapError fun _ => .InvalidCompressedPacket
  if dataLength < 0 then .Fail .InvalidCompressedPacket
  else
    let data ← sliceFrom wire used
    if dataLength = 0 then
      if data.length = 0 ∨ data.length ≥ c.threshold then .Fail .InvalidCompressedPacket else .Ok data
    else if dataLength > c.max_packet_size then .Fail (.PacketTooLarge dataLength c.max_packet_size)
    else if dataLength < c.threshold ∨ data.length = 0 then .Fail .InvalidCompressedPacket
    else
      match zlib.inflate data with
      | none => .Fail .InvalidCompressedPacket
      | some payload =>
        if (payload.length : Int) = dataLength then .Ok payload else .Fail .InvalidCompressedPacket

/-- `WriteFrame`: what it passes to `writeAll`, call by call. -/
def write_frame (zlib : Zlib) (c : CompressionState) (payload : Bytes) : Except Error (List Bytes) :=
  if payload.length = 0 then .error .EmptyPacket
  else if payload.length > c.max_packet_size then
    .error (.PacketTooLarge payload.length c.max_packet_size)
  else if payload.length < c.threshold then
    c.wire_framer.write_frame (append_var_int [] 0 ++ payload)
  else c.wire_framer.write_frame (append_var_int [] payload.length ++ zlib.deflate payload)

/-- The limits that `NewCompressionState` sets. -/
structure Sized (c : CompressionState) : Prop where
  wire : c.wire_framer.max_packet_size =
    c.max_packet_size + c.max_packet_size / 1000 + 64 + MaxVarIntBytes
  small : c.max_packet_size + c.max_packet_size / 1000 + 69 < 2 ^ 31

end CompressionState

/-- The packet limit that `New` gives its framer and its compression states. -/
def packet_limit (maxPacketSize : Int) : Nat :=
  if maxPacketSize ≤ 0 then DefaultMaxPacketSize else maxPacketSize.toNat

theorem new_framer_limit (maxPacketSize : Int) :
    (new_framer maxPacketSize).max_packet_size = packet_limit maxPacketSize := by
  unfold new_framer packet_limit
  by_cases h : maxPacketSize ≤ 0
  · rw [dif_pos h, if_pos h]
  · rw [dif_neg h, if_neg h]

/-- The limit on the wire while the sum stays within an `int`. -/
theorem wire_limit_of_lt {limit : Nat} (h : limit + limit / 1000 + 69 < 2 ^ 63) :
    wire_limit limit = ((limit + limit / 1000 + 69 : Nat) : Int) := by
  simp only [wire_limit, wrap64, MaxVarIntBytes]
  omega

/-- Beyond that it is negative, for which `NewFramer` takes its default. -/
theorem wire_limit_wrapped {limit : Nat} (hint : limit < 2 ^ 63) (h : 2 ^ 63 ≤ limit + limit / 1000 + 69) :
    wire_limit limit < 0 := by
  simp only [wire_limit, wrap64, MaxVarIntBytes]
  omega

/-- The states that `NewCompressionState` makes. -/
theorem new_compression_state_ok {threshold maxPacketSize : Int} {c : CompressionState} :
    new_compression_state threshold maxPacketSize = .ok c ↔
      0 ≤ threshold ∧ c.threshold = threshold.toNat ∧ c.max_packet_size = packet_limit maxPacketSize ∧
        c.wire_framer = new_framer (wire_limit (packet_limit maxPacketSize)) := by
  have hlimit : (if maxPacketSize ≤ 0 then DefaultMaxPacketSize else maxPacketSize.toNat) =
      packet_limit maxPacketSize := rfl
  rw [new_compression_state, hlimit]
  by_cases hthreshold : threshold < 0
  · rw [if_pos hthreshold]
    constructor
    · rintro ⟨⟩
    · rintro ⟨hnonnegative, _⟩
      omega
  · rw [if_neg hthreshold]
    constructor
    · intro h
      cases h
      refine ⟨by omega, rfl, rfl, ?_⟩
      dsimp only
    · rintro ⟨_, hstate, hlimit, hframer⟩
      obtain ⟨threshold', limit, framer⟩ := c
      simp only at hstate hlimit hframer
      rw [hstate, hlimit, hframer]

/-- The wire limit of a packet limit that leaves room for it. -/
theorem new_compression_state_wire {threshold maxPacketSize : Int} {c : CompressionState}
    (h : new_compression_state threshold maxPacketSize = .ok c)
    (hroom : packet_limit maxPacketSize + packet_limit maxPacketSize / 1000 + 69 < 2 ^ 63) :
    c.wire_framer.max_packet_size = c.max_packet_size + c.max_packet_size / 1000 + 64 + MaxVarIntBytes := by
  obtain ⟨_, _, hlimit, hframer⟩ := new_compression_state_ok.mp h
  rw [hframer, new_framer_limit, wire_limit_of_lt hroom, hlimit, packet_limit, if_neg (by omega), Int.toNat_natCast]
  rfl

/-- Below 2 GiB the framer has room for every packet within the limit. -/
theorem new_compression_state_sized {threshold maxPacketSize : Int} {c : CompressionState}
    (h : new_compression_state threshold maxPacketSize = .ok c)
    (hsmall : packet_limit maxPacketSize + packet_limit maxPacketSize / 1000 + 69 < 2 ^ 31) :
    c.Sized ∧ c.max_packet_size = packet_limit maxPacketSize := by
  obtain ⟨_, _, hlimit, _⟩ := new_compression_state_ok.mp h
  refine ⟨⟨new_compression_state_wire h (by omega), ?_⟩, hlimit⟩
  rw [hlimit]
  exact hsmall

namespace CompressionState

variable {zlib : Zlib} {c : CompressionState}

/-- Whatever a wire frame says about itself, reading it stays within it. -/
theorem read_wire_safe (zlib : Zlib) (c : CompressionState) (wire : Bytes) :
    (c.read_wire zlib wire).Safe fun _ => True := by
  unfold read_wire
  apply (safe_consume_var_int _ wire).bind
  rintro ⟨dataLength, used⟩ hused
  apply Outcome.Safe.guarded
  intro _
  apply (safe_sliceFrom hused).bind
  intro data _
  split
  · apply Outcome.Safe.guarded
    intro _
    trivial
  · apply Outcome.Safe.guarded
    intro _
    apply Outcome.Safe.guarded
    intro _
    cases zlib.inflate data with
    | none => trivial
    | some payload =>
      dsimp only
      split <;> trivial

/-- Reading a wire frame with a header in front. -/
theorem read_wire_append {length : Int} (hlow : 0 ≤ length) (hhigh : length < 2 ^ 31) (data : Bytes) :
    c.read_wire zlib (append_var_int [] length ++ data) =
      if length = 0 then
        if data.length = 0 ∨ data.length ≥ c.threshold then .Fail .InvalidCompressedPacket else .Ok data
      else if length > c.max_packet_size then .Fail (.PacketTooLarge length c.max_packet_size)
      else if length < c.threshold ∨ data.length = 0 then .Fail .InvalidCompressedPacket
      else
        match zlib.inflate data with
        | none => .Fail .InvalidCompressedPacket
        | some payload =>
          if (payload.length : Int) = length then .Ok payload else .Fail .InvalidCompressedPacket := by
  rw [read_wire, consume_var_int_checked_eq, consume_append_var_int (by omega) hhigh]
  simp only [Outcome.ofExcept_ok, Outcome.mapError_ok, Outcome.ok_bind]
  rw [if_neg (by omega), sliceFrom_ok (by simp), Outcome.ok_bind, List.drop_left]

/-- What a wire frame is read as: a part of it that is below the threshold, or
as many bytes as its header says, within the packet limit. -/
theorem read_wire_length {wire payload : Bytes} (h : c.read_wire zlib wire = .Ok payload) :
    0 < payload.length ∧ (payload.length < c.threshold ∧ payload.length < wire.length ∨
      payload.length ≤ c.max_packet_size) := by
  rw [read_wire, consume_var_int_checked_eq] at h
  cases hconsume : consume_var_int wire with
  | error e =>
    rw [hconsume] at h
    cases h
  | ok header =>
    obtain ⟨dataLength, used⟩ := header
    obtain ⟨_, _, hpositive, _, hused⟩ := consume_var_int_bounds hconsume
    rw [hconsume] at h
    simp only [Outcome.ofExcept_ok, Outcome.mapError_ok, Outcome.ok_bind, sliceFrom_ok hused] at h
    split at h
    · cases h
    · split at h
      · split at h
        · cases h
        · obtain rfl := Outcome.Ok.inj h
          rw [List.length_drop] at *
          omega
      · split at h
        · cases h
        · split at h
          · cases h
          · split at h
            · cases h
            · split at h
              · obtain rfl := Outcome.Ok.inj h
                omega
              · cases h

/-- The wire frame that `WriteFrame` makes of a payload. -/
def wire (zlib : Zlib) (c : CompressionState) (payload : Bytes) : Bytes :=
  if payload.length < c.threshold then append_var_int [] 0 ++ payload
  else append_var_int [] payload.length ++ zlib.deflate payload

theorem write_frame_eq_ok {payload : Bytes} {writes : List Bytes} :
    c.write_frame zlib payload = .ok writes ↔ 0 < payload.length ∧ payload.length ≤ c.max_packet_size ∧
      c.wire_framer.write_frame (c.wire zlib payload) = .ok writes := by
  unfold write_frame wire
  by_cases hempty : payload.length = 0
  · rw [if_pos hempty]
    constructor
    · rintro ⟨⟩
    · rintro ⟨hpositive, _⟩
      omega
  · rw [if_neg hempty]
    by_cases hlarge : payload.length > c.max_packet_size
    · rw [if_pos hlarge]
      constructor
      · rintro ⟨⟩
      · rintro ⟨_, hfits, _⟩
        omega
    · rw [if_neg hlarge, ← apply_ite]
      exact ⟨fun h => ⟨by omega, by omega, h⟩, fun h => h.2.2⟩

/-- A wire frame is longer than its payload by what deflating adds and a
header. -/
theorem wire_length (zlib : Zlib) (c : CompressionState) (payload : Bytes) :
    0 < (c.wire zlib payload).length ∧
      (c.wire zlib payload).length ≤ payload.length + payload.length / 1000 + 69 := by
  unfold wire
  split
  · obtain ⟨hlow, hhigh⟩ := append_var_int_length 0
    rw [List.length_append]
    omega
  · obtain ⟨hlow, hhigh⟩ := append_var_int_length payload.length
    have hdeflate := zlib.deflate_length payload
    rw [List.length_append]
    omega

/-- What is written below the threshold and what is deflated is read back. -/
theorem write_frame_eq {payload : Bytes} {writes : List Bytes} (hsized : c.Sized)
    (h : c.write_frame zlib payload = .ok writes) :
    ∃ wire, c.wire_framer.write_frame wire = .ok writes ∧ c.read_wire zlib wire = .Ok payload := by
  have hsmall := hsized.small
  obtain ⟨hpositive, hfits, hwrites⟩ := write_frame_eq_ok.mp h
  refine ⟨c.wire zlib payload, hwrites, ?_⟩
  unfold wire
  split
  · rw [read_wire_append (by omega) (by omega), if_pos rfl, if_neg (by omega)]
  · have hdeflated : (zlib.deflate payload).length ≠ 0 := by
      rw [Ne, List.length_eq_zero_iff]
      exact zlib.deflate_ne_nil payload
    rw [read_wire_append (by omega) (by omega), if_neg (by omega), if_neg (by omega),
      if_neg (by omega), zlib.inflate_deflate]
    simp

/-- Every payload within the limit can be written. -/
theorem write_frame_ok {payload : Bytes}
    (hroom : c.wire_framer.max_packet_size = c.max_packet_size + c.max_packet_size / 1000 + 64 + MaxVarIntBytes)
    (hpositive : 0 < payload.length) (hfits : payload.length ≤ c.max_packet_size) :
    ∃ writes, c.write_frame zlib payload = .ok writes := by
  obtain ⟨hwire, hlength⟩ := wire_length zlib c payload
  have hthousandth : payload.length / 1000 ≤ c.max_packet_size / 1000 := Nat.div_le_div_right hfits
  simp only [MaxVarIntBytes] at hroom
  refine ⟨_, write_frame_eq_ok.mpr ⟨hpositive, hfits, Framer.write_frame_eq_ok.mpr ⟨hwire, ?_, rfl⟩⟩⟩
  omega

end CompressionState

end regiongate.codec
