import RegionGate.Transport.Endpoint

open checked framing

namespace regiongate.codec

/-- What `WriteFrame` says about lengths is true, with and without compression,
and the wire has room for every payload within the packet limit. -/
structure LengthsExact (zlib : Zlib) (maxPacketSize : Int) : Prop where
  framer : ∀ payload writes, (new_framer maxPacketSize).write_frame payload = .ok writes →
    ∃ header, writes = [header, payload] ∧
      consume_var_int header = .ok ((payload.length : Int), header.length)
  compression : ∀ threshold c payload writes, new_compression_state threshold maxPacketSize = .ok c →
    c.write_frame zlib payload = .ok writes →
    ∃ header wire used, writes = [header, wire] ∧
      consume_var_int header = .ok ((wire.length : Int), header.length) ∧
      (if payload.length < c.threshold then
        consume_var_int wire = .ok (0, used) ∧ wire.drop used = payload
      else
        consume_var_int wire = .ok ((payload.length : Int), used) ∧ wire.drop used = zlib.deflate payload)
  room : ∀ threshold c, new_compression_state threshold maxPacketSize = .ok c →
    maxPacketSize + 1 ≤ c.wire_framer.max_packet_size
  accepted : ∀ threshold c payload, new_compression_state threshold maxPacketSize = .ok c →
    0 < payload.length → (payload.length : Int) ≤ maxPacketSize →
    ∃ writes, c.write_frame zlib payload = .ok writes

/-- A deflate that grows as much as it may: padding, a mark, and the data. -/
def paddedZlib : Zlib where
  deflate data := List.replicate (data.length / 1000 + 63) 0 ++ 1 :: data
  inflate data := some ((data.dropWhile (· == 0)).drop 1)
  inflate_deflate data := by
    rw [List.dropWhile_append_of_pos (by simp)]
    simp
  deflate_ne_nil data := by simp
  deflate_length data := by
    rw [List.length_append, List.length_replicate, List.length_cons]
    omega

section Lengths

variable {maxPacketSize : Int}

theorem packet_limit_of_pos (h : 0 < maxPacketSize) : (packet_limit maxPacketSize : Int) = maxPacketSize := by
  rw [packet_limit, if_neg (by omega)]
  omega

/-- Below the bound every length fits in a VarInt. -/
theorem lengths_exact_of_small (hpositive : 0 < maxPacketSize)
    (hsmall : maxPacketSize + maxPacketSize / 1000 + 69 < 2 ^ 31) (zlib : Zlib) :
    LengthsExact zlib maxPacketSize := by
  have hlimit := packet_limit_of_pos hpositive
  have hsized : ∀ {threshold c}, new_compression_state threshold maxPacketSize = .ok c →
      c.Sized ∧ c.max_packet_size = packet_limit maxPacketSize := fun h =>
    new_compression_state_sized h (by omega)
  constructor
  · intro payload writes h
    obtain ⟨_, hfits, rfl⟩ := Framer.write_frame_eq_ok.mp h
    rw [new_framer_limit] at hfits
    exact ⟨_, rfl, consume_append_var_int_alone (by omega) (by omega)⟩
  · intro threshold c payload writes hstate h
    obtain ⟨⟨hwire, _⟩, hmax⟩ := hsized hstate
    obtain ⟨hpayload, hfits, hwrites⟩ := CompressionState.write_frame_eq_ok.mp h
    obtain ⟨_, hwireFits, rfl⟩ := Framer.write_frame_eq_ok.mp hwrites
    simp only [MaxVarIntBytes] at hwire
    refine ⟨_, _, (append_var_int [] (if payload.length < c.threshold then 0 else (payload.length : Int))).length,
      rfl, consume_append_var_int_alone (by omega) (by omega), ?_⟩
    unfold CompressionState.wire
    split
    · exact ⟨consume_append_var_int (by omega) (by omega) payload, List.drop_left⟩
    · exact ⟨consume_append_var_int (by omega) (by omega) _, List.drop_left⟩
  · intro threshold c hstate
    obtain ⟨⟨hwire, _⟩, hmax⟩ := hsized hstate
    simp only [MaxVarIntBytes] at hwire
    omega
  · intro threshold c payload hstate hpayload hfits
    obtain ⟨⟨hwire, _⟩, hmax⟩ := hsized hstate
    exact CompressionState.write_frame_ok hwire hpayload (by omega)

/-- No VarInt says a length of 2 GiB or more. -/
theorem header_ne_large {header : Bytes} {length used : Nat} (hlarge : 2 ^ 31 ≤ length)
    (h : consume_var_int header = .ok ((length : Int), used)) : False := by
  obtain ⟨_, hhigh, _⟩ := consume_var_int_bounds h
  omega

/-- Above the bound there is a packet within the limit whose length does not. -/
theorem small_of_lengths_exact (hpositive : 0 < maxPacketSize)
    (h : LengthsExact paddedZlib maxPacketSize) : maxPacketSize + maxPacketSize / 1000 + 69 < 2 ^ 31 := by
  have hlimit := packet_limit_of_pos hpositive
  by_contra hlarge
  by_cases hframer : 2 ^ 31 ≤ maxPacketSize
  · -- A payload of 2 GiB is within the limit, and its header cannot say so.
    have hlength : (List.replicate (2 ^ 31) (0 : UInt8)).length = 2 ^ 31 := List.length_replicate
    generalize List.replicate (2 ^ 31) (0 : UInt8) = payload at hlength
    obtain ⟨header, _, hheader⟩ := h.framer payload _ (Framer.write_frame_eq_ok.mpr
      ⟨by omega, by rw [new_framer_limit]; omega, rfl⟩)
    exact header_ne_large hlength.ge hheader
  · -- The largest payload grows past 2 GiB when it is deflated.
    obtain ⟨c, hstate⟩ : ∃ c, new_compression_state 0 maxPacketSize = .ok c := ⟨_, rfl⟩
    obtain ⟨_, hthreshold, _, _⟩ := new_compression_state_ok.mp hstate
    have hlength : (List.replicate maxPacketSize.toNat (0 : UInt8)).length = maxPacketSize.toNat :=
      List.length_replicate
    generalize List.replicate maxPacketSize.toNat (0 : UInt8) = payload at hlength
    obtain ⟨writes, hwrites⟩ := h.accepted 0 c payload hstate (by omega) (by omega)
    obtain ⟨header, wire, used, rfl, hheader, _⟩ := h.compression 0 c payload writes hstate hwrites
    obtain ⟨_, _, hframe⟩ := CompressionState.write_frame_eq_ok.mp hwrites
    obtain ⟨_, _, hpieces⟩ := Framer.write_frame_eq_ok.mp hframe
    have hwire : wire = append_var_int [] payload.length ++ paddedZlib.deflate payload := by
      have hsecond : wire = c.wire paddedZlib payload := by simpa using (List.cons.inj hpieces).2
      rw [hsecond, CompressionState.wire, if_neg (by omega)]
    have hbytes : 4 < (append_var_int [] (payload.length : Int)).length :=
      lt_append_var_int_length (by omega) (by omega)
    have hdeflated : (paddedZlib.deflate payload).length = payload.length + payload.length / 1000 + 64 := by
      simp only [paddedZlib, List.length_append, List.length_replicate, List.length_cons]
      omega
    refine header_ne_large ?_ hheader
    rw [hwire, List.length_append, hdeflated]
    omega

end Lengths

/-- All lengths are written as they are and nothing within the packet limit is
refused, whatever deflating does, exactly when the largest wire frame has a
length that a VarInt can say. -/
theorem lengths_exact_iff {maxPacketSize : Int} (hpositive : 0 < maxPacketSize) :
    (∀ zlib, LengthsExact zlib maxPacketSize) ↔ maxPacketSize + maxPacketSize / 1000 + 69 < 2 ^ 31 :=
  ⟨fun h => small_of_lengths_exact hpositive (h paddedZlib), lengths_exact_of_small hpositive⟩

theorem lengths_exact_default : LengthsExact paddedZlib DefaultMaxPacketSize :=
  (lengths_exact_iff (by decide)).mpr (by decide) paddedZlib

/-- Two limits that are accepted. Under the largest one the wire limit overflows
and falls back to the default, so that a payload of 2 MiB is refused. Under
the other a payload of 2 GiB is written with a negative length. -/
theorem large_limits_break_frames :
    (∃ c, new_compression_state (2 ^ 31 - 1) (2 ^ 63 - 1) = .ok c ∧ c.wire_framer.max_packet_size = 2097152 ∧
      ∀ zlib, c.write_frame zlib (List.replicate 2097152 0) = .error (.PacketTooLarge 2097153 2097152)) ∧
    ∃ header, (new_framer (2 ^ 31)).write_frame (List.replicate (2 ^ 31) 0) =
        .ok [header, List.replicate (2 ^ 31) 0] ∧
      consume_var_int header = .ok (-2 ^ 31, 5) := by
  constructor
  · obtain ⟨c, hstate⟩ : ∃ c, new_compression_state (2 ^ 31 - 1) (2 ^ 63 - 1) = .ok c := ⟨_, rfl⟩
    obtain ⟨_, hthreshold, hlimit, hframer⟩ := new_compression_state_ok.mp hstate
    have hwire : c.wire_framer.max_packet_size = 2097152 := by
      rw [hframer]
      decide
    have hpacket : packet_limit (2 ^ 63 - 1) = 2 ^ 63 - 1 := by decide
    have hlength : (List.replicate 2097152 (0 : UInt8)).length = 2097152 := List.length_replicate
    refine ⟨c, hstate, hwire, fun zlib => ?_⟩
    generalize List.replicate 2097152 (0 : UInt8) = payload at hlength
    have hheader : (append_var_int [] 0).length = 1 := by decide
    rw [CompressionState.write_frame, if_neg (by omega), if_neg (by omega), if_pos (by omega),
      Framer.write_frame, List.length_append, hheader, hlength, if_neg (by omega), if_pos (by omega), hwire]
    rfl
  · have hlength : (List.replicate (2 ^ 31) (0 : UInt8)).length = 2 ^ 31 := List.length_replicate
    generalize List.replicate (2 ^ 31) (0 : UInt8) = payload at hlength
    refine ⟨append_var_int [] (2 ^ 31), ?_, by decide⟩
    rw [Framer.write_frame, new_framer_limit, if_neg (by omega), hlength]
    have hpacket : packet_limit (2 ^ 31) = 2 ^ 31 := by decide
    rw [hpacket, if_neg (by omega)]
    rfl

end regiongate.codec

namespace regiongate.transport

open regiongate.codec

/-- The format of a transport with one packet limit: plain, or with a
compression state that was made for the limit. -/
structure Format.Made (maxPacketSize : Int) (format : Format) : Prop where
  framer : format.framer = new_framer maxPacketSize
  compression : ∀ c, format.compression = some c →
    ∃ threshold, new_compression_state threshold maxPacketSize = .ok c

/-- `CompressionState.ReadFrame` on a stream returns this payload. -/
def Reads (zlib : Zlib) (c : CompressionState) (stream payload : Bytes) : Prop :=
  ∃ rest, feed (Format.read_byte zlib { framer := c.wire_framer, compression := some c })
    Framer.read_start stream = .inr (.Ok payload, rest)

section Reads

variable {zlib : Zlib} {c : CompressionState} {stream payload : Bytes} {maxPacketSize : Int}

/-- The payloads that are read are not empty and lie within one of two bounds. -/
theorem Reads.length (h : Reads zlib c stream payload) :
    0 < payload.length ∧ (payload.length < c.threshold ∧ payload.length + 1 < 2 ^ 31 ∨
      payload.length ≤ c.max_packet_size) := by
  obtain ⟨rest, hfeed⟩ := h
  rw [Format.feed_read_byte] at hfeed
  split at hfeed
  · cases hfeed
  · rename_i wire left hwire
    simp only [Sum.inr.injEq, Prod.mk.injEq] at hfeed
    cases wire with
    | error e => cases hfeed.1
    | ok wire =>
      have hstart : c.wire_framer.Pending Framer.read_start := trivial
      obtain ⟨_, _, hsmall⟩ := Framer.feed_length hstart hwire
      obtain ⟨hpositive, hlength⟩ := CompressionState.read_wire_length hfeed.1
      omega

/-- A wire frame that fits is read from the stream. -/
theorem reads_wire {wire : Bytes} (hread : c.read_wire zlib wire = .Ok payload) (hpositive : 0 < wire.length)
    (hfits : wire.length ≤ c.wire_framer.max_packet_size) (hsmall : wire.length < 2 ^ 31) :
    ∃ stream, Reads zlib c stream payload := by
  have hwrites := Framer.write_frame_eq_ok.mpr ⟨hpositive, hfits, rfl⟩
  have hcomplete : Complete (Format.read_byte zlib { framer := c.wire_framer, compression := some c }) _ _ _ :=
    Format.complete_finish zlib (Framer.complete_write_frame hsmall hwrites)
  simp only [Format.finish, hread] at hcomplete
  exact ⟨_, [], hcomplete⟩

/-- Below the threshold, only the wire limits the length of a payload. -/
theorem reads_uncompressed (zlib : Zlib) (hpositive : 0 < payload.length) (hbelow : payload.length < c.threshold)
    (hfits : payload.length + 1 ≤ c.wire_framer.max_packet_size) (hsmall : payload.length + 1 < 2 ^ 31) :
    ∃ stream, Reads zlib c stream payload := by
  have hheader : (append_var_int [] 0).length = 1 := by decide
  have hread : c.read_wire zlib (append_var_int [] 0 ++ payload) = .Ok payload := by
    rw [CompressionState.read_wire_append (by omega) (by omega), if_pos rfl, if_neg (by omega)]
  refine reads_wire hread ?_ ?_ ?_ <;> rw [List.length_append] <;> omega

/-- From the threshold on, padding makes the wire frame no longer than it has
to be. -/
theorem reads_padded (hpositive : 0 < payload.length) (habove : c.threshold ≤ payload.length)
    (hlimit : payload.length ≤ c.max_packet_size) (hfits : payload.length + 6 ≤ c.wire_framer.max_packet_size)
    (hsmall : payload.length + 6 < 2 ^ 31) : ∃ stream, Reads paddedZlib c stream payload := by
  obtain ⟨hlow, hhigh⟩ := append_var_int_length (payload.length : Int)
  have hinflate : paddedZlib.inflate (1 :: payload) = some payload := rfl
  have hread : c.read_wire paddedZlib (append_var_int [] payload.length ++ 1 :: payload) = .Ok payload := by
    rw [CompressionState.read_wire_append (by omega) (by omega), if_neg (by omega), if_neg (by omega),
      if_neg (by simp; omega), hinflate]
    simp
  refine reads_wire hread ?_ ?_ ?_ <;> rw [List.length_append, List.length_cons] <;> omega

/-- Deflated with padding, this payload does not fit the default limit. -/
theorem padded_refused {writes : List Bytes} (hthreshold : c.threshold = 0) (hlength : payload.length = 2097000)
    (hwire : c.wire_framer.max_packet_size = DefaultMaxPacketSize) :
    c.write_frame paddedZlib payload ≠ .ok writes := by
  intro h
  obtain ⟨_, _, hframe⟩ := CompressionState.write_frame_eq_ok.mp h
  obtain ⟨_, hfits, _⟩ := Framer.write_frame_eq_ok.mp hframe
  rw [CompressionState.wire, if_neg (by omega), List.length_append, hwire] at hfits
  simp only [paddedZlib, DefaultMaxPacketSize, List.length_append, List.length_replicate, List.length_cons] at hfits
  omega

/-- A transport with enough room on the wire takes every payload within the
limit. -/
theorem Format.Made.writes {format : Format} (h : format.Made maxPacketSize)
    (hpositive : 0 < maxPacketSize) (hroom : maxPacketSize + maxPacketSize / 1000 + 69 < 2 ^ 63)
    (hpayload : 0 < payload.length) (hfits : (payload.length : Int) ≤ maxPacketSize) :
    ∃ writes, format.frame_writes zlib payload = .ok writes := by
  have hlimit := packet_limit_of_pos hpositive
  unfold Format.frame_writes
  cases hcompression : format.compression with
  | none =>
    refine ⟨_, Framer.write_frame_eq_ok.mpr ⟨hpayload, ?_, rfl⟩⟩
    rw [h.framer, new_framer_limit]
    omega
  | some c =>
    obtain ⟨threshold, hstate⟩ := h.compression c hcompression
    obtain ⟨_, _, hmax, _⟩ := new_compression_state_ok.mp hstate
    exact CompressionState.write_frame_ok (new_compression_state_wire hstate (by omega)) hpayload (by omega)

end Reads

/-- Every payload read with a compression state is within the packet limit, and
every transport with the same limit takes it. -/
def Forwardable (threshold maxPacketSize : Int) : Prop :=
  ∀ zlib c stream payload, new_compression_state threshold maxPacketSize = .ok c →
    Reads zlib c stream payload →
    1 ≤ payload.length ∧ (payload.length : Int) ≤ maxPacketSize ∧
      ∀ format : Format, format.Made maxPacketSize → ∃ writes, format.frame_writes zlib payload = .ok writes

section Forwardable

variable {threshold maxPacketSize : Int}

/-- Within the bounds every payload that is read can be written. -/
theorem forwardable_of_bounds (hpositive : 0 < maxPacketSize)
    (hthreshold : threshold ≤ maxPacketSize + 1 ∨ 2 ^ 31 - 2 ≤ maxPacketSize)
    (hroom : maxPacketSize + maxPacketSize / 1000 + 69 < 2 ^ 63) : Forwardable threshold maxPacketSize := by
  intro zlib c stream payload hstate hreads
  obtain ⟨hnonnegative, hc, hmax, _⟩ := new_compression_state_ok.mp hstate
  obtain ⟨hpayload, hlength⟩ := hreads.length
  have hlimit := packet_limit_of_pos hpositive
  have hfits : (payload.length : Int) ≤ maxPacketSize := by omega
  exact ⟨hpayload, hfits, fun format hmade => hmade.writes hpositive hroom hpayload hfits⟩

/-- A larger threshold lets a payload through that is too long to be written. -/
theorem threshold_of_forwardable (hnonnegative : 0 ≤ threshold) (hpositive : 0 < maxPacketSize)
    (h : Forwardable threshold maxPacketSize) : threshold ≤ maxPacketSize + 1 ∨ 2 ^ 31 - 2 ≤ maxPacketSize := by
  by_contra hbounds
  have hlimit := packet_limit_of_pos hpositive
  obtain ⟨c, hstate⟩ : ∃ c, new_compression_state threshold maxPacketSize = .ok c := by
    rw [new_compression_state, if_neg (by omega)]
    exact ⟨_, rfl⟩
  obtain ⟨_, hc, hmax, _⟩ := new_compression_state_ok.mp hstate
  have hwire := new_compression_state_wire hstate (by omega)
  simp only [MaxVarIntBytes] at hwire
  have hlength : (List.replicate (maxPacketSize.toNat + 1) (0 : UInt8)).length = maxPacketSize.toNat + 1 :=
    List.length_replicate
  generalize List.replicate (maxPacketSize.toNat + 1) (0 : UInt8) = payload at hlength
  obtain ⟨stream, hreads⟩ : ∃ stream, Reads paddedZlib c stream payload :=
    reads_uncompressed paddedZlib (by omega) (by omega) (by omega) (by omega)
  obtain ⟨_, hfits, _⟩ := h paddedZlib c stream payload hstate hreads
  omega

/-- A larger limit wraps around and leaves a smaller one on the wire. -/
theorem room_of_forwardable (hnonnegative : 0 ≤ threshold) (hpositive : 0 < maxPacketSize)
    (hint : maxPacketSize < 2 ^ 63) (h : Forwardable threshold maxPacketSize) :
    maxPacketSize + maxPacketSize / 1000 + 69 < 2 ^ 63 := by
  by_contra hwrapped
  have hlimit := packet_limit_of_pos hpositive
  have hwire : ∀ {threshold c}, new_compression_state threshold maxPacketSize = .ok c →
      c.wire_framer.max_packet_size = DefaultMaxPacketSize := by
    intro threshold c hstate
    obtain ⟨_, _, _, hframer⟩ := new_compression_state_ok.mp hstate
    have hnegative := wire_limit_wrapped (show packet_limit maxPacketSize < 2 ^ 63 by omega) (by omega)
    rw [hframer, new_framer_limit, packet_limit, if_pos (by omega)]
  obtain ⟨c, hstate⟩ : ∃ c, new_compression_state threshold maxPacketSize = .ok c := by
    rw [new_compression_state, if_neg (by omega)]
    exact ⟨_, rfl⟩
  obtain ⟨_, hc, hmax, _⟩ := new_compression_state_ok.mp hstate
  obtain ⟨c', hstate'⟩ : ∃ c, new_compression_state 0 maxPacketSize = .ok c := ⟨_, rfl⟩
  obtain ⟨_, hc', _, _⟩ := new_compression_state_ok.mp hstate'
  have hroom := hwire hstate
  simp only [DefaultMaxPacketSize] at hroom
  have hlength : (List.replicate 2097000 (0 : UInt8)).length = 2097000 := List.length_replicate
  generalize List.replicate 2097000 (0 : UInt8) = payload at hlength
  obtain ⟨stream, hreads⟩ : ∃ stream, Reads paddedZlib c stream payload := by
    by_cases hbelow : payload.length < c.threshold
    · exact reads_uncompressed paddedZlib (by omega) hbelow (by omega) (by omega)
    · exact reads_padded (by omega) (by omega) (by omega) (by omega) (by omega)
  obtain ⟨_, _, hwrites⟩ := h paddedZlib c stream payload hstate hreads
  -- A transport that compresses everything has no room for it on the wire.
  obtain ⟨writes, hframe⟩ := hwrites { framer := new_framer maxPacketSize, compression := some c' }
    ⟨rfl, by rintro _ ⟨⟩; exact ⟨0, hstate'⟩⟩
  exact padded_refused hc' hlength (hwire hstate') hframe

end Forwardable

/-- Every payload read with a compression state can be forwarded exactly when
the threshold does not let longer ones through uncompressed (or no frame can
be longer than the limit) and the wire limit does not overflow. -/
theorem forwardable_iff {threshold maxPacketSize : Int} (hnonnegative : 0 ≤ threshold)
    (hpositive : 0 < maxPacketSize) (hint : maxPacketSize < 2 ^ 63) :
    Forwardable threshold maxPacketSize ↔
      (threshold ≤ maxPacketSize + 1 ∨ 2 ^ 31 - 2 ≤ maxPacketSize) ∧
        maxPacketSize + maxPacketSize / 1000 + 69 < 2 ^ 63 := by
  constructor
  · intro h
    exact ⟨threshold_of_forwardable hnonnegative hpositive h, room_of_forwardable hnonnegative hpositive hint h⟩
  · rintro ⟨hthreshold, hroom⟩
    exact forwardable_of_bounds hpositive hthreshold hroom

/-- The usual threshold with the default limit. -/
theorem forwardable_iff_default : Forwardable 256 DefaultMaxPacketSize :=
  (forwardable_iff (by decide) (by decide) (by decide)).mpr (by decide)

/-- With a threshold above the packet limit, an uncompressed payload of one byte
more than the limit is returned, and the plain transport of the client
refuses it. -/
theorem long_payload_not_forwarded :
    ∃ c, new_compression_state 100 16 = .ok c ∧
      (∀ zlib, Reads zlib c ([18, 0] ++ List.replicate 17 9) (List.replicate 17 9)) ∧
      ∀ zlib, Format.frame_writes zlib { framer := new_framer 16, compression := none } (List.replicate 17 9) =
        .error (.PacketTooLarge 17 16) := by
  refine ⟨_, rfl, fun zlib => ?_, fun _ => rfl⟩
  exact ⟨[], rfl⟩

end regiongate.transport
