import RegionGate.Codec.RoundTrip
import RegionGate.Framing

open framing

namespace regiongate.codec

/-- The limit of a framer that is made without one. -/
def DefaultMaxPacketSize : Nat := 2 * 2 ^ 20

/-- `Framer`. `NewFramer` leaves none with a limit that is not positive. -/
structure Framer where
  max_packet_size : Nat
  positive : 0 < max_packet_size
  deriving DecidableEq

/-- `NewFramer`. -/
def new_framer (maxPacketSize : Int) : Framer :=
  if h : maxPacketSize ≤ 0 then ⟨DefaultMaxPacketSize, by decide⟩
  else ⟨maxPacketSize.toNat, by omega⟩

/-- Where `ReadFrame` stands between two bytes: in the loop of `ReadVarInt`, or
filling the payload. -/
inductive ReadState where
  | Header (position : Nat) (value : UInt32)
  | Body (length : Nat) (got : Bytes)
  deriving DecidableEq

namespace Framer

/-- The checks of `ReadFrame` on the length it has read. -/
def accept_length (f : Framer) (length : Int) : ReadState ⊕ Except Error Bytes :=
  if length < 0 then .inr (.error .NegativeLength)
  else if length = 0 then .inr (.error .EmptyPacket)
  else if length > f.max_packet_size then .inr (.error (.PacketTooLarge length f.max_packet_size))
  else .inl (.Body length.toNat [])

/-- `ReadFrame` on its next byte: it goes on, or returns. -/
def read_byte (f : Framer) : ReadState → UInt8 → ReadState ⊕ Except Error Bytes
  | .Header position value, current =>
    if position = MaxVarIntBytes - 1 ∧ current &&& 0x80 = 0 ∧ current &&& 0x70 ≠ 0 then
      .inr (.error .VarIntOverflow)
    else
      let value := value ||| ((current &&& 0x7f).toUInt32 <<< (7 * position).toUInt32)
      if current &&& 0x80 = 0 then f.accept_length value.toInt32.toInt
      else if position + 1 < MaxVarIntBytes then .inl (.Header (position + 1) value)
      else .inr (.error .VarIntTooLong)
  | .Body length got, current =>
    if got.length + 1 < length then .inl (.Body length (got ++ [current]))
    else .inr (.ok (got ++ [current]))

/-- `ReadFrame` begins with an empty VarInt. -/
def read_start : ReadState := .Header 0 0

/-- `WriteFrame`: what it passes to `writeAll`, call by call. -/
def write_frame (f : Framer) (payload : Bytes) : Except Error (List Bytes) :=
  if payload.length = 0 then .error .EmptyPacket
  else if payload.length > f.max_packet_size then
    .error (.PacketTooLarge payload.length f.max_packet_size)
  else .ok [append_var_int [] payload.length, payload]

variable {f : Framer}

/-- The header loop is `ReadVarInt`, followed by the checks on the length. -/
theorem feed_header (final : Error) {remaining position : Nat} (value : UInt32) (data : Bytes) {length : Int}
    {rest : Bytes} (hremaining : remaining + position = MaxVarIntBytes)
    (h : read_var_int_from final remaining position value data = (.ok length, rest)) :
    feed f.read_byte (.Header position value) data =
      (f.accept_length length).elim (feed f.read_byte · rest) fun result => .inr (result, rest) := by
  induction remaining generalizing position value data with
  | zero => simp [read_var_int_from] at h
  | succ remaining ih =>
    cases data with
    | nil => simp [read_var_int_from] at h
    | cons current data =>
      rw [read_var_int_from] at h
      rw [feed, read_byte]
      split at h
      · simp at h
      · rename_i hfits
        rw [if_neg hfits]
        dsimp only at h ⊢
        split at h
        · rename_i hlast
          simp only [Prod.mk.injEq, Except.ok.injEq] at h
          obtain ⟨rfl, rfl⟩ := h
          rw [if_pos hlast]
          cases f.accept_length _ <;> rfl
        · rename_i hmore
          rw [if_neg hmore]
          have hnext : remaining + (position + 1) = MaxVarIntBytes := by omega
          have hmoreBytes : position + 1 < MaxVarIntBytes := by
            cases remaining with
            | zero => simp [read_var_int_from] at h
            | succ remaining => omega
          rw [if_pos hmoreBytes]
          exact ih _ data hnext h

private theorem feed_body (length : Nat) (got rest : Bytes) (hlength : got.length + rest.length = length)
    (hrest : rest ≠ []) : feed f.read_byte (.Body length got) rest = .inr (.ok (got ++ rest), []) := by
  induction rest generalizing got with
  | nil => exact absurd rfl hrest
  | cons current rest ih =>
    rw [feed, read_byte]
    rw [List.length_cons] at hlength
    cases rest with
    | nil =>
      rw [List.length_nil] at hlength
      rw [if_neg (by omega)]
    | cons following rest =>
      rw [List.length_cons] at hlength
      rw [if_pos (by omega)]
      dsimp only
      rw [ih (got ++ [current]) (by simp; omega) (by simp), List.append_assoc, List.singleton_append]

/-- The payloads that `WriteFrame` accepts, with its two writes. -/
theorem write_frame_eq_ok {payload : Bytes} {writes : List Bytes} :
    f.write_frame payload = .ok writes ↔ 0 < payload.length ∧ payload.length ≤ f.max_packet_size ∧
      writes = [append_var_int [] payload.length, payload] := by
  unfold write_frame
  by_cases hempty : payload.length = 0
  · simp [hempty]
  · by_cases hlarge : payload.length > f.max_packet_size
    · rw [if_neg hempty, if_pos hlarge]
      constructor
      · rintro ⟨⟩
      · rintro ⟨_, hfits, _⟩
        omega
    · rw [if_neg hempty, if_neg hlarge, Except.ok.injEq]
      constructor
      · rintro rfl
        exact ⟨by omega, by omega, rfl⟩
      · rintro ⟨_, _, rfl⟩
        rfl

/-- A frame that `WriteFrame` writes is one message of `ReadFrame`, with the
payload as its result. -/
theorem complete_write_frame {payload : Bytes} {writes : List Bytes}
    (hlength : payload.length < 2 ^ 31) (h : f.write_frame payload = .ok writes) :
    Complete f.read_byte read_start writes.flatten (.ok payload) := by
  obtain ⟨hpositive, hfits, rfl⟩ := write_frame_eq_ok.mp h
  have haccept : f.accept_length payload.length = .inl (.Body payload.length []) := by
    unfold accept_length
    rw [if_neg (by omega), if_neg (by omega), if_neg (by omega), Int.toNat_natCast]
  have hheader : feed f.read_byte read_start (append_var_int [] (payload.length : Int)) =
      .inl (.Body payload.length []) := by
    have hconsume : consume_var_int (append_var_int [] (payload.length : Int)) = _ :=
      consume_append_var_int_alone (by omega) (by omega)
    have hread := read_var_int_of_consume hconsume
    rw [List.drop_length] at hread
    rw [read_start, feed_header .EOF 0 _ (Nat.add_zero MaxVarIntBytes) hread, haccept]
    rfl
  simp only [Complete, List.flatten_cons, List.flatten_nil, List.append_nil]
  rw [feed_append_of_waiting hheader]
  exact feed_body payload.length [] payload (by simp) (List.length_pos_iff.mp hpositive)

/-- The lengths that a payload can have once its header was accepted. -/
def Pending (f : Framer) : ReadState → Prop
  | .Header _ _ => True
  | .Body length got => got.length < length ∧ length ≤ f.max_packet_size ∧ length < 2 ^ 31

/-- A frame that is not whole stays within the limit. -/
theorem pending_read_byte {state next : ReadState} {current : UInt8} (h : f.Pending state)
    (hread : f.read_byte state current = .inl next) : f.Pending next := by
  cases state with
  | Header position value =>
    rw [read_byte] at hread
    split at hread
    · cases hread
    · dsimp only at hread
      split at hread
      · have hlow := Int32.toInt_lt (value ||| ((current &&& 0x7f).toUInt32 <<< (7 * position).toUInt32)).toInt32
        unfold accept_length at hread
        split at hread
        · cases hread
        · split at hread
          · cases hread
          · split at hread
            · cases hread
            · obtain rfl := Sum.inl.inj hread
              simp only [Pending, List.length_nil]
              omega
      · split at hread
        · obtain rfl := Sum.inl.inj hread
          trivial
        · cases hread
  | Body length got =>
    obtain ⟨hgot, hfits, hsmall⟩ := h
    rw [read_byte] at hread
    split at hread
    · rename_i hmore
      obtain rfl := Sum.inl.inj hread
      exact ⟨by simpa using hmore, hfits, hsmall⟩
    · cases hread

/-- A payload is returned with its last byte. -/
theorem read_byte_eq_ok {state : ReadState} {current : UInt8} {payload : Bytes}
    (hread : f.read_byte state current = .inr (.ok payload)) :
    ∃ length got, state = .Body length got ∧ length ≤ got.length + 1 ∧ payload = got ++ [current] := by
  cases state with
  | Header position value =>
    rw [read_byte] at hread
    split at hread
    · cases hread
    · dsimp only at hread
      split at hread
      · unfold accept_length at hread
        split at hread
        · cases hread
        · split at hread
          · cases hread
          · split at hread <;> cases hread
      · split at hread <;> cases hread
  | Body length got =>
    rw [read_byte] at hread
    split at hread
    · cases hread
    · rename_i hlast
      cases hread
      exact ⟨length, got, rfl, by omega, rfl⟩

/-- What `ReadFrame` returns is not empty, within the limit, and has a length
that a VarInt can say. -/
theorem feed_length {state : ReadState} {stream payload rest : Bytes} (h : f.Pending state)
    (hfeed : feed f.read_byte state stream = .inr (.ok payload, rest)) :
    0 < payload.length ∧ payload.length ≤ f.max_packet_size ∧ payload.length < 2 ^ 31 := by
  induction stream generalizing state with
  | nil => cases hfeed
  | cons current stream ih =>
    rw [feed] at hfeed
    cases hread : f.read_byte state current with
    | inl next =>
      rw [hread] at hfeed
      exact ih (pending_read_byte h hread) hfeed
    | inr result =>
      simp only [hread, Sum.inr.injEq, Prod.mk.injEq] at hfeed
      obtain ⟨rfl, _⟩ := hfeed
      obtain ⟨length, got, rfl, hlast, rfl⟩ := read_byte_eq_ok hread
      obtain ⟨hgot, hfits, hsmall⟩ := h
      rw [List.length_append, List.length_singleton]
      omega

end Framer

end regiongate.codec
