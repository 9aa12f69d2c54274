import RegionGate.Codec.RoundTrip
import RegionGate.Protocol.Play

open regiongate.codec

namespace regiongate.play

/-- One byte more of a number. -/
private theorem next_byte (value position : Nat) :
    value / 2 ^ (position + 8) * 256 + value / 2 ^ position % 256 = value / 2 ^ position := by
  rw [Nat.pow_add, ← Nat.div_div_eq_div_mul]
  omega

private theorem bigEndian_put_uint64 (value : UInt64) : bigEndian (put_uint64 value) = value.toNat := by
  have hlt := value.toNat_lt
  have htop : value.toNat / 2 ^ 56 % 256 = value.toNat / 2 ^ 56 := by omega
  have hlast := next_byte value.toNat 0
  rw [Nat.pow_zero, Nat.div_one] at hlast
  simp only [bigEndian, put_uint64, List.foldl_cons, List.foldl_nil]
  simp only [UInt64.toNat_toUInt8, UInt64.toNat_shiftRight, Nat.shiftRight_eq_div_pow, UInt64.reduceToNat,
    Nat.reduceMod, Nat.zero_mul, Nat.zero_add]
  rw [htop, next_byte _ 48, next_byte _ 40, next_byte _ 32, next_byte _ 24, next_byte _ 16, next_byte _ 8, hlast]

/-- Eight bytes in network order are read back. -/
theorem uint64_put_uint64 (value : UInt64) (rest : Bytes) :
    uint64 (put_uint64 value ++ rest) = value := by
  have htake : (put_uint64 value ++ rest).take 8 = put_uint64 value := rfl
  rw [uint64, htake, bigEndian_put_uint64, Nat.toUInt64_eq, UInt64.ofNat_toNat]

private theorem bigEndian_put_uint32 (value : UInt32) : bigEndian (put_uint32 value) = value.toNat := by
  have hlt := value.toNat_lt
  have htop : value.toNat / 2 ^ 24 % 256 = value.toNat / 2 ^ 24 := by omega
  have hlast := next_byte value.toNat 0
  rw [Nat.pow_zero, Nat.div_one] at hlast
  simp only [bigEndian, put_uint32, List.foldl_cons, List.foldl_nil]
  simp only [UInt32.toNat_toUInt8, UInt32.toNat_shiftRight, Nat.shiftRight_eq_div_pow, UInt32.reduceToNat,
    Nat.reduceMod, Nat.zero_mul, Nat.zero_add]
  rw [htop, next_byte _ 16, next_byte _ 8, hlast]

/-- Four bytes in network order are read back. -/
theorem uint32_put_uint32 (value : UInt32) (rest : Bytes) :
    uint32 (put_uint32 value ++ rest) = value := by
  have htake : (put_uint32 value ++ rest).take 4 = put_uint32 value := rfl
  rw [uint32, htake, bigEndian_put_uint32, Nat.toUInt32_eq, UInt32.ofNat_toNat]

section Movement

variable (x y z : UInt64) (yaw pitch : UInt32)

/-- The coordinates at the front of a movement's body, whatever follows them. -/
private theorem coordinates_read (rest : Bytes) :
    uint64 (put_uint64 x ++ (put_uint64 y ++ (put_uint64 z ++ rest))) = x ∧
      uint64 ((put_uint64 x ++ (put_uint64 y ++ (put_uint64 z ++ rest))).drop 8) = y ∧
      uint64 ((put_uint64 x ++ (put_uint64 y ++ (put_uint64 z ++ rest))).drop 16) = z :=
  ⟨uint64_put_uint64 x _, uint64_put_uint64 y _, uint64_put_uint64 z rest⟩

/-- The angles behind the coordinates. -/
private theorem angles_read (rest : Bytes) :
    uint32 ((put_uint64 x ++ (put_uint64 y ++ (put_uint64 z ++ (put_uint32 yaw ++ (put_uint32 pitch ++ rest))))).drop
        24) = yaw ∧
      uint32 ((put_uint64 x ++ (put_uint64 y ++ (put_uint64 z ++ (put_uint32 yaw ++ (put_uint32 pitch ++
        rest))))).drop 28) = pitch :=
  ⟨uint32_put_uint32 yaw _, uint32_put_uint32 pitch rest⟩

/-- A position-look packet with finite coordinates and angles decodes to the
values it was built from. -/
theorem decode_position_look (x y z : UInt64) (yaw pitch : UInt32) (on_ground : Bool)
    (hx : finite64 x) (hy : finite64 y) (hz : finite64 z) (hyaw : finite32 yaw)
    (hpitch : finite32 pitch) :
    decode_movement (serverbound_position_look_payload x y z yaw pitch on_ground) =
      .ok { x, y, z, yaw, pitch, on_ground, has_look := true } := by
  have hpayload : serverbound_position_look_payload x y z yaw pitch on_ground =
      append_var_int [] ServerboundPositionLookID ++ (put_uint64 x ++ (put_uint64 y ++
        (put_uint64 z ++ (put_uint32 yaw ++ (put_uint32 pitch ++ [if on_ground then 1 else 0]))))) := by
    simp [serverbound_position_look_payload, append_float64, append_float32, append_bool]
  obtain ⟨hreadX, hreadY, hreadZ⟩ := coordinates_read x y z
    (put_uint32 yaw ++ (put_uint32 pitch ++ [if on_ground then 1 else 0]))
  obtain ⟨hreadYaw, hreadPitch⟩ := angles_read x y z yaw pitch [if on_ground then 1 else 0]
  have hground : (put_uint64 x ++ (put_uint64 y ++ (put_uint64 z ++ (put_uint32 yaw ++
      (put_uint32 pitch ++ [if on_ground then (1 : UInt8) else 0]))))).getD 32 0 =
      if on_ground then 1 else 0 := rfl
  have hlength : (put_uint64 x ++ (put_uint64 y ++ (put_uint64 z ++ (put_uint32 yaw ++
      (put_uint32 pitch ++ [if on_ground then (1 : UInt8) else 0]))))).length = 33 := rfl
  rw [decode_movement, hpayload, packet_id_append (by decide) (by decide)]
  simp only [hreadX, hreadY, hreadZ, hreadYaw, hreadPitch, hground, hlength, decide_true, if_true, hx, hy, hz,
    hyaw, hpitch]
  cases on_ground <;> simp [ServerboundPositionLookID, ServerboundPositionID]

/-- A position packet with finite coordinates decodes to them, and to no angles. -/
theorem decode_position (x y z : UInt64) (on_ground : Bool) (hx : finite64 x) (hy : finite64 y)
    (hz : finite64 z) :
    decode_movement (serverbound_position_payload x y z on_ground) =
      .ok { x, y, z, yaw := 0, pitch := 0, on_ground, has_look := false } := by
  have hpayload : serverbound_position_payload x y z on_ground =
      append_var_int [] ServerboundPositionID ++ (put_uint64 x ++ (put_uint64 y ++ (put_uint64 z ++
        [if on_ground then 1 else 0]))) := by
    simp [serverbound_position_payload, append_float64, append_bool]
  obtain ⟨hreadX, hreadY, hreadZ⟩ := coordinates_read x y z [if on_ground then 1 else 0]
  have hground : (put_uint64 x ++ (put_uint64 y ++ (put_uint64 z ++
      [if on_ground then (1 : UInt8) else 0]))).getD 24 0 = if on_ground then 1 else 0 := rfl
  have hlength : (put_uint64 x ++ (put_uint64 y ++ (put_uint64 z ++
      [if on_ground then (1 : UInt8) else 0]))).length = 25 := rfl
  have hlook : decide (ServerboundPositionID = ServerboundPositionLookID) = false := rfl
  have hzero : finite32 0 = true := rfl
  rw [decode_movement, hpayload, packet_id_append (by decide) (by decide)]
  simp only [hlook, hreadX, hreadY, hreadZ, hground, hlength, Bool.false_eq_true, if_false, hx, hy, hz, hzero]
  cases on_ground <;> simp [ServerboundPositionLookID, ServerboundPositionID]

end Movement

theorem decode_movement_id {payload : Bytes} {m : Movement} (h : decode_movement payload = .ok m) :
    ∃ id body, packet_id payload = .ok (id, body) ∧
      (id = ServerboundPositionID ∨ id = ServerboundPositionLookID) := by
  unfold decode_movement at h
  split at h
  · cases h
  · rename_i id body hid
    split at h
    · cases h
    · rename_i hmovement
      refine ⟨id, body, hid, ?_⟩
      by_contra hother
      exact hmovement (not_or.mp hother)

/-- A decoded movement has finite coordinates and angles, and no angles when
it came without a look. -/
theorem decode_movement_eq_ok {payload : Bytes} {m : Movement} (h : decode_movement payload = .ok m) :
    finite64 m.x ∧ finite64 m.y ∧ finite64 m.z ∧ finite32 m.yaw ∧ finite32 m.pitch ∧
      (m.has_look = false → m.yaw = 0 ∧ m.pitch = 0) := by
  unfold decode_movement at h
  split at h
  · cases h
  · rename_i id body _
    split at h
    · cases h
    · split at h
      · cases h
      · split at h
        · cases h
        · dsimp only at h
          generalize hyaw : (if decide (id = ServerboundPositionLookID) = true then
            uint32 (body.drop 24) else 0) = yaw at h
          generalize hpitch : (if decide (id = ServerboundPositionLookID) = true then
            uint32 (body.drop 28) else 0) = pitch at h
          generalize (if decide (id = ServerboundPositionLookID) = true then 32 else 24) = offset at h
          split at h
          · cases h
          · rename_i hvalid
            simp only [not_or, not_not] at hvalid
            obtain ⟨_, hfx, hfy, hfz, hfyaw, hfpitch⟩ := hvalid
            cases h
            refine ⟨hfx, hfy, hfz, hfyaw, hfpitch, ?_⟩
            intro hlook
            rw [if_neg (by simpa using hlook)] at hyaw hpitch
            exact ⟨hyaw.symm, hpitch.symm⟩

/-- What an accepted command packet holds: three integers and nothing else. -/
theorem parse_player_command_holds {payload : Bytes} {c : PlayerCommand}
    (h : parse_player_command payload = .ok c) :
    ∃ body usedEntity usedAction usedData, packet_id payload = .ok (ServerboundPlayerCommandID, body) ∧
      consume_var_int body = .ok (c.entity_id, usedEntity) ∧
      consume_var_int (body.drop usedEntity) = .ok (c.action_id, usedAction) ∧
      consume_var_int ((body.drop usedEntity).drop usedAction) = .ok (c.data, usedData) ∧
      0 ≤ c.entity_id ∧ (0 ≤ c.action_id ∧ c.action_id ≤ 8) ∧ 0 ≤ c.data := by
  unfold parse_player_command at h
  split at h
  · cases h
  · rename_i id body hid
    split at h
    · cases h
    · rename_i hcommand
      rw [not_not] at hcommand
      split at h
      · cases h
      · rename_i entity usedEntity hentity
        dsimp only at h
        split at h
        · cases h
        · rename_i action usedAction haction
          split at h
          · cases h
          · rename_i data usedData hdata
            split at h
            · cases h
            · rename_i hrange
              cases h
              simp only [not_or, not_lt] at hrange
              obtain ⟨_, hentityNonneg, hactionNonneg, hactionLe, hdataNonneg⟩ := hrange
              exact ⟨body, usedEntity, usedAction, usedData, by rw [hid, hcommand], hentity, haction, hdata,
                hentityNonneg, ⟨hactionNonneg, hactionLe⟩, hdataNonneg⟩

/-- A decoded command comes from a command packet, and its fields are in the
range that the encoder can write back. -/
theorem parse_player_command_eq_ok {payload : Bytes} {c : PlayerCommand}
    (h : parse_player_command payload = .ok c) :
    (∃ body, packet_id payload = .ok (ServerboundPlayerCommandID, body)) ∧
      (0 ≤ c.entity_id ∧ c.entity_id < 2 ^ 31) ∧ (0 ≤ c.action_id ∧ c.action_id ≤ 8) ∧
      (0 ≤ c.data ∧ c.data < 2 ^ 31) := by
  obtain ⟨body, _, _, _, hid, hentity, _, hdata, hentityNonneg, haction, hdataNonneg⟩ :=
    parse_player_command_holds h
  have hentityLt := (consume_var_int_bounds hentity).2.1
  have hdataLt := (consume_var_int_bounds hdata).2.1
  exact ⟨⟨body, hid⟩, ⟨hentityNonneg, hentityLt⟩, haction, hdataNonneg, hdataLt⟩

/-- Nothing may follow the fields of a command. -/
theorem parse_player_command_append {payload rest : Bytes} {c : PlayerCommand}
    (h : parse_player_command payload = .ok c) (hrest : rest ≠ []) :
    parse_player_command (payload ++ rest) = .error .PlayMalformed := by
  obtain ⟨body, usedEntity, usedAction, usedData, hid, hentity, haction, hdata, -⟩ :=
    parse_player_command_holds h
  obtain ⟨_, _, _, _, hentityLe⟩ := consume_var_int_bounds hentity
  obtain ⟨_, _, _, _, hactionLe⟩ := consume_var_int_bounds haction
  obtain ⟨_, _, _, _, hdataLe⟩ := consume_var_int_bounds hdata
  have hleft : (((body.drop usedEntity).drop usedAction).drop usedData ++ rest).length ≠ 0 := by
    simp [hrest]
  rw [parse_player_command, packet_id_append_right hid]
  simp only [ne_eq, not_true_eq_false, if_false, consume_var_int_append hentity,
    List.drop_append_of_le_length hentityLe, consume_var_int_append haction,
    List.drop_append_of_le_length hactionLe, consume_var_int_append hdata,
    List.drop_append_of_le_length hdataLe]
  rw [if_pos (.inl hleft)]

/-- Command packets with 32-bit fields decode to the fields, when these are in
the range that the decoder accepts. -/
theorem parse_player_command_payload {entity action data : Int} (hentity : 0 ≤ entity ∧ entity < 2 ^ 31)
    (haction : 0 ≤ action ∧ action ≤ 8) (hdata : 0 ≤ data ∧ data < 2 ^ 31) :
    parse_player_command (player_command_payload entity action data) =
      .ok { entity_id := entity, action_id := action, data := data } := by
  have hpayload : player_command_payload entity action data =
      append_var_int [] ServerboundPlayerCommandID ++ (append_var_int [] entity ++
        (append_var_int [] action ++ (append_var_int [] data ++ []))) := by
    rw [player_command_payload]
    simp [append_var_int]
  rw [parse_player_command, hpayload, packet_id_append (by decide) (by decide)]
  simp only [ne_eq, not_true_eq_false, if_false]
  rw [consume_append_var_int (by omega) hentity.2]
  simp only [List.drop_left]
  rw [consume_append_var_int (by omega) (by omega)]
  simp only [List.drop_left]
  rw [consume_append_var_int (by omega) hdata.2]
  simp only [List.drop_left, List.length_nil, not_true_eq_false, false_or]
  rw [if_neg (by omega)]

end regiongate.play
