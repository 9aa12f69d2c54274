import RegionGate.Codec.Checked
import RegionGate.Protocol.Configuration
import RegionGate.Protocol.Play

open checked regiongate.codec

namespace regiongate.configuration

/-- `ParseClientInformation` with the indices and slices of the source. -/
def parse_client_information_checked (payload : Bytes) : Outcome Error ClientInformation := do
  let (id, body) ← (packet_id_checked payload).mapError fun _ => .ConfigurationMalformed
  if id ≠ ServerboundClientInformationID then .Fail .ConfigurationMalformed
  else
    let (locale, used) ← (consume_string_checked body 16).mapError fun _ => .ConfigurationMalformed
    if used ≥ body.length then .Fail .ConfigurationMalformed
    else
      let body ← sliceFrom body used
      let distance ← index body 0
      let body ← sliceFrom body 1
      let (chat_mode, used) ← (consume_var_int_checked body).mapError fun _ => .ConfigurationMalformed
      if chat_mode < 0 ∨ chat_mode > 2 then .Fail .ConfigurationMalformed
      else
        let body ← sliceFrom body used
        if body.length < 2 then .Fail .ConfigurationMalformed
        else
          let colors ← index body 0
          let chat_colors ← .ofExcept (parse_bool colors)
          let displayed_skin_parts ← index body 1
          let body ← sliceFrom body 2
          let (main_hand, used) ← (consume_var_int_checked body).mapError fun _ => .ConfigurationMalformed
          if main_hand < 0 ∨ main_hand > 1 then .Fail .ConfigurationMalformed
          else
            let body ← sliceFrom body used
            if body.length ≠ 2 then .Fail .ConfigurationMalformed
            else
              let filtering ← index body 0
              let text_filtering ← .ofExcept (parse_bool filtering)
              let listings ← index body 1
              let allow_server_listings ← .ofExcept (parse_bool listings)
              .Ok { locale, view_distance := distance.toInt8.toInt, chat_mode, chat_colors,
                    displayed_skin_parts, main_hand, text_filtering, allow_server_listings }

/-- `ParsePluginMessage` with the slices of the source. -/
def parse_plugin_message_checked (payload : Bytes) : Outcome Error PluginMessage := do
  let (id, body) ← (packet_id_checked payload).mapError fun _ => .ConfigurationMalformed
  if id ≠ ServerboundPluginMessageID then .Fail .ConfigurationMalformed
  else
    let (channel, used) ← (consume_string_checked body 32767).mapError fun _ => .ConfigurationMalformed
    if channel = [] then .Fail .ConfigurationMalformed
    else
      let data ← sliceFrom body used
      .Ok { channel, data }

/-- What the parser does with the two last flags, once there are exactly two. -/
private theorem listing_flags_eq {body : Bytes} (information : Bool → Bool → ClientInformation) :
    (if body.length ≠ 2 then .Fail .ConfigurationMalformed
      else do
        let filtering ← index body 0
        let text_filtering ← .ofExcept (parse_bool filtering)
        let listings ← index body 1
        let allow_server_listings ← .ofExcept (parse_bool listings)
        .Ok (information text_filtering allow_server_listings)) =
      Outcome.ofExcept (match parse_listing_flags body with
        | .error e => .error e
        | .ok (text_filtering, allow_server_listings) =>
          .ok (information text_filtering allow_server_listings)) := by
  match body with
  | [] => rfl
  | [_] => rfl
  | [filtering, listings] =>
    have hfirst : (index [filtering, listings] 0 : Outcome Error UInt8) = .Ok filtering := rfl
    have hsecond : (index [filtering, listings] 1 : Outcome Error UInt8) = .Ok listings := rfl
    rw [if_neg (by simp), hfirst, hsecond]
    simp only [Outcome.ok_bind, parse_listing_flags]
    cases parse_bool filtering with
    | error e => cases parse_bool listings <;> rfl
    | ok text_filtering => cases parse_bool listings <;> rfl
  | _ :: _ :: _ :: _ =>
    rw [if_pos (by simp)]
    rfl

/-- `ParseClientInformation` never slices out of bounds: with the checks it is the
function without them. -/
theorem parse_client_information_checked_eq (payload : Bytes) :
    parse_client_information_checked payload = .ofExcept (parse_client_information payload) := by
  rw [parse_client_information_checked, packet_id_checked_eq, parse_client_information]
  cases packet_id payload with
  | error e => rfl
  | ok packet =>
    obtain ⟨id, body⟩ := packet
    simp only [Outcome.ofExcept_ok, Outcome.mapError_ok, Outcome.ok_bind, consume_string_checked_eq]
    split
    · rfl
    cases hlocale : consume_string body 16 with
    | error e => rfl
    | ok result =>
      obtain ⟨locale, used⟩ := result
      obtain ⟨_, hused⟩ := consume_string_bounds hlocale
      simp only [Outcome.ofExcept_ok, Outcome.mapError_ok, Outcome.ok_bind, consume_var_int_checked_eq]
      cases hrest : body.drop used with
      | nil =>
        rw [if_pos (List.drop_eq_nil_iff.mp hrest)]
        rfl
      | cons distance rest =>
        have hmore : ¬ used ≥ body.length := by
          intro hall
          rw [List.drop_eq_nil_of_le hall] at hrest
          cases hrest
        have hindex : (index (distance :: rest) 0 : Outcome Error UInt8) = .Ok distance := rfl
        have htail : (sliceFrom (distance :: rest) 1 : Outcome Error Bytes) = .Ok rest :=
          sliceFrom_ok (by simp)
        rw [if_neg hmore, sliceFrom_ok hused, Outcome.ok_bind, hrest, hindex, Outcome.ok_bind, htail,
          Outcome.ok_bind]
        dsimp only
        cases hmode : consume_var_int rest with
        | error e => rfl
        | ok result =>
          obtain ⟨chat_mode, used⟩ := result
          obtain ⟨_, _, _, _, hused⟩ := consume_var_int_bounds hmode
          simp only [Outcome.ofExcept_ok, Outcome.mapError_ok, Outcome.ok_bind]
          split
          · rfl
          rw [sliceFrom_ok hused, Outcome.ok_bind]
          match hflags : rest.drop used with
          | [] => rfl
          | [_] => rfl
          | colors :: parts :: rest =>
            have hfirst : (index (colors :: parts :: rest) 0 : Outcome Error UInt8) = .Ok colors := rfl
            have hsecond : (index (colors :: parts :: rest) 1 : Outcome Error UInt8) = .Ok parts := rfl
            have htail : (sliceFrom (colors :: parts :: rest) 2 : Outcome Error Bytes) = .Ok rest :=
              sliceFrom_ok (by simp)
            rw [if_neg (by simp), hfirst, hsecond, htail]
            simp only [Outcome.ok_bind]
            cases parse_bool colors with
            | error e => rfl
            | ok chat_colors =>
              simp only [Outcome.ofExcept_ok, Outcome.ok_bind]
              cases hhand : consume_var_int rest with
              | error e => rfl
              | ok result =>
                obtain ⟨main_hand, used⟩ := result
                obtain ⟨_, _, _, _, hused⟩ := consume_var_int_bounds hhand
                simp only [Outcome.ofExcept_ok, Outcome.mapError_ok, Outcome.ok_bind]
                split
                · rfl
                rw [sliceFrom_ok hused, Outcome.ok_bind]
                exact listing_flags_eq fun text_filtering allow_server_listings =>
                  { locale, view_distance := distance.toInt8.toInt, chat_mode, chat_colors,
                    displayed_skin_parts := parts, main_hand, text_filtering, allow_server_listings }

/-- `ParsePluginMessage` never slices out of bounds. -/
theorem parse_plugin_message_checked_eq (payload : Bytes) :
    parse_plugin_message_checked payload = .ofExcept (parse_plugin_message payload) := by
  rw [parse_plugin_message_checked, packet_id_checked_eq, parse_plugin_message]
  cases packet_id payload with
  | error e => rfl
  | ok packet =>
    obtain ⟨id, body⟩ := packet
    simp only [Outcome.ofExcept_ok, Outcome.mapError_ok, Outcome.ok_bind, consume_string_checked_eq]
    split
    · rfl
    · cases hchannel : consume_string body 32767 with
      | error e => rfl
      | ok result =>
        obtain ⟨channel, used⟩ := result
        obtain ⟨_, hused⟩ := consume_string_bounds hchannel
        simp only [Outcome.ofExcept_ok, Outcome.mapError_ok, Outcome.ok_bind]
        split
        · rfl
        · rw [sliceFrom_ok hused, Outcome.ok_bind]
          rfl

end regiongate.configuration

namespace regiongate.play

/-- `binary.BigEndian.Uint64`, which reads the last of its eight bytes first. -/
def uint64_checked (bytes : Bytes) : Outcome Error UInt64 := do
  let _ ← index bytes 7
  .Ok (uint64 bytes)

/-- `binary.BigEndian.Uint32`. -/
def uint32_checked (bytes : Bytes) : Outcome Error UInt32 := do
  let _ ← index bytes 3
  .Ok (uint32 bytes)

/-- `ParseKeepAlive` with the index that `Uint64` starts with. -/
def parse_keep_alive_checked (payload : Bytes) : Outcome Error Int := do
  let (id, body) ← (packet_id_checked payload).mapError fun _ => .PlayMalformed
  if id ≠ ServerboundKeepAliveID ∨ body.length ≠ 8 then .Fail .PlayMalformed
  else
    let value ← uint64_checked body
    .Ok value.toInt64.toInt

/-- `ParseTeleportConfirm`; only `PacketID` slices. -/
def parse_teleport_confirm_checked (payload : Bytes) : Outcome Error Int := do
  let (id, body) ← (packet_id_checked payload).mapError fun _ => .PlayMalformed
  if id ≠ ServerboundTeleportConfirmID then .Fail .PlayMalformed
  else
    let (teleport, used) ← (consume_var_int_checked body).mapError fun _ => .PlayMalformed
    if used ≠ body.length then .Fail .PlayMalformed else .Ok teleport

/-- The loop of `ParsePlayerCommand` over its values, and the body left. -/
def consume_values : Nat → Bytes → Outcome Error (List Int × Bytes)
  | 0, body => .Ok ([], body)
  | count + 1, body => do
    let (value, used) ← (consume_var_int_checked body).mapError fun _ => .PlayMalformed
    let body ← sliceFrom body used
    let (values, body) ← consume_values count body
    .Ok (value :: values, body)

/-- `ParsePlayerCommand` with the slices of the source. -/
def parse_player_command_checked (payload : Bytes) : Outcome Error PlayerCommand := do
  let (id, body) ← (packet_id_checked payload).mapError fun _ => .PlayMalformed
  if id ≠ ServerboundPlayerCommandID then .Fail .PlayMalformed
  else
    let (values, body) ← consume_values 3 body
    let entity ← index values 0
    let action ← index values 1
    let data ← index values 2
    if body.length ≠ 0 ∨ entity < 0 ∨ action < 0 ∨ action > 8 ∨ data < 0 then .Fail .PlayMalformed
    else .Ok { entity_id := entity, action_id := action, data }

/-- `DecodeMovement` with the indices and slices of the source. -/
def decode_movement_checked (payload : Bytes) : Outcome Error Movement := do
  let (id, body) ← (packet_id_checked payload).mapError fun _ => .PlayMalformed
  if id ≠ ServerboundPositionID ∧ id ≠ ServerboundPositionLookID then .Fail .PlayMalformed
  else if id = ServerboundPositionID ∧ body.length ≠ 25 then .Fail .PlayMalformed
  else if id = ServerboundPositionLookID ∧ body.length ≠ 33 then .Fail .PlayMalformed
  else
    let x ← (slice body 0 8 >>= uint64_checked)
    let y ← (slice body 8 16 >>= uint64_checked)
    let z ← (slice body 16 24 >>= uint64_checked)
    let look := decide (id = ServerboundPositionLookID)
    let yaw ← if look then (slice body 24 28 >>= uint32_checked) else .Ok 0
    let pitch ← if look then (slice body 28 32 >>= uint32_checked) else .Ok 0
    let ground ← index body (if look then 32 else 24)
    if ground > 1 ∨ ¬ finite64 x ∨ ¬ finite64 y ∨ ¬ finite64 z ∨ ¬ finite32 yaw ∨
        ¬ finite32 pitch then .Fail .PlayMalformed
    else .Ok { x, y, z, yaw, pitch, on_ground := ground == 1, has_look := look }

theorem uint64_checked_eq {bytes : Bytes} (h : 8 ≤ bytes.length) :
    uint64_checked bytes = .Ok (uint64 bytes) := by
  unfold uint64_checked
  rw [index_ok (List.getElem?_eq_getElem (by omega)), Outcome.ok_bind]

theorem uint32_checked_eq {bytes : Bytes} (h : 4 ≤ bytes.length) :
    uint32_checked bytes = .Ok (uint32 bytes) := by
  unfold uint32_checked
  rw [index_ok (List.getElem?_eq_getElem (by omega)), Outcome.ok_bind]

/-- `ParseKeepAlive` never slices out of bounds. -/
theorem parse_keep_alive_checked_eq (payload : Bytes) :
    parse_keep_alive_checked payload = .ofExcept (parse_keep_alive payload) := by
  rw [parse_keep_alive_checked, packet_id_checked_eq, parse_keep_alive]
  cases packet_id payload with
  | error e => rfl
  | ok packet =>
    obtain ⟨id, body⟩ := packet
    simp only [Outcome.ofExcept_ok, Outcome.mapError_ok, Outcome.ok_bind]
    split
    · rfl
    · rename_i hbody
      rw [uint64_checked_eq (by omega), Outcome.ok_bind]
      rfl

/-- `ParseTeleportConfirm` never slices out of bounds. -/
theorem parse_teleport_confirm_checked_eq (payload : Bytes) :
    parse_teleport_confirm_checked payload = .ofExcept (parse_teleport_confirm payload) := by
  rw [parse_teleport_confirm_checked, packet_id_checked_eq, parse_teleport_confirm]
  cases packet_id payload with
  | error e => rfl
  | ok packet =>
    obtain ⟨id, body⟩ := packet
    simp only [Outcome.ofExcept_ok, Outcome.mapError_ok, Outcome.ok_bind, consume_var_int_checked_eq]
    split
    · rfl
    · cases consume_var_int body with
      | error e => rfl
      | ok result =>
        obtain ⟨teleport, used⟩ := result
        simp only [Outcome.ofExcept_ok, Outcome.mapError_ok, Outcome.ok_bind]
        split <;> rfl

/-- One round of the loop, on a VarInt that can be read. -/
theorem consume_values_succ {body : Bytes} {value : Int} {used : Nat} (count : Nat)
    (h : consume_var_int body = .ok (value, used)) :
    consume_values (count + 1) body =
      (consume_values count (body.drop used) >>= fun (values, rest) => .Ok (value :: values, rest)) := by
  obtain ⟨_, _, _, _, hused⟩ := consume_var_int_bounds h
  rw [consume_values, consume_var_int_checked_eq, h]
  simp only [Outcome.ofExcept_ok, Outcome.mapError_ok, Outcome.ok_bind]
  rw [sliceFrom_ok hused, Outcome.ok_bind]

theorem consume_values_error {body : Bytes} {e : Error} (count : Nat)
    (h : consume_var_int body = .error e) : consume_values (count + 1) body = .Fail .PlayMalformed := by
  rw [consume_values, consume_var_int_checked_eq, h]
  rfl

/-- `ParsePlayerCommand` never slices out of bounds. -/
theorem parse_player_command_checked_eq (payload : Bytes) :
    parse_player_command_checked payload = .ofExcept (parse_player_command payload) := by
  rw [parse_player_command_checked, packet_id_checked_eq, parse_player_command]
  cases packet_id payload with
  | error e => rfl
  | ok packet =>
    obtain ⟨id, body⟩ := packet
    simp only [Outcome.ofExcept_ok, Outcome.mapError_ok, Outcome.ok_bind]
    split
    · rfl
    cases hentity : consume_var_int body with
    | error e =>
      rw [consume_values_error 2 hentity]
      rfl
    | ok result =>
      obtain ⟨entity, used⟩ := result
      rw [consume_values_succ 2 hentity]
      dsimp only
      cases haction : consume_var_int (body.drop used) with
      | error e =>
        rw [consume_values_error 1 haction]
        rfl
      | ok result =>
        obtain ⟨action, used'⟩ := result
        rw [consume_values_succ 1 haction]
        dsimp only
        cases hdata : consume_var_int ((body.drop used).drop used') with
        | error e =>
          rw [consume_values_error 0 hdata]
          rfl
        | ok result =>
          obtain ⟨data, used''⟩ := result
          rw [consume_values_succ 0 hdata]
          simp only [consume_values, Outcome.ok_bind]
          have hfirst : (index [entity, action, data] 0 : Outcome Error Int) = .Ok entity := rfl
          have hsecond : (index [entity, action, data] 1 : Outcome Error Int) = .Ok action := rfl
          have hthird : (index [entity, action, data] 2 : Outcome Error Int) = .Ok data := rfl
          rw [hfirst, Outcome.ok_bind, hsecond, Outcome.ok_bind, hthird, Outcome.ok_bind]
          split <;> rfl

private theorem slice_uint64 (body : Bytes) (low : Nat) (h : low + 8 ≤ body.length) :
    (slice body low (low + 8) >>= uint64_checked) = .Ok (uint64 (body.drop low)) := by
  rw [slice_ok (by omega) h, Outcome.ok_bind, uint64_checked_eq (by simp; omega)]
  simp [uint64, List.drop_take, List.take_take]

private theorem slice_uint32 (body : Bytes) (low : Nat) (h : low + 4 ≤ body.length) :
    (slice body low (low + 4) >>= uint32_checked) = .Ok (uint32 (body.drop low)) := by
  rw [slice_ok (by omega) h, Outcome.ok_bind, uint32_checked_eq (by simp; omega)]
  simp [uint32, List.drop_take, List.take_take]

/-- `DecodeMovement` never slices out of bounds: its lengths are checked first. -/
theorem decode_movement_checked_eq (payload : Bytes) :
    decode_movement_checked payload = .ofExcept (decode_movement payload) := by
  rw [decode_movement_checked, packet_id_checked_eq, decode_movement]
  cases packet_id payload with
  | error e => rfl
  | ok packet =>
    obtain ⟨id, body⟩ := packet
    simp only [Outcome.ofExcept_ok, Outcome.mapError_ok, Outcome.ok_bind]
    by_cases hmovement : id ≠ ServerboundPositionID ∧ id ≠ ServerboundPositionLookID
    · rw [if_pos hmovement, if_pos hmovement]
      rfl
    by_cases hposition : id = ServerboundPositionID ∧ body.length ≠ 25
    · rw [if_neg hmovement, if_neg hmovement, if_pos hposition, if_pos hposition]
      rfl
    by_cases hlook : id = ServerboundPositionLookID ∧ body.length ≠ 33
    · rw [if_neg hmovement, if_neg hmovement, if_neg hposition, if_neg hposition, if_pos hlook, if_pos hlook]
      rfl
    rw [if_neg hmovement, if_neg hmovement, if_neg hposition, if_neg hposition, if_neg hlook, if_neg hlook]
    -- the length is the one that goes with the identifier
    have hlength : body.length = if id = ServerboundPositionLookID then 33 else 25 := by
      split
      · rename_i hid
        by_contra hother
        exact hlook ⟨hid, hother⟩
      · rename_i hid
        by_contra hother
        exact hposition ⟨by tauto, hother⟩
    have hx := slice_uint64 body 0 (by split at hlength <;> omega)
    have hy := slice_uint64 body 8 (by split at hlength <;> omega)
    have hz := slice_uint64 body 16 (by split at hlength <;> omega)
    rw [hx, Outcome.ok_bind, hy, Outcome.ok_bind, hz, Outcome.ok_bind, List.drop_zero]
    by_cases hid : id = ServerboundPositionLookID
    · rw [if_pos hid] at hlength
      have hyaw := slice_uint32 body 24 (by omega)
      have hpitch := slice_uint32 body 28 (by omega)
      have hground : body[32]? = some (body.getD 32 0) := by
        rw [List.getD_eq_getElem?_getD, List.getElem?_eq_getElem (by omega)]
        rfl
      simp only [hid, decide_true, if_true]
      rw [hyaw, Outcome.ok_bind, hpitch, Outcome.ok_bind, index_ok hground, Outcome.ok_bind, Outcome.ofExcept_guarded]
      rfl
    · rw [if_neg hid] at hlength
      have hground : body[24]? = some (body.getD 24 0) := by
        rw [List.getD_eq_getElem?_getD, List.getElem?_eq_getElem (by omega)]
        rfl
      simp only [hid, decide_false, Bool.false_eq_true, if_false]
      rw [index_ok hground, Outcome.ok_bind, Outcome.ofExcept_guarded]
      rfl

end regiongate.play
