import RegionGate.Protocol.Grammar
import RegionGate.Protocol.Play.RoundTrip

open checked parsing regiongate.codec regiongate.forwarding

namespace regiongate.handshake

/-- The documented limits of a handshake. -/
structure Packet.Limits (packet : Packet) : Prop where
  protocol_version : -2 ^ 31 ≤ packet.protocol_version ∧ packet.protocol_version < 2 ^ 31
  server_address : login.Text 255 packet.server_address
  server_port : packet.server_port < 2 ^ 16
  next_state : packet.next_state = NextStatus ∨ packet.next_state = NextLogin

/-- A handshake as the protocol has it. -/
def packet : Reader UInt8 Packet := do
  let id ← varInt
  if id ≠ 0x00 then failure
  else
    let version ← varInt
    let address ← login.text 255
    let high ← one
    let low ← one
    let next ← varInt
    if next ≠ NextStatus ∧ next ≠ NextLogin then failure
    else
      return { protocol_version := version, server_address := address,
               server_port := high.toNat * 256 + low.toNat, next_state := next }

theorem local_packet : Local packet :=
  local_varInt.bind fun _ => .guarded fun _ => local_varInt.bind fun _ => (login.local_text 255).bind fun _ =>
    local_one.bind fun _ => local_one.bind fun _ => local_varInt.bind fun _ => .guarded fun _ => .pure _

/-- Every handshake that is read lies within the limits. -/
theorem ensures_packet : Ensures packet Packet.Limits := by
  refine .skip fun id => .guarded fun _ => ensures_varInt.bind fun version hversion =>
    (login.ensures_text 255).bind fun address haddress => .skip fun high => .skip fun low => .skip fun next =>
      .guarded fun hnext => .pure ⟨hversion, haddress, ?_, ?_⟩
  · have hhigh := high.toNat_lt
    have hlow := low.toNat_lt
    dsimp only
    omega
  · exact (Decidable.not_and_iff_not_or_not.mp hnext).imp not_not.mp not_not.mp

theorem payload_eq (packet : Packet) : payload packet =
    append_var_int [] 0x00 ++ (append_var_int [] packet.protocol_version ++
      (append_string [] packet.server_address ++ ([(packet.server_port >>> 8).toUInt8] ++
        ([packet.server_port.toUInt8] ++ append_var_int [] packet.next_state)))) := by
  simp [payload, append_string, append_var_int]

/-- `Payload` writes what the protocol has for a handshake within the limits. -/
theorem reads_packet {p : Packet} (h : p.Limits) : Reads packet (payload p) p := by
  have hport : (p.server_port >>> 8).toUInt8.toNat * 256 + p.server_port.toUInt8.toNat = p.server_port := by
    have hlt := h.server_port
    simp only [Nat.toUInt8_eq, UInt8.toNat_ofNat', Nat.shiftRight_eq_div_pow, Nat.reducePow] at hlt ⊢
    omega
  have hnext : -2 ^ 31 ≤ p.next_state ∧ p.next_state < 2 ^ 31 := by
    obtain hnext | hnext := h.next_state <;> rw [hnext] <;> decide
  have hstate : ¬ (p.next_state ≠ NextStatus ∧ p.next_state ≠ NextLogin) := by
    rintro ⟨hstatus, hlogin⟩
    exact h.next_state.elim hstatus hlogin
  rw [payload_eq]
  refine (reads_int (by decide) (by decide)).bind (.guarded (by decide) ?_)
  refine (reads_int h.protocol_version.1 h.protocol_version.2).bind ?_
  refine (login.reads_text h.server_address (by decide)).bind ?_
  refine (reads_one _).bind ((reads_one _).bind ?_)
  refine (reads_int hnext.1 hnext.2).bind_nil (.guarded hstate ?_)
  rw [hport]
  exact Reads.pure

/-- `Parse` accepts exactly the handshakes of the protocol. -/
theorem parse_eq_whole (data : Bytes) : (parse data).toOption = whole packet data := by
  refine toOption_bind_eq_whole (packet_id_run _ _) fun id body _ => guarded_eq_whole fun _ => ?_
  refine (measures_varInt _ _).bind fun version body' hrun => ?_
  simp only [sliceFrom_rest local_varInt hrun, Outcome.ok_bind]
  refine (measures_text _ (by decide)).bind fun address body'' hrun => ?_
  simp only [sliceFrom_rest (login.local_text 255) hrun, Outcome.ok_bind]
  obtain - | ⟨high, - | ⟨low, rest⟩⟩ := body''
  · rfl
  · rfl
  · have hport : uint16 (high :: low :: rest) = .Ok (high.toNat * 256 + low.toNat) := rfl
    have hrest : (sliceFrom (high :: low :: rest) 2 : Outcome Error Bytes) = .Ok rest := sliceFrom_ok (by simp)
    rw [if_neg (by simp), hport, Outcome.ok_bind, hrest, Outcome.ok_bind, whole_one_bind, whole_one_bind]
    refine (measures_varInt _ _).bind fun next rest' hrun => ?_
    simp only [sliceFrom_rest local_varInt hrun, Outcome.ok_bind]
    exact ended_eq_whole

end regiongate.handshake

namespace regiongate.login

/-- A letter, a digit or an underscore. -/
def UsernameChar (char : UInt8) : Prop :=
  (65 ≤ char ∧ char ≤ 90) ∨ (97 ≤ char ∧ char ≤ 122) ∨ (48 ≤ char ∧ char ≤ 57) ∨ char = 95

/-- The names and identifiers that `ParseStart` accepts. -/
structure Start.Limits (start : Start) : Prop where
  size : 1 ≤ start.username.length ∧ start.username.length ≤ 16
  chars : ∀ char ∈ start.username, UsernameChar char
  uuid : start.uuid.length = 16

/-- The lengths that `ParseEncryptionRequest` accepts. -/
structure EncryptionRequest.Limits (request : EncryptionRequest) : Prop where
  server_id : Text 20 request.server_id
  public_key : request.public_key.length ≤ 1024
  verify_token : request.verify_token.length ≤ 1024

/-- The lengths that `ParseEncryptionResponse` accepts. -/
structure EncryptionResponse.Limits (response : EncryptionResponse) : Prop where
  shared_secret : response.shared_secret.length ≤ 1024
  verify_token : response.verify_token.length ≤ 1024

/-- `validUsername` in the words of the protocol. -/
theorem valid_username_iff {username : Bytes} : valid_username username = true ↔
    (1 ≤ username.length ∧ username.length ≤ 16) ∧ ∀ char ∈ username, UsernameChar char := by
  simp only [valid_username, decide_eq_true_eq, List.all_eq_true, UsernameChar, Nat.one_le_iff_ne_zero, and_assoc]

theorem UsernameChar.lt {char : UInt8} (h : UsernameChar char) : char < 0x80 := by
  rw [UsernameChar] at h
  simp only [UInt8.le_iff_toNat_le, UInt8.lt_iff_toNat_lt, ← UInt8.toNat_inj, UInt8.reduceToNat] at h ⊢
  omega

/-- ASCII is valid UTF-8, with one character a byte. -/
theorem rune_count_ascii {value : Bytes} (h : ∀ char ∈ value, char < 0x80) :
    rune_count value = some value.length := by
  induction value with
  | nil => rfl
  | cons char value ih =>
    have hrest := ih fun char hmem => h char (by simp [hmem])
    rw [rune_count.eq_def]
    dsimp only
    rw [if_pos (h char (by simp)), hrest]
    rfl

/-- A Login Start as the protocol has it. -/
def start : Reader UInt8 Start := do
  let id ← varInt
  if id ≠ ServerboundLoginStartID then failure
  else
    let username ← text 16
    let uuid ← exactly 16
    if ¬ valid_username username then failure else return { username, uuid }

/-- An Encryption Request as the protocol has it. -/
def encryptionRequest : Reader UInt8 EncryptionRequest := do
  let id ← varInt
  if id ≠ ClientboundEncryptionRequestID then failure
  else
    let server_id ← text 20
    let public_key ← byteArray 1024
    let verify_token ← byteArray 1024
    let flag ← one
    if flag > 1 then failure
    else return { server_id, public_key, verify_token, should_authenticate := flag == 1 }

/-- An Encryption Response as the protocol has it. -/
def encryptionResponse : Reader UInt8 EncryptionResponse := do
  let id ← varInt
  if id ≠ ServerboundEncryptionResponseID then failure
  else
    let shared_secret ← byteArray 1024
    let verify_token ← byteArray 1024
    return { shared_secret, verify_token }

theorem local_start : Local start :=
  local_varInt.bind fun _ => .guarded fun _ => (local_text 16).bind fun _ => (local_exactly 16).bind fun _ =>
    .guarded fun _ => .pure _

theorem local_encryptionRequest : Local encryptionRequest :=
  local_varInt.bind fun _ => .guarded fun _ => (local_text 20).bind fun _ => (local_byteArray 1024).bind fun _ =>
    (local_byteArray 1024).bind fun _ => local_one.bind fun _ => .guarded fun _ => .pure _

theorem local_encryptionResponse : Local encryptionResponse :=
  local_varInt.bind fun _ => .guarded fun _ => (local_byteArray 1024).bind fun _ =>
    (local_byteArray 1024).bind fun _ => .pure _

theorem ensures_start : Ensures start Start.Limits := by
  refine .skip fun id => .guarded fun _ => .skip fun username => (ensures_exactly 16).bind fun uuid huuid =>
    .guarded fun hvalid => ?_
  obtain ⟨hsize, hchars⟩ := valid_username_iff.mp (not_not.mp hvalid)
  exact .pure ⟨hsize, hchars, huuid⟩

theorem ensures_encryptionRequest : Ensures encryptionRequest EncryptionRequest.Limits :=
  .skip fun _ => .guarded fun _ => (ensures_text 20).bind fun _ hid => (ensures_byteArray 1024).bind fun _ hkey =>
    (ensures_byteArray 1024).bind fun _ htoken => .skip fun _ => .guarded fun _ => .pure ⟨hid, hkey, htoken⟩

theorem ensures_encryptionResponse : Ensures encryptionResponse EncryptionResponse.Limits :=
  .skip fun _ => .guarded fun _ => (ensures_byteArray 1024).bind fun _ hsecret =>
    (ensures_byteArray 1024).bind fun _ htoken => .pure ⟨hsecret, htoken⟩

/-- `StartPayload` writes what the protocol has for a Login Start. -/
theorem reads_start {s : Start} (h : s.Limits) : Reads start (start_payload s.username s.uuid) s := by
  have hpayload : start_payload s.username s.uuid =
      append_var_int [] ServerboundLoginStartID ++ (append_string [] s.username ++ s.uuid) := by
    simp [start_payload, append_string, append_var_int]
  have hsize := h.size.2
  have htext : Text 16 s.username :=
    ⟨⟨_, rune_count_ascii fun char hmem => (h.chars char hmem).lt, hsize⟩, by omega⟩
  rw [hpayload]
  refine (reads_int (by decide) (by decide)).bind (.guarded (by decide) ?_)
  refine (reads_text htext (by decide)).bind ((reads_exactly h.uuid).bind_nil (.guarded ?_ .pure))
  exact not_not.mpr (valid_username_iff.mpr ⟨h.size, h.chars⟩)

/-- `EncryptionRequestPayload` writes what the protocol has for the packet. -/
theorem reads_encryptionRequest {r : EncryptionRequest} (h : r.Limits) :
    Reads encryptionRequest
      (encryption_request_payload r.server_id r.public_key r.verify_token r.should_authenticate) r := by
  have hpayload : encryption_request_payload r.server_id r.public_key r.verify_token r.should_authenticate =
      append_var_int [] ClientboundEncryptionRequestID ++ (append_string [] r.server_id ++
        (append_byte_array [] r.public_key ++ (append_byte_array [] r.verify_token ++
          [if r.should_authenticate then 1 else 0]))) := by
    cases hflag : r.should_authenticate <;>
      simp [encryption_request_payload, append_byte_array, append_string, append_var_int]
  rw [hpayload]
  refine (reads_int (by decide) (by decide)).bind (.guarded (by decide) ?_)
  refine (reads_text h.server_id (by decide)).bind ?_
  refine (reads_byteArray h.public_key (by decide)).bind ((reads_byteArray h.verify_token (by decide)).bind ?_)
  obtain ⟨server_id, public_key, verify_token, should_authenticate⟩ := r
  cases should_authenticate
  · exact (reads_one (0 : UInt8)).bind_nil (.guarded (by decide) .pure)
  · exact (reads_one (1 : UInt8)).bind_nil (.guarded (by decide) .pure)

/-- `EncryptionResponsePayload` writes what the protocol has for the packet. -/
theorem reads_encryptionResponse {r : EncryptionResponse} (h : r.Limits) :
    Reads encryptionResponse (encryption_response_payload r.shared_secret r.verify_token) r := by
  have hpayload : encryption_response_payload r.shared_secret r.verify_token =
      append_var_int [] ServerboundEncryptionResponseID ++ (append_byte_array [] r.shared_secret ++
        append_byte_array [] r.verify_token) := by
    simp [encryption_response_payload, append_byte_array, append_var_int]
  rw [hpayload]
  refine (reads_int (by decide) (by decide)).bind (.guarded (by decide) ?_)
  exact (reads_byteArray h.shared_secret (by decide)).bind (reads_byteArray h.verify_token (by decide)).map

/-- `ParseStart` accepts exactly the packets of the protocol. -/
theorem parse_start_eq_whole (data : Bytes) : (parse_start data).toOption = whole start data := by
  refine toOption_bind_eq_whole (packet_id_run _ _) fun id body _ => guarded_eq_whole fun _ => ?_
  refine (measures_text _ (by decide)).bind fun username rest hrun => ?_
  have hle := (local_text 16).rest_length_le hrun
  simp only [sliceFrom_rest (local_text 16) hrun, Outcome.ok_bind]
  rw [whole_exactly_bind, whole_ended, List.length_drop]
  by_cases hsize : rest.length = 16
  · have hguard : ¬ body.length ≠ body.length - rest.length + 16 := by omega
    rw [if_neg hguard, if_pos hsize.ge, List.take_of_length_le hsize.le, hsize]
    simp only [Nat.sub_self, ne_eq, not_true_eq_false, false_or]
    split <;> rfl
  · have hguard : body.length ≠ body.length - rest.length + 16 := by omega
    rw [if_pos hguard]
    split
    · rw [if_pos (.inl (by omega))]
      rfl
    · rfl

/-- `ParseEncryptionRequest` accepts exactly the packets of the protocol. -/
theorem parse_encryption_request_eq_whole (data : Bytes) :
    (parse_encryption_request data).toOption = whole encryptionRequest data := by
  refine toOption_bind_eq_whole (packet_id_run _ _) fun id body _ => guarded_eq_whole fun _ => ?_
  refine (measures_text _ (by decide)).bind fun server_id body' hrun => ?_
  simp only [sliceFrom_rest (local_text 20) hrun, Outcome.ok_bind]
  refine (measures_byteArray _ _).bind fun public_key body'' hrun => ?_
  simp only [sliceFrom_rest (local_byteArray 1024) hrun, Outcome.ok_bind]
  refine (measures_byteArray _ _).bind fun verify_token rest hrun => ?_
  simp only [sliceFrom_rest (local_byteArray 1024) hrun, Outcome.ok_bind]
  cases rest with
  | nil => rfl
  | cons flag rest =>
    have hflag : (index (flag :: rest) 0 : Outcome Error UInt8) = .Ok flag := rfl
    rw [hflag, Outcome.ok_bind, whole_one_bind, whole_ended]
    by_cases hrest : rest.length = 0
    · rw [if_neg (by simp [hrest]), hrest]
      simp only [ne_eq, not_true_eq_false, false_or]
      split <;> rfl
    · rw [if_pos (by simp [hrest]), if_pos (.inl hrest)]
      rfl

/-- `ParseEncryptionResponse` accepts exactly the packets of the protocol. -/
theorem parse_encryption_response_eq_whole (data : Bytes) :
    (parse_encryption_response data).toOption = whole encryptionResponse data := by
  refine toOption_bind_eq_whole (packet_id_run _ _) fun id body _ => guarded_eq_whole fun _ => ?_
  refine (measures_byteArray _ _).bind fun shared_secret body' hrun => ?_
  simp only [sliceFrom_rest (local_byteArray 1024) hrun, Outcome.ok_bind]
  refine (measures_byteArray _ _).bind fun verify_token rest hrun => ?_
  have hle := (local_byteArray 1024).rest_length_le hrun
  rw [whole_pure]
  dsimp only
  by_cases hrest : rest.length = 0
  · rw [if_neg (by omega), if_neg (not_not.mpr hrest)]
    rfl
  · rw [if_pos (by omega), if_pos hrest]
    rfl

end regiongate.login

namespace regiongate.play

/-- The numbers that `ParsePlayerCommand` accepts. -/
structure PlayerCommand.Limits (command : PlayerCommand) : Prop where
  entity_id : 0 ≤ command.entity_id ∧ command.entity_id < 2 ^ 31
  action_id : 0 ≤ command.action_id ∧ command.action_id ≤ 8
  data : 0 ≤ command.data ∧ command.data < 2 ^ 31

/-- Finite coordinates and angles; a movement without a look has no angles. -/
structure Movement.Limits (movement : Movement) : Prop where
  coordinates : finite64 movement.x ∧ finite64 movement.y ∧ finite64 movement.z
  angles : finite32 movement.yaw ∧ finite32 movement.pitch
  without_look : movement.has_look = false → movement.yaw = 0 ∧ movement.pitch = 0

/-- The packet of a movement: with a look or without. -/
def Movement.payload (movement : Movement) : Bytes :=
  if movement.has_look then
    serverbound_position_look_payload movement.x movement.y movement.z movement.yaw movement.pitch
      movement.on_ground
  else serverbound_position_payload movement.x movement.y movement.z movement.on_ground

theorem decode_movement_payload {m : Movement} (h : m.Limits) : decode_movement m.payload = .ok m := by
  obtain ⟨x, y, z, yaw, pitch, on_ground, has_look⟩ := m
  obtain ⟨⟨hx, hy, hz⟩, ⟨hyaw, hpitch⟩, hlook⟩ := h
  cases has_look with
  | false =>
    obtain ⟨rfl, rfl⟩ := hlook rfl
    exact decode_position x y z on_ground hx hy hz
  | true => exact decode_position_look x y z yaw pitch on_ground hx hy hz hyaw hpitch

/-- The length of a movement packet goes with its identifier. -/
theorem decode_movement_length {payload : Bytes} {m : Movement} (h : decode_movement payload = .ok m) :
    ∃ id body, packet_id payload = .ok (id, body) ∧
      (id = ServerboundPositionID ∧ body.length = 25 ∨ id = ServerboundPositionLookID ∧ body.length = 33) := by
  obtain ⟨id, body, hid, hmovement⟩ := decode_movement_id h
  refine ⟨id, body, hid, ?_⟩
  rw [decode_movement, hid] at h
  dsimp only at h
  split at h
  · cases h
  · split at h
    · cases h
    · rename_i hposition
      split at h
      · cases h
      · rename_i hlook
        exact hmovement.imp (fun heq => ⟨heq, by_contra fun hlength => hposition ⟨heq, hlength⟩⟩)
          fun heq => ⟨heq, by_contra fun hlength => hlook ⟨heq, hlength⟩⟩

theorem decode_movement_append {payload rest : Bytes} {m : Movement} (h : decode_movement payload = .ok m)
    (hrest : rest ≠ []) : decode_movement (payload ++ rest) = .error .PlayMalformed := by
  obtain ⟨id, body, hid, hlength⟩ := decode_movement_length h
  have hmore : (body ++ rest).length ≠ body.length := by simpa using hrest
  rw [decode_movement, packet_id_append_right hid]
  dsimp only
  obtain ⟨rfl, hbody⟩ | ⟨rfl, hbody⟩ := hlength
  · rw [if_neg (by decide), if_pos ⟨rfl, by omega⟩]
  · rw [if_neg (by decide), if_neg (by simp [ServerboundPositionID, ServerboundPositionLookID]),
      if_pos ⟨rfl, by omega⟩]

end regiongate.play

namespace regiongate

theorem except_toOption_eq_some {ε α : Type} {m : Except ε α} {value : α} :
    m.toOption = some value ↔ m = .ok value := by
  cases m <;> simp [Except.toOption]

theorem handshake_agrees :
    Agrees handshake.payload (fun data => (handshake.parse data).toOption) handshake.Packet.Limits :=
  .of_reader handshake.parse_eq_whole handshake.local_packet (fun _ h => handshake.reads_packet h)
    handshake.ensures_packet

theorem login_start_agrees :
    Agrees (fun start => login.start_payload start.username start.uuid)
      (fun data => (login.parse_start data).toOption) login.Start.Limits :=
  .of_reader login.parse_start_eq_whole login.local_start (fun _ h => login.reads_start h) login.ensures_start

theorem encryption_request_agrees :
    Agrees
      (fun request => login.encryption_request_payload request.server_id request.public_key request.verify_token
        request.should_authenticate)
      (fun data => (login.parse_encryption_request data).toOption) login.EncryptionRequest.Limits :=
  .of_reader login.parse_encryption_request_eq_whole login.local_encryptionRequest
    (fun _ h => login.reads_encryptionRequest h) login.ensures_encryptionRequest

theorem encryption_response_agrees :
    Agrees (fun response => login.encryption_response_payload response.shared_secret response.verify_token)
      (fun data => (login.parse_encryption_response data).toOption) login.EncryptionResponse.Limits :=
  .of_reader login.parse_encryption_response_eq_whole login.local_encryptionResponse
    (fun _ h => login.reads_encryptionResponse h) login.ensures_encryptionResponse

/-- Player Command, whose reader is compared with its writer directly. -/
theorem player_command_agrees :
    Agrees (fun command => play.player_command_payload command.entity_id command.action_id command.data)
      (fun data => (play.parse_player_command data).toOption) play.PlayerCommand.Limits := by
  refine .of_trailing ?_ ?_ ?_
  · intro command h
    exact except_toOption_eq_some.mpr (play.parse_player_command_payload h.entity_id h.action_id h.data)
  · intro data command h
    obtain ⟨-, hentity, haction, hdata⟩ := play.parse_player_command_eq_ok (except_toOption_eq_some.mp h)
    exact ⟨hentity, haction, hdata⟩
  · intro data rest command h hrest
    rw [play.parse_player_command_append (except_toOption_eq_some.mp h) hrest]
    rfl

theorem movement_agrees :
    Agrees play.Movement.payload (fun data => (play.decode_movement data).toOption) play.Movement.Limits := by
  refine .of_trailing ?_ ?_ ?_
  · intro movement h
    exact except_toOption_eq_some.mpr (play.decode_movement_payload h)
  · intro data movement h
    obtain ⟨hx, hy, hz, hyaw, hpitch, hlook⟩ := play.decode_movement_eq_ok (except_toOption_eq_some.mp h)
    exact ⟨⟨hx, hy, hz⟩, ⟨hyaw, hpitch⟩, hlook⟩
  · intro data rest movement h hrest
    rw [play.decode_movement_append (except_toOption_eq_some.mp h) hrest]
    rfl

/-- Each packet's encoder and parser agree on the packet's documented limits. -/
theorem packet_codecs_agree :
    Agrees handshake.payload (fun data => (handshake.parse data).toOption) handshake.Packet.Limits ∧
    Agrees (fun start => login.start_payload start.username start.uuid)
      (fun data => (login.parse_start data).toOption) login.Start.Limits ∧
    Agrees
      (fun request => login.encryption_request_payload request.server_id request.public_key request.verify_token
        request.should_authenticate)
      (fun data => (login.parse_encryption_request data).toOption) login.EncryptionRequest.Limits ∧
    Agrees (fun response => login.encryption_response_payload response.shared_secret response.verify_token)
      (fun data => (login.parse_encryption_response data).toOption) login.EncryptionResponse.Limits ∧
    Agrees (fun command => play.player_command_payload command.entity_id command.action_id command.data)
      (fun data => (play.parse_player_command data).toOption) play.PlayerCommand.Limits ∧
    Agrees play.Movement.payload (fun data => (play.decode_movement data).toOption) play.Movement.Limits :=
  ⟨handshake_agrees, login_start_agrees, encryption_request_agrees, encryption_response_agrees, player_command_agrees,
    movement_agrees⟩

end regiongate
