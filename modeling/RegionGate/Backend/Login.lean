import RegionGate.Forwarding.Velocity

open checked regiongate.codec regiongate.login

namespace regiongate.backend

/-- Disconnect during a login. -/
def clientboundDisconnectID : Int := 0x00

/-- Encryption Request, to which the gateway does not answer as it forwards
identities. -/
def clientboundEncryptionRequestID : Int := 0x01

/-- Set Compression. -/
def clientboundSetCompressionID : Int := 0x03

/-- `LoginResult`: whom the backend has accepted. -/
structure LoginResult where
  uuid : Bytes
  username : Bytes
  deriving DecidableEq

/-- What `CompleteLogin` does with one packet of the backend: it writes a reply
and goes on, switches compression on, or writes the acknowledgement and
returns. -/
inductive LoginReply where
  | Respond (payload : Bytes)
  | Compress (threshold : Int)
  | Acknowledge (payload : Bytes) (result : LoginResult)
  deriving DecidableEq

/-- One read of the login exchange: a frame, with the result of the write it
leads to, or an error, with the login context's error at that time. -/
inductive Received where
  | Frame (frame : Bytes) (written : Bool)
  | Failed (ctx_err : Option Error)
  deriving DecidableEq

/-- The packet switch of `CompleteLogin`. `forwarder` is the forwarder's
signature function, when there is a forwarder, and `component_text` what
JSON decoding finds in a disconnect reason. -/
def login_frame (component_text : Bytes → Option Bytes) (forwarder : Option (Bytes → Bytes))
    (identity : forwarding.PlayerIdentity) (frame : Bytes) : Outcome Error LoginReply := do
  let (id, body) ← (packet_id_checked frame).mapError fun _ => .UnexpectedLoginPacket
  if id = ClientboundPluginRequestID then
    let request ← (parse_plugin_request frame).mapError fun _ => .UnexpectedPlugin
    if request.channel ≠ forwarding.VelocityChannel then .Fail .UnexpectedPlugin
    else
      match forwarder with
      | none => .Fail .UnexpectedPlugin
      | some mac =>
        let response ← .ofExcept (forwarding.build_response mac identity)
        .Ok (.Respond (plugin_response_payload request.message_id (some response)))
  else if id = ClientboundLoginSuccessID then
    let (uuid, username) ← (read_uuid frame).mapError fun _ => .UnexpectedLoginPacket
    .Ok (.Acknowledge (append_var_int [] ServerboundLoginAckID) { uuid, username })
  else if id = clientboundDisconnectID then
    let reason ← parse_disconnect_reason component_text frame
    .Fail (.BackendDisconnected reason)
  else if id = clientboundEncryptionRequestID then .Fail .UnsupportedEncryption
  else if id = clientboundSetCompressionID then
    let (threshold, used) ← (consume_var_int_checked body).mapError fun _ => .UnexpectedLoginPacket
    if threshold < 0 ∨ used ≠ body.length then .Fail .UnexpectedLoginPacket
    else .Ok (.Compress threshold)
  else .Fail .UnexpectedLoginPacket

/-- `CompleteLogin` on the reads made so far; no result means that it still
waits for the backend. -/
def complete_login (component_text : Bytes → Option Bytes) (forwarder : Option (Bytes → Bytes))
    (identity : forwarding.PlayerIdentity) : List Received → Outcome Error (Option LoginResult)
  | [] => .Ok none
  | .Failed ctx_err :: _ => .Fail (ctx_err.getD .Read)
  | .Frame frame written :: rest => do
    match ← login_frame component_text forwarder identity frame with
    | .Respond _ =>
      if written then complete_login component_text forwarder identity rest else .Fail .Write
    | .Compress _ => complete_login component_text forwarder identity rest
    | .Acknowledge _ result => if written then .Ok (some result) else .Fail .Write

section Success

variable {component_text : Bytes → Option Bytes} {forwarder : Option (Bytes → Bytes)}
  {identity : forwarding.PlayerIdentity}

/-- Reads after which the exchange still waits decide nothing. -/
theorem complete_login_append {before after : List Received}
    (h : complete_login component_text forwarder identity before = .Ok none) :
    complete_login component_text forwarder identity (before ++ after) =
      complete_login component_text forwarder identity after := by
  induction before with
  | nil => rfl
  | cons received before ih =>
    cases received with
    | Failed ctx_err => simp [complete_login] at h
    | Frame frame written =>
      rw [List.cons_append, complete_login]
      rw [complete_login] at h
      cases hreply : login_frame component_text forwarder identity frame with
      | Panic =>
        rw [hreply] at h
        cases h
      | Fail err => simp [hreply] at h
      | Ok reply =>
        rw [hreply, Outcome.ok_bind] at h
        rw [Outcome.ok_bind]
        cases reply with
        | Respond payload =>
          cases written with
          | false => simp at h
          | true => simpa using ih (by simpa using h)
        | Compress threshold => exact ih h
        | Acknowledge payload result => cases written <;> simp at h

/-- The packet switch on a Login Success goes through `ReadUUID`. -/
private theorem login_frame_success {uid : UUID} {username : Bytes} {count : Nat}
    (properties : List Property) (hvalid : rune_count username = some count) (hchars : count ≤ 16)
    (hbytes : username.length ≤ 48) :
    login_frame component_text forwarder identity (success_profile_payload uid username properties) =
      if properties = [] then
        .Ok (.Acknowledge (append_var_int [] ServerboundLoginAckID) { uuid := uid.val, username })
      else .Fail .UnexpectedLoginPacket := by
  have hid : ∃ body, packet_id (success_profile_payload uid username properties) =
      .ok (ClientboundLoginSuccessID, body) := by
    rw [success_profile_payload_eq]
    exact ⟨_, packet_id_append (by decide) (by decide) _⟩
  obtain ⟨body, hid⟩ := hid
  have hother : ClientboundLoginSuccessID ≠ ClientboundPluginRequestID := by decide
  rw [login_frame, packet_id_checked_eq, hid]
  simp only [Outcome.ofExcept_ok, Outcome.mapError_ok, Outcome.ok_bind]
  rw [if_neg hother, if_pos trivial, read_uuid_success properties hvalid hchars hbytes]
  by_cases hempty : properties = []
  · rw [if_pos hempty, if_pos hempty]
    rfl
  · rw [if_neg hempty, if_neg hempty]
    rfl

end Success

/-- Login Success is decoded to the identifier and name it was encoded from, and
ends the login exchange, exactly when it carries no profile property. The
exchange may have gone on for any number of packets before. -/
theorem login_success_round_trip_iff (uid : UUID) {username : Bytes} {count : Nat}
    (properties : List Property) (hvalid : rune_count username = some count) (hchars : count ≤ 16)
    (hbytes : username.length ≤ 48) :
    (read_uuid (success_profile_payload uid username properties) = .Ok (uid.val, username) ↔
      properties = []) ∧
    ∀ (component_text : Bytes → Option Bytes) (forwarder : Option (Bytes → Bytes))
      (identity : forwarding.PlayerIdentity) (before after : List Received),
      complete_login component_text forwarder identity before = .Ok none →
      (complete_login component_text forwarder identity
          (before ++ .Frame (success_profile_payload uid username properties) true :: after) =
        .Ok (some { uuid := uid.val, username }) ↔ properties = []) := by
  constructor
  · rw [read_uuid_success properties hvalid hchars hbytes]
    by_cases hempty : properties = [] <;> simp [hempty]
  · intro component_text forwarder identity before after hbefore
    rw [complete_login_append hbefore, complete_login,
      login_frame_success properties hvalid hchars hbytes]
    by_cases hempty : properties = []
    · rw [if_pos hempty, Outcome.ok_bind]
      simp [hempty]
    · rw [if_neg hempty, Outcome.fail_bind]
      simp [hempty]

/-- `Steve`. -/
private def steve : Bytes := [83, 116, 101, 118, 101]

/-- An identifier for the runs below. -/
private def steveUUID : UUID := ⟨List.replicate 16 7, rfl⟩

theorem login_success_round_trip_iff_empty_profile :
    read_uuid (success_profile_payload steveUUID steve []) = .Ok (steveUUID.val, steve) :=
  (login_success_round_trip_iff steveUUID [] (show rune_count steve = some 5 by decide) (by decide)
    (by decide)).1.mpr rfl

/-- A backend that echoes the textures of an online-mode profile is refused. -/
theorem login_success_with_property_refused :
    rune_count steve = some 5 ∧
      read_uuid (success_profile_payload steveUUID steve
        [{ name := [116], value := [118], signature := [115] }]) = .Fail .LoginMalformed ∧
      complete_login (fun _ => none) (some fun _ => []) ⟨[1], steveUUID, steve, []⟩
        [.Frame (success_profile_payload steveUUID steve
          [{ name := [116], value := [118], signature := [115] }]) true] =
        .Fail .UnexpectedLoginPacket := by
  decide +kernel

end regiongate.backend
