import RegionGate.Codec.Checked

open checked regiongate.codec

namespace regiongate.login

-- The packets of the login state that the gateway knows.
def ServerboundLoginStartID : Int := 0x00
def ServerboundEncryptionResponseID : Int := 0x01
def ServerboundPluginResponseID : Int := 0x02
def ServerboundLoginAckID : Int := 0x03
def ClientboundEncryptionRequestID : Int := 0x01
def ClientboundLoginSuccessID : Int := 0x02
def ClientboundPluginRequestID : Int := 0x04

/-- The longest byte array of the encryption packets. -/
def maxEncryptionFieldSize : Nat := 1024

/-- `Start`, the name and the identifier that the client claims. -/
structure Start where
  username : Bytes
  uuid : Bytes
  deriving DecidableEq

/-- `PluginRequest`. -/
structure PluginRequest where
  message_id : Int
  channel : Bytes
  data : Bytes
  deriving DecidableEq

/-- `EncryptionRequest`. -/
structure EncryptionRequest where
  server_id : Bytes
  public_key : Bytes
  verify_token : Bytes
  should_authenticate : Bool
  deriving DecidableEq

/-- `EncryptionResponse`, both fields encrypted with the gateway's public key. -/
structure EncryptionResponse where
  shared_secret : Bytes
  verify_token : Bytes
  deriving DecidableEq

/-- A profile property; an empty signature stands for none. -/
structure Property where
  name : Bytes
  value : Bytes
  signature : Bytes
  deriving DecidableEq

/-- `readString`: like `ConsumeString`, with one error for everything. -/
def read_string (data : Bytes) (maxChars : Nat) : Outcome Error (Bytes × Nat) := do
  let (length, used) ← (consume_var_int_checked data).mapError fun _ => .LoginMalformed
  if length < 0 ∨ length > wrap64 (maxChars * 3) then .Fail .LoginMalformed
  else
    let stop := used + length.toNat
    if stop > data.length then .Fail .LoginMalformed
    else
      let value ← slice data used stop
      match rune_count value with
      | none => .Fail .LoginMalformed
      | some count => if count > maxChars then .Fail .LoginMalformed else .Ok (value, stop)

/-- `consumeByteArray`: the bytes and how many the array takes with its length. -/
def consume_byte_array (data : Bytes) (limit : Nat) : Outcome Error (Bytes × Nat) := do
  let (length, used) ← (consume_var_int_checked data).mapError fun _ => .LoginMalformed
  if length < 0 ∨ length > limit then .Fail .LoginMalformed
  else
    let stop := used + length.toNat
    if stop > data.length then .Fail .LoginMalformed
    else
      let value ← slice data used stop
      .Ok (value, stop)

/-- `appendByteArray`. -/
def append_byte_array (dst value : Bytes) : Bytes := append_var_int dst value.length ++ value

/-- `EncryptionRequestPayload`. -/
def encryption_request_payload (server_id public_key verify_token : Bytes) (should_authenticate : Bool) :
    Bytes :=
  let payload := append_var_int [] ClientboundEncryptionRequestID
  let payload := append_string payload server_id
  let payload := append_byte_array payload public_key
  let payload := append_byte_array payload verify_token
  if should_authenticate then payload ++ [1] else payload ++ [0]

/-- `ParseEncryptionRequest`. -/
def parse_encryption_request (payload : Bytes) : Outcome Error EncryptionRequest := do
  let (id, body) ← (packet_id_checked payload).mapError fun _ => .LoginMalformed
  if id ≠ ClientboundEncryptionRequestID then .Fail .LoginMalformed
  else
    let (server_id, used) ← read_string body 20
    let body ← sliceFrom body used
    let (public_key, used) ← consume_byte_array body maxEncryptionFieldSize
    let body ← sliceFrom body used
    let (verify_token, used) ← consume_byte_array body maxEncryptionFieldSize
    let body ← sliceFrom body used
    if body.length ≠ 1 then .Fail .LoginMalformed
    else
      let flag ← index body 0
      if flag > 1 then .Fail .LoginMalformed
      else .Ok { server_id, public_key, verify_token, should_authenticate := flag == 1 }

/-- `EncryptionResponsePayload`. -/
def encryption_response_payload (shared_secret verify_token : Bytes) : Bytes :=
  let payload := append_var_int [] ServerboundEncryptionResponseID
  let payload := append_byte_array payload shared_secret
  append_byte_array payload verify_token

/-- `ParseEncryptionResponse`. -/
def parse_encryption_response (payload : Bytes) : Outcome Error EncryptionResponse := do
  let (id, body) ← (packet_id_checked payload).mapError fun _ => .LoginMalformed
  if id ≠ ServerboundEncryptionResponseID then .Fail .LoginMalformed
  else
    let (shared_secret, used) ← consume_byte_array body maxEncryptionFieldSize
    let body ← sliceFrom body used
    let (verify_token, used) ← consume_byte_array body maxEncryptionFieldSize
    if used ≠ body.length then .Fail .LoginMalformed else .Ok { shared_secret, verify_token }

/-- `ParsePluginRequest`. -/
def parse_plugin_request (payload : Bytes) : Outcome Error PluginRequest := do
  let (id, body) ← (packet_id_checked payload).mapError fun _ => .LoginMalformed
  if id ≠ ClientboundPluginRequestID then .Fail .LoginMalformed
  else
    let (message_id, used) ← (consume_var_int_checked body).mapError fun _ => .LoginMalformed
    if message_id < 0 then .Fail .LoginMalformed
    else
      let body ← sliceFrom body used
      let (channel, used) ← (consume_string_checked body 32767).mapError fun _ => .LoginMalformed
      let data ← sliceFrom body used
      .Ok { message_id, channel, data }

/-- The payload tells a missing response from an empty one. -/
def plugin_response_payload (message_id : Int) (data : Option Bytes) : Bytes :=
  let payload := append_var_int [] ServerboundPluginResponseID
  let payload := append_var_int payload message_id
  match data with
  | none => payload ++ [0]
  | some data => payload ++ [1] ++ data

/-- Letters, digits and underscores, at most sixteen. -/
def valid_username (username : Bytes) : Bool :=
  username.length ≠ 0 ∧ username.length ≤ 16 ∧ username.all fun char =>
    (65 ≤ char ∧ char ≤ 90) ∨ (97 ≤ char ∧ char ≤ 122) ∨ (48 ≤ char ∧ char ≤ 57) ∨ char = 95

/-- `StartPayload`. -/
def start_payload (username uid : Bytes) : Bytes :=
  let payload := append_var_int [] ServerboundLoginStartID
  let payload := append_string payload username
  payload ++ uid

/-- `ParseStart`, which also checks the characters of the name. -/
def parse_start (payload : Bytes) : Outcome Error Start := do
  let (id, body) ← (packet_id_checked payload).mapError fun _ => .LoginMalformed
  if id ≠ ServerboundLoginStartID then .Fail .LoginMalformed
  else
    let (username, used) ← read_string body 16
    if body.length ≠ used + 16 then .Fail .LoginMalformed
    else if ¬ valid_username username then .Fail .LoginMalformed
    else
      let uuid ← sliceFrom body used
      .Ok { username, uuid }

/-- `ParseDisconnectReason`, where `component_text` is the text that
`json.Unmarshal` finds in the message, if any. -/
def parse_disconnect_reason (component_text : Bytes → Option Bytes) (payload : Bytes) :
    Outcome Error Bytes := do
  match ← packet_id_checked payload |>.caught with
  | none => .Ok []
  | some (id, body) =>
    if id ≠ 0x00 then .Ok []
    else
      match ← consume_string_checked body 32767 |>.caught with
      | none => .Ok []
      | some (message, used) =>
        if used ≠ body.length then .Ok []
        else
          match component_text message with
          | some text => if text ≠ [] then .Ok text else .Ok message
          | none => .Ok message

/-- One property of a Login Success. -/
def append_property (payload : Bytes) (property : Property) : Bytes :=
  let payload := append_string payload property.name
  let payload := append_string payload property.value
  if property.signature = [] then payload ++ [0]
  else append_string (payload ++ [1]) property.signature

/-- `SuccessProfilePayload`. -/
def success_profile_payload (uid : UUID) (username : Bytes) (properties : List Property) : Bytes :=
  let payload := append_var_int [] ClientboundLoginSuccessID
  let payload := payload ++ uid.val
  let payload := append_string payload username
  let payload := append_var_int payload properties.length
  properties.foldl append_property payload

/-- `ReadUUID`: who has logged in, from a Login Success. -/
def read_uuid (payload : Bytes) : Outcome Error (Bytes × Bytes) := do
  let (id, body) ← (packet_id_checked payload).mapError fun _ => .LoginMalformed
  if id ≠ ClientboundLoginSuccessID ∨ body.length < 16 then .Fail .LoginMalformed
  else
    let uid ← slice body 0 16
    let rest ← sliceFrom body 16
    let (username, used) ← read_string rest 16
    let rest ← sliceFrom body (16 + used)
    if rest.length = 0 then .Fail .LoginMalformed
    else
      let (properties, used_properties) ← (consume_var_int_checked rest).mapError fun _ => .LoginMalformed
      if properties ≠ 0 ∨ used_properties ≠ rest.length then .Fail .LoginMalformed
      else .Ok (uid, username)

/-- `readString` is `ConsumeString` with one error for everything. -/
theorem read_string_eq (data : Bytes) (maxChars : Nat) :
    read_string data maxChars = (consume_string_checked data maxChars).mapError fun _ => .LoginMalformed := by
  rw [consume_string_checked, read_string, consume_var_int_checked_eq]
  cases consume_var_int data with
  | error e => rfl
  | ok result =>
    obtain ⟨length, used⟩ := result
    simp only [Outcome.ofExcept_ok, Outcome.mapError_ok, Outcome.ok_bind]
    split
    · rfl
    · split
      · rfl
      · rename_i hfits
        rw [slice_ok (by omega) (by omega), Outcome.ok_bind, Outcome.ok_bind]
        cases rune_count ((data.take (used + length.toNat)).drop used) with
        | none => rfl
        | some count =>
          dsimp only
          split <;> rfl

/-- This copy of `readString` accepts what `ConsumeString` accepts. -/
theorem read_string_eq_ok {data : Bytes} {maxChars : Nat} {result : Bytes × Nat} :
    read_string data maxChars = .Ok result ↔ consume_string data maxChars = .ok result := by
  rw [read_string_eq, ← Outcome.toOption_eq_some, Outcome.toOption_mapError, Outcome.toOption_eq_some,
    consume_string_checked_eq, Outcome.ofExcept_eq_ok]

/-- A string within the limits is read back, whatever follows it. -/
theorem read_string_append {value : Bytes} {maxChars count : Nat} (hvalid : rune_count value = some count)
    (hchars : count ≤ maxChars) (hbytes : value.length ≤ maxChars * 3) (hlimit : maxChars * 3 < 2 ^ 31)
    (rest : Bytes) :
    read_string (append_string [] value ++ rest) maxChars =
      .Ok (value, (append_string [] value).length) := by
  obtain ⟨text, htext, rfl⟩ := rune_count_eq_some.mp hvalid
  have hlimited : Limited maxChars value := ⟨⟨text, htext, hchars⟩, by omega⟩
  rw [read_string_eq_ok, consume_string_iff (by omega)]
  exact stringAt_append hlimited (by omega) rest

theorem append_property_length (payload : Bytes) (property : Property) :
    payload.length < (append_property payload property).length := by
  unfold append_property
  split <;> simp [append_string, append_var_int]

theorem append_properties (properties : List Property) (payload : Bytes) :
    properties.foldl append_property payload = payload ++ properties.foldl append_property [] := by
  induction properties generalizing payload with
  | nil => simp
  | cons property properties ih =>
    have hhead : append_property payload property = payload ++ append_property [] property := by
      unfold append_property
      split <;> simp [append_string, append_var_int]
    rw [List.foldl_cons, List.foldl_cons, ih, ih (append_property [] property), hhead, List.append_assoc]

private theorem append_properties_ne_nil {properties : List Property} (h : properties ≠ []) :
    0 < (properties.foldl append_property []).length := by
  cases properties with
  | nil => exact absurd rfl h
  | cons property properties =>
    rw [List.foldl_cons, append_properties]
    have hproperty := append_property_length [] property
    rw [List.length_append]
    omega

theorem success_profile_payload_eq (uid : UUID) (username : Bytes) (properties : List Property) :
    success_profile_payload uid username properties =
      append_var_int [] ClientboundLoginSuccessID ++ (uid.val ++ (append_string [] username ++
        (append_var_int [] properties.length ++ properties.foldl append_property []))) := by
  rw [success_profile_payload, append_properties]
  simp [append_string, append_var_int]

/-- Login Success is read back exactly when it carries no profile property: the
decoder accepts an empty property list only, though the encoder writes any. -/
theorem read_uuid_success {uid : UUID} {username : Bytes} {count : Nat} (properties : List Property)
    (hvalid : rune_count username = some count) (hchars : count ≤ 16) (hbytes : username.length ≤ 48) :
    read_uuid (success_profile_payload uid username properties) =
      if properties = [] then .Ok (uid.val, username) else .Fail .LoginMalformed := by
  have huid : uid.val.length = 16 := uid.property
  rw [read_uuid, packet_id_checked_eq, success_profile_payload_eq, packet_id_append (by decide) (by decide)]
  simp only [Outcome.ofExcept_ok, Outcome.mapError_ok, Outcome.ok_bind]
  rw [if_neg (by simp [huid]), slice_ok (by omega) (by simp [huid]), Outcome.ok_bind,
    sliceFrom_ok (by simp [huid]), Outcome.ok_bind]
  have htake : (uid.val ++ (append_string [] username ++ (append_var_int [] properties.length ++
      properties.foldl append_property []))).take 16 = uid.val := List.take_left' huid
  have hdrop : (uid.val ++ (append_string [] username ++ (append_var_int [] properties.length ++
      properties.foldl append_property []))).drop 16 =
      append_string [] username ++ (append_var_int [] properties.length ++
        properties.foldl append_property []) := List.drop_left' huid
  have hrest : (uid.val ++ (append_string [] username ++ (append_var_int [] properties.length ++
      properties.foldl append_property []))).drop (16 + (append_string [] username).length) =
      append_var_int [] properties.length ++ properties.foldl append_property [] := by
    rw [← List.drop_drop, hdrop, List.drop_left]
  rw [htake, List.drop_zero, hdrop, read_string_append hvalid hchars hbytes (by decide), Outcome.ok_bind]
  dsimp only
  rw [sliceFrom_ok (by simp [huid]), Outcome.ok_bind, hrest]
  have hcount := (append_var_int_length properties.length).1
  rw [if_neg (by rw [List.length_append]; omega), consume_var_int_checked_eq, consume_append_wrapped]
  simp only [Outcome.ofExcept_ok, Outcome.mapError_ok, Outcome.ok_bind]
  by_cases hempty : properties = []
  · subst hempty
    rfl
  · have hmore := append_properties_ne_nil hempty
    rw [if_neg hempty, if_pos (.inr (by rw [List.length_append]; omega))]

end regiongate.login
