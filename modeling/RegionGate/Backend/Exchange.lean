import RegionGate.Backend.Login
import RegionGate.Protocol.Bounds
import RegionGate.Protocol.Grammar
import RegionGate.Transport.Limits

open checked framing parsing regiongate.codec regiongate.forwarding regiongate.login regiongate.transport

namespace regiongate.backend

/-- What a well-formed Login Success says about the player. -/
structure Profile where
  uuid : Bytes
  username : Bytes
  properties : List Property
  deriving DecidableEq

/-- The packets with which a backend can lead a login to its end. -/
inductive Packet where
  | Request (message_id : Int)
  | Compression (threshold : Int)
  | Success (profile : Profile)
  deriving DecidableEq

/-- A Login Plugin Request: message identifier, channel and the rest as data. -/
def pluginRequest : Reader UInt8 PluginRequest := do
  let message_id ← varInt
  if message_id < 0 then failure
  else
    let channel ← text 32767
    let data ← remaining
    return { message_id, channel, data }

/-- A Set Compression packet. -/
def setCompression : Reader UInt8 Int := do
  let threshold ← varInt
  if threshold < 0 then failure else return threshold

/-- A property of a profile; a flag says whether a signature follows. -/
def profileProperty : Reader UInt8 Property := do
  let name ← text 32767
  let value ← text 32767
  let signed ← one
  if signed > 1 then failure
  else if signed = 0 then return ⟨name, value, []⟩
  else
    let signature ← text 32767
    return ⟨name, value, signature⟩

/-- The properties of a profile after their number. -/
def profileProperties : Reader UInt8 (List Property) := do
  let count ← varInt
  if count < 0 then failure else times count.toNat profileProperty

/-- A Login Success with the whole profile. -/
def loginSuccess : Reader UInt8 Profile := do
  let uuid ← exactly 16
  let username ← text 16
  let properties ← profileProperties
  return { uuid, username, properties }

/-- The packets that a backend with modern forwarding may send during a login.
Anything else is not read. -/
def packet : Reader UInt8 Packet := do
  let id ← varInt
  if id = ClientboundPluginRequestID then
    let request ← pluginRequest
    if request.channel ≠ VelocityChannel then failure else return .Request request.message_id
  else if id = clientboundSetCompressionID then
    let threshold ← setCompression
    return .Compression threshold
  else if id = ClientboundLoginSuccessID then
    let profile ← loginSuccess
    return .Success profile
  else failure

/-- The packet that a frame is, when it is well formed. -/
def classify (frame : Bytes) : Option Packet := whole packet frame

section Packets

variable {frame body : Bytes} {id : Int}

/-- `ParsePluginRequest` reads what the protocol has for the packet. -/
theorem parse_plugin_request_eq_whole (hid : varInt.run frame = some (ClientboundPluginRequestID, body)) :
    (parse_plugin_request frame).toOption = whole pluginRequest body := by
  rw [parse_plugin_request, Outcome.toOption_bind, packet_id_run, hid, Option.bind_some]
  dsimp only
  rw [if_neg (by decide)]
  refine (measures_varInt _ _).bind fun message_id rest hrun => guarded_eq_whole fun _ => ?_
  simp only [sliceFrom_rest local_varInt hrun, Outcome.ok_bind]
  refine (measures_consume_string _ _ (by decide)).bind fun channel data hrun => ?_
  simp only [sliceFrom_rest (local_text 32767) hrun, Outcome.ok_bind]
  rfl

/-- What `ReadUUID` accepts after the identifier. -/
def emptyProfile : Reader UInt8 (Bytes × Bytes) := do
  let uuid ← exactly 16
  let username ← text 16
  let count ← varInt
  if count ≠ 0 then failure else return (uuid, username)

/-- `ReadUUID` reads a Login Success without properties, and no other. -/
theorem read_uuid_eq_whole (hid : varInt.run frame = some (ClientboundLoginSuccessID, body)) :
    (read_uuid frame).toOption = whole emptyProfile body := by
  rw [read_uuid, Outcome.toOption_bind, packet_id_run, hid, Option.bind_some, emptyProfile, whole_exactly_bind]
  dsimp only
  by_cases hlength : 16 ≤ body.length
  · rw [if_neg (by simp; omega), if_pos hlength, slice_ok (by omega) hlength, Outcome.ok_bind, sliceFrom_ok hlength,
      Outcome.ok_bind, List.drop_zero]
    refine (measures_text _ (by decide)).bind fun username rest hrun => ?_
    obtain ⟨written, hbody, -⟩ := local_text 16 hrun
    have hused : (body.drop 16).length - rest.length = written.length := by rw [hbody]; simp
    have hsize : body.length = 16 + written.length + rest.length := by
      have hdrop := congrArg List.length hbody
      rw [List.length_drop, List.length_append] at hdrop
      omega
    have hrest : (sliceFrom body (16 + written.length) : Outcome Error Bytes) = .Ok rest := by
      rw [sliceFrom_ok (by omega), ← List.drop_drop, hbody, List.drop_left]
    simp only [hused, hrest, Outcome.ok_bind]
    by_cases hnone : rest.length = 0
    · rw [if_pos hnone, List.length_eq_zero_iff.mp hnone]
      rfl
    · rw [if_neg hnone]
      refine (measures_varInt _ _).bind fun count rest' hrun => ?_
      have hle := local_varInt.rest_length_le hrun
      have hend : (count ≠ 0 ∨ rest.length - rest'.length ≠ rest.length) ↔ rest'.length ≠ 0 ∨ count ≠ 0 := by
        omega
      simp only [hend]
      exact ended_eq_whole
  · rw [if_pos (.inr (by omega)), if_neg hlength]
    rfl

/-- A list of properties is empty when its count is zero, and only then. -/
theorem no_properties_eq_whole (uuid username : Bytes) :
    whole (do
        let count ← varInt
        if count ≠ 0 then failure else return (uuid, username)) body =
      (whole (do
        let properties ← profileProperties
        return ({ uuid, username, properties } : Profile)) body).bind fun profile =>
          if profile.properties = [] then some (profile.uuid, profile.username) else none := by
  rw [profileProperties, bind_assoc, whole_bind, whole_bind]
  cases varInt.run body with
  | none => rfl
  | some read =>
    obtain ⟨count, rest⟩ := read
    simp only [Option.bind_some]
    by_cases hzero : count = 0
    · subst hzero
      cases rest <;> rfl
    · rw [if_pos hzero]
      by_cases hnegative : count < 0
      · rw [if_pos hnegative]
        rfl
      · rw [if_neg hnegative, whole_bind]
        cases hrun : (times count.toNat profileProperty).run rest with
        | none => rfl
        | some read =>
          have hany : Ensures profileProperty fun _ => True := fun _ _ _ _ => trivial
          have hlength := (ensures_times _ hany hrun).1
          have hsome : read.1 ≠ [] := by
            intro hnone
            simp only [hnone, List.length_nil] at hlength
            omega
          simp only [Option.bind_some, whole_pure]
          split
          · rfl
          · simp only [Option.bind_some, if_neg hsome]
            rfl

/-- It is the profile without properties. -/
theorem emptyProfile_eq_whole :
    whole emptyProfile body = (whole loginSuccess body).bind fun profile =>
      if profile.properties = [] then some (profile.uuid, profile.username) else none := by
  rw [emptyProfile, loginSuccess, whole_bind, whole_bind]
  cases (exactly 16).run body with
  | none => rfl
  | some read =>
    simp only [Option.bind_some]
    rw [whole_bind, whole_bind]
    cases (text 16).run read.2 with
    | none => rfl
    | some read' => exact no_properties_eq_whole read.1 read'.1

/-- The branch of `CompleteLogin` for Set Compression reads what the protocol has for
it. -/
theorem compression_eq_whole :
    (((consume_var_int_checked body).mapError fun _ => Error.UnexpectedLoginPacket) >>= fun read =>
      if read.1 < 0 ∨ read.2 ≠ body.length then .Fail .UnexpectedLoginPacket
      else .Ok (LoginReply.Compress read.1)).toOption =
      (whole setCompression body).map .Compress := by
  have hwhole : (whole setCompression body).map LoginReply.Compress =
      whole (do let threshold ← varInt; if threshold < 0 then failure else pure (.Compress threshold)) body := by
    rw [setCompression, whole_checked, whole_checked, Option.map_bind]
    congr 1
    funext threshold
    dsimp only [Function.comp]
    split <;> rfl
  rw [hwhole]
  refine (measures_varInt _ _).bind fun threshold rest hrun => ?_
  have hle := local_varInt.rest_length_le hrun
  have hend : (threshold < 0 ∨ body.length - rest.length ≠ body.length) ↔ rest.length ≠ 0 ∨ threshold < 0 := by
    omega
  simp only [hend]
  exact ended_eq_whole

/-- The threshold of a Set Compression is not negative. -/
theorem compression_nonneg {threshold : Int} (h : classify frame = some (.Compression threshold)) :
    0 ≤ threshold := by
  have hensures : Ensures packet fun packet => ∀ threshold, packet = .Compression threshold → 0 ≤ threshold := by
    refine .skip fun id => ?_
    split
    · exact .skip fun request => .guarded fun _ => .pure (by rintro _ ⟨⟩)
    · split
      · refine .bind (.skip fun threshold => .guarded fun hthreshold => .pure (Int.not_lt.mp hthreshold)) ?_
        intro threshold hthreshold
        exact .pure (by rintro _ ⟨⟩; exact hthreshold)
      · split
        · exact .skip fun profile => .pure (by rintro _ ⟨⟩)
        · rintro input packet rest ⟨⟩
  exact hensures (whole_eq_some.mp h) threshold rfl

end Packets

/-- The signed data of a player, as `BuildResponse` makes it. -/
def forwarded (mac : Bytes → Bytes) (identity : PlayerIdentity) : Bytes :=
  mac (payload identity) ++ payload identity

/-- The reply to a packet, with the forwarded data that a request asks for. A
profile with properties has none. -/
def Packet.reply (response : Bytes) : Packet → Option LoginReply
  | .Request message_id => some (.Respond (plugin_response_payload message_id (some response)))
  | .Compression threshold => some (.Compress threshold)
  | .Success profile =>
    if profile.properties = [] then
      some (.Acknowledge (append_var_int [] ServerboundLoginAckID) ⟨profile.uuid, profile.username⟩)
    else none

section Frames

variable {component_text : Bytes → Option Bytes} {mac : Bytes → Bytes} {identity : PlayerIdentity}
  {frame body : Bytes}

theorem login_frame_safe :
    (login_frame component_text (some mac) identity frame).Safe fun _ => True := by
  unfold login_frame
  apply (safe_packet_id _ frame).bind
  rintro ⟨id, body⟩ _
  dsimp only
  split
  · apply ((parse_plugin_request_safe frame).mapError _).bind
    intro request _
    apply Outcome.Safe.guarded
    intro _
    exact (Outcome.safe_ofExcept fun _ _ => trivial).bind fun _ _ => trivial
  · split
    · exact ((read_uuid_safe frame).mapError _).bind fun _ _ => trivial
    · split
      · exact (parse_disconnect_reason_safe component_text frame).bind fun _ _ => trivial
      · split
        · trivial
        · split
          · apply (safe_consume_var_int _ body).bind
            intro _ _
            exact Outcome.Safe.guarded fun _ => trivial
          · trivial

/-- `CompleteLogin` goes on with the well-formed packets, except for a Login
Success with properties. -/
theorem login_frame_eq (haddress : identity.address ≠ []) (husername : identity.username ≠ []) :
    (login_frame component_text (some mac) identity frame).toOption =
      (classify frame).bind (Packet.reply (forwarded mac identity)) := by
  rw [login_frame, Outcome.toOption_bind, packet_id_run, classify, packet, whole_bind, Option.bind_assoc]
  cases hrun : varInt.run frame with
  | none => rfl
  | some read =>
    obtain ⟨id, body⟩ := read
    simp only [Option.bind_some]
    by_cases hrequest : id = ClientboundPluginRequestID
    · subst hrequest
      rw [if_pos rfl, if_pos rfl, whole_checked, Option.bind_assoc, ← parse_plugin_request_eq_whole hrun,
        Outcome.toOption_bind, Outcome.toOption_mapError, build_response_eq haddress husername]
      cases (parse_plugin_request frame).toOption with
      | none => rfl
      | some request =>
        simp only [Option.bind_some]
        split <;> rfl
    rw [if_neg hrequest, if_neg hrequest]
    by_cases hsuccess : id = ClientboundLoginSuccessID
    · subst hsuccess
      rw [if_pos rfl, if_neg (by decide), if_pos rfl, whole_map, Outcome.toOption_bind, Outcome.toOption_mapError,
        read_uuid_eq_whole hrun, emptyProfile_eq_whole]
      cases whole loginSuccess body with
      | none => rfl
      | some profile =>
        simp only [Option.map_some, Option.bind_some, Packet.reply]
        split <;> rfl
    rw [if_neg hsuccess]
    by_cases hcompression : id = clientboundSetCompressionID
    · subst hcompression
      rw [if_neg (by decide), if_neg (by decide), if_pos rfl, if_pos rfl, whole_map]
      refine compression_eq_whole.trans ?_
      cases whole setCompression body <;> rfl
    · rw [if_neg hcompression, if_neg hcompression, if_neg hsuccess]
      split
      · rw [Outcome.toOption_bind]
        cases (parse_disconnect_reason component_text frame).toOption <;> rfl
      · split <;> rfl

/-- A frame that the protocol has is answered as it asks. -/
theorem login_frame_ok (haddress : identity.address ≠ []) (husername : identity.username ≠ []) {packet : Packet}
    {reply : LoginReply} (hpacket : classify frame = some packet)
    (hreply : packet.reply (forwarded mac identity) = some reply) :
    login_frame component_text (some mac) identity frame = .Ok reply := by
  rw [← Outcome.toOption_eq_some, login_frame_eq haddress husername, hpacket]
  exact hreply

theorem login_frame_fails (haddress : identity.address ≠ []) (husername : identity.username ≠ [])
    (hnone : (classify frame).bind (Packet.reply (forwarded mac identity)) = none) :
    ∃ err, login_frame component_text (some mac) identity frame = .Fail err := by
  have hresult : (login_frame component_text (some mac) identity frame).toOption = none := by
    rw [login_frame_eq haddress husername, hnone]
  cases hframe : login_frame component_text (some mac) identity frame with
  | Ok reply =>
    rw [hframe] at hresult
    cases hresult
  | Fail err => exact ⟨err, rfl⟩
  | Panic => exact absurd hframe login_frame_safe.ne_panic

end Frames

/-- `CompleteLogin` between two reads: its transport, what the backend sends
until it closes the connection, and what was written. -/
structure Exchange where
  transport : Transport
  input : Bytes
  output : Bytes
  deriving DecidableEq

namespace Exchange

variable (component_text : Bytes → Option Bytes) (forwarder : Option (Bytes → Bytes)) (identity : PlayerIdentity)
  (zlib : Zlib)

/-- `Transport.WriteFrame` on a connection that takes all of the data. -/
def write_frame (e : Exchange) (payload : Bytes) : Except Error Exchange :=
  match e.transport.format.frame_writes zlib payload with
  | .error err => .error err
  | .ok writes => .ok { e with output := e.output ++ writes.flatten }

/-- One round of the loop of `CompleteLogin`: it goes on, or returns. -/
def next (e : Exchange) : Exchange ⊕ (Exchange × Outcome Error LoginResult) :=
  match feed (e.transport.format.read_byte zlib) Framer.read_start e.input with
  | .inl _ => .inr ({ e with input := [] }, .Fail .Read)
  | .inr (.Fail _, rest) => .inr ({ e with input := rest }, .Fail .Read)
  | .inr (.Panic, rest) => .inr ({ e with input := rest }, .Panic)
  | .inr (.Ok frame, rest) =>
    let e := { e with input := rest }
    match login_frame component_text forwarder identity frame with
    | .Panic => .inr (e, .Panic)
    | .Fail err => .inr (e, .Fail err)
    | .Ok (.Respond payload) =>
      match e.write_frame zlib payload with
      | .error _ => .inr (e, .Fail .Write)
      | .ok e => .inl e
    | .Ok (.Compress threshold) =>
      match e.transport.enable_compression threshold with
      | .error err => .inr (e, .Fail err)
      | .ok transport => .inl { e with transport }
    | .Ok (.Acknowledge payload result) =>
      match e.write_frame zlib payload with
      | .error _ => .inr (e, .Fail .Write)
      | .ok e => .inr (e, .Ok result)

/-- The loop; every round that goes on takes at least one byte. -/
def complete : (rounds : Nat) → Exchange → Exchange × Outcome Error LoginResult
  | 0, e => (e, .Fail .Read)
  | rounds + 1, e =>
    match e.next component_text forwarder identity zlib with
    | .inl e => complete rounds e
    | .inr result => result

/-- `CompleteLogin` on a backend that sends these bytes and closes. -/
def complete_login (t : Transport) (input : Bytes) : Exchange × Outcome Error LoginResult :=
  complete component_text forwarder identity zlib input.length { transport := t, input, output := [] }

end Exchange

end regiongate.backend
