import RegionGate.Auth.Challenge
import RegionGate.Forwarding.Velocity
import RegionGate.Protocol.Configuration
import RegionGate.Protocol.Agreement
import RegionGate.Protocol.Bounds
import RegionGate.Protocol.Registry
import RegionGate.Protocol.Status
import RegionGate.Session.Session
import RegionGate.Transport.Dialogue

open checked execution stateful regiongate.auth regiongate.codec regiongate.configuration
open regiongate.session regiongate.transport

namespace regiongate.handshake

/-- A handshake that was parsed lies within the limits of the protocol. -/
theorem parse_limits {frame : Bytes} {packet : Packet} (h : parse frame = .Ok packet) : packet.Limits := by
  have hwhole := parse_eq_whole frame
  rw [h] at hwhole
  exact ensures_packet (parsing.whole_eq_some.mp hwhole.symm)

end regiongate.handshake

namespace regiongate.login

/-- `ParseAcknowledged`: the packet has no body. -/
def parse_acknowledged (payload : Bytes) : Except Error Unit :=
  match packet_id payload with
  | .error _ => .error .LoginMalformed
  | .ok (id, body) =>
    if id ≠ ServerboundLoginAckID ∨ body.length ≠ 0 then .error .LoginMalformed else .ok ()

/-- `OfflineUUID`; `md5` is `md5.Sum`. -/
def offline_uuid (md5 : Bytes → UUID) (username : Bytes) : UUID :=
  let digest := (md5 (literal "OfflinePlayer:" ++ username)).val
  let digest' := (digest.set 6 ((digest.getD 6 0 &&& 0x0f) ||| 0x30)).set 8 ((digest.getD 8 0 &&& 0x3f) ||| 0x80)
  ⟨digest', by
    rw [List.length_set, List.length_set]
    exact (md5 (literal "OfflinePlayer:" ++ username)).property⟩

end regiongate.login

namespace regiongate.server.opening

/-- Why a connection is closed before its limbo session. -/
inductive Refusal where
  | Gateway (err : Error)
  | Auth (failure : Failure)
  | Status (err : status.StatusError)
  | ProtocolVersion
  | RateLimited
  deriving DecidableEq

/-- What the gateway takes from other libraries. -/
structure Primitives where
  zlib : Zlib
  aes : Aes
  sha1 : Bytes → Bytes
  sha1_length : ∀ data, (sha1 data).length = 20
  md5 : Bytes → UUID

/-- The configuration, with the JSON form of the status response. -/
structure Settings where
  online_authenticator : Option Authenticator
  status : Option Bytes

/-- What a connection meets: its remote host, the answer of the login limiter and
the random bytes of its verify token. -/
structure Circumstances where
  remote_host : Bytes
  allowed : Bool
  random : Option VerifyToken

/-- A dialogue with the client, which a refusal ends. -/
abbrev Opening := Talk Refusal

section

variable (p : Primitives)

/-- `ReadFrame` on the client's transport. -/
def read_frame : Opening Bytes := Dialogue.read_frame p.zlib p.aes .Gateway

/-- `writeFrame` on the client's transport. -/
def write_frame (payload : Bytes) : Opening Unit := Dialogue.write_frame p.zlib p.aes .Gateway payload

/-- The result of one of the gateway's own functions. -/
def own {α : Type} (m : Except Error α) : Opening α := Dialogue.call .Gateway (.ofExcept m)

/-- `authenticateOnline`. -/
def authenticate_online (c : Circumstances) (a : Authenticator) (username address : Bytes) :
    Opening forwarding.PlayerIdentity := do
  let challenge ← Dialogue.call .Auth (.ofExcept (a.begin_challenge c.random))
  write_frame p (login.encryption_request_payload [] challenge.public_key challenge.verify_token true)
  let frame ← read_frame p
  let response ← Dialogue.call .Gateway (login.parse_encryption_response frame)
  let (profile, secret) ← Dialogue.call .Auth
    (a.authenticate p.sha1 challenge username address response.shared_secret response.verify_token)
  Dialogue.enable_encryption .Gateway secret secret
  return { address, uuid := profile.uuid, username := profile.username, properties := profile.properties }

/-- How many packets the client may send before it acknowledges its configuration. -/
def maxClientConfigurationSetupPackets : Nat := 16

/-- `readClientConfiguration`, with the number of packets that it still reads. -/
def read_client_configuration : Nat → Opening Unit
  | 0 => own (.error .ConfigurationMalformed)
  | left + 1 => do
    let frame ← read_frame p
    let (id, _) ← own (packet_id frame)
    if id = ServerboundFinishConfigurationID then own (parse_finish_acknowledged frame)
    else do
      own (parse_client_setup frame)
      read_client_configuration left

/-- The identity of a player by the mode of the gateway. -/
def identify (settings : Settings) (c : Circumstances) (username : Bytes) : Opening forwarding.PlayerIdentity :=
  match settings.online_authenticator with
  | none =>
    return { address := c.remote_host, uuid := login.offline_uuid p.md5 username, username, properties := [] }
  | some a => authenticate_online p c a username c.remote_host

/-- `serveLogin` up to `serveLimbo`: the identity and the session that are handed
to it. -/
def serve_login (settings : Settings) (c : Circumstances) : Opening (forwarding.PlayerIdentity × Session) := do
  let state ← own (Session.new.transition .Login)
  let frame ← read_frame p
  let start ← Dialogue.call .Gateway (login.parse_start frame)
  let identity ← identify p settings c start.username
  write_frame p (login.success_profile_payload identity.uuid identity.username identity.properties)
  let frame ← read_frame p
  own (login.parse_acknowledged frame)
  let state ← own (state.transition .Configuration)
  let registry ← own (registry_data_payload minimal_registry_data)
  write_frame p registry
  write_frame p finish_payload
  read_client_configuration p (maxClientConfigurationSetupPackets + 1)
  let state ← own (state.transition .LimboPlay)
  return (identity, state)

/-- `serveStatus`: a request and its response, a ping and its pong. -/
def serve_status (settings : Settings) : Opening Unit := do
  let frame ← read_frame p
  Dialogue.call .Status (.ofExcept (status.parse_request frame))
  let response ← Dialogue.call .Status (.ofExcept (status.response_payload settings.status))
  write_frame p response
  let frame ← read_frame p
  let value ← Dialogue.call .Status (.ofExcept (status.parse_ping frame))
  write_frame p (status.pong_payload value)

/-- `serveConn` up to `serveLimbo`, or to its end after a status exchange. -/
def serve_conn (settings : Settings) (c : Circumstances) :
    Opening (Option (forwarding.PlayerIdentity × Session)) := do
  let frame ← read_frame p
  let packet ← Dialogue.call .Gateway (handshake.parse frame)
  if packet.protocol_version ≠ handshake.ProtocolVersion then Dialogue.call id (.Fail .ProtocolVersion)
  else if packet.next_state = handshake.NextStatus then do
    serve_status p settings
    return none
  else if packet.next_state = handshake.NextLogin then
    if ¬ c.allowed then Dialogue.call id (.Fail .RateLimited)
    else do
      let limbo ← serve_login p settings c
      return some limbo
  else return none

end

/-- A handshake of the served version that asks for a login. -/
def Greets (frame : Bytes) : Prop :=
  ∃ packet, handshake.parse frame = .Ok packet ∧ packet.protocol_version = handshake.ProtocolVersion ∧
    packet.next_state = handshake.NextLogin

/-- At most sixteen setup packets and the acknowledgement. -/
def Configures (frames : List Bytes) : Prop :=
  ∃ setups finish, frames = setups ++ [finish] ∧ setups.length ≤ maxClientConfigurationSetupPackets ∧
    (∀ setup ∈ setups, parse_client_setup setup = .ok ()) ∧ parse_finish_acknowledged finish = .ok ()

/-- The client answers the encryption request with a secret and the token it was
sent, and the verifier knows the session of this secret. -/
structure Proves (p : Primitives) (c : Circumstances) (a : Authenticator) (username : Bytes) (token : VerifyToken)
    (frame : Bytes) (secret : Block) (profile : Profile) : Prop where
  random : c.random = some token
  answer : ∃ response, login.parse_encryption_response frame = .Ok response ∧
    a.private_key response.shared_secret = some secret.val ∧ a.private_key response.verify_token = some token.val
  session : ∃ hash, server_hash p.sha1 [] secret.val a.public_key = .Ok hash ∧
    a.verifier username hash c.remote_host = .ok profile

/-- The packet that asks the client to prove itself. -/
def request (a : Authenticator) (token : VerifyToken) : Bytes :=
  login.encryption_request_payload [] a.public_key token.val true

/-- How the gateway comes to the identity of a player: what it reads and sends for
it. -/
inductive Identified (p : Primitives) (settings : Settings) (c : Circumstances) (username : Bytes) :
    List Bytes → List transport.Event → forwarding.PlayerIdentity → Prop where
  | offline (hmode : settings.online_authenticator = none) :
      Identified p settings c username [] [] ⟨c.remote_host, login.offline_uuid p.md5 username, username, []⟩
  | online {a : Authenticator} {token : VerifyToken} {answer : Bytes} {secret : Block} {profile : Profile}
      (hmode : settings.online_authenticator = some a) (hproves : Proves p c a username token answer secret profile) :
      Identified p settings c username [answer] [.Frame (request a token), .Encrypt secret secret]
        ⟨c.remote_host, profile.uuid, profile.username, profile.properties⟩

/-- The frames with which the gateway leads a player to the limbo. -/
def welcome (identity : forwarding.PlayerIdentity) (registry : Bytes) : List Bytes :=
  [login.success_profile_payload identity.uuid identity.username identity.properties, registry, finish_payload]

/-- The dialogues that lead to the limbo: what the client sends, what the gateway
does, and who the player is. -/
inductive Admitted (p : Primitives) (settings : Settings) (c : Circumstances) :
    List Bytes → List transport.Event → forwarding.PlayerIdentity → Prop where
  | intro {greeting frame acknowledged registry : Bytes} {start : login.Start} {answers configuration : List Bytes}
      {requests : List transport.Event} {identity : forwarding.PlayerIdentity} (hgreets : Greets greeting)
      (hallowed : c.allowed = true) (hstart : login.parse_start frame = .Ok start)
      (hidentified : Identified p settings c start.username answers requests identity)
      (hacknowledged : login.parse_acknowledged acknowledged = .ok ()) (hconfigures : Configures configuration)
      (hregistry : registry_data_payload minimal_registry_data = .ok registry) :
      Admitted p settings c (greeting :: frame :: answers ++ acknowledged :: configuration)
        (requests ++ (welcome identity registry).map .Frame) identity

/-- A finished status exchange. -/
inductive Reported (settings : Settings) : List Bytes → List transport.Event → Prop where
  | intro {greeting request ping response : Bytes} {packet : handshake.Packet} {value : Int64}
      (hparse : handshake.parse greeting = .Ok packet)
      (hversion : packet.protocol_version = handshake.ProtocolVersion)
      (hnext : packet.next_state = handshake.NextStatus)
      (hrequest : status.parse_request request = .ok ()) (hping : status.parse_ping ping = .ok value)
      (hresponse : status.response_payload settings.status = .ok response) :
      Reported settings [greeting, request, ping] [.Frame response, .Frame (status.pong_payload value)]

/-- What the gateway may have begun to send, however the dialogue ends. -/
inductive Spoken (p : Primitives) (settings : Settings) (c : Circumstances) :
    List Bytes → List transport.Event → Prop where
  | silent {frames : List Bytes} : Spoken p settings c frames []
  | reported {greeting response : Bytes} {rest : List Bytes} {packet : handshake.Packet}
      (hparse : handshake.parse greeting = .Ok packet) (hnext : packet.next_state = handshake.NextStatus)
      (hresponse : status.response_payload settings.status = .ok response) :
      Spoken p settings c (greeting :: rest) [.Frame response]
  | finished {frames : List Bytes} {events : List transport.Event} (h : Reported settings frames events) :
      Spoken p settings c frames events
  | asked {greeting : Bytes} {rest : List Bytes} {a : Authenticator} {token : VerifyToken} (hgreets : Greets greeting)
      (hmode : settings.online_authenticator = some a) (hrandom : c.random = some token) :
      Spoken p settings c (greeting :: rest) [.Frame (request a token)]
  | welcomed {greeting frame registry : Bytes} {start : login.Start} {answers rest : List Bytes}
      {requests events : List transport.Event} {identity : forwarding.PlayerIdentity} (hgreets : Greets greeting)
      (hallowed : c.allowed = true) (hstart : login.parse_start frame = .Ok start)
      (hidentified : Identified p settings c start.username answers requests identity)
      (hregistry : registry_data_payload minimal_registry_data = .ok registry)
      (hbegun : events <+: requests ++ (welcome identity registry).map .Frame) :
      Spoken p settings c (greeting :: frame :: answers ++ rest) events

section Runs

variable {p : Primitives} {settings : Settings} {c : Circumstances} {maxPacketSize : Int} {frames : List Bytes}
  {events : List transport.Event}

/-- The dialogue has read these frames and done these events. -/
def At (p : Primitives) (maxPacketSize : Int) (frames : List Bytes) (events : List transport.Event) (d : Dialogue) :
    Prop :=
  d.At p.zlib p.aes maxPacketSize frames events

/-- How a dialogue may fail. -/
def Failed (p : Primitives) (settings : Settings) (c : Circumstances) (maxPacketSize : Int) (stop : Stop Refusal)
    (d : Dialogue) : Prop :=
  stop ≠ .Panicked ∧
    ∃ frames events, d.Fell p.zlib p.aes maxPacketSize frames events ∧ Spoken p settings c frames events

theorem failed_of_fell (h : Spoken p settings c frames events) (e : Refusal) (d : Dialogue)
    (hfell : d.Fell p.zlib p.aes maxPacketSize frames events) : Failed p settings c maxPacketSize (.Failed e) d :=
  ⟨by simp, frames, events, hfell, h⟩

/-- `ReadFrame` in the dialogue: one frame more has been read, or the dialogue has
failed. -/
theorem read_triple (h : Spoken p settings c frames events) :
    Triple (At p maxPacketSize frames events) (read_frame p)
      (fun frame => At p maxPacketSize (frames ++ [frame]) events) (Failed p settings c maxPacketSize) :=
  Dialogue.read_frame_triple fun _ d hat => failed_of_fell h _ d hat.fell

/-- `writeFrame` in the dialogue: the packet has been written, or the dialogue has
failed with a part of it on the wire. -/
theorem write_triple (payload : Bytes) (h : Spoken p settings c frames (events ++ [.Frame payload])) :
    Triple (At p maxPacketSize frames events) (write_frame p payload)
      (fun _ => At p maxPacketSize frames (events ++ [.Frame payload])) (Failed p settings c maxPacketSize) :=
  Dialogue.write_frame_triple payload fun _ d hfell => failed_of_fell h _ d hfell

/-- A call that cannot panic leaves the dialogue where it is. -/
theorem call_triple {ε α : Type} {err : ε → Refusal} {m : Outcome ε α} (hsafe : m.Safe fun _ => True)
    (h : Spoken p settings c frames events) :
    Triple (At p maxPacketSize frames events) (Dialogue.call err m)
      (fun value d => m = .Ok value ∧ At p maxPacketSize frames events d) (Failed p settings c maxPacketSize) :=
  Dialogue.call_triple hsafe fun _ d hat => failed_of_fell h _ d hat.fell

theorem result_triple {ε α : Type} {err : ε → Refusal} {m : Except ε α} (h : Spoken p settings c frames events) :
    Triple (At p maxPacketSize frames events) (Dialogue.call err (.ofExcept m))
      (fun value d => m = .ok value ∧ At p maxPacketSize frames events d) (Failed p settings c maxPacketSize) := by
  refine (call_triple ?_ h).mono ?_
  · cases m <;> trivial
  · rintro value d ⟨hvalue, hat⟩
    exact ⟨Outcome.ofExcept_eq_ok.mp hvalue, hat⟩

/-- `readClientConfiguration` takes setup packets up to the acknowledgement. -/
theorem read_client_configuration_triple {left : Nat} (h : ∀ more, Spoken p settings c (frames ++ more) events) :
    Triple (At p maxPacketSize frames events) (read_client_configuration p left)
      (fun _ d => ∃ setups finish, (setups.length < left ∧ (∀ setup ∈ setups, parse_client_setup setup = .ok ()) ∧
        parse_finish_acknowledged finish = .ok ()) ∧ At p maxPacketSize (frames ++ (setups ++ [finish])) events d)
      (Failed p settings c maxPacketSize) := by
  induction left generalizing frames with
  | zero =>
    have hnow := h []
    rw [List.append_nil] at hnow
    rw [read_client_configuration, own]
    refine (result_triple hnow).mono ?_
    rintro _ d ⟨hvalue, -⟩
    cases hvalue
  | succ left ih =>
    have hnow := h []
    rw [List.append_nil] at hnow
    refine (read_triple hnow).bind fun frame => ?_
    refine (result_triple (h [frame])).bind ?_
    rintro ⟨id, body⟩
    refine .assume fun _ => .ite (fun _ => ?_) fun _ => ?_
    · refine (result_triple (h [frame])).mono ?_
      rintro _ d ⟨hfinish, hat⟩
      exact ⟨[], frame, ⟨Nat.succ_pos left, by simp, hfinish⟩, hat⟩
    · refine (result_triple (h [frame])).bind fun _ => .assume fun hsetup => ?_
      have hmore : ∀ more, Spoken p settings c (frames ++ [frame] ++ more) events := by
        intro more
        rw [List.append_assoc]
        exact h _
      refine (ih hmore).mono ?_
      rintro _ d ⟨setups, finish, ⟨hcount, hsetups, hfinish⟩, hat⟩
      refine ⟨frame :: setups, finish, ⟨Nat.succ_lt_succ hcount, ?_, hfinish⟩, ?_⟩
      · rintro setup (_ | ⟨_, hmem⟩)
        · exact hsetup
        · exact hsetups setup hmem
      · rw [List.append_assoc] at hat
        exact hat

theorem begin_challenge_ok {a : Authenticator} {random : Option VerifyToken} {challenge : Challenge}
    (h : a.begin_challenge random = .ok challenge) :
    ∃ token, random = some token ∧ challenge = ⟨a.private_key, a.public_key, token.val⟩ := by
  unfold Authenticator.begin_challenge at h
  cases random with
  | none => cases h
  | some token =>
    cases h
    exact ⟨token, rfl, rfl⟩

/-- `authenticateOnline` returns with encryption enabled, and only for a client
that has proved itself. -/
theorem authenticate_online_triple {a : Authenticator} {username greeting frame : Bytes}
    (hmode : settings.online_authenticator = some a) (hgreets : Greets greeting) :
    Triple (At p maxPacketSize [greeting, frame] []) (authenticate_online p c a username c.remote_host)
      (fun identity d => ∃ answers requests, Identified p settings c username answers requests identity ∧
        At p maxPacketSize ([greeting, frame] ++ answers) requests d)
      (Failed p settings c maxPacketSize) := by
  unfold authenticate_online
  refine (result_triple .silent).bind fun challenge => .assume fun hchallenge => ?_
  obtain ⟨token, hrandom, rfl⟩ := begin_challenge_ok hchallenge
  have hasked : ∀ rest, Spoken p settings c (greeting :: rest) [.Frame (request a token)] :=
    fun rest => .asked hgreets hmode hrandom
  refine (write_triple _ (hasked _)).bind fun _ => ?_
  refine (read_triple (hasked _)).bind fun answer => ?_
  refine (call_triple (login.parse_encryption_response_safe answer) (hasked _)).bind fun response => ?_
  refine .assume fun hresponse => ?_
  refine (call_triple ?_ (hasked _)).bind ?_
  · exact a.authenticate_safe (fun data => by rw [p.sha1_length]; decide) _ _ _ _ _
  · rintro ⟨profile, secret⟩
    refine .assume fun hprofile => ?_
    obtain ⟨hsecret, hsize, htoken, hsession⟩ := Authenticator.authenticate_eq_ok.mp hprofile
    refine (Dialogue.enable_encryption_triple hsize hsize fun _ d hat => ?_).bind fun _ => .pure fun d hat => ?_
    · exact failed_of_fell (hasked _) _ d hat.fell
    · exact ⟨[answer], _, .online hmode ⟨hrandom, ⟨response, hresponse, hsecret, htoken⟩, hsession⟩, hat⟩

/-- Online or not, a player that is identified has gone through what its mode asks
for. -/
theorem identify_triple {username greeting frame : Bytes} (hgreets : Greets greeting) :
    Triple (At p maxPacketSize [greeting, frame] []) (identify p settings c username)
      (fun identity d => ∃ answers requests, Identified p settings c username answers requests identity ∧
        At p maxPacketSize ([greeting, frame] ++ answers) requests d)
      (Failed p settings c maxPacketSize) := by
  unfold identify
  cases hmode : settings.online_authenticator with
  | none => exact .pure fun d hat => ⟨[], [], .offline hmode, hat⟩
  | some a => exact authenticate_online_triple hmode hgreets

/-- Three transitions bring a new session to Limbo. -/
theorem limbo_state {login configuration limbo : Session} (hlogin : Session.new.transition .Login = .ok login)
    (hconfiguration : login.transition .Configuration = .ok configuration)
    (hlimbo : configuration.transition .LimboPlay = .ok limbo) : limbo = ⟨.LimboPlay, none⟩ := by
  cases hlogin
  cases hconfiguration
  cases hlimbo
  rfl

/-- `serveLogin` hands over to `serveLimbo` only at the end of an admitted
dialogue. -/
theorem serve_login_triple {greeting : Bytes} (hgreets : Greets greeting) (hallowed : c.allowed = true) :
    Triple (At p maxPacketSize [greeting] []) (serve_login p settings c)
      (fun limbo d => limbo.2 = ⟨.LimboPlay, none⟩ ∧ ∃ frames events, Admitted p settings c frames events limbo.1 ∧
        At p maxPacketSize frames events d)
      (Failed p settings c maxPacketSize) := by
  unfold serve_login
  refine (result_triple .silent).bind fun state₁ => .assume fun hlogin => ?_
  refine (read_triple .silent).bind fun frame => ?_
  refine (call_triple (login.parse_start_safe frame) .silent).bind fun start => .assume fun hstart => ?_
  refine (identify_triple hgreets).bind fun identity => .exists fun answers => .exists fun requests => ?_
  refine .assume fun hidentified => ?_
  obtain ⟨registry, hregistry, -⟩ := minimal_registry_payload
  -- from here on the gateway says a beginning of its welcome
  have hspoken : ∀ said more, said ++ more = requests ++ (welcome identity registry).map .Frame →
      ∀ rest, Spoken p settings c ([greeting, frame] ++ answers ++ rest) said :=
    fun said more hall rest => .welcomed hgreets hallowed hstart hidentified hregistry ⟨more, hall⟩
  have hsuccess := hspoken (requests ++ [.Frame (login.success_profile_payload identity.uuid identity.username
    identity.properties)]) [.Frame registry, .Frame finish_payload] (by simp [welcome])
  have hdata := hspoken (requests ++ [.Frame (login.success_profile_payload identity.uuid identity.username
    identity.properties)] ++ [.Frame registry]) [.Frame finish_payload] (by simp [welcome])
  have hdone := hspoken (requests ++ [.Frame (login.success_profile_payload identity.uuid identity.username
    identity.properties)] ++ [.Frame registry] ++ [.Frame finish_payload]) [] (by simp [welcome])
  have hunread := hsuccess []
  rw [List.append_nil] at hunread
  refine (write_triple _ hunread).bind fun _ => ?_
  refine (read_triple hunread).bind fun acknowledged => ?_
  refine (result_triple (hsuccess _)).bind fun _ => .assume fun hacknowledged => ?_
  refine (result_triple (hsuccess _)).bind fun state₂ => .assume fun hconfiguration => ?_
  refine (result_triple (hsuccess _)).bind fun registry' => .assume fun hregistry' => ?_
  obtain rfl : registry = registry' := Except.ok.inj (hregistry.symm.trans hregistry')
  refine (write_triple _ (hdata _)).bind fun _ => ?_
  refine (write_triple _ (hdone _)).bind fun _ => ?_
  refine (read_client_configuration_triple fun more => ?_).bind fun _ => .exists fun setups => .exists fun finish => ?_
  · rw [List.append_assoc]
    exact hdone _
  · refine .assume fun hconfigured => ?_
    obtain ⟨hcount, hsetups, hfinish⟩ := hconfigured
    refine (result_triple ?_).bind fun state₃ => .assume fun hlimbo => .pure fun d hat => ?_
    · rw [List.append_assoc]
      exact hdone _
    · refine ⟨limbo_state hlogin hconfiguration hlimbo, _, _, .intro hgreets hallowed hstart hidentified hacknowledged
        ⟨setups, finish, rfl, Nat.le_of_lt_succ hcount, hsetups, hfinish⟩ hregistry, ?_⟩
      simpa [welcome] using hat

/-- The exchange of `serveStatus`, or a failure in it. -/
theorem serve_status_triple {greeting : Bytes} {packet : handshake.Packet}
    (hparse : handshake.parse greeting = .Ok packet) (hversion : packet.protocol_version = handshake.ProtocolVersion)
    (hnext : packet.next_state = handshake.NextStatus) :
    Triple (At p maxPacketSize [greeting] []) (serve_status p settings)
      (fun _ d => ∃ frames events, Reported settings frames events ∧ At p maxPacketSize frames events d)
      (Failed p settings c maxPacketSize) := by
  unfold serve_status
  refine (read_triple .silent).bind fun request => ?_
  refine (result_triple .silent).bind fun _ => .assume fun hrequest => ?_
  refine (result_triple .silent).bind fun response => .assume fun hresponse => ?_
  have hreported : ∀ rest, Spoken p settings c (greeting :: rest) [.Frame response] :=
    fun rest => .reported hparse hnext hresponse
  refine (write_triple response (hreported _)).bind fun _ => ?_
  refine (read_triple (hreported _)).bind fun ping => ?_
  refine (result_triple (hreported _)).bind fun value => .assume fun hping => ?_
  have hfinished := Reported.intro hparse hversion hnext hrequest hping hresponse
  exact (write_triple _ (.finished hfinished)).mono fun _ d hat => ⟨_, _, hfinished, hat⟩

/-- Every end of a connection's opening dialogue. -/
theorem serve_conn_triple :
    Triple (At p maxPacketSize [] []) (serve_conn p settings c)
      (fun limbo d => ∃ frames events, At p maxPacketSize frames events d ∧
        ((limbo = none ∧ Reported settings frames events) ∨
          ∃ identity, limbo = some (identity, ⟨.LimboPlay, none⟩) ∧ Admitted p settings c frames events identity))
      (Failed p settings c maxPacketSize) := by
  unfold serve_conn
  refine (read_triple .silent).bind fun greeting => ?_
  refine (call_triple (handshake.parse_safe greeting) .silent).bind fun packet => .assume fun hparse => ?_
  refine .ite (fun _ => ?_) fun hversion => .ite (fun hnext => ?_) fun hother =>
    .ite (fun hnext => ?_) fun hneither => ?_
  · exact (call_triple (m := .Fail Refusal.ProtocolVersion) trivial .silent).mono fun _ _ hat => by cases hat.1
  · refine (serve_status_triple hparse (not_not.mp hversion) hnext).bind fun _ => ?_
    refine .exists fun frames => .exists fun events => ?_
    exact .assume fun hreported => .pure fun d hat => ⟨frames, events, hat, .inl ⟨rfl, hreported⟩⟩
  · refine .ite (fun _ => ?_) fun hallowed => ?_
    · exact (call_triple (m := .Fail Refusal.RateLimited) trivial .silent).mono fun _ _ hat => by cases hat.1
    · refine (serve_login_triple ⟨packet, hparse, not_not.mp hversion, hnext⟩ (not_not.mp hallowed)).bind ?_
      rintro ⟨identity, state⟩
      refine .assume fun hstate => .exists fun frames => .exists fun events => .assume fun hadmitted => ?_
      exact .pure fun d hat => ⟨frames, events, hat, .inr ⟨identity, by rw [← hstate], hadmitted⟩⟩
  · exact absurd (handshake.parse_limits hparse).next_state (not_or.mpr ⟨hother, hneither⟩)

/-- However the dialogue ends, the gateway has spoken by the rules. -/
theorem spoken_of_end {arrivals : List Bytes} {results : List WriteResult} {d : Dialogue}
    (hend : (∃ limbo, serve_conn p settings c (.start maxPacketSize arrivals results) = .ok limbo d) ∨
      ∃ stop, serve_conn p settings c (.start maxPacketSize arrivals results) = .error stop d) :
    ∃ frames events, d.Fell p.zlib p.aes maxPacketSize frames events ∧ Spoken p settings c frames events := by
  have hstart : At p maxPacketSize [] [] (.start maxPacketSize arrivals results) := Dialogue.start_at arrivals results
  obtain ⟨limbo, hrun⟩ | ⟨stop, hrun⟩ := hend
  · obtain ⟨frames, events, hat, ⟨-, hreported⟩ | ⟨_, -, hadmitted⟩⟩ := serve_conn_triple.ok hstart hrun
    · exact ⟨frames, events, hat.fell, .finished hreported⟩
    · obtain ⟨hgreets, hallowed, hstart, hidentified, _, _, hregistry⟩ := hadmitted
      exact ⟨_, _, hat.fell, .welcomed hgreets hallowed hstart hidentified hregistry (List.prefix_refl _)⟩
  · exact (serve_conn_triple.error hstart hrun).2

/-- A login does not start with the handshake of a status request. -/
theorem Greets.not_status {greeting : Bytes} {packet : handshake.Packet} (h : Greets greeting)
    (hparse : handshake.parse greeting = .Ok packet) : packet.next_state ≠ handshake.NextStatus := by
  obtain ⟨packet', hparse', -, hnext⟩ := h
  obtain rfl := Outcome.Ok.inj (hparse.symm.trans hparse')
  rw [hnext]
  decide

end Runs

end regiongate.server.opening
