import RegionGate.Server.LoginProgress

open checked execution stateful regiongate.auth regiongate.codec regiongate.configuration
open regiongate.session regiongate.transport

namespace regiongate.server.opening

section Sample

/-- Primitives that can be computed: stored blocks for zlib, and sums and copies of
the first bytes in place of the ciphers and hashes. -/
def samplePrimitives : Primitives where
  zlib := storedZlib
  aes key register := key.headD 0 + register.headD 0
  sha1 data := List.replicate 20 (data.headD 0)
  sha1_length _ := List.length_replicate
  md5 data := ⟨List.replicate 16 (data.headD 0), List.length_replicate⟩

/-- What the session server says of the player. -/
def sampleProfile : Profile := ⟨⟨List.replicate 16 17, rfl⟩, literal "Steve", []⟩

/-- A session service that knows one player. -/
def sampleService : SessionService where
  exchange _ := .ok ⟨200, literal "a document", true⟩
  decode _ := some (⟨literal "11111111-1111-1111-1111-111111111111", literal "Steve", []⟩, [])
  equal_fold name username := name = literal "Steve" && username = literal "steve"

/-- A key that decrypts nothing. -/
def sampleAuthenticator : Authenticator := new_authenticator some [1, 2, 3] sampleService

/-- The token of the sample challenge. -/
def sampleToken : VerifyToken := ⟨[1, 2, 3, 4], rfl⟩

/-- The secret that the client chooses. -/
def sampleSecret : Block := ⟨List.replicate 16 19, rfl⟩

/-- An online gateway without a status. -/
def sampleSettings : Settings := ⟨some sampleAuthenticator, none⟩

/-- A client that is admitted at every gate. -/
def sampleCircumstances : Circumstances := ⟨literal "127.0.0.1", true, some sampleToken⟩

/-- A whole login, from the handshake to the end of the configuration. -/
def sampleFrames : List Bytes :=
  [handshake.payload ⟨handshake.ProtocolVersion, [], 0, handshake.NextLogin⟩,
    login.start_payload (literal "steve") (List.replicate 16 0),
    login.encryption_response_payload sampleSecret.val sampleToken.val, [3], [2]]

/-- The sample session server knows the player by a name in another case. -/
theorem sample_joined (hash address : Bytes) :
    sampleService.has_joined (literal "steve") hash address = .ok sampleProfile := by
  have hread : sampleService.read_profile (literal "steve") ⟨200, literal "a document", true⟩ = .ok sampleProfile := by
    decide +kernel
  exact hread

/-- Who the player is taken to be. -/
def sampleIdentity : forwarding.PlayerIdentity :=
  ⟨literal "127.0.0.1", sampleProfile.uuid, sampleProfile.username, sampleProfile.properties⟩

/-- What the gateway writes during the login. -/
def sampleEvents (registry : Bytes) : List transport.Event :=
  [.Frame (request sampleAuthenticator sampleToken), .Encrypt sampleSecret sampleSecret] ++
    (welcome sampleIdentity registry).map .Frame

theorem sample_admitted {registry : Bytes} (h : registry_data_payload minimal_registry_data = .ok registry) :
    Admitted samplePrimitives sampleSettings sampleCircumstances sampleFrames (sampleEvents registry)
      sampleIdentity := by
  have hgreets : Greets (handshake.payload ⟨handshake.ProtocolVersion, [], 0, handshake.NextLogin⟩) :=
    ⟨⟨handshake.ProtocolVersion, [], 0, handshake.NextLogin⟩, by decide, rfl, rfl⟩
  have hstart : login.parse_start (login.start_payload (literal "steve") (List.replicate 16 0)) =
      .Ok ⟨literal "steve", List.replicate 16 0⟩ := by decide
  obtain ⟨hash, hhash⟩ : ∃ hash, server_hash samplePrimitives.sha1 [] sampleSecret.val sampleAuthenticator.public_key =
      .Ok hash := ⟨_, rfl⟩
  have hproves : Proves samplePrimitives sampleCircumstances sampleAuthenticator (literal "steve") sampleToken
      (login.encryption_response_payload sampleSecret.val sampleToken.val) sampleSecret sampleProfile :=
    ⟨rfl, ⟨⟨sampleSecret.val, sampleToken.val⟩, by decide, rfl, rfl⟩,
      ⟨hash, hhash, sample_joined hash sampleCircumstances.remote_host⟩⟩
  exact .intro hgreets rfl hstart (.online rfl hproves) (by decide) ⟨[], [2], rfl, by decide, by simp, by decide⟩ h

/-- The bytes of the login, in one read before and one after the encryption is on. -/
def sampleArrivals : List Bytes :=
  [plain samplePrimitives 0 (sampleFrames.take 3),
    encipher samplePrimitives.aes (some (sampleSecret.val, sampleSecret.val))
      (plain samplePrimitives 0 (sampleFrames.drop 3))]

/-- A connection that takes one byte at a time. -/
def sampleResults : List WriteResult := List.replicate 8000 ⟨1, none⟩

theorem sample_smooth {registry : Bytes} (h : registry.length = 7159) :
    Smooth samplePrimitives 0 sampleFrames (sampleEvents registry) sampleArrivals sampleResults := by
  have hpayloads : payloads (sampleEvents registry) =
      request sampleAuthenticator sampleToken :: welcome sampleIdentity registry := payloads_frames _ _
  have hlength : ∀ payload, (Dialogue.plain samplePrimitives.zlib 0 payload).length ≤ payload.length + 5 :=
    Dialogue.plain_length_le
  have hsizes : (request sampleAuthenticator sampleToken).length = 12 ∧ (login.success_profile_payload
      sampleIdentity.uuid sampleIdentity.username sampleIdentity.properties).length = 24 ∧
      finish_payload.length = 1 := by decide
  constructor
  · decide
  · intro frame hframe
    have hall : ∀ frame ∈ sampleFrames, 0 < frame.length ∧ frame.length ≤ packet_limit 0 := by decide
    exact hall frame hframe
  · rw [hpayloads]
    have hlimit : packet_limit 0 = 2097152 := rfl
    simp only [welcome, List.forall_mem_cons, Fits, hlimit]
    refine ⟨?_, ?_, ?_, ?_, by simp⟩ <;> omega
  · exact ⟨[_], [_], rfl, List.append_nil _, List.append_nil _⟩
  · intro r hr
    rw [List.eq_of_mem_replicate hr]
    exact ⟨rfl, Nat.one_pos⟩
  · rw [hpayloads]
    simp only [welcome, plain_cons, List.length_append, sampleResults, List.length_replicate]
    have hrequest := hlength (request sampleAuthenticator sampleToken)
    have hsuccess := hlength (login.success_profile_payload sampleIdentity.uuid sampleIdentity.username
      sampleIdentity.properties)
    have hregistry := hlength registry
    have hfinish := hlength finish_payload
    have hnothing : (plain samplePrimitives 0 []).length = 0 := rfl
    omega

end Sample

section Outcome

variable {p : Primitives} {settings : Settings} {c : Circumstances} {maxPacketSize : Int}

/-- A connection gets to its limbo session only through an admitted dialogue, and
everything on its wire is what that dialogue says. -/
theorem limbo_only_by_admission {arrivals : List Bytes} {results : List WriteResult} {d : Dialogue}
    {identity : forwarding.PlayerIdentity} {state : Session}
    (h : serve_conn p settings c (.start maxPacketSize arrivals results) = .ok (some (identity, state)) d) :
    Admitted p settings c d.frames d.events identity ∧ state = ⟨.LimboPlay, none⟩ ∧
      d.wire = (Dialogue.openingLine maxPacketSize).stream p.zlib p.aes maxPacketSize d.events := by
  obtain ⟨frames, events, hat, ⟨hnone, -⟩ | ⟨_, hsome, hadmitted⟩⟩ :=
    serve_conn_triple.ok (Dialogue.start_at arrivals results) h
  · cases hnone
  · cases hsome
    rw [hat.heard, hat.said]
    exact ⟨hadmitted, rfl, hat.wire⟩

theorem limbo_only_by_admission_of_steve :
    ∃ d, serve_conn samplePrimitives sampleSettings sampleCircumstances (.start 0 sampleArrivals sampleResults) =
        .ok (some (sampleIdentity, ⟨.LimboPlay, none⟩)) d ∧
      Admitted samplePrimitives sampleSettings sampleCircumstances d.frames d.events sampleIdentity := by
  obtain ⟨registry, hregistry, hlength⟩ := minimal_registry_payload
  obtain ⟨d, _, _, hrun, _⟩ := serve_conn_goes (sample_admitted hregistry) (sample_smooth hlength)
  exact ⟨d, hrun, (limbo_only_by_admission hrun).1⟩

/-- Every dialogue that admits a player, with a client and a connection that keep
to it, leads to the limbo, in whatever pieces its bytes arrive and leave. In
online mode only no piece may hold both the encryption response and something
encrypted. -/
theorem admission_reaches_limbo {frames arrivals : List Bytes} {results : List WriteResult}
    {events : List transport.Event} {identity : forwarding.PlayerIdentity}
    (hadmitted : Admitted p settings c frames events identity)
    (hsmooth : Smooth p maxPacketSize frames events arrivals results) :
    ∃ d, serve_conn p settings c (.start maxPacketSize arrivals results) =
        .ok (some (identity, ⟨.LimboPlay, none⟩)) d ∧
      d.frames = frames ∧ d.events = events ∧
      d.wire = (Dialogue.openingLine maxPacketSize).stream p.zlib p.aes maxPacketSize events := by
  obtain ⟨d, _, _, hrun, hgoing⟩ := serve_conn_goes hadmitted hsmooth
  exact ⟨d, hrun, hgoing.heard, hgoing.said, hgoing.wire⟩

theorem admission_reaches_limbo_of_steve :
    ∃ d, serve_conn samplePrimitives sampleSettings sampleCircumstances (.start 0 sampleArrivals sampleResults) =
        .ok (some (sampleIdentity, ⟨.LimboPlay, none⟩)) d ∧ d.frames = sampleFrames := by
  obtain ⟨registry, hregistry, hlength⟩ := minimal_registry_payload
  obtain ⟨d, hrun, hframes, -⟩ := admission_reaches_limbo (sample_admitted hregistry) (sample_smooth hlength)
  exact ⟨d, hrun, hframes⟩

/-- What a connection that asks for a login sees of a gateway in online mode,
however its dialogue ends: nothing, the encryption request, or the request and
then only what is encrypted under the secret of a client that has proved
itself. -/
theorem online_wire_is_secret {a : Authenticator} {arrivals : List Bytes} {results : List WriteResult} {d : Dialogue}
    {greeting : Bytes} (hmode : settings.online_authenticator = some a) (hgreets : Greets greeting)
    (hend : (∃ limbo, serve_conn p settings c (.start maxPacketSize arrivals results) = .ok limbo d) ∨
      ∃ stop, serve_conn p settings c (.start maxPacketSize arrivals results) = .error stop d)
    (hfirst : d.frames.head? = some greeting) :
    d.wire = [] ∨ ∃ token, c.random = some token ∧
      (d.wire <+: Dialogue.plain p.zlib maxPacketSize (request a token) ∨
        ∃ frame start answer secret identity registry, d.frames[1]? = some frame ∧ d.frames[2]? = some answer ∧
          login.parse_start frame = .Ok start ∧
          (∃ profile, Proves p c a start.username token answer secret profile ∧
            identity = ⟨c.remote_host, profile.uuid, profile.username, profile.properties⟩) ∧
          registry_data_payload minimal_registry_data = .ok registry ∧
          d.wire <+: Dialogue.plain p.zlib maxPacketSize (request a token) ++
            encipher p.aes (some (secret.val, secret.val))
              ((welcome identity registry).flatMap (Dialogue.plain p.zlib maxPacketSize))) := by
  obtain ⟨frames, events, hfell, hspoken⟩ := spoken_of_end hend
  obtain ⟨hframes, -, hwire⟩ := hfell
  rw [hframes] at hfirst ⊢
  cases hspoken with
  | silent => exact .inl (List.prefix_nil.mp hwire)
  | reported hparse hnext hresponse =>
    obtain rfl := Option.some.inj hfirst
    exact absurd hnext (hgreets.not_status hparse)
  | finished hreported =>
    obtain ⟨hparse, -, hnext, -, -, -⟩ := hreported
    obtain rfl := Option.some.inj hfirst
    exact absurd hnext (hgreets.not_status hparse)
  | asked hgreets' hmode' hrandom =>
    obtain rfl := Option.some.inj (hmode.symm.trans hmode')
    refine .inr ⟨_, hrandom, .inl ?_⟩
    rw [Dialogue.stream_plain] at hwire
    exact hwire
  | welcomed hgreets' hallowed hstart hidentified hregistry hbegun =>
    cases hidentified with
    | offline hmode' =>
      rw [hmode] at hmode'
      cases hmode'
    | online hmode' hproves =>
      obtain rfl := Option.some.inj (hmode.symm.trans hmode')
      have hall := hwire.trans (Dialogue.stream_prefix hbegun)
      rw [List.cons_append, List.cons_append, List.nil_append, Dialogue.stream_encrypted] at hall
      exact .inr ⟨_, hproves.random, .inr ⟨_, _, _, _, _, _, rfl, rfl, hstart, ⟨_, hproves, rfl⟩, hregistry, hall⟩⟩

theorem online_wire_is_secret_of_steve :
    ∃ d, serve_conn samplePrimitives sampleSettings sampleCircumstances (.start 0 sampleArrivals sampleResults) =
        .ok (some (sampleIdentity, ⟨.LimboPlay, none⟩)) d ∧
      (d.wire = [] ∨ ∃ token, sampleCircumstances.random = some token ∧
        (d.wire <+: Dialogue.plain storedZlib 0 (request sampleAuthenticator token) ∨
          ∃ secret : Block, ∃ hidden, d.wire <+: Dialogue.plain storedZlib 0 (request sampleAuthenticator token) ++
            encipher samplePrimitives.aes (some (secret.val, secret.val)) hidden)) := by
  obtain ⟨registry, hregistry, hlength⟩ := minimal_registry_payload
  have hadmitted := sample_admitted hregistry
  obtain ⟨d, _, _, hrun, hgoing⟩ := serve_conn_goes hadmitted (sample_smooth hlength)
  have hgreets : Greets (handshake.payload ⟨handshake.ProtocolVersion, [], 0, handshake.NextLogin⟩) :=
    ⟨⟨handshake.ProtocolVersion, [], 0, handshake.NextLogin⟩, by decide, rfl, rfl⟩
  have hfirst : d.frames.head? = some (handshake.payload ⟨handshake.ProtocolVersion, [], 0, handshake.NextLogin⟩) := by
    rw [hgoing.heard]
    rfl
  refine ⟨d, hrun, ?_⟩
  obtain hnothing | ⟨token, htoken, hrequest | ⟨_, _, _, secret, _, _, _, _, _, _, _, hwire⟩⟩ :=
    online_wire_is_secret rfl hgreets (.inl ⟨_, hrun⟩) hfirst
  · exact .inl hnothing
  · exact .inr ⟨token, htoken, .inl hrequest⟩
  · exact .inr ⟨token, htoken, .inr ⟨secret, _, hwire⟩⟩

/-- A status exchange that comes to its end has read a status handshake, a status
request and a ping, has sent the status and then the bytes of the ping, and has
begun no session. -/
theorem status_exchange_echoes {arrivals : List Bytes} {results : List WriteResult} {d : Dialogue}
    (h : serve_conn p settings c (.start maxPacketSize arrivals results) = .ok none d) :
    ∃ greeting request ping packet response body, d.frames = [greeting, request, ping] ∧
      (handshake.parse greeting = .Ok packet ∧ packet.protocol_version = handshake.ProtocolVersion ∧
        packet.next_state = handshake.NextStatus) ∧
      packet_id request = .ok (0x00, []) ∧ (packet_id ping = .ok (0x01, body) ∧ body.length = 8) ∧
      status.response_payload settings.status = .ok response ∧
      d.wire = Dialogue.plain p.zlib maxPacketSize response ++
        Dialogue.plain p.zlib maxPacketSize (append_var_int [] 0x01 ++ body) := by
  obtain ⟨frames, events, hat, ⟨-, hreported⟩ | ⟨_, hsome, -⟩⟩ :=
    serve_conn_triple.ok (Dialogue.start_at arrivals results) h
  · obtain ⟨hparse, hversion, hnext, hrequest, hping, hresponse⟩ := hreported
    obtain ⟨body, hid, hlength, hpong⟩ := status.pong_echoes_ping hping
    refine ⟨_, _, _, _, _, body, hat.heard, ⟨hparse, hversion, hnext⟩, status.parse_request_ok hrequest,
      ⟨hid, hlength⟩, hresponse, ?_⟩
    have hwire := hat.wire
    rw [hpong] at hwire
    rw [hwire]
    exact (Dialogue.stream_plains [_, _]).trans (congrArg _ (List.append_nil _))
  · cases hsome

/-- A status exchange in one read. -/
def sampleStatusArrivals : List Bytes :=
  [plain samplePrimitives 0 [handshake.payload ⟨handshake.ProtocolVersion, [], 0, handshake.NextStatus⟩, [0],
    [1, 1, 2, 3, 4, 5, 6, 7, 8]]]

theorem status_exchange_echoes_a_ping :
    ∃ d, serve_conn samplePrimitives ⟨none, some (literal "status")⟩ sampleCircumstances
        (.start 0 sampleStatusArrivals (List.replicate 40 ⟨1, none⟩)) = .ok none d ∧
      ∃ ping response body, (packet_id ping = .ok (0x01, body) ∧ body.length = 8) ∧ d.frames.getLast? = some ping ∧
        d.wire = Dialogue.plain storedZlib 0 response ++
        Dialogue.plain storedZlib 0 (append_var_int [] 0x01 ++ body) := by
  have hrun : ∃ d, serve_conn samplePrimitives ⟨none, some (literal "status")⟩ sampleCircumstances
      (.start 0 sampleStatusArrivals (List.replicate 40 ⟨1, none⟩)) = .ok none d := ⟨_, rfl⟩
  obtain ⟨d, hrun⟩ := hrun
  obtain ⟨_, _, ping, _, response, body, hframes, _, _, hping, _, hwire⟩ := status_exchange_echoes hrun
  exact ⟨d, hrun, ping, response, body, hping, by rw [hframes]; rfl, hwire⟩

end Outcome

end regiongate.server.opening
