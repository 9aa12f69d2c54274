import Mathlib.Data.List.TakeWhile
import RegionGate.Backend.Exchange

open checked framing regiongate.codec regiongate.forwarding regiongate.login regiongate.transport

namespace regiongate.backend

/-- A packet that may come before Login Success. -/
def isPrelude (frame : Bytes) : Bool :=
  match classify frame with
  | some (.Request _) => true
  | some (.Compression _) => true
  | _ => false

/-- The message identifier of a plugin request. -/
def requested (frame : Bytes) : Option Int :=
  match classify frame with
  | some (.Request message_id) => some message_id
  | _ => none

/-- The transport from a frame on: Set Compression changes its format. -/
def after (t : Transport) (frame : Bytes) : Transport :=
  match classify frame with
  | some (.Compression threshold) => (t.enable_compression threshold).toOption.getD t
  | _ => t

/-- The backend sends these frames and closes: each one is read whole, in the
format that the frames before it have set. -/
inductive Arrives (zlib : Zlib) : Transport → Bytes → List Bytes → Prop
  | nil {t : Transport} : Arrives zlib t [] []
  | cons {t : Transport} {input frame rest : Bytes} {frames : List Bytes}
      (hread : feed (t.format.read_byte zlib) Framer.read_start input = .inr (.Ok frame, rest))
      (hrest : Arrives zlib (after t frame) rest frames) : Arrives zlib t input (frame :: frames)

/-- Every frame with the format in force when it is read. -/
def governed : Transport → List Bytes → List (Format × Bytes)
  | _, [] => []
  | t, frame :: frames => (t.format, frame) :: governed (after t frame) frames

/-- One response to each plugin request, with its message identifier and in the
format in force. -/
def responses (response : Bytes) (t : Transport) (frames : List Bytes) : List (Format × Bytes) :=
  (governed t frames).filterMap fun read =>
    (requested read.2).map fun message_id => (read.1, plugin_response_payload message_id (some response))

/-- The bytes of packets that are written each in its format. -/
def wire (zlib : Zlib) (packets : List (Format × Bytes)) : Bytes :=
  packets.flatMap fun packet => packet.1.encode zlib packet.2

/-- Login Acknowledged, the last packet that the gateway sends in the login state. -/
def acknowledged : Bytes := append_var_int [] ServerboundLoginAckID

/-- The frames begin with plugin requests and Set Compression packets and a
Login Success after them. -/
structure Begins (frames before : List Bytes) (profile : Profile) : Prop where
  split : ∃ success rest, frames = before ++ success :: rest ∧ classify success = some (.Success profile)
  before : ∀ frame ∈ before, isPrelude frame = true

/-- What the login exchange is to do with a sequence of frames. -/
structure Conformant (zlib : Zlib) (response : Bytes) (t : Transport) (frames : List Bytes)
    (result : Exchange × Outcome Error LoginResult) : Prop where
  succeeds : ∀ before profile, Begins frames before profile →
    result.2 = .Ok ⟨profile.uuid, profile.username⟩ ∧
      result.1.output =
        wire zlib (responses response t before ++ [((before.foldl after t).format, acknowledged)])
  fails : (∀ before profile, ¬ Begins frames before profile) →
    (∃ err, result.2 = .Fail err) ∧
      result.1.output = wire zlib (responses response t (frames.takeWhile isPrelude))

/-- Every `WriteFrame` of a transport with this packet limit takes the payload. -/
def Fits (zlib : Zlib) (maxPacketSize : Int) (payload : Bytes) : Prop :=
  ∀ format : Format, format.Made maxPacketSize → ∃ writes, format.frame_writes zlib payload = .ok writes

/-- What the exchange is given: a complete identity, and a packet limit with
room for the responses. -/
structure Provided (zlib : Zlib) (mac : Bytes → Bytes) (identity : PlayerIdentity) (maxPacketSize : Int) : Prop where
  address : identity.address ≠ []
  username : identity.username ≠ []
  limit : maxPacketSize < 2 ^ 63
  responses : ∀ message_id, Fits zlib maxPacketSize
    (plugin_response_payload message_id (some (forwarded mac identity)))

section Wire

variable {zlib : Zlib} {response : Bytes} {t : Transport} {frame : Bytes} {before frames : List Bytes}

theorem wire_append (packets packets' : List (Format × Bytes)) :
    wire zlib (packets ++ packets') = wire zlib packets ++ wire zlib packets' :=
  List.flatMap_append

theorem responses_cons : responses response t (frame :: frames) =
    responses response t [frame] ++ responses response (after t frame) frames := by
  rw [responses, governed, List.filterMap_cons]
  cases hrequested : requested frame <;> simp [responses, governed, hrequested]

/-- The acknowledgement is so short that it can be written under any limit. -/
theorem acknowledged_fits {maxPacketSize : Int} (hint : maxPacketSize < 2 ^ 63) :
    Fits zlib maxPacketSize acknowledged := by
  have hlength : acknowledged.length = 1 := by decide
  have hpositive : 0 < packet_limit maxPacketSize := by
    rw [← new_framer_limit]
    exact (new_framer maxPacketSize).positive
  intro format hmade
  unfold Format.frame_writes
  cases hcompression : format.compression with
  | none =>
    refine ⟨_, Framer.write_frame_eq_ok.mpr ⟨by omega, ?_, rfl⟩⟩
    rw [hmade.framer, new_framer_limit]
    omega
  | some c =>
    obtain ⟨threshold, hstate⟩ := hmade.compression c hcompression
    obtain ⟨_, _, hmax, hframer⟩ := new_compression_state_ok.mp hstate
    by_cases hroom : packet_limit maxPacketSize + packet_limit maxPacketSize / 1000 + 69 < 2 ^ 63
    · exact CompressionState.write_frame_ok (new_compression_state_wire hstate hroom) (by omega) (by omega)
    · -- The wire limit has overflowed and is the default.
      have hlimit : packet_limit maxPacketSize < 2 ^ 63 := by
        unfold packet_limit
        split
        · decide
        · omega
      have hnegative := wire_limit_wrapped hlimit (by omega)
      have hwire : c.wire_framer.max_packet_size = 2097152 := by
        rw [hframer, new_framer_limit, packet_limit, if_pos (by omega)]
        rfl
      obtain ⟨hsome, hle⟩ := CompressionState.wire_length zlib c acknowledged
      exact ⟨_, CompressionState.write_frame_eq_ok.mpr
        ⟨by omega, by omega, Framer.write_frame_eq_ok.mpr ⟨hsome, by omega, rfl⟩⟩⟩

end Wire

section Transports

variable {t : Transport} {frame : Bytes}

/-- The transport after a Set Compression is the one that `EnableCompression` makes. -/
theorem after_of_compression {threshold : Int} (h : classify frame = some (.Compression threshold)) :
    t.enable_compression threshold = .ok (after t frame) := by
  have hnonneg := compression_nonneg h
  rw [after, h]
  dsimp only
  rw [Transport.enable_compression, new_compression_state, if_neg (by omega)]
  rfl

/-- What a frame does to the transport: nothing, or it sets a compression state
that was made for the transport's limit. -/
theorem after_cases (t : Transport) (frame : Bytes) :
    after t frame = t ∨ ∃ threshold c, new_compression_state threshold t.max_packet_size = .ok c ∧
      after t frame = { t with format := { t.format with compression := some c } } := by
  unfold after
  split
  · rename_i threshold _
    unfold Transport.enable_compression
    cases hstate : new_compression_state threshold t.max_packet_size with
    | error err => exact .inl rfl
    | ok c => exact .inr ⟨threshold, c, hstate, rfl⟩
  · exact .inl rfl

/-- The packets of a login leave a transport with a format that the code can make. -/
theorem made_after (hmade : t.format.Made t.max_packet_size) :
    (after t frame).max_packet_size = t.max_packet_size ∧ (after t frame).format.Made t.max_packet_size := by
  obtain hsame | ⟨threshold, c, hstate, hafter⟩ := after_cases t frame
  · rw [hsame]
    exact ⟨rfl, hmade⟩
  · rw [hafter]
    refine ⟨rfl, hmade.framer, ?_⟩
    rintro _ ⟨⟩
    exact ⟨threshold, hstate⟩

/-- The packets of a login leave a transport with a valid format. -/
theorem valid_after {limit : Nat} (hlimit : t.max_packet_size = limit) (hvalid : t.format.Valid limit) :
    (after t frame).max_packet_size = limit ∧ (after t frame).format.Valid limit := by
  obtain hsame | ⟨threshold, c, hstate, hafter⟩ := after_cases t frame
  · rw [hsame]
    exact ⟨hlimit, hvalid⟩
  · have hsmall := hvalid.small
    have hpacket : packet_limit t.max_packet_size = limit := by
      have hpositive := t.format.framer.positive
      have hframer := hvalid.framer
      rw [packet_limit, hlimit, if_neg (by omega), Int.toNat_natCast]
    obtain ⟨hsized, hmax⟩ := new_compression_state_sized hstate (by omega)
    rw [hafter]
    refine ⟨hlimit, hsmall, hvalid.framer, ?_⟩
    rintro _ ⟨⟩
    exact ⟨hsized, hmax.trans hpacket⟩

/-- A backend that keeps to the formats gets all of its frames across. -/
theorem arrives_governed (zlib : Zlib) {limit : Nat} {frames : List Bytes} (hlimit : t.max_packet_size = limit)
    (hvalid : t.format.Valid limit) (hframes : ∀ frame ∈ frames, 0 < frame.length ∧ frame.length ≤ limit) :
    Arrives zlib t (wire zlib (governed t frames)) frames := by
  induction frames generalizing t with
  | nil => exact .nil
  | cons frame frames ih =>
    obtain ⟨hsome, hfits⟩ := hframes frame (by simp)
    obtain ⟨hlimitAfter, hvalidAfter⟩ : (after t frame).max_packet_size = limit ∧ _ := valid_after hlimit hvalid
    refine .cons ((Format.complete_encode zlib hvalid hsome hfits).append _) ?_
    exact ih hlimitAfter hvalidAfter fun frame hmem => hframes frame (by simp [hmem])

end Transports

namespace Exchange

section Rounds

variable (component_text : Bytes → Option Bytes) {mac : Bytes → Bytes} {identity : PlayerIdentity} {zlib : Zlib}
  {t : Transport} {input rest output frame : Bytes}

/-- A packet that fits in every format is written. -/
theorem write_frame_of_fits {maxPacketSize : Int} {packet : Bytes} (hmade : t.format.Made maxPacketSize)
    (hfits : Fits zlib maxPacketSize packet) :
    (⟨t, rest, output⟩ : Exchange).write_frame zlib packet = .ok ⟨t, rest, output ++ t.format.encode zlib packet⟩ := by
  obtain ⟨writes, hwrites⟩ := hfits t.format hmade
  simp only [write_frame, Format.encode, hwrites]

/-- A plugin request is answered in the format in force, and Set Compression
changes the format. -/
theorem next_prelude (hprovided : Provided zlib mac identity t.max_packet_size)
    (hmade : t.format.Made t.max_packet_size)
    (hread : feed (t.format.read_byte zlib) Framer.read_start input = .inr (.Ok frame, rest))
    (hprelude : isPrelude frame = true) :
    (⟨t, input, output⟩ : Exchange).next component_text (some mac) identity zlib =
      .inl ⟨after t frame, rest,
        output ++ wire zlib (responses (forwarded mac identity) t [frame])⟩ := by
  rw [next, hread]
  dsimp only
  unfold isPrelude at hprelude
  split at hprelude
  · rename_i message_id hpacket
    have hafter : after t frame = t := by rw [after, hpacket]
    have hrequested : requested frame = some message_id := by rw [requested, hpacket]
    rw [login_frame_ok hprovided.address hprovided.username hpacket rfl]
    dsimp only
    rw [write_frame_of_fits hmade (hprovided.responses message_id), hafter]
    simp [responses, governed, hrequested, wire]
  · rename_i threshold hpacket
    have hrequested : requested frame = none := by rw [requested, hpacket]
    rw [login_frame_ok hprovided.address hprovided.username hpacket rfl]
    dsimp only
    rw [after_of_compression hpacket]
    simp [responses, governed, hrequested, wire]
  · cases hprelude

/-- A Login Success without properties ends the login with an acknowledgement. -/
theorem next_success (hprovided : Provided zlib mac identity t.max_packet_size)
    (hmade : t.format.Made t.max_packet_size)
    (hread : feed (t.format.read_byte zlib) Framer.read_start input = .inr (.Ok frame, rest))
    {profile : Profile} (hpacket : classify frame = some (.Success profile)) (hnone : profile.properties = [])
    (output : Bytes) :
    (⟨t, input, output⟩ : Exchange).next component_text (some mac) identity zlib =
      .inr (⟨t, rest, output ++ t.format.encode zlib acknowledged⟩, .Ok ⟨profile.uuid, profile.username⟩) := by
  have hreply : Packet.reply (forwarded mac identity) (.Success profile) =
      some (.Acknowledge acknowledged ⟨profile.uuid, profile.username⟩) := if_pos hnone
  rw [next, hread]
  dsimp only
  rw [login_frame_ok hprovided.address hprovided.username hpacket hreply]
  dsimp only
  rw [write_frame_of_fits hmade (acknowledged_fits hprovided.limit)]

/-- Any other frame ends the exchange, and nothing is written. -/
theorem next_refused {maxPacketSize : Int} (hprovided : Provided zlib mac identity maxPacketSize)
    (hread : feed (t.format.read_byte zlib) Framer.read_start input = .inr (.Ok frame, rest))
    (hprelude : isPrelude frame = false)
    (hprofile : ∀ profile, classify frame = some (.Success profile) → profile.properties ≠ [])
    (output : Bytes) :
    ∃ err, (⟨t, input, output⟩ : Exchange).next component_text (some mac) identity zlib =
      .inr (⟨t, rest, output⟩, .Fail err) := by
  have hnone : (classify frame).bind (Packet.reply (forwarded mac identity)) = none := by
    unfold isPrelude at hprelude
    cases hpacket : classify frame with
    | none => rfl
    | some packet =>
      rw [hpacket] at hprelude
      cases packet with
      | Request message_id => cases hprelude
      | Compression threshold => cases hprelude
      | Success profile => exact if_neg (hprofile profile hpacket)
  obtain ⟨err, herr⟩ : ∃ err, login_frame component_text (some mac) identity frame = .Fail err :=
    login_frame_fails hprovided.address hprovided.username hnone
  refine ⟨err, ?_⟩
  rw [next, hread]
  dsimp only
  rw [herr]

/-- A backend that has closed leads to a failed read. -/
theorem complete_closed (forwarder : Option (Bytes → Bytes)) (rounds : Nat) :
    complete component_text forwarder identity zlib rounds ⟨t, [], output⟩ = (⟨t, [], output⟩, .Fail .Read) := by
  cases rounds <;> rfl

/-- The loop stops at the first frame that ends the login. -/
theorem complete_of_returns {forwarder : Option (Bytes → Bytes)} {rounds : Nat}
    {result : Exchange × Outcome Error LoginResult}
    (hread : feed (t.format.read_byte zlib) Framer.read_start input = .inr (.Ok frame, rest))
    (hrounds : input.length ≤ rounds)
    (hnext : (⟨t, input, output⟩ : Exchange).next component_text forwarder identity zlib = .inr result) :
    complete component_text forwarder identity zlib rounds ⟨t, input, output⟩ = result := by
  have hconsumed := feed_consumes hread
  obtain ⟨rounds, rfl⟩ : ∃ n, rounds = n + 1 := ⟨rounds - 1, by omega⟩
  rw [complete, hnext]

/-- The rounds up to a frame that is no prelude. -/
theorem complete_prelude {before frames : List Bytes} {rounds : Nat}
    (hprovided : Provided zlib mac identity t.max_packet_size) (hmade : t.format.Made t.max_packet_size)
    (hprelude : ∀ frame ∈ before, isPrelude frame = true) (harrives : Arrives zlib t input (before ++ frames))
    (hrounds : input.length ≤ rounds) (output : Bytes) :
    ∃ t' input' rounds', t' = before.foldl after t ∧ t'.max_packet_size = t.max_packet_size ∧
      t'.format.Made t.max_packet_size ∧ Arrives zlib t' input' frames ∧ input'.length ≤ rounds' ∧
      complete component_text (some mac) identity zlib rounds ⟨t, input, output⟩ =
        complete component_text (some mac) identity zlib rounds' ⟨t', input',
          output ++ wire zlib (responses (forwarded mac identity) t before)⟩ := by
  induction before generalizing t input rounds output with
  | nil =>
    refine ⟨t, input, rounds, rfl, rfl, hmade, harrives, hrounds, ?_⟩
    rw [responses, governed, List.filterMap_nil, wire, List.flatMap_nil, List.append_nil]
  | cons frame before ih =>
    cases harrives with
    | @cons _ _ _ rest _ hread hrest =>
      have hconsumed := feed_consumes hread
      obtain ⟨rounds, rfl⟩ : ∃ n, rounds = n + 1 := ⟨rounds - 1, by omega⟩
      obtain ⟨hlimit, hmadeAfter⟩ : (after t frame).max_packet_size = t.max_packet_size ∧ _ := made_after hmade
      obtain ⟨t', input', rounds', hfold, hlimit', hmade', harrives', hrounds', hcomplete⟩ :=
        ih (hlimit ▸ hprovided) (hlimit ▸ hmadeAfter) (fun frame hmem => hprelude frame (by simp [hmem])) hrest
          (show rest.length ≤ rounds by omega)
          (output ++ wire zlib (responses (forwarded mac identity) t [frame]))
      refine ⟨t', input', rounds', hfold, hlimit'.trans hlimit, hlimit ▸ hmade', harrives', hrounds', ?_⟩
      have hresponses : responses (forwarded mac identity) t (frame :: before) =
          responses (forwarded mac identity) t [frame] ++
            responses (forwarded mac identity) (after t frame) before := responses_cons
      rw [complete, next_prelude component_text hprovided hmade hread (hprelude frame (by simp))]
      dsimp only
      rw [hcomplete, hresponses, wire_append, List.append_assoc]

end Rounds

end Exchange

section Conformance

variable (component_text : Bytes → Option Bytes) {mac : Bytes → Bytes} {identity : PlayerIdentity} {zlib : Zlib}
  {t : Transport} {input : Bytes} {before frames : List Bytes}

/-- A Login Success after the prelude is acknowledged, when it has no
properties; with properties it fails like any other frame. -/
theorem complete_success (hprovided : Provided zlib mac identity t.max_packet_size)
    (hmade : t.format.Made t.max_packet_size) (harrives : Arrives zlib t input frames) {profile : Profile}
    (hbegins : Begins frames before profile) (hnone : profile.properties = []) :
    (Exchange.complete_login component_text (some mac) identity zlib t input).2 =
        .Ok ⟨profile.uuid, profile.username⟩ ∧
      (Exchange.complete_login component_text (some mac) identity zlib t input).1.output =
        wire zlib (responses (forwarded mac identity) t before ++
          [((before.foldl after t).format, acknowledged)]) := by
  obtain ⟨⟨success, rest, rfl, hpacket⟩, hprelude⟩ := hbegins
  obtain ⟨t', input', rounds', rfl, hlimit, hmade', harrives', hrounds', hcomplete⟩ :=
    Exchange.complete_prelude component_text hprovided hmade hprelude harrives le_rfl []
  cases harrives' with
  | cons hread hrest =>
    rw [← hlimit] at hprovided hmade'
    have hnext := Exchange.next_success component_text hprovided hmade' hread hpacket hnone
      ([] ++ wire zlib (responses (forwarded mac identity) t before))
    rw [Exchange.complete_login, hcomplete, Exchange.complete_of_returns component_text hread hrounds' hnext,
      wire_append]
    simp [wire]

/-- The login fails at the first frame that it does not know, with everything before
it answered and nothing else written. -/
theorem complete_refused (hprovided : Provided zlib mac identity t.max_packet_size)
    (hmade : t.format.Made t.max_packet_size) (harrives : Arrives zlib t input (before ++ frames))
    (hprelude : ∀ frame ∈ before, isPrelude frame = true)
    (hrefused : ∀ frame rest, frames = frame :: rest → isPrelude frame = false ∧
      ∀ profile, classify frame = some (.Success profile) → profile.properties ≠ []) :
    (∃ err, (Exchange.complete_login component_text (some mac) identity zlib t input).2 = .Fail err) ∧
      (Exchange.complete_login component_text (some mac) identity zlib t input).1.output =
        wire zlib (responses (forwarded mac identity) t before) := by
  obtain ⟨t', input', rounds', rfl, hlimit, hmade', harrives', hrounds', hcomplete⟩ :=
    Exchange.complete_prelude component_text hprovided hmade hprelude harrives le_rfl []
  rw [Exchange.complete_login, hcomplete]
  cases harrives' with
  | nil =>
    rw [Exchange.complete_closed]
    exact ⟨⟨_, rfl⟩, rfl⟩
  | cons hread hrest =>
    obtain ⟨hother, hprofile⟩ := hrefused _ _ rfl
    obtain ⟨err, hnext⟩ := Exchange.next_refused component_text hprovided hread hother hprofile
      ([] ++ wire zlib (responses (forwarded mac identity) t before))
    rw [Exchange.complete_of_returns component_text hread hrounds' hnext]
    exact ⟨⟨err, rfl⟩, rfl⟩

end Conformance

theorem not_prelude_of_success {frame : Bytes} {profile : Profile} (h : classify frame = some (.Success profile)) :
    isPrelude frame = false := by
  rw [isPrelude, h]

/-- The exchange conforms to the protocol exactly when the Login Success that
would end it has no profile properties. -/
theorem login_conformant_iff (component_text : Bytes → Option Bytes) {mac : Bytes → Bytes}
    {identity : PlayerIdentity} {zlib : Zlib} {maxPacketSize : Int} {input : Bytes} {frames : List Bytes}
    (hprovided : Provided zlib mac identity maxPacketSize)
    (harrives : Arrives zlib (Transport.new maxPacketSize) input frames) :
    Conformant zlib (forwarded mac identity) (Transport.new maxPacketSize) frames
        (Exchange.complete_login component_text (some mac) identity zlib (Transport.new maxPacketSize) input) ↔
      ∀ before profile, Begins frames before profile → profile.properties = [] := by
  have hmade : (Transport.new maxPacketSize).format.Made maxPacketSize := ⟨rfl, by rintro _ ⟨⟩⟩
  constructor
  · intro hconformant before profile hbegins
    by_contra hsome
    obtain ⟨hok, -⟩ := hconformant.succeeds before profile hbegins
    obtain ⟨⟨success, rest, rfl, hpacket⟩, hprelude⟩ := hbegins
    obtain ⟨⟨err, herr⟩, -⟩ := complete_refused component_text hprovided hmade harrives hprelude (by
      rintro _ _ ⟨⟩
      refine ⟨not_prelude_of_success hpacket, fun profile' hprofile => ?_⟩
      rw [hpacket] at hprofile
      cases hprofile
      exact hsome)
    rw [hok] at herr
    cases herr
  · intro hnone
    constructor
    · intro before profile hbegins
      exact complete_success component_text hprovided hmade harrives hbegins (hnone before profile hbegins)
    · intro hnever
      have hsplit : frames.takeWhile isPrelude ++ frames.dropWhile isPrelude = frames := List.takeWhile_append_dropWhile
      have hprelude : ∀ frame ∈ frames.takeWhile isPrelude, isPrelude frame = true := fun frame hmem =>
        List.mem_takeWhile_imp hmem
      refine complete_refused component_text hprovided hmade (hsplit.symm ▸ harrives) hprelude ?_
      intro frame rest hrest
      refine ⟨?_, fun profile hpacket => ?_⟩
      · have hhead := List.head?_dropWhile_not isPrelude frames
        rw [hrest] at hhead
        simpa using hhead
      · exact absurd ⟨⟨frame, rest, by rw [← hrest, hsplit], hpacket⟩, hprelude⟩
          (hnever (frames.takeWhile isPrelude) profile)

section Samples

theorem plugin_response_length (message_id : Int) (data : Bytes) :
    0 < (plugin_response_payload message_id (some data)).length ∧
      (plugin_response_payload message_id (some data)).length ≤ data.length + 11 := by
  have hpayload : plugin_response_payload message_id (some data) =
      append_var_int [] ServerboundPluginResponseID ++ append_var_int [] message_id ++ [1] ++ data := by
    simp [plugin_response_payload, append_var_int]
  obtain ⟨_, hid⟩ := append_var_int_length ServerboundPluginResponseID
  obtain ⟨_, hmessage⟩ := append_var_int_length message_id
  simp only [hpayload, List.length_append, List.length_singleton]
  omega

/-- A signature of zeros. -/
private def sampleMac : Bytes → Bytes := fun _ => List.replicate 32 0

/-- A forwarding request with a message identifier of one byte. -/
private def sampleRequest (message_id : UInt8) : Bytes := [4, message_id, 20] ++ VelocityChannel

/-- Two plugin requests, the second after Set Compression, and Login Success. -/
private def sampleFrames : List Bytes :=
  [sampleRequest 7, [3, 64], sampleRequest 8, success_profile_payload samplePlayer.uuid [65] []]

/-- A fresh transport. -/
private def sampleTransport : Transport := Transport.new 2097152

/-- The sample player satisfies the assumptions. -/
private theorem sample_provided : Provided paddedZlib sampleMac samplePlayer 2097152 where
  address := by decide
  username := by decide
  limit := by decide
  responses message_id format hmade := by
    have hlength : (forwarded sampleMac samplePlayer).length ≤ 100 := by decide
    obtain ⟨hsome, hle⟩ := plugin_response_length message_id (forwarded sampleMac samplePlayer)
    exact hmade.writes (by decide) (by decide) hsome (by omega)

/-- The sample frames arrive as a backend writes them. -/
private theorem sample_arrives :
    Arrives paddedZlib sampleTransport (wire paddedZlib (governed sampleTransport sampleFrames)) sampleFrames := by
  refine arrives_governed paddedZlib rfl ⟨by decide, rfl, ?_⟩ (by decide)
  rintro _ ⟨⟩

/-- Two forwarding requests with compression turned on between them, and a Login
Success without properties. -/
theorem login_conformant_iff_two_requests :
    Conformant paddedZlib (forwarded sampleMac samplePlayer) sampleTransport sampleFrames
      (Exchange.complete_login (fun _ => none) (some sampleMac) samplePlayer paddedZlib sampleTransport
        (wire paddedZlib (governed sampleTransport sampleFrames))) := by
  refine (login_conformant_iff _ sample_provided sample_arrives).mpr ?_
  rintro before profile ⟨⟨success, rest, hsplit, hpacket⟩, -⟩
  have hclasses : sampleFrames.map classify = [some (.Request 7), some (.Compression 64), some (.Request 8),
      some (.Success ⟨samplePlayer.uuid.val, [65], []⟩)] := by decide +kernel
  have hmem : some (Packet.Success profile) ∈ sampleFrames.map classify := by
    rw [hsplit, ← hpacket]
    simp
  rw [hclasses] at hmem
  simp only [List.mem_cons, Option.some.injEq, reduceCtorEq, Packet.Success.injEq, List.not_mem_nil, or_false,
    false_or] at hmem
  rw [hmem]

/-- A profile with one property. -/
private def sampleProfile : Profile := ⟨samplePlayer.uuid.val, [65], [⟨[116], [118], [115]⟩]⟩

/-- The Login Success of the profile. -/
private def sampleSuccess : Bytes := success_profile_payload samplePlayer.uuid [65] sampleProfile.properties

/-- A well-formed Login Success with one property, the only frame of the backend,
is refused. -/
theorem profile_with_property_refused :
    Arrives paddedZlib sampleTransport (27 :: sampleSuccess) [sampleSuccess] ∧
      Begins [sampleSuccess] [] sampleProfile ∧
      Exchange.complete_login (fun _ => none) (some sampleMac) samplePlayer paddedZlib sampleTransport
        (27 :: sampleSuccess) = (⟨sampleTransport, [], []⟩, .Fail .UnexpectedLoginPacket) := by
  refine ⟨.cons (by decide +kernel) .nil, ⟨⟨sampleSuccess, [], rfl, by decide +kernel⟩, by simp⟩, ?_⟩
  decide +kernel

end Samples

end regiongate.backend
