import RegionGate.Protocol.Play.RoundTrip

open regiongate.codec regiongate.play

namespace regiongate.status

/-- A status packet that is malformed, and a response that JSON has no text for. -/
inductive StatusError where
  | Malformed
  | Marshal
  deriving DecidableEq

/-- `ParseRequest`: the packet has no body. -/
def parse_request (payload : Bytes) : Except StatusError Unit :=
  match packet_id payload with
  | .error _ => .error .Malformed
  | .ok (id, body) => if id ≠ 0x00 ∨ body.length ≠ 0 then .error .Malformed else .ok ()

/-- `ParsePing`. -/
def parse_ping (payload : Bytes) : Except StatusError Int64 :=
  match packet_id payload with
  | .error _ => .error .Malformed
  | .ok (id, body) => if id ≠ 0x01 ∨ body.length ≠ 8 then .error .Malformed else .ok (uint64 body).toInt64

/-- `ResponsePayload`, with what `json.Marshal` makes of the response. -/
def response_payload (json : Option Bytes) : Except StatusError Bytes :=
  match json with
  | none => .error .Marshal
  | some data => .ok (append_string (append_var_int [] 0x00) data)

/-- `PongPayload`, which returns the value of the ping. -/
def pong_payload (value : Int64) : Bytes := append_var_int [] 0x01 ++ put_uint64 value.toUInt64

/-- The bytes of a number that was read from eight bytes. -/
theorem put_uint64_uint64 {body : Bytes} (h : body.length = 8) : put_uint64 (uint64 body) = body := by
  obtain - | ⟨b₀, - | ⟨b₁, - | ⟨b₂, - | ⟨b₃, - | ⟨b₄, - | ⟨b₅, - | ⟨b₆, - | ⟨b₇, rest⟩⟩⟩⟩⟩⟩⟩⟩ := body <;> simp at h
  subst h
  have hbounds := And.intro b₀.toNat_lt (And.intro b₁.toNat_lt (And.intro b₂.toNat_lt (And.intro b₃.toNat_lt
    (And.intro b₄.toNat_lt (And.intro b₅.toNat_lt (And.intro b₆.toNat_lt b₇.toNat_lt))))))
  have hvalue : (uint64 [b₀, b₁, b₂, b₃, b₄, b₅, b₆, b₇]).toNat =
      ((((((b₀.toNat * 256 + b₁.toNat) * 256 + b₂.toNat) * 256 + b₃.toNat) * 256 + b₄.toNat) * 256 +
        b₅.toNat) * 256 + b₆.toNat) * 256 + b₇.toNat := by
    simp [uint64, bigEndian]
    omega
  simp only [put_uint64, List.cons.injEq, and_true, ← UInt8.toNat_inj]
  simp [hvalue]
  omega

theorem parse_request_ok {request : Bytes} (h : parse_request request = .ok ()) :
    packet_id request = .ok (0x00, []) := by
  unfold parse_request at h
  split at h
  · cases h
  · rename_i id body hid
    split at h
    · cases h
    · rename_i hgood
      obtain ⟨rfl, rfl⟩ : id = 0x00 ∧ body = [] := by simpa using hgood
      exact hid

/-- The pong carries the eight bytes of the ping. -/
theorem pong_echoes_ping {ping : Bytes} {value : Int64} (h : parse_ping ping = .ok value) :
    ∃ body, packet_id ping = .ok (0x01, body) ∧ body.length = 8 ∧
      pong_payload value = append_var_int [] 0x01 ++ body := by
  unfold parse_ping at h
  split at h
  · cases h
  · rename_i id body hid
    split at h
    · cases h
    · rename_i hgood
      obtain ⟨rfl, hlength⟩ : id = 0x01 ∧ body.length = 8 := by simpa using hgood
      cases h
      refine ⟨body, hid, hlength, ?_⟩
      rw [pong_payload, UInt64.toUInt64_toInt64, put_uint64_uint64 hlength]

end regiongate.status
