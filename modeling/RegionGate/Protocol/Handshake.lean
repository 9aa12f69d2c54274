import RegionGate.Protocol.Login
import RegionGate.Protocol.Play

open checked regiongate.codec

namespace regiongate.handshake

/-- The version of the protocol that the gateway speaks. -/
def ProtocolVersion : Int := 765

-- What a handshake may ask for.
def NextStatus : Int := 1
def NextLogin : Int := 2

/-- `Packet`, the handshake. -/
structure Packet where
  protocol_version : Int
  server_address : Bytes
  server_port : Nat
  next_state : Int
  deriving DecidableEq

/-- `Payload`. -/
def payload (packet : Packet) : Bytes :=
  let payload := append_var_int [] 0x00
  let payload := append_var_int payload packet.protocol_version
  let payload := append_string payload packet.server_address
  let payload := payload ++ [(packet.server_port >>> 8).toUInt8, packet.server_port.toUInt8]
  append_var_int payload packet.next_state

/-- `readString`, like the one of the login package but with this package's
error. -/
def read_string (data : Bytes) (maxChars : Nat) : Outcome Error (Bytes × Nat) := do
  let (length, used) ← (consume_var_int_checked data).mapError fun _ => .HandshakeMalformed
  if length < 0 ∨ length > wrap64 (maxChars * 3) then .Fail .HandshakeMalformed
  else
    let stop := used + length.toNat
    if stop > data.length then .Fail .HandshakeMalformed
    else
      let value ← slice data used stop
      match rune_count value with
      | none => .Fail .HandshakeMalformed
      | some count => if count > maxChars then .Fail .HandshakeMalformed else .Ok (value, stop)

/-- `binary.BigEndian.Uint16`, which reads the second byte first. -/
def uint16 (bytes : Bytes) : Outcome Error Nat := do
  let low ← index bytes 1
  let high ← index bytes 0
  .Ok (high.toNat * 256 + low.toNat)

/-- `Parse`. -/
def parse (payload : Bytes) : Outcome Error Packet := do
  let (id, body) ← (packet_id_checked payload).mapError fun _ => .HandshakeMalformed
  if id ≠ 0x00 then .Fail .HandshakeMalformed
  else
    let (version, used) ← (consume_var_int_checked body).mapError fun _ => .HandshakeMalformed
    let body ← sliceFrom body used
    let (address, used) ← read_string body 255
    let body ← sliceFrom body used
    if body.length < 2 then .Fail .HandshakeMalformed
    else
      let port ← uint16 body
      let body ← sliceFrom body 2
      let (next, used) ← (consume_var_int_checked body).mapError fun _ => .HandshakeMalformed
      let rest ← sliceFrom body used
      if rest.length ≠ 0 ∨ (next ≠ NextStatus ∧ next ≠ NextLogin) then .Fail .HandshakeMalformed
      else
        .Ok { protocol_version := version, server_address := address, server_port := port,
              next_state := next }

/-- Both packages read strings alike. -/
theorem read_string_eq (data : Bytes) (maxChars : Nat) :
    read_string data maxChars =
      (login.read_string data maxChars).mapError fun _ => .HandshakeMalformed := by
  unfold read_string login.read_string
  rw [consume_var_int_checked_eq]
  cases consume_var_int data with
  | error e => rfl
  | ok result =>
    obtain ⟨length, used⟩ := result
    simp only [Outcome.ofExcept_ok, Outcome.mapError_ok, Outcome.ok_bind]
    split
    · rfl
    · split
      · rfl
      · rename_i hfits
        rw [slice_ok (by omega) (by omega), Outcome.ok_bind, Outcome.ok_bind]
        cases rune_count ((data.take (used + length.toNat)).drop used) with
        | none => rfl
        | some count =>
          dsimp only
          split <;> rfl

/-- This copy of `readString` accepts what `ConsumeString` accepts. -/
theorem read_string_eq_ok {data : Bytes} {maxChars : Nat} {result : Bytes × Nat} :
    read_string data maxChars = .Ok result ↔ consume_string data maxChars = .ok result := by
  rw [← login.read_string_eq_ok, ← Outcome.toOption_eq_some, ← Outcome.toOption_eq_some, read_string_eq,
    Outcome.toOption_mapError]

end regiongate.handshake
