import RegionGate.Codec

open regiongate.codec

namespace regiongate.play

-- The packets of the play state that the gateway reads, and the keepalive that they answer.
def ClientboundKeepAliveID : Int := 0x24
def ServerboundConfigurationAcknowledgedID : Int := 0x0b
def ServerboundTeleportConfirmID : Int := 0x00
def ServerboundKeepAliveID : Int := 0x15
def ServerboundPositionID : Int := 0x17
def ServerboundPositionLookID : Int := 0x18
def ServerboundPlayerCommandID : Int := 0x22

/-- A decoded movement. Coordinates and angles are IEEE 754 bit patterns. -/
structure Movement where
  x : UInt64
  y : UInt64
  z : UInt64
  yaw : UInt32
  pitch : UInt32
  on_ground : Bool
  has_look : Bool
  deriving DecidableEq, Repr

/-- `PlayerCommand`. -/
structure PlayerCommand where
  entity_id : Int
  action_id : Int
  data : Int
  deriving DecidableEq, Repr

/-- `binary.BigEndian` reads a slice from its most significant byte on. -/
def bigEndian (bytes : Bytes) : Nat := bytes.foldl (fun acc b => acc * 256 + b.toNat) 0

/-- `binary.BigEndian.Uint64`. -/
def uint64 (bytes : Bytes) : UInt64 := (bigEndian (bytes.take 8)).toUInt64

/-- `binary.BigEndian.Uint32`. -/
def uint32 (bytes : Bytes) : UInt32 := (bigEndian (bytes.take 4)).toUInt32

/-- `binary.BigEndian.PutUint64`. -/
def put_uint64 (value : UInt64) : Bytes :=
  [(value >>> 56).toUInt8, (value >>> 48).toUInt8, (value >>> 40).toUInt8, (value >>> 32).toUInt8,
    (value >>> 24).toUInt8, (value >>> 16).toUInt8, (value >>> 8).toUInt8, value.toUInt8]

/-- `binary.BigEndian.PutUint32`. -/
def put_uint32 (value : UInt32) : Bytes :=
  [(value >>> 24).toUInt8, (value >>> 16).toUInt8, (value >>> 8).toUInt8, value.toUInt8]

/-- `appendBool`. -/
def append_bool (dst : Bytes) (value : Bool) : Bytes := dst ++ [if value then 1 else 0]

/-- `appendFloat32`, the value given by its bits. -/
def append_float32 (dst : Bytes) (bits : UInt32) : Bytes := dst ++ put_uint32 bits

/-- `appendFloat64`, the value given by its bits. -/
def append_float64 (dst : Bytes) (bits : UInt64) : Bytes := dst ++ put_uint64 bits

/-- `ServerboundPositionPayload`. -/
def serverbound_position_payload (x y z : UInt64) (on_ground : Bool) : Bytes :=
  let payload := append_var_int [] ServerboundPositionID
  let payload := append_float64 payload x
  let payload := append_float64 payload y
  let payload := append_float64 payload z
  append_bool payload on_ground

/-- `ServerboundPositionLookPayload`. -/
def serverbound_position_look_payload (x y z : UInt64) (yaw pitch : UInt32) (on_ground : Bool) : Bytes :=
  let payload := append_var_int [] ServerboundPositionLookID
  let payload := append_float64 payload x
  let payload := append_float64 payload y
  let payload := append_float64 payload z
  let payload := append_float32 payload yaw
  let payload := append_float32 payload pitch
  append_bool payload on_ground

/-- `PlayerCommandPayload`. -/
def player_command_payload (entity_id action_id data : Int) : Bytes :=
  let payload := append_var_int [] ServerboundPlayerCommandID
  let payload := append_var_int payload entity_id
  let payload := append_var_int payload action_id
  append_var_int payload data

/-- `ParseConfigurationAcknowledged`: the packet has no body. -/
def parse_configuration_acknowledged (payload : Bytes) : Except Error Unit :=
  match packet_id payload with
  | .error _ => .error .PlayMalformed
  | .ok (id, body) =>
    if id ≠ ServerboundConfigurationAcknowledgedID ∨ body.length ≠ 0 then .error .PlayMalformed
    else .ok ()

/-- `ParsePlayerCommand`: three VarInts that are not negative, the action at most 8,
and nothing behind them. -/
def parse_player_command (payload : Bytes) : Except Error PlayerCommand :=
  match packet_id payload with
  | .error _ => .error .PlayMalformed
  | .ok (id, body) =>
    if id ≠ ServerboundPlayerCommandID then .error .PlayMalformed
    else
      match consume_var_int body with
      | .error _ => .error .PlayMalformed
      | .ok (entity, used) =>
        let body := body.drop used
        match consume_var_int body with
        | .error _ => .error .PlayMalformed
        | .ok (action, used) =>
          let body := body.drop used
          match consume_var_int body with
          | .error _ => .error .PlayMalformed
          | .ok (data, used) =>
            let body := body.drop used
            if body.length ≠ 0 ∨ entity < 0 ∨ action < 0 ∨ action > 8 ∨ data < 0 then
              .error .PlayMalformed
            else .ok { entity_id := entity, action_id := action, data := data }

/-- `ParseTeleportConfirm`: one VarInt and nothing behind it. -/
def parse_teleport_confirm (payload : Bytes) : Except Error Int :=
  match packet_id payload with
  | .error _ => .error .PlayMalformed
  | .ok (id, body) =>
    if id ≠ ServerboundTeleportConfirmID then .error .PlayMalformed
    else
      match consume_var_int body with
      | .error _ => .error .PlayMalformed
      | .ok (teleport, used) =>
        if used ≠ body.length then .error .PlayMalformed else .ok teleport

/-- `ParseKeepAlive`: the identifier, which is a signed number of 64 bits. -/
def parse_keep_alive (payload : Bytes) : Except Error Int :=
  match packet_id payload with
  | .error _ => .error .PlayMalformed
  | .ok (id, body) =>
    if id ≠ ServerboundKeepAliveID ∨ body.length ≠ 8 then .error .PlayMalformed
    else .ok (uint64 body).toInt64.toInt

/-- Neither NaN nor infinite: the exponent bits are not all ones. -/
def finite64 (bits : UInt64) : Bool := (bits >>> 52) &&& 0x7ff ≠ 0x7ff

/-- `finite32`: the exponent of an infinity or a NaN has all its bits set. -/
def finite32 (bits : UInt32) : Bool := (bits >>> 23) &&& 0xff ≠ 0xff

/-- `DecodeMovement`: a position with or without a direction, all of it finite. -/
def decode_movement (payload : Bytes) : Except Error Movement :=
  match packet_id payload with
  | .error _ => .error .PlayMalformed
  | .ok (id, body) =>
    if id ≠ ServerboundPositionID ∧ id ≠ ServerboundPositionLookID then .error .PlayMalformed
    else if id = ServerboundPositionID ∧ body.length ≠ 25 then .error .PlayMalformed
    else if id = ServerboundPositionLookID ∧ body.length ≠ 33 then .error .PlayMalformed
    else
      let look := decide (id = ServerboundPositionLookID)
      let yaw := if look then uint32 (body.drop 24) else 0
      let pitch := if look then uint32 (body.drop 28) else 0
      let ground := body.getD (if look then 32 else 24) 0
      let x := uint64 body
      let y := uint64 (body.drop 8)
      let z := uint64 (body.drop 16)
      if ground > 1 ∨ ¬ finite64 x ∨ ¬ finite64 y ∨ ¬ finite64 z ∨ ¬ finite32 yaw ∨
          ¬ finite32 pitch then .error .PlayMalformed
      else .ok { x, y, z, yaw, pitch, on_ground := ground == 1, has_look := look }

/-- `ParseMovement`, the same checks without the values. -/
def parse_movement (payload : Bytes) : Except Error Unit :=
  match decode_movement payload with
  | .error e => .error e
  | .ok _ => .ok ()

end regiongate.play
