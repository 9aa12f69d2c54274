import RegionGate.Protocol.Login

open regiongate.codec

namespace regiongate.forwarding

/-- `velocity:player_info`. -/
def VelocityChannel : Bytes :=
  [118, 101, 108, 111, 99, 105, 116, 121, 58, 112, 108, 97, 121, 101, 114, 95, 105, 110, 102, 111]

/-- The version of modern forwarding that the gateway speaks. -/
def ModernVersion : Int := 1

/-- A player as the gateway knows it. Profile properties have the same fields
here as in Login Success. -/
structure PlayerIdentity where
  address : Bytes
  uuid : UUID
  username : Bytes
  properties : List login.Property
  deriving DecidableEq

/-- The forwarding data of a player with its signature in front; `mac` is
HMAC-SHA256 under the forwarder's secret. -/
def build_response (mac : Bytes → Bytes) (identity : PlayerIdentity) : Except Error Bytes :=
  if identity.address = [] ∨ identity.username = [] then .error .InvalidIdentity
  else
    let payload := append_var_int [] ModernVersion
    let payload := append_string payload identity.address
    let payload := payload ++ identity.uuid.val
    let payload := append_string payload identity.username
    let payload := append_var_int payload identity.properties.length
    let payload := identity.properties.foldl login.append_property payload
    .ok (mac payload ++ payload)

end regiongate.forwarding
