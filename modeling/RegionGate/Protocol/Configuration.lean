import RegionGate.Codec

open regiongate.codec

namespace regiongate.configuration

-- The packets of the configuration state that the gateway knows.
def ClientboundDisconnectID : Int := 0x01
def ClientboundFinishConfigurationID : Int := 0x02
def ClientboundKeepAliveID : Int := 0x03
def ClientboundPingID : Int := 0x04
def ServerboundClientInformationID : Int := 0x00
def ServerboundPluginMessageID : Int := 0x01
def ServerboundFinishConfigurationID : Int := 0x02
def ServerboundKeepAliveID : Int := 0x03
def ServerboundPongID : Int := 0x04

/-- `ClientInformation`, the client's settings. -/
structure ClientInformation where
  locale : Bytes
  view_distance : Int
  chat_mode : Int
  chat_colors : Bool
  displayed_skin_parts : UInt8
  main_hand : Int
  text_filtering : Bool
  allow_server_listings : Bool
  deriving DecidableEq, Repr

/-- `PluginMessage`. -/
structure PluginMessage where
  channel : Bytes
  data : Bytes
  deriving DecidableEq, Repr

/-- `FinishPayload`. -/
def finish_payload : Bytes := append_var_int [] ClientboundFinishConfigurationID

/-- `FinishAcknowledgedPayload`. -/
def finish_acknowledged_payload : Bytes := append_var_int [] ServerboundFinishConfigurationID

/-- `parseBool`: a byte other than 0 and 1 is malformed. -/
def parse_bool (value : UInt8) : Except Error Bool :=
  if value = 0 then .ok false else if value = 1 then .ok true else .error .ConfigurationMalformed

/-- `ParseFinishAcknowledged`: the packet has no body. -/
def parse_finish_acknowledged (payload : Bytes) : Except Error Unit :=
  match packet_id payload with
  | .error _ => .error .ConfigurationMalformed
  | .ok (id, body) =>
    if id ≠ ServerboundFinishConfigurationID ∨ body.length ≠ 0 then .error .ConfigurationMalformed
    else .ok ()

/-- The last two flags of Client Information, with nothing after them. -/
def parse_listing_flags (body : Bytes) : Except Error (Bool × Bool) :=
  match body with
  | [filtering, listings] =>
    match parse_bool filtering, parse_bool listings with
    | .ok filtering, .ok listings => .ok (filtering, listings)
    | .error e, _ => .error e
    | .ok _, .error e => .error e
  | _ => .error .ConfigurationMalformed

/-- `ParseClientInformation`, which bounds the chat mode and the main hand and takes
any view distance. -/
def parse_client_information (payload : Bytes) : Except Error ClientInformation :=
  match packet_id payload with
  | .error _ => .error .ConfigurationMalformed
  | .ok (id, body) =>
    if id ≠ ServerboundClientInformationID then .error .ConfigurationMalformed
    else
      match consume_string body 16 with
      | .error _ => .error .ConfigurationMalformed
      | .ok (locale, used) =>
        match body.drop used with
        | [] => .error .ConfigurationMalformed
        | distance :: body =>
          match consume_var_int body with
          | .error _ => .error .ConfigurationMalformed
          | .ok (chat_mode, used) =>
            if chat_mode < 0 ∨ chat_mode > 2 then .error .ConfigurationMalformed
            else
              match body.drop used with
              | colors :: parts :: body =>
                match parse_bool colors with
                | .error e => .error e
                | .ok chat_colors =>
                  match consume_var_int body with
                  | .error _ => .error .ConfigurationMalformed
                  | .ok (main_hand, used) =>
                    if main_hand < 0 ∨ main_hand > 1 then .error .ConfigurationMalformed
                    else
                      match parse_listing_flags (body.drop used) with
                      | .error e => .error e
                      | .ok (text_filtering, allow_server_listings) =>
                        .ok { locale, view_distance := distance.toInt8.toInt, chat_mode, chat_colors,
                              displayed_skin_parts := parts, main_hand, text_filtering,
                              allow_server_listings }
              | _ => .error .ConfigurationMalformed

/-- `ParsePluginMessage`: the rest after the channel is the data. -/
def parse_plugin_message (payload : Bytes) : Except Error PluginMessage :=
  match packet_id payload with
  | .error _ => .error .ConfigurationMalformed
  | .ok (id, body) =>
    if id ≠ ServerboundPluginMessageID then .error .ConfigurationMalformed
    else
      match consume_string body 32767 with
      | .error _ => .error .ConfigurationMalformed
      | .ok (channel, used) =>
        if channel = [] then .error .ConfigurationMalformed
        else .ok { channel, data := body.drop used }

/-- `ParseClientSetup`: the packets that the client may send before it acknowledges
the end of the configuration. -/
def parse_client_setup (payload : Bytes) : Except Error Unit :=
  match packet_id payload with
  | .error _ => .error .ConfigurationMalformed
  | .ok (id, _) =>
    if id = ServerboundClientInformationID then
      match parse_client_information payload with
      | .error e => .error e
      | .ok _ => .ok ()
    else if id = ServerboundPluginMessageID then
      match parse_plugin_message payload with
      | .error e => .error e
      | .ok _ => .ok ()
    else .error .ConfigurationMalformed

end regiongate.configuration
