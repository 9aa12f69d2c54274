import Mathlib.Data.UInt
import RegionGate.Protocol.Grammar
import RegionGate.Protocol.Nbt

open parsing regiongate.codec regiongate.forwarding regiongate.configuration

namespace regiongate.play

-- The packets of the play state that the gateway writes.
def ClientboundChunkBatchFinishedID : Int := 0x0c
def ClientboundChunkBatchStartID : Int := 0x0d
def ClientboundJoinGameID : Int := 0x29
def ClientboundMapChunkID : Int := 0x25
def ClientboundPositionLookID : Int := 0x3e
def ClientboundSpawnPositionID : Int := 0x54
def ClientboundStartConfigurationID : Int := 0x67

/-- The sections of a column of chunks, from the bottom of the world to its top. -/
def overworldSectionCount : Nat := 24

/-- One bit for each section, and one for the light below and above them. -/
def overworldLightSectionMask : UInt64 := (1 : UInt64) <<< (.ofNat overworldSectionCount + 2) - 1

/-- `JoinGameConfig`. -/
structure JoinGameConfig where
  entity_id : Int32
  hardcore : Bool
  world_name : Bytes
  max_players : Int32
  view_distance : Int32
  simulation_distance : Int32
  dimension_type : Bytes
  dimension_name : Bytes
  hashed_seed : Int64
  game_mode : UInt8
  previous_game_mode : Int8
  reduced_debug_info : Bool
  respawn_screen : Bool
  limited_crafting : Bool
  debug : Bool
  flat : Bool
  portal_cooldown : Int32
  deriving DecidableEq

/-- `appendInt32`. -/
def append_int32 (dst : Bytes) (value : Int32) : Bytes := dst ++ put_uint32 value.toUInt32

/-- `appendLightMask`: a bit set of one word. -/
def append_light_mask (dst : Bytes) (mask : UInt64) : Bytes := append_var_int dst 1 ++ put_uint64 mask

/-- `JoinGamePayload`. -/
def join_game_payload (config : JoinGameConfig) : Bytes :=
  let payload := append_var_int [] ClientboundJoinGameID
  let payload := payload ++ put_uint32 config.entity_id.toUInt32
  let payload := payload ++ [if config.hardcore then 1 else 0]
  let payload := append_var_int payload 1
  let payload := append_string payload config.world_name
  let payload := append_var_int payload config.max_players.toInt
  let payload := append_var_int payload config.view_distance.toInt
  let payload := append_var_int payload config.simulation_distance.toInt
  let payload := append_bool payload config.reduced_debug_info
  let payload := append_bool payload config.respawn_screen
  let payload := append_bool payload config.limited_crafting
  let payload := append_string payload config.dimension_type
  let payload := append_string payload config.dimension_name
  let payload := payload ++ put_uint64 config.hashed_seed.toUInt64
  let payload := payload ++ [config.game_mode, config.previous_game_mode.toUInt8]
  let payload := append_bool payload config.debug
  let payload := append_bool payload config.flat
  let payload := append_bool payload false
  append_var_int payload config.portal_cooldown.toInt

/-- `KeepAlivePayload`. -/
def keep_alive_payload (id : Int64) : Bytes :=
  append_var_int [] ClientboundKeepAliveID ++ put_uint64 id.toUInt64

/-- `ChunkBatchStartPayload`. -/
def chunk_batch_start_payload : Bytes := append_var_int [] ClientboundChunkBatchStartID

/-- `ChunkBatchFinishedPayload`. -/
def chunk_batch_finished_payload (size : Int32) : Bytes :=
  append_var_int (append_var_int [] ClientboundChunkBatchFinishedID) size.toInt

/-- One section: no block but air, and plains. -/
def emptySectionData : Bytes := [0, 0] ++ [0, 0, 0] ++ [0, 0, 0]

/-- `VoidChunkPayload`: sections of air and no block entities; of the light masks the
two for sections without light cover everything. -/
def void_chunk_payload (x z : Int32) : Bytes :=
  let payload := append_var_int [] ClientboundMapChunkID
  let payload := append_int32 payload x
  let payload := append_int32 payload z
  let payload := payload ++ [10, 0]
  let chunkData := (List.replicate overworldSectionCount emptySectionData).flatten
  let payload := append_var_int payload chunkData.length
  let payload := payload ++ chunkData
  let payload := append_var_int payload 0
  let payload := append_var_int payload 0
  let payload := append_var_int payload 0
  let payload := append_light_mask payload overworldLightSectionMask
  let payload := append_light_mask payload overworldLightSectionMask
  let payload := append_var_int payload 0
  append_var_int payload 0

/-- The coordinates of a block in one word. -/
def pack (x y z : Int32) : UInt64 :=
  ((x.toUInt32 &&& 0x3ffffff).toUInt64 <<< 38) ||| ((z.toUInt32 &&& 0x3ffffff).toUInt64 <<< 12) |||
    (y.toUInt32 &&& 0xfff).toUInt64

/-- `SpawnPositionPayload`. -/
def spawn_position_payload (x y z : Int32) (angle : UInt32) : Bytes :=
  let payload := append_var_int [] ClientboundSpawnPositionID
  let payload := payload ++ put_uint64 (pack x y z)
  append_float32 payload angle

/-- `PositionLookPayload`. -/
def position_look_payload (x y z : UInt64) (yaw pitch : UInt32) (teleport_id : Int32) : Bytes :=
  let payload := append_var_int [] ClientboundPositionLookID
  let payload := append_float64 payload x
  let payload := append_float64 payload y
  let payload := append_float64 payload z
  let payload := append_float32 payload yaw
  let payload := append_float32 payload pitch
  let payload := payload ++ [0]
  append_var_int payload teleport_id.toInt

/-- `StartConfigurationPayload`. -/
def start_configuration_payload : Bytes := append_var_int [] ClientboundStartConfigurationID

/-- A chunk section whose blocks are all one block and whose biome is one biome. -/
structure Section where
  block_count : Nat
  block : Int
  biome : Int
  deriving DecidableEq

/-- A chunk packet as a client reads it. -/
structure Chunk where
  x : Int32
  z : Int32
  heightmaps : Tree
  sections : List Section
  sky_light_mask : List UInt64
  block_light_mask : List UInt64
  empty_sky_light_mask : List UInt64
  empty_block_light_mask : List UInt64
  sky_light : List Bytes
  block_light : List Bytes

/-- What a client makes of a packet. Floating point numbers are bit patterns. -/
inductive Packet where
  | JoinGame (config : JoinGameConfig)
  | ChunkBatchStart
  | ChunkBatchFinished (size : Int)
  | MapChunk (chunk : Chunk)
  | SpawnPosition (x y z : Int) (angle : UInt32)
  | PositionLook (x y z : UInt64) (yaw pitch : UInt32) (relative : UInt8) (teleport_id : Int)
  | KeepAlive (id : Int64)
  | StartConfiguration

section Client

/-- A VarInt as the machine number that it stands for. -/
def int32 : Reader UInt8 Int32 := do
  let value ← varInt
  return .ofInt value

/-- A boolean of the protocol. -/
def bool : Reader UInt8 Bool := do
  let value ← one
  if value = 0 then return false else if value = 1 then return true else failure

/-- An identifier: at most 32767 characters. -/
def identifier : Reader UInt8 Bytes := login.text 32767

/-- The Login packet of the play state, for one world and a player who has not
died. -/
def joinGame : Reader UInt8 Packet := do
  let entity_id ← readUint32
  let hardcore ← bool
  let worlds ← varInt
  if worlds ≠ 1 then failure
  else
    let world_name ← identifier
    let max_players ← int32
    let view_distance ← int32
    let simulation_distance ← int32
    let reduced_debug_info ← bool
    let respawn_screen ← bool
    let limited_crafting ← bool
    let dimension_type ← identifier
    let dimension_name ← identifier
    let hashed_seed ← readUint64
    let game_mode ← one
    let previous_game_mode ← one
    let debug ← bool
    let flat ← bool
    let died ← bool
    if died then failure
    else
      let portal_cooldown ← int32
      return .JoinGame {
        entity_id := entity_id.toInt32, hardcore, world_name, max_players, view_distance, simulation_distance
        dimension_type, dimension_name, hashed_seed := hashed_seed.toInt64, game_mode
        previous_game_mode := previous_game_mode.toInt8, reduced_debug_info, respawn_screen, limited_crafting
        debug, flat, portal_cooldown }

/-- A palette of one value, which needs no data array. -/
def palette : Reader UInt8 Int := do
  let bits ← one
  if bits ≠ 0 then failure
  else
    let value ← varInt
    let longs ← varInt
    if longs ≠ 0 then failure else return value

/-- A section: its count of blocks and its two palettes. -/
def chunkSection : Reader UInt8 Section := do
  let count ← exactly 2
  let block ← palette
  let biome ← palette
  return { block_count := bigEndian count, block, biome }

/-- Values after their number. -/
def counted {α : Type} (r : Reader UInt8 α) : Reader UInt8 (List α) := do
  let count ← varInt
  if count < 0 then failure else times count.toNat r

/-- The data of a chunk is read on its own, to its end. -/
def chunkSections : Reader UInt8 (List Section) := do
  let data ← login.byteArray (2 ^ 21)
  match whole (times overworldSectionCount chunkSection) data with
  | some sections => return sections
  | none => failure

/-- A chunk without block entities. -/
def mapChunk : Reader UInt8 Packet := do
  let x ← readUint32
  let z ← readUint32
  let heightmaps ← readDocument 1
  let sections ← chunkSections
  let block_entities ← varInt
  if block_entities ≠ 0 then failure
  else
    let sky_light_mask ← counted readUint64
    let block_light_mask ← counted readUint64
    let empty_sky_light_mask ← counted readUint64
    let empty_block_light_mask ← counted readUint64
    let sky_light ← counted (login.byteArray 2048)
    let block_light ← counted (login.byteArray 2048)
    return .MapChunk {
      x := x.toInt32, z := z.toInt32, heightmaps, sections, sky_light_mask, block_light_mask
      empty_sky_light_mask, empty_block_light_mask, sky_light, block_light }

/-- The number that the lowest bits of a word stand for in two's complement. -/
def signed (bits word : Nat) : Int :=
  if word % 2 ^ bits < 2 ^ (bits - 1) then word % 2 ^ bits else word % 2 ^ bits - 2 ^ bits

/-- A block position: 26 bits of x, 26 of z and 12 of y. -/
def spawnPosition : Reader UInt8 Packet := do
  let position ← readUint64
  let angle ← readUint32
  return .SpawnPosition (signed 26 (position.toNat / 2 ^ 38)) (signed 12 position.toNat)
    (signed 26 (position.toNat / 2 ^ 12)) angle

/-- Synchronize Player Position. -/
def positionLook : Reader UInt8 Packet := do
  let x ← readUint64
  let y ← readUint64
  let z ← readUint64
  let yaw ← readUint32
  let pitch ← readUint32
  let relative ← one
  let teleport_id ← varInt
  return .PositionLook x y z yaw pitch relative teleport_id

/-- The packets of the play state that a client in Limbo expects. -/
def packet : Reader UInt8 Packet := do
  let id ← varInt
  if id = ClientboundJoinGameID then joinGame
  else if id = ClientboundChunkBatchStartID then return .ChunkBatchStart
  else if id = ClientboundChunkBatchFinishedID then
    let size ← varInt
    return .ChunkBatchFinished size
  else if id = ClientboundMapChunkID then mapChunk
  else if id = ClientboundSpawnPositionID then spawnPosition
  else if id = ClientboundPositionLookID then positionLook
  else if id = ClientboundKeepAliveID then
    let id ← readUint64
    return .KeepAlive id.toInt64
  else if id = ClientboundStartConfigurationID then return .StartConfiguration
  else failure

end Client

/-- The packets that the gateway builds for a client in Limbo. -/
inductive LimboPacket where
  | JoinGame (config : JoinGameConfig)
  | ChunkBatchStart
  | ChunkBatchFinished (size : Int32)
  | VoidChunk (x z : Int32)
  | SpawnPosition (x y z : Int32) (angle : UInt32)
  | PositionLook (x y z : UInt64) (yaw pitch : UInt32) (teleport_id : Int32)
  | KeepAlive (id : Int64)
  | StartConfiguration

namespace LimboPacket

/-- The bytes of each packet, by the encoder that the server calls for it. -/
def payload : LimboPacket → Bytes
  | .JoinGame config => join_game_payload config
  | .ChunkBatchStart => chunk_batch_start_payload
  | .ChunkBatchFinished size => chunk_batch_finished_payload size
  | .VoidChunk x z => void_chunk_payload x z
  | .SpawnPosition x y z angle => spawn_position_payload x y z angle
  | .PositionLook x y z yaw pitch teleport_id => position_look_payload x y z yaw pitch teleport_id
  | .KeepAlive id => keep_alive_payload id
  | .StartConfiguration => start_configuration_payload

/-- A section of air. -/
def emptySection : Section where
  block_count := 0
  block := 0
  biome := 0

/-- A chunk of nothing but air in plains, without light. -/
def voidChunk (x z : Int32) : Chunk where
  x := x
  z := z
  heightmaps := []
  sections := List.replicate 24 emptySection
  sky_light_mask := []
  block_light_mask := []
  empty_sky_light_mask := [2 ^ 26 - 1]
  empty_block_light_mask := [2 ^ 26 - 1]
  sky_light := []
  block_light := []

/-- What the client is to understand. -/
def meaning : LimboPacket → Packet
  | .JoinGame config => .JoinGame config
  | .ChunkBatchStart => .ChunkBatchStart
  | .ChunkBatchFinished size => .ChunkBatchFinished size.toInt
  | .VoidChunk x z => .MapChunk (voidChunk x z)
  | .SpawnPosition x y z angle => .SpawnPosition x.toInt y.toInt z.toInt angle
  | .PositionLook x y z yaw pitch teleport_id => .PositionLook x y z yaw pitch 0 teleport_id.toInt
  | .KeepAlive id => .KeepAlive id
  | .StartConfiguration => .StartConfiguration

/-- Names are identifiers, and a block position lies in the range of its fields. -/
def Limits : LimboPacket → Prop
  | .JoinGame config =>
    login.Text 32767 config.world_name ∧ login.Text 32767 config.dimension_type ∧
      login.Text 32767 config.dimension_name
  | .SpawnPosition x y z _ =>
    (-2 ^ 25 ≤ x.toInt ∧ x.toInt < 2 ^ 25) ∧ (-2 ^ 11 ≤ y.toInt ∧ y.toInt < 2 ^ 11) ∧
      (-2 ^ 25 ≤ z.toInt ∧ z.toInt < 2 ^ 25)
  | _ => True

end LimboPacket

section Reads

theorem reads_varInt32 (value : Int32) : Reads varInt (append_var_int [] value.toInt) value.toInt := by
  have hreads := reads_varInt value.toInt
  rwa [Int32.ofInt_toInt] at hreads

theorem reads_int32 (value : Int32) : Reads int32 (append_var_int [] value.toInt) value := by
  have hreads : Reads int32 (append_var_int [] value.toInt) (.ofInt value.toInt) := (reads_varInt32 value).map
  rwa [Int32.ofInt_toInt] at hreads

theorem reads_bool (value : Bool) : Reads bool [if value then 1 else 0] value := by
  refine (reads_one _).bind_nil ?_
  cases value <;> exact Reads.pure

theorem join_game_payload_eq (config : JoinGameConfig) : join_game_payload config =
    append_var_int [] ClientboundJoinGameID ++ (put_uint32 config.entity_id.toUInt32 ++
      ([if config.hardcore then 1 else 0] ++ (append_var_int [] 1 ++ (append_string [] config.world_name ++
        (append_var_int [] config.max_players.toInt ++ (append_var_int [] config.view_distance.toInt ++
          (append_var_int [] config.simulation_distance.toInt ++ ([if config.reduced_debug_info then 1 else 0] ++
            ([if config.respawn_screen then 1 else 0] ++ ([if config.limited_crafting then 1 else 0] ++
              (append_string [] config.dimension_type ++ (append_string [] config.dimension_name ++
                (put_uint64 config.hashed_seed.toUInt64 ++ ([config.game_mode] ++
                  ([config.previous_game_mode.toUInt8] ++ ([if config.debug then 1 else 0] ++
                    ([if config.flat then 1 else 0] ++ ([if false then 1 else 0] ++
                      append_var_int [] config.portal_cooldown.toInt)))))))))))))))))) := by
  simp [join_game_payload, append_string, append_var_int, append_bool]

/-- A client reads the configuration from Join Game. -/
theorem reads_joinGame {config : JoinGameConfig} (h : (LimboPacket.JoinGame config).Limits) :
    Reads packet (join_game_payload config) (.JoinGame config) := by
  obtain ⟨hworld, htype, hname⟩ := h
  rw [join_game_payload_eq]
  refine (forwarding.reads_int (by decide) (by decide)).bind ?_
  change Reads joinGame _ _
  refine (reads_readUint32 _).bind ((reads_bool _).bind ?_)
  refine (forwarding.reads_int (by decide) (by decide)).bind (.guarded (by decide) ?_)
  refine (login.reads_text hworld (by decide)).bind ?_
  refine (reads_int32 _).bind ((reads_int32 _).bind ((reads_int32 _).bind ?_))
  refine (reads_bool _).bind ((reads_bool _).bind ((reads_bool _).bind ?_))
  refine (login.reads_text htype (by decide)).bind ((login.reads_text hname (by decide)).bind ?_)
  refine (reads_readUint64 _).bind ((reads_one _).bind ((reads_one _).bind ?_))
  refine (reads_bool _).bind ((reads_bool _).bind ((reads_bool false).bind ?_))
  exact (reads_int32 _).map

/-- An anonymous compound without fields. -/
theorem reads_emptyDocument : Reads (readDocument 1) [10, 0] [] := by
  intro rest
  rfl

/-- A client reads 24 empty sections from the data of a chunk. -/
theorem reads_chunkSections : Reads chunkSections
    (append_var_int [] (List.replicate overworldSectionCount emptySectionData).flatten.length ++
      (List.replicate overworldSectionCount emptySectionData).flatten)
    (List.replicate 24 LimboPacket.emptySection) := by
  have hsection : Reads chunkSection emptySectionData LimboPacket.emptySection := by
    intro rest
    rfl
  have hsections : Reads (times (List.replicate 24 ()).length chunkSection)
      ((List.replicate 24 ()).flatMap fun _ => emptySectionData)
      ((List.replicate 24 ()).map fun _ => LimboPacket.emptySection) :=
    reads_times fun _ _ => hsection
  have hwhole : whole (times overworldSectionCount chunkSection)
      (List.replicate overworldSectionCount emptySectionData).flatten =
        some (List.replicate 24 LimboPacket.emptySection) := hsections.whole
  have hsize : (List.replicate overworldSectionCount emptySectionData).flatten.length ≤ 2 ^ 21 := by
    decide +kernel
  refine (login.reads_byteArray hsize (by decide)).bind_nil ?_
  rw [hwhole]
  exact Reads.pure

theorem reads_none {α : Type} (r : Reader UInt8 α) : Reads (counted r) (append_var_int [] 0) [] :=
  (forwarding.reads_int (by decide) (by decide)).bind_nil (.guarded (by decide) .pure)

theorem reads_lightMask (mask : UInt64) :
    Reads (counted readUint64) (append_var_int [] 1 ++ put_uint64 mask) [mask] :=
  (forwarding.reads_int (by decide) (by decide)).bind (.guarded (by decide) (reads_readUint64 mask).map)

theorem void_chunk_payload_eq (x z : Int32) : void_chunk_payload x z =
    append_var_int [] ClientboundMapChunkID ++ (put_uint32 x.toUInt32 ++ (put_uint32 z.toUInt32 ++ ([10, 0] ++
      ((append_var_int [] (List.replicate overworldSectionCount emptySectionData).flatten.length ++
          (List.replicate overworldSectionCount emptySectionData).flatten) ++
        (append_var_int [] 0 ++ (append_var_int [] 0 ++ (append_var_int [] 0 ++
          ((append_var_int [] 1 ++ put_uint64 overworldLightSectionMask) ++
            ((append_var_int [] 1 ++ put_uint64 overworldLightSectionMask) ++
              (append_var_int [] 0 ++ append_var_int [] 0)))))))))) := by
  simp only [void_chunk_payload, append_int32, append_light_mask, append_var_int, List.nil_append, List.append_assoc]

theorem reads_voidChunk (x z : Int32) :
    Reads packet (void_chunk_payload x z) (.MapChunk (LimboPacket.voidChunk x z)) := by
  rw [void_chunk_payload_eq]
  refine (forwarding.reads_int (by decide) (by decide)).bind ?_
  change Reads mapChunk _ _
  refine (reads_readUint32 _).bind ((reads_readUint32 _).bind (reads_emptyDocument.bind ?_))
  refine reads_chunkSections.bind ?_
  refine (forwarding.reads_int (by decide) (by decide)).bind (.guarded (by decide) ?_)
  refine (reads_none _).bind ((reads_none _).bind ?_)
  refine (reads_lightMask _).bind ((reads_lightMask _).bind ?_)
  exact (reads_none _).bind (reads_none _).map

/-- The fields of a packed position do not overlap. -/
theorem toNat_pack (x y z : Int32) : (pack x y z).toNat =
    x.toUInt32.toNat % 2 ^ 26 * 2 ^ 38 + (z.toUInt32.toNat % 2 ^ 26 * 2 ^ 12 + y.toUInt32.toNat % 2 ^ 12) := by
  have hmask : ∀ n : Nat, n &&& 0x3ffffff = n % 2 ^ 26 := fun n => Nat.and_two_pow_sub_one_eq_mod n 26
  have hmask' : ∀ n : Nat, n &&& 0xfff = n % 2 ^ 12 := fun n => Nat.and_two_pow_sub_one_eq_mod n 12
  have hx : x.toUInt32.toNat % 2 ^ 26 < 2 ^ 26 := Nat.mod_lt _ (by decide)
  have hz : z.toUInt32.toNat % 2 ^ 26 < 2 ^ 26 := Nat.mod_lt _ (by decide)
  have hy : y.toUInt32.toNat % 2 ^ 12 < 2 ^ 12 := Nat.mod_lt _ (by decide)
  simp only [pack, UInt64.toNat_or, UInt64.toNat_shiftLeft, UInt32.toNat_toUInt64, UInt32.toNat_and,
    UInt32.reduceToNat, UInt64.reduceToNat, hmask, hmask', Nat.reduceMod]
  generalize x.toUInt32.toNat % 2 ^ 26 = high at hx ⊢
  generalize z.toUInt32.toNat % 2 ^ 26 = middle at hz ⊢
  generalize y.toUInt32.toNat % 2 ^ 12 = low at hy ⊢
  have hhigh : high <<< 38 % 2 ^ 64 = high <<< 38 := by
    rw [Nat.shiftLeft_eq]
    omega
  have hmiddle : middle <<< 12 % 2 ^ 64 = middle <<< 12 := by
    rw [Nat.shiftLeft_eq]
    omega
  rw [hhigh, hmiddle, Nat.or_assoc, ← Nat.shiftLeft_add_eq_or_of_lt hy, Nat.shiftLeft_eq middle,
    ← Nat.shiftLeft_add_eq_or_of_lt (by omega), Nat.shiftLeft_eq]

theorem toNat_toUInt32 (value : Int32) : (value.toUInt32.toNat : Int) = value.toInt % 2 ^ 32 := by
  have hunsigned : value.toUInt32.toNat = value.toBitVec.toNat := rfl
  have hsigned : value.toInt = value.toBitVec.toInt := rfl
  have hlt := value.toBitVec.isLt
  rw [hunsigned, hsigned, BitVec.toInt_eq_toNat_cond]
  split <;> omega

/-- A client reads the spawn position, of which 26, 26 and 12 bits are sent. -/
theorem reads_spawnPosition {x y z : Int32} {angle : UInt32} (h : (LimboPacket.SpawnPosition x y z angle).Limits) :
    Reads packet (spawn_position_payload x y z angle) (.SpawnPosition x.toInt y.toInt z.toInt angle) := by
  obtain ⟨⟨hxlow, hxhigh⟩, ⟨hylow, hyhigh⟩, ⟨hzlow, hzhigh⟩⟩ := h
  have hpayload : spawn_position_payload x y z angle =
      append_var_int [] ClientboundSpawnPositionID ++ (put_uint64 (pack x y z) ++ put_uint32 angle) := by
    simp [spawn_position_payload, append_float32]
  have hpack := toNat_pack x y z
  have hx := toNat_toUInt32 x
  have hy := toNat_toUInt32 y
  have hz := toNat_toUInt32 z
  have hreadX : signed 26 ((pack x y z).toNat / 2 ^ 38) = x.toInt := by
    unfold signed
    split <;> omega
  have hreadY : signed 12 (pack x y z).toNat = y.toInt := by
    unfold signed
    split <;> omega
  have hreadZ : signed 26 ((pack x y z).toNat / 2 ^ 12) = z.toInt := by
    unfold signed
    split <;> omega
  rw [hpayload, ← hreadX, ← hreadY, ← hreadZ]
  refine (forwarding.reads_int (by decide) (by decide)).bind ?_
  change Reads spawnPosition _ _
  exact (reads_readUint64 _).bind (reads_readUint32 _).map

/-- A client reads its position and direction, both absolute. -/
theorem reads_positionLook (x y z : UInt64) (yaw pitch : UInt32) (teleport_id : Int32) :
    Reads packet (position_look_payload x y z yaw pitch teleport_id)
      (.PositionLook x y z yaw pitch 0 teleport_id.toInt) := by
  have hpayload : position_look_payload x y z yaw pitch teleport_id =
      append_var_int [] ClientboundPositionLookID ++ (put_uint64 x ++ (put_uint64 y ++ (put_uint64 z ++
        (put_uint32 yaw ++ (put_uint32 pitch ++ ([0] ++ append_var_int [] teleport_id.toInt)))))) := by
    simp [position_look_payload, append_float64, append_float32, append_var_int]
  rw [hpayload]
  refine (forwarding.reads_int (by decide) (by decide)).bind ?_
  change Reads positionLook _ _
  refine (reads_readUint64 _).bind ((reads_readUint64 _).bind ((reads_readUint64 _).bind ?_))
  refine (reads_readUint32 _).bind ((reads_readUint32 _).bind ((reads_one _).bind ?_))
  exact (reads_varInt32 _).map

end Reads

/-- A client understands every packet that the gateway builds for it in Limbo: the
bytes decode, to their end, to what the packet was built from. -/
theorem limbo_packets_understood (p : LimboPacket) (h : p.Limits) : whole packet p.payload = some p.meaning := by
  suffices hreads : Reads packet p.payload p.meaning from hreads.whole
  cases p with
  | JoinGame config => exact reads_joinGame h
  | VoidChunk x z => exact reads_voidChunk x z
  | SpawnPosition x y z angle => exact reads_spawnPosition h
  | PositionLook x y z yaw pitch teleport_id => exact reads_positionLook x y z yaw pitch teleport_id
  | ChunkBatchStart =>
    exact (forwarding.reads_int (by decide) (by decide)).bind_nil Reads.pure
  | StartConfiguration =>
    exact (forwarding.reads_int (by decide) (by decide)).bind_nil Reads.pure
  | ChunkBatchFinished size =>
    have hpayload : chunk_batch_finished_payload size =
        append_var_int [] ClientboundChunkBatchFinishedID ++ append_var_int [] size.toInt := by
      simp [chunk_batch_finished_payload, append_var_int]
    rw [LimboPacket.payload, hpayload]
    exact (forwarding.reads_int (by decide) (by decide)).bind (reads_varInt32 size).map
  | KeepAlive id =>
    exact (forwarding.reads_int (by decide) (by decide)).bind (reads_readUint64 _).map

/-- The packets with which `serveLimbo` begins; the player spawns at (0.5, 64, 0.5). -/
def limboJoin : List LimboPacket :=
  [.JoinGame {
      entity_id := 1, hardcore := false, world_name := literal "minecraft:overworld", max_players := 1
      view_distance := 8, simulation_distance := 8, dimension_type := literal "minecraft:overworld"
      dimension_name := literal "minecraft:overworld", hashed_seed := 0, game_mode := 2
      previous_game_mode := -1, reduced_debug_info := false, respawn_screen := true, limited_crafting := false
      debug := false, flat := false, portal_cooldown := 0 },
    .ChunkBatchStart, .VoidChunk 0 0, .ChunkBatchFinished 1, .SpawnPosition 0 64 0 0,
    .PositionLook 0x3fe0000000000000 0x4050000000000000 0x3fe0000000000000 0 0 1]

/-- The packets with which a client enters Limbo. -/
theorem limbo_packets_understood_on_join :
    limboJoin.map (fun p => whole packet p.payload) = limboJoin.map (fun p => some p.meaning) := by
  have hworld : login.Text 32767 (literal "minecraft:overworld") := ⟨⟨19, by decide, by decide⟩, by decide⟩
  have hlimits : ∀ p ∈ limboJoin, p.Limits := by
    simp only [limboJoin, List.forall_mem_cons]
    refine ⟨⟨hworld, hworld, hworld⟩, trivial, trivial, trivial, ?_, trivial, by simp⟩
    simp only [LimboPacket.Limits]
    decide
  exact List.map_congr_left fun p hp => limbo_packets_understood p (hlimits p hp)

end regiongate.play
