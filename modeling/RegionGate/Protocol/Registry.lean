import RegionGate.Protocol.Nbt

open regiongate.codec

namespace regiongate.configuration

/-- A damage type of the game, with the bits of its exhaustion. -/
structure DamageType where
  name : String
  message_id : String
  scaling : String
  effects : String
  death_message_type : String
  exhaustion : UInt32

/-- The bits of the float 0.1. -/
def tenth : UInt32 := 0x3dcccccd

/-- The table of `minimalDamageTypes`. -/
def damage_types : List DamageType := [
  ⟨"minecraft:arrow", "arrow", "when_caused_by_living_non_player", "", "", tenth⟩,
  ⟨"minecraft:bad_respawn_point", "badRespawnPoint", "always", "", "intentional_game_design", tenth⟩,
  ⟨"minecraft:cactus", "cactus", "when_caused_by_living_non_player", "", "", tenth⟩,
  ⟨"minecraft:cramming", "cramming", "when_caused_by_living_non_player", "", "", 0⟩,
  ⟨"minecraft:dragon_breath", "dragonBreath", "when_caused_by_living_non_player", "", "", 0⟩,
  ⟨"minecraft:drown", "drown", "when_caused_by_living_non_player", "drowning", "", 0⟩,
  ⟨"minecraft:dry_out", "dryout", "when_caused_by_living_non_player", "", "", tenth⟩,
  ⟨"minecraft:explosion", "explosion", "always", "", "", tenth⟩,
  ⟨"minecraft:fall", "fall", "when_caused_by_living_non_player", "", "fall_variants", 0⟩,
  ⟨"minecraft:falling_anvil", "anvil", "when_caused_by_living_non_player", "", "", tenth⟩,
  ⟨"minecraft:falling_block", "fallingBlock", "when_caused_by_living_non_player", "", "", tenth⟩,
  ⟨"minecraft:falling_stalactite", "fallingStalactite", "when_caused_by_living_non_player", "", "", tenth⟩,
  ⟨"minecraft:fireball", "fireball", "when_caused_by_living_non_player", "burning", "", tenth⟩,
  ⟨"minecraft:fireworks", "fireworks", "when_caused_by_living_non_player", "", "", tenth⟩,
  ⟨"minecraft:fly_into_wall", "flyIntoWall", "when_caused_by_living_non_player", "", "", 0⟩,
  ⟨"minecraft:freeze", "freeze", "when_caused_by_living_non_player", "freezing", "", 0⟩,
  ⟨"minecraft:generic", "generic", "when_caused_by_living_non_player", "", "", 0⟩,
  ⟨"minecraft:generic_kill", "genericKill", "when_caused_by_living_non_player", "", "", 0⟩,
  ⟨"minecraft:hot_floor", "hotFloor", "when_caused_by_living_non_player", "burning", "", tenth⟩,
  ⟨"minecraft:in_fire", "inFire", "when_caused_by_living_non_player", "burning", "", tenth⟩,
  ⟨"minecraft:in_wall", "inWall", "when_caused_by_living_non_player", "", "", 0⟩,
  ⟨"minecraft:indirect_magic", "indirectMagic", "when_caused_by_living_non_player", "", "", 0⟩,
  ⟨"minecraft:lava", "lava", "when_caused_by_living_non_player", "burning", "", tenth⟩,
  ⟨"minecraft:lightning_bolt", "lightningBolt", "when_caused_by_living_non_player", "", "", tenth⟩,
  ⟨"minecraft:magic", "magic", "when_caused_by_living_non_player", "", "", 0⟩,
  ⟨"minecraft:mob_attack", "mob", "when_caused_by_living_non_player", "", "", tenth⟩,
  ⟨"minecraft:mob_attack_no_aggro", "mob", "when_caused_by_living_non_player", "", "", tenth⟩,
  ⟨"minecraft:mob_projectile", "mob", "when_caused_by_living_non_player", "", "", tenth⟩,
  ⟨"minecraft:on_fire", "onFire", "when_caused_by_living_non_player", "burning", "", 0⟩,
  ⟨"minecraft:out_of_world", "outOfWorld", "when_caused_by_living_non_player", "", "", 0⟩,
  ⟨"minecraft:outside_border", "outsideBorder", "when_caused_by_living_non_player", "", "", 0⟩,
  ⟨"minecraft:player_attack", "player", "when_caused_by_living_non_player", "", "", tenth⟩,
  ⟨"minecraft:player_explosion", "explosion.player", "always", "", "", tenth⟩,
  ⟨"minecraft:sonic_boom", "sonic_boom", "always", "", "", 0⟩,
  ⟨"minecraft:stalagmite", "stalagmite", "when_caused_by_living_non_player", "", "", 0⟩,
  ⟨"minecraft:starve", "starve", "when_caused_by_living_non_player", "", "", 0⟩,
  ⟨"minecraft:sting", "sting", "when_caused_by_living_non_player", "", "", tenth⟩,
  ⟨"minecraft:sweet_berry_bush", "sweetBerryBush", "when_caused_by_living_non_player", "poking", "", tenth⟩,
  ⟨"minecraft:thorns", "thorns", "when_caused_by_living_non_player", "thorns", "", tenth⟩,
  ⟨"minecraft:thrown", "thrown", "when_caused_by_living_non_player", "", "", tenth⟩,
  ⟨"minecraft:trident", "trident", "when_caused_by_living_non_player", "", "", tenth⟩,
  ⟨"minecraft:unattributed_fireball", "onFire", "when_caused_by_living_non_player", "burning", "", tenth⟩,
  ⟨"minecraft:wither", "wither", "when_caused_by_living_non_player", "", "", 0⟩,
  ⟨"minecraft:wither_skull", "witherSkull", "when_caused_by_living_non_player", "", "", tenth⟩]

/-- An entry of a registry. -/
def registry_entry (name : String) (id : Int32) (element : Compound) : Compound :=
  ((Compound.new.string (literal "name") (literal name)).int (literal "id") id).compound (literal "element") element

/-- An entry of the damage type registry; empty texts of the table are left out. -/
def DamageType.entry (typ : DamageType) (id : Nat) : Compound :=
  let element := ((Compound.new.string (literal "message_id") (literal typ.message_id)).string
    (literal "scaling") (literal typ.scaling)).float (literal "exhaustion") typ.exhaustion
  let element := if typ.effects ≠ "" then element.string (literal "effects") (literal typ.effects) else element
  let element :=
    if typ.death_message_type ≠ "" then
      element.string (literal "death_message_type") (literal typ.death_message_type)
    else element
  registry_entry typ.name (Int32.ofNat id) element

/-- `minimalDamageTypes`: the entries are numbered in the order of the table. -/
def minimal_damage_types : List Compound := damage_types.mapIdx fun id typ => typ.entry id

/-- The element of the overworld in the registry of dimension types. -/
def overworld : Compound :=
  let c := Compound.new
  let c := c.byte (literal "piglin_safe") 0
  let c := c.byte (literal "natural") 1
  let c := c.float (literal "ambient_light") 0
  let c := c.string (literal "infiniburn") (literal "#minecraft:infiniburn_overworld")
  let c := c.byte (literal "respawn_anchor_works") 0
  let c := c.byte (literal "has_skylight") 1
  let c := c.byte (literal "bed_works") 1
  let c := c.string (literal "effects") (literal "minecraft:overworld")
  let c := c.byte (literal "has_raids") 1
  let c := c.int (literal "min_y") (-64)
  let c := c.int (literal "height") 384
  let c := c.int (literal "logical_height") 384
  let c := c.double (literal "coordinate_scale") 0x3ff0000000000000
  let c := c.byte (literal "ultrawarm") 0
  let c := c.byte (literal "has_ceiling") 0
  let c := c.int (literal "monster_spawn_block_light_limit") 0
  c.int (literal "monster_spawn_light_level") 0

/-- The plains, with a temperature of 0.8 and a downfall of 0.4. -/
def plains : Compound :=
  let effects := Compound.new
  let effects := effects.int (literal "sky_color") 7907327
  let effects := effects.int (literal "water_fog_color") 329011
  let effects := effects.int (literal "fog_color") 12638463
  let effects := effects.int (literal "water_color") 4159204
  let c := Compound.new
  let c := c.byte (literal "has_precipitation") 1
  let c := c.float (literal "temperature") 0x3f4ccccd
  let c := c.float (literal "downfall") 0x3ecccccd
  c.compound (literal "effects") effects

/-- One decoration of a chat type. -/
def chat_decoration (translation_key : String) : Compound :=
  (Compound.new.string (literal "translation_key") (literal translation_key)).list_of_strings
    (literal "parameters") [literal "sender", literal "content"]

/-- The only chat type. -/
def chat : Compound :=
  (Compound.new.compound (literal "chat") (chat_decoration "chat.type.text")).compound
    (literal "narration") (chat_decoration "chat.type.text.narrate")

/-- A registry with its entries. -/
def add_registry (c : Compound) (name : String) (values : List Compound) : Compound :=
  c.compound (literal name)
    ((Compound.new.string (literal "type") (literal name)).list_of_compounds (literal "value") values)

/-- The registries that describe the overworld of the limbo. -/
def minimal_registry_data : Compound :=
  let c := Compound.new
  let c := add_registry c "minecraft:dimension_type" [registry_entry "minecraft:overworld" 0 overworld]
  let c := add_registry c "minecraft:worldgen/biome" [registry_entry "minecraft:plains" 0 plains]
  let c := add_registry c "minecraft:chat_type" [registry_entry "minecraft:chat" 0 chat]
  add_registry c "minecraft:damage_type" minimal_damage_types

/-- `RegistryDataPayload`. -/
def registry_data_payload (registry : Compound) : Except Error Bytes :=
  match registry.encode (2 * 2 ^ 20) with
  | .error e => .error e
  | .ok nbt => .ok (append_var_int [] 0x05 ++ nbt)

theorem minimal_registry_payload_length :
    (registry_data_payload minimal_registry_data).toOption.map List.length = some 7159 := by
  decide +kernel

/-- The document is encoded, in a fraction of the default packet limit. -/
theorem minimal_registry_payload :
    ∃ registry, registry_data_payload minimal_registry_data = .ok registry ∧ registry.length = 7159 := by
  obtain ⟨registry, hregistry, hlength⟩ := Option.map_eq_some_iff.mp minimal_registry_payload_length
  generalize registry_data_payload minimal_registry_data = encoded at hregistry
  cases encoded with
  | error e => cases hregistry
  | ok payload =>
    cases hregistry
    exact ⟨registry, rfl, hlength⟩

end regiongate.configuration
