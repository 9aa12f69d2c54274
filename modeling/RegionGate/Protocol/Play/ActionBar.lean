import RegionGate.Protocol.Nbt

open regiongate.codec regiongate.configuration

namespace regiongate.play

/-- Set Action Bar Text. -/
def ClientboundActionBarID : Int := 0x4a

/-- The name of the only field, "text". -/
def textField : Bytes := [0x74, 0x65, 0x78, 0x74]

/-- `ActionBarPayload`: a text component with the text alone. -/
def action_bar_payload (text : Bytes) : Except Error Bytes := do
  let component ← (Compound.new.string textField text).encode (64 * 2 ^ 10)
  return append_var_int [] ClientboundActionBarID ++ component

/-- The document that shows a text. -/
def actionBarDocument (text : Bytes) : Bytes := nbtCompound :: (Compound.new.string textField text).encode_payload

theorem actionBarDocument_length (text : Bytes) : (actionBarDocument text).length = text.length + 11 := by
  have hname : (append_string_payload textField).length = 6 := rfl
  have hsize : (put_uint16 (.ofNat text.length)).length = 2 := rfl
  rw [actionBarDocument, encode_payload_string]
  simp only [List.length_cons, List.length_append, hname, hsize, List.length_nil]
  omega

theorem action_bar_payload_eq (text : Bytes) :
    action_bar_payload text =
      if 64 * 2 ^ 10 < (actionBarDocument text).length then .error .NBTTooLarge
      else .ok (append_var_int [] ClientboundActionBarID ++ actionBarDocument text) := by
  have hencode : (Compound.new.string textField text).encode (64 * 2 ^ 10) =
      if ((actionBarDocument text).length : Int) > 64 * 2 ^ 10 then .error .NBTTooLarge
      else .ok (actionBarDocument text) := rfl
  rw [action_bar_payload, hencode]
  by_cases hlarge : 64 * 2 ^ 10 < (actionBarDocument text).length
  · rw [if_pos hlarge, if_pos (by omega)]
    rfl
  · rw [if_neg hlarge, if_neg (by omega)]
    rfl

/-- A text that is sent is read back whole, and only a document of more than
64 KiB is refused. With eleven bytes around the text, the limit keeps its
16-bit length from wrapping. -/
theorem action_bar_text_survives (text : Bytes) :
    (∀ payload, action_bar_payload text = .ok payload →
      ∃ body, packet_id payload = .ok (ClientboundActionBarID, body) ∧
        decodeDocument body = some [(textField, .String text)]) ∧
    (∀ e, action_bar_payload text = .error e ↔ e = .NBTTooLarge ∧ 64 * 2 ^ 10 < (actionBarDocument text).length) := by
  rw [action_bar_payload_eq]
  by_cases hlarge : 64 * 2 ^ 10 < (actionBarDocument text).length
  · rw [if_pos hlarge]
    constructor
    · rintro payload ⟨⟩
    · intro e
      constructor
      · rintro ⟨⟩
        exact ⟨rfl, hlarge⟩
      · rintro ⟨rfl, _⟩
        rfl
  · rw [if_neg hlarge]
    have hlength := actionBarDocument_length text
    have hbuilds : Builds (· < 2 ^ 16) (· < 2 ^ 31) (Compound.new.string textField text)
        [(textField, .String text)] := Builds.new.string (by decide) (by omega)
    constructor
    · rintro payload ⟨⟩
      exact ⟨_, packet_id_append (by decide) (by decide) _, hbuilds.decodeDocument⟩
    · intro e
      constructor
      · rintro ⟨⟩
      · rintro ⟨_, h⟩
        exact absurd h hlarge

end regiongate.play
