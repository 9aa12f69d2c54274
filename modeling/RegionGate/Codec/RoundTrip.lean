import RegionGate.Codec.VarInt

namespace regiongate.codec

/-- `ConsumeVarInt` undoes `AppendVarInt` on every 32-bit value. -/
theorem consume_append_var_int {value : Int} (hlow : -2 ^ 31 ≤ value) (hhigh : value < 2 ^ 31)
    (rest : Bytes) :
    consume_var_int (append_var_int [] value ++ rest) =
      .ok (value, (append_var_int [] value).length) := by
  rw [consume_append_wrapped, Int32.toInt_ofInt_of_le hlow hhigh]

theorem consume_append_var_int_alone {value : Int} (hlow : -2 ^ 31 ≤ value) (hhigh : value < 2 ^ 31) :
    consume_var_int (append_var_int [] value) = .ok (value, (append_var_int [] value).length) := by
  have hread := consume_append_var_int hlow hhigh []
  rwa [List.append_nil] at hread

/-- A packet identifier fails to decode with one of the three VarInt errors. -/
theorem packet_id_error {payload : Bytes} {e : Error} (h : packet_id payload = .error e) :
    e = .VarIntTooLong ∨ e = .VarIntPartial ∨ e = .VarIntOverflow := by
  unfold packet_id at h
  split at h
  · rename_i e' hconsume
    cases h
    exact consume_from_error hconsume
  · cases h

/-- What comes behind a payload goes to its body. -/
theorem packet_id_append_right {payload body : Bytes} {id : Int} (h : packet_id payload = .ok (id, body))
    (rest : Bytes) : packet_id (payload ++ rest) = .ok (id, body ++ rest) := by
  unfold packet_id at h
  split at h
  · cases h
  · rename_i id' size hconsume
    obtain ⟨_, _, _, _, hsize⟩ := consume_var_int_bounds hconsume
    cases h
    rw [packet_id, consume_var_int_append hconsume]
    dsimp only
    rw [List.drop_append_of_le_length hsize]

/-- A packet identifier is read back, with the body untouched. -/
theorem packet_id_append {id : Int} (hlow : -2 ^ 31 ≤ id) (hhigh : id < 2 ^ 31) (body : Bytes) :
    packet_id (append_var_int [] id ++ body) = .ok (id, body) := by
  rw [packet_id, consume_append_var_int hlow hhigh]
  simp

end regiongate.codec
