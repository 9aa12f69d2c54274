import RegionGate.Codec.RoundTrip
import RegionGate.Codec.Utf8

namespace regiongate.codec

/-- Valid UTF-8 of at most `maxChars` code points and three bytes for each. -/
structure Limited (maxChars : Nat) (value : Bytes) : Prop where
  valid : ∃ text : List Char, utf8 text = value ∧ text.length ≤ maxChars
  size : value.length ≤ 3 * maxChars

/-- `data` begins with the length of `value` as a VarInt, followed by `value`. -/
structure StringAt (maxChars : Nat) (data value : Bytes) (size : Nat) : Prop where
  length : ∃ used, consume_var_int data = .ok ((value.length : Int), used) ∧ size = used + value.length ∧
    size ≤ data.length ∧ value = (data.drop used).take value.length
  limited : Limited maxChars value

/-- What `ConsumeString` accepts, with its limit as the code computes it. -/
theorem consume_string_eq_ok {data value : Bytes} {maxChars size : Nat} :
    consume_string data maxChars = .ok (value, size) ↔
      ∃ n used, consume_var_int data = .ok (n, used) ∧ 0 ≤ n ∧ n ≤ wrap64 (maxChars * 3) ∧
        used + n.toNat ≤ data.length ∧ value = (data.drop used).take n.toNat ∧ size = used + n.toNat ∧
        ∃ text : List Char, utf8 text = value ∧ text.length ≤ maxChars := by
  constructor
  · intro h
    rw [consume_string] at h
    split at h
    · cases h
    · rename_i n used hconsume
      split at h
      · cases h
      · rename_i hlength
        dsimp only at h
        split at h
        · cases h
        · rename_i hfits
          split at h
          · cases h
          · rename_i count hcount
            obtain ⟨text, htext, rfl⟩ := rune_count_eq_some.mp hcount
            rw [List.drop_take, Nat.add_sub_cancel_left] at h htext
            split at h
            · cases h
            · cases h
              exact ⟨n, used, hconsume, by omega, by omega, by omega, rfl, rfl, text, htext, by omega⟩
  · rintro ⟨n, used, hconsume, hlow, hhigh, hfits, rfl, rfl, text, htext, hchars⟩
    have hcount := rune_count_eq_some.mpr ⟨text, htext, rfl⟩
    rw [consume_string, hconsume]
    dsimp only
    rw [if_neg (by omega), if_neg (by omega), List.drop_take, Nat.add_sub_cancel_left, hcount]
    dsimp only
    rw [if_neg (by omega)]

/-- A string that is read fits in the length of a VarInt. -/
theorem consume_string_length {data value : Bytes} {maxChars size : Nat}
    (h : consume_string data maxChars = .ok (value, size)) : value.length < 2 ^ 31 := by
  obtain ⟨n, used, hconsume, _, _, _, rfl, _⟩ := consume_string_eq_ok.mp h
  obtain ⟨_, hhigh, _⟩ := consume_var_int_bounds hconsume
  rw [List.length_take]
  omega

/-- While the limit is computed without overflow, the grammar is the intended
one. -/
theorem consume_string_iff {data value : Bytes} {maxChars size : Nat} (hlimit : 3 * maxChars < 2 ^ 63) :
    consume_string data maxChars = .ok (value, size) ↔ StringAt maxChars data value size := by
  rw [consume_string_eq_ok, wrap64_of_lt (by omega) (by omega)]
  constructor
  · rintro ⟨n, used, hconsume, hlow, hhigh, hfits, rfl, rfl, htext⟩
    have hlength : ((data.drop used).take n.toNat).length = n.toNat := by
      rw [List.length_take, List.length_drop]
      omega
    refine ⟨⟨used, ?_, ?_, hfits, ?_⟩, htext, ?_⟩
    · rw [hlength, Int.toNat_of_nonneg hlow, hconsume]
    · rw [hlength]
    · rw [hlength]
    · omega
  · rintro ⟨⟨used, hconsume, rfl, hfits, hvalue⟩, htext, hsize⟩
    refine ⟨value.length, used, hconsume, by omega, by omega, ?_, ?_, ?_, htext⟩
    · simpa using hfits
    · simpa using hvalue
    · simp

/-- A string within its limit is read back from before anything else. -/
theorem stringAt_append {maxChars : Nat} {value : Bytes} (h : Limited maxChars value) (hlimit : 3 * maxChars < 2 ^ 31)
    (rest : Bytes) : StringAt maxChars (append_string [] value ++ rest) value (append_string [] value).length := by
  have hsize := h.size
  refine ⟨⟨(append_var_int [] value.length).length, ?_, ?_, ?_, ?_⟩, h⟩
  · rw [append_string, List.append_assoc]
    exact consume_append_var_int (by omega) (by omega) _
  · rw [append_string, List.length_append]
  · rw [List.length_append]
    omega
  · rw [append_string, List.append_assoc, List.drop_left, List.take_left]

/-- As many characters of three bytes as the limit allows. -/
theorem limited_replicate (maxChars : Nat) :
    Limited maxChars (utf8 (List.replicate maxChars (Char.ofNat 0x800))) ∧
      (utf8 (List.replicate maxChars (Char.ofNat 0x800))).length = 3 * maxChars := by
  have hlength : (utf8 (List.replicate maxChars (Char.ofNat 0x800))).length = 3 * maxChars := by
    have hthree : (String.utf8EncodeChar (Char.ofNat 0x800)).length = 3 := by decide
    rw [utf8, List.length_flatMap, List.map_replicate, List.sum_replicate_nat, hthree, Nat.mul_comm]
  exact ⟨⟨⟨_, rfl, by rw [List.length_replicate]⟩, hlength.le⟩, hlength⟩

end regiongate.codec
