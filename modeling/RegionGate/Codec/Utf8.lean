import RegionGate.Codec

namespace regiongate.codec

/-- The UTF-8 encoding of a text. -/
def utf8 (text : List Char) : Bytes := text.flatMap String.utf8EncodeChar

/-- The byte patterns of one character that `utf8.Valid` accepts. -/
inductive Rune : Bytes → Prop where
  | one {b0 : UInt8} (h0 : b0 < 0x80) : Rune [b0]
  | two {b0 b1 : UInt8} (h0 : 0xc2 ≤ b0 ∧ b0 ≤ 0xdf) (h1 : 0x80 ≤ b1 ∧ b1 ≤ 0xbf) : Rune [b0, b1]
  | three {b0 b1 b2 : UInt8} (h0 : 0xe0 ≤ b0 ∧ b0 ≤ 0xef) (hlow : 0x80 ≤ b1 ∧ (b0 = 0xe0 → 0xa0 ≤ b1))
      (hhigh : b1 ≤ 0xbf ∧ (b0 = 0xed → b1 ≤ 0x9f)) (h2 : 0x80 ≤ b2 ∧ b2 ≤ 0xbf) : Rune [b0, b1, b2]
  | four {b0 b1 b2 b3 : UInt8} (h0 : 0xf0 ≤ b0 ∧ b0 ≤ 0xf4) (hlow : 0x80 ≤ b1 ∧ (b0 = 0xf0 → 0x90 ≤ b1))
      (hhigh : b1 ≤ 0xbf ∧ (b0 = 0xf4 → b1 ≤ 0x8f)) (h2 : 0x80 ≤ b2 ∧ b2 ≤ 0xbf) (h3 : 0x80 ≤ b3 ∧ b3 ≤ 0xbf) :
      Rune [b0, b1, b2, b3]

section Bounds

variable {b x y : UInt8} {p : Prop} [Decidable p]

/-- A lower bound that some lead bytes raise. -/
theorem ite_le_iff (h : y ≤ x) : (if p then x else y) ≤ b ↔ y ≤ b ∧ (p → x ≤ b) := by
  by_cases hp : p
  · simpa [hp] using UInt8.le_trans h
  · simp [hp]

theorem le_ite_iff (h : x ≤ y) : (b ≤ if p then x else y) ↔ b ≤ y ∧ (p → b ≤ x) := by
  by_cases hp : p
  · simpa [hp] using fun hx => UInt8.le_trans hx h
  · simp [hp]

end Bounds

theorem Rune.rune_count {bytes : Bytes} (h : Rune bytes) (rest : Bytes) :
    rune_count (bytes ++ rest) = (rune_count rest).map (· + 1) := by
  cases h with
  | one h0 =>
    rw [rune_count.eq_def]
    exact if_pos h0
  | @two b0 b1 h0 h1 =>
    have hlead : ¬ b0 < 0x80 := UInt8.not_lt.mpr (UInt8.le_trans (by decide) h0.1)
    rw [rune_count.eq_def]
    simp only [List.cons_append, List.nil_append]
    rw [if_neg hlead, if_pos h0, if_pos h1]
  | @three b0 b1 b2 h0 hlow hhigh h2 =>
    have hlead : ¬ b0 < 0x80 := UInt8.not_lt.mpr (UInt8.le_trans (by decide) h0.1)
    have htwo : ¬ (0xc2 ≤ b0 ∧ b0 ≤ 0xdf) := fun h => absurd (UInt8.le_trans h0.1 h.2) (by decide)
    rw [rune_count.eq_def]
    simp only [List.cons_append, List.nil_append]
    rw [if_neg hlead, if_neg htwo, if_pos h0,
      if_pos ⟨(ite_le_iff (by decide)).mpr hlow, (le_ite_iff (by decide)).mpr hhigh, h2⟩]
  | @four b0 b1 b2 b3 h0 hlow hhigh h2 h3 =>
    have hlead : ¬ b0 < 0x80 := UInt8.not_lt.mpr (UInt8.le_trans (by decide) h0.1)
    have htwo : ¬ (0xc2 ≤ b0 ∧ b0 ≤ 0xdf) := fun h => absurd (UInt8.le_trans h0.1 h.2) (by decide)
    have hthree : ¬ (0xe0 ≤ b0 ∧ b0 ≤ 0xef) := fun h => absurd (UInt8.le_trans h0.1 h.2) (by decide)
    rw [rune_count.eq_def]
    simp only [List.cons_append, List.nil_append]
    rw [if_neg hlead, if_neg htwo, if_neg hthree,
      if_pos ⟨h0.1, h0.2, (ite_le_iff (by decide)).mpr hlow, (le_ite_iff (by decide)).mpr hhigh, h2.1, h2.2, h3⟩]

/-- Bytes that are counted begin with a character. -/
theorem rune_count_cons {b0 : UInt8} {data : Bytes} {n : Nat} (h : rune_count (b0 :: data) = some n) :
    ∃ bytes rest, b0 :: data = bytes ++ rest ∧ Rune bytes ∧ (rune_count rest).map (· + 1) = some n := by
  rw [rune_count.eq_def] at h
  dsimp only at h
  split at h
  · rename_i h0
    exact ⟨[b0], data, rfl, .one h0, h⟩
  · split at h
    · cases h
    · rename_i b1 data
      split at h
      · rename_i h0
        obtain ⟨h1, h⟩ := Option.ite_none_right_eq_some.mp h
        exact ⟨[b0, b1], data, rfl, .two h0 h1, h⟩
      · split at h
        · cases h
        · rename_i b2 data
          split at h
          · rename_i h0
            obtain ⟨⟨hlow, hhigh, h2⟩, h⟩ := Option.ite_none_right_eq_some.mp h
            exact ⟨[b0, b1, b2], data, rfl,
              .three h0 ((ite_le_iff (by decide)).mp hlow) ((le_ite_iff (by decide)).mp hhigh) h2, h⟩
          · cases data with
            | nil => cases h
            | cons b3 data =>
              obtain ⟨⟨h0low, h0high, hlow, hhigh, h2low, h2high, h3⟩, h⟩ := Option.ite_none_right_eq_some.mp h
              exact ⟨[b0, b1, b2, b3], data, rfl, .four ⟨h0low, h0high⟩ ((ite_le_iff (by decide)).mp hlow)
                ((le_ite_iff (by decide)).mp hhigh) ⟨h2low, h2high⟩ h3, h⟩

private theorem char_range (c : Char) :
    c.val.toNat < 0xd800 ∨ 0xdfff < c.val.toNat ∧ c.val.toNat < 0x110000 := c.valid

private theorem exists_char {v : Nat} (h : v < 0xd800 ∨ 0xdfff < v ∧ v < 0x110000) :
    ∃ c : Char, c.val.toNat = v := by
  have hv : (UInt32.ofNat v).toNat = v := by
    rw [UInt32.toNat_ofNat']
    omega
  have hvalid : (UInt32.ofNat v).isValidChar := by
    rw [UInt32.isValidChar, Nat.isValidChar, hv]
    exact h
  exact ⟨⟨UInt32.ofNat v, hvalid⟩, hv⟩

theorem rune_encode_char (c : Char) : Rune (String.utf8EncodeChar c) := by
  have hrange := char_range c
  rw [String.utf8EncodeChar]
  generalize c.val.toNat = v at hrange
  split
  · constructor
    simp only [UInt8.lt_iff_toNat_lt, UInt8.toNat_ofNat', UInt8.reduceToNat]
    omega
  · split
    · constructor <;>
      · simp only [UInt8.le_iff_toNat_le, UInt8.toNat_ofNat', UInt8.reduceToNat]
        omega
    · split <;>
      · constructor <;>
        · simp only [UInt8.le_iff_toNat_le, ← UInt8.toNat_inj, UInt8.toNat_ofNat', UInt8.reduceToNat]
          omega

private theorem ofNat_eq {b : UInt8} {v : Nat} (h : v = b.toNat) : UInt8.ofNat v = b := by
  rw [h, UInt8.ofNat_toNat]

theorem Rune.exists_char {bytes : Bytes} (h : Rune bytes) : ∃ c, String.utf8EncodeChar c = bytes := by
  cases h with
  | @one b0 h0 =>
    simp only [UInt8.lt_iff_toNat_lt, UInt8.reduceToNat] at h0
    obtain ⟨c, hc⟩ := codec.exists_char (v := b0.toNat) (by omega)
    refine ⟨c, ?_⟩
    rw [String.utf8EncodeChar, hc, if_pos (by omega), UInt8.ofNat_toNat]
  | @two b0 b1 h0 h1 =>
    simp only [UInt8.le_iff_toNat_le, UInt8.reduceToNat] at h0 h1
    obtain ⟨c, hc⟩ := codec.exists_char (v := (b0.toNat - 0xc0) * 64 + (b1.toNat - 0x80)) (by omega)
    refine ⟨c, ?_⟩
    rw [String.utf8EncodeChar, hc, if_neg (by omega), if_pos (by omega), ofNat_eq (b := b0) (by omega),
      ofNat_eq (b := b1) (by omega)]
  | @three b0 b1 b2 h0 hlow hhigh h2 =>
    simp only [UInt8.le_iff_toNat_le, ← UInt8.toNat_inj, UInt8.reduceToNat] at h0 hlow hhigh h2
    obtain ⟨c, hc⟩ := codec.exists_char
      (v := (b0.toNat - 0xe0) * 4096 + (b1.toNat - 0x80) * 64 + (b2.toNat - 0x80)) (by omega)
    refine ⟨c, ?_⟩
    rw [String.utf8EncodeChar, hc, if_neg (by omega), if_neg (by omega), if_pos (by omega),
      ofNat_eq (b := b0) (by omega), ofNat_eq (b := b1) (by omega), ofNat_eq (b := b2) (by omega)]
  | @four b0 b1 b2 b3 h0 hlow hhigh h2 h3 =>
    simp only [UInt8.le_iff_toNat_le, ← UInt8.toNat_inj, UInt8.reduceToNat] at h0 hlow hhigh h2 h3
    obtain ⟨c, hc⟩ := codec.exists_char (v := (b0.toNat - 0xf0) * 262144 + (b1.toNat - 0x80) * 4096 +
      (b2.toNat - 0x80) * 64 + (b3.toNat - 0x80)) (by omega)
    refine ⟨c, ?_⟩
    rw [String.utf8EncodeChar, hc, if_neg (by omega), if_neg (by omega), if_neg (by omega),
      ofNat_eq (b := b0) (by omega), ofNat_eq (b := b1) (by omega), ofNat_eq (b := b2) (by omega),
      ofNat_eq (b := b3) (by omega)]

/-- The bytes that are counted are the encodings of texts, and the count is
their number of characters. -/
theorem rune_count_eq_some {data : Bytes} {n : Nat} :
    rune_count data = some n ↔ ∃ text : List Char, utf8 text = data ∧ text.length = n := by
  constructor
  · intro h
    induction hlength : data.length using Nat.strong_induction_on generalizing data n with
    | _ length ih =>
      cases data with
      | nil =>
        cases h
        exact ⟨[], rfl, rfl⟩
      | cons b0 data =>
        obtain ⟨bytes, rest, hdata, hrune, hrest⟩ := rune_count_cons h
        obtain ⟨c, rfl⟩ := hrune.exists_char
        obtain ⟨m, hm, rfl⟩ := Option.map_eq_some_iff.mp hrest
        have hshorter : rest.length < length := by
          have hpositive := List.length_pos_iff.mpr (String.utf8EncodeChar_ne_nil (c := c))
          rw [← hlength, hdata, List.length_append]
          omega
        obtain ⟨text, rfl, rfl⟩ := ih rest.length hshorter hm rfl
        exact ⟨c :: text, by rw [hdata]; rfl, rfl⟩
  · rintro ⟨text, rfl, rfl⟩
    induction text with
    | nil => rfl
    | cons c text ih =>
      have hcount := (rune_encode_char c).rune_count (utf8 text)
      rw [ih] at hcount
      exact hcount

end regiongate.codec
