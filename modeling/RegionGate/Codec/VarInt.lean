import RegionGate.Codec
import Mathlib.Data.Nat.Digits.Defs
import Mathlib.Order.Bounds.Defs
import Mathlib.Tactic.Ring

namespace regiongate.codec

section Bits

/-- A property of all bytes, to be checked on the numbers below 256. -/
theorem byte_forall {P : UInt8 → Prop} (h : ∀ n : Fin 256, P (UInt8.ofFin n)) (b : UInt8) : P b := by
  simpa using h b.toFin

theorem high_bit_eq_zero (b : UInt8) : b &&& 0x80 = 0 ↔ b < 0x80 :=
  byte_forall (P := fun b => b &&& 0x80 = 0 ↔ b < 0x80) (by decide +kernel) b

theorem low_bits_toNat (b : UInt8) : (b &&& 0x7f).toNat = b.toNat % 128 :=
  byte_forall (P := fun b => (b &&& 0x7f).toNat = b.toNat % 128) (by decide +kernel) b

/-- The bits that the fifth byte may not use. -/
theorem overflow_bits {b : UInt8} (h : b < 0x80) : b &&& 0x70 = 0 ↔ b ≤ 0x0f :=
  byte_forall (P := fun b => b < 0x80 → (b &&& 0x70 = 0 ↔ b ≤ 0x0f)) (by decide +kernel) b h

/-- The encoder stops when the value fits in seven bits. -/
theorem fits_seven_bits (v : UInt32) : v &&& ~~~ 0x7f = 0 ↔ v.toNat < 128 := by
  have hmask : v.toBitVec >>> 7 <<< 7 = v.toBitVec &&& BitVec.allOnes 32 <<< 7 :=
    BitVec.shiftLeft_ushiftRight
  have hand : (v &&& ~~~ 0x7f).toNat = v.toNat / 128 * 128 := by
    have hlt := v.toNat_lt
    have hbits : (v &&& ~~~ 0x7f).toBitVec = v.toBitVec >>> 7 <<< 7 := hmask.symm
    rw [← UInt32.toNat_toBitVec, hbits]
    simp only [BitVec.toNat_shiftLeft, BitVec.toNat_ushiftRight, UInt32.toNat_toBitVec,
      Nat.shiftRight_eq_div_pow, Nat.shiftLeft_eq]
    omega
  rw [← UInt32.toNat_inj, hand]
  change v.toNat / 128 * 128 = 0 ↔ v.toNat < 128
  omega

theorem shift_seven_toNat (v : UInt32) : (v >>> 7).toNat = v.toNat / 128 := by
  rw [UInt32.toNat_shiftRight, Nat.shiftRight_eq_div_pow]
  rfl

theorem continued_byte_toNat (v : UInt32) :
    ((v &&& 0x7f).toUInt8 ||| 0x80).toNat = v.toNat % 128 + 128 := by
  have hlow : ((v &&& 0x7f).toUInt8).toNat = v.toNat % 128 := by
    rw [UInt32.toNat_toUInt8, UInt32.toNat_and]
    change (v.toNat &&& 2 ^ 7 - 1) % 2 ^ 8 = v.toNat % 128
    rw [Nat.and_two_pow_sub_one_eq_mod]
    omega
  have hor : ∀ b : UInt8, b.toNat < 128 → (b ||| 0x80).toNat = b.toNat + 128 := fun b =>
    byte_forall (P := fun b => b.toNat < 128 → (b ||| 0x80).toNat = b.toNat + 128)
      (by decide +kernel) b
  rw [hor _ (by omega), hlow]

/-- Adding one group of seven bits above the bits read so far. -/
theorem group_toNat (value : UInt32) (b : UInt8) (position : Nat) (hposition : position ≤ 4)
    (hvalue : value.toNat < 2 ^ (7 * position)) (hfits : b.toNat % 128 * 2 ^ (7 * position) < 2 ^ 32) :
    (value ||| ((b &&& 0x7f).toUInt32 <<< (7 * position).toUInt32)).toNat =
      value.toNat + b.toNat % 128 * 2 ^ (7 * position) := by
  have hshift : (7 * position).toUInt32.toNat % 32 = 7 * position := by
    rw [Nat.toUInt32_eq, UInt32.toNat_ofNat']
    omega
  rw [UInt32.toNat_or, UInt32.toNat_shiftLeft, hshift, UInt8.toNat_toUInt32, low_bits_toNat]
  rw [Nat.mod_eq_of_lt (by rw [Nat.shiftLeft_eq]; exact hfits), Nat.or_comm,
    ← Nat.shiftLeft_add_eq_or_of_lt hvalue, Nat.shiftLeft_eq]
  omega

/-- The bits of a non-negative 32-bit value. -/
theorem toNat_ofInt {value : Int} (hlow : 0 ≤ value) (hhigh : value < 2 ^ 31) :
    ((Int32.ofInt value).toUInt32.toNat : Int) = value := by
  have hvalue : (Int32.ofInt value).toInt = value := Int32.toInt_ofInt_of_le (by omega) hhigh
  have hbits : (Int32.ofInt value).toInt = (Int32.ofInt value).toUInt32.toBitVec.toInt := rfl
  rw [hbits, BitVec.toInt_eq_toNat_cond] at hvalue
  have hlt := (Int32.ofInt value).toUInt32.toNat_lt
  rw [← UInt32.toNat_toBitVec] at hlt ⊢
  split at hvalue <;> omega

theorem two_pow_seven_succ (n : Nat) : 2 ^ (7 * (n + 1)) = 128 * 2 ^ (7 * n) := by
  rw [Nat.mul_add, Nat.pow_add]
  omega

end Bits

/-- The bytes of a VarInt: their high bits are set up to the last one, which is
the fifth at most and then has four usable bits. -/
structure VarIntBytes (before : Bytes) (last : UInt8) : Prop where
  continued : ∀ current ∈ before, 0x80 ≤ current
  ends : last < 0x80
  early : before.length ≤ 4
  fits : before.length = 4 → last ≤ 0x0f

/-- The number whose seven-bit groups are given, lowest first. -/
def groupsValue (encoding : Bytes) : Nat := Nat.ofDigits 128 (encoding.map fun current => current.toNat % 128)

theorem groupsValue_cons (current : UInt8) (encoding : Bytes) :
    groupsValue (current :: encoding) = current.toNat % 128 + 128 * groupsValue encoding := by
  rw [groupsValue, List.map_cons, Nat.ofDigits_cons, groupsValue]

/-- Groups stand for less than their bits allow. -/
theorem groupsValue_lt (encoding : Bytes) : groupsValue encoding < 2 ^ (7 * encoding.length) := by
  induction encoding with
  | nil => decide
  | cons current encoding ih =>
    rw [groupsValue_cons, List.length_cons, two_pow_seven_succ]
    omega

theorem groupsValue_concat (before : Bytes) (last : UInt8) :
    groupsValue (before ++ [last]) = groupsValue before + 2 ^ (7 * before.length) * (last.toNat % 128) := by
  induction before with
  | nil => simp [groupsValue]
  | cons current before ih =>
    rw [List.cons_append, groupsValue_cons, groupsValue_cons, ih, List.length_cons, two_pow_seven_succ]
    ring

section Decoder

variable {remaining position : Nat} {value : UInt32} {current : UInt8} {rest : Bytes}

/-- A byte with its high bit set only adds its group to the value. -/
theorem consume_from_continued (h : 0x80 ≤ current) :
    consume_var_int_from (remaining + 1) position value (current :: rest) =
      consume_var_int_from remaining (position + 1)
        (value ||| ((current &&& 0x7f).toUInt32 <<< (7 * position).toUInt32)) rest := by
  have hmore : ¬ current &&& 0x80 = 0 := by
    rw [high_bit_eq_zero]
    exact UInt8.not_lt.mpr h
  rw [consume_var_int_from]
  simp only [hmore, false_and, and_false, if_false]

/-- The group without the continuation bit ends the loop. -/
theorem consume_from_last (hlast : current < 0x80) (hfits : position = 4 → current ≤ 0x0f) :
    consume_var_int_from (remaining + 1) position value (current :: rest) =
      .ok ((value ||| ((current &&& 0x7f).toUInt32 <<< (7 * position).toUInt32)).toInt32.toInt, position + 1) := by
  have hstop : current &&& 0x80 = 0 := (high_bit_eq_zero _).mpr hlast
  have hinRange : ¬ (position = MaxVarIntBytes - 1 ∧ current &&& 0x80 = 0 ∧ current &&& 0x70 ≠ 0) := by
    rintro ⟨hposition, _, hoverflow⟩
    exact hoverflow ((overflow_bits hlast).mpr (hfits hposition))
  rw [consume_var_int_from, if_neg hinRange]
  simp only [hstop, if_true]

/-- Where the decoder accepts, the bytes it has not read yet begin with what is
left of a VarInt. -/
theorem consume_from_sound {data : Bytes} {result : Int} {used : Nat} (hremaining : remaining + position = 5)
    (h : consume_var_int_from remaining position value data = .ok (result, used)) :
    ∃ before last rest, data = before ++ last :: rest ∧ (∀ current ∈ before, 0x80 ≤ current) ∧ last < 0x80 ∧
      position + before.length ≤ 4 ∧ (position + before.length = 4 → last ≤ 0x0f) := by
  induction remaining generalizing position value data with
  | zero => simp [consume_var_int_from] at h
  | succ remaining ih =>
    cases data with
    | nil => simp [consume_var_int_from] at h
    | cons current rest =>
      by_cases hlast : current < 0x80
      · refine ⟨[], current, rest, rfl, by simp, hlast, by simpa using by omega, fun hposition => ?_⟩
        rw [consume_var_int_from] at h
        split at h
        · cases h
        · rename_i hinRange
          rw [← overflow_bits hlast]
          by_contra hoverflow
          exact hinRange ⟨hposition, (high_bit_eq_zero _).mpr hlast, hoverflow⟩
      · have hcurrent := UInt8.not_lt.mp hlast
        rw [consume_from_continued hcurrent] at h
        obtain ⟨before, last, rest, rfl, hcontinued, hends, hearly, hfits⟩ := ih (by omega) h
        have hlength : position + (current :: before).length = position + 1 + before.length := by
          rw [List.length_cons]
          omega
        rw [← hlength] at hearly hfits
        exact ⟨current :: before, last, rest, rfl, List.forall_mem_cons.mpr ⟨hcurrent, hcontinued⟩, hends,
          hearly, hfits⟩

/-- A group that the loop accepts lies within 32 bits. -/
theorem group_fits (current : UInt8) (hearly : position ≤ 4) (hfits : position = 4 → current.toNat % 128 < 16) :
    current.toNat % 128 * 2 ^ (7 * position) < 2 ^ 32 := by
  by_cases hposition : position = 4
  · have hsmall := hfits hposition
    rw [hposition]
    omega
  · have hpow : 2 ^ (7 * position) ≤ 2 ^ 21 := Nat.pow_le_pow_right (by omega) (by omega)
    calc current.toNat % 128 * 2 ^ (7 * position)
        ≤ 127 * 2 ^ 21 := Nat.mul_le_mul (by omega) hpow
      _ < 2 ^ 32 := by decide

/-- What is left of a VarInt is read to its end, and its groups go above the
bits read so far. -/
theorem consume_from_complete {before : Bytes} {last : UInt8} (hremaining : remaining + position = 5)
    (hcontinued : ∀ current ∈ before, 0x80 ≤ current) (hends : last < 0x80)
    (hearly : position + before.length ≤ 4) (hfits : position + before.length = 4 → last ≤ 0x0f)
    (hvalue : value.toNat < 2 ^ (7 * position)) :
    ∃ result : UInt32, result.toNat = value.toNat + 2 ^ (7 * position) * groupsValue (before ++ [last]) ∧
      consume_var_int_from remaining position value (before ++ last :: rest) =
        .ok (result.toInt32.toInt, position + before.length + 1) := by
  induction before generalizing remaining position value with
  | nil =>
    rw [List.length_nil] at hearly hfits
    obtain ⟨remaining, rfl⟩ : ∃ n, remaining = n + 1 := ⟨remaining - 1, by omega⟩
    have hgroup : position = 4 → last.toNat % 128 < 16 := by
      intro hposition
      have hsmall : last.toNat ≤ 15 := UInt8.le_iff_toNat_le.mp (hfits hposition)
      omega
    refine ⟨_, ?_, consume_from_last hends hfits⟩
    rw [group_toNat value last position hearly hvalue (group_fits last hearly hgroup), List.nil_append,
      groupsValue_cons]
    simp [groupsValue, Nat.mul_comm]
  | cons current before ih =>
    rw [List.length_cons] at hearly hfits
    obtain ⟨remaining, rfl⟩ : ∃ n, remaining = n + 1 := ⟨remaining - 1, by omega⟩
    obtain ⟨hcurrent, hcontinued⟩ := List.forall_mem_cons.mp hcontinued
    have hgroup := group_toNat value current position (by omega) hvalue
      (group_fits current (by omega) (by omega))
    have hnext : (value ||| ((current &&& 0x7f).toUInt32 <<< (7 * position).toUInt32)).toNat <
        2 ^ (7 * (position + 1)) := by
      have hle : current.toNat % 128 * 2 ^ (7 * position) ≤ 127 * 2 ^ (7 * position) :=
        Nat.mul_le_mul_right _ (by omega)
      rw [hgroup, two_pow_seven_succ]
      omega
    have hremaining : remaining + (position + 1) = 5 := by omega
    obtain ⟨result, hresult, hconsume⟩ := ih hremaining hcontinued (by omega) (fun hlength => hfits (by omega)) hnext
    refine ⟨result, ?_, ?_⟩
    · rw [hresult, hgroup, two_pow_seven_succ, List.cons_append, groupsValue_cons]
      ring
    · rw [List.cons_append, consume_from_continued hcurrent, hconsume, List.length_cons]
      congr 2
      omega

/-- The decoder reads the bytes of a VarInt and returns the value of their
groups, whatever follows them. -/
theorem VarIntBytes.consume {before : Bytes} {last : UInt8} (h : VarIntBytes before last) (rest : Bytes) :
    consume_var_int (before ++ last :: rest) =
      .ok ((UInt32.ofNat (groupsValue (before ++ [last]))).toInt32.toInt, before.length + 1) := by
  obtain ⟨result, hresult, hconsume⟩ : ∃ result : UInt32,
      result.toNat = (0 : UInt32).toNat + 2 ^ (7 * 0) * groupsValue (before ++ [last]) ∧
        consume_var_int_from MaxVarIntBytes 0 0 (before ++ last :: rest) =
          .ok (result.toInt32.toInt, 0 + before.length + 1) := by
    refine consume_from_complete rfl h.continued h.ends ?_ ?_ (by decide)
    · simpa using h.early
    · simpa using h.fits
  have hvalue : result = UInt32.ofNat (groupsValue (before ++ [last])) := by
    have htoNat : result.toNat = groupsValue (before ++ [last]) := by simpa using hresult
    rw [← htoNat, UInt32.ofNat_toNat]
  rw [consume_var_int, hconsume, hvalue, Nat.zero_add]

/-- What `ConsumeVarInt` accepts: continued groups and a last one, at most five, of
which a fifth has four bits. -/
theorem consume_var_int_iff {data : Bytes} {value : Int} {used : Nat} :
    consume_var_int data = .ok (value, used) ↔ ∃ before last rest, data = before ++ last :: rest ∧
      VarIntBytes before last ∧ used = before.length + 1 ∧
      value = (UInt32.ofNat (groupsValue (before ++ [last]))).toInt32.toInt := by
  constructor
  · intro hconsume
    obtain ⟨before, last, rest, rfl, hcontinued, hends, hearly, hfits⟩ := consume_from_sound rfl hconsume
    rw [Nat.zero_add] at hearly hfits
    have hbytes : VarIntBytes before last := ⟨hcontinued, hends, hearly, hfits⟩
    rw [hbytes.consume, Except.ok.injEq, Prod.mk.injEq] at hconsume
    exact ⟨before, last, rest, rfl, hbytes, hconsume.2.symm, hconsume.1.symm⟩
  · rintro ⟨before, last, rest, rfl, hbytes, rfl, rfl⟩
    exact hbytes.consume rest

/-- A decoded VarInt is a 32-bit value, and its encoding is a nonempty part of
the input of at most five bytes. -/
theorem consume_var_int_bounds {data : Bytes} {value : Int} {used : Nat}
    (h : consume_var_int data = .ok (value, used)) :
    -2 ^ 31 ≤ value ∧ value < 2 ^ 31 ∧ 0 < used ∧ used ≤ 5 ∧ used ≤ data.length := by
  obtain ⟨before, last, rest, rfl, hbytes, rfl, rfl⟩ := consume_var_int_iff.mp h
  have hearly := hbytes.early
  refine ⟨Int32.le_toInt _, Int32.toInt_lt _, by omega, by omega, ?_⟩
  rw [List.length_append, List.length_cons]
  omega

/-- What `ConsumeVarInt` reads does not depend on what follows it. -/
theorem consume_var_int_take {data : Bytes} {value : Int} {used : Nat}
    (h : consume_var_int data = .ok (value, used)) (following : Bytes) :
    consume_var_int (data.take used ++ following) = .ok (value, used) := by
  obtain ⟨before, last, rest, rfl, hbytes, rfl, rfl⟩ := consume_var_int_iff.mp h
  have htake : (before ++ last :: rest).take (before.length + 1) = before ++ [last] := by
    rw [List.append_cons]
    exact List.take_left' (by simp)
  rw [htake, List.append_assoc, List.singleton_append, hbytes.consume]

/-- What comes behind a VarInt is not looked at. -/
theorem consume_var_int_append {data : Bytes} {value : Int} {used : Nat}
    (h : consume_var_int data = .ok (value, used)) (rest : Bytes) :
    consume_var_int (data ++ rest) = .ok (value, used) := by
  have hread := consume_var_int_take h (data.drop used ++ rest)
  rwa [← List.append_assoc, List.take_append_drop] at hread

theorem consume_from_error {data : Bytes} {e : Error}
    (h : consume_var_int_from remaining position value data = .error e) :
    e = .VarIntTooLong ∨ e = .VarIntPartial ∨ e = .VarIntOverflow := by
  induction remaining generalizing position value data with
  | zero =>
    cases h
    exact .inl rfl
  | succ remaining ih =>
    cases data with
    | nil =>
      cases h
      exact .inr (.inl rfl)
    | cons current rest =>
      rw [consume_var_int_from] at h
      split at h
      · cases h
        exact .inr (.inr rfl)
      · dsimp only at h
        split at h
        · cases h
        · exact ih h

end Decoder

section Encoder

/-- The encoder writes the groups of its value, all but the last with the high
bit set, and no zero group at the end of several. -/
theorem append_from_groups {rounds : Nat} {v : UInt32} (hrounds : 0 < rounds) (hv : v.toNat < 2 ^ (7 * rounds)) :
    ∃ before last, append_var_int_from rounds v = before ++ [last] ∧ (∀ current ∈ before, 0x80 ≤ current) ∧
      last < 0x80 ∧ before.length < rounds ∧ groupsValue (before ++ [last]) = v.toNat ∧
      (before ≠ [] → 0 < last.toNat) := by
  induction rounds generalizing v with
  | zero => omega
  | succ rounds ih =>
    rw [append_var_int_from]
    by_cases hlast : v.toNat < 128
    · have hbyte : v.toUInt8.toNat = v.toNat := by
        rw [UInt32.toNat_toUInt8]
        omega
      rw [if_pos ((fits_seven_bits v).mpr hlast)]
      refine ⟨[], v.toUInt8, rfl, by simp, ?_, hrounds, ?_, by simp⟩
      · rw [UInt8.lt_iff_toNat_lt, hbyte]
        exact hlast
      · simp only [List.nil_append, groupsValue, List.map_cons, List.map_nil, Nat.ofDigits_singleton, hbyte]
        omega
    · have hcontinued := continued_byte_toNat v
      rw [if_neg (fun h => hlast ((fits_seven_bits v).mp h))]
      rw [two_pow_seven_succ] at hv
      have hshift := shift_seven_toNat v
      have hmore : 0 < rounds := by
        by_contra hnone
        obtain rfl : rounds = 0 := by omega
        omega
      have hless : (v >>> 7).toNat < 2 ^ (7 * rounds) := by omega
      obtain ⟨before, last, heq, hbefore, hends, hlength, hgroups, hpositive⟩ := ih hmore hless
      refine ⟨_ :: before, last, by rw [heq, List.cons_append], ?_, hends, ?_, ?_, fun _ => ?_⟩
      · refine List.forall_mem_cons.mpr ⟨?_, hbefore⟩
        rw [UInt8.le_iff_toNat_le, hcontinued]
        exact Nat.le_add_left ..
      · rw [List.length_cons]
        omega
      · rw [List.cons_append, groupsValue_cons, hgroups, hcontinued, hshift]
        omega
      · by_cases hempty : before = []
        · subst hempty
          rw [List.nil_append, groupsValue, List.map_cons, List.map_nil, Nat.ofDigits_singleton] at hgroups
          omega
        · exact hpositive hempty

end Encoder

/-- The bytes of an encoded VarInt, and the value of their groups. -/
theorem append_var_int_bytes (value : Int) :
    ∃ before last, append_var_int [] value = before ++ [last] ∧ VarIntBytes before last ∧
      groupsValue (before ++ [last]) = (Int32.ofInt value).toUInt32.toNat ∧ (before ≠ [] → 0 < last.toNat) := by
  have hlt : (Int32.ofInt value).toUInt32.toNat < 2 ^ (7 * MaxVarIntBytes) :=
    lt_of_lt_of_le (UInt32.toNat_lt _) (by decide)
  obtain ⟨before, last, heq, hcontinued, hends, hlength, hgroups, hpositive⟩ :=
    append_from_groups (by decide) hlt
  have hearly : before.length ≤ 4 := Nat.le_of_lt_succ hlength
  refine ⟨before, last, heq, ⟨hcontinued, hends, hearly, fun hfifth => ?_⟩, hgroups, hpositive⟩
  have hlast : last.toNat < 128 := UInt8.lt_iff_toNat_lt.mp hends
  have hbits := (Int32.ofInt value).toUInt32.toNat_lt
  rw [groupsValue_concat, hfifth] at hgroups
  rw [UInt8.le_iff_toNat_le]
  change last.toNat ≤ 15
  omega

/-- `ConsumeVarInt` reads back the 32-bit value that `AppendVarInt` wrote,
whatever follows the encoding. -/
theorem consume_append_wrapped (value : Int) (rest : Bytes) :
    consume_var_int (append_var_int [] value ++ rest) =
      .ok ((Int32.ofInt value).toInt, (append_var_int [] value).length) := by
  obtain ⟨before, last, heq, hbytes, hgroups, -⟩ := append_var_int_bytes value
  rw [heq, List.append_assoc, List.singleton_append, hbytes.consume, hgroups, UInt32.ofNat_toNat,
    List.length_append, List.length_singleton]
  rfl

/-- An encoded VarInt takes one to five bytes. -/
theorem append_var_int_length (value : Int) :
    0 < (append_var_int [] value).length ∧ (append_var_int [] value).length ≤ 5 := by
  obtain ⟨before, last, heq, hbytes, -⟩ := append_var_int_bytes value
  have hearly := hbytes.early
  rw [heq, List.length_append, List.length_singleton]
  omega

/-- The bits of a value lie within the groups of its encoding. -/
theorem lt_two_pow_append_length (value : Int) :
    (Int32.ofInt value).toUInt32.toNat < 2 ^ (7 * (append_var_int [] value).length) := by
  obtain ⟨before, last, heq, -, hgroups, -⟩ := append_var_int_bytes value
  rw [heq, ← hgroups]
  exact groupsValue_lt _

/-- A value takes no more bytes than its bits need. -/
theorem append_length_le {value : Int} {groups : Nat} (hpositive : 0 < groups)
    (h : (Int32.ofInt value).toUInt32.toNat < 2 ^ (7 * groups)) : (append_var_int [] value).length ≤ groups := by
  obtain ⟨before, last, heq, hbytes, hgroups, hlast⟩ := append_var_int_bytes value
  rw [heq, List.length_append, List.length_singleton]
  by_contra hlonger
  have hnonempty : before ≠ [] := by
    rintro rfl
    rw [List.length_nil] at hlonger
    omega
  have hends : last.toNat < 128 := UInt8.lt_iff_toNat_lt.mp hbytes.ends
  have hpow : 2 ^ (7 * groups) ≤ 2 ^ (7 * before.length) := Nat.pow_le_pow_right (by omega) (by omega)
  have hhigh : 2 ^ (7 * before.length) ≤ 2 ^ (7 * before.length) * (last.toNat % 128) := by
    rw [Nat.mod_eq_of_lt hends]
    exact Nat.le_mul_of_pos_right _ (hlast hnonempty)
  rw [groupsValue_concat] at hgroups
  omega

/-- A value of more than `groups` groups of seven bits takes more than `groups`
bytes. -/
theorem lt_append_var_int_length {groups : Nat} {value : Int}
    (hlow : ((2 ^ (7 * groups) : Nat) : Int) ≤ value) (hhigh : value < 2 ^ 31) :
    groups < (append_var_int [] value).length := by
  have hbits := toNat_ofInt (le_trans (Int.natCast_nonneg _) hlow) hhigh
  have hlt := lt_two_pow_append_length value
  have hpow : 2 ^ (7 * groups) < 2 ^ (7 * (append_var_int [] value).length) :=
    lt_of_le_of_lt (Int.ofNat_le.mp (hlow.trans hbits.ge)) hlt
  have hexp := (Nat.pow_lt_pow_iff_right (by decide)).mp hpow
  omega

/-- `AppendVarInt` writes the shortest of the byte strings that `ConsumeVarInt`
reads as its value, and `ConsumeVarInt` accepts the grammar of `VarIntBytes`. -/
theorem var_int_exact :
    (∀ (v : Int32) (s : Bytes), consume_var_int (append_var_int [] v.toInt ++ s) =
      .ok (v.toInt, (append_var_int [] v.toInt).length)) ∧
    (∀ v : Int32, IsLeast { k | 1 ≤ k ∧ k ≤ 5 ∧ v.toUInt32.toNat < 2 ^ (7 * k) } (append_var_int [] v.toInt).length) ∧
    (∀ (v : Int32) (b : Bytes) (used : Nat), b.length < (append_var_int [] v.toInt).length →
      consume_var_int b ≠ .ok (v.toInt, used)) ∧
    (∀ (data : Bytes) (value : Int) (used : Nat), consume_var_int data = .ok (value, used) ↔
      ∃ before last rest, data = before ++ last :: rest ∧ VarIntBytes before last ∧ used = before.length + 1 ∧
        value = (UInt32.ofNat (groupsValue (before ++ [last]))).toInt32.toInt) := by
  refine ⟨fun v s => ?_, fun v => ?_, fun v b used hshorter hconsume => ?_, fun _ _ _ => consume_var_int_iff⟩
  · rw [consume_append_wrapped, Int32.ofInt_toInt]
  · have hbits := lt_two_pow_append_length v.toInt
    rw [Int32.ofInt_toInt] at hbits
    obtain ⟨hpositive, hfive⟩ := append_var_int_length v.toInt
    refine ⟨⟨hpositive, hfive, hbits⟩, ?_⟩
    rintro k ⟨hk, _, hv⟩
    rw [← Int32.ofInt_toInt v] at hv
    exact append_length_le hk hv
  · obtain ⟨before, last, rest, rfl, hbytes, rfl, hvalue⟩ := consume_var_int_iff.mp hconsume
    have hgroups : v.toUInt32.toNat < 2 ^ (7 * (before.length + 1)) := by
      have hlt := groupsValue_lt (before ++ [last])
      have hv : v.toUInt32 = UInt32.ofNat (groupsValue (before ++ [last])) := by
        rw [Int32.toInt_inj.mp hvalue]
        rfl
      rw [List.length_append, List.length_singleton] at hlt
      rw [hv, UInt32.toNat_ofNat']
      exact lt_of_le_of_lt (Nat.mod_le _ _) hlt
    rw [← Int32.ofInt_toInt v] at hgroups
    have hlength := append_length_le (Nat.succ_pos _) hgroups
    rw [List.length_append, List.length_cons] at hshorter
    omega

section Reader

/-- The two loops take the same way through the same bytes. They differ only
when a reader has nothing to deliver. -/
theorem read_from_agrees {remaining position : Nat} (value : UInt32) (data : Bytes)
    (hremaining : remaining + position = MaxVarIntBytes) :
    (∀ result used, consume_var_int_from remaining position value data = .ok (result, used) →
      ∃ size, used = position + size ∧
        read_var_int_from .EOF remaining position value data = (.ok result, data.drop size)) ∧
    (∀ e, consume_var_int_from remaining position value data = .error e →
      (read_var_int_from .EOF remaining position value data).1 =
        .error (if position = 0 ∧ data = [] then .EOF else e)) := by
  induction remaining generalizing position value data with
  | zero =>
    constructor
    · rintro result used ⟨⟩
    · rintro e ⟨⟩
      obtain rfl : position = MaxVarIntBytes := by omega
      rfl
  | succ remaining ih =>
    cases data with
    | nil =>
      constructor
      · rintro result used ⟨⟩
      · rintro e ⟨⟩
        rw [read_var_int_from]
        by_cases hposition : position = 0
        · rw [if_neg (by omega), if_pos ⟨hposition, rfl⟩]
        · rw [if_pos ⟨rfl, by omega⟩, if_neg (fun h => hposition h.1)]
    | cons current rest =>
      have hnonempty : ¬ (position = 0 ∧ current :: rest = []) := by simp
      rw [consume_var_int_from, read_var_int_from]
      simp only [hnonempty, if_false]
      by_cases hoverflow : position = MaxVarIntBytes - 1 ∧ current &&& 0x80 = 0 ∧ current &&& 0x70 ≠ 0
      · rw [if_pos hoverflow, if_pos hoverflow]
        constructor
        · rintro result used ⟨⟩
        · rintro e ⟨⟩
          rfl
      · rw [if_neg hoverflow, if_neg hoverflow]
        by_cases hlast : current &&& 0x80 = 0
        · rw [if_pos hlast, if_pos hlast]
          constructor
          · rintro result used ⟨⟩
            exact ⟨1, rfl, rfl⟩
          · rintro e ⟨⟩
        · rw [if_neg hlast, if_neg hlast]
          have hnext : remaining + (position + 1) = MaxVarIntBytes := by omega
          obtain ⟨hok, herror⟩ :=
            ih (value ||| ((current &&& 0x7f).toUInt32 <<< (7 * position).toUInt32)) rest hnext
          constructor
          · intro result used h
            obtain ⟨size, rfl, hread⟩ := hok result used h
            exact ⟨size + 1, by omega, hread⟩
          · intro e h
            rw [herror e h, if_neg (by omega)]

/-- What `ConsumeVarInt` decodes, `ReadVarInt` reads off the stream. -/
theorem read_var_int_of_consume {data : Bytes} {value : Int} {used : Nat}
    (h : consume_var_int data = .ok (value, used)) : read_var_int .EOF data = (.ok value, data.drop used) := by
  obtain ⟨size, rfl, hread⟩ := (read_from_agrees 0 data (Nat.add_zero MaxVarIntBytes)).1 value used h
  rwa [Nat.zero_add]

/-- `ReadVarInt` on a reader that delivers `b` and then ends, against
`ConsumeVarInt` on `b`. -/
theorem read_var_int_agrees (b : Bytes) :
    (∀ value used, consume_var_int b = .ok (value, used) →
      used ≤ b.length ∧ read_var_int .EOF b = (.ok value, b.drop used)) ∧
    (∀ e, consume_var_int b = .error e →
      (e = .VarIntTooLong ∨ e = .VarIntPartial ∨ e = .VarIntOverflow) ∧
      (read_var_int .EOF b).1 = .error (if b = [] then .EOF else e)) := by
  refine ⟨fun value used h => ?_, fun e h => ?_⟩
  · obtain ⟨_, _, _, _, hused⟩ := consume_var_int_bounds h
    exact ⟨hused, read_var_int_of_consume h⟩
  · have hread := (read_from_agrees 0 b (Nat.add_zero MaxVarIntBytes)).2 e h
    simp only [true_and] at hread
    exact ⟨consume_from_error h, hread⟩

end Reader

end regiongate.codec
