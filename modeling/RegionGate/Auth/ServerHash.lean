import RegionGate.Checked
import RegionGate.Hex
import RegionGate.Radix

open checked

namespace regiongate.auth

/-- One round of the loop that negates a digest, from its last byte to its
first. -/
def negate_step (current : UInt8) (state : Bytes × UInt8) : Bytes × UInt8 :=
  let (done, carry) := state
  let next := ~~~ current + carry
  (next :: done, if carry = 1 ∧ next ≠ 0 then 0 else carry)

/-- The two's complement of a number in big-endian bytes, from the last byte on. -/
def negate (value : Bytes) : Bytes := (value.foldr negate_step ([], 1)).1

/-- `ServerHash`, with SHA-1 as a function of everything written to it. Taking
the first byte of an empty digest would panic. -/
def server_hash (sha1 : Bytes → Bytes) (serverID sharedSecret publicKey : Bytes) : Outcome Error Bytes := do
  let value := sha1 (serverID ++ sharedSecret ++ publicKey)
  let first ← index value 0
  let negative := first &&& 0x80 != 0
  let value := if negative then negate value else value
  let encoded := (hex.encode_to_string value).dropWhile (· == 48)
  let encoded := if encoded = [] then [48] else encoded
  .Ok (if negative then 45 :: encoded else encoded)

/-- The number of a byte string, most significant byte first. -/
def unsigned (value : Bytes) : Nat := radix.value 256 (value.map (·.toNat))

/-- Java's `new BigInteger(digest)`: the two's-complement number of the bytes,
and a `NumberFormatException` when there are none. -/
def bigInteger (digest : Bytes) : Option Int :=
  if digest = [] then none else some (BitVec.ofNat (8 * digest.length) (unsigned digest)).toInt

/-- The hexadecimal digits of a number, without leading zeros. -/
def magnitude (n : Nat) : Bytes :=
  if n = 0 then [48] else (Nat.digits 16 n).reverse.map fun d => hex.digit d.toUInt8

/-- Java's `toString(16)`. -/
def toString16 (z : Int) : Bytes := if z < 0 then 45 :: magnitude z.natAbs else magnitude z.natAbs

section Negate

/-- Complementing a byte with a carry, as arithmetic. -/
theorem complement_byte {carry : UInt8} (hcarry : carry = 0 ∨ carry = 1) (b : UInt8) :
    (~~~ b + carry).toNat + (if carry = 1 ∧ ~~~ b + carry ≠ 0 then 0 else carry).toNat * 256 + b.toNat =
      255 + carry.toNat := by
  have hall : ∀ carry ∈ [(0 : UInt8), 1], ∀ n : Fin 256, (~~~ UInt8.ofFin n + carry).toNat +
      (if carry = 1 ∧ ~~~ UInt8.ofFin n + carry ≠ 0 then 0 else carry).toNat * 256 + (UInt8.ofFin n).toNat =
        255 + carry.toNat := by
    decide +kernel
  simpa using hall carry (by simpa using hcarry) b.toFin

/-- What the loop has done after any number of bytes: with the carry in front,
the bytes written and those read add up to the next power of 256. -/
theorem negate_from (value : Bytes) :
    (value.foldr negate_step ([], 1)).1.length = value.length ∧
      ((value.foldr negate_step ([], 1)).2 = 0 ∨ (value.foldr negate_step ([], 1)).2 = 1) ∧
      unsigned (value.foldr negate_step ([], 1)).1 + (value.foldr negate_step ([], 1)).2.toNat * 256 ^ value.length +
        unsigned value = 256 ^ value.length := by
  induction value with
  | nil => simp [unsigned]
  | cons b rest ih =>
    rw [List.foldr_cons]
    generalize rest.foldr negate_step ([], 1) = state at ih
    obtain ⟨done, carry⟩ := state
    obtain ⟨hlength, hcarry, hsum⟩ := ih
    have hbyte := complement_byte hcarry b
    simp only at hlength hcarry hsum
    rw [negate_step]
    refine ⟨by simp [hlength], ?_, ?_⟩
    · split
      · exact .inl rfl
      · exact hcarry
    · simp only [unsigned, List.map_cons, radix.value_cons, List.length_map, List.length_cons, hlength] at hsum ⊢
      generalize (~~~ b + carry).toNat = next at hbyte ⊢
      generalize (if carry = 1 ∧ ~~~ b + carry ≠ 0 then 0 else carry).toNat = carried at hbyte ⊢
      generalize radix.value 256 (done.map (·.toNat)) = written at hsum ⊢
      generalize radix.value 256 (rest.map (·.toNat)) = left at hsum ⊢
      calc next * 256 ^ rest.length + written + carried * 256 ^ (rest.length + 1) +
            (b.toNat * 256 ^ rest.length + left)
          = (next + carried * 256 + b.toNat) * 256 ^ rest.length + (written + left) := by ring
        _ = 255 * 256 ^ rest.length + (written + carry.toNat * 256 ^ rest.length + left) := by rw [hbyte]; ring
        _ = 256 ^ (rest.length + 1) := by rw [hsum]; ring

/-- A byte string that denotes something is negated modulo its power of 256. -/
theorem unsigned_negate {value : Bytes} (hpositive : 0 < unsigned value) :
    unsigned (negate value) = 256 ^ value.length - unsigned value := by
  obtain ⟨_, hcarry, hsum⟩ := negate_from value
  unfold negate
  obtain hcarry | hcarry := hcarry
  · rw [hcarry] at hsum
    simp only [UInt8.toNat_zero, Nat.zero_mul] at hsum
    omega
  · rw [hcarry] at hsum
    simp only [UInt8.toNat_one, Nat.one_mul] at hsum
    omega

end Negate

section Text

theorem unsigned_lt (value : Bytes) : unsigned value < 256 ^ value.length := by
  rw [← value.length_map (·.toNat)]
  refine radix.value_lt (by decide) fun d hd => ?_
  obtain ⟨b, _, rfl⟩ := List.mem_map.mp hd
  exact b.toNat_lt

/-- The two hexadecimal digits of every byte. -/
def nibbles (value : Bytes) : List Nat := (value.map (·.toNat)).flatMap fun d => [d / 16, d % 16]

theorem encode_byte_eq (b : UInt8) :
    hex.encode_byte b = [b.toNat / 16, b.toNat % 16].map fun d => hex.digit d.toUInt8 := by
  have hall : ∀ n : Fin 256, hex.encode_byte (UInt8.ofFin n) =
      [(UInt8.ofFin n).toNat / 16, (UInt8.ofFin n).toNat % 16].map fun d => hex.digit d.toUInt8 := by
    decide +kernel
  simpa using hall b.toFin

/-- Hexadecimal text is one digit for each nibble. -/
theorem encode_to_string_eq (value : Bytes) :
    hex.encode_to_string value = (nibbles value).map fun d => hex.digit d.toUInt8 := by
  induction value with
  | nil => rfl
  | cons b rest ih =>
    have hrest : rest.flatMap hex.encode_byte = (nibbles rest).map fun d => hex.digit d.toUInt8 := ih
    rw [hex.encode_to_string, List.flatMap_cons, hrest, encode_byte_eq, ← List.map_append]
    rfl

theorem nibbles_lt {value : Bytes} {d : Nat} (hd : d ∈ nibbles value) : d < 16 := by
  obtain ⟨byte, hbyte, hd⟩ := List.mem_flatMap.mp hd
  obtain ⟨b, _, rfl⟩ := List.mem_map.mp hbyte
  have hlt := b.toNat_lt
  simp only [List.mem_cons, List.not_mem_nil, or_false] at hd
  omega

/-- Trimming the digit zero of a text is trimming zeros. -/
theorem trim_digits {digits : List Nat} (hdigits : ∀ d ∈ digits, d < 16) :
    (digits.map fun d => hex.digit d.toUInt8).dropWhile (· == 48) =
      (digits.dropWhile (· == 0)).map fun d => hex.digit d.toUInt8 := by
  have hzero : ∀ d < 16, (hex.digit d.toUInt8 == 48) = (d == 0) := by decide
  induction digits with
  | nil => rfl
  | cons d digits ih =>
    obtain ⟨hd, hrest⟩ := List.forall_mem_cons.mp hdigits
    rw [List.map_cons, List.dropWhile_cons, List.dropWhile_cons, hzero d hd]
    split
    · exact ih hrest
    · rfl

/-- The trimmed text of a byte string is that of its number. -/
theorem encoded_eq_magnitude (value : Bytes) :
    (if (hex.encode_to_string value).dropWhile (· == 48) = [] then [48]
      else (hex.encode_to_string value).dropWhile (· == 48)) = magnitude (unsigned value) := by
  have htrimmed : (hex.encode_to_string value).dropWhile (· == 48) =
      (Nat.digits 16 (unsigned value)).reverse.map fun d => hex.digit d.toUInt8 := by
    have hnumber : unsigned value = radix.value 16 (nibbles value) := radix.value_split 16 _
    rw [encode_to_string_eq, trim_digits fun d => nibbles_lt, hnumber,
      radix.reverse_digits_value (by decide) fun d => nibbles_lt]
  rw [htrimmed, magnitude]
  by_cases hzero : unsigned value = 0
  · simp [hzero]
  · have hdigits : Nat.digits 16 (unsigned value) ≠ [] := Nat.digits_ne_nil_iff_ne_zero.mpr hzero
    rw [if_neg (by simpa using hdigits), if_neg hzero]

end Text

section Sign

/-- The sign bit of the first byte is that of the number. -/
theorem sign_bit {first : UInt8} {rest : Bytes} :
    first &&& 0x80 ≠ 0 ↔ 256 ^ (rest.length + 1) ≤ 2 * unsigned (first :: rest) := by
  have hbit : first &&& 0x80 ≠ 0 ↔ 128 ≤ first.toNat := by
    have hall : ∀ n : Fin 256, UInt8.ofFin n &&& 0x80 ≠ 0 ↔ 128 ≤ (UInt8.ofFin n).toNat := by decide +kernel
    simpa using hall first.toFin
  have hrest := unsigned_lt rest
  have hnumber : unsigned (first :: rest) = first.toNat * 256 ^ rest.length + unsigned rest := by
    rw [unsigned, List.map_cons, radix.value_cons, List.length_map, unsigned]
  rw [hbit, hnumber, Nat.pow_succ]
  constructor
  · intro hlarge
    have hmul : 128 * 256 ^ rest.length ≤ first.toNat * 256 ^ rest.length := Nat.mul_le_mul_right _ hlarge
    omega
  · intro hlarge
    by_contra hsmall
    have hmul : first.toNat * 256 ^ rest.length ≤ 127 * 256 ^ rest.length := Nat.mul_le_mul_right _ (by omega)
    omega

/-- The two's-complement number of a byte string. -/
theorem toInt_unsigned (value : Bytes) :
    (BitVec.ofNat (8 * value.length) (unsigned value)).toInt =
      if 256 ^ value.length ≤ 2 * unsigned value then (unsigned value : Int) - (256 ^ value.length : Nat)
      else (unsigned value : Int) := by
  have hpower : 2 ^ (8 * value.length) = 256 ^ value.length := Nat.pow_mul 2 8 value.length
  have hlt := unsigned_lt value
  rw [BitVec.toInt_eq_toNat_cond, BitVec.toNat_ofNat, hpower, Nat.mod_eq_of_lt hlt]
  by_cases hnegative : 256 ^ value.length ≤ 2 * unsigned value
  · rw [if_pos hnegative, if_neg (by omega)]
  · rw [if_neg hnegative, if_pos (by omega)]

end Sign

/-- `ServerHash` on a digest with a first byte: a sign, and the magnitude without
leading zeros. -/
theorem server_hash_of_digest {sha1 : Bytes → Bytes} {serverID sharedSecret publicKey : Bytes} {first : UInt8}
    {rest : Bytes} (hdigest : sha1 (serverID ++ sharedSecret ++ publicKey) = first :: rest) :
    server_hash sha1 serverID sharedSecret publicKey =
      .Ok (if first &&& 0x80 ≠ 0 then 45 :: magnitude (unsigned (negate (first :: rest)))
        else magnitude (unsigned (first :: rest))) := by
  rw [server_hash, hdigest]
  have hindex : (index (first :: rest) 0 : Outcome Error UInt8) = .Ok first := rfl
  simp only [hindex, Outcome.ok_bind, encoded_eq_magnitude, Outcome.Ok.injEq, bne_iff_ne]
  split
  · rfl
  · rfl

/-- `ServerHash` is Java's `new BigInteger(digest).toString(16)`, for every digest
that a number can be made of. -/
theorem server_hash_eq_java (sha1 : Bytes → Bytes) (serverID sharedSecret publicKey : Bytes) :
    server_hash sha1 serverID sharedSecret publicKey =
      ((bigInteger (sha1 (serverID ++ sharedSecret ++ publicKey))).map toString16).elim .Panic .Ok := by
  cases hdigest : sha1 (serverID ++ sharedSecret ++ publicKey) with
  | nil =>
    rw [server_hash, hdigest]
    rfl
  | cons first rest =>
    have hnumber := toInt_unsigned (first :: rest)
    have hlt := unsigned_lt (first :: rest)
    have hsign := @sign_bit first rest
    rw [List.length_cons] at hnumber hlt
    rw [server_hash_of_digest hdigest, bigInteger, if_neg (List.cons_ne_nil first rest), List.length_cons, hnumber]
    refine congrArg Outcome.Ok ?_
    rw [toString16]
    by_cases hnegative : first &&& 0x80 ≠ 0
    · -- The loop turns the bytes into those of the absolute value.
      have hlarge := hsign.mp hnegative
      have hnegated : unsigned (negate (first :: rest)) = 256 ^ (rest.length + 1) - unsigned (first :: rest) :=
        unsigned_negate (by omega)
      rw [if_pos hnegative, if_pos hlarge, if_pos (by omega), hnegated]
      congr 2
      omega
    · have hsmall : ¬ 256 ^ (rest.length + 1) ≤ 2 * unsigned (first :: rest) := fun h => hnegative (hsign.mpr h)
      rw [if_neg hnegative, if_neg hsmall, if_neg (by omega), Int.natAbs_natCast]

-- The carry runs through the zero bytes.
example : server_hash (fun data => data) [0xff, 0, 0] [] [] = .Ok "-10000".toUTF8.toList := by decide +kernel

end regiongate.auth
