import RegionGate.Error

namespace regiongate.hex

/-- The lower-case hexadecimal digit of a value below sixteen. -/
def digit (n : UInt8) : UInt8 := if n < 10 then 48 + n else 87 + n

/-- The two digits of a byte, the upper half first. -/
def encode_byte (b : UInt8) : Bytes := [digit (b >>> 4), digit (b &&& 0xf)]

/-- `hex.EncodeToString`. -/
def encode_to_string (src : Bytes) : Bytes := src.flatMap encode_byte

/-- The value of a digit that `digit` has made. -/
private def value (d : UInt8) : UInt8 := if d < 58 then d - 48 else d - 87

private theorem value_digits (b : UInt8) :
    (value (digit (b >>> 4)) <<< 4) ||| value (digit (b &&& 0xf)) = b := by
  have hall : ∀ n : Fin 256, (value (digit (UInt8.ofFin n >>> 4)) <<< 4) |||
      value (digit (UInt8.ofFin n &&& 0xf)) = UInt8.ofFin n := by decide +kernel
  simpa using hall b.toFin

/-- Two hexadecimal digits determine their byte. -/
theorem encode_byte_injective {a b : UInt8} (h : encode_byte a = encode_byte b) : a = b := by
  simp only [encode_byte, List.cons.injEq, and_true] at h
  rw [← value_digits a, ← value_digits b, h.1, h.2]

/-- Hexadecimal texts tell bytes apart. -/
theorem encode_to_string_injective {a b : Bytes} (h : encode_to_string a = encode_to_string b) :
    a = b := by
  induction a generalizing b with
  | nil =>
    cases b with
    | nil => rfl
    | cons y b => simp [encode_to_string, encode_byte] at h
  | cons x a ih =>
    cases b with
    | nil => simp [encode_to_string, encode_byte] at h
    | cons y b =>
      simp only [encode_to_string, List.flatMap_cons] at h
      obtain ⟨hhead, htail⟩ := List.append_inj h rfl
      rw [encode_byte_injective hhead, ih htail]

end regiongate.hex
