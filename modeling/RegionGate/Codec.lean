import RegionGate.Error
import Mathlib.Algebra.Group.Int.Defs

namespace regiongate.codec

/-- The longest VarInt on the wire, five groups of seven bits. -/
def MaxVarIntBytes : Nat := 5

/-- The loop of `ConsumeVarInt` from one position on. `remaining` counts the
iterations left and `data` is what follows the bytes already read. -/
def consume_var_int_from : (remaining position : Nat) → UInt32 → Bytes → Except Error (Int × Nat)
  | 0, _, _, _ => .error .VarIntTooLong
  | _ + 1, _, _, [] => .error .VarIntPartial
  | remaining + 1, position, value, current :: rest =>
    if position = MaxVarIntBytes - 1 ∧ current &&& 0x80 = 0 ∧ current &&& 0x70 ≠ 0 then
      .error .VarIntOverflow
    else
      let value := value ||| ((current &&& 0x7f).toUInt32 <<< (7 * position).toUInt32)
      if current &&& 0x80 = 0 then .ok (value.toInt32.toInt, position + 1)
      else consume_var_int_from remaining (position + 1) value rest

/-- The loop of `ReadVarInt` on a reader that still delivers `data` and then
fails with `final`: the result, and what the reader has left. -/
def read_var_int_from (final : Error) : (remaining position : Nat) → UInt32 → Bytes → Except Error Int × Bytes
  | 0, _, _, data => (.error .VarIntTooLong, data)
  | _ + 1, position, _, [] =>
    (.error (if final = .EOF ∧ position > 0 then .VarIntPartial else final), [])
  | remaining + 1, position, value, current :: rest =>
    if position = MaxVarIntBytes - 1 ∧ current &&& 0x80 = 0 ∧ current &&& 0x70 ≠ 0 then
      (.error .VarIntOverflow, rest)
    else
      let value := value ||| ((current &&& 0x7f).toUInt32 <<< (7 * position).toUInt32)
      if current &&& 0x80 = 0 then (.ok value.toInt32.toInt, rest)
      else read_var_int_from final remaining (position + 1) value rest

/-- `ReadVarInt` on a reader that delivers `data` and then fails with `final`: the
value, and what the reader has left. -/
def read_var_int (final : Error) (data : Bytes) : Except Error Int × Bytes :=
  read_var_int_from final MaxVarIntBytes 0 0 data

/-- A VarInt at the front of `data`: its signed value and its encoded size. -/
def consume_var_int (data : Bytes) : Except Error (Int × Nat) :=
  consume_var_int_from MaxVarIntBytes 0 0 data

/-- The loop of `AppendVarInt`: seven bits a byte, lowest first, every byte but
the last with its high bit set. A 32-bit value takes at most five rounds. -/
def append_var_int_from : (rounds : Nat) → UInt32 → Bytes
  | 0, _ => []
  | rounds + 1, remaining =>
    if remaining &&& ~~~ 0x7f = 0 then [remaining.toUInt8]
    else
      ((remaining &&& 0x7f).toUInt8 ||| 0x80) :: append_var_int_from rounds (remaining >>> 7)

/-- `AppendVarInt`: the value as an unsigned 32-bit number, seven bits at a time with
the low ones first. -/
def append_var_int (dst : Bytes) (value : Int) : Bytes :=
  dst ++ append_var_int_from MaxVarIntBytes (Int32.ofInt value).toUInt32

/-- `AppendString`: the length in bytes as a VarInt and then the bytes. -/
def append_string (dst value : Bytes) : Bytes := append_var_int dst value.length ++ value

/-- The packet identifier and the body that follows it. -/
def packet_id (payload : Bytes) : Except Error (Int × Bytes) :=
  match consume_var_int payload with
  | .error e => .error e
  | .ok (id, size) => .ok (id, payload.drop size)

/-- The number of code points when every byte belongs to a valid UTF-8
encoding, as `utf8.Valid` and `utf8.RuneCount` decide it: no overlong forms,
no surrogates, nothing above U+10FFFF. -/
def rune_count : Bytes → Option Nat
  | [] => some 0
  | b0 :: rest =>
    if b0 < 0x80 then (rune_count rest).map (· + 1)
    else
      match rest with
      | [] => none
      | b1 :: rest =>
        if 0xc2 ≤ b0 ∧ b0 ≤ 0xdf then
          if 0x80 ≤ b1 ∧ b1 ≤ 0xbf then (rune_count rest).map (· + 1) else none
        else
          match rest with
          | [] => none
          | b2 :: rest =>
            if 0xe0 ≤ b0 ∧ b0 ≤ 0xef then
              let low : UInt8 := if b0 = 0xe0 then 0xa0 else 0x80
              let high : UInt8 := if b0 = 0xed then 0x9f else 0xbf
              if low ≤ b1 ∧ b1 ≤ high ∧ 0x80 ≤ b2 ∧ b2 ≤ 0xbf then (rune_count rest).map (· + 1)
              else none
            else
              match rest with
              | [] => none
              | b3 :: rest =>
                let low : UInt8 := if b0 = 0xf0 then 0x90 else 0x80
                let high : UInt8 := if b0 = 0xf4 then 0x8f else 0xbf
                if 0xf0 ≤ b0 ∧ b0 ≤ 0xf4 ∧ low ≤ b1 ∧ b1 ≤ high ∧ 0x80 ≤ b2 ∧ b2 ≤ 0xbf ∧
                    0x80 ≤ b3 ∧ b3 ≤ 0xbf then
                  (rune_count rest).map (· + 1)
                else none

/-- The value that an `int` has after arithmetic: 64 bits, two's complement. -/
def wrap64 (value : Int) : Int := (value + 2 ^ 63) % 2 ^ 64 - 2 ^ 63

theorem wrap64_of_lt {value : Int} (hlow : 0 ≤ value) (hhigh : value < 2 ^ 63) : wrap64 value = value := by
  simp only [wrap64]
  omega

/-- A length-prefixed string of at most `maxChars` code points, with the
number of bytes it takes. -/
def consume_string (data : Bytes) (maxChars : Nat) : Except Error (Bytes × Nat) :=
  match consume_var_int data with
  | .error _ => .error .StringTooLong
  | .ok (length, size) =>
    if length < 0 ∨ length > wrap64 (maxChars * 3) then .error .StringTooLong
    else
      let stop := size + length.toNat
      if stop > data.length then .error .UnexpectedEOF
      else
        let value := (data.take stop).drop size
        match rune_count value with
        | none => .error .StringTooLong
        | some count => if count > maxChars then .error .StringTooLong else .ok (value, stop)

end regiongate.codec
