import RegionGate.Protocol.Handshake

namespace regiongate.codec

/-- The strings of one limit: what `ConsumeString` accepts and returns, that it
undoes `AppendString`, and that both `readString` functions follow it. -/
structure StringsExact (maxChars : Nat) : Prop where
  grammar : ∀ data value size, consume_string data maxChars = .ok (value, size) ↔ StringAt maxChars data value size
  round_trip : ∀ value rest, Limited maxChars value →
    consume_string (append_string [] value ++ rest) maxChars = .ok (value, (append_string [] value).length)
  handshake : ∀ data result,
    handshake.read_string data maxChars = .Ok result ↔ consume_string data maxChars = .ok result
  login : ∀ data result, login.read_string data maxChars = .Ok result ↔ consume_string data maxChars = .ok result

/-- The strings of a limit are decoded as intended exactly when every length
that the limit allows is a 32-bit number. -/
theorem strings_exact_iff (maxChars : Nat) : StringsExact maxChars ↔ 3 * maxChars < 2 ^ 31 := by
  constructor
  · intro h
    obtain ⟨hlimited, hlength⟩ := limited_replicate maxChars
    have hread := h.round_trip _ [] hlimited
    rw [← hlength]
    exact consume_string_length hread
  · intro hlimit
    have hgrammar : ∀ data value size,
        consume_string data maxChars = .ok (value, size) ↔ StringAt maxChars data value size :=
      fun _ _ _ => consume_string_iff (by omega)
    refine ⟨hgrammar, fun value rest hlimited => ?_, fun _ _ => handshake.read_string_eq_ok,
      fun _ _ => login.read_string_eq_ok⟩
    exact (hgrammar _ _ _).mpr (stringAt_append hlimited hlimit rest)

theorem strings_exact_address : 3 * 255 < 2 ^ 31 ∧ StringsExact 255 :=
  ⟨by decide, (strings_exact_iff 255).mpr (by decide)⟩

/-- The limit of 2^62 characters: three times that number is negative in 64
bits, and not even the empty string is accepted. -/
theorem empty_string_refused :
    StringAt (2 ^ 62) [0] [] 1 ∧ consume_string [0] (2 ^ 62) = .error .StringTooLong ∧ ¬ StringsExact (2 ^ 62) := by
  have hat : StringAt (2 ^ 62) [0] [] 1 :=
    ⟨⟨1, by decide, rfl, by decide, rfl⟩, ⟨[], rfl, by decide⟩, by decide⟩
  have hrefused : consume_string [0] (2 ^ 62) = .error .StringTooLong := by decide
  refine ⟨hat, hrefused, fun h => ?_⟩
  have haccepted := (h.grammar [0] [] 1).mpr hat
  rw [hrefused] at haccepted
  cases haccepted

end regiongate.codec
