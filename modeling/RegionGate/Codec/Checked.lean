import RegionGate.Checked
import RegionGate.Codec.Strings

open checked

namespace regiongate.codec

/-- The loop of `ConsumeVarInt` with its index into `data` explicit. -/
def consume_var_int_at (data : Bytes) : (remaining position : Nat) → UInt32 → Outcome Error (Int × Nat)
  | 0, _, _ => .Fail .VarIntTooLong
  | remaining + 1, position, value =>
    if position ≥ data.length then .Fail .VarIntPartial
    else do
      let current ← index data position
      if position = MaxVarIntBytes - 1 ∧ current &&& 0x80 = 0 ∧ current &&& 0x70 ≠ 0 then
        .Fail .VarIntOverflow
      else
        let value := value ||| ((current &&& 0x7f).toUInt32 <<< (7 * position).toUInt32)
        if current &&& 0x80 = 0 then .Ok (value.toInt32.toInt, position + 1)
        else consume_var_int_at data remaining (position + 1) value

/-- `ConsumeVarInt`, with every index into the payload checked. -/
def consume_var_int_checked (data : Bytes) : Outcome Error (Int × Nat) :=
  consume_var_int_at data MaxVarIntBytes 0 0

/-- `PacketID` over checked slicing: the identifier and the body behind it. -/
def packet_id_checked (payload : Bytes) : Outcome Error (Int × Bytes) := do
  let (id, size) ← consume_var_int_checked payload
  let body ← sliceFrom payload size
  .Ok (id, body)

/-- `ConsumeString` over checked slicing. The byte limit is computed in the machine's
`int`, where it may wrap around. -/
def consume_string_checked (data : Bytes) (maxChars : Nat) : Outcome Error (Bytes × Nat) := do
  let (length, size) ← (consume_var_int_checked data).mapError fun _ => .StringTooLong
  if length < 0 ∨ length > wrap64 (maxChars * 3) then .Fail .StringTooLong
  else
    let stop := size + length.toNat
    if stop > data.length then .Fail .UnexpectedEOF
    else
      let value ← slice data size stop
      match rune_count value with
      | none => .Fail .StringTooLong
      | some count => if count > maxChars then .Fail .StringTooLong else .Ok (value, stop)

/-- The loop over an index into the payload is the one over what is left of it. The
bytes before the index take no part. -/
private theorem consume_var_int_at_eq (remaining position : Nat) (value : UInt32) (before rest : Bytes)
    (hposition : position = before.length) :
    consume_var_int_at (before ++ rest) remaining position value =
      .ofExcept (consume_var_int_from remaining position value rest) := by
  induction remaining generalizing position value before rest with
  | zero => rfl
  | succ remaining ih =>
    rw [consume_var_int_at]
    cases rest with
    | nil =>
      rw [if_pos (by simp [hposition])]
      rfl
    | cons current rest =>
      have hindex : (before ++ current :: rest)[position]? = some current := by
        rw [hposition]
        simp
      rw [if_neg (by simp [hposition]), index_ok hindex, Outcome.ok_bind, consume_var_int_from]
      split
      · rfl
      · dsimp only
        split
        · rfl
        · have hnext := ih (position + 1)
            (value ||| (current &&& 0x7f).toUInt32 <<< (7 * position).toUInt32) (before ++ [current]) rest
            (by simp [hposition])
          rwa [List.append_assoc, List.singleton_append] at hnext

/-- The index of every byte that `ConsumeVarInt` reads is in range. -/
@[simp] theorem consume_var_int_checked_eq (data : Bytes) :
    consume_var_int_checked data = .ofExcept (consume_var_int data) :=
  consume_var_int_at_eq MaxVarIntBytes 0 0 [] data rfl

@[simp] theorem packet_id_checked_eq (payload : Bytes) :
    packet_id_checked payload = .ofExcept (packet_id payload) := by
  rw [packet_id_checked, consume_var_int_checked_eq, packet_id]
  cases hconsume : consume_var_int payload with
  | error e => rfl
  | ok result =>
    obtain ⟨id, size⟩ := result
    obtain ⟨_, _, _, _, hsize⟩ := consume_var_int_bounds hconsume
    simp [sliceFrom_ok hsize]

@[simp] theorem consume_string_checked_eq (data : Bytes) (maxChars : Nat) :
    consume_string_checked data maxChars = .ofExcept (consume_string data maxChars) := by
  rw [consume_string_checked, consume_var_int_checked_eq, consume_string]
  cases consume_var_int data with
  | error e => rfl
  | ok result =>
    obtain ⟨length, size⟩ := result
    simp only [Outcome.ofExcept_ok, Outcome.mapError_ok, Outcome.ok_bind]
    split
    · rfl
    · split
      · rfl
      · rename_i hfits
        rw [slice_ok (by omega) (by omega), Outcome.ok_bind]
        cases rune_count ((data.take (size + length.toNat)).drop size) with
        | none => rfl
        | some count =>
          dsimp only
          split <;> rfl

/-- The size that `ConsumeString` reports stays within the input. -/
theorem consume_string_bounds {data value : Bytes} {maxChars used : Nat}
    (h : consume_string data maxChars = .ok (value, used)) : 0 < used ∧ used ≤ data.length := by
  obtain ⟨n, size, hconsume, _, _, hfits, _, rfl, _⟩ := consume_string_eq_ok.mp h
  obtain ⟨_, _, hpositive, _, _⟩ := consume_var_int_bounds hconsume
  exact ⟨by omega, hfits⟩

section Safe

variable {ε : Type} (onError : Error → ε)

theorem safe_packet_id (payload : Bytes) : ((packet_id_checked payload).mapError onError).Safe fun _ => True := by
  rw [packet_id_checked_eq]
  apply Outcome.Safe.mapError
  apply Outcome.safe_ofExcept
  intros
  trivial

/-- The size of a VarInt that was read stays within the input. -/
theorem safe_consume_var_int (data : Bytes) :
    ((consume_var_int_checked data).mapError onError).Safe fun result => result.2 ≤ data.length := by
  rw [consume_var_int_checked_eq]
  apply Outcome.Safe.mapError
  apply Outcome.safe_ofExcept
  rintro ⟨value, used⟩ hvalue
  obtain ⟨_, _, _, _, hused⟩ := consume_var_int_bounds hvalue
  exact hused

/-- `ConsumeString` does not panic and stays within its input. -/
theorem safe_consume_string (data : Bytes) (maxChars : Nat) :
    ((consume_string_checked data maxChars).mapError onError).Safe fun result => result.2 ≤ data.length := by
  rw [consume_string_checked_eq]
  apply Outcome.Safe.mapError
  apply Outcome.safe_ofExcept
  rintro ⟨value, used⟩ hvalue
  exact (consume_string_bounds hvalue).2

end Safe

end regiongate.codec
