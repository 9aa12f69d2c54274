import RegionGate.Forwarding.Unambiguous
import RegionGate.Protocol.Handshake

open checked parsing regiongate.codec

namespace regiongate.forwarding

section VarInt

variable {ε : Type} (onError : Error → ε)

theorem reads_int {value : Int} (hlow : -2 ^ 31 ≤ value) (hhigh : value < 2 ^ 31) :
    Reads varInt (append_var_int [] value) value := by
  have hreads := reads_varInt value
  rwa [Int32.toInt_ofInt_of_le hlow hhigh] at hreads

theorem varInt_run_eq_some {data rest : Bytes} {value : Int} (h : varInt.run data = some (value, rest)) :
    ∃ used, consume_var_int data = .ok (value, used) ∧ rest = data.drop used := by
  simp only [StateT.run, varInt] at h
  split at h
  · rename_i value' used hconsume
    cases h
    exact ⟨used, hconsume, rfl⟩
  · cases h

theorem varInt_run_ok {data : Bytes} {value : Int} {used : Nat} (h : consume_var_int data = .ok (value, used)) :
    varInt.run data = some (value, data.drop used) := by
  simp only [StateT.run, varInt, h]

theorem varInt_run_error {data : Bytes} {e : Error} (h : consume_var_int data = .error e) :
    varInt.run data = none := by
  simp only [StateT.run, varInt, h]

theorem local_varInt : Local varInt := by
  intro data value rest hrun
  obtain ⟨used, hconsume, rfl⟩ := varInt_run_eq_some hrun
  obtain ⟨_, _, _, _, hused⟩ := consume_var_int_bounds hconsume
  refine ⟨data.take used, (List.take_append_drop ..).symm, fun rest => ?_⟩
  rw [varInt_run_ok (consume_var_int_take hconsume rest), List.drop_left' (List.length_take_of_le hused)]

theorem ensures_varInt : Ensures varInt fun value => -2 ^ 31 ≤ value ∧ value < 2 ^ 31 := by
  intro data value rest hrun
  obtain ⟨used, hconsume, -⟩ := varInt_run_eq_some hrun
  obtain ⟨hlow, hhigh, -⟩ := consume_var_int_bounds hconsume
  exact ⟨hlow, hhigh⟩

/-- `ConsumeVarInt` measures what the reader reads. -/
theorem measures_varInt (data : Bytes) : Measures ((consume_var_int_checked data).mapError onError) varInt data := by
  rw [Measures, Outcome.toOption_mapError, consume_var_int_checked_eq]
  cases hconsume : consume_var_int data with
  | error e =>
    rw [varInt_run_error hconsume]
    rfl
  | ok result =>
    obtain ⟨value, used⟩ := result
    obtain ⟨_, _, _, _, hused⟩ := consume_var_int_bounds hconsume
    have hoffset : data.length - (data.drop used).length = used := by
      rw [List.length_drop]
      omega
    rw [varInt_run_ok hconsume, Option.map_some, hoffset]
    rfl

/-- `PacketID` reads a VarInt and leaves the body. -/
theorem packet_id_run (payload : Bytes) :
    ((packet_id_checked payload).mapError onError).toOption = varInt.run payload := by
  rw [Outcome.toOption_mapError, packet_id_checked_eq, packet_id]
  cases hconsume : consume_var_int payload with
  | error e =>
    rw [varInt_run_error hconsume]
    rfl
  | ok result =>
    rw [varInt_run_ok hconsume]
    rfl

end VarInt

end regiongate.forwarding

namespace regiongate.login

open forwarding

/-- Valid UTF-8 of at most `maxChars` characters, of three bytes each on average. -/
structure Text (maxChars : Nat) (value : Bytes) : Prop where
  valid : ∃ count, rune_count value = some count ∧ count ≤ maxChars
  size : value.length ≤ maxChars * 3

/-- A length of at most `limit`, and as many bytes. -/
def byteArray (limit : Nat) : Reader UInt8 Bytes := do
  let length ← varInt
  if length < 0 ∨ length > limit then failure else exactly length.toNat

/-- A string of at most `maxChars` characters, in as many bytes as UTF-8 could need
for them by the count of the source. -/
def text (maxChars : Nat) : Reader UInt8 Bytes := do
  let value ← byteArray (maxChars * 3)
  if (rune_count value).any (· ≤ maxChars) = false then failure else return value

theorem local_byteArray (limit : Nat) : Local (byteArray limit) :=
  local_varInt.bind fun length => .guarded fun _ => local_exactly length.toNat

theorem local_text (maxChars : Nat) : Local (text maxChars) :=
  (local_byteArray _).bind fun value => .guarded fun _ => .pure value

theorem ensures_byteArray (limit : Nat) : Ensures (byteArray limit) (·.length ≤ limit) := by
  refine ensures_varInt.bind fun length _ => .guarded fun hlength => ?_
  intro input value rest hrun
  have hsize := ensures_exactly _ hrun
  omega

theorem ensures_text (maxChars : Nat) : Ensures (text maxChars) (Text maxChars) := by
  refine (ensures_byteArray _).bind fun value hsize => .guarded fun hvalid => .pure ⟨?_, hsize⟩
  rw [Bool.not_eq_false, Option.any_eq_true] at hvalid
  obtain ⟨count, hcount, hle⟩ := hvalid
  exact ⟨count, hcount, of_decide_eq_true hle⟩

/-- A byte array within its limit is read back. -/
theorem reads_byteArray {limit : Nat} {value : Bytes} (hsize : value.length ≤ limit) (hlimit : limit < 2 ^ 31) :
    Reads (byteArray limit) (append_byte_array [] value) value := by
  refine (reads_int (by omega) (by omega)).bind (.guarded (by omega) ?_)
  rw [Int.toNat_natCast]
  exact reads_exactly rfl

theorem reads_text {maxChars : Nat} {value : Bytes} (h : Text maxChars value) (hlimit : maxChars * 3 < 2 ^ 31) :
    Reads (text maxChars) (append_string [] value) value := by
  obtain ⟨count, hcount, hle⟩ := h.valid
  refine (reads_byteArray h.size hlimit).bind_nil (.guarded ?_ .pure)
  simpa [hcount] using hle

/-- `consumeByteArray` measures what the reader reads. -/
theorem measures_byteArray (data : Bytes) (limit : Nat) :
    Measures (consume_byte_array data limit) (byteArray limit) data := by
  rw [Measures, consume_byte_array, byteArray, consume_var_int_checked_eq, StateT.run_bind]
  cases hconsume : consume_var_int data with
  | error e =>
    rw [varInt_run_error hconsume]
    rfl
  | ok result =>
    obtain ⟨length, used⟩ := result
    obtain ⟨_, _, _, _, hused⟩ := consume_var_int_bounds hconsume
    rw [varInt_run_ok hconsume]
    simp only [Outcome.ofExcept_ok, Outcome.mapError_ok, Outcome.ok_bind, Option.bind_eq_bind, Option.bind_some]
    by_cases hlength : length < 0 ∨ length > limit
    · rw [if_pos hlength, if_pos hlength]
      rfl
    · rw [if_neg hlength, if_neg hlength]
      change _ = Option.map _ (if _ then _ else _)
      by_cases hfits : used + length.toNat ≤ data.length
      · have hvalue : (data.take (used + length.toNat)).drop used = (data.drop used).take length.toNat := by
          rw [List.drop_take, Nat.add_sub_cancel_left]
        have hoffset : data.length - ((data.drop used).drop length.toNat).length = used + length.toNat := by
          simp only [List.length_drop]
          omega
        rw [if_neg (by omega), slice_ok (by omega) hfits, if_pos (by rw [List.length_drop]; omega), hvalue,
          Option.map_some, hoffset]
        rfl
      · rw [if_pos (by omega), if_neg (by rw [List.length_drop]; omega)]
        rfl

/-- `readString` is a byte array of which the runes are counted, while its limit does
not wrap around. -/
theorem read_string_eq_byte_array (data : Bytes) {maxChars : Nat} (hlimit : maxChars * 3 < 2 ^ 63) :
    read_string data maxChars = (do
      let (value, stop) ← consume_byte_array data (maxChars * 3)
      match rune_count value with
      | none => .Fail .LoginMalformed
      | some count => if count > maxChars then .Fail .LoginMalformed else .Ok (value, stop)) := by
  rw [read_string, consume_byte_array, consume_var_int_checked_eq, wrap64_of_lt (by omega) (by omega)]
  cases consume_var_int data with
  | error e => rfl
  | ok result =>
    obtain ⟨length, used⟩ := result
    simp only [Outcome.ofExcept_ok, Outcome.mapError_ok, Outcome.ok_bind, Nat.cast_mul, Nat.cast_ofNat]
    split
    · rfl
    · split
      · rfl
      · rename_i hfits
        rw [slice_ok (by omega) (by omega)]
        rfl

theorem measures_text (data : Bytes) {maxChars : Nat} (hlimit : maxChars * 3 < 2 ^ 63) :
    Measures (read_string data maxChars) (text maxChars) data := by
  rw [Measures, read_string_eq_byte_array data hlimit, Outcome.toOption_bind, measures_byteArray, text, StateT.run_bind]
  cases (byteArray (maxChars * 3)).run data with
  | none => rfl
  | some read =>
    obtain ⟨value, rest⟩ := read
    simp only [Option.map_some, Option.bind_some, Option.bind_eq_bind]
    cases rune_count value with
    | none => rfl
    | some count =>
      by_cases hcount : count ≤ maxChars
      · simp [hcount, Nat.not_lt.mpr hcount, Outcome.toOption]
      · have hany : (some count).any (fun n => decide (n ≤ maxChars)) = false := by simpa using hcount
        rw [hany, if_pos rfl]
        dsimp only
        rw [if_pos (by omega)]
        rfl

/-- `ConsumeString` reads what `readString` reads, with errors of its own. -/
theorem measures_consume_string {ε : Type} (onError : Error → ε) (data : Bytes) {maxChars : Nat}
    (hlimit : maxChars * 3 < 2 ^ 63) :
    Measures ((consume_string_checked data maxChars).mapError onError) (text maxChars) data := by
  have hread := measures_text data hlimit
  rw [Measures, read_string_eq, Outcome.toOption_mapError] at hread
  rw [Measures, Outcome.toOption_mapError]
  exact hread

end regiongate.login

namespace regiongate.handshake

theorem measures_text (data : Bytes) {maxChars : Nat} (hlimit : maxChars * 3 < 2 ^ 63) :
    Measures (read_string data maxChars) (login.text maxChars) data := by
  rw [Measures, read_string_eq, Outcome.toOption_mapError]
  exact login.measures_text data hlimit

end regiongate.handshake
