import RegionGate.Checked
import RegionGate.Codec.Cipher
import RegionGate.Memory

open checked memory

namespace regiongate.codec

/-- Part of the memory, as Go's `[]byte` refers to it. -/
structure Slice where
  start : Nat
  length : Nat
  deriving DecidableEq

/-- The bytes that both slices of a call lie in, by their addresses. -/
abbrev Memory := Nat → UInt8

/-- The loop of `cfb8` on the memory that `dst` and `src` point to. The register
is the state's own array. -/
def cfb8_from (block : Bytes → Bytes) (dst src : Slice) (encrypt : Bool) :
    (remaining index : Nat) → (shift : Bytes) → Memory → Bytes × Memory
  | 0, _, shift, mem => (shift, mem)
  | remaining + 1, index, shift, mem =>
    let value := mem (src.start + index)
    let encrypted := block shift
    let result := value ^^^ encrypted.headD 0
    let feedback := if encrypt then result else value
    cfb8_from block dst src encrypt remaining (index + 1) (shift.drop 1 ++ [feedback])
      (Function.update mem (dst.start + index) result)

/-- `cfb8`, which panics when the output is smaller than the input. -/
def cfb8_checked (block : Bytes → Bytes) (shift : Bytes) (dst src : Slice) (encrypt : Bool) (mem : Memory) :
    Outcome Error (Bytes × Memory) :=
  if dst.length < src.length then .Panic
  else .Ok (cfb8_from block dst src encrypt src.length 0 shift mem)

namespace CipherState

/-- `Encrypt` on slices of one memory, which may overlap. -/
def encrypt_checked (aes : Bytes → Bytes → Bytes) (c : CipherState) (dst src : Slice) (mem : Memory) :
    Outcome Error (CipherState × Memory) := do
  let (shift, mem) ← cfb8_checked (aes c.key) c.encrypt_iv dst src true mem
  .Ok ({ c with encrypt_iv := shift }, mem)

/-- `Decrypt` on slices of one memory, which may overlap. -/
def decrypt_checked (aes : Bytes → Bytes → Bytes) (c : CipherState) (dst src : Slice) (mem : Memory) :
    Outcome Error (CipherState × Memory) := do
  let (shift, mem) ← cfb8_checked (aes c.key) c.decrypt_iv dst src false mem
  .Ok ({ c with decrypt_iv := shift }, mem)

end CipherState

/-- The key byte that `cfb8` takes from an encrypted register. -/
def firstByte (block : Bytes → Bytes) (shift : Bytes) : UInt8 := (block shift).headD 0

/-- One byte of `cfb8`: what it becomes, and the register for the next. -/
theorem cfb8_cons (key : Bytes → UInt8) (shift : Bytes) (value : UInt8) (rest : Bytes) (encrypt : Bool) :
    cfb8 key shift (value :: rest) encrypt =
      ((value ^^^ key shift) ::
          (cfb8 key (shift.drop 1 ++ [if encrypt then value ^^^ key shift else value]) rest encrypt).1,
        (cfb8 key (shift.drop 1 ++ [if encrypt then value ^^^ key shift else value]) rest encrypt).2) := rfl

/-- Two calls on two pieces are one call on both, with the register passed on. -/
theorem cfb8_append (key : Bytes → UInt8) (shift xs ys : Bytes) (encrypt : Bool) :
    cfb8 key shift (xs ++ ys) encrypt =
      ((cfb8 key shift xs encrypt).1 ++ (cfb8 key (cfb8 key shift xs encrypt).2 ys encrypt).1,
        (cfb8 key (cfb8 key shift xs encrypt).2 ys encrypt).2) := by
  induction xs generalizing shift with
  | nil => rfl
  | cons value xs ih => rw [List.cons_append, cfb8_cons, ih, cfb8_cons, List.cons_append]

theorem cfb8_register_length (key : Bytes → UInt8) {shift : Bytes} (src : Bytes) (encrypt : Bool)
    (h : shift.length = 16) : (cfb8 key shift src encrypt).2.length = 16 := by
  induction src generalizing shift with
  | nil => exact h
  | cons value src ih =>
    rw [cfb8_cons]
    refine ih ?_
    rw [List.length_append, List.length_drop, List.length_singleton, h]

/-- The loop leaves in `dst` what `cfb8` makes of the bytes in `src`, and every
other byte as it was. No byte of `src` is overwritten before it is read. -/
theorem cfb8_from_eq (block : Bytes → Bytes) {dst src : Slice} (encrypt : Bool) (remaining index : Nat)
    (shift : Bytes) (mem : Memory) (hplaced : dst.start ≤ src.start ∨ src.start + index + remaining ≤ dst.start) :
    ∃ after, cfb8_from block dst src encrypt remaining index shift mem =
        ((cfb8 (firstByte block) shift (read mem (src.start + index) remaining) encrypt).2, after) ∧
      read after (dst.start + index) remaining =
        (cfb8 (firstByte block) shift (read mem (src.start + index) remaining) encrypt).1 ∧
      ∀ address, address < dst.start + index ∨ dst.start + index + remaining ≤ address →
        after address = mem address := by
  induction remaining generalizing index shift mem with
  | zero => exact ⟨mem, rfl, rfl, fun _ _ => rfl⟩
  | succ remaining ih =>
    rw [memory.read, cfb8_cons, cfb8_from]
    change ∃ after, cfb8_from block dst src encrypt remaining (index + 1) (shift.drop 1 ++
      [if encrypt then mem (src.start + index) ^^^ firstByte block shift else mem (src.start + index)])
      (Function.update mem (dst.start + index) (mem (src.start + index) ^^^ firstByte block shift)) = _ ∧ _
    generalize mem (src.start + index) ^^^ firstByte block shift = result
    generalize shift.drop 1 ++ [if encrypt then result else mem (src.start + index)] = shift
    obtain ⟨after, hloop, houtput, hframe⟩ := ih (index + 1) shift
      (Function.update mem (dst.start + index) result) (by omega)
    -- The byte stored here lies before or behind everything still to be read.
    have hinput : read (Function.update mem (dst.start + index) result) (src.start + (index + 1)) remaining =
        read mem (src.start + (index + 1)) remaining := read_update _ (by omega)
    have hstored : after (dst.start + index) = result := by
      rw [hframe _ (.inl (by omega)), Function.update_self]
    rw [hinput] at hloop houtput
    refine ⟨after, hloop, ?_, fun address haddress => ?_⟩
    · rw [memory.read, hstored]
      exact congrArg (result :: ·) houtput
    · rw [hframe address (by omega), Function.update_of_ne (by omega)]

/-- On slices that do not overlap the wrong way the loop in memory writes what `cfb8`
computes, and nothing else. -/
theorem cfb8_checked_eq (block : Bytes → Bytes) (shift : Bytes) {dst src : Slice} (encrypt : Bool) (mem : Memory)
    (hroom : src.length ≤ dst.length) (hplaced : dst.start ≤ src.start ∨ src.start + src.length ≤ dst.start) :
    ∃ after, cfb8_checked block shift dst src encrypt mem =
        .Ok ((cfb8 (firstByte block) shift (read mem src.start src.length) encrypt).2, after) ∧
      read after dst.start src.length =
        (cfb8 (firstByte block) shift (read mem src.start src.length) encrypt).1 ∧
      ∀ address, address < dst.start ∨ dst.start + src.length ≤ address → after address = mem address := by
  obtain ⟨after, hloop, houtput, hframe⟩ := cfb8_from_eq block encrypt src.length 0 shift mem hplaced
  refine ⟨after, ?_, houtput, hframe⟩
  rw [cfb8_checked, if_neg (Nat.not_lt.mpr hroom), hloop]
  rfl

/-- One call of `Encrypt` or `Decrypt`, with the memory that it finds. -/
structure Call where
  encrypt : Bool
  dst : Slice
  src : Slice
  memory : Memory

namespace Call

/-- What the source slice holds when the call is made. -/
def input (call : Call) : Bytes := read call.memory call.src.start call.src.length

/-- The output has room, and lies on the input, in front of it or apart from it. -/
structure Placed (call : Call) : Prop where
  room : call.src.length ≤ call.dst.length
  apart : call.dst.start ≤ call.src.start ∨ call.src.start + call.src.length ≤ call.dst.start

instance (call : Call) : Decidable call.Placed :=
  decidable_of_iff (call.src.length ≤ call.dst.length ∧
      (call.dst.start ≤ call.src.start ∨ call.src.start + call.src.length ≤ call.dst.start))
    ⟨fun h => ⟨h.1, h.2⟩, fun h => ⟨h.room, h.apart⟩⟩

/-- The call on a cipher state. -/
def run (aes : Bytes → Bytes → Bytes) (call : Call) (c : CipherState) : Outcome Error (CipherState × Memory) :=
  if call.encrypt then c.encrypt_checked aes call.dst call.src call.memory
  else c.decrypt_checked aes call.dst call.src call.memory

end Call

/-- The calls of one direction, and all that they were given. -/
def ofDirection (encrypt : Bool) (calls : List Call) : List Call := calls.filter (·.encrypt == encrypt)

/-- What the calls of one direction are given, in one piece. -/
def inputs (encrypt : Bool) (calls : List Call) : Bytes := (ofDirection encrypt calls).flatMap Call.input

theorem inputs_nil (encrypt : Bool) : inputs encrypt [] = [] := rfl

theorem inputs_cons (encrypt : Bool) (call : Call) (calls : List Call) :
    inputs encrypt (call :: calls) =
      if call.encrypt = encrypt then call.input ++ inputs encrypt calls else inputs encrypt calls := by
  by_cases h : call.encrypt = encrypt <;> simp [inputs, ofDirection, h]

theorem inputs_ofDirection_self (encrypt : Bool) (calls : List Call) :
    inputs encrypt (ofDirection encrypt calls) = inputs encrypt calls := by
  simp [inputs, ofDirection]

theorem inputs_ofDirection_other {encrypt other : Bool} (h : encrypt ≠ other) (calls : List Call) :
    inputs encrypt (ofDirection other calls) = [] := by
  rw [inputs, ofDirection, ofDirection, List.filter_filter, List.filter_eq_nil_iff.mpr, List.flatMap_nil]
  intro call _ hboth
  rw [Bool.and_eq_true, beq_iff_eq, beq_iff_eq] at hboth
  exact h (hboth.1.symm.trans hboth.2)

/-- A state in use, with what its calls have written so far. -/
structure Streams where
  state : CipherState
  encrypted : Bytes
  decrypted : Bytes
  deriving DecidableEq

namespace Streams

variable (aes : Bytes → Bytes → Bytes)

/-- A further call, whose output is read from its destination afterwards. -/
def call (s : Streams) (call : Call) : Outcome Error Streams := do
  let (state, mem) ← call.run aes s.state
  let output := read mem call.dst.start call.src.length
  .Ok (if call.encrypt then { s with state, encrypted := s.encrypted ++ output }
    else { s with state, decrypted := s.decrypted ++ output })

/-- All calls on a fresh state. -/
def run (state : CipherState) (calls : List Call) : Outcome Error Streams :=
  calls.foldlM (call aes) { state, encrypted := [], decrypted := [] }

/-- A call without memory: `cfb8` on the bytes themselves. -/
def extend (s : Streams) : (encrypt : Bool) → (input : Bytes) → Streams
  | true, input =>
    let (output, state) := s.state.encrypt (fun key => firstByte (aes key)) input
    { s with state, encrypted := s.encrypted ++ output }
  | false, input =>
    let (output, state) := s.state.decrypt (fun key => firstByte (aes key)) input
    { s with state, decrypted := s.decrypted ++ output }

theorem extend_nil (s : Streams) (encrypt : Bool) : s.extend aes encrypt [] = s := by
  cases encrypt <;> simp [extend, CipherState.encrypt, CipherState.decrypt, cfb8]

theorem extend_append (s : Streams) (encrypt : Bool) (xs ys : Bytes) :
    s.extend aes encrypt (xs ++ ys) = (s.extend aes encrypt xs).extend aes encrypt ys := by
  cases encrypt <;> simp [extend, CipherState.encrypt, CipherState.decrypt, cfb8_append]

/-- The two directions share nothing. -/
theorem extend_comm (s : Streams) (xs ys : Bytes) :
    (s.extend aes false xs).extend aes true ys = (s.extend aes true ys).extend aes false xs := rfl

/-- A call extends the stream of its direction. -/
theorem call_eq {s : Streams} {call : Call} (h : call.Placed) :
    s.call aes call = .Ok (s.extend aes call.encrypt call.input) := by
  obtain ⟨encrypt, dst, src, mem⟩ := call
  cases encrypt with
  | true =>
    obtain ⟨after, hcall, houtput, -⟩ :=
      cfb8_checked_eq (aes s.state.key) s.state.encrypt_iv true mem h.room h.apart
    simp only [call, Call.run, if_true, CipherState.encrypt_checked, hcall, Outcome.ok_bind, houtput]
    rfl
  | false =>
    obtain ⟨after, hcall, houtput, -⟩ :=
      cfb8_checked_eq (aes s.state.key) s.state.decrypt_iv false mem h.room h.apart
    simp only [call, Call.run, Bool.false_eq_true, if_false, CipherState.decrypt_checked, hcall, Outcome.ok_bind,
      houtput]
    rfl

/-- A run of interleaved calls is one call in each direction. -/
theorem foldlM_call {calls : List Call} (h : ∀ call ∈ calls, call.Placed) (s : Streams) :
    calls.foldlM (call aes) s =
      .Ok ((s.extend aes true (inputs true calls)).extend aes false (inputs false calls)) := by
  induction calls generalizing s with
  | nil =>
    rw [inputs_nil, inputs_nil, extend_nil, extend_nil]
    rfl
  | cons call calls ih =>
    obtain ⟨hcall, hcalls⟩ := List.forall_mem_cons.mp h
    rw [List.foldlM_cons, call_eq aes hcall, Outcome.ok_bind, ih hcalls, inputs_cons, inputs_cons]
    cases call.encrypt with
    | true => rw [if_pos rfl, if_neg (by decide), extend_append]
    | false => rw [if_neg (by decide), if_pos rfl, extend_append, extend_comm]

/-- All calls of a run: the two directions do not meet. -/
theorem run_eq (state : CipherState) {calls : List Call} (h : ∀ call ∈ calls, call.Placed) :
    run aes state calls =
      .Ok ((extend aes ⟨state, [], []⟩ true (inputs true calls)).extend aes false (inputs false calls)) :=
  foldlM_call aes h _

end Streams

theorem ofDirection_placed {calls : List Call} (h : ∀ call ∈ calls, call.Placed) (encrypt : Bool) :
    ∀ call ∈ ofDirection encrypt calls, call.Placed :=
  fun call hcall => h call (List.mem_of_mem_filter hcall)

/-- Two states of one key and one initial register: what the second decrypts of
the ciphertext that the first has written is the plaintext, however the
calls cut both and whatever the other direction of each state does. -/
theorem cipher_streams_inverse (aes : Bytes → Bytes → Bytes) {key iv : Bytes} {state : CipherState}
    (hstate : new_cipher_state key iv = .ok state) {sent received : List Call}
    (hsent : ∀ call ∈ sent, call.Placed) (hreceived : ∀ call ∈ received, call.Placed) :
    ∃ s r : Streams, Streams.run aes state sent = .Ok s ∧ Streams.run aes state received = .Ok r ∧
      -- one call over the whole plaintext writes the same ciphertext and leaves the same register
      state.encrypt (fun key => firstByte (aes key)) (inputs true sent) =
        (s.encrypted, { state with encrypt_iv := s.state.encrypt_iv }) ∧
      (inputs false received = s.encrypted →
        r.decrypted = inputs true sent ∧ r.state.decrypt_iv = s.state.encrypt_iv ∧
        state.decrypt (fun key => firstByte (aes key)) s.encrypted =
          (r.decrypted, { state with decrypt_iv := r.state.decrypt_iv })) ∧
      -- the calls of one direction do the same without those of the other
      Streams.run aes state (ofDirection true sent) =
        .Ok { s with decrypted := [], state := { s.state with decrypt_iv := state.decrypt_iv } } ∧
      Streams.run aes state (ofDirection false sent) =
        .Ok { s with encrypted := [], state := { s.state with encrypt_iv := state.encrypt_iv } } ∧
      s.state.encrypt_iv.length = 16 ∧ s.state.decrypt_iv.length = 16 := by
  obtain ⟨hlength, rfl⟩ : iv.length = 16 ∧ state = { key, encrypt_iv := iv, decrypt_iv := iv } := by
    unfold new_cipher_state at hstate
    split at hstate
    · cases hstate
    · cases hstate
      exact ⟨by omega, rfl⟩
  refine ⟨_, _, Streams.run_eq aes _ hsent, Streams.run_eq aes _ hreceived, rfl, fun hstream => ?_, ?_, ?_, ?_, ?_⟩
  · have hinverse := cfb8_decrypt_encrypt (firstByte (aes key)) iv (inputs true sent)
    have hciphertext : inputs false received = (cfb8 (firstByte (aes key)) iv (inputs true sent) true).1 := hstream
    simp only [Streams.extend, CipherState.encrypt, CipherState.decrypt, hciphertext, hinverse, List.nil_append,
      and_self]
  · rw [Streams.run_eq aes _ (ofDirection_placed hsent true), inputs_ofDirection_self,
      inputs_ofDirection_other (by decide), Streams.extend_nil]
    rfl
  · rw [Streams.run_eq aes _ (ofDirection_placed hsent false), inputs_ofDirection_self,
      inputs_ofDirection_other (by decide), Streams.extend_nil]
    rfl
  · exact cfb8_register_length _ _ true hlength
  · exact cfb8_register_length _ _ false hlength

/-- Three bytes are encrypted in three calls, one of them in place and one
empty, with a call of the other direction between them. They are decrypted
in two calls. -/
theorem cipher_streams_inverse_pieces :
    let aes : Bytes → Bytes → Bytes := fun _ shift => shift.map (· + 1)
    let zeros := List.replicate 16 (0 : UInt8)
    let state : CipherState := { key := zeros, encrypt_iv := zeros, decrypt_iv := zeros }
    let sent : List Call := [⟨true, ⟨4, 2⟩, ⟨4, 2⟩, fun _ => 7⟩, ⟨false, ⟨0, 3⟩, ⟨1, 2⟩, fun _ => 9⟩,
      ⟨true, ⟨0, 0⟩, ⟨8, 0⟩, fun _ => 0⟩, ⟨true, ⟨5, 1⟩, ⟨2, 1⟩, fun _ => 8⟩]
    let received : List Call := [⟨false, ⟨0, 1⟩, ⟨0, 1⟩, fun _ => 6⟩,
      ⟨false, ⟨4, 2⟩, ⟨2, 2⟩, fun address => if address = 2 then 6 else 9⟩]
    ∃ s r, Streams.run aes state sent = .Ok s ∧ Streams.run aes state received = .Ok r ∧
      s.encrypted = [6, 6, 9] ∧ r.decrypted = [7, 7, 8] := by
  intro aes zeros state sent received
  have hstate : new_cipher_state zeros zeros = .ok state := rfl
  have hsent : ∀ call ∈ sent, call.Placed := by decide
  have hreceived : ∀ call ∈ received, call.Placed := by decide
  obtain ⟨s, r, hs, hr, hsingle, hinverse, _⟩ := cipher_streams_inverse aes hstate hsent hreceived
  have hencrypted : (state.encrypt (fun key => firstByte (aes key)) (inputs true sent)).1 = [6, 6, 9] := by decide
  rw [hsingle] at hencrypted
  have hciphertext : inputs false received = [6, 6, 9] := rfl
  obtain ⟨hdecrypted, _⟩ := hinverse (hciphertext.trans hencrypted.symm)
  exact ⟨s, r, hs, hr, hencrypted, hdecrypted⟩

end regiongate.codec
