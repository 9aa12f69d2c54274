import RegionGate.Codec.Cipher
import RegionGate.Codec.Compression

open checked framing regiongate.codec

namespace regiongate.transport

/-- How a transport delimits its frames: plain, or with a compression state. -/
structure Format where
  framer : Framer
  compression : Option CompressionState
  deriving DecidableEq

/-- One end of a connection. `buffer` is what its buffered reader has read from
the connection and not handed out. -/
structure Transport where
  max_packet_size : Int
  format : Format
  encryption : Option CipherState
  buffer : Bytes
  deriving DecidableEq

/-- AES under a key, as the first byte of the block it makes of a register. -/
abbrev Aes := Bytes → Bytes → UInt8

namespace Format

/-- The framer that `ReadFrame` takes the length of a frame with. -/
def wire_framer (format : Format) : Framer :=
  match format.compression with
  | some c => c.wire_framer
  | none => format.framer

/-- What `ReadFrame` makes of a wire frame. -/
def finish (zlib : Zlib) (format : Format) (wire : Except Error Bytes) : Outcome Error Bytes :=
  match wire, format.compression with
  | .error e, _ => .Fail e
  | .ok wire, some c => c.read_wire zlib wire
  | .ok wire, none => .Ok wire

/-- `Transport.ReadFrame` on its next byte. -/
def read_byte (zlib : Zlib) (format : Format) (state : ReadState) (current : UInt8) :
    ReadState ⊕ Outcome Error Bytes :=
  match format.wire_framer.read_byte state current with
  | .inl next => .inl next
  | .inr wire => .inr (format.finish zlib wire)

/-- The frame that the writer loop makes of a request, as it is handed to
`writeAll` piece by piece. -/
def frame_writes (zlib : Zlib) (format : Format) (payload : Bytes) : Except Error (List Bytes) :=
  match format.compression with
  | some c => c.write_frame zlib payload
  | none => format.framer.write_frame payload

/-- Both layers keep to the packet limit of the transport, which leaves room for
the lengths on the wire. -/
structure Valid (limit : Nat) (format : Format) : Prop where
  small : limit + limit / 1000 + 69 < 2 ^ 31
  framer : format.framer.max_packet_size = limit
  compression : ∀ c, format.compression = some c → c.Sized ∧ c.max_packet_size = limit

variable {zlib : Zlib} {format : Format}

/-- Frames of a format are those of its framer, unpacked. -/
theorem feed_read_byte (state : ReadState) (data : Bytes) :
    feed (format.read_byte zlib) state data =
      match feed format.wire_framer.read_byte state data with
      | .inl next => .inl next
      | .inr (wire, rest) => .inr (format.finish zlib wire, rest) := by
  induction data generalizing state with
  | nil => rfl
  | cons current rest ih =>
    rw [feed, feed, read_byte]
    cases format.wire_framer.read_byte state current with
    | inl next => exact ih next
    | inr wire => rfl

theorem complete_finish (zlib : Zlib) {code : Bytes} {wire : Except Error Bytes}
    (h : Complete format.wire_framer.read_byte Framer.read_start code wire) :
    Complete (format.read_byte zlib) Framer.read_start code (format.finish zlib wire) := by
  unfold Complete at h ⊢
  rw [feed_read_byte, h]

/-- A frame that was written is read back as one message. -/
theorem complete_frame {limit : Nat} {payload : Bytes} {writes : List Bytes} (hvalid : format.Valid limit)
    (h : format.frame_writes zlib payload = .ok writes) :
    Complete (format.read_byte zlib) Framer.read_start writes.flatten (.Ok payload) := by
  have hsmall := hvalid.small
  unfold frame_writes at h
  cases hcompression : format.compression with
  | none =>
    simp only [hcompression] at h
    have hframe : format.wire_framer = format.framer := by
      unfold wire_framer
      rw [hcompression]
    have hlimit : format.wire_framer.max_packet_size < 2 ^ 31 := by
      rw [hframe, hvalid.framer]
      omega
    rw [← hframe] at h
    have hlength := (Framer.write_frame_eq_ok.mp h).2.1.trans_lt hlimit
    have hcomplete := complete_finish zlib (Framer.complete_write_frame hlength h)
    have hfinish : format.finish zlib (.ok payload) = .Ok payload := by simp [finish, hcompression]
    rwa [hfinish] at hcomplete
  | some c =>
    simp only [hcompression] at h
    obtain ⟨hsized, _⟩ := hvalid.compression c hcompression
    obtain ⟨wire, hwrites, hread⟩ := CompressionState.write_frame_eq hsized h
    have hframe : format.wire_framer = c.wire_framer := by
      unfold wire_framer
      rw [hcompression]
    have hlimit : format.wire_framer.max_packet_size < 2 ^ 31 := by
      have hroom := hsized.small
      rw [hframe, hsized.wire]
      simp only [MaxVarIntBytes]
      omega
    rw [← hframe] at hwrites
    have hlength := (Framer.write_frame_eq_ok.mp hwrites).2.1.trans_lt hlimit
    have hcomplete := complete_finish zlib (Framer.complete_write_frame hlength hwrites)
    have hfinish : format.finish zlib (.ok wire) = .Ok payload := by simp [finish, hcompression, hread]
    rwa [hfinish] at hcomplete

/-- Every payload within the limit can be written. -/
theorem frame_writes_ok (zlib : Zlib) {limit : Nat} {payload : Bytes} (hvalid : format.Valid limit)
    (hpositive : 0 < payload.length) (hfits : payload.length ≤ limit) :
    ∃ writes, format.frame_writes zlib payload = .ok writes := by
  unfold frame_writes
  cases hcompression : format.compression with
  | none =>
    have hlimit := hvalid.framer
    refine ⟨[append_var_int [] payload.length, payload], ?_⟩
    dsimp only
    unfold Framer.write_frame
    rw [if_neg (by omega), if_neg (by omega)]
  | some c =>
    obtain ⟨hsized, hlimit⟩ := hvalid.compression c hcompression
    exact CompressionState.write_frame_ok hsized.wire hpositive (by omega)

/-- The bytes of a frame before encryption; nothing for a payload that is
refused. -/
def encode (zlib : Zlib) (format : Format) (payload : Bytes) : Bytes :=
  match format.frame_writes zlib payload with
  | .ok writes => writes.flatten
  | .error _ => []

theorem complete_encode (zlib : Zlib) {limit : Nat} {payload : Bytes} (hvalid : format.Valid limit)
    (hpositive : 0 < payload.length) (hfits : payload.length ≤ limit) :
    Complete (format.read_byte zlib) Framer.read_start (format.encode zlib payload) (.Ok payload) := by
  obtain ⟨writes, hwrites⟩ := frame_writes_ok zlib hvalid hpositive hfits
  have hcomplete := complete_frame hvalid hwrites
  unfold encode
  rw [hwrites]
  exact hcomplete

end Format

namespace Transport

/-- `New`, without its goroutine. -/
def new (maxPacketSize : Int) : Transport where
  max_packet_size := maxPacketSize
  format := { framer := new_framer maxPacketSize, compression := none }
  encryption := none
  buffer := []

/-- `EnableCompression`. -/
def enable_compression (t : Transport) (threshold : Int) : Except Error Transport :=
  match new_compression_state threshold t.max_packet_size with
  | .error e => .error e
  | .ok compression => .ok { t with format := { t.format with compression := some compression } }

/-- `EnableEncryption`: what is in the buffer would have been read without decryption. -/
def enable_encryption (t : Transport) (key iv : Bytes) : Except Error Transport :=
  if t.buffer.length ≠ 0 then .error .BufferedEncryptionTransition
  else
    match new_cipher_state key iv with
    | .error e => .error e
    | .ok state => .ok { t with encryption := some state }

/-- `cipherWriter.Write` on a connection that takes all of the data: the bytes
that reach the wire. -/
def cipher_write (aes : Aes) (t : Transport) (data : Bytes) : Bytes × Transport :=
  match t.encryption with
  | none => (data, t)
  | some state =>
    let (encrypted, state) := state.encrypt aes data
    (encrypted, { t with encryption := some state })

/-- The writes of one frame, one after the other. -/
def write_pieces (aes : Aes) : Transport → List Bytes → Bytes × Transport
  | t, [] => ([], t)
  | t, data :: rest =>
    let (first, t) := t.cipher_write aes data
    let (second, t) := write_pieces aes t rest
    (first ++ second, t)

/-- `cipherReader.Read`, with the bytes that the connection's `Read` returned. -/
def cipher_read (aes : Aes) (t : Transport) (data : Bytes) : Bytes × Transport :=
  match t.encryption with
  | none => (data, t)
  | some state =>
    let (decrypted, state) := state.decrypt aes data
    (decrypted, { t with encryption := some state })

end Transport

/-- The register of one direction: nothing before encryption is enabled, and
then the key and the last ciphertext. -/
abbrev Register := Option (Bytes × Bytes)

/-- The key byte of a register; plain bytes are mixed with zero. -/
def keyByte (aes : Aes) : Register → UInt8
  | none => 0
  | some (key, shift) => aes key shift

/-- The register after a byte of ciphertext. -/
def Register.shift : Register → UInt8 → Register
  | none, _ => none
  | some (key, shift), feedback => some (key, shiftIn shift feedback)

/-- What encrypting and decrypting do from a register on, with or without a
cipher. -/
def encipher (aes : Aes) (r : Register) (data : Bytes) : Bytes :=
  feedback.encrypt (keyByte aes) Register.shift (· ^^^ ·) r data

/-- What the ciphertext stands for, from this register on. -/
def decipher (aes : Aes) (r : Register) (data : Bytes) : Bytes :=
  feedback.decrypt (keyByte aes) Register.shift (· ^^^ ·) r data

/-- The register after some ciphertext. -/
def Register.past (r : Register) (ciphertext : Bytes) : Register := ciphertext.foldl Register.shift r

section Cipher

variable {aes : Aes}

theorem Register.past_append (r : Register) (xs ys : Bytes) : r.past (xs ++ ys) = (r.past xs).past ys :=
  List.foldl_append

@[simp] theorem encipher_length (r : Register) (data : Bytes) : (encipher aes r data).length = data.length :=
  feedback.encrypt_length r data

@[simp] theorem decipher_length (r : Register) (data : Bytes) : (decipher aes r data).length = data.length :=
  feedback.decrypt_length r data

theorem eq_nil_of_decipher {r : Register} {data : Bytes} (h : decipher aes r data = []) : data = [] := by
  have hlength := congrArg List.length h
  rw [decipher_length, List.length_nil] at hlength
  exact List.length_eq_zero_iff.mp hlength

/-- Two pieces are enciphered one after the other. -/
theorem encipher_append (r : Register) (xs ys : Bytes) :
    encipher aes r (xs ++ ys) = encipher aes r xs ++ encipher aes (r.past (encipher aes r xs)) ys :=
  feedback.encrypt_append r xs ys

/-- Two pieces are deciphered one after the other. -/
theorem decipher_append (r : Register) (xs ys : Bytes) :
    decipher aes r (xs ++ ys) = decipher aes r xs ++ decipher aes (r.past xs) ys :=
  feedback.decrypt_append r xs ys

/-- From the same register, deciphering undoes enciphering. -/
theorem decipher_encipher (r : Register) (data : Bytes) : decipher aes r (encipher aes r data) = data :=
  feedback.decrypt_encrypt mix_mix r data

theorem decipher_encipher_take (r : Register) (data : Bytes) (n : Nat) :
    decipher aes r ((encipher aes r data).take n) = data.take n :=
  feedback.decrypt_encrypt_take mix_mix r data n

theorem encipher_none (data : Bytes) : encipher aes none data = data := by
  induction data with
  | nil => rfl
  | cons b rest ih =>
    have hrest : encipher aes none (b :: rest) = (b ^^^ 0) :: encipher aes none rest := rfl
    rw [hrest, ih, UInt8.xor_zero]

theorem decipher_none (data : Bytes) : decipher aes none data = data := by
  induction data with
  | nil => rfl
  | cons b rest ih =>
    have hrest : decipher aes none (b :: rest) = (b ^^^ 0) :: decipher aes none rest := rfl
    rw [hrest, ih, UInt8.xor_zero]

theorem past_none (data : Bytes) : Register.past none data = none := by
  induction data with
  | nil => rfl
  | cons b rest ih => exact ih

theorem encipher_some (key shift data : Bytes) :
    encipher aes (some (key, shift)) data = feedback.encrypt (aes key) shiftIn (· ^^^ ·) shift data := by
  induction data generalizing shift with
  | nil => rfl
  | cons b rest ih =>
    exact congrArg (List.cons _) (ih _)

theorem decipher_some (key shift data : Bytes) :
    decipher aes (some (key, shift)) data = feedback.decrypt (aes key) shiftIn (· ^^^ ·) shift data := by
  induction data generalizing shift with
  | nil => rfl
  | cons b rest ih =>
    exact congrArg (List.cons _) (ih _)

private theorem past_some (key shift data : Bytes) :
    Register.past (some (key, shift)) data = some (key, data.foldl shiftIn shift) := by
  induction data generalizing shift with
  | nil => rfl
  | cons b rest ih => exact ih _

end Cipher

namespace Transport

/-- The register of the bytes that the transport writes, and of those that it
reads. -/
def write_register (t : Transport) : Register := t.encryption.map fun c => (c.key, c.encrypt_iv)

/-- The register of the reading direction. -/
def read_register (t : Transport) : Register := t.encryption.map fun c => (c.key, c.decrypt_iv)

/-- Writing enciphers the data and moves the write register past the ciphertext;
nothing else of the transport changes. -/
theorem cipher_write_eq (aes : Aes) (t : Transport) (data : Bytes) :
    (t.cipher_write aes data).1 = encipher aes t.write_register data ∧
      (t.cipher_write aes data).2.write_register = t.write_register.past (encipher aes t.write_register data) ∧
      (t.cipher_write aes data).2.format = t.format ∧
      (t.cipher_write aes data).2.max_packet_size = t.max_packet_size ∧
      (t.cipher_write aes data).2.buffer = t.buffer := by
  unfold cipher_write write_register
  cases hencryption : t.encryption with
  | none => simp only [hencryption, Option.map_none, encipher_none, past_none, and_self]
  | some c =>
    simp only [CipherState.encrypt, cfb8_encrypt, Option.map_some, encipher_some, past_some, and_self]

/-- A read through the cipher deciphers its bytes and moves the register past them. -/
theorem cipher_read_eq (aes : Aes) (t : Transport) (data : Bytes) :
    (t.cipher_read aes data).1 = decipher aes t.read_register data ∧
      (t.cipher_read aes data).2.read_register = t.read_register.past data ∧
      (t.cipher_read aes data).2.format = t.format ∧
      (t.cipher_read aes data).2.max_packet_size = t.max_packet_size ∧
      (t.cipher_read aes data).2.buffer = t.buffer := by
  unfold cipher_read read_register
  cases hencryption : t.encryption with
  | none => simp only [hencryption, Option.map_none, decipher_none, past_none, and_self]
  | some c =>
    simp only [CipherState.decrypt, cfb8_decrypt, Option.map_some, decipher_some, past_some, and_self]

/-- Several writes encipher their concatenation. -/
theorem write_pieces_eq (aes : Aes) (t : Transport) (writes : List Bytes) :
    (t.write_pieces aes writes).1 = encipher aes t.write_register writes.flatten ∧
      (t.write_pieces aes writes).2.write_register =
        t.write_register.past (encipher aes t.write_register writes.flatten) ∧
      (t.write_pieces aes writes).2.format = t.format ∧
      (t.write_pieces aes writes).2.max_packet_size = t.max_packet_size ∧
      (t.write_pieces aes writes).2.buffer = t.buffer := by
  induction writes generalizing t with
  | nil => exact ⟨rfl, rfl, rfl, rfl, rfl⟩
  | cons data rest ih =>
    obtain ⟨hbytes, hregister, hformat, hlimit, hbuffer⟩ := cipher_write_eq aes t data
    obtain ⟨hbytes', hregister', hformat', hlimit', hbuffer'⟩ := ih (t.cipher_write aes data).2
    rw [hregister] at hbytes' hregister'
    rw [List.flatten_cons, encipher_append, Register.past_append]
    simp only [write_pieces]
    exact ⟨by rw [hbytes, hbytes'], hregister', hformat'.trans hformat, hlimit'.trans hlimit,
      hbuffer'.trans hbuffer⟩

end Transport

/-- A zlib that stores its data, for concrete runs. -/
def storedZlib : Zlib where
  deflate data := 0 :: data
  inflate := List.tail?
  inflate_deflate _ := rfl
  deflate_ne_nil _ := List.cons_ne_nil _ _
  deflate_length data := by
    rw [List.length_cons]
    omega

end regiongate.transport
