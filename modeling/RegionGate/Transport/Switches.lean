import RegionGate.Transport.Joined

open checked execution framing regiongate.codec

namespace regiongate.transport

/-- AES-CFB8 under the key and vector of a switch. -/
def Switch.cfb8 (aes : Aes) (encrypt : Bool) (sw : Switch) (data : Bytes) : Bytes :=
  (codec.cfb8 (aes sw.key.val) sw.iv.val data encrypt).1

/-- One direction of the stream under the switches of one end: `cipher` applies
from the place `base` up to the first of them, and from each switch on
AES-CFB8 under its key and vector. -/
def throughSwitches (aes : Aes) (encrypt : Bool) (cipher : Bytes → Bytes) (base : Nat) :
    List Switch → Bytes → Bytes
  | [], data => cipher data
  | sw :: rest, data =>
    cipher (data.take (sw.place - base)) ++
      throughSwitches aes encrypt (sw.cfb8 aes encrypt) sw.place rest (data.drop (sw.place - base))

section Switches

variable {aes : Aes}

theorem Switch.cfb8_encrypt (sw : Switch) (data : Bytes) :
    sw.cfb8 aes true data = encipher aes (some (sw.key.val, sw.iv.val)) data := by
  rw [Switch.cfb8, codec.cfb8_encrypt, encipher_some]

theorem Switch.cfb8_decrypt (sw : Switch) (data : Bytes) :
    sw.cfb8 aes false data = decipher aes (some (sw.key.val, sw.iv.val)) data := by
  rw [Switch.cfb8, codec.cfb8_decrypt, decipher_some]

theorem throughSwitches_nil {encrypt : Bool} {cipher : Bytes → Bytes} (hcipher : cipher [] = []) (base : Nat)
    (switches : List Switch) : throughSwitches aes encrypt cipher base switches [] = [] := by
  induction switches generalizing cipher base with
  | nil => exact hcipher
  | cons sw rest ih =>
    rw [throughSwitches, List.take_nil, List.drop_nil, hcipher, List.nil_append]
    exact ih rfl sw.place

/-- A switch behind all others governs the bytes from its place on. -/
theorem throughSwitches_snoc {encrypt : Bool} {cipher : Bytes → Bytes} {base : Nat} {switches : List Switch}
    {sw : Switch} (hbase : ∀ other ∈ switches ++ [sw], base ≤ other.place)
    (hsorted : (switches ++ [sw]).Pairwise fun a b => a.place ≤ b.place) (data : Bytes) :
    throughSwitches aes encrypt cipher base (switches ++ [sw]) data =
      throughSwitches aes encrypt cipher base switches (data.take (sw.place - base)) ++
        sw.cfb8 aes encrypt (data.drop (sw.place - base)) := by
  induction switches generalizing cipher base data with
  | nil => rfl
  | cons first rest ih =>
    obtain ⟨hfirst, hrest⟩ := List.pairwise_cons.mp hsorted
    have hlast := hfirst sw (by simp)
    have hplace := hbase first (by simp)
    have hgap : sw.place - base - (first.place - base) = sw.place - first.place := by omega
    rw [List.cons_append, throughSwitches, throughSwitches, ih hfirst hrest, List.take_take,
      Nat.min_eq_left (by omega), List.drop_take, hgap, List.drop_drop, List.append_assoc]
    rw [show first.place - base + (sw.place - first.place) = sw.place - base by omega]

/-- Decrypting under the same switches undoes the encryption, byte by byte. -/
theorem throughSwitches_inverse {encrypted decrypted : Bytes → Bytes} {base : Nat} (switches : List Switch)
    (hlength : ∀ data, (encrypted data).length = data.length)
    (hinverse : ∀ data count, decrypted ((encrypted data).take count) = data.take count)
    (data : Bytes) (count : Nat) :
    throughSwitches aes false decrypted base switches
        ((throughSwitches aes true encrypted base switches data).take count) = data.take count := by
  induction switches generalizing encrypted decrypted base data count with
  | nil => exact hinverse data count
  | cons sw rest ih =>
    have hnext := @ih (sw.cfb8 aes true) (sw.cfb8 aes false) sw.place
      (fun data => by rw [sw.cfb8_encrypt, encipher_length])
      (fun data count => by rw [sw.cfb8_encrypt, sw.cfb8_decrypt, decipher_encipher_take])
    rw [throughSwitches, throughSwitches]
    generalize sw.place - base = place
    by_cases hreached : place ≤ data.length
    · -- the switch lies in the data: its two sides are undone separately
      have hbefore : (encrypted (data.take place)).length = place := by
        rw [hlength, List.length_take, Nat.min_eq_left hreached]
      rw [List.take_take, List.take_append_of_le_length (by rw [hbefore]; exact Nat.min_le_left _ _),
        hinverse, List.drop_take, List.drop_left' hbefore, hnext, List.take_take]
      conv_rhs => rw [← List.take_append_drop place data]
      rw [List.take_append, List.take_take, List.length_take, Nat.min_eq_left hreached]
      congr 2
      omega
    · -- the data ends before the switch
      have hshort : data.length ≤ place := by omega
      have hnone : ∀ encrypt, throughSwitches aes encrypt (sw.cfb8 aes encrypt) sw.place rest [] = [] :=
        fun _ => throughSwitches_nil rfl sw.place rest
      rw [List.take_of_length_le hshort, List.drop_eq_nil_of_le hshort, hnone, List.append_nil, List.take_take,
        List.drop_eq_nil_of_le (by rw [List.length_take, hlength]; omega), hnone, List.append_nil, hinverse,
        List.take_eq_take_iff]
      omega

/-- The switches of one end are in the order of their places, none of them beyond
the bytes that it has handled. -/
structure Placed (switches : List Switch) (handled : Nat) : Prop where
  sorted : switches.Pairwise fun a b => a.place ≤ b.place
  within : ∀ sw ∈ switches, sw.place ≤ handled

theorem Placed.mono {switches : List Switch} {handled more : Nat} (h : Placed switches handled)
    (hmore : handled ≤ more) : Placed switches more :=
  ⟨h.sorted, fun sw hsw => (h.within sw hsw).trans hmore⟩

theorem Placed.snoc {switches : List Switch} {handled : Nat} (h : Placed switches handled) (key iv : Block) :
    Placed (switches ++ [⟨handled, key, iv⟩]) handled := by
  refine ⟨List.pairwise_append.mpr ⟨h.sorted, List.pairwise_singleton _ _, ?_⟩, ?_⟩
  · intro sw hsw last hlast
    rw [List.mem_singleton.mp hlast]
    exact h.within sw hsw
  · intro sw hsw
    obtain hsw | hsw := List.mem_append.mp hsw
    · exact h.within sw hsw
    · rw [List.mem_singleton.mp hsw]

/-- A switch at the end of the bytes so far changes nothing about them and governs
what follows. -/
theorem Placed.switch {encrypt : Bool} {switches : List Switch} {data done : Bytes} (h : Placed switches data.length)
    (key iv : Block) (hdone : throughSwitches aes encrypt id 0 switches data = done) (more : Bytes) :
    throughSwitches aes encrypt id 0 (switches ++ [⟨data.length, key, iv⟩]) (data ++ more) =
      done ++ Switch.cfb8 aes encrypt ⟨data.length, key, iv⟩ more := by
  rw [throughSwitches_snoc (fun _ _ => Nat.zero_le _) (h.snoc key iv).sorted, Nat.sub_zero, List.take_left,
    List.drop_left, hdone]

end Switches

theorem enable_encryption_eq {t t' : Transport} {key iv : Block}
    (h : t.enable_encryption key.val iv.val = .ok t') :
    t.buffer = [] ∧
      t' = { t with encryption := some { key := key.val, encrypt_iv := iv.val, decrypt_iv := iv.val } } := by
  unfold Transport.enable_encryption at h
  split at h
  · cases h
  · rename_i hempty
    have hnil : t.buffer = [] := by
      rw [← List.length_eq_zero_iff]
      exact not_not.mp hempty
    unfold new_cipher_state at h
    rw [if_neg (by simp [key.property, iv.property])] at h
    exact ⟨hnil, (Except.ok.inj h).symm⟩

/-- What both ends have made of the bytes so far. `writes` and `reads` say it of
the bytes and of whatever follows them under the registers as they are. -/
structure Ciphered (aes : Aes) (s : Joined) : Prop where
  sent : s.sent = s.clear.length
  length : s.stream.length = s.clear.length
  wire : s.wire = s.stream.drop s.taken
  taken : s.taken ≤ s.stream.length
  encrypted : Placed s.encrypted_at s.sent
  decrypted : Placed s.decrypted_at s.taken
  writes : ∀ more, throughSwitches aes true id 0 s.encrypted_at (s.clear ++ more) =
    s.stream ++ encipher aes s.writer.write_register more
  reads : ∀ more, throughSwitches aes false id 0 s.decrypted_at (s.stream.take s.taken ++ more) =
    s.seen ++ decipher aes s.reader.read_register more

namespace Ciphered

variable {zlib : Zlib} {aes : Aes} {s : Joined}

theorem start (aes : Aes) (maxPacketSize : Int) (plan : List PlanItem) :
    Ciphered aes (Joined.start maxPacketSize plan) where
  sent := rfl
  length := rfl
  wire := rfl
  taken := le_refl _
  encrypted := ⟨List.Pairwise.nil, by simp [Joined.start]⟩
  decrypted := ⟨List.Pairwise.nil, by simp [Joined.start]⟩
  writes more := (encipher_none more).symm
  reads more := (decipher_none more).symm

theorem stream_eq (h : Ciphered aes s) :
    throughSwitches aes true id 0 s.encrypted_at s.clear = s.stream := by
  have hwrites := h.writes []
  rwa [List.append_nil, show encipher aes s.writer.write_register [] = [] from rfl, List.append_nil] at hwrites

theorem seen_eq (h : Ciphered aes s) :
    throughSwitches aes false id 0 s.decrypted_at (s.stream.take s.taken) = s.seen := by
  have hreads := h.reads []
  rwa [List.append_nil, show decipher aes s.reader.read_register [] = [] from rfl, List.append_nil] at hreads

/-- A frame is written through the cipher of the last switch. -/
theorem served {caller : Nat} {payload : Bytes} {requests : List (Nat × Bytes)} {writes : List Bytes}
    {rest : List PlanItem} (h : Ciphered aes s) :
    Ciphered aes { s with
      writer := (s.writer.write_pieces aes writes).2
      writer_plan := rest
      requests
      written := s.written ++ [(caller, payload)]
      wire := s.wire ++ (s.writer.write_pieces aes writes).1
      clear := s.clear ++ writes.flatten
      stream := s.stream ++ (s.writer.write_pieces aes writes).1
      sent := s.sent + (s.writer.write_pieces aes writes).1.length } := by
  obtain ⟨hbytes, hregister, _⟩ := Transport.write_pieces_eq aes s.writer writes
  have hlength : (s.writer.write_pieces aes writes).1.length = writes.flatten.length := by
    rw [hbytes, encipher_length]
  constructor
  case sent => simp only [List.length_append, hlength, h.sent]
  case length => simp only [List.length_append, hlength, h.length]
  case wire => simp only [h.wire, List.drop_append_of_le_length h.taken]
  case taken =>
    simp only [List.length_append]
    exact h.taken.trans (Nat.le_add_right _ _)
  case encrypted => exact h.encrypted.mono (Nat.le_add_right _ _)
  case decrypted => exact h.decrypted
  case writes =>
    intro more
    simp only [List.append_assoc, h.writes, hregister, hbytes, encipher_append]
  case reads =>
    intro more
    simp only [List.take_append_of_le_length h.taken]
    exact h.reads more

theorem consume {format : Format} {state : ReadState} {data : Bytes} (h : Ciphered aes s) :
    Ciphered aes (s.consume zlib format state data) := by
  unfold Joined.consume
  split <;> exact ⟨h.sent, h.length, h.wire, h.taken, h.encrypted, h.decrypted, h.writes, h.reads⟩

/-- Bytes are read through the cipher of the last switch. -/
theorem chunk {count : Nat} (h : Ciphered aes s) (hcount : count ≤ s.wire.length) :
    Ciphered aes { s with
      reader := (s.reader.cipher_read aes (s.wire.take count)).2
      wire := s.wire.drop count
      seen := s.seen ++ (s.reader.cipher_read aes (s.wire.take count)).1
      taken := s.taken + count } := by
  obtain ⟨hdata, hregister, _⟩ := Transport.cipher_read_eq aes s.reader (s.wire.take count)
  rw [h.wire, List.length_drop] at hcount
  have htaken := h.taken
  constructor
  case sent => exact h.sent
  case length => exact h.length
  case wire => simp only [h.wire, List.drop_drop]
  case taken =>
    dsimp only
    omega
  case encrypted => exact h.encrypted
  case decrypted => exact h.decrypted.mono (Nat.le_add_right _ _)
  case writes => exact h.writes
  case reads =>
    intro more
    have hbytes : s.stream.take (s.taken + count) = s.stream.take s.taken ++ s.wire.take count := by
      rw [h.wire, List.take_add]
    simp only [hbytes, List.append_assoc, h.reads, hdata, hregister, decipher_append]

theorem writer_encrypted {key iv : Block} {rest : List PlanItem} {writer : Transport} (h : Ciphered aes s)
    (henable : s.writer.enable_encryption key.val iv.val = .ok writer) :
    Ciphered aes { s with
      writer, writer_plan := rest, encrypted_at := s.encrypted_at ++ [⟨s.sent, key, iv⟩] } := by
  obtain ⟨_, rfl⟩ := enable_encryption_eq henable
  refine ⟨h.sent, h.length, h.wire, h.taken, h.encrypted.snoc key iv, h.decrypted, ?_, h.reads⟩
  intro more
  have hplaced := h.encrypted
  simp only [h.sent] at hplaced ⊢
  rw [hplaced.switch key iv h.stream_eq, Switch.cfb8_encrypt]
  rfl

theorem reader_encrypted {key iv : Block} {rest : List PlanItem} {reader : Transport} (h : Ciphered aes s)
    (henable : s.reader.enable_encryption key.val iv.val = .ok reader) :
    Ciphered aes { s with
      reader, reader_plan := rest, decrypted_at := s.decrypted_at ++ [⟨s.taken, key, iv⟩] } := by
  obtain ⟨_, rfl⟩ := enable_encryption_eq henable
  refine ⟨h.sent, h.length, h.wire, h.taken, h.encrypted, h.decrypted.snoc key iv, h.writes, ?_⟩
  intro more
  have hbytes : (s.stream.take s.taken).length = s.taken := by
    rw [List.length_take, Nat.min_eq_left h.taken]
  have hplaced := h.decrypted
  rw [← hbytes] at hplaced
  have hswitch := hplaced.switch key iv h.seen_eq more
  rw [hbytes, Switch.cfb8_decrypt] at hswitch
  exact hswitch

/-- The switches that both ends made at the same places: the reader has seen what
the writer was given. -/
theorem seen_of_agreed (h : Ciphered aes s) (hagreed : s.decrypted_at = s.encrypted_at) :
    s.seen = s.clear.take s.taken := by
  rw [← h.seen_eq, ← h.stream_eq, hagreed]
  exact throughSwitches_inverse s.encrypted_at (fun _ => rfl) (fun _ _ => rfl) s.clear s.taken

end Ciphered

end regiongate.transport
