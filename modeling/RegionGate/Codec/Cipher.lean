import RegionGate.Error
import RegionGate.Feedback

namespace regiongate.codec

/-- AES-CFB8 in both directions. The cipher itself is a parameter `aes` of the
functions below: the first byte of the encrypted register under a key. -/
structure CipherState where
  key : Bytes
  encrypt_iv : Bytes
  decrypt_iv : Bytes
  deriving DecidableEq

/-- `NewCipherState`: both directions start with the same initialisation vector. -/
def new_cipher_state (key iv : Bytes) : Except Error CipherState :=
  if key.length ≠ 16 ∨ iv.length ≠ 16 then .error .InvalidCipherParameters
  else .ok { key, encrypt_iv := iv, decrypt_iv := iv }

/-- The loop of `cfb8`: the output and the register it leaves. -/
def cfb8 (block : Bytes → UInt8) : (shift src : Bytes) → (encrypt : Bool) → Bytes × Bytes
  | shift, [], _ => ([], shift)
  | shift, value :: rest, encrypt =>
    let result := value ^^^ block shift
    let feedback := if encrypt then result else value
    let (dst, shift) := cfb8 block (shift.drop 1 ++ [feedback]) rest encrypt
    (result :: dst, shift)

namespace CipherState

/-- `Encrypt`, which moves the shift register of its own direction only. -/
def encrypt (aes : Bytes → Bytes → UInt8) (c : CipherState) (src : Bytes) : Bytes × CipherState :=
  let (dst, shift) := cfb8 (aes c.key) c.encrypt_iv src true
  (dst, { c with encrypt_iv := shift })

/-- `Decrypt`, which moves the shift register of its own direction only. -/
def decrypt (aes : Bytes → Bytes → UInt8) (c : CipherState) (src : Bytes) : Bytes × CipherState :=
  let (dst, shift) := cfb8 (aes c.key) c.decrypt_iv src false
  (dst, { c with decrypt_iv := shift })

end CipherState

/-- One byte enters the register at its end. -/
def shiftIn (shift : Bytes) (feedback : UInt8) : Bytes := shift.drop 1 ++ [feedback]

/-- `cfb8` as a cipher with ciphertext feedback. -/
theorem cfb8_encrypt (block : Bytes → UInt8) (shift src : Bytes) :
    cfb8 block shift src true =
      (feedback.encrypt block shiftIn (· ^^^ ·) shift src,
        (feedback.encrypt block shiftIn (· ^^^ ·) shift src).foldl shiftIn shift) := by
  induction src generalizing shift with
  | nil => rfl
  | cons value rest ih => simp [cfb8, feedback.encrypt, ih, shiftIn]

/-- In the direction of decryption `cfb8` is the decryption of cipher feedback. -/
theorem cfb8_decrypt (block : Bytes → UInt8) (shift src : Bytes) :
    cfb8 block shift src false =
      (feedback.decrypt block shiftIn (· ^^^ ·) shift src, src.foldl shiftIn shift) := by
  induction src generalizing shift with
  | nil => rfl
  | cons value rest ih => simp [cfb8, feedback.decrypt, ih, shiftIn]

theorem mix_mix (a k : UInt8) : a ^^^ k ^^^ k = a := by
  rw [UInt8.xor_assoc, UInt8.xor_self, UInt8.xor_zero]

/-- Decrypting gives the plaintext back and leaves the register of the other
side. -/
theorem cfb8_decrypt_encrypt (block : Bytes → UInt8) (shift src : Bytes) :
    cfb8 block shift (cfb8 block shift src true).1 false = (src, (cfb8 block shift src true).2) := by
  rw [cfb8_encrypt, cfb8_decrypt, feedback.decrypt_encrypt mix_mix]

end regiongate.codec
