import Mathlib.Data.List.Basic

namespace feedback

section

variable {σ β : Type} (key : σ → β) (shift : σ → β → σ) (mix : β → β → β)

/-- A cipher that mixes every symbol with a key symbol of its register and
shifts the ciphertext symbol into the register. -/
def encrypt : σ → List β → List β
  | _, [] => []
  | s, b :: rest => mix b (key s) :: encrypt (shift s (mix b (key s))) rest

/-- Decryption, which shifts in the symbol that it reads and not the one that it
makes. -/
def decrypt : σ → List β → List β
  | _, [] => []
  | s, c :: rest => mix c (key s) :: decrypt (shift s c) rest

variable {key shift mix}

@[simp] theorem encrypt_length (s : σ) (data : List β) :
    (encrypt key shift mix s data).length = data.length := by
  induction data generalizing s with
  | nil => rfl
  | cons b rest ih => simp [encrypt, ih]

@[simp] theorem decrypt_length (s : σ) (data : List β) :
    (decrypt key shift mix s data).length = data.length := by
  induction data generalizing s with
  | nil => rfl
  | cons c rest ih => simp [decrypt, ih]

/-- The register after some ciphertext depends on nothing else. -/
theorem encrypt_append (s : σ) (xs ys : List β) :
    encrypt key shift mix s (xs ++ ys) =
      encrypt key shift mix s xs ++
        encrypt key shift mix ((encrypt key shift mix s xs).foldl shift s) ys := by
  induction xs generalizing s with
  | nil => rfl
  | cons b rest ih => simp [encrypt, ih]

/-- Ciphertext in two pieces is decrypted piece by piece, with the register passed on. -/
theorem decrypt_append (s : σ) (xs ys : List β) :
    decrypt key shift mix s (xs ++ ys) =
      decrypt key shift mix s xs ++ decrypt key shift mix (xs.foldl shift s) ys := by
  induction xs generalizing s with
  | nil => rfl
  | cons c rest ih => simp [decrypt, ih]

/-- Decryption from the same register undoes encryption: both shift in the ciphertext. -/
theorem decrypt_encrypt (hmix : ∀ a k, mix (mix a k) k = a) (s : σ) (data : List β) :
    decrypt key shift mix s (encrypt key shift mix s data) = data := by
  induction data generalizing s with
  | nil => rfl
  | cons b rest ih => simp [encrypt, decrypt, hmix, ih]

/-- Decrypting the beginning of a ciphertext gives the beginning of its
plaintext. -/
theorem decrypt_encrypt_take (hmix : ∀ a k, mix (mix a k) k = a) (s : σ) (data : List β) (n : Nat) :
    decrypt key shift mix s ((encrypt key shift mix s data).take n) = data.take n := by
  induction data generalizing s n with
  | nil => simp [encrypt, decrypt]
  | cons b rest ih =>
    cases n with
    | zero => simp [decrypt]
    | succ n => simp [encrypt, decrypt, hmix, ih]

end

end feedback
