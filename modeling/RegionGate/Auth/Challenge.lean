import RegionGate.Auth.ServerHash
import RegionGate.Auth.Session

open checked

namespace regiongate.auth

/-- The random bytes of a verify token. -/
abbrev VerifyToken := { bytes : Bytes // bytes.length = 4 }

/-- The length of the AES key that the client chooses. -/
def sharedSecretSize : Nat := 16

/-- `private_key` is what `rsa.DecryptPKCS1v15` makes of a ciphertext under the
key, if it accepts it. -/
structure Challenge where
  private_key : Bytes → Option Bytes
  public_key : Bytes
  verify_token : Bytes

/-- `verifier` is the verifier's `HasJoined`, on a username, a server hash and an
address. -/
structure Authenticator where
  private_key : Bytes → Option Bytes
  public_key : Bytes
  verifier : Bytes → Bytes → Bytes → Except Failure Profile

/-- `NewAuthenticator`, with the key that was generated and the session service that
`Run` gives it. -/
def new_authenticator (private_key : Bytes → Option Bytes) (public_key : Bytes) (service : SessionService) :
    Authenticator where
  private_key
  public_key
  verifier := service.has_joined

/-- `Begin`, with what the random source delivers. -/
def Authenticator.begin_challenge (a : Authenticator) (random : Option VerifyToken) : Except Failure Challenge :=
  match random with
  | none => .error .Random
  | some token => .ok { private_key := a.private_key, public_key := a.public_key, verify_token := token.val }

/-- `Decrypt`: the shared secret, if it has the length of a key and the client has
returned the token of this challenge. -/
def Challenge.decrypt (c : Challenge) (encrypted_secret encrypted_token : Bytes) : Except Failure Bytes :=
  match c.private_key encrypted_secret with
  | none => .error .InvalidSharedSecret
  | some secret =>
    if secret.length ≠ sharedSecretSize then .error .InvalidSharedSecret
    else
      match c.private_key encrypted_token with
      | none => .error .VerifyTokenMismatch
      | some token =>
        if token.length ≠ c.verify_token.length ∨ token ≠ c.verify_token then .error .VerifyTokenMismatch
        else .ok secret

/-- `Authenticate`: the secret, the hash of it with the public key, and the verifier's
answer, in this order. The profile is returned with the secret that the connection
is encrypted with. -/
def Authenticator.authenticate (sha1 : Bytes → Bytes) (a : Authenticator) (challenge : Challenge)
    (username address encrypted_secret encrypted_token : Bytes) : Outcome Failure (Profile × Bytes) := do
  let secret ← .ofExcept (challenge.decrypt encrypted_secret encrypted_token)
  let hash ← (server_hash sha1 [] secret challenge.public_key).mapError .Gateway
  let profile ← .ofExcept (a.verifier username hash address)
  .Ok (profile, secret)

theorem Challenge.decrypt_eq_ok {c : Challenge} {encrypted_secret encrypted_token secret : Bytes} :
    c.decrypt encrypted_secret encrypted_token = .ok secret ↔
      c.private_key encrypted_secret = some secret ∧ secret.length = 16 ∧
        c.private_key encrypted_token = some c.verify_token := by
  unfold decrypt
  cases hsecret : c.private_key encrypted_secret with
  | none => simp
  | some plain =>
    dsimp only
    by_cases hsize : plain.length = 16
    · rw [if_neg (by simpa [sharedSecretSize] using hsize)]
      cases htoken : c.private_key encrypted_token with
      | none => simp
      | some token =>
        dsimp only
        by_cases hsame : token = c.verify_token
        · rw [if_neg (by simp [hsame])]
          constructor
          · intro h
            cases h
            exact ⟨rfl, hsize, by rw [hsame]⟩
          · rintro ⟨h, -, -⟩
            cases h
            rfl
        · rw [if_pos (.inr hsame)]
          simp [hsame]
    · rw [if_pos (by simpa [sharedSecretSize] using hsize)]
      constructor
      · intro h
        cases h
      · rintro ⟨h, hsize', -⟩
        cases h
        exact absurd hsize' hsize

/-- Who is let in: a client that sends a secret and the challenge's own token
encrypted under the public key, and whose session the verifier confirms for
the hash of that secret. -/
theorem Authenticator.authenticate_eq_ok {sha1 : Bytes → Bytes} {a : Authenticator} {challenge : Challenge}
    {username address encrypted_secret encrypted_token secret : Bytes} {profile : Profile} :
    a.authenticate sha1 challenge username address encrypted_secret encrypted_token = .Ok (profile, secret) ↔
      challenge.private_key encrypted_secret = some secret ∧ secret.length = 16 ∧
        challenge.private_key encrypted_token = some challenge.verify_token ∧
        ∃ hash, server_hash sha1 [] secret challenge.public_key = .Ok hash ∧
          a.verifier username hash address = .ok profile := by
  have hdecrypt := @Challenge.decrypt_eq_ok challenge encrypted_secret encrypted_token
  unfold authenticate
  cases hsecret : challenge.decrypt encrypted_secret encrypted_token with
  | error e =>
    constructor
    · intro h
      cases h
    · rintro ⟨hplain, hsize, htoken, -⟩
      rw [hdecrypt.mpr ⟨hplain, hsize, htoken⟩] at hsecret
      cases hsecret
  | ok plain =>
    obtain ⟨hplain, hsize, htoken⟩ := hdecrypt.mp hsecret
    rw [Outcome.ofExcept_ok, Outcome.ok_bind]
    constructor
    · intro h
      cases hhash : server_hash sha1 [] plain challenge.public_key with
      | Panic =>
        rw [hhash] at h
        cases h
      | Fail e =>
        rw [hhash] at h
        cases h
      | Ok hash =>
        rw [hhash, Outcome.mapError_ok, Outcome.ok_bind] at h
        cases hverifier : a.verifier username hash address with
        | error e =>
          rw [hverifier] at h
          cases h
        | ok found =>
          rw [hverifier] at h
          cases h
          exact ⟨hplain, hsize, htoken, hash, hhash, hverifier⟩
    · rintro ⟨hplain', -, -, hash, hhash, hverifier⟩
      obtain rfl : plain = secret := Option.some.inj (hplain.symm.trans hplain')
      rw [hhash, Outcome.mapError_ok, Outcome.ok_bind, hverifier]
      rfl

/-- `Authenticate` does not panic with a hash function that returns something. -/
theorem Authenticator.authenticate_safe {sha1 : Bytes → Bytes} (hsha1 : ∀ data, 0 < (sha1 data).length)
    (a : Authenticator) (challenge : Challenge) (username address encrypted_secret encrypted_token : Bytes) :
    (a.authenticate sha1 challenge username address encrypted_secret encrypted_token).Safe fun _ => True := by
  unfold authenticate
  apply (Outcome.safe_ofExcept fun _ _ => trivial).bind
  intro secret _
  have hhash : (server_hash sha1 [] secret challenge.public_key).Safe fun _ => True :=
    (safe_index (hsha1 _)).bind fun _ _ => trivial
  apply (hhash.mapError _).bind
  intro hash _
  exact (Outcome.safe_ofExcept fun _ _ => trivial).bind fun _ _ => trivial

end regiongate.auth
