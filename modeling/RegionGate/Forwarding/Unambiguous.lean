import RegionGate.Codec.RoundTrip
import RegionGate.Forwarding.Velocity
import RegionGate.Parsing

open regiongate.codec parsing

namespace regiongate.forwarding

/-- A signed 32-bit integer in the protocol's variable-length form. -/
def varInt : Reader UInt8 Int := fun data =>
  match consume_var_int data with
  | .ok (value, used) => some (value, data.drop used)
  | .error _ => none

/-- A length and as many bytes. -/
def string : Reader UInt8 Bytes := do
  let length ← varInt
  if length < 0 then failure else exactly length.toNat

/-- A profile property; a flag says whether a signature follows. -/
def property : Reader UInt8 login.Property := do
  let name ← string
  let value ← string
  let signed ← one
  if signed = 0 then return ⟨name, value, []⟩
  else
    let signature ← string
    return ⟨name, value, signature⟩

/-- The forwarded identity. The properties go to the end of the payload, as
their number is given modulo `2 ^ 32` only. -/
def identity (size : Nat) : Reader UInt8 PlayerIdentity := do
  let version ← varInt
  let address ← string
  let uuid ← exactly 16
  let username ← string
  let count ← varInt
  let properties ← untilEnd property size
  if h : uuid.length = 16 ∧ version = ModernVersion ∧ count = (Int32.ofInt properties.length).toInt then
    return ⟨address, ⟨uuid, h.1⟩, username, properties⟩
  else failure

/-- The identity that a forwarding payload, without its signature, stands for. -/
def decode (payload : Bytes) : Option PlayerIdentity := whole (identity payload.length) payload

/-- Every string of the identity has a length that fits its length field. -/
structure PlayerIdentity.Sized (identity : PlayerIdentity) : Prop where
  address : identity.address.length < 2 ^ 31
  username : identity.username.length < 2 ^ 31
  properties : ∀ p ∈ identity.properties,
    p.name.length < 2 ^ 31 ∧ p.value.length < 2 ^ 31 ∧ p.signature.length < 2 ^ 31

/-- A VarInt is read back as the machine number that was written. -/
theorem reads_varInt (value : Int) : Reads varInt (append_var_int [] value) (Int32.ofInt value).toInt := by
  intro rest
  simp only [StateT.run, varInt, consume_append_wrapped, List.drop_left]

theorem reads_string {value : Bytes} (hsize : value.length < 2 ^ 31) :
    Reads string (append_string [] value) value := by
  have hlength : (Int32.ofInt value.length).toInt = value.length := Int32.toInt_ofInt_of_le (by omega) (by omega)
  refine (reads_varInt value.length).bind ?_
  rw [hlength, if_neg (by omega), Int.toNat_natCast]
  exact reads_exactly rfl

theorem append_property_eq (p : login.Property) : login.append_property [] p =
    append_string [] p.name ++ (append_string [] p.value ++
      if p.signature = [] then [0] else [1] ++ append_string [] p.signature) := by
  rw [login.append_property]
  split <;> simp [append_string, append_var_int]

/-- The flag tells a property with a signature from one without. -/
theorem reads_property {p : login.Property} (hname : p.name.length < 2 ^ 31) (hvalue : p.value.length < 2 ^ 31)
    (hsignature : p.signature.length < 2 ^ 31) : Reads property (login.append_property [] p) p := by
  rw [append_property_eq]
  refine (reads_string hname).bind ((reads_string hvalue).bind ?_)
  obtain ⟨name, value, signature⟩ := p
  by_cases hempty : signature = []
  · subst hempty
    exact (reads_one (0 : UInt8)).bind Reads.pure
  · rw [if_neg hempty]
    exact (reads_one (1 : UInt8)).bind (reads_string hsignature).map

theorem foldl_append_property (properties : List login.Property) (payload : Bytes) :
    properties.foldl login.append_property payload = payload ++ properties.flatMap (login.append_property []) := by
  induction properties generalizing payload with
  | nil => simp
  | cons p properties ih =>
    have hhead : login.append_property payload p = payload ++ login.append_property [] p :=
      login.append_properties [p] payload
    rw [List.foldl_cons, ih, hhead, List.flatMap_cons, List.append_assoc]

/-- The bytes that are signed. -/
def payload (identity : PlayerIdentity) : Bytes :=
  append_var_int [] ModernVersion ++ (append_string [] identity.address ++ (identity.uuid.val ++
    (append_string [] identity.username ++ (append_var_int [] identity.properties.length ++
      identity.properties.flatMap (login.append_property [])))))

/-- The response for an identity with an address and a name: a signature and what is
signed. -/
theorem build_response_eq {mac : Bytes → Bytes} {identity : PlayerIdentity} (haddress : identity.address ≠ [])
    (husername : identity.username ≠ []) :
    build_response mac identity = .ok (mac (payload identity) ++ payload identity) := by
  rw [build_response, if_neg (by simp [haddress, husername])]
  simp only [foldl_append_property, payload]
  simp [append_string, append_var_int]

theorem properties_length_le (properties : List login.Property) :
    properties.length ≤ (properties.flatMap (login.append_property [])).length := by
  induction properties with
  | nil => simp
  | cons p properties ih =>
    have hwritten := login.append_property_length [] p
    rw [List.flatMap_cons, List.length_append, List.length_cons]
    simp only [List.length_nil] at hwritten
    omega

/-- The payload of an identity is decoded to it. -/
theorem decode_payload {identity : PlayerIdentity} (hsized : identity.Sized) :
    decode (payload identity) = some identity := by
  have huuid : identity.uuid.val.length = 16 := identity.uuid.property
  have hproperties : (untilEnd property (payload identity).length).run
      (identity.properties.flatMap (login.append_property [])) = some (identity.properties, []) := by
    refine untilEnd_run (fun p hp => ?_) (fun p hp hnone => ?_) ?_
    · obtain ⟨hname, hvalue, hsignature⟩ := hsized.properties p hp
      exact reads_property hname hvalue hsignature
    · have hwritten := login.append_property_length [] p
      simp [hnone] at hwritten
    · have hle := properties_length_le identity.properties
      simp only [payload, List.length_append]
      omega
  have hrun : (forwarding.identity (payload identity).length).run (payload identity) = some (identity, []) := by
    refine (reads_varInt _).bind_end ((reads_string hsized.address).bind_end ((reads_exactly huuid).bind_end
      ((reads_string hsized.username).bind_end ((reads_varInt _).bind_end ?_))))
    have hversion : (Int32.ofInt ModernVersion).toInt = ModernVersion :=
      Int32.toInt_ofInt_of_le (by decide) (by decide)
    rw [StateT.run_bind, hproperties, Option.bind_eq_bind, Option.bind_some, dif_pos ⟨huuid, hversion, rfl⟩]
    rfl
  rw [decode, whole, hrun]

/-- The forwarded data of a player is its signature in front of a payload from
which the player is read back to the last byte; so no other player has the
same payload, whatever its signature. -/
theorem forwarding_unambiguous {mac : Bytes → Bytes} (hmac : ∀ data, (mac data).length = 32)
    {identity : PlayerIdentity} (haddress : identity.address ≠ []) (husername : identity.username ≠ [])
    (hsized : identity.Sized) :
    ∃ payload, build_response mac identity = .ok (mac payload ++ payload) ∧ decode payload = some identity ∧
      ∀ (other : PlayerIdentity) (signature : Bytes), other.address ≠ [] → other.username ≠ [] → other.Sized →
        signature.length = 32 → build_response mac other = .ok (signature ++ payload) → other = identity := by
  refine ⟨payload identity, build_response_eq haddress husername, decode_payload hsized, ?_⟩
  intro other signature haddress' husername' hsized' hsignature hother
  rw [build_response_eq haddress' husername', Except.ok.injEq] at hother
  obtain ⟨-, hpayload⟩ := List.append_inj hother ((hmac _).trans hsignature.symm)
  have hdecode := decode_payload hsized'
  rw [hpayload, decode_payload hsized, Option.some.injEq] at hdecode
  exact hdecode.symm

/-- A player with one signed property and one that is not. -/
def samplePlayer : PlayerIdentity where
  address := [49]
  uuid := ⟨List.replicate 16 9, rfl⟩
  username := [65, 66]
  properties := [⟨[1], [2], [3]⟩, ⟨[4], [], []⟩]

/-- A player with two properties, one of them signed. -/
theorem forwarding_unambiguous_two_properties :
    ∃ payload, build_response (fun _ => List.replicate 32 0) samplePlayer = .ok (List.replicate 32 0 ++ payload) ∧
      decode payload = some samplePlayer := by
  have hsized : samplePlayer.Sized := ⟨by decide, by decide, by decide⟩
  obtain ⟨payload, hresponse, hdecode, -⟩ := @forwarding_unambiguous (fun _ => List.replicate 32 0)
    (fun _ => List.length_replicate) samplePlayer (by decide) (by decide) hsized
  exact ⟨payload, hresponse, hdecode⟩

end regiongate.forwarding
