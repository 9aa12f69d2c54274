import RegionGate.Hex
import RegionGate.Protocol.Login

namespace regiongate.hex

/-- `fromHexChar`: the value of a digit in either case. -/
def from_hex_char (c : UInt8) : Option UInt8 :=
  if 48 ≤ c ∧ c ≤ 57 then some (c - 48)
  else if 97 ≤ c ∧ c ≤ 102 then some (c - 97 + 10)
  else if 65 ≤ c ∧ c ≤ 70 then some (c - 65 + 10)
  else none

/-- `DecodeString`; what it has decoded before an error is left out. -/
def decode_string : Bytes → Option Bytes
  | [] => some []
  | [_] => none
  | a :: b :: rest =>
    match from_hex_char a, from_hex_char b with
    | some high, some low => (decode_string rest).map (((high <<< 4) ||| low) :: ·)
    | _, _ => none

/-- The lower-case form of a hexadecimal digit. -/
def lower (c : UInt8) : UInt8 := if 65 ≤ c ∧ c ≤ 70 then c + 32 else c

section Decode

variable {c n high low byte : UInt8}

/-- A hexadecimal digit in either case is its value's digit when written in lower
case. -/
theorem of_from_hex_char (h : from_hex_char c = some n) : n < 16 ∧ lower c = digit n := by
  have hall : ∀ c : Fin 256, (from_hex_char (UInt8.ofFin c)).all
      (fun n => n < 16 ∧ lower (UInt8.ofFin c) = digit n) = true := by
    decide +kernel
  have hc := hall c.toFin
  simpa [h] using hc

/-- Conversely, whatever is a value's digit in lower case is read as that value. -/
theorem from_hex_char_of_lower (hn : n < 16) (h : lower c = digit n) : from_hex_char c = some n := by
  have hall : ∀ n : Fin 16, ∀ c : Fin 256, lower (UInt8.ofFin c) = digit (UInt8.ofNat n) →
      from_hex_char (UInt8.ofFin c) = some (UInt8.ofNat n) := by
    decide +kernel
  have hlt : n.toNat < 16 := UInt8.lt_iff_toNat_lt.mp hn
  simpa using hall ⟨n.toNat, hlt⟩ c.toFin (by simpa using h)

theorem encode_joined (hhigh : high < 16) (hlow : low < 16) :
    encode_byte ((high <<< 4) ||| low) = [digit high, digit low] := by
  have hall : ∀ high low : Fin 16, encode_byte ((UInt8.ofNat high <<< 4) ||| UInt8.ofNat low) =
      [digit (UInt8.ofNat high), digit (UInt8.ofNat low)] := by
    decide +kernel
  have hhigh : high.toNat < 16 := UInt8.lt_iff_toNat_lt.mp hhigh
  have hlow : low.toNat < 16 := UInt8.lt_iff_toNat_lt.mp hlow
  simpa using hall ⟨high.toNat, hhigh⟩ ⟨low.toNat, hlow⟩

theorem split_byte (byte : UInt8) :
    byte >>> 4 < 16 ∧ byte &&& 0xf < 16 ∧ ((byte >>> 4) <<< 4) ||| (byte &&& 0xf) = byte := by
  have hall : ∀ n : Fin 256, UInt8.ofFin n >>> 4 < 16 ∧ UInt8.ofFin n &&& 0xf < 16 ∧
      ((UInt8.ofFin n >>> 4) <<< 4) ||| (UInt8.ofFin n &&& 0xf) = UInt8.ofFin n := by
    decide +kernel
  simpa using hall byte.toFin

/-- A text is decoded to the bytes whose digits it is, in either case. -/
theorem decode_string_eq_some {text bytes : Bytes} :
    decode_string text = some bytes ↔ text.map lower = encode_to_string bytes := by
  induction text using decode_string.induct generalizing bytes with
  | case1 =>
    cases bytes with
    | nil => simp [decode_string, encode_to_string]
    | cons byte bytes => simp [decode_string, encode_to_string, encode_byte]
  | case2 c =>
    cases bytes with
    | nil => simp [decode_string, encode_to_string]
    | cons byte bytes => simp [decode_string, encode_to_string, encode_byte]
  | case3 a b rest high low hb ha ih =>
    obtain ⟨hhigh, hla⟩ := of_from_hex_char ha
    obtain ⟨hlow, hlb⟩ := of_from_hex_char hb
    simp only [decode_string, ha, hb, Option.map_eq_some_iff]
    constructor
    · rintro ⟨bytes, hrest, rfl⟩
      rw [List.map_cons, List.map_cons, ih.mp hrest, encode_to_string, encode_to_string, List.flatMap_cons,
        encode_joined hhigh hlow, hla, hlb]
      rfl
    · intro htext
      cases bytes with
      | nil => simp [encode_to_string] at htext
      | cons byte bytes =>
        obtain ⟨hshift, hmask, hbyte⟩ := split_byte byte
        simp only [List.map_cons, encode_to_string, List.flatMap_cons, encode_byte, List.cons_append,
          List.nil_append, List.cons.injEq] at htext
        have hhigh := ha.symm.trans (from_hex_char_of_lower hshift htext.1)
        have hlow := hb.symm.trans (from_hex_char_of_lower hmask htext.2.1)
        refine ⟨bytes, ih.mpr htext.2.2, ?_⟩
        rw [Option.some.inj hhigh, Option.some.inj hlow, hbyte]
  | case4 a b rest hdigits =>
    have hnone : decode_string (a :: b :: rest) = none := by
      simp only [decode_string]
    rw [hnone]
    constructor
    · intro h
      cases h
    · intro htext
      cases bytes with
      | nil => simp [encode_to_string] at htext
      | cons byte bytes =>
        obtain ⟨hshift, hmask, -⟩ := split_byte byte
        simp only [List.map_cons, encode_to_string, List.flatMap_cons, encode_byte, List.cons_append,
          List.nil_append, List.cons.injEq] at htext
        have hhigh := from_hex_char_of_lower hshift htext.1
        have hlow := from_hex_char_of_lower hmask htext.2.1
        exact absurd hlow (hdigits _ _ hhigh)

end Decode

end regiongate.hex

namespace regiongate.auth

/-- Why a login is not let in. `Gateway` is an error of the gateway's own
packages and `Session` what the request to the session server reports. -/
inductive Failure where
  | Gateway (err : Error)
  | Random
  | InvalidSharedSecret
  | VerifyTokenMismatch
  | Session
  | NotJoined
  | SessionStatus (code : Nat)
  | InvalidDocument
  | InvalidSessionResponse
  | SessionResponseTooLarge
  | InvalidProfileUUID
  deriving DecidableEq

/-- The account that the session server has confirmed. -/
structure Profile where
  uuid : UUID
  username : Bytes
  properties : List login.Property
  deriving DecidableEq

/-- The query of a `hasJoined` request. -/
structure Query where
  username : Bytes
  server_id : Bytes
  ip : Option Bytes
  deriving DecidableEq

/-- The response to a request; `ended` says whether the body came to its end. -/
structure Response where
  status_code : Nat
  body : Bytes
  ended : Bool
  deriving DecidableEq

/-- The JSON document of the session server, as far as `HasJoined` reads it. -/
structure Document where
  id : Bytes
  name : Bytes
  properties : List login.Property
  deriving DecidableEq

/-- The limit of the reader of the response, beyond which a document is cut off. -/
def maxSessionBody : Nat := 2 ^ 20

/-- White space between JSON values. -/
def json_space (b : UInt8) : Bool := b = 32 ∨ b = 9 ∨ b = 13 ∨ b = 10

/-- `copy` into a zeroed array of sixteen bytes. -/
def copy_uuid (decoded : Bytes) : UUID := ⟨(decoded ++ List.replicate 16 0).take 16, by simp⟩

/-- `parseUUID`: 32 hexadecimal digits, with hyphens anywhere. -/
def parse_uuid (value : Bytes) : Except Failure UUID :=
  let value := value.filter (· ≠ 45)
  if value.length ≠ 32 then .error .InvalidProfileUUID
  else
    match hex.decode_string value with
    | none => .error .InvalidProfileUUID
    | some decoded => .ok (copy_uuid decoded)

/-- The session server and what the standard library does for `HasJoined`:
`exchange` makes the request, `decode` is the JSON decoder on a beginning of
the body, which leaves what follows the document, and `equal_fold` is
`strings.EqualFold`. -/
structure SessionService where
  exchange : Query → Except Failure Response
  decode : Bytes → Option (Document × Bytes)
  equal_fold : Bytes → Bytes → Bool

/-- The part of `HasJoined` that reads the response. -/
def SessionService.read_profile (s : SessionService) (username : Bytes) (response : Response) :
    Except Failure Profile :=
  if response.status_code = 204 ∨ response.status_code = 403 then .error .NotJoined
  else if response.status_code ≠ 200 then .error (.SessionStatus response.status_code)
  else
    match s.decode (response.body.take (maxSessionBody + 1)) with
    | none => .error .InvalidDocument
    | some (document, trailing) =>
      let exceeded := decide (response.body.length > maxSessionBody)
      -- the limit ends the body for the decoder
      if ¬ (trailing.all json_space ∧ (response.ended ∨ exceeded)) then .error .InvalidSessionResponse
      else if exceeded then .error .SessionResponseTooLarge
      else if document.name = [] ∨ ¬ s.equal_fold document.name username then .error .NotJoined
      else
        match parse_uuid document.id with
        | .error e => .error e
        | .ok uuid => .ok { uuid, username := document.name, properties := document.properties }

/-- `HasJoined`. -/
def SessionService.has_joined (s : SessionService) (username server_hash address : Bytes) : Except Failure Profile :=
  match s.exchange { username, server_id := server_hash, ip := if address ≠ [] then some address else none } with
  | .error e => .error e
  | .ok response => s.read_profile username response

/-- A profile identifier is accepted exactly when, without its dashes, it is the
32 hexadecimal digits of the identifier, in either case. -/
theorem parse_uuid_iff {value : Bytes} {uuid : UUID} :
    parse_uuid value = .ok uuid ↔ (value.filter (· ≠ 45)).map hex.lower = hex.encode_to_string uuid.val := by
  have hlength : ∀ bytes : Bytes, (hex.encode_to_string bytes).length = 2 * bytes.length := by
    intro bytes
    induction bytes with
    | nil => rfl
    | cons b bytes ih =>
      rw [hex.encode_to_string] at ih ⊢
      rw [List.flatMap_cons, List.length_append, ih, List.length_cons]
      simp only [hex.encode_byte, List.length_cons, List.length_nil]
      omega
  have hcopy : ∀ uuid : UUID, copy_uuid uuid.val = uuid := by
    intro uuid
    exact Subtype.ext (List.take_left' uuid.property)
  rw [parse_uuid]
  constructor
  · intro h
    split at h
    · cases h
    · rename_i hsize
      cases hdecode : hex.decode_string (value.filter (· ≠ 45)) with
      | none =>
        rw [hdecode] at h
        cases h
      | some decoded =>
        rw [hdecode] at h
        cases h
        have htext := hex.decode_string_eq_some.mp hdecode
        have hsixteen : decoded.length = 16 := by
          have hsame := congrArg List.length htext
          rw [List.length_map, hlength] at hsame
          omega
        have hsame : (copy_uuid decoded).val = decoded := congrArg Subtype.val (hcopy ⟨decoded, hsixteen⟩)
        rw [hsame, htext]
  · intro htext
    have hsize : (value.filter (· ≠ 45)).length = 32 := by
      have hsame := congrArg List.length htext
      have huuid := uuid.property
      rw [List.length_map, hlength] at hsame
      omega
    rw [if_neg (by omega), hex.decode_string_eq_some.mpr htext]
    exact congrArg Except.ok (hcopy uuid)

-- The two forms in which identifiers are written.
example : parse_uuid (literal "00112233445566778899aabbccddeeff") =
    parse_uuid (literal "00112233-4455-6677-8899-AABBCCDDEEFF") := by decide +kernel

end regiongate.auth
