import RegionGate.Transport.Endpoint

open checked execution framing regiongate.codec

namespace regiongate.transport

/-- The 16-byte keys and vectors that `NewCipherState` accepts. -/
abbrev Block := { bytes : Bytes // bytes.length = 16 }

/-- What both ends agree to do next on the stream: one more frame, or a switch
at this frame boundary. -/
inductive PlanItem where
  | Frame
  | Compress (threshold : Nat)
  | Encrypt (key iv : Block)
  deriving DecidableEq

/-- A switch to encryption: how many bytes the end had written to the wire or
read from it, and the key and vector. -/
structure Switch where
  place : Nat
  key : Block
  iv : Block
  deriving DecidableEq

/-- Two transports joined by one byte stream, from the writer to the reader.
`requests` are the callers that wait in `WriteFrame`, `submitted` and
`written` log the calls and the frames that the writer loop has written.
`clear` logs the bytes that were handed to the cipher writer, `stream` those
that it put on the wire and `seen` those that the cipher reader handed out;
`sent` and `taken` count the bytes written to the wire and read from it, and
`encrypted_at` and `decrypted_at` log each switch to encryption. `reading` is
the state of a `ReadFrame` call in progress, with the format it loaded when
it began. -/
structure Joined where
  writer : Transport
  reader : Transport
  writer_plan : List PlanItem
  reader_plan : List PlanItem
  requests : List (Nat × Bytes)
  submitted : List (Nat × Bytes)
  written : List (Nat × Bytes)
  wire : Bytes
  clear : Bytes
  stream : Bytes
  seen : Bytes
  sent : Nat
  taken : Nat
  reading : Option (Format × ReadState)
  results : List (Outcome Error Bytes)
  encrypted_at : List Switch
  decrypted_at : List Switch

/-- The steps of two joined transports: a caller hands in a frame, the writer loop
serves it, either side comes to its next switch, the reader asks for a frame, and
bytes arrive. -/
inductive JoinedAction where
  | Call (caller : Nat) (payload : Bytes)
  | Serve (caller : Nat)
  | WriterSwitch
  | ReaderSwitch
  | ReadFrame
  | Chunk (count : Nat)

namespace Joined

/-- Both transports are new and follow the same plan. -/
def start (maxPacketSize : Int) (plan : List PlanItem) : Joined where
  writer := .new maxPacketSize
  reader := .new maxPacketSize
  writer_plan := plan
  reader_plan := plan
  requests := []
  submitted := []
  written := []
  wire := []
  clear := []
  stream := []
  seen := []
  sent := 0
  taken := 0
  reading := none
  results := []
  encrypted_at := []
  decrypted_at := []

/-- The writer loop serves a request: it frames the payload and writes it. -/
def serve (zlib : Zlib) (aes : Aes) (s : Joined) (caller : Nat) (payload : Bytes) : Option Joined :=
  match s.writer.format.frame_writes zlib payload with
  | .error _ => none
  | .ok writes =>
    let (bytes, writer) := s.writer.write_pieces aes writes
    some { s with
      writer
      writer_plan := s.writer_plan.tail
      requests := s.requests.filter (·.1 ≠ caller)
      written := s.written ++ [(caller, payload)]
      wire := s.wire ++ bytes
      clear := s.clear ++ writes.flatten
      stream := s.stream ++ bytes
      sent := s.sent + bytes.length }

/-- A `ReadFrame` call that goes on with `data`: it returns with a result and
leaves the rest in the buffer, or it has used up everything. -/
def consume (zlib : Zlib) (s : Joined) (format : Format) (state : ReadState) (data : Bytes) : Joined :=
  match feed (format.read_byte zlib) state data with
  | .inl next => { s with reading := some (format, next), reader := { s.reader with buffer := [] } }
  | .inr (result, rest) =>
    { s with
      reading := none
      reader := { s.reader with buffer := rest }
      reader_plan := s.reader_plan.tail
      results := s.results ++ [result] }

/-- One step. Callers block until they are served. The buffered reader goes to
the connection when its buffer is empty and gets some of the bytes on the
wire. A refused `EnableEncryption` changes nothing. -/
def step (zlib : Zlib) (aes : Aes) (s : Joined) : JoinedAction → Option Joined
  | .Call caller payload =>
    if s.requests.all (·.1 ≠ caller) ∧ 0 < payload.length ∧
        payload.length ≤ packet_limit s.writer.max_packet_size then
      some { s with
        requests := s.requests ++ [(caller, payload)]
        submitted := s.submitted ++ [(caller, payload)] }
    else none
  | .Serve caller =>
    match s.writer_plan, s.requests.find? (·.1 = caller) with
    | .Frame :: _, some (_, payload) => s.serve zlib aes caller payload
    | _, _ => none
  | .WriterSwitch =>
    match s.writer_plan with
    | .Compress threshold :: rest =>
      match s.writer.enable_compression threshold with
      | .error _ => none
      | .ok writer => some { s with writer, writer_plan := rest }
    | .Encrypt key iv :: rest =>
      match s.writer.enable_encryption key.val iv.val with
      | .error _ => none
      | .ok writer =>
        some { s with writer, writer_plan := rest, encrypted_at := s.encrypted_at ++ [⟨s.sent, key, iv⟩] }
    | _ => none
  | .ReaderSwitch =>
    match s.reading, s.reader_plan with
    | none, .Compress threshold :: rest =>
      match s.reader.enable_compression threshold with
      | .error _ => none
      | .ok reader => some { s with reader, reader_plan := rest }
    | none, .Encrypt key iv :: rest =>
      match s.reader.enable_encryption key.val iv.val with
      | .error _ => some s
      | .ok reader =>
        some { s with reader, reader_plan := rest, decrypted_at := s.decrypted_at ++ [⟨s.taken, key, iv⟩] }
    | _, _ => none
  | .ReadFrame =>
    match s.reading, s.reader_plan with
    | none, .Frame :: _ => some (s.consume zlib s.reader.format Framer.read_start s.reader.buffer)
    | _, _ => none
  | .Chunk count =>
    match s.reading with
    | none => none
    | some (format, state) =>
      if 0 < count ∧ count ≤ s.wire.length then
        let (data, reader) := s.reader.cipher_read aes (s.wire.take count)
        some ({ s with
          reader
          wire := s.wire.drop count
          seen := s.seen ++ data
          taken := s.taken + count }.consume zlib format state data)
      else none

end Joined

/-- What one step does, with the guard under which it does it. -/
inductive JoinedEffect (zlib : Zlib) (aes : Aes) (s : Joined) : JoinedAction → Joined → Prop where
  | called {caller : Nat} {payload : Bytes} (hidle : ∀ request ∈ s.requests, request.1 ≠ caller)
      (hpositive : 0 < payload.length) (hfits : payload.length ≤ packet_limit s.writer.max_packet_size) :
    JoinedEffect zlib aes s (.Call caller payload)
      { s with
        requests := s.requests ++ [(caller, payload)]
        submitted := s.submitted ++ [(caller, payload)] }
  | served {caller : Nat} {payload : Bytes} {writes : List Bytes} {rest : List PlanItem}
      (hplan : s.writer_plan = .Frame :: rest)
      (hrequest : s.requests.find? (·.1 = caller) = some (caller, payload))
      (hwrites : s.writer.format.frame_writes zlib payload = .ok writes) :
    JoinedEffect zlib aes s (.Serve caller)
      { s with
        writer := (s.writer.write_pieces aes writes).2
        writer_plan := rest
        requests := s.requests.filter (·.1 ≠ caller)
        written := s.written ++ [(caller, payload)]
        wire := s.wire ++ (s.writer.write_pieces aes writes).1
        clear := s.clear ++ writes.flatten
        stream := s.stream ++ (s.writer.write_pieces aes writes).1
        sent := s.sent + (s.writer.write_pieces aes writes).1.length }
  | writer_compressed {threshold : Nat} {rest : List PlanItem} {writer : Transport}
      (hplan : s.writer_plan = .Compress threshold :: rest)
      (henable : s.writer.enable_compression threshold = .ok writer) :
    JoinedEffect zlib aes s .WriterSwitch { s with writer, writer_plan := rest }
  | writer_encrypted {key iv : Block} {rest : List PlanItem} {writer : Transport}
      (hplan : s.writer_plan = .Encrypt key iv :: rest)
      (henable : s.writer.enable_encryption key.val iv.val = .ok writer) :
    JoinedEffect zlib aes s .WriterSwitch
      { s with writer, writer_plan := rest, encrypted_at := s.encrypted_at ++ [⟨s.sent, key, iv⟩] }
  | reader_compressed {threshold : Nat} {rest : List PlanItem} {reader : Transport}
      (hidle : s.reading = none) (hplan : s.reader_plan = .Compress threshold :: rest)
      (henable : s.reader.enable_compression threshold = .ok reader) :
    JoinedEffect zlib aes s .ReaderSwitch { s with reader, reader_plan := rest }
  | refused : JoinedEffect zlib aes s .ReaderSwitch s
  | reader_encrypted {key iv : Block} {rest : List PlanItem} {reader : Transport}
      (hidle : s.reading = none) (hplan : s.reader_plan = .Encrypt key iv :: rest)
      (henable : s.reader.enable_encryption key.val iv.val = .ok reader) :
    JoinedEffect zlib aes s .ReaderSwitch
      { s with reader, reader_plan := rest, decrypted_at := s.decrypted_at ++ [⟨s.taken, key, iv⟩] }
  | read {rest : List PlanItem} (hidle : s.reading = none) (hplan : s.reader_plan = .Frame :: rest) :
    JoinedEffect zlib aes s .ReadFrame
      (s.consume zlib s.reader.format Framer.read_start s.reader.buffer)
  | chunk {format : Format} {state : ReadState} {count : Nat} (hreading : s.reading = some (format, state))
      (hcount : count ≤ s.wire.length) :
    JoinedEffect zlib aes s (.Chunk count)
      ({ s with
        reader := (s.reader.cipher_read aes (s.wire.take count)).2
        wire := s.wire.drop count
        seen := s.seen ++ (s.reader.cipher_read aes (s.wire.take count)).1
        taken := s.taken + count }.consume zlib format state
          (s.reader.cipher_read aes (s.wire.take count)).1)

theorem joined_effect {zlib : Zlib} {aes : Aes} {s s' : Joined} {a : JoinedAction}
    (h : s.step zlib aes a = some s') : JoinedEffect zlib aes s a s' := by
  cases a with
  | Call caller payload =>
    simp only [Joined.step] at h
    split at h
    · rename_i hguard
      obtain rfl := Option.some.inj h
      obtain ⟨hidle, hpositive, hfits⟩ := hguard
      refine .called ?_ hpositive hfits
      intro request hrequest
      exact of_decide_eq_true (List.all_eq_true.mp hidle request hrequest)
    · cases h
  | Serve caller =>
    simp only [Joined.step] at h
    split at h
    · rename_i rest found payload hplan hrequest
      have hcaller : found = caller := by
        have hfound := List.find?_some hrequest
        exact of_decide_eq_true hfound
      subst hcaller
      unfold Joined.serve at h
      split at h
      · cases h
      · rename_i writes hwrites
        obtain rfl := Option.some.inj h
        rw [hplan]
        exact .served hplan hrequest hwrites
    · cases h
  | WriterSwitch =>
    simp only [Joined.step] at h
    split at h
    · rename_i threshold rest hplan
      split at h
      · cases h
      · rename_i writer henable
        obtain rfl := Option.some.inj h
        exact .writer_compressed hplan henable
    · rename_i key iv rest hplan
      split at h
      · cases h
      · rename_i writer henable
        obtain rfl := Option.some.inj h
        exact .writer_encrypted hplan henable
    · cases h
  | ReaderSwitch =>
    simp only [Joined.step] at h
    split at h
    · rename_i threshold rest hidle hplan
      split at h
      · cases h
      · rename_i reader henable
        obtain rfl := Option.some.inj h
        exact .reader_compressed hidle hplan henable
    · rename_i key iv rest hidle hplan
      split at h
      · obtain rfl := Option.some.inj h
        exact .refused
      · rename_i reader henable
        obtain rfl := Option.some.inj h
        exact .reader_encrypted hidle hplan henable
    · cases h
  | ReadFrame =>
    simp only [Joined.step] at h
    split at h
    · rename_i rest hidle hplan
      obtain rfl := Option.some.inj h
      exact .read hidle hplan
    · cases h
  | Chunk count =>
    simp only [Joined.step] at h
    split at h
    · cases h
    · rename_i format state hreading
      split at h
      · rename_i hcount
        obtain rfl := Option.some.inj h
        exact .chunk hreading hcount.2
      · cases h

end regiongate.transport
