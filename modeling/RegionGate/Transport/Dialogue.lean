import RegionGate.Stateful
import RegionGate.Transport.RoundTrip
import RegionGate.Transport.Writer

open checked framing stateful regiongate.codec

namespace regiongate.transport

/-- What ends a dialogue before its time: an error, or a panic. -/
inductive Stop (ε : Type) where
  | Failed (err : ε)
  | Panicked
  deriving DecidableEq

/-- One goroutine's dialogue with the peer of its transport. `arrivals` is what
the connection's reads return, one after the other, and `results` what its
writes return; after that both fail. `frames` logs the frames that `ReadFrame`
returned, `events` the frames given to `WriteFrame` and the switches to
encryption, and `wire` is what was written to the connection. -/
structure Dialogue where
  endpoint : Transport
  arrivals : List Bytes
  results : List WriteResult
  frames : List Bytes
  events : List Event
  wire : Bytes

/-- What a goroutine does in a dialogue. Its effects stay when it fails. -/
abbrev Talk (ε : Type) := EStateM (Stop ε) Dialogue

namespace Dialogue

/-- A new transport, with the reads that will arrive and the results of its writes. -/
def start (maxPacketSize : Int) (arrivals : List Bytes) (results : List WriteResult) : Dialogue where
  endpoint := .new maxPacketSize
  arrivals
  results
  frames := []
  events := []
  wire := []

/-- The result of a call that does not use the connection. -/
def call {ε ε' α : Type} (err : ε' → ε) (m : Outcome ε' α) : Talk ε α := fun d =>
  match m with
  | .Ok value => .ok value d
  | .Fail e => .error (.Failed (err e)) d
  | .Panic => .error .Panicked d

section

variable (zlib : Zlib) (aes : Aes)

/-- `ReadFrame` from a state in which the buffer is used up: the connection's
reads until there is a result, and what the last of them leaves in the
buffer. -/
def receive (format : Format) :
    ReadState → Transport → List Bytes → Option (Outcome Error Bytes) × Transport × List Bytes
  | _, t, [] => (none, t, [])
  | state, t, data :: arrivals =>
    let (data, t) := t.cipher_read aes data
    match feed (format.read_byte zlib) state data with
    | .inl next => receive format next t arrivals
    | .inr (result, rest) => (some result, { t with buffer := rest }, arrivals)

/-- `ReadFrame` on the buffer and then on the connection. -/
def next_frame (t : Transport) (arrivals : List Bytes) : Option (Outcome Error Bytes) × Transport × List Bytes :=
  match feed (t.format.read_byte zlib) Framer.read_start t.buffer with
  | .inl state => receive zlib aes t.format state { t with buffer := [] } arrivals
  | .inr (result, rest) => (some result, { t with buffer := rest }, arrivals)

/-- `ReadFrame`, which reads from the connection until a frame is whole. -/
def read_frame {ε : Type} (err : Error → ε) : Talk ε Bytes := fun d =>
  let (result, endpoint, arrivals) := next_frame zlib aes d.endpoint d.arrivals
  match result with
  | none => .error (.Failed (err .Read)) { d with endpoint, arrivals }
  | some (.Ok frame) => .ok frame { d with endpoint, arrivals, frames := d.frames ++ [frame] }
  | some (.Fail e) => .error (.Failed (err e)) { d with endpoint, arrivals }
  | some .Panic => .error .Panicked { d with endpoint, arrivals }

/-- The result of the connection's writes once `results` is used up. -/
def lastResult : WriteResult := ⟨0, some .Write⟩

/-- `WriteFrame`. With a last result that is an error it always returns, see
`write_frame_returns`. -/
def write_frame {ε : Type} (err : Error → ε) (payload : Bytes) : Talk ε Unit := fun d =>
  match d.endpoint.write_frame zlib aes (d.results ++ [lastResult]) payload with
  | none => .error (.Failed (err .Write)) d
  | some w =>
    let d := { d with
      endpoint := w.endpoint
      results := w.results.dropLast
      events := d.events ++ [.Frame payload]
      wire := d.wire ++ w.out }
    match w.err with
    | none => .ok () d
    | some e => .error (.Failed (err e)) d

end

/-- The switch of a key and a vector that `NewCipherState` accepts. -/
def switchEvents (key iv : Bytes) : List Event :=
  if h : key.length = 16 ∧ iv.length = 16 then [.Encrypt ⟨key, h.1⟩ ⟨iv, h.2⟩] else []

/-- `EnableEncryption`, which refuses when bytes of the peer have already been
buffered. -/
def enable_encryption {ε : Type} (err : Error → ε) (key iv : Bytes) : Talk ε Unit := fun d =>
  match d.endpoint.enable_encryption key iv with
  | .error e => .error (.Failed (err e)) d
  | .ok endpoint => .ok () { d with endpoint, events := d.events ++ switchEvents key iv }

end Dialogue

/-- What writing leaves alone. -/
structure SameInput (t t' : Transport) : Prop where
  buffer : t'.buffer = t.buffer
  register : t'.read_register = t.read_register

theorem SameInput.refl (t : Transport) : SameInput t t := ⟨rfl, rfl⟩

theorem SameInput.trans {t t' t'' : Transport} (h : SameInput t t') (h' : SameInput t' t'') : SameInput t t'' :=
  ⟨h'.buffer.trans h.buffer, h'.register.trans h.register⟩

section Reading

variable {zlib : Zlib} {aes : Aes} {format : Format} {state : ReadState} {t : Transport}
  {before after : List Bytes} {input rest : Bytes} {result : Outcome Error Bytes}

/-- Reading leaves the line of the writes alone. -/
theorem cipher_read_write_line (aes : Aes) (t : Transport) (data : Bytes) :
    (t.cipher_read aes data).2.write_line = t.write_line := by
  unfold Transport.cipher_read Transport.write_line Transport.write_register
  cases hencryption : t.encryption with
  | none => simp [hencryption]
  | some c => simp [CipherState.decrypt]

theorem receive_write_line (format : Format) (state : ReadState) (t : Transport) (arrivals : List Bytes) :
    (Dialogue.receive zlib aes format state t arrivals).2.1.write_line = t.write_line := by
  induction arrivals generalizing state t with
  | nil => rfl
  | cons data arrivals ih =>
    have hline := cipher_read_write_line aes t data
    rw [Dialogue.receive]
    dsimp only
    cases feed (format.read_byte zlib) state (t.cipher_read aes data).1 with
    | inl next => exact (ih next _).trans hline
    | inr message => exact hline

/-- Reading does not touch the writing direction. -/
theorem next_frame_write_line (zlib : Zlib) (aes : Aes) (t : Transport) (arrivals : List Bytes) :
    (Dialogue.next_frame zlib aes t arrivals).2.1.write_line = t.write_line := by
  unfold Dialogue.next_frame
  cases feed (t.format.read_byte zlib) Framer.read_start t.buffer with
  | inl state => exact receive_write_line t.format state { t with buffer := [] } arrivals
  | inr message => rfl

theorem Format.finish_safe (zlib : Zlib) (format : Format) (wire : Except Error Bytes) :
    (format.finish zlib wire).Safe fun _ => True := by
  unfold Format.finish
  split
  · trivial
  · exact CompressionState.read_wire_safe zlib _ _
  · trivial

/-- However the bytes arrive, the result of `ReadFrame` is not a panic. -/
theorem feed_read_byte_safe {data : Bytes} (h : feed (format.read_byte zlib) state data = .inr (result, rest)) :
    result ≠ .Panic := by
  obtain ⟨last, current, hlast⟩ := feed_result h
  unfold Format.read_byte at hlast
  split at hlast
  · cases hlast
  · obtain rfl := Sum.inr.inj hlast
    exact (Format.finish_safe zlib format _).ne_panic

theorem receive_safe (format : Format) (state : ReadState) (t : Transport) (arrivals : List Bytes) :
    (Dialogue.receive zlib aes format state t arrivals).1 ≠ some .Panic := by
  induction arrivals generalizing state t with
  | nil => simp [Dialogue.receive]
  | cons data arrivals ih =>
    rw [Dialogue.receive]
    dsimp only
    cases hfeed : feed (format.read_byte zlib) state (t.cipher_read aes data).1 with
    | inl next => exact ih next _
    | inr message => simpa using feed_read_byte_safe hfeed

theorem next_frame_safe (zlib : Zlib) (aes : Aes) (t : Transport) (arrivals : List Bytes) :
    (Dialogue.next_frame zlib aes t arrivals).1 ≠ some .Panic := by
  unfold Dialogue.next_frame
  cases hfeed : feed (t.format.read_byte zlib) Framer.read_start t.buffer with
  | inl state => exact receive_safe t.format state _ arrivals
  | inr message => simpa using feed_read_byte_safe hfeed

/-- The bytes that the reader has still to take, when `before` is what the next
reads return. -/
def Awaits (aes : Aes) (t : Transport) (before : List Bytes) (input : Bytes) : Prop :=
  t.buffer ++ decipher aes t.read_register before.flatten = input

/-- However the bytes of a frame arrive, the reads go on until it is complete and
leave what follows it. -/
theorem receive_of_message
    (h : feed (format.read_byte zlib) state (decipher aes t.read_register before.flatten) = .inr (result, rest)) :
    ∃ t' before', Dialogue.receive zlib aes format state t (before ++ after) = (some result, t', before' ++ after) ∧
      Awaits aes t' before' rest := by
  induction before generalizing state t with
  | nil => cases h
  | cons data before ih =>
    obtain ⟨hdata, hregister, _, _, _⟩ := Transport.cipher_read_eq aes t data
    rw [List.flatten_cons, decipher_append, ← hdata, ← hregister] at h
    rw [List.cons_append, Dialogue.receive]
    dsimp only
    cases hfeed : feed (format.read_byte zlib) state (t.cipher_read aes data).1 with
    | inl next =>
      rw [feed_append_of_waiting hfeed] at h
      exact ih h
    | inr message =>
      obtain ⟨first, left⟩ := message
      rw [feed_append_of_result hfeed, Sum.inr.injEq, Prod.mk.injEq] at h
      obtain ⟨rfl, rfl⟩ := h
      exact ⟨_, before, rfl, rfl⟩

/-- A frame that is awaited is read, in however many pieces it arrives. -/
theorem next_frame_of_message (after : List Bytes) (hawaits : Awaits aes t before input)
    (h : feed (t.format.read_byte zlib) Framer.read_start input = .inr (result, rest)) :
    ∃ t' before', Dialogue.next_frame zlib aes t (before ++ after) = (some result, t', before' ++ after) ∧
      Awaits aes t' before' rest := by
  unfold Awaits at hawaits
  unfold Dialogue.next_frame
  rw [← hawaits] at h
  cases hfeed : feed (t.format.read_byte zlib) Framer.read_start t.buffer with
  | inl state =>
    rw [feed_append_of_waiting hfeed] at h
    exact receive_of_message h
  | inr message =>
    obtain ⟨first, left⟩ := message
    rw [feed_append_of_result hfeed, Sum.inr.injEq, Prod.mk.injEq] at h
    obtain ⟨rfl, rfl⟩ := h
    exact ⟨_, before, rfl, rfl⟩

end Reading

section Writing

variable {zlib : Zlib} {aes : Aes} {t : Transport} {w : WriteOutcome} {results tail : List WriteResult}
  {data payload : Bytes} {n : Nat}

/-- Writing does not touch the reading direction. -/
theorem write_sameInput (h : t.write aes results data = some w) : SameInput t w.endpoint := by
  unfold Transport.write at h
  cases hencryption : t.encryption with
  | none =>
    simp only [hencryption] at h
    cases results with
    | nil => cases h
    | cons result results =>
      cases h
      exact .refl t
  | some state =>
    simp only [hencryption] at h
    cases hloop : write_encrypted results (state.encrypt aes data).1 with
    | none => simp [hloop] at h
    | some result =>
      simp only [hloop, Option.some.injEq] at h
      subst h
      refine ⟨rfl, ?_⟩
      simp [Transport.read_register, hencryption, CipherState.encrypt]

theorem write_all_sameInput {fuel : Nat} (h : t.write_all aes fuel results data = some w) : SameInput t w.endpoint := by
  induction fuel generalizing t results data w with
  | zero =>
    cases data with
    | nil =>
      cases h
      exact .refl t
    | cons b data => simp [Transport.write_all] at h
  | succ fuel ih =>
    cases data with
    | nil =>
      cases h
      exact .refl t
    | cons b data =>
      simp only [Transport.write_all] at h
      cases hwrite : t.write aes results (b :: data) with
      | none => simp [hwrite] at h
      | some first =>
        have hfirst := write_sameInput hwrite
        cases herr : first.err with
        | some e =>
          simp only [hwrite, herr, Option.some.injEq] at h
          exact h ▸ hfirst
        | none =>
          simp only [hwrite, herr] at h
          split at h
          · obtain rfl := Option.some.inj h
            exact hfirst
          · cases hrest : Transport.write_all aes fuel first.endpoint first.results
              ((b :: data).drop first.count) with
            | none => simp [hrest] at h
            | some rest =>
              simp only [hrest, Option.some.injEq] at h
              have hrest := ih hrest
              subst h
              exact hfirst.trans hrest

theorem write_each_sameInput {pieces : List Bytes} (h : t.write_each aes results pieces = some w) :
    SameInput t w.endpoint := by
  induction pieces generalizing t results w with
  | nil =>
    cases h
    exact .refl t
  | cons data pieces ih =>
    simp only [Transport.write_each] at h
    cases hwrite : t.write_all aes data.length results data with
    | none => simp [hwrite] at h
    | some first =>
      have hfirst := write_all_sameInput hwrite
      cases herr : first.err with
      | some e =>
        simp only [hwrite, herr, Option.some.injEq] at h
        exact h ▸ hfirst
      | none =>
        simp only [hwrite, herr] at h
        cases hrest : Transport.write_each aes first.endpoint first.results pieces with
        | none => simp [hrest] at h
        | some rest =>
          simp only [hrest, Option.some.injEq] at h
          have hrest := ih hrest
          subst h
          exact hfirst.trans hrest

/-- How a call that wants to write `size` bytes ends when the connection's results
are `results` and then an error: with results left where it succeeds, one for
each byte at most being used up, and with success when every result is one. -/
structure Answered (results : List WriteResult) (size : Nat) (err : Option Error) (left : List WriteResult) :
    Prop where
  goes_on : err = none → ∃ unused, left = unused ++ [Dialogue.lastResult] ∧ unused <:+ results ∧
    results.length ≤ unused.length + size
  succeeds : (∀ r ∈ results, r.err = none ∧ 0 < r.count) → size ≤ results.length → err = none

theorem answered_nil (results : List WriteResult) : Answered results 0 none (results ++ [Dialogue.lastResult]) :=
  ⟨fun _ => ⟨results, rfl, List.suffix_rfl, Nat.le_refl _⟩, fun _ _ => rfl⟩

/-- A call that goes on with the results that a first part leaves. -/
theorem Answered.after {size size' : Nat} {err : Option Error} {left unused : List WriteResult}
    (h : Answered unused size' err left) (hsuffix : unused <:+ results)
    (hcount : results.length ≤ unused.length + size) : Answered results (size + size') err left := by
  constructor
  · intro hdone
    obtain ⟨more, hmore, hsuffix', hcount'⟩ := h.goes_on hdone
    exact ⟨more, hmore, hsuffix'.trans hsuffix, by omega⟩
  · intro hreliable hsize
    exact h.succeeds (fun r hr => hreliable r (hsuffix.subset hr)) (by omega)

theorem answered_error {size : Nat} {e : Error} {left : List WriteResult}
    (h : ¬ ((∀ r ∈ results, r.err = none ∧ 0 < r.count) ∧ size ≤ results.length)) :
    Answered results size (some e) left :=
  ⟨fun hdone => absurd hdone (by simp), fun hreliable hsize => absurd ⟨hreliable, hsize⟩ h⟩

/-- The write of encrypted bytes succeeds if each write takes something and there are
enough of them. -/
theorem write_encrypted_answered (results : List WriteResult) (encrypted : Bytes) :
    ∃ out err left, write_encrypted (results ++ [Dialogue.lastResult]) encrypted = some (out, err, left) ∧
      Answered results encrypted.length err left := by
  induction results generalizing encrypted with
  | nil =>
    cases encrypted with
    | nil => exact ⟨[], none, _, rfl, answered_nil []⟩
    | cons b encrypted => exact ⟨[], some .Write, [], rfl, answered_error (by simp)⟩
  | cons r results ih =>
    cases encrypted with
    | nil => exact ⟨[], none, _, rfl, answered_nil (r :: results)⟩
    | cons b encrypted =>
      simp only [List.cons_append, write_encrypted]
      cases herr : r.err with
      | some e => exact ⟨_, some e, _, rfl, answered_error (by simp [herr])⟩
      | none =>
        dsimp only
        by_cases hzero : r.count = 0
        · rw [if_pos (by simp [hzero])]
          exact ⟨[], some .ShortWrite, _, rfl, answered_error (by simp [hzero])⟩
        · rw [if_neg (by rw [List.length_take, List.length_cons]; omega)]
          obtain ⟨out, err, left, hloop, hrest⟩ := ih ((b :: encrypted).drop r.count)
          rw [hloop]
          refine ⟨_, err, left, rfl, ?_⟩
          have hused : (r :: results).length ≤ results.length + min r.count (b :: encrypted).length := by
            simp only [List.length_cons]
            omega
          have hsize : min r.count (b :: encrypted).length + ((b :: encrypted).drop r.count).length =
              (b :: encrypted).length := by
            rw [List.length_drop]
            omega
          rw [← hsize]
          exact hrest.after (List.suffix_cons r results) hused

/-- One `Write` call of the connection's writer. -/
theorem write_answered (aes : Aes) (t : Transport) (results : List WriteResult) (hdata : data ≠ []) :
    ∃ w, t.write aes (results ++ [Dialogue.lastResult]) data = some w ∧ w.count ≤ data.length ∧
      (w.err = none → w.count ≠ 0 → ∃ unused, w.results = unused ++ [Dialogue.lastResult] ∧ unused <:+ results ∧
        results.length ≤ unused.length + w.count) ∧
      ((∀ r ∈ results, r.err = none ∧ 0 < r.count) → data.length ≤ results.length → w.err = none ∧ w.count ≠ 0) := by
  have hpositive : 0 < data.length := List.length_pos_of_ne_nil hdata
  unfold Transport.write
  cases hencryption : t.encryption with
  | none =>
    cases results with
    | nil =>
      refine ⟨_, rfl, by simp, fun herr => absurd herr (by simp [Dialogue.lastResult]), fun _ hsize => ?_⟩
      simp at hsize
      exact absurd hsize hdata
    | cons r results =>
      refine ⟨_, rfl, by simp, fun _ hcount => ⟨results, rfl, List.suffix_cons r results, ?_⟩, fun hreliable _ => ?_⟩
      · simp only [List.length_cons] at hcount ⊢
        omega
      · obtain ⟨herr, hcount⟩ := hreliable r List.mem_cons_self
        refine ⟨herr, ?_⟩
        dsimp only
        rw [List.length_take]
        omega
  | some state =>
    obtain ⟨out, err, left, hloop, hanswered⟩ := write_encrypted_answered results (state.encrypt aes data).1
    have hlength : (state.encrypt aes data).1.length = data.length := by
      obtain ⟨hbytes, _⟩ := Transport.cipher_write_eq aes t data
      rw [Transport.cipher_write, hencryption] at hbytes
      exact (congrArg List.length hbytes).trans (encipher_length _ _)
    rw [hlength] at hanswered
    dsimp only
    rw [hloop]
    refine ⟨_, rfl, ?_, fun herr _ => ?_, fun hreliable hsize => ?_⟩
    · dsimp only
      split
      · exact Nat.le_refl _
      · obtain ⟨⟨k, hk⟩, _⟩ := write_encrypted_eq hloop
        rw [hk, List.length_take, hlength]
        omega
    · dsimp only at herr ⊢
      rw [if_pos herr]
      exact hanswered.goes_on herr
    · have herr := hanswered.succeeds hreliable hsize
      dsimp only
      rw [if_pos herr]
      exact ⟨herr, by omega⟩

/-- `writeAll` succeeds under the same condition. -/
theorem write_all_answered (aes : Aes) (t : Transport) (results : List WriteResult) {fuel : Nat}
    (hfuel : data.length ≤ fuel) :
    ∃ w, t.write_all aes fuel (results ++ [Dialogue.lastResult]) data = some w ∧
      Answered results data.length w.err w.results := by
  induction fuel generalizing t results data with
  | zero =>
    obtain rfl : data = [] := List.eq_nil_of_length_eq_zero (by omega)
    exact ⟨_, rfl, answered_nil results⟩
  | succ fuel ih =>
    cases data with
    | nil => exact ⟨_, rfl, answered_nil results⟩
    | cons b data =>
      obtain ⟨first, hwrite, hle, hgoes, hsucceeds⟩ :=
        write_answered aes t results (List.cons_ne_nil b data)
      simp only [Transport.write_all, hwrite]
      cases herr : first.err with
      | some e =>
        refine ⟨first, rfl, ?_⟩
        rw [herr]
        exact answered_error fun hall => by simp [(hsucceeds hall.1 hall.2).1] at herr
      | none =>
        dsimp only
        by_cases hzero : first.count = 0
        · rw [if_pos hzero]
          exact ⟨_, rfl, answered_error fun hall => (hsucceeds hall.1 hall.2).2 hzero⟩
        · rw [if_neg hzero]
          obtain ⟨unused, hunused, hsuffix, hcount⟩ := hgoes herr hzero
          have hshorter : ((b :: data).drop first.count).length ≤ fuel := by
            rw [List.length_drop, List.length_cons] at *
            omega
          obtain ⟨rest, hrest, hanswered⟩ := ih first.endpoint unused hshorter
          rw [hunused, hrest]
          refine ⟨_, rfl, ?_⟩
          have hsize : first.count + ((b :: data).drop first.count).length = (b :: data).length := by
            rw [List.length_drop]
            omega
          rw [← hsize]
          exact hanswered.after hsuffix hcount

theorem write_each_answered (aes : Aes) (t : Transport) (results : List WriteResult) (pieces : List Bytes) :
    ∃ w, t.write_each aes (results ++ [Dialogue.lastResult]) pieces = some w ∧
      Answered results pieces.flatten.length w.err w.results := by
  induction pieces generalizing t results with
  | nil => exact ⟨_, rfl, answered_nil results⟩
  | cons data pieces ih =>
    obtain ⟨first, hwrite, hfirst⟩ := write_all_answered aes t results (Nat.le_refl data.length)
    simp only [Transport.write_each, hwrite]
    rw [List.flatten_cons, List.length_append]
    cases herr : first.err with
    | some e =>
      refine ⟨first, rfl, ?_⟩
      rw [herr]
      exact answered_error fun hall => by simp [hfirst.succeeds hall.1 (by omega)] at herr
    | none =>
      obtain ⟨unused, hunused, hsuffix, hcount⟩ := hfirst.goes_on herr
      obtain ⟨rest, hrest, hanswered⟩ := ih first.endpoint unused
      dsimp only
      rw [hunused, hrest]
      exact ⟨_, rfl, hanswered.after hsuffix hcount⟩

/-- `WriteFrame` always returns. -/
theorem write_frame_returns (zlib : Zlib) (aes : Aes) (t : Transport) (results : List WriteResult) (payload : Bytes) :
    ∃ w, t.write_frame zlib aes (results ++ [Dialogue.lastResult]) payload = some w := by
  unfold Transport.write_frame
  cases t.format.frame_writes zlib payload with
  | error e => exact ⟨_, rfl⟩
  | ok pieces =>
    obtain ⟨w, hwrite, _⟩ := write_each_answered aes t results pieces
    exact ⟨w, hwrite⟩

end Writing

namespace Dialogue

section Specs

variable {zlib : Zlib} {aes : Aes} {maxPacketSize : Int} {ε : Type} {err : Error → ε} {frames : List Bytes}
  {events : List Event} {failed : Stop ε → Dialogue → Prop} {d : Dialogue} {payload : Bytes}

/-- The line of a transport before its first frame. -/
def openingLine (maxPacketSize : Int) : Line := (Transport.new maxPacketSize).write_line

/-- A dialogue in which these frames were read and these events happened, whose
wire holds what the events put there and whose transport is where they
lead. -/
structure At (zlib : Zlib) (aes : Aes) (maxPacketSize : Int) (frames : List Bytes) (events : List Event)
    (d : Dialogue) : Prop where
  heard : d.frames = frames
  said : d.events = events
  wire : d.wire = (openingLine maxPacketSize).stream zlib aes maxPacketSize events
  line : d.endpoint.write_line = events.foldl (Line.after zlib aes maxPacketSize) (openingLine maxPacketSize)

/-- A dialogue that has ended, perhaps in the middle of its last event. -/
structure Fell (zlib : Zlib) (aes : Aes) (maxPacketSize : Int) (frames : List Bytes) (events : List Event)
    (d : Dialogue) : Prop where
  heard : d.frames = frames
  said : d.events = events
  wire : d.wire <+: (openingLine maxPacketSize).stream zlib aes maxPacketSize events

theorem At.fell (h : d.At zlib aes maxPacketSize frames events) : d.Fell zlib aes maxPacketSize frames events :=
  ⟨h.heard, h.said, by rw [h.wire]⟩

theorem start_at (arrivals : List Bytes) (results : List WriteResult) :
    (start maxPacketSize arrivals results).At zlib aes maxPacketSize [] [] :=
  ⟨rfl, rfl, rfl, rfl⟩

theorem call_triple {ε' α : Type} {err' : ε' → ε} {m : Outcome ε' α} (hsafe : m.Safe fun _ => True)
    (hfailed : ∀ e d, d.At zlib aes maxPacketSize frames events → failed (.Failed (err' e)) d) :
    Triple (At zlib aes maxPacketSize frames events) (call err' m)
      (fun value d => m = .Ok value ∧ d.At zlib aes maxPacketSize frames events) failed := by
  constructor
  intro d hat
  cases m with
  | Ok value => exact ⟨rfl, hat⟩
  | Fail e => exact hfailed e d hat
  | Panic => exact hsafe.elim

theorem read_frame_triple (hfailed : ∀ e d, d.At zlib aes maxPacketSize frames events → failed (.Failed (err e)) d) :
    Triple (At zlib aes maxPacketSize frames events) (read_frame zlib aes err)
      (fun frame d => d.At zlib aes maxPacketSize (frames ++ [frame]) events) failed := by
  constructor
  intro d hat
  have hline := next_frame_write_line zlib aes d.endpoint d.arrivals
  have hsafe := next_frame_safe zlib aes d.endpoint d.arrivals
  unfold read_frame
  cases hnext : next_frame zlib aes d.endpoint d.arrivals with
  | mk result reader =>
    obtain ⟨endpoint, arrivals⟩ := reader
    rw [hnext] at hline hsafe
    have hsame := hline.trans hat.line
    cases result with
    | none => exact hfailed .Read _ ⟨hat.heard, hat.said, hat.wire, hsame⟩
    | some result =>
      cases result with
      | Ok frame => exact ⟨congrArg (· ++ [frame]) hat.heard, hat.said, hat.wire, hsame⟩
      | Fail e => exact hfailed e _ ⟨hat.heard, hat.said, hat.wire, hsame⟩
      | Panic => exact absurd rfl hsafe

/-- What a `WriteFrame` call puts on the wire: all of its frame when it succeeds,
and otherwise a beginning. -/
theorem write_frame_written (maxPacketSize : Int) {w : WriteOutcome} {t : Transport} {results : List WriteResult}
    (h : t.write_frame zlib aes results payload = some w) :
    w.out <+: t.write_line.bytes zlib aes (.Frame payload) ∧ SameInput t w.endpoint ∧
      w.endpoint.format = t.format ∧
      (w.err = none → w.out = t.write_line.bytes zlib aes (.Frame payload) ∧
        w.endpoint.write_line = t.write_line.after zlib aes maxPacketSize (.Frame payload)) := by
  have hbytes : t.write_line.bytes zlib aes (.Frame payload) =
      encipher aes t.write_register (t.format.encode zlib payload) := rfl
  unfold Transport.write_frame at h
  rw [hbytes, Format.encode]
  cases hpieces : t.format.frame_writes zlib payload with
  | error e =>
    simp only [hpieces, Option.some.injEq] at h
    subst h
    exact ⟨List.nil_prefix, .refl t, rfl, by simp⟩
  | ok pieces =>
    simp only [hpieces] at h
    have hwritten := write_each_written h
    obtain ⟨n, hn⟩ := hwritten.begun
    refine ⟨hn ▸ List.take_prefix n _, write_each_sameInput h, hwritten.format, fun hdone => ?_⟩
    obtain ⟨hout, hregister⟩ := hwritten.complete hdone
    refine ⟨hout, ?_⟩
    rw [Transport.write_line, hwritten.format, hregister, hout, Line.after, hbytes, Format.encode, hpieces]
    rfl

/-- `WriteFrame`: the frame is on the wire, or a part of it. -/
theorem write_frame_triple (payload : Bytes)
    (hfailed : ∀ e d, d.Fell zlib aes maxPacketSize frames (events ++ [.Frame payload]) → failed (.Failed (err e)) d) :
    Triple (At zlib aes maxPacketSize frames events) (write_frame zlib aes err payload)
      (fun _ d => d.At zlib aes maxPacketSize frames (events ++ [.Frame payload])) failed := by
  constructor
  intro d hat
  have hstream : (openingLine maxPacketSize).stream zlib aes maxPacketSize (events ++ [.Frame payload]) =
      d.wire ++ d.endpoint.write_line.bytes zlib aes (.Frame payload) := by
    rw [stream_append, hat.wire, ← hat.line, Line.stream, Line.stream, List.append_nil]
  obtain ⟨w, hwrite⟩ := write_frame_returns zlib aes d.endpoint d.results payload
  obtain ⟨hout, -, -, hdone⟩ := write_frame_written maxPacketSize hwrite
  simp only [write_frame, hwrite]
  cases herr : w.err with
  | none =>
    obtain ⟨hall, hline⟩ := hdone herr
    refine ⟨hat.heard, congrArg (· ++ [.Frame payload]) hat.said, ?_, ?_⟩
    · dsimp only
      rw [hstream, hall]
    · dsimp only
      rw [hline, hat.line, List.foldl_append]
      rfl
  | some e =>
    refine hfailed e _ ⟨hat.heard, congrArg (· ++ [.Frame payload]) hat.said, ?_⟩
    dsimp only
    rw [hstream]
    exact (List.prefix_append_right_inj d.wire).mpr hout

/-- `EnableEncryption`: both directions have their cipher from here on. -/
theorem enable_encryption_triple {key iv : Bytes} (hkey : key.length = 16) (hiv : iv.length = 16)
    (hfailed : ∀ e d, d.At zlib aes maxPacketSize frames events → failed (.Failed (err e)) d) :
    Triple (At zlib aes maxPacketSize frames events) (enable_encryption err key iv)
      (fun _ d => d.At zlib aes maxPacketSize frames (events ++ [.Encrypt ⟨key, hkey⟩ ⟨iv, hiv⟩])) failed := by
  constructor
  intro d hat
  unfold enable_encryption
  cases henable : d.endpoint.enable_encryption key iv with
  | error e => exact hfailed e d hat
  | ok endpoint =>
    have hblocks : d.endpoint.enable_encryption (⟨key, hkey⟩ : Block).val (⟨iv, hiv⟩ : Block).val = .ok endpoint :=
      henable
    obtain ⟨-, rfl⟩ := enable_encryption_eq hblocks
    have hswitch : switchEvents key iv = [.Encrypt ⟨key, hkey⟩ ⟨iv, hiv⟩] := by
      rw [switchEvents, dif_pos ⟨hkey, hiv⟩]
    refine ⟨hat.heard, ?_, ?_, ?_⟩
    · dsimp only
      rw [hat.said, hswitch]
    · dsimp only
      rw [stream_append, hat.wire, Line.stream, Line.stream, List.append_nil, bytes_switch rfl, List.append_nil]
    · dsimp only
      rw [List.foldl_append, List.foldl_cons, List.foldl_nil, Line.after, ← hat.line]
      rfl

/-- The bytes of one frame before encryption. -/
def plain (zlib : Zlib) (maxPacketSize : Int) (payload : Bytes) : Bytes :=
  (Transport.new maxPacketSize).format.encode zlib payload

/-- A frame has a header of at most five bytes. -/
theorem plain_length_le (payload : Bytes) : (plain zlib maxPacketSize payload).length ≤ payload.length + 5 := by
  have hheader := (append_var_int_length payload.length).2
  have hwrites : (Transport.new maxPacketSize).format.frame_writes zlib payload =
      (new_framer maxPacketSize).write_frame payload := rfl
  rw [plain, Format.encode, hwrites, Framer.write_frame]
  by_cases hempty : payload.length = 0
  · rw [if_pos hempty]
    exact Nat.zero_le _
  · rw [if_neg hempty]
    split
    · rename_i writes hok
      split at hok
      · cases hok
      · cases hok
        simp only [List.flatten_cons, List.flatten_nil, List.append_nil, List.length_append]
        omega
    · exact Nat.zero_le _

/-- Frames without a switch between them are enciphered as one text. -/
theorem stream_frames (register : Register) (payloads : List Bytes) :
    Line.stream zlib aes maxPacketSize ⟨(Transport.new maxPacketSize).format, register⟩ (payloads.map .Frame) =
      encipher aes register (payloads.flatMap (plain zlib maxPacketSize)) := by
  induction payloads generalizing register with
  | nil => rfl
  | cons payload payloads ih =>
    rw [List.map_cons, Line.stream, Line.after, ih, List.flatMap_cons, encipher_append]
    rfl

theorem stream_plains (payloads : List Bytes) :
    (openingLine maxPacketSize).stream zlib aes maxPacketSize (payloads.map .Frame) =
      payloads.flatMap (plain zlib maxPacketSize) :=
  (stream_frames none payloads).trans (encipher_none _)

theorem stream_plain (payload : Bytes) :
    (openingLine maxPacketSize).stream zlib aes maxPacketSize [.Frame payload] = plain zlib maxPacketSize payload :=
  (stream_plains [payload]).trans (List.append_nil _)

/-- The wire of a dialogue that is encrypted after its first frame. -/
theorem stream_encrypted (payload : Bytes) (key iv : Block) (payloads : List Bytes) :
    (openingLine maxPacketSize).stream zlib aes maxPacketSize
        (.Frame payload :: .Encrypt key iv :: payloads.map .Frame) =
      plain zlib maxPacketSize payload ++
        encipher aes (some (key.val, iv.val)) (payloads.flatMap (plain zlib maxPacketSize)) := by
  rw [← List.singleton_append, stream_append, stream_plain, Line.stream, bytes_switch rfl, List.nil_append,
    ← stream_frames]
  rfl

theorem stream_prefix {line : Line} {more : List Event} (h : events <+: more) :
    line.stream zlib aes maxPacketSize events <+: line.stream zlib aes maxPacketSize more := by
  obtain ⟨rest, rfl⟩ := h
  rw [stream_append]
  exact List.prefix_append _ _

end Specs

section Progress

variable {zlib : Zlib} {aes : Aes} {maxPacketSize : Int} {ε : Type} {err : Error → ε} {d : Dialogue}
  {frames : List Bytes} {events : List Event} {before after : List Bytes} {input rest payload : Bytes} {spare : Nat}

/-- A dialogue that goes well: the next reads return `before`, which holds the
plain bytes `input` for the reader, and then `after`; and the connection takes
at least `spare` bytes more. -/
structure Going (zlib : Zlib) (aes : Aes) (maxPacketSize : Int) (frames : List Bytes) (events : List Event)
    (before after : List Bytes) (input : Bytes) (spare : Nat) (d : Dialogue) : Prop
    extends d.At zlib aes maxPacketSize frames events where
  arrivals : d.arrivals = before ++ after
  awaits : Awaits aes d.endpoint before input
  reliable : ∀ r ∈ d.results, r.err = none ∧ 0 < r.count
  spare : spare ≤ d.results.length
  format : d.endpoint.format = (Transport.new maxPacketSize).format

theorem new_format_valid
    (hsmall : packet_limit maxPacketSize + packet_limit maxPacketSize / 1000 + 69 < 2 ^ 31) :
    (Transport.new maxPacketSize).format.Valid (packet_limit maxPacketSize) :=
  ⟨hsmall, new_framer_limit maxPacketSize, by simp [Transport.new]⟩

theorem awaits_start (maxPacketSize : Int) {before : List Bytes} {input : Bytes} (h : before.flatten = input) :
    Awaits aes (Transport.new maxPacketSize) before input := by
  have hplain : decipher aes none (encipher aes none before.flatten) = before.flatten := decipher_encipher none _
  rw [encipher_none] at hplain
  rw [← h]
  exact hplain

/-- A frame that arrives is read. -/
theorem Going.read
    (h : d.Going zlib aes maxPacketSize frames events before after (plain zlib maxPacketSize payload ++ rest) spare)
    (hsmall : packet_limit maxPacketSize + packet_limit maxPacketSize / 1000 + 69 < 2 ^ 31)
    (hfits : Fits maxPacketSize payload) :
    ∃ d' before', read_frame zlib aes err d = .ok payload d' ∧
      d'.Going zlib aes maxPacketSize (frames ++ [payload]) events before' after rest spare := by
  have hcomplete : framing.Complete (d.endpoint.format.read_byte zlib) Framer.read_start
      (plain zlib maxPacketSize payload) (.Ok payload) := by
    rw [h.format]
    exact Format.complete_encode zlib (new_format_valid hsmall) hfits.1 hfits.2
  obtain ⟨t', before', hnext, hawaits⟩ := next_frame_of_message after h.awaits (hcomplete.append rest)
  have hread : read_frame zlib aes err d =
      .ok payload { d with endpoint := t', arrivals := before' ++ after, frames := d.frames ++ [payload] } := by
    simp only [read_frame, h.arrivals, hnext]
  have hline := next_frame_write_line zlib aes d.endpoint d.arrivals
  rw [h.arrivals, hnext] at hline
  have hat := (read_frame_triple fun _ _ _ => trivial : Triple _ _ _ fun _ _ => True).ok h.toAt hread
  exact ⟨_, before', hread, hat, rfl, hawaits, h.reliable, h.spare, (congrArg Line.format hline).trans h.format⟩

/-- A frame is written as long as the connection takes it. -/
theorem Going.write (h : d.Going zlib aes maxPacketSize frames events before after input
      ((plain zlib maxPacketSize payload).length + spare))
    (hsmall : packet_limit maxPacketSize + packet_limit maxPacketSize / 1000 + 69 < 2 ^ 31)
    (hfits : Fits maxPacketSize payload) :
    ∃ d', write_frame zlib aes err payload d = .ok () d' ∧
      d'.Going zlib aes maxPacketSize frames (events ++ [.Frame payload]) before after input spare := by
  have hspare := h.spare
  obtain ⟨pieces, hpieces⟩ := Format.frame_writes_ok zlib (new_format_valid hsmall) hfits.1 hfits.2
  have hplain : plain zlib maxPacketSize payload = pieces.flatten := by
    rw [plain, Format.encode, hpieces]
  obtain ⟨w, hwrite, hanswered⟩ := write_each_answered aes d.endpoint d.results pieces
  have hdone := hanswered.succeeds h.reliable (by rw [← hplain]; omega)
  obtain ⟨unused, hunused, hsuffix, hcount⟩ := hanswered.goes_on hdone
  have hframe : d.endpoint.write_frame zlib aes (d.results ++ [lastResult]) payload = some w := by
    rw [Transport.write_frame, h.format, hpieces]
    exact hwrite
  obtain ⟨_, hinput, hformat, _⟩ := write_frame_written maxPacketSize hframe
  have hrun : write_frame zlib aes err payload d = .ok () { d with
      endpoint := w.endpoint
      results := w.results.dropLast
      events := d.events ++ [.Frame payload]
      wire := d.wire ++ w.out } := by
    simp only [write_frame, hframe, hdone]
  have hat := (write_frame_triple payload fun _ _ _ => trivial : Triple _ _ _ fun _ _ => True).ok h.toAt hrun
  refine ⟨_, hrun, hat, h.arrivals, ?_, ?_, ?_, hformat.trans h.format⟩
  · have hawaits := h.awaits
    unfold Awaits at hawaits ⊢
    dsimp only
    rw [hinput.buffer, hinput.register, hawaits]
  · intro r hr
    rw [hunused, List.dropLast_concat] at hr
    exact h.reliable r (hsuffix.subset hr)
  · dsimp only
    rw [hunused, List.dropLast_concat]
    rw [← hplain] at hcount
    omega

/-- Encryption is enabled between two frames, and what arrives from there on is
deciphered. -/
theorem Going.encrypt (err : Error → ε) {key iv : Bytes}
    (h : d.Going zlib aes maxPacketSize frames events before after [] spare)
    (hkey : key.length = 16) (hiv : iv.length = 16) :
    ∃ d', enable_encryption err key iv d = .ok () d' ∧
      d'.Going zlib aes maxPacketSize frames (events ++ [.Encrypt ⟨key, hkey⟩ ⟨iv, hiv⟩]) (before ++ after) []
        (decipher aes (some (key, iv)) after.flatten) spare := by
  have hawaits := h.awaits
  unfold Awaits at hawaits
  obtain ⟨hbuffer, hbefore⟩ := List.append_eq_nil_iff.mp hawaits
  have hnothing := eq_nil_of_decipher hbefore
  have henable : d.endpoint.enable_encryption key iv =
      .ok { d.endpoint with encryption := some { key, encrypt_iv := iv, decrypt_iv := iv } } := by
    unfold Transport.enable_encryption new_cipher_state
    rw [if_neg (by simp [hbuffer]), if_neg (by simp [hkey, hiv])]
  have hrun : enable_encryption err key iv d = .ok () { d with
      endpoint := { d.endpoint with encryption := some { key, encrypt_iv := iv, decrypt_iv := iv } }
      events := d.events ++ switchEvents key iv } := by
    simp only [enable_encryption, henable]
  have hat := (enable_encryption_triple hkey hiv fun _ _ _ => trivial : Triple _ _ _ fun _ _ => True).ok h.toAt hrun
  refine ⟨_, hrun, hat, by simp [h.arrivals], ?_, h.reliable, h.spare, h.format⟩
  unfold Awaits
  dsimp only [Transport.read_register]
  rw [hbuffer, List.flatten_append, hnothing]
  rfl

end Progress

end Dialogue

end regiongate.transport
