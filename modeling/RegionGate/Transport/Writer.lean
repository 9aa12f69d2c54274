import RegionGate.Transport.Endpoint

open checked execution framing regiongate.codec

namespace regiongate.transport

/-- One result of the connection's `Write`: how many bytes it took, and its
error. -/
structure WriteResult where
  count : Nat
  err : Option Error
  deriving DecidableEq

/-- What became of a write: the returned count and error, the bytes that reached
the wire, the transport it leaves and the connection's results that were not used up. -/
structure WriteOutcome where
  count : Nat
  err : Option Error
  out : Bytes
  endpoint : Transport
  results : List WriteResult

/-- The loop of `cipherWriter.Write` over what it has encrypted: the bytes that
reached the wire and the error. -/
def write_encrypted : List WriteResult → Bytes → Option (Bytes × Option Error × List WriteResult)
  | results, [] => some ([], none, results)
  | [], _ => none
  | result :: results, encrypted =>
    let taken := encrypted.take result.count
    match result.err with
    | some e => some (taken, some e, results)
    | none =>
      if taken.length = 0 then some ([], some .ShortWrite, results)
      else
        match write_encrypted results (encrypted.drop result.count) with
        | none => none
        | some (more, err, results) => some (taken ++ more, err, results)

namespace Transport

/-- `cipherWriter.Write` on a connection with the given results. The whole of
the data is encrypted before the first byte is written. -/
def write (aes : Aes) (t : Transport) (results : List WriteResult) (data : Bytes) : Option WriteOutcome :=
  match t.encryption with
  | none =>
    match results with
    | [] => none
    | result :: results =>
      some { count := (data.take result.count).length, err := result.err, out := data.take result.count,
             endpoint := t, results }
  | some state =>
    let (encrypted, state) := state.encrypt aes data
    match write_encrypted results encrypted with
    | none => none
    | some (out, err, results) =>
      some { count := if err = none then data.length else out.length, err, out,
             endpoint := { t with encryption := some state }, results }

/-- `writeAll`. Every round that goes on takes at least one byte, so `fuel` is
at most the length of the data. -/
def write_all (aes : Aes) : (fuel : Nat) → Transport → List WriteResult → Bytes → Option WriteOutcome
  | _, t, results, [] => some { count := 0, err := none, out := [], endpoint := t, results }
  | 0, _, _, _ => none
  | fuel + 1, t, results, data =>
    match t.write aes results data with
    | none => none
    | some first =>
      match first.err with
      | some _ => some first
      | none =>
        if first.count = 0 then some { first with err := some .ShortWrite }
        else
          match write_all aes fuel first.endpoint first.results (data.drop first.count) with
          | none => none
          | some rest => some { rest with out := first.out ++ rest.out }

/-- The pieces of a frame one after the other, up to the first error. -/
def write_each (aes : Aes) : Transport → List WriteResult → List Bytes → Option WriteOutcome
  | t, results, [] => some { count := 0, err := none, out := [], endpoint := t, results }
  | t, results, data :: pieces =>
    match t.write_all aes data.length results data with
    | none => none
    | some first =>
      match first.err with
      | some _ => some first
      | none =>
        match write_each aes first.endpoint first.results pieces with
        | none => none
        | some rest => some { rest with out := first.out ++ rest.out }

/-- `WriteFrame`: the writer loop's answer to a request. -/
def write_frame (zlib : Zlib) (aes : Aes) (t : Transport) (results : List WriteResult) (payload : Bytes) :
    Option WriteOutcome :=
  match t.format.frame_writes zlib payload with
  | .error e => some { count := 0, err := some e, out := [], endpoint := t, results }
  | .ok pieces => t.write_each aes results pieces

end Transport

/-- A write from a register on: a beginning of the ciphertext reached the wire,
and all of it when no error was returned, with the register behind it. -/
structure Written (aes : Aes) (t : Transport) (data : Bytes) (w : WriteOutcome) : Prop where
  begun : ∃ n, w.out = (encipher aes t.write_register data).take n
  complete : w.err = none → w.out = encipher aes t.write_register data ∧
    w.endpoint.write_register = t.write_register.past w.out
  format : w.endpoint.format = t.format

section Written

variable {aes : Aes} {t : Transport}

/-- Two writes in a row, the first of them complete. -/
theorem Written.append {xs ys : Bytes} {first rest : WriteOutcome} (hfirst : Written aes t xs first)
    (hdone : first.err = none) (hrest : Written aes first.endpoint ys rest) :
    Written aes t (xs ++ ys) { rest with out := first.out ++ rest.out } := by
  obtain ⟨hout, hregister⟩ := hfirst.complete hdone
  have hcipher : encipher aes t.write_register (xs ++ ys) =
      first.out ++ encipher aes first.endpoint.write_register ys := by
    rw [encipher_append, ← hout, hregister]
  constructor
  case begun =>
    obtain ⟨n, hn⟩ := hrest.begun
    refine ⟨first.out.length + n, ?_⟩
    rw [hcipher, List.take_length_add_append, ← hn]
  case complete =>
    intro herr
    obtain ⟨hall, hpast⟩ := hrest.complete herr
    refine ⟨by rw [hcipher, hall], ?_⟩
    dsimp only
    rw [hpast, hregister, Register.past_append]
  case format => exact hrest.format.trans hfirst.format

/-- A part of the bytes is written, or all of them without an error. -/
theorem write_encrypted_eq {results left : List WriteResult} {encrypted out : Bytes} {err : Option Error}
    (h : write_encrypted results encrypted = some (out, err, left)) :
    (∃ n, out = encrypted.take n) ∧ (err = none → out = encrypted) := by
  induction results generalizing encrypted out with
  | nil =>
    cases encrypted with
    | nil =>
      simp only [write_encrypted, Option.some.injEq, Prod.mk.injEq] at h
      obtain ⟨rfl, _, _⟩ := h
      exact ⟨⟨0, rfl⟩, fun _ => rfl⟩
    | cons b encrypted => simp [write_encrypted] at h
  | cons result results ih =>
    cases encrypted with
    | nil =>
      simp only [write_encrypted, Option.some.injEq, Prod.mk.injEq] at h
      obtain ⟨rfl, _, _⟩ := h
      exact ⟨⟨0, rfl⟩, fun _ => rfl⟩
    | cons b encrypted =>
      simp only [write_encrypted] at h
      cases herr : result.err with
      | some e =>
        simp only [herr, Option.some.injEq, Prod.mk.injEq] at h
        obtain ⟨rfl, rfl, _⟩ := h
        exact ⟨⟨result.count, rfl⟩, by simp⟩
      | none =>
        simp only [herr] at h
        split at h
        · simp only [Option.some.injEq, Prod.mk.injEq] at h
          obtain ⟨rfl, rfl, _⟩ := h
          exact ⟨⟨0, rfl⟩, by simp⟩
        · cases hmore : write_encrypted results ((b :: encrypted).drop result.count) with
          | none => simp [hmore] at h
          | some rest =>
            obtain ⟨more, err', left'⟩ := rest
            simp only [hmore, Option.some.injEq, Prod.mk.injEq] at h
            obtain ⟨rfl, rfl, rfl⟩ := h
            obtain ⟨⟨n, hn⟩, hall⟩ := ih hmore
            refine ⟨⟨result.count + n, ?_⟩, fun hdone => ?_⟩
            · rw [hn, List.take_add]
            · rw [hall hdone, List.take_append_drop]

/-- One `Write` call: a beginning of the ciphertext reached the wire, and when
no error was returned it is the ciphertext of the bytes that it counts. -/
theorem write_eq {results : List WriteResult} {data : Bytes} {w : WriteOutcome}
    (h : t.write aes results data = some w) :
    (∃ n, w.out = (encipher aes t.write_register data).take n) ∧ w.endpoint.format = t.format ∧
      (w.err = none → Written aes t (data.take w.count) w) := by
  have hplain : t.encryption = none → t.write_register = none := by
    intro hnone
    rw [Transport.write_register, hnone]
    rfl
  unfold Transport.write at h
  cases hencryption : t.encryption with
  | none =>
    simp only [hencryption] at h
    cases results with
    | nil => cases h
    | cons result results =>
      obtain rfl := Option.some.inj h
      have hregister := hplain hencryption
      have hcount : data.take (data.take result.count).length = data.take result.count := by
        rw [List.length_take, ← List.take_take, List.take_length]
      refine ⟨⟨result.count, by rw [hregister, encipher_none]⟩, rfl, fun _ => ?_⟩
      refine ⟨⟨result.count, ?_⟩, fun _ => ⟨?_, ?_⟩, rfl⟩
      · rw [hregister, encipher_none, hcount, List.take_take, Nat.min_self]
      · rw [hregister, encipher_none, hcount]
      · rw [hregister, past_none]
  | some state =>
    simp only [hencryption] at h
    obtain ⟨hbytes, hregister, hformat, _⟩ := Transport.cipher_write_eq aes t data
    simp only [Transport.cipher_write, hencryption] at hbytes hregister hformat
    cases hloop : write_encrypted results (state.encrypt aes data).1 with
    | none => simp [hloop] at h
    | some result =>
      obtain ⟨out, err, left⟩ := result
      simp only [hloop, Option.some.injEq] at h
      subst h
      obtain ⟨hbegun, hall⟩ := write_encrypted_eq hloop
      rw [hbytes] at hbegun hall
      refine ⟨hbegun, rfl, fun hdone => ?_⟩
      have hcount : data.take (if err = none then data.length else out.length) = data := by
        rw [if_pos hdone, List.take_length]
      rw [hcount]
      refine ⟨hbegun, fun _ => ⟨hall hdone, ?_⟩, rfl⟩
      rw [hall hdone]
      exact hregister

/-- `writeAll` from any register. -/
theorem write_all_written {fuel : Nat} {results : List WriteResult} {data : Bytes} {w : WriteOutcome}
    (h : t.write_all aes fuel results data = some w) : Written aes t data w := by
  induction fuel generalizing t results data w with
  | zero =>
    cases data with
    | nil =>
      obtain rfl := Option.some.inj h
      exact ⟨⟨0, rfl⟩, fun _ => ⟨rfl, rfl⟩, rfl⟩
    | cons b data => simp [Transport.write_all] at h
  | succ fuel ih =>
    cases data with
    | nil =>
      obtain rfl := Option.some.inj h
      exact ⟨⟨0, rfl⟩, fun _ => ⟨rfl, rfl⟩, rfl⟩
    | cons b data =>
      simp only [Transport.write_all] at h
      cases hwrite : t.write aes results (b :: data) with
      | none => simp [hwrite] at h
      | some first =>
        obtain ⟨hbegun, hformat, hpart⟩ := write_eq hwrite
        cases herr : first.err with
        | some e =>
          simp only [hwrite, herr, Option.some.injEq] at h
          subst h
          exact ⟨hbegun, by simp [herr], hformat⟩
        | none =>
          simp only [hwrite, herr] at h
          split at h
          · obtain rfl := Option.some.inj h
            exact ⟨hbegun, by simp, hformat⟩
          · cases hrest : Transport.write_all aes fuel first.endpoint first.results
              ((b :: data).drop first.count) with
            | none => simp [hrest] at h
            | some rest =>
              simp only [hrest, Option.some.injEq] at h
              subst h
              have hboth := (hpart herr).append herr (ih hrest)
              rwa [List.take_append_drop] at hboth

/-- The writes of a frame put a part of it on the wire, or all of it without an error. -/
theorem write_each_written {results : List WriteResult} {pieces : List Bytes} {w : WriteOutcome}
    (h : t.write_each aes results pieces = some w) : Written aes t pieces.flatten w := by
  induction pieces generalizing t results w with
  | nil =>
    obtain rfl := Option.some.inj h
    exact ⟨⟨0, rfl⟩, fun _ => ⟨rfl, rfl⟩, rfl⟩
  | cons data pieces ih =>
    simp only [Transport.write_each] at h
    cases hwrite : t.write_all aes data.length results data with
    | none => simp [hwrite] at h
    | some first =>
      have hfirst := write_all_written hwrite
      cases herr : first.err with
      | some e =>
        simp only [hwrite, herr, Option.some.injEq] at h
        subst h
        obtain ⟨n, hn⟩ := hfirst.begun
        refine ⟨⟨min n data.length, ?_⟩, by simp [herr], hfirst.format⟩
        rw [List.flatten_cons, encipher_append, List.take_append_of_le_length (by simp), hn]
        by_cases hshort : n ≤ data.length
        · rw [Nat.min_eq_left hshort]
        · rw [Nat.min_eq_right (by omega), List.take_of_length_le (by simp; omega),
            List.take_of_length_le (by simp)]
      | none =>
        simp only [hwrite, herr] at h
        cases hrest : Transport.write_each aes first.endpoint first.results pieces with
        | none => simp [hrest] at h
        | some rest =>
          simp only [hrest, Option.some.injEq] at h
          subst h
          rw [List.flatten_cons]
          exact hfirst.append herr (ih hrest)

end Written

/-- A transport whose connection may fail, with what reached the wire since a
frame boundary and the answers of `WriteFrame`. -/
structure Sender where
  endpoint : Transport
  wire : Bytes
  answers : List (Bytes × Option Error)

/-- A `WriteFrame` call with the results of the connection's writes. -/
structure WriteCall where
  payload : Bytes
  results : List WriteResult

namespace Sender

/-- A transport that has written nothing. -/
def start (t : Transport) : Sender where
  endpoint := t
  wire := []
  answers := []

/-- The next request of the writer loop, with the results of its writes; `none` if
these are not as many as it makes. -/
def step (zlib : Zlib) (aes : Aes) (s : Sender) (call : WriteCall) : Option Sender :=
  match s.endpoint.write_frame zlib aes call.results call.payload with
  | none => none
  | some w =>
    some { endpoint := w.endpoint, wire := s.wire ++ w.out, answers := s.answers ++ [(call.payload, w.err)] }

/-- The payloads that were reported as written. -/
def reported (s : Sender) : List Bytes :=
  s.answers.filterMap fun answer => if answer.2 = none then some answer.1 else none

end Sender

/-- The frame of a `ReadFrame` call that succeeded. -/
def received : Outcome Error Bytes → Option Bytes
  | .Ok payload => some payload
  | _ => none

/-- What a peer makes of the bytes on the wire, from a frame boundary with the
given format and register on: the frames, and the bytes from the first frame
on that is not complete or not accepted. -/
def peer (zlib : Zlib) (aes : Aes) (format : Format) (register : Register) (wire : Bytes) :
    List Bytes × Bytes :=
  decodeAll (format.read_byte zlib) received Framer.read_start (decipher aes register wire)

/-- The stream that began with the transport `t` is intact: the wire ends at a
frame boundary, and the encryption register stands at the bytes that were
sent. -/
def Sender.intact (zlib : Zlib) (aes : Aes) (t : Transport) (s : Sender) : Bool :=
  (peer zlib aes t.format t.write_register s.wire).2 = [] ∧
    s.endpoint.write_register = t.write_register.past s.wire

section Run

variable {zlib : Zlib} {aes : Aes} {format : Format} {register : Register} {limit : Nat}

/-- What follows a frame boundary is read from the register that the wire before
it leaves. -/
theorem peer_append {wire out : Bytes} (hboundary : (peer zlib aes format register wire).2 = []) :
    (peer zlib aes format register (wire ++ out)).1 =
      (peer zlib aes format register wire).1 ++ (peer zlib aes format (register.past wire) out).1 := by
  unfold peer at hboundary ⊢
  rw [decipher_append, decodeAll_append hboundary]

/-- A whole frame is read as such. -/
theorem peer_frame {payload : Bytes} {pieces : List Bytes} (hvalid : format.Valid limit)
    (hpieces : format.frame_writes zlib payload = .ok pieces) :
    (peer zlib aes format register (encipher aes register pieces.flatten)).1 = [payload] := by
  have hcomplete := Format.complete_frame hvalid hpieces
  have hreceived : received (.Ok payload) = some payload := rfl
  unfold peer
  rw [decipher_encipher, hcomplete.decodeAll hreceived]

variable {t : Transport} {s s' : Sender}

/-- A call on an intact stream: what it reports as written, the peer reads. -/
theorem step_reported {call : WriteCall} (hvalid : t.format.Valid limit)
    (hformat : s.endpoint.format = t.format) (hintact : s.intact zlib aes t = true)
    (hreported : s.reported.Sublist (peer zlib aes t.format t.write_register s.wire).1)
    (hstep : s.step zlib aes call = some s') :
    s'.endpoint.format = t.format ∧
      s'.reported.Sublist (peer zlib aes t.format t.write_register s'.wire).1 := by
  obtain ⟨hboundary, hregister⟩ := of_decide_eq_true hintact
  unfold Sender.step at hstep
  cases hwrite : s.endpoint.write_frame zlib aes call.results call.payload with
  | none => simp [hwrite] at hstep
  | some w =>
    simp only [hwrite, Option.some.injEq] at hstep
    subst hstep
    unfold Transport.write_frame at hwrite
    rw [hformat] at hwrite
    cases hpieces : t.format.frame_writes zlib call.payload with
    | error e =>
      simp only [hpieces, Option.some.injEq] at hwrite
      subst hwrite
      refine ⟨hformat, ?_⟩
      simpa [Sender.reported] using hreported
    | ok pieces =>
      simp only [hpieces] at hwrite
      have hwritten := write_each_written hwrite
      refine ⟨hwritten.format.trans hformat, ?_⟩
      dsimp only
      rw [peer_append hboundary]
      cases herr : w.err with
      | some e =>
        have hsame : Sender.reported ⟨w.endpoint, s.wire ++ w.out, s.answers ++ [(call.payload, some e)]⟩ =
            s.reported := by
          simp [Sender.reported]
        rw [hsame]
        exact hreported.trans (List.sublist_append_left _ _)
      | none =>
        obtain ⟨hout, _⟩ := hwritten.complete herr
        have hnew : Sender.reported ⟨w.endpoint, s.wire ++ w.out, s.answers ++ [(call.payload, none)]⟩ =
            s.reported ++ [call.payload] := by
          simp [Sender.reported]
        rw [hnew, hout, hregister, peer_frame hvalid hpieces]
        exact hreported.append (List.Sublist.refl _)

end Run

/-- A frame that is reported as written is read by the peer, in order: this
holds in every run in which `WriteFrame` is called only while the stream is
intact, whatever the connection's writes return. -/
theorem reported_frames_decodable {zlib : Zlib} {aes : Aes} {t : Transport} {limit : Nat}
    {calls : List WriteCall} {s : Sender} (hvalid : t.format.Valid limit)
    (run : Runs (Sender.step zlib aes) (fun s _ => s.intact zlib aes t = true) (Sender.start t) calls s) :
    s.reported.Sublist (peer zlib aes t.format t.write_register s.wire).1 := by
  have hinv : s.endpoint.format = t.format ∧
      s.reported.Sublist (peer zlib aes t.format t.write_register s.wire).1 := by
    apply run.invariant
    · exact ⟨rfl, List.nil_sublist _⟩
    · rintro s call s' ⟨hformat, hreported⟩ hintact hstep
      exact step_reported hvalid hformat hintact hreported hstep
  exact hinv.2

/-- The second write fails before its first byte, which leaves the plain stream
intact. -/
theorem reported_frames_decodable_failed_write :
    ∃ s, Runs (Sender.step storedZlib fun _ _ => 0)
        (fun s _ => s.intact storedZlib (fun _ _ => 0) (Transport.new 16) = true)
        (Sender.start (.new 16))
        [⟨[1, 2], [⟨1, none⟩, ⟨1, none⟩, ⟨1, none⟩]⟩, ⟨[3], [⟨0, some .Write⟩]⟩,
         ⟨[4], [⟨1, none⟩, ⟨1, none⟩]⟩] s ∧
      s.reported = [[1, 2], [4]] ∧
      s.reported.Sublist (peer storedZlib (fun _ _ => 0) (Transport.new 16).format none s.wire).1 := by
  have hreached : ∃ s, Runs (Sender.step storedZlib fun _ _ => 0)
      (fun s _ => s.intact storedZlib (fun _ _ => 0) (Transport.new 16) = true)
      (Sender.start (.new 16))
      [⟨[1, 2], [⟨1, none⟩, ⟨1, none⟩, ⟨1, none⟩]⟩, ⟨[3], [⟨0, some .Write⟩]⟩,
       ⟨[4], [⟨1, none⟩, ⟨1, none⟩]⟩] s ∧ decide (s.reported = [[1, 2], [4]]) = true :=
    Runs.of_exec
      (fun (s : Sender) (_ : WriteCall)
        (hok : s.intact storedZlib (fun _ _ => 0) (Transport.new 16) = true) => hok) _ (by decide +kernel)
  obtain ⟨s, run, hobserved⟩ := hreached
  have hvalid : (Transport.new 16).format.Valid 16 := ⟨by decide, rfl, by simp [Transport.new]⟩
  exact ⟨s, run, of_decide_eq_true hobserved, reported_frames_decodable hvalid run⟩

/-- A write deadline expires in the middle of a payload. The next call reports
its frame as written, and the peer reads its header as the end of the torn
frame. -/
theorem frame_reported_on_torn_stream :
    ∃ s, Reaches (Sender.step storedZlib fun _ _ => 0) (Sender.start (.new 16))
        [⟨[0x61, 0x62], [⟨1, none⟩, ⟨1, some .DeadlineExceeded⟩]⟩, ⟨[0x63], [⟨1, none⟩, ⟨1, none⟩]⟩] s ∧
      s.answers = [([0x61, 0x62], some .DeadlineExceeded), ([0x63], none)] ∧
      (peer storedZlib (fun _ _ => 0) (Transport.new 16).format none s.wire).1 = [[0x61, 0x01]] := by
  have hreached : ∃ s, Reaches (Sender.step storedZlib fun _ _ => 0) (Sender.start (.new 16))
      [⟨[0x61, 0x62], [⟨1, none⟩, ⟨1, some .DeadlineExceeded⟩]⟩, ⟨[0x63], [⟨1, none⟩, ⟨1, none⟩]⟩] s ∧
      decide (s.answers = [([0x61, 0x62], some .DeadlineExceeded), ([0x63], none)] ∧
        (peer storedZlib (fun _ _ => 0) (Transport.new 16).format none s.wire).1 = [[0x61, 0x01]]) = true :=
    Reaches.of_exec _ (by decide +kernel)
  obtain ⟨s, run, hobserved⟩ := hreached
  obtain ⟨hanswers, hpeer⟩ := of_decide_eq_true hobserved
  exact ⟨s, run, hanswers, hpeer⟩

end regiongate.transport
