import RegionGate.Transport.Switches

open checked execution framing regiongate.codec

namespace regiongate.transport

/-- What one end did at a point of the plan. -/
inductive Event where
  | Frame (payload : Bytes)
  | Compress (threshold : Nat)
  | Encrypt (key iv : Block)

/-- What a plan says of an event. -/
def Event.item : Event → PlanItem
  | .Frame _ => .Frame
  | .Compress threshold => .Compress threshold
  | .Encrypt key iv => .Encrypt key iv

/-- The payload of a frame. -/
def Event.payload : Event → Option Bytes
  | .Frame payload => some payload
  | _ => none

/-- The state of one direction of the stream at a frame boundary. -/
structure Line where
  format : Format
  register : Register

/-- The format after `EnableCompression`. -/
def Format.compressed (maxPacketSize : Int) (format : Format) (threshold : Nat) : Format :=
  match new_compression_state threshold maxPacketSize with
  | .ok compression => { format with compression := some compression }
  | .error _ => format

/-- The lines of the two ends. -/
def Transport.write_line (t : Transport) : Line := ⟨t.format, t.write_register⟩

/-- How the reader takes what comes next. -/
def Transport.read_line (t : Transport) : Line := ⟨t.format, t.read_register⟩

namespace Line

/-- The bytes that an event puts on the wire. -/
def bytes (zlib : Zlib) (aes : Aes) (line : Line) : Event → Bytes
  | .Frame payload => encipher aes line.register (line.format.encode zlib payload)
  | _ => []

/-- The line after an event. -/
def after (zlib : Zlib) (aes : Aes) (maxPacketSize : Int) (line : Line) : Event → Line
  | .Frame payload =>
    { line with register := line.register.past (line.bytes zlib aes (.Frame payload)) }
  | .Compress threshold => { line with format := line.format.compressed maxPacketSize threshold }
  | .Encrypt key iv => { line with register := some (key.val, iv.val) }

/-- The bytes of several events, one after the other. -/
def stream (zlib : Zlib) (aes : Aes) (maxPacketSize : Int) : Line → List Event → Bytes
  | _, [] => []
  | line, e :: rest =>
    line.bytes zlib aes e ++ stream zlib aes maxPacketSize (line.after zlib aes maxPacketSize e) rest

/-- The switches to encryption, with their places in the stream counted from
`base`. -/
def switches (zlib : Zlib) (aes : Aes) (maxPacketSize : Int) : Nat → Line → List Event → List Switch
  | _, _, [] => []
  | base, line, .Encrypt key iv :: rest =>
    ⟨base, key, iv⟩ :: switches zlib aes maxPacketSize base (line.after zlib aes maxPacketSize (.Encrypt key iv)) rest
  | base, line, e :: rest =>
    switches zlib aes maxPacketSize (base + (line.bytes zlib aes e).length)
      (line.after zlib aes maxPacketSize e) rest

end Line

section Stream

variable {zlib : Zlib} {aes : Aes} {maxPacketSize : Int} {line : Line}

/-- What one more event at a place adds to the switches. -/
def Event.switch (place : Nat) : Event → Option Switch
  | .Encrypt key iv => some ⟨place, key, iv⟩
  | _ => none

/-- A stream goes on where its line has come to. -/
theorem stream_append (events more : List Event) :
    line.stream zlib aes maxPacketSize (events ++ more) =
      line.stream zlib aes maxPacketSize events ++
        (events.foldl (Line.after zlib aes maxPacketSize) line).stream zlib aes maxPacketSize more := by
  induction events generalizing line with
  | nil => rfl
  | cons e rest ih =>
    rw [List.cons_append, Line.stream, ih, Line.stream, List.foldl_cons, List.append_assoc]

theorem switches_snoc (base : Nat) (events : List Event) (e : Event) :
    line.switches zlib aes maxPacketSize base (events ++ [e]) =
      line.switches zlib aes maxPacketSize base events ++
        (e.switch (base + (line.stream zlib aes maxPacketSize events).length)).toList := by
  induction events generalizing line base with
  | nil => cases e <;> rfl
  | cons first rest ih =>
    cases first with
    | Frame payload =>
      simp only [List.cons_append, Line.switches, ih, Line.stream, List.length_append, Nat.add_assoc]
    | Compress threshold =>
      simp only [List.cons_append, Line.switches, ih, Line.stream, List.length_append, Nat.add_assoc]
    | Encrypt key iv =>
      simp only [List.cons_append, Line.switches, ih, Line.stream, Line.bytes, List.length_append,
        List.length_nil, Nat.zero_add]

theorem compressed_valid {format : Format} (hvalid : format.Valid (packet_limit maxPacketSize))
    (threshold : Nat) : (format.compressed maxPacketSize threshold).Valid (packet_limit maxPacketSize) := by
  unfold Format.compressed
  cases hstate : new_compression_state threshold maxPacketSize with
  | error e => exact hvalid
  | ok compression =>
    refine ⟨hvalid.small, hvalid.framer, fun c hc => ?_⟩
    obtain rfl := Option.some.inj hc
    exact new_compression_state_sized hstate hvalid.small

theorem after_valid {e : Event} (hvalid : line.format.Valid (packet_limit maxPacketSize)) :
    (line.after zlib aes maxPacketSize e).format.Valid (packet_limit maxPacketSize) := by
  cases e with
  | Frame payload => exact hvalid
  | Compress threshold => exact compressed_valid hvalid threshold
  | Encrypt key iv => exact hvalid

end Stream

/-- The payloads that the plain frames of a run may have. -/
def Fits (maxPacketSize : Int) (payload : Bytes) : Prop :=
  0 < payload.length ∧ payload.length ≤ packet_limit maxPacketSize

/-- How the reader stands to the writer. `line` is the line at the reader's last
frame boundary and `backlog` what the writer has done since; where the
reader has switched first, `ahead` is what the writer still has to do. `got`
are the bytes that the reader has taken from the wire since its boundary,
which stands at the place `base` of the stream. -/
structure Synced (zlib : Zlib) (aes : Aes) (maxPacketSize : Int) (s : Joined) (line : Line)
    (backlog ahead : List Event) (got : Bytes) (base : Nat) : Prop where
  plans : backlog.map Event.item ++ s.writer_plan = ahead.map Event.item ++ s.reader_plan
  exclusive : backlog = [] ∨ ahead = []
  switchesOnly : ∀ e ∈ ahead, e.payload = none
  valid : line.format.Valid (packet_limit maxPacketSize)
  writerValid : s.writer.format.Valid (packet_limit maxPacketSize)
  lines : ahead.foldl (Line.after zlib aes maxPacketSize) s.writer.write_line =
    backlog.foldl (Line.after zlib aes maxPacketSize) line
  writerLimit : s.writer.max_packet_size = maxPacketSize
  readerLimit : s.reader.max_packet_size = maxPacketSize
  payloads : ∃ done : List Bytes, s.written.map Prod.snd = done ++ backlog.filterMap Event.payload ∧
    s.results = done.map .Ok
  fits : ∀ payload ∈ backlog.filterMap Event.payload, Fits maxPacketSize payload
  wire : line.stream zlib aes maxPacketSize backlog = got ++ s.wire
  readLine : s.reader.read_line = ⟨line.format, line.register.past got⟩
  taken : s.taken = base + got.length
  sent : s.sent = s.taken + s.wire.length
  offsets : s.encrypted_at ++ ahead.filterMap (Event.switch s.sent) =
    s.decrypted_at ++ line.switches zlib aes maxPacketSize base backlog

/-- What the reader has made of the bytes it has taken: a frame in progress has
used up `pre`, and the rest is buffered. -/
structure Reading (zlib : Zlib) (aes : Aes) (s : Joined) (line : Line) (pre got : Bytes) : Prop where
  plain : pre ++ s.reader.buffer = decipher aes line.register got
  idle : s.reading = none → pre = []
  busy : ∀ format state, s.reading = some (format, state) →
    format = line.format ∧ feed (format.read_byte zlib) Framer.read_start pre = .inl state ∧
      s.reader.buffer = [] ∧ ∃ rest, s.reader_plan = .Frame :: rest

/-- The two ends agree in some way on the state of the stream. -/
def Agreed (zlib : Zlib) (aes : Aes) (maxPacketSize : Int) (s : Joined) : Prop :=
  ∃ line backlog ahead pre got base, Synced zlib aes maxPacketSize s line backlog ahead got base ∧
    Reading zlib aes s line pre got

section Step

variable {zlib : Zlib} {aes : Aes} {maxPacketSize : Int} {s : Joined} {line : Line}
  {backlog ahead : List Event} {pre got : Bytes} {base : Nat}

/-- With nothing left of the backlog there is nothing on the wire. -/
theorem Synced.drained (h : Synced zlib aes maxPacketSize s line [] ahead got base) :
    got = [] ∧ s.wire = [] :=
  List.append_eq_nil_iff.mp h.wire.symm

/-- The writer can write a frame only when the reader is not ahead. -/
theorem Synced.behind {rest : List PlanItem} (h : Synced zlib aes maxPacketSize s line backlog ahead got base)
    (hplan : s.writer_plan = .Frame :: rest) : ahead = [] := by
  obtain rfl | hahead := h.exclusive
  · cases ahead with
    | nil => rfl
    | cons e ahead =>
      have hplans := h.plans
      rw [hplan] at hplans
      have hitem : Event.item e = .Frame := by
        simpa using (List.cons.inj hplans).1.symm
      have hswitch := h.switchesOnly e (by simp)
      cases e <;> simp [Event.item, Event.payload] at hitem hswitch
  · exact hahead

/-- The next event of a reader that is behind is the next item of its plan. -/
theorem Synced.next {e : Event} {item : PlanItem} {rest : List PlanItem}
    (h : Synced zlib aes maxPacketSize s line (e :: backlog) ahead got base)
    (hplan : s.reader_plan = item :: rest) :
    ahead = [] ∧ e.item = item ∧ backlog.map Event.item ++ s.writer_plan = rest := by
  obtain hempty | rfl := h.exclusive
  · cases hempty
  · have hplans := h.plans
    rw [hplan] at hplans
    obtain ⟨hitem, hrest⟩ := List.cons.inj hplans
    exact ⟨rfl, hitem, hrest⟩

/-- The writer's next event, when it is behind the reader, is one the reader has
made already. -/
theorem Synced.catchUp {item : PlanItem} {rest : List PlanItem} {e : Event}
    (h : Synced zlib aes maxPacketSize s line backlog (e :: ahead) got base)
    (hplan : s.writer_plan = item :: rest) :
    backlog = [] ∧ e.item = item ∧ rest = ahead.map Event.item ++ s.reader_plan := by
  obtain rfl | hempty := h.exclusive
  · have hplans := h.plans
    rw [hplan] at hplans
    obtain ⟨hitem, hrest⟩ := List.cons.inj hplans
    exact ⟨rfl, hitem.symm, hrest⟩
  · cases hempty

theorem Event.eq_of_item {e other : Event} (hitem : other.item = e.item) (hswitch : e.payload = none) :
    other = e := by
  cases e with
  | Frame payload => cases hswitch
  | Compress threshold => cases other <;> simp_all [Event.item]
  | Encrypt key iv => cases other <;> simp_all [Event.item]

theorem bytes_switch {e : Event} (hswitch : e.payload = none) : line.bytes zlib aes e = [] := by
  cases e with
  | Frame payload => cases hswitch
  | Compress threshold => rfl
  | Encrypt key iv => rfl

/-- The writer writes a frame. -/
theorem Synced.served {payload : Bytes} {caller : Nat} {writes : List Bytes} {rest : List PlanItem}
    {requests : List (Nat × Bytes)}
    (h : Synced zlib aes maxPacketSize s line backlog ahead got base)
    (hplan : s.writer_plan = .Frame :: rest) (hfits : Fits maxPacketSize payload)
    (hwrites : s.writer.format.frame_writes zlib payload = .ok writes) :
    Synced zlib aes maxPacketSize
      { s with
        writer := (s.writer.write_pieces aes writes).2
        writer_plan := rest
        requests
        written := s.written ++ [(caller, payload)]
        wire := s.wire ++ (s.writer.write_pieces aes writes).1
        clear := s.clear ++ writes.flatten
        stream := s.stream ++ (s.writer.write_pieces aes writes).1
        sent := s.sent + (s.writer.write_pieces aes writes).1.length }
      line (backlog ++ [.Frame payload]) ahead got base := by
  obtain rfl := h.behind hplan
  obtain ⟨hbytes, hregister, hformat, hlimit, _⟩ := Transport.write_pieces_eq aes s.writer writes
  have hlines : s.writer.write_line = backlog.foldl (Line.after zlib aes maxPacketSize) line := h.lines
  have hencode : s.writer.format.encode zlib payload = writes.flatten := by
    unfold Format.encode
    rw [hwrites]
  have hframe : (s.writer.write_pieces aes writes).1 = s.writer.write_line.bytes zlib aes (.Frame payload) := by
    rw [hbytes]
    simp only [Line.bytes, Transport.write_line, hencode]
  obtain ⟨done, hwritten, hresults⟩ := h.payloads
  constructor
  case plans =>
    have hplans := h.plans
    rw [hplan] at hplans
    simpa [Event.item] using hplans
  case exclusive => exact .inr rfl
  case switchesOnly => exact h.switchesOnly
  case valid => exact h.valid
  case writerValid =>
    dsimp only
    rw [hformat]
    exact h.writerValid
  case lines =>
    rw [List.foldl_append, ← hlines]
    simp only [List.foldl_nil, List.foldl_cons, Line.after, ← hframe]
    simp only [Transport.write_line, hformat, hregister, hbytes]
  case writerLimit => exact hlimit.trans h.writerLimit
  case readerLimit => exact h.readerLimit
  case payloads => exact ⟨done, by simp [hwritten, Event.payload], hresults⟩
  case fits =>
    intro other hother
    rw [List.filterMap_append, List.mem_append] at hother
    obtain hother | hother := hother
    · exact h.fits other hother
    · obtain rfl : other = payload := by simpa [Event.payload] using hother
      exact hfits
  case wire =>
    rw [stream_append, ← hlines, h.wire, hframe]
    simp [Line.stream]
  case readLine => exact h.readLine
  case taken => exact h.taken
  case sent =>
    have hsent := h.sent
    simp only [List.length_append]
    omega
  case offsets =>
    have hoffsets := h.offsets
    rw [switches_snoc]
    simpa [Event.switch] using hoffsets

/-- The writer makes a switch: one more event of the backlog, or one that the
reader has made already. -/
theorem Synced.writerSwitch {e : Event} {writer : Transport} {rest : List PlanItem} {places : List Switch}
    (h : Synced zlib aes maxPacketSize s line backlog ahead got base)
    (hplan : s.writer_plan = e.item :: rest) (hswitch : e.payload = none)
    (hline : writer.write_line = s.writer.write_line.after zlib aes maxPacketSize e)
    (hlimit : writer.max_packet_size = maxPacketSize)
    (hplaces : places = s.encrypted_at ++ (e.switch s.sent).toList) :
    ∃ backlog ahead, Synced zlib aes maxPacketSize
      { s with writer, writer_plan := rest, encrypted_at := places } line backlog ahead got base := by
  subst hplaces
  obtain ⟨done, hwritten, hresults⟩ := h.payloads
  have hvalid : writer.format.Valid (packet_limit maxPacketSize) := by
    have hformat : writer.format = (s.writer.write_line.after zlib aes maxPacketSize e).format :=
      congrArg Line.format hline
    rw [hformat]
    exact after_valid h.writerValid
  cases ahead with
  | nil =>
    have hlines : s.writer.write_line = backlog.foldl (Line.after zlib aes maxPacketSize) line := h.lines
    refine ⟨backlog ++ [e], [], ?_⟩
    constructor
    case plans =>
      have hplans := h.plans
      rw [hplan] at hplans
      simpa using hplans
    case exclusive => exact .inr rfl
    case switchesOnly => exact h.switchesOnly
    case valid => exact h.valid
    case writerValid => exact hvalid
    case lines =>
      rw [List.foldl_append, ← hlines]
      exact hline
    case writerLimit => exact hlimit
    case readerLimit => exact h.readerLimit
    case payloads => exact ⟨done, by simp [hwritten, hswitch], hresults⟩
    case fits =>
      intro other hother
      exact h.fits other (by simpa [hswitch] using hother)
    case wire =>
      rw [stream_append]
      simpa [Line.stream, bytes_switch hswitch] using h.wire
    case readLine => exact h.readLine
    case taken => exact h.taken
    case sent => exact h.sent
    case offsets =>
      have hplace : base + (line.stream zlib aes maxPacketSize backlog).length = s.sent := by
        rw [h.wire, h.sent, h.taken, List.length_append, Nat.add_assoc]
      have hoffsets := h.offsets
      rw [switches_snoc, hplace]
      simp only [List.filterMap_nil, List.append_nil] at hoffsets ⊢
      rw [hoffsets, List.append_assoc]
  | cons first ahead =>
    obtain ⟨rfl, hitem, hrest⟩ := h.catchUp hplan
    obtain rfl := Event.eq_of_item hitem hswitch
    refine ⟨[], ahead, ?_⟩
    constructor
    case plans => exact hrest
    case exclusive => exact .inl rfl
    case switchesOnly => exact fun other hother => h.switchesOnly other (List.mem_cons_of_mem _ hother)
    case valid => exact h.valid
    case writerValid => exact hvalid
    case lines =>
      rw [hline]
      exact h.lines
    case writerLimit => exact hlimit
    case readerLimit => exact h.readerLimit
    case payloads => exact ⟨done, hwritten, hresults⟩
    case fits => exact h.fits
    case wire => exact h.wire
    case readLine => exact h.readLine
    case taken => exact h.taken
    case sent => exact h.sent
    case offsets =>
      have hoffsets := h.offsets
      rw [List.filterMap_cons] at hoffsets
      cases hplace : first.switch s.sent with
      | none => simpa [hplace] using hoffsets
      | some place => simpa [hplace] using hoffsets

/-- The reader makes a switch at its frame boundary: the next event of the
backlog, or one that the writer still has to make. -/
theorem Synced.readerSwitch {e : Event} {reader : Transport} {rest : List PlanItem} {places : List Switch}
    (h : Synced zlib aes maxPacketSize s line backlog ahead got base)
    (hplan : s.reader_plan = e.item :: rest) (hswitch : e.payload = none)
    (hline : reader.read_line =
      ⟨(line.after zlib aes maxPacketSize e).format, (line.after zlib aes maxPacketSize e).register.past got⟩)
    (hlimit : reader.max_packet_size = maxPacketSize)
    (hempty : (e.switch base).isSome → got = [])
    (hplaces : places = s.decrypted_at ++ (e.switch s.taken).toList) :
    ∃ backlog ahead, Synced zlib aes maxPacketSize
      { s with reader, reader_plan := rest, decrypted_at := places }
      (line.after zlib aes maxPacketSize e) backlog ahead got base := by
  subst hplaces
  obtain ⟨done, hwritten, hresults⟩ := h.payloads
  cases backlog with
  | cons first backlog =>
    obtain ⟨rfl, hitem, hrest⟩ := h.next hplan
    obtain rfl := Event.eq_of_item hitem hswitch
    refine ⟨backlog, [], ?_⟩
    constructor
    case plans => exact hrest
    case exclusive => exact .inr rfl
    case switchesOnly => exact h.switchesOnly
    case valid => exact after_valid h.valid
    case writerValid => exact h.writerValid
    case lines => exact h.lines
    case writerLimit => exact h.writerLimit
    case readerLimit => exact hlimit
    case payloads => exact ⟨done, by simpa [hswitch] using hwritten, hresults⟩
    case fits =>
      intro other hother
      exact h.fits other (by simpa [hswitch] using hother)
    case wire =>
      have hwire := h.wire
      rwa [Line.stream, bytes_switch hswitch, List.nil_append] at hwire
    case readLine => exact hline
    case taken => exact h.taken
    case sent => exact h.sent
    case offsets =>
      have hoffsets := h.offsets
      simp only [List.filterMap_nil, List.append_nil] at hoffsets ⊢
      rw [hoffsets]
      cases first with
      | Frame payload => cases hswitch
      | Compress threshold => simp [Line.switches, Line.bytes, Event.switch]
      | Encrypt key iv =>
        have hgot := hempty rfl
        have htaken := h.taken
        rw [hgot, List.length_nil, Nat.add_zero] at htaken
        simp [Line.switches, Event.switch, htaken]
  | nil =>
    obtain ⟨rfl, hwire⟩ := h.drained
    refine ⟨[], ahead ++ [e], ?_⟩
    constructor
    case plans =>
      have hplans := h.plans
      rw [hplan] at hplans
      simpa using hplans
    case exclusive => exact .inl rfl
    case switchesOnly =>
      intro other hother
      obtain hother | hother := List.mem_append.mp hother
      · exact h.switchesOnly other hother
      · obtain rfl := List.mem_singleton.mp hother
        exact hswitch
    case valid => exact after_valid h.valid
    case writerValid => exact h.writerValid
    case lines =>
      rw [List.foldl_append, h.lines]
      rfl
    case writerLimit => exact h.writerLimit
    case readerLimit => exact hlimit
    case payloads => exact ⟨done, hwritten, hresults⟩
    case fits => exact h.fits
    case wire =>
      rw [hwire]
      rfl
    case readLine => exact hline
    case taken => exact h.taken
    case sent => exact h.sent
    case offsets =>
      have hoffsets := h.offsets
      have hplace : s.sent = s.taken := by
        have hsent := h.sent
        rwa [hwire] at hsent
      rw [hplace] at hoffsets ⊢
      rw [List.filterMap_append, ← List.append_assoc, hoffsets]
      cases hplaced : e.switch s.taken <;> simp [Line.switches, hplaced]

/-- Where the bytes that the reader has taken stand to the first frame of the
backlog: they are not all of it yet, or they reach beyond it. -/
private theorem frame_cases {code more wire : Bytes} {register : Register}
    (hwire : encipher aes register code ++ more = got ++ wire) :
    (∃ short, got.length < code.length ∧ decipher aes register got = short ∧ short <+: code ∧
        short.length < code.length) ∨
      ∃ beyond, got = encipher aes register code ++ beyond ∧ more = beyond ++ wire ∧
        decipher aes register got =
          code ++ decipher aes (register.past (encipher aes register code)) beyond := by
  by_cases hlength : got.length < code.length
  · left
    have hgot : got = (encipher aes register code).take got.length := by
      have htake := congrArg (List.take got.length) hwire
      rw [List.take_left, List.take_append_of_le_length (by rw [encipher_length]; omega)] at htake
      exact htake.symm
    refine ⟨code.take got.length, hlength, ?_, List.take_prefix _ _, ?_⟩
    · conv_lhs => rw [hgot]
      exact decipher_encipher_take register code got.length
    · rw [List.length_take]
      omega
  · right
    have hpart : encipher aes register code <+: got ++ wire := ⟨more, hwire⟩
    have hprefix : encipher aes register code <+: got :=
      List.prefix_of_prefix_length_le hpart (List.prefix_append got wire)
        (by rw [encipher_length]; omega)
    obtain ⟨beyond, hbeyond⟩ := hprefix
    refine ⟨beyond, hbeyond.symm, ?_, ?_⟩
    · rw [← hbeyond, List.append_assoc] at hwire
      exact List.append_cancel_left hwire
    · rw [← hbeyond, decipher_append, decipher_encipher]

/-- The reader goes on with its frame: it still waits for more of it, or has
read the next frame of the backlog and leaves the rest in its buffer. -/
theorem Synced.consume {state : ReadState} {data : Bytes} {rest : List PlanItem}
    (h : Synced zlib aes maxPacketSize s line backlog ahead got base)
    (hplan : s.reader_plan = .Frame :: rest)
    (hplain : pre ++ data = decipher aes line.register got)
    (hstate : feed (line.format.read_byte zlib) Framer.read_start pre = .inl state) :
    Agreed zlib aes maxPacketSize (s.consume zlib line.format state data) := by
  have hfeed : feed (line.format.read_byte zlib) state data =
      feed (line.format.read_byte zlib) Framer.read_start (decipher aes line.register got) := by
    rw [← hplain, feed_append_of_waiting hstate]
  -- as long as there is no result, the ends stand as before
  have hwaits : ∀ next, feed (line.format.read_byte zlib) state data = .inl next →
      Agreed zlib aes maxPacketSize (s.consume zlib line.format state data) := by
    intro next hnext
    refine ⟨line, backlog, ahead, pre ++ data, got, base, ?_, ?_⟩
    · unfold Joined.consume
      rw [hnext]
      exact ⟨h.plans, h.exclusive, h.switchesOnly, h.valid, h.writerValid, h.lines, h.writerLimit,
        h.readerLimit, h.payloads, h.fits, h.wire, h.readLine, h.taken, h.sent, h.offsets⟩
    · unfold Joined.consume
      rw [hnext]
      refine ⟨by simpa using hplain, by simp, fun format state' hreading => ?_⟩
      simp only [Option.some.injEq, Prod.mk.injEq] at hreading
      obtain ⟨rfl, rfl⟩ := hreading
      exact ⟨rfl, by rw [feed_append_of_waiting hstate, hnext], rfl, rest, hplan⟩
  cases backlog with
  | nil =>
    obtain ⟨rfl, _⟩ := h.drained
    exact hwaits Framer.read_start (by rw [hfeed]; rfl)
  | cons e backlog =>
    obtain ⟨rfl, hitem, hrest⟩ := h.next hplan
    cases e with
    | Compress threshold => cases hitem
    | Encrypt key iv => cases hitem
    | Frame payload =>
      have hfits := h.fits payload (by simp [Event.payload])
      have hcomplete := Format.complete_encode zlib h.valid hfits.1 hfits.2
      have hwire := h.wire
      rw [Line.stream] at hwire
      obtain ⟨short, _, hshort, hbegin, hproper⟩ | ⟨beyond, hgot, hmore, hdecipher⟩ := frame_cases hwire
      · obtain ⟨next, hnext⟩ := hcomplete.waiting hbegin hproper
        exact hwaits next (by rw [hfeed, hshort, hnext])
      · obtain ⟨done, hwritten, hresults⟩ := h.payloads
        have hresult := hcomplete.append
          (decipher aes (line.register.past (encipher aes line.register (line.format.encode zlib payload))) beyond)
        rw [← hdecipher, ← hfeed] at hresult
        refine ⟨line.after zlib aes maxPacketSize (.Frame payload), backlog, [], [], beyond,
          base + (line.format.encode zlib payload).length, ?_, ?_⟩
        · unfold Joined.consume
          rw [hresult]
          constructor
          case plans =>
            rw [hplan]
            exact hrest
          case exclusive => exact .inr rfl
          case switchesOnly => exact h.switchesOnly
          case valid => exact h.valid
          case writerValid => exact h.writerValid
          case lines => exact h.lines
          case writerLimit => exact h.writerLimit
          case readerLimit => exact h.readerLimit
          case payloads =>
            exact ⟨done ++ [payload], by simpa [Event.payload] using hwritten, by simp [hresults]⟩
          case fits =>
            intro other hother
            have hframe : Event.payload (.Frame payload) = some payload := rfl
            refine h.fits other ?_
            rw [List.filterMap_cons_some hframe]
            exact List.mem_cons_of_mem _ hother
          case wire => exact hmore
          case readLine =>
            have hread := h.readLine
            rw [hgot, Register.past_append] at hread
            exact hread
          case taken =>
            have htaken := h.taken
            rw [hgot, List.length_append, encipher_length] at htaken
            dsimp only
            omega
          case sent => exact h.sent
          case offsets =>
            have hoffsets := h.offsets
            simp only [Line.switches, Line.bytes, encipher_length] at hoffsets
            exact hoffsets
        · unfold Joined.consume
          rw [hresult]
          exact ⟨rfl, fun _ => rfl, by simp⟩

/-- A chunk of the wire goes to the bytes that the reader has taken. -/
theorem Synced.chunk {count : Nat} {seen : Bytes} (h : Synced zlib aes maxPacketSize s line backlog ahead got base)
    (hcount : count ≤ s.wire.length) :
    Synced zlib aes maxPacketSize
      { s with
        reader := (s.reader.cipher_read aes (s.wire.take count)).2
        wire := s.wire.drop count
        seen
        taken := s.taken + count }
      line backlog ahead (got ++ s.wire.take count) base := by
  obtain ⟨_, hregister, hformat, hlimit, _⟩ := Transport.cipher_read_eq aes s.reader (s.wire.take count)
  constructor
  case plans => exact h.plans
  case exclusive => exact h.exclusive
  case switchesOnly => exact h.switchesOnly
  case valid => exact h.valid
  case writerValid => exact h.writerValid
  case lines => exact h.lines
  case writerLimit => exact h.writerLimit
  case readerLimit => exact hlimit.trans h.readerLimit
  case payloads => exact h.payloads
  case fits => exact h.fits
  case wire => rw [h.wire, List.append_assoc, List.take_append_drop]
  case readLine =>
    have hread := h.readLine
    simp only [Transport.read_line, Line.mk.injEq] at hread ⊢
    rw [hformat, hregister, hread.2, Register.past_append]
    exact ⟨hread.1, rfl⟩
  case taken =>
    have htaken := h.taken
    simp only [List.length_append, List.length_take]
    omega
  case sent =>
    have hsent := h.sent
    simp only [List.length_drop]
    omega
  case offsets => exact h.offsets

theorem start_agreed (zlib : Zlib) (aes : Aes) {maxPacketSize : Int} (plan : List PlanItem)
    (hsmall : packet_limit maxPacketSize + packet_limit maxPacketSize / 1000 + 69 < 2 ^ 31) :
    Agreed zlib aes maxPacketSize (Joined.start maxPacketSize plan) := by
  have hvalid : Format.Valid (packet_limit maxPacketSize)
      { framer := new_framer maxPacketSize, compression := none } :=
    ⟨hsmall, new_framer_limit maxPacketSize, by simp⟩
  refine ⟨⟨{ framer := new_framer maxPacketSize, compression := none }, none⟩, [], [], [], [], 0, ?_, ?_⟩
  · exact ⟨rfl, .inl rfl, by simp, hvalid, hvalid, rfl, rfl, rfl, ⟨[], rfl, rfl⟩, by simp, rfl, rfl, rfl,
      rfl, rfl⟩
  · exact ⟨rfl, fun _ => rfl, by simp [Joined.start]⟩

/-- `EnableCompression` changes the format only. -/
theorem enable_compression_eq {t t' : Transport} {threshold : Nat}
    (h : t.enable_compression threshold = .ok t') :
    t' = { t with format := t.format.compressed t.max_packet_size threshold } := by
  unfold Transport.enable_compression at h
  unfold Format.compressed
  cases hstate : new_compression_state threshold t.max_packet_size with
  | error e => simp [hstate] at h
  | ok compression =>
    simp only [hstate, Except.ok.injEq] at h ⊢
    exact h.symm

/-- The callers' side: each caller's frames are written in the order of its
calls, and at most one of its calls waits. -/
structure Served (maxPacketSize : Int) (s : Joined) : Prop where
  order : ∀ caller, s.submitted.filter (·.1 = caller) =
    s.written.filter (·.1 = caller) ++ s.requests.filter (·.1 = caller)
  single : (s.requests.map Prod.fst).Nodup
  fits : ∀ request ∈ s.requests, Fits maxPacketSize request.2

/-- The one request of a caller that waits. -/
private theorem filter_request {requests : List (Nat × Bytes)} {caller : Nat} {payload : Bytes}
    (hsingle : (requests.map Prod.fst).Nodup)
    (hfind : requests.find? (·.1 = caller) = some (caller, payload)) :
    requests.filter (·.1 = caller) = [(caller, payload)] := by
  induction requests with
  | nil => simp at hfind
  | cons request requests ih =>
    obtain ⟨hnew, hrest⟩ := List.nodup_cons.mp hsingle
    by_cases hcaller : request.1 = caller
    · rw [List.find?_cons_of_pos (by simpa using hcaller), Option.some.injEq] at hfind
      subst hfind
      rw [List.filter_cons_of_pos (by simp), List.cons.injEq]
      refine ⟨rfl, List.filter_eq_nil_iff.mpr fun other hother => ?_⟩
      simp only [decide_eq_true_eq]
      intro hsame
      exact hnew (List.mem_map.mpr ⟨other, hother, hsame⟩)
    · rw [List.find?_cons_of_neg (by simpa using hcaller)] at hfind
      rw [List.filter_cons_of_neg (by simpa using hcaller)]
      exact ih hrest hfind

/-- The writer loop serves a request that was handed in. -/
theorem Served.serve {s' : Joined} {caller : Nat} {payload : Bytes} (h : Served maxPacketSize s)
    (hrequest : s.requests.find? (·.1 = caller) = some (caller, payload))
    (hsubmitted : s'.submitted = s.submitted) (hwritten : s'.written = s.written ++ [(caller, payload)])
    (hrequests : s'.requests = s.requests.filter (·.1 ≠ caller)) : Served maxPacketSize s' := by
  constructor
  case order =>
    intro other
    rw [hsubmitted, hwritten, hrequests, h.order other, List.filter_append, List.append_assoc]
    congr 1
    by_cases hother : other = caller
    · subst hother
      rw [filter_request h.single hrequest, List.filter_filter]
      simp
    · have hkeep : (s.requests.filter (·.1 ≠ caller)).filter (·.1 = other) =
          s.requests.filter (·.1 = other) := by
        rw [List.filter_filter]
        apply List.filter_congr
        intro request _
        by_cases hsame : request.1 = other
        · simp [hsame, hother]
        · simp [hsame]
      rw [hkeep]
      simp [Ne.symm hother]
  case single =>
    rw [hrequests]
    exact h.single.sublist (List.filter_sublist.map Prod.fst)
  case fits =>
    intro request hrequest
    rw [hrequests] at hrequest
    exact h.fits request (List.mem_of_mem_filter hrequest)

/-- The steps of the reader and the switches leave the callers alone. -/
theorem Served.same {s' : Joined} (h : Served maxPacketSize s) (hsubmitted : s'.submitted = s.submitted)
    (hwritten : s'.written = s.written) (hrequests : s'.requests = s.requests) :
    Served maxPacketSize s' :=
  ⟨by rw [hsubmitted, hwritten, hrequests]; exact h.order, by rw [hrequests]; exact h.single,
    by rw [hrequests]; exact h.fits⟩

theorem consume_callers (zlib : Zlib) (s : Joined) (format : Format) (state : ReadState) (data : Bytes) :
    (s.consume zlib format state data).submitted = s.submitted ∧
      (s.consume zlib format state data).written = s.written ∧
      (s.consume zlib format state data).requests = s.requests := by
  unfold Joined.consume
  cases feed (format.read_byte zlib) state data <;> exact ⟨rfl, rfl, rfl⟩

end Step

section Run

variable {zlib : Zlib} {aes : Aes} {maxPacketSize : Int} {s s' : Joined}

/-- One step: plain bytes before the switch and cipher feedback after it. -/
theorem step_ciphered {a : JoinedAction} (h : Ciphered aes s) (hstep : s.step zlib aes a = some s') :
    Ciphered aes s' := by
  cases joined_effect hstep with
  | called => exact ⟨h.sent, h.length, h.wire, h.taken, h.encrypted, h.decrypted, h.writes, h.reads⟩
  | served => exact h.served
  | writer_compressed _ henable =>
    obtain rfl := enable_compression_eq henable
    exact ⟨h.sent, h.length, h.wire, h.taken, h.encrypted, h.decrypted, h.writes, h.reads⟩
  | writer_encrypted _ henable => exact h.writer_encrypted henable
  | reader_compressed _ _ henable =>
    obtain rfl := enable_compression_eq henable
    exact ⟨h.sent, h.length, h.wire, h.taken, h.encrypted, h.decrypted, h.writes, h.reads⟩
  | refused => exact h
  | reader_encrypted _ _ henable => exact h.reader_encrypted henable
  | read => exact h.consume
  | chunk _ hcount => exact (h.chunk hcount).consume

/-- In every state of every run the bytes on the wire and those the reader has
seen are the ones that the switches of the two ends ask for. -/
theorem joined_ciphered {plan : List PlanItem} {acts : List JoinedAction}
    (run : Reaches (Joined.step zlib aes) (Joined.start maxPacketSize plan) acts s) : Ciphered aes s :=
  run.invariant (Ciphered.start aes maxPacketSize plan) fun h _ hstep => step_ciphered h hstep

/-- Everything that both ends rely on. -/
structure Invariant (zlib : Zlib) (aes : Aes) (maxPacketSize : Int) (s : Joined) : Prop where
  agreed : Agreed zlib aes maxPacketSize s
  served : Served maxPacketSize s

/-- One step: what the reader has seen is a prefix of what was written, frame by frame
and switch by switch. -/
theorem step_invariant {a : JoinedAction} (h : Invariant zlib aes maxPacketSize s)
    (hstep : s.step zlib aes a = some s') : Invariant zlib aes maxPacketSize s' := by
  obtain ⟨line, backlog, ahead, pre, got, base, hsynced, hreading⟩ := h.agreed
  have hserved := h.served
  cases joined_effect hstep with
  | called hidle hpositive hfits =>
    refine ⟨⟨line, backlog, ahead, pre, got, base, ?_, ?_⟩, ?_⟩
    · exact ⟨hsynced.plans, hsynced.exclusive, hsynced.switchesOnly, hsynced.valid, hsynced.writerValid,
        hsynced.lines, hsynced.writerLimit, hsynced.readerLimit, hsynced.payloads, hsynced.fits, hsynced.wire,
        hsynced.readLine, hsynced.taken, hsynced.sent, hsynced.offsets⟩
    · exact ⟨hreading.plain, hreading.idle, hreading.busy⟩
    · rw [hsynced.writerLimit] at hfits
      constructor
      case order =>
        intro other
        simp only [List.filter_append, hserved.order other, List.append_assoc]
      case single =>
        simp only [List.map_append, List.map_cons, List.map_nil]
        refine List.nodup_append.mpr ⟨hserved.single, by simp, ?_⟩
        intro other hother new hnew
        obtain ⟨request, hrequest, rfl⟩ := List.mem_map.mp hother
        rw [List.mem_singleton.mp hnew]
        exact hidle request hrequest
      case fits =>
        intro request hrequest
        obtain hrequest | hrequest := List.mem_append.mp hrequest
        · exact hserved.fits request hrequest
        · obtain rfl := List.mem_singleton.mp hrequest
          exact ⟨hpositive, hfits⟩
  | served hplan hrequest hwrites =>
    have hfits := hserved.fits _ (List.mem_of_find?_eq_some hrequest)
    refine ⟨⟨line, _, ahead, pre, got, base, hsynced.served hplan hfits hwrites, ?_⟩, ?_⟩
    · exact ⟨hreading.plain, hreading.idle, hreading.busy⟩
    · exact hserved.serve hrequest rfl rfl rfl
  | @writer_compressed threshold rest writer hplan henable =>
    obtain rfl := enable_compression_eq henable
    have hline : ({ s.writer with format := s.writer.format.compressed s.writer.max_packet_size threshold } :
        Transport).write_line = s.writer.write_line.after zlib aes maxPacketSize (.Compress threshold) := by
      rw [hsynced.writerLimit]
      rfl
    have hswitched := hsynced.writerSwitch (e := .Compress threshold) hplan rfl hline hsynced.writerLimit
      (List.append_nil s.encrypted_at).symm
    obtain ⟨backlog, ahead, hsynced⟩ := hswitched
    refine ⟨⟨line, backlog, ahead, pre, got, base, hsynced, ?_⟩, hserved.same rfl rfl rfl⟩
    exact ⟨hreading.plain, hreading.idle, hreading.busy⟩
  | @writer_encrypted key iv rest writer hplan henable =>
    obtain ⟨_, rfl⟩ := enable_encryption_eq henable
    have hline : ({ s.writer with
        encryption := some { key := key.val, encrypt_iv := iv.val, decrypt_iv := iv.val } } :
        Transport).write_line = s.writer.write_line.after zlib aes maxPacketSize (.Encrypt key iv) := rfl
    have hswitched := hsynced.writerSwitch (e := .Encrypt key iv) hplan rfl hline hsynced.writerLimit rfl
    obtain ⟨backlog, ahead, hsynced⟩ := hswitched
    refine ⟨⟨line, backlog, ahead, pre, got, base, hsynced, ?_⟩, hserved.same rfl rfl rfl⟩
    exact ⟨hreading.plain, hreading.idle, hreading.busy⟩
  | @reader_compressed threshold rest reader hidle hplan henable =>
    obtain rfl := enable_compression_eq henable
    have hread := hsynced.readLine
    simp only [Transport.read_line, Line.mk.injEq] at hread
    have hline : ({ s.reader with format := s.reader.format.compressed s.reader.max_packet_size threshold } :
        Transport).read_line = ⟨(line.after zlib aes maxPacketSize (.Compress threshold)).format,
          (line.after zlib aes maxPacketSize (.Compress threshold)).register.past got⟩ := by
      simp only [Transport.read_line, Line.after, Line.mk.injEq]
      exact ⟨by rw [hsynced.readerLimit, hread.1], hread.2⟩
    have hswitched := hsynced.readerSwitch (e := .Compress threshold) hplan rfl hline
      hsynced.readerLimit (by simp [Event.switch]) (List.append_nil s.decrypted_at).symm
    obtain ⟨backlog, ahead, hsynced⟩ := hswitched
    refine ⟨⟨_, backlog, ahead, pre, got, base, hsynced, ?_⟩, hserved.same rfl rfl rfl⟩
    exact ⟨hreading.plain, hreading.idle, by simp [hidle]⟩
  | refused => exact h
  | @reader_encrypted key iv rest reader hidle hplan henable =>
    obtain ⟨hbuffer, rfl⟩ := enable_encryption_eq henable
    -- an empty buffer means that nothing beyond the boundary was taken
    have hgot : got = [] := by
      have hplain := hreading.plain
      rw [hreading.idle hidle, hbuffer, List.append_nil] at hplain
      exact eq_nil_of_decipher hplain.symm
    subst hgot
    have hread := hsynced.readLine
    simp only [Transport.read_line, Line.mk.injEq] at hread
    have hline : ({ s.reader with
        encryption := some { key := key.val, encrypt_iv := iv.val, decrypt_iv := iv.val } } :
        Transport).read_line = ⟨(line.after zlib aes maxPacketSize (.Encrypt key iv)).format,
          (line.after zlib aes maxPacketSize (.Encrypt key iv)).register.past []⟩ := by
      simp only [Transport.read_line, Line.after, Line.mk.injEq]
      exact ⟨hread.1, rfl⟩
    have hswitched := hsynced.readerSwitch (e := .Encrypt key iv) hplan rfl hline hsynced.readerLimit
      (fun _ => rfl) rfl
    obtain ⟨backlog, ahead, hsynced⟩ := hswitched
    refine ⟨⟨_, backlog, ahead, [], [], base, hsynced, ?_⟩, hserved.same rfl rfl rfl⟩
    exact ⟨hbuffer, fun _ => rfl, by simp [hidle]⟩
  | read hidle hplan =>
    have hformat : s.reader.format = line.format := congrArg Line.format hsynced.readLine
    have hplain := hreading.plain
    rw [hreading.idle hidle] at hplain
    obtain ⟨hsubmitted, hwritten, hrequests⟩ :=
      consume_callers zlib s s.reader.format Framer.read_start s.reader.buffer
    refine ⟨?_, hserved.same hsubmitted hwritten hrequests⟩
    rw [hformat]
    exact hsynced.consume hplan hplain rfl
  | chunk hbusy hcount =>
    obtain ⟨rfl, hstate, hbuffer, rest, hplan⟩ := hreading.busy _ _ hbusy
    have hread : s.reader.read_register = line.register.past got :=
      congrArg Line.register hsynced.readLine
    have hplain := hreading.plain
    rw [hbuffer, List.append_nil] at hplain
    refine ⟨?_, ?_⟩
    · refine (hsynced.chunk hcount).consume hplan ?_ hstate
      rw [(Transport.cipher_read_eq aes s.reader _).1, decipher_append, ← hplain, hread]
    · obtain ⟨hsubmitted, hwritten, hrequests⟩ := consume_callers zlib _ _ _ _
      exact hserved.same hsubmitted hwritten hrequests

theorem joined_invariant {plan : List PlanItem} {acts : List JoinedAction}
    (hsmall : packet_limit maxPacketSize + packet_limit maxPacketSize / 1000 + 69 < 2 ^ 31)
    (run : Reaches (Joined.step zlib aes) (Joined.start maxPacketSize plan) acts s) :
    Invariant zlib aes maxPacketSize s := by
  apply run.invariant
  · exact ⟨start_agreed zlib aes plan hsmall, fun _ => rfl, by simp [Joined.start], by simp [Joined.start]⟩
  · intro s a s' h _ hstep
    exact step_invariant h hstep

/-- A frame takes bytes. -/
private theorem encode_ne_nil (zlib : Zlib) {format : Format} {payload : Bytes}
    (hvalid : format.Valid (packet_limit maxPacketSize)) (hfits : Fits maxPacketSize payload) :
    format.encode zlib payload ≠ [] := by
  intro hempty
  have hcomplete := Format.complete_encode zlib hvalid hfits.1 hfits.2
  rw [hempty] at hcomplete
  simp [Complete] at hcomplete

/-- Events that put nothing on the wire are no frames. -/
private theorem payloads_of_empty {line : Line} {backlog : List Event}
    (hvalid : line.format.Valid (packet_limit maxPacketSize))
    (hfits : ∀ payload ∈ backlog.filterMap Event.payload, Fits maxPacketSize payload)
    (hempty : line.stream zlib aes maxPacketSize backlog = []) :
    backlog.filterMap Event.payload = [] := by
  induction backlog generalizing line with
  | nil => rfl
  | cons e backlog ih =>
    rw [Line.stream] at hempty
    obtain ⟨hbytes, hrest⟩ := List.append_eq_nil_iff.mp hempty
    cases hpayload : e.payload with
    | none =>
      rw [List.filterMap_cons_none hpayload] at hfits ⊢
      exact ih (after_valid hvalid) hfits hrest
    | some payload =>
      rw [List.filterMap_cons_some hpayload] at hfits
      cases e with
      | Compress threshold => cases hpayload
      | Encrypt key iv => cases hpayload
      | Frame other =>
        obtain rfl := Option.some.inj hpayload
        have hcode := encode_ne_nil zlib hvalid (hfits other List.mem_cons_self)
        have hlength := congrArg List.length hbytes
        rw [Line.bytes, encipher_length, List.length_nil, List.length_eq_zero_iff] at hlength
        exact absurd hlength hcode

/-- When the wire and the buffer are empty every frame has been read. -/
theorem Agreed.quiet (h : Agreed zlib aes maxPacketSize s) (hwire : s.wire = [])
    (hbuffer : s.reader.buffer = []) : s.results = s.written.map fun frame => .Ok frame.2 := by
  obtain ⟨line, backlog, ahead, pre, got, base, hsynced, hreading⟩ := h
  obtain ⟨done, hwritten, hresults⟩ := hsynced.payloads
  have hstream := hsynced.wire
  rw [hwire, List.append_nil] at hstream
  have hplain := hreading.plain
  rw [hbuffer, List.append_nil] at hplain
  have hnone : backlog.filterMap Event.payload = [] := by
    cases hstate : s.reading with
    | none =>
      have hgot : got = [] := by
        rw [hreading.idle hstate] at hplain
        exact eq_nil_of_decipher hplain.symm
      exact payloads_of_empty hsynced.valid hsynced.fits (hstream.trans hgot)
    | some reading =>
      obtain ⟨format, state⟩ := reading
      obtain ⟨rfl, hfeed, _, rest, hplan⟩ := hreading.busy _ _ hstate
      cases backlog with
      | nil => rfl
      | cons e backlog =>
        obtain ⟨_, hitem, _⟩ := hsynced.next hplan
        cases e with
        | Compress threshold => cases hitem
        | Encrypt key iv => cases hitem
        | Frame payload =>
          -- all of the frame was taken, so it cannot still be waited for
          have hfits := hsynced.fits payload (by simp [Event.payload])
          have hcomplete := Format.complete_encode zlib hsynced.valid hfits.1 hfits.2
          rw [hplain, ← hstream, Line.stream, decipher_append, Line.bytes, decipher_encipher,
            hcomplete.append] at hfeed
          cases hfeed
  rw [hnone, List.append_nil] at hwritten
  rw [hresults, ← hwritten, List.map_map]
  rfl

end Run

/-- Two joined transports carry frames faithfully, for every number of callers
and every interleaving, chunking and plan of switches. The results of
`ReadFrame` are the payloads in the order in which they were written, no
error among them; each caller's frames are written in its order, and every
waiting call can be served; once the wire and the buffer are empty all frames
have been read. The bytes on the wire are those handed to the cipher writer,
unchanged before its first switch and under AES-CFB8 from each switch on; the
bytes that the reader has seen are those it took from the wire, unchanged
before its first switch and decrypted from each switch on. Both ends switch
at the same places with the same keys, or the reader is refused with the
stream unchanged; where both have made the same switches the reader has seen
what the writer was given. -/
theorem transport_round_trip {zlib : Zlib} {aes : Aes} {maxPacketSize : Int} {plan : List PlanItem}
    {acts : List JoinedAction} {s : Joined}
    (hsmall : packet_limit maxPacketSize + packet_limit maxPacketSize / 1000 + 69 < 2 ^ 31)
    (run : Reaches (Joined.step zlib aes) (Joined.start maxPacketSize plan) acts s) :
    s.results <+: s.written.map (fun frame => .Ok frame.2) ∧
    (∀ caller, s.submitted.filter (·.1 = caller) =
      s.written.filter (·.1 = caller) ++ s.requests.filter (·.1 = caller)) ∧
    (∀ request ∈ s.requests, ∃ writes, s.writer.format.frame_writes zlib request.2 = .ok writes) ∧
    (s.wire = [] → s.reader.buffer = [] → s.results = s.written.map fun frame => .Ok frame.2) ∧
    (s.stream = throughSwitches aes true id 0 s.encrypted_at s.clear ∧ s.wire = s.stream.drop s.taken ∧
      s.seen = throughSwitches aes false id 0 s.decrypted_at (s.stream.take s.taken)) ∧
    (s.decrypted_at <+: s.encrypted_at ∨ s.encrypted_at <+: s.decrypted_at) ∧
    (s.decrypted_at = s.encrypted_at → s.seen = s.clear.take s.taken) ∧
    (∀ key iv rest, s.reading = none → s.reader_plan = .Encrypt key iv :: rest → s.reader.buffer ≠ [] →
      s.reader.enable_encryption key.val iv.val = .error .BufferedEncryptionTransition ∧
        s.step zlib aes .ReaderSwitch = some s) := by
  have hinv := joined_invariant hsmall run
  have hciphered := joined_ciphered run
  obtain ⟨line, backlog, ahead, pre, got, base, hsynced, hreading⟩ := hinv.agreed
  refine ⟨?_, hinv.served.order, ?_, hinv.agreed.quiet,
    ⟨hciphered.stream_eq.symm, hciphered.wire, hciphered.seen_eq.symm⟩, ?_, hciphered.seen_of_agreed, ?_⟩
  · obtain ⟨done, hwritten, hresults⟩ := hsynced.payloads
    refine ⟨(backlog.filterMap Event.payload).map .Ok, ?_⟩
    rw [hresults, ← List.map_append, ← hwritten, List.map_map]
    rfl
  · intro request hrequest
    obtain ⟨hpositive, hfits⟩ := hinv.served.fits request hrequest
    exact Format.frame_writes_ok zlib hsynced.writerValid hpositive hfits
  · have hoffsets := hsynced.offsets
    obtain rfl | rfl := hsynced.exclusive
    · exact .inr ⟨_, by simpa [Line.switches] using hoffsets⟩
    · exact .inl ⟨_, by simpa using hoffsets.symm⟩
  · intro key iv rest hidle hplan hbuffer
    have hrefused : s.reader.enable_encryption key.val iv.val = .error .BufferedEncryptionTransition := by
      unfold Transport.enable_encryption
      rw [if_pos (by simpa using hbuffer)]
    refine ⟨hrefused, ?_⟩
    simp only [Joined.step, hidle, hplan, hrefused]

/-- A key, which is also its initialisation vector. -/
def sampleBlock : Block := ⟨List.replicate 16 5, rfl⟩

/-- A frame, both switches and two more frames. -/
def samplePlan : List PlanItem := [.Frame, .Compress 2, .Encrypt sampleBlock sampleBlock, .Frame, .Frame]

/-- Two callers whose requests are served in another order, and bytes that arrive in
pieces. -/
def sampleRun : List JoinedAction :=
  [.Call 0 [1, 2, 3], .Call 1 [4], .Serve 1, .WriterSwitch, .ReadFrame, .Chunk 1, .Chunk 1, .WriterSwitch,
   .ReaderSwitch, .ReaderSwitch, .Call 1 [5], .Serve 1, .Serve 0, .ReadFrame, .Chunk 4, .ReadFrame, .Chunk 2,
   .Chunk 3]

/-- Two callers, with compression and encryption enabled after the first
frame. -/
theorem transport_round_trip_two_callers :
    ∃ s, Reaches (Joined.step storedZlib fun key shift => key.headD 0 + shift.headD 0)
        (Joined.start 0 samplePlan) sampleRun s ∧ s.results = [.Ok [4], .Ok [5], .Ok [1, 2, 3]] ∧
      s.stream = [1, 4] ++ Switch.cfb8 (fun key shift => key.headD 0 + shift.headD 0) true
        ⟨2, sampleBlock, sampleBlock⟩ (s.clear.drop 2) ∧ s.stream ≠ s.clear ∧ s.seen = s.clear := by
  have hreached : ∃ s, Reaches (Joined.step storedZlib fun key shift => key.headD 0 + shift.headD 0)
      (Joined.start 0 samplePlan) sampleRun s ∧
      decide (s.wire = [] ∧ s.reader.buffer = [] ∧ s.written = [(1, [4]), (1, [5]), (0, [1, 2, 3])] ∧
        s.encrypted_at = [⟨2, sampleBlock, sampleBlock⟩] ∧ s.decrypted_at = s.encrypted_at ∧
        s.clear.take 2 = [1, 4] ∧ s.taken = s.clear.length ∧ s.stream ≠ s.clear) = true :=
    Reaches.of_exec _ (by decide +kernel)
  obtain ⟨s, run, hobserved⟩ := hreached
  obtain ⟨hwire, hbuffer, hwritten, hswitches, hagreed, hclear, htaken, hsealed⟩ := of_decide_eq_true hobserved
  obtain ⟨_, _, _, hquiet, ⟨hstream, _⟩, _, hseen, _⟩ := transport_round_trip (by decide) run
  refine ⟨s, run, ?_, ?_, hsealed, ?_⟩
  · rw [hquiet hwire hbuffer, hwritten]
    rfl
  · rw [hswitches] at hstream
    rw [hstream, ← hclear]
    rfl
  · rw [hseen hagreed, htaken, List.take_length]

end regiongate.transport
