import RegionGate.Protocol.Handshake
import RegionGate.Server.ClientAgreement

open regiongate.session regiongate.transfer execution

namespace regiongate.server

/-- Who makes a client write before the play bridge: `Server.writeFrame`, which sets
the deadline first, or a method of a prepared transfer on the transport itself. -/
inductive Writer where
  | Server
  | Prepared
  deriving DecidableEq

/-- The client write that the loop's goroutine makes next. -/
def Location.writer : Location → Option Writer
  | .Joining (_ :: _) | .FirstKeepAlive | .TickWrite | .ActionBarWrite _ => some .Server
  | .BeginWrite | .WritePackets _ => some .Prepared
  | _ => none

/-- `progress` has cleared the deadlines for the bridge, or the loop is over. -/
def Location.handedOver : Location → Bool
  | .Answering | .Bridge | .Blocked | .CancelItem _ | .CancelContext _ | .Untrack _ | .Closed _ => true
  | _ => false

namespace Limbo

section Step

variable {cfg : Config} {q q' : AdmissionQueue} {s s' : Limbo} {a : Action}

/-- A session never comes back from the bridge. -/
theorem effect_handedOver (heffect : Effect cfg q s a q' s') (hover : s.location.handedOver = true) :
    s'.location.handedOver = true := by
  cases heffect with
  | admitted hlocation hprepared =>
    obtain hblocked | hbridge := respond_location s { s with location := .Bridge } none
    · rw [hblocked]
      rfl
    · rw [hbridge]
      rfl
  | keep_alive_sent hlocation =>
    obtain hlocation | hlocation := hlocation <;> simp [hlocation, Location.handedOver] at hover
  | begin_refused hlocation _ =>
    obtain hlocation | hlocation | hlocation := hlocation <;> simp [hlocation, Location.handedOver] at hover
  | _ => first | exact hover | rfl | simp_all [Location.handedOver]

/-- After the replay the client is handed over. -/
theorem effect_replayed {replay : Replay} {written : Bool} (heffect : Effect cfg q s (.Proceed written) q' s')
    (hlocation : s.location = .Replaying replay) : s'.location.handedOver = true := by
  cases heffect with
  | failed => rfl
  | replayed => rfl
  | _ => simp_all

/-- The actions of other goroutines work on one attempt or one call. -/
theorem location_of_bind {α : Type} {element : Option α} {f : α → Option Limbo}
    (hkept : ∀ x s', f x = some s' → s'.location = s.location)
    (hstep : (element.bind fun x => (f x).map (q, ·)) = some (q', s')) : s'.location = s.location := by
  obtain ⟨x, _, hstep⟩ := Option.bind_eq_some_iff.mp hstep
  obtain ⟨s₁, hs₁, hpair⟩ := Option.map_eq_some_iff.mp hstep
  cases hpair
  exact hkept x s' hs₁

theorem prepare_location {k : Nat} {attempt : Attempt} {outcome : Except Error (List Bytes)}
    (hprepare : s.prepare cfg k attempt outcome = some s') : s'.location = s.location := by
  unfold prepare at hprepare
  repeat' split at hprepare
  all_goals cases hprepare
  all_goals rfl

theorem prepare_dropped_location {k : Nat} {attempt : Attempt}
    (hdropped : s.prepare_dropped k attempt = some s') : s'.location = s.location := by
  unfold prepare_dropped at hdropped
  repeat' split at hdropped
  all_goals cases hdropped
  all_goals rfl

/-- Only the loop's goroutine leaves a place that is not a select. -/
theorem step_location (hstep : s.step cfg q a = some (q', s')) (hproceed : ∀ written, a ≠ .Proceed written)
    (hselect : s.location ≠ .Select) (hteleport : s.location ≠ .AwaitingTeleport) :
    s'.location = s.location := by
  cases a with
  | Proceed written => exact absurd rfl (hproceed written)
  | Frame frame =>
    simp only [step, client_frame] at hstep
    split at hstep <;> simp_all
  | Relay frame =>
    simp only [step] at hstep
    split at hstep
    · rename_i hlocation hprepared
      cases hstep
      exact hlocation.symm
    · cases hstep
  | Prepare k outcome => exact location_of_bind (fun _ _ => prepare_location) hstep
  | PrepareDropped k => exact location_of_bind (fun _ _ => prepare_dropped_location) hstep
  | BarrierTimeout k =>
    refine location_of_bind (fun attempt s' htimeout => ?_) hstep
    unfold barrier_timeout at htimeout
    split at htimeout
    · cases htimeout
    · cases htimeout
      rfl
  | AdmitCalled own =>
    simp only [step, Option.ite_none_right_eq_some, Option.some.injEq, Prod.mk.injEq] at hstep
    obtain ⟨_, _, rfl⟩ := hstep
    rfl
  | AdmitSent i =>
    refine location_of_bind (fun call s' hsend => ?_) hstep
    obtain ⟨_, rfl⟩ := Option.ite_none_right_eq_some.mp hsend |>.imp_right Option.some.inj
    rfl
  | AdmitReceived i =>
    refine location_of_bind (fun call s' hreceive => ?_) hstep
    unfold admit_receive at hreceive
    split at hreceive
    · cases hreceive
      rfl
    · cases hreceive
  | AdmitCancelled i =>
    refine location_of_bind (fun call s' hcancelled => ?_) hstep
    obtain ⟨_, rfl⟩ := Option.ite_none_right_eq_some.mp hcancelled |>.imp_right Option.some.inj
    rfl
  | ContextCancelled i =>
    cases hstep
    rfl
  | _ => simp_all [step]

/-- What a step writes to the client, and where the loop writes it. -/
inductive WriteEffect (s : Limbo) (a : Action) (s' : Limbo) : Prop where
  | unwritten {events : List Event} (hlog : s'.log = s.log ++ events)
      (hevents : ∀ transfer packet, .Wrote transfer packet ∉ events)
  | written {transfer : Option Nat} {packet : Clientbound} (haction : a = .Proceed true)
      (hwriter : s.location.writer = some (if transfer = none then .Server else .Prepared))
      (hlog : s'.log = s.log ++ [.Wrote transfer packet])
  | relayed (hlocation : s.location = .Bridge)

theorem WriteEffect.silent (hlog : s'.log = s.log) : WriteEffect s a s' :=
  .unwritten (hlog.trans (List.append_nil _).symm) fun _ _ => List.not_mem_nil

/-- The writes of a step, with the place of the loop that they are made at. -/
theorem write_effect (heffect : Effect cfg q s a q' s') : WriteEffect s a s' := by
  cases heffect with
  | join_packet hlocation | action_bar_sent hlocation | start_sent hlocation | packet_sent hlocation
  | finish_sent hlocation => exact .written rfl (by rw [hlocation]; rfl) rfl
  | keep_alive_sent hlocation =>
    refine .written rfl ?_ rfl
    obtain hlocation | hlocation := hlocation <;> rw [hlocation] <;> rfl
  | relayed hlocation => exact .relayed hlocation
  | frame_malformed | barrier_inactive | barrier_refused | call_refused | answer_refused | answered
  | frame_refused | challenge_unqueued | released | challenge_passed | transfer_begun | logged_in
  | configured => exact .unwritten rfl (by simp)
  | answered_enqueued | challenge_enqueued => exact .unwritten (List.append_assoc _ _ _) (by simp)
  | answer_unqueued _ _ _ _ hnext =>
    obtain rfl | rfl := hnext <;> exact .unwritten (List.append_assoc _ _ _) (by simp)
  | @called _ call => exact .unwritten rfl (callEvents_unwritten call)
  | prepare_failed | transfer_lost | begin_undone | admitted =>
    obtain ⟨_, heq⟩ | ⟨request, _, heq⟩ := respond_cases _ _ _ <;> rw [heq]
    all_goals exact .silent rfl
  | _ => exact .silent rfl

end Step

end Limbo

namespace timed

/-- A frame given to `Transport.WriteFrame`: when, under which deadline of the
connection, and when that deadline was set for this write, if it was. -/
structure Write where
  writer : Writer
  time : Int
  deadline : Option Int
  set_at : Option Int
  deriving DecidableEq

/-- Written under its own deadline or under none. -/
def Write.Fresh (write_timeout : Int) (w : Write) : Prop :=
  w.deadline = none ∨ ∃ t, w.set_at = some t ∧ w.deadline = some (t + write_timeout)

/-- Where the goroutine of `serveConn` stands, before a read or a write of
`serveStatus` or `serveLogin` or within `serveLimbo`. -/
inductive Place where
  | Handshake
  | StatusRequest
  | StatusResponse
  | StatusPing
  | StatusPong
  | LoginStart
  | EncryptionRequest
  | EncryptionResponse
  | LoginSuccess
  | LoginAcknowledged
  | RegistryData
  | FinishConfiguration
  | ClientConfiguration
  | Limbo (world : World)
  | Ended

/-- Who makes the write of a place, if it is one. -/
def Place.writer : Place → Option Writer
  | .StatusResponse | .StatusPong | .EncryptionRequest | .LoginSuccess | .RegistryData
  | .FinishConfiguration => some .Server
  | .Limbo world => world.limbo.location.writer
  | _ => none

/-- `serveConn` up to the handler of the next state; `allowed` is the answer of the
login limiter. -/
def Place.afterHandshake (frame : Bytes) (allowed : Bool) : Place :=
  match handshake.parse frame with
  | .Ok packet =>
    if packet.protocol_version ≠ handshake.ProtocolVersion then .Ended
    else if packet.next_state = handshake.NextStatus then .StatusRequest
    else if packet.next_state = handshake.NextLogin ∧ allowed then .LoginStart
    else .Ended
  | _ => .Ended

/-- What follows a read whose packet is accepted or a write that succeeds;
`serveLimbo` follows `ClientConfiguration`. -/
def Place.next (online : Bool) : Place → Option Place
  | .StatusRequest => some .StatusResponse
  | .StatusResponse => some .StatusPing
  | .StatusPing => some .StatusPong
  | .StatusPong => some .Ended
  | .LoginStart => some (if online then .EncryptionRequest else .LoginSuccess)
  | .EncryptionRequest => some .EncryptionResponse
  | .EncryptionResponse => some .LoginSuccess
  | .LoginSuccess => some .LoginAcknowledged
  | .LoginAcknowledged => some .RegistryData
  | .RegistryData => some .FinishConfiguration
  | .FinishConfiguration => some .ClientConfiguration
  | .Handshake | .ClientConfiguration | .Limbo _ | .Ended => none

/-- A deadline is left on the socket from the first login write until the
hand-over to the bridge. -/
def Place.leavesDeadline : Place → Bool
  | .LoginAcknowledged | .RegistryData | .FinishConfiguration | .ClientConfiguration => true
  | .Limbo w => !w.limbo.location.handedOver
  | _ => false

/-- What `serveConn` reads. -/
structure Settings where
  write_timeout : Int
  online : Bool
  limbo : Config

/-- A client connection with the clock and the write deadline of its socket.
`armed` is when `writeFrame` set the deadline for the write it makes next. -/
structure Connection where
  conn : Conn
  now : Int
  write_deadline : Option Int
  armed : Option Int
  place : Place
  writes : List Write

/-- `Handshake`, `Go` and `EnterLimbo` are the reads and writes of `serveConn`
outside `serveLimbo`; `done` says whether a read was accepted or a write
succeeded. -/
inductive Action where
  | Pass (time : Nat)
  | SetWriteDeadline
  | Handshake (frame : Bytes) (allowed : Bool)
  | Go (done : Bool)
  | EnterLimbo (queue : AdmissionQueue) (uuid : UUID) (required : Option Int)
  | Limbo (move : Move)

namespace Connection

/-- A connection that was accepted at this time. -/
def start (conn : Conn) (now : Int) : Connection := ⟨conn, now, none, none, .Handshake, []⟩

/-- The goroutine goes on to `place` and makes the write before it, if there is
one: `writeFrame` only after it has set the deadline. -/
def proceed (c : Connection) (place : Place) : Option Connection :=
  match c.place.writer with
  | none => some { c with place }
  | some writer =>
    if writer = .Server ∧ c.armed = none then none
    else some { c with place, armed := none, writes := c.writes ++ [⟨writer, c.now, c.write_deadline, c.armed⟩] }

/-- `progress` clears the deadline after the replay was written. -/
def cleared (c : Connection) : Location → Bool → Connection
  | .Replaying _, true => { c with write_deadline := none }
  | _, _ => c

/-- A step of Limbo. A write that is made there is recorded with the deadline of its
time. -/
def limbo_step (settings : Settings) (c : Connection) (w : World) : Move → Option Connection
  | .Session (.Proceed written) =>
    (w.step settings.limbo (.Session (.Proceed written))).bind fun w' =>
      (c.cleared w.limbo.location written).proceed (.Limbo w')
  | move => (w.step settings.limbo move).map fun w' => { c with place := .Limbo w' }

/-- One step, or `none` where it cannot be taken: time goes by, `writeFrame` sets its
deadline, or the connection proceeds. -/
def step (settings : Settings) (c : Connection) : Action → Option Connection
  | .Pass time => some { c with now := c.now + time }
  | .SetWriteDeadline =>
    if c.place.writer = some .Server ∧ c.armed = none then
      some { c with write_deadline := some (c.now + settings.write_timeout), armed := some c.now }
    else none
  | .Handshake frame allowed =>
    match c.place with
    | .Handshake => some { c with place := .afterHandshake frame allowed }
    | _ => none
  | .Go done => (c.place.next settings.online).bind fun next => c.proceed (if done then next else .Ended)
  | .EnterLimbo queue uuid required =>
    match c.place with
    | .ClientConfiguration => some { c with place := .Limbo { queue, limbo := .start c.conn uuid required } }
    | _ => none
  | .Limbo move =>
    match c.place with
    | .Limbo w => c.limbo_step settings w move
    | _ => none

/-- No prepared transfer writes to the client. -/
def untransferred (c : Connection) : Action → Prop
  | .Limbo (.Session (.Proceed _)) => c.place.writer ≠ some .Prepared
  | _ => True

end Connection

/-- `writeFrame` writes under its own deadline; a prepared transfer writes under
the deadline of an earlier write. -/
def Explained (write_timeout : Int) (before : List Write) (w : Write) : Prop :=
  match w.writer with
  | .Server => ∃ t, w.set_at = some t ∧ w.deadline = some (t + write_timeout)
  | .Prepared => w.set_at = none ∧
      ∃ earlier ∈ before, earlier.writer = .Server ∧ earlier.time ≤ w.time ∧ w.deadline = earlier.deadline

/-- Where the deadline on the connection comes from, at each place and for each write
made. -/
structure Connection.Invariant (write_timeout : Int) (c : Connection) : Prop where
  armed : ∀ t, c.armed = some t → c.place.writer = some .Server ∧ c.write_deadline = some (t + write_timeout)
  left : c.place.leavesDeadline = true → c.armed = none →
    ∃ w ∈ c.writes, w.writer = .Server ∧ w.time ≤ c.now ∧ c.write_deadline = w.deadline
  writes : Every (Explained write_timeout) c.writes

section Step

variable {settings : Settings} {c c' : Connection} {a : Action} {place : Place}

/-- A transfer writes where the deadline of an earlier write is left on the socket. -/
theorem Place.leavesDeadline_of_prepared (h : place.writer = some .Prepared) : place.leavesDeadline = true := by
  cases place with
  | Limbo w =>
    simp only [writer, leavesDeadline] at h ⊢
    cases hlocation : w.limbo.location <;> simp_all [Location.writer, Location.handedOver]
  | _ => cases h

/-- Such a place is entered from another one, or after a write of the server. -/
theorem Place.leavesDeadline_of_next {online : Bool} {next : Place} (hnext : place.next online = some next)
    (hleft : next.leavesDeadline = true) : place.leavesDeadline = true ∨ place.writer = some .Server := by
  cases place with
  | LoginStart => cases online <;> cases hnext <;> cases hleft
  | _ => cases hnext <;> first | exact .inl rfl | exact .inr rfl | cases hleft

namespace Connection

/-- Away from the server's writes no deadline is being set. -/
theorem Invariant.unarmed (h : c.Invariant settings.write_timeout) (hwriter : c.place.writer ≠ some .Server) :
    c.armed = none := by
  cases harmed : c.armed with
  | none => rfl
  | some t => exact absurd (h.armed t harmed).1 hwriter

/-- A connection that goes on, and writes if its place is a write. -/
theorem Invariant.proceed (h : c.Invariant settings.write_timeout)
    (hleft : place.leavesDeadline = true → c.place.leavesDeadline = true ∨ c.place.writer = some .Server)
    (hproceed : c.proceed place = some c') : c'.Invariant settings.write_timeout := by
  unfold Connection.proceed at hproceed
  cases hwriter : c.place.writer with
  | none =>
    have harmed := h.unarmed (by simp [hwriter])
    simp only [hwriter] at hproceed
    cases hproceed
    refine ⟨?_, ?_, h.writes⟩
    · intro t ht
      rw [harmed] at ht
      cases ht
    · intro hplace _
      exact h.left ((hleft hplace).resolve_right (by simp [hwriter])) harmed
  | some writer =>
    simp only [hwriter] at hproceed
    obtain ⟨hset, hc'⟩ := Option.ite_none_left_eq_some.mp hproceed
    cases hc'
    cases writer with
    | Server =>
      obtain ⟨t, harmed⟩ : ∃ t, c.armed = some t := by
        rw [← Option.ne_none_iff_exists']
        exact fun hnone => hset ⟨rfl, hnone⟩
      refine ⟨nofun, fun _ _ => ⟨_, List.mem_append_right _ (List.mem_singleton_self _), rfl, le_refl _, rfl⟩, ?_⟩
      exact every_snoc.mpr ⟨h.writes, t, harmed, (h.armed t harmed).2⟩
    | Prepared =>
      have harmed := h.unarmed (by simp [hwriter])
      have hearlier := h.left (Place.leavesDeadline_of_prepared hwriter) harmed
      refine ⟨nofun, fun _ _ => ?_, every_snoc.mpr ⟨h.writes, harmed, hearlier⟩⟩
      obtain ⟨w, hw, hserver, htime, hdeadline⟩ := hearlier
      exact ⟨w, List.mem_append_left _ hw, hserver, htime, hdeadline⟩

/-- A step that makes no write of the goroutine stays where one is due. -/
theorem Invariant.moved (h : c.Invariant settings.write_timeout)
    (hwriter : c.place.writer = some .Server → place.writer = some .Server)
    (hleft : place.leavesDeadline = true → c.place.leavesDeadline = true) :
    { c with place }.Invariant settings.write_timeout where
  armed := fun t ht => ⟨hwriter (h.armed t ht).1, (h.armed t ht).2⟩
  left := fun hplace harmed => h.left (hleft hplace) harmed
  writes := h.writes

/-- A client that has been handed over does not come back to the loop. -/
theorem leavesDeadline_of_step {w w' : World} {move : Move} (hstep : w.step settings.limbo move = some w')
    (hleft : (Place.Limbo w').leavesDeadline = true) : (Place.Limbo w).leavesDeadline = true := by
  simp only [Place.leavesDeadline, Bool.not_eq_true'] at hleft ⊢
  cases move with
  | Others queue =>
    cases hstep
    exact hleft
  | Session action =>
    obtain ⟨⟨q', s'⟩, hnext, rfl⟩ := Option.map_eq_some_iff.mp hstep
    by_contra hover
    rw [Limbo.effect_handedOver (Limbo.step_effect hnext) (by simpa using hover)] at hleft
    cases hleft

theorem writer_of_step {w w' : World} {move : Move} (hstep : w.step settings.limbo move = some w')
    (hproceed : ∀ written, move ≠ .Session (.Proceed written))
    (hwriter : (Place.Limbo w).writer = some .Server) : (Place.Limbo w').writer = some .Server := by
  simp only [Place.writer] at hwriter ⊢
  cases move with
  | Others queue =>
    cases hstep
    exact hwriter
  | Session action =>
    obtain ⟨⟨q', s'⟩, hnext, rfl⟩ := Option.map_eq_some_iff.mp hstep
    rw [Limbo.step_location hnext (fun written ha => hproceed written (by rw [ha]))]
    · exact hwriter
    all_goals
      intro hlocation
      rw [hlocation] at hwriter
      cases hwriter

theorem limbo_step_invariant {w : World} {move : Move} (h : c.Invariant settings.write_timeout)
    (hplace : c.place = .Limbo w) (hstep : c.limbo_step settings w move = some c') :
    c'.Invariant settings.write_timeout := by
  unfold limbo_step at hstep
  split at hstep
  · rename_i written
    obtain ⟨w', hnext, hproceed⟩ := Option.bind_eq_some_iff.mp hstep
    unfold cleared at hproceed
    split at hproceed
    · rename_i hlocation
      have hwriter : c.place.writer = none := by rw [hplace, Place.writer, hlocation]; rfl
      simp only [Connection.proceed, hwriter] at hproceed
      cases hproceed
      refine ⟨fun t ht => ?_, fun hleft => ?_, h.writes⟩
      · rw [h.unarmed (by simp [hwriter])] at ht
        cases ht
      · obtain ⟨⟨q', s'⟩, hsession, rfl⟩ := Option.map_eq_some_iff.mp hnext
        have hover := Limbo.effect_replayed (Limbo.step_effect hsession) hlocation
        simp [Place.leavesDeadline, hover] at hleft
    · exact h.proceed (fun hleft => .inl (hplace ▸ leavesDeadline_of_step hnext hleft)) hproceed
  · rename_i hmove
    obtain ⟨w', hnext, rfl⟩ := Option.map_eq_some_iff.mp hstep
    refine h.moved ?_ ?_
    · rw [hplace]
      exact writer_of_step hnext fun written heq => hmove written heq
    · rw [hplace]
      exact leavesDeadline_of_step hnext

theorem step_invariant (h : c.Invariant settings.write_timeout) (hstep : c.step settings a = some c') :
    c'.Invariant settings.write_timeout := by
  cases a with
  | Pass time =>
    cases hstep
    refine ⟨h.armed, fun hplace harmed => ?_, h.writes⟩
    obtain ⟨w, hw, hserver, htime, hdeadline⟩ := h.left hplace harmed
    exact ⟨w, hw, hserver, by dsimp only; omega, hdeadline⟩
  | SetWriteDeadline =>
    obtain ⟨⟨hwriter, _⟩, hc'⟩ := Option.ite_none_right_eq_some.mp hstep
    cases hc'
    refine ⟨?_, nofun, h.writes⟩
    rintro t ⟨⟩
    exact ⟨hwriter, rfl⟩
  | Handshake frame allowed =>
    simp only [step] at hstep
    split at hstep
    · rename_i hplace
      cases hstep
      refine h.moved (by simp [hplace, Place.writer]) ?_
      unfold Place.afterHandshake
      repeat' split
      all_goals nofun
    · cases hstep
  | Go done =>
    obtain ⟨next, hnext, hproceed⟩ := Option.bind_eq_some_iff.mp hstep
    refine h.proceed ?_ hproceed
    cases done with
    | false => nofun
    | true => exact Place.leavesDeadline_of_next hnext
  | EnterLimbo queue uuid required =>
    simp only [step] at hstep
    split at hstep
    · rename_i hplace
      cases hstep
      exact h.moved (by simp [hplace, Place.writer]) fun _ => by rw [hplace]; rfl
    · cases hstep
  | Limbo move =>
    simp only [step] at hstep
    split at hstep
    · rename_i w hplace
      exact limbo_step_invariant h hplace hstep
    · cases hstep

theorem start_invariant {conn : Conn} {now : Int} : (start conn now).Invariant settings.write_timeout where
  armed := nofun
  left := nofun
  writes := every_nil

/-- The write of a goroutine that goes on, if there is one. -/
def Wrote (c c' : Connection) : Prop :=
  ∃ writes : Option Write, c'.writes = c.writes ++ writes.toList ∧ writes.map (·.writer) = c.place.writer

/-- The write of a place is recorded when the connection goes on. -/
theorem proceed_wrote (hproceed : c.proceed place = some c') : c'.place = place ∧ c.Wrote c' := by
  unfold Connection.proceed at hproceed
  split at hproceed
  · rename_i hwriter
    cases hproceed
    exact ⟨rfl, none, by simp, by simp [hwriter]⟩
  · rename_i writer hwriter
    obtain ⟨_, hc'⟩ := Option.ite_none_left_eq_some.mp hproceed
    cases hc'
    exact ⟨rfl, some _, rfl, by simp [hwriter]⟩

theorem limbo_step_wrote {w : World} {move : Move} (hstep : c.limbo_step settings w move = some c') :
    ∃ w', w.step settings.limbo move = some w' ∧ c'.place = .Limbo w' ∧
      ((∃ written, move = .Session (.Proceed written)) ∧ c.Wrote c' ∨
        (∀ written, move ≠ .Session (.Proceed written)) ∧ c'.writes = c.writes) := by
  unfold limbo_step at hstep
  split at hstep
  · rename_i written
    obtain ⟨w', hnext, hproceed⟩ := Option.bind_eq_some_iff.mp hstep
    obtain ⟨hplace, hwrote⟩ := proceed_wrote hproceed
    refine ⟨w', hnext, hplace, .inl ⟨⟨written, rfl⟩, ?_⟩⟩
    unfold cleared at hwrote
    split at hwrote <;> exact hwrote
  · rename_i hmove
    obtain ⟨w', hnext, rfl⟩ := Option.map_eq_some_iff.mp hstep
    exact ⟨w', hnext, rfl, .inr ⟨hmove, rfl⟩⟩

/-- Every packet that the loop logs is one of the writes. -/
theorem logged_write_recorded {w w' : World} {move : Move} (hplace : c.place = .Limbo w)
    (hstep : c.step settings (.Limbo move) = some c') (hplace' : c'.place = .Limbo w')
    (hbridge : w.limbo.location ≠ .Bridge) {transfer : Option Nat} {packet : Clientbound}
    (hlogged : .Wrote transfer packet ∈ w'.limbo.log) :
    .Wrote transfer packet ∈ w.limbo.log ∨ ∃ write, c'.writes = c.writes ++ [write] ∧
      write.writer = if transfer = none then .Server else .Prepared := by
  simp only [step, hplace] at hstep
  obtain ⟨w₁, hnext, hplace₁, hwrote⟩ := limbo_step_wrote hstep
  rw [hplace'] at hplace₁
  cases hplace₁
  cases move with
  | Others queue =>
    cases hnext
    exact .inl hlogged
  | Session action =>
    obtain ⟨⟨q', s'⟩, hsession, rfl⟩ := Option.map_eq_some_iff.mp hnext
    cases Limbo.write_effect (Limbo.step_effect hsession) with
    | unwritten hlog hevents =>
      rw [hlog, List.mem_append] at hlogged
      exact .inl (hlogged.resolve_right (hevents transfer packet))
    | written haction hwriter hlog =>
      rw [hlog, List.mem_append, List.mem_singleton] at hlogged
      obtain hbefore | hnew := hlogged
      · exact .inl hbefore
      cases hnew
      obtain ⟨writes, hwrites, hmap⟩ := (hwrote.resolve_right fun h => h.1 true (by rw [haction])).2
      rw [hplace, Place.writer, hwriter, Option.map_eq_some_iff] at hmap
      obtain ⟨write, rfl, hwriter⟩ := hmap
      exact .inr ⟨write, hwrites, hwriter⟩
    | relayed hlocation => exact absurd hlocation hbridge

theorem Wrote.unprepared (hwrote : c.Wrote c') (h : ∀ w ∈ c.writes, w.writer = .Server)
    (hwriter : c.place.writer ≠ some .Prepared) : ∀ w ∈ c'.writes, w.writer = .Server := by
  obtain ⟨writes, hwrites, hmap⟩ := hwrote
  intro w hw
  rw [hwrites, List.mem_append, Option.mem_toList] at hw
  obtain hbefore | rfl := hw
  · exact h w hbefore
  · rw [← hmap] at hwriter
    cases hkind : w.writer with
    | Server => rfl
    | Prepared => simp [hkind] at hwriter

/-- One step of a run without a transfer: every write is one of the server's. -/
theorem step_writers (h : ∀ w ∈ c.writes, w.writer = .Server) (hallowed : c.untransferred a)
    (hstep : c.step settings a = some c') : ∀ w ∈ c'.writes, w.writer = .Server := by
  cases a with
  | Go done =>
    obtain ⟨next, hnext, hproceed⟩ := Option.bind_eq_some_iff.mp hstep
    refine (proceed_wrote hproceed).2.unprepared h ?_
    cases hplace : c.place with
    | Limbo w =>
      rw [hplace] at hnext
      cases hnext
    | _ => nofun
  | Limbo move =>
    simp only [step] at hstep
    split at hstep
    · obtain ⟨w', _, _, ⟨⟨written, rfl⟩, hwrote⟩ | ⟨_, hwrites⟩⟩ := limbo_step_wrote hstep
      · exact hwrote.unprepared h hallowed
      · rwa [hwrites]
    · cases hstep
  | Pass time =>
    cases hstep
    exact h
  | SetWriteDeadline =>
    obtain ⟨_, hc'⟩ := Option.ite_none_right_eq_some.mp hstep
    cases hc'
    exact h
  | Handshake | EnterLimbo =>
    simp only [step] at hstep
    split at hstep
    · cases hstep
      exact h
    · cases hstep

instance : Decidable (c.untransferred a) := by
  unfold untransferred
  split <;> infer_instance

end Connection

end Step

open Connection

/-- In every run, the writes of `writeFrame` are made under their own deadline and
those of a prepared transfer under the deadline of an earlier write. -/
theorem writes_explained {settings : Settings} {conn : Conn} {now : Int} {acts : List Action} {c : Connection}
    (run : Reaches (step settings) (start conn now) acts c) : Every (Explained settings.write_timeout) c.writes := by
  have h : c.Invariant settings.write_timeout :=
    run.invariant start_invariant fun h _ hstep => step_invariant h hstep
  exact h.writes

/-- In every run in which no prepared transfer writes to the client, every frame is
written under a deadline set for it, or under none. -/
theorem no_stale_deadline {settings : Settings} {conn : Conn} {now : Int} {acts : List Action} {c : Connection}
    (run : Runs (step settings) untransferred (start conn now) acts c) :
    ∀ w ∈ c.writes, w.Fresh settings.write_timeout := by
  intro w hw
  have hserver : ∀ w ∈ c.writes, w.writer = .Server :=
    run.invariant nofun fun h hallowed hstep => step_writers h hallowed hstep
  obtain ⟨before, after, hwrites⟩ := List.append_of_mem hw
  have hexplained := writes_explained run.reaches before w after hwrites
  rw [Explained, hserver w hw] at hexplained
  exact .inr hexplained

/-- `writeFrame` and what follows it. -/
def written (action : Action) : List Action := [.SetWriteDeadline, action]

/-- A login in offline mode, the join sequence and the first keepalive. -/
def loginActions : List Action :=
  .Handshake [0x00, 0xfd, 0x05, 0x01, 0x61, 0x63, 0xdd, 0x02] true :: .Go true :: written (.Go true) ++
    .Go true :: written (.Go true) ++ written (.Go true) ++
    .EnterLimbo (.new 0) Limbo.sampleUUID none ::
    (List.replicate 6 (written (.Limbo (.Session (.Proceed true))))).flatten ++
    [.Limbo (.Session (.Proceed true)), .Limbo (.Session (.Frame (.ok [0x00, 0x01])))] ++
    written (.Limbo (.Session (.Proceed true)))

/-- An offline server. -/
def sampleSettings : Settings := ⟨10, false, Limbo.sampleConfig⟩

/-- The keepalive is answered and the next one is written later. -/
def keepAliveActions : List Action :=
  [.Limbo (.Session (.Frame (.ok (Limbo.keepAliveFrame 1)))), .Limbo (.Session (.Proceed true)), .Pass 15,
    .Limbo (.Session .Tick)] ++ written (.Limbo (.Session (.Proceed true)))

theorem no_stale_deadline_two_keepalives :
    ∃ c, Runs (step sampleSettings) untransferred (start 0 0) (loginActions ++ keepAliveActions) c ∧
      c.writes.getLast? = some ⟨.Server, 15, some 25, some 15⟩ ∧
      ∀ w ∈ c.writes, w.Fresh sampleSettings.write_timeout := by
  obtain ⟨c, run, hobserved⟩ : ∃ c, Runs (step sampleSettings) untransferred (start 0 0)
      (loginActions ++ keepAliveActions) c ∧
      decide (c.writes.getLast? = some ⟨.Server, 15, some 25, some 15⟩) = true :=
    Runs.of_exec (fun _ _ hok => of_decide_eq_true hok) _ (by decide +kernel)
  exact ⟨c, run, of_decide_eq_true hobserved, no_stale_deadline run⟩

/-- The last keepalive was written at time 0; `Prepare` takes longer than the
write timeout, and Start Configuration is written under a deadline that has
passed. -/
theorem start_configuration_past_deadline :
    ∃ c, Reaches (step sampleSettings) (start 0 0)
        (loginActions ++ Limbo.beginMoves.map .Limbo ++ .Pass 11 :: (Limbo.prepareMoves []).map .Limbo ++
          [.Limbo (.Session .PrepareResult), .Limbo (.Session (.Proceed true)),
            .Limbo (.Session (.Proceed false))]) c ∧
      ∃ w, c.writes.getLast? = some w ∧ w.writer = .Prepared ∧ w.deadline = some 10 ∧ w.time = 11 ∧
        ¬ w.Fresh sampleSettings.write_timeout := by
  obtain ⟨c, run, hobserved⟩ : ∃ c, Reaches (step sampleSettings) (start 0 0)
      (loginActions ++ Limbo.beginMoves.map .Limbo ++ .Pass 11 :: (Limbo.prepareMoves []).map .Limbo ++
        [.Limbo (.Session .PrepareResult), .Limbo (.Session (.Proceed true)),
          .Limbo (.Session (.Proceed false))]) c ∧
      decide (c.writes.getLast? = some ⟨.Prepared, 11, some 10, none⟩) = true :=
    Reaches.of_exec _ (by decide +kernel)
  refine ⟨c, run, _, of_decide_eq_true hobserved, rfl, rfl, rfl, ?_⟩
  rintro (hnone | ⟨t, hset, _⟩)
  · cases hnone
  · cases hset

end timed

end regiongate.server
