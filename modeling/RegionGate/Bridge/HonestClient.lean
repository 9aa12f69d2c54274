import RegionGate.Bridge.Play

open execution challenge

namespace regiongate.bridge

namespace Play

/-- An honest client answers the keepalives it received once each and in order:
its next answer carries the identifier of the first one without an answer. -/
def honest (s : Play) : Action → Bool
  | .ClientSends frame =>
    match client_keep_alive frame with
    | none => true
    | some id =>
      (s.written.filterMap challenged)[(s.from_client.filterMap client_keep_alive).length]? = some id
  | _ => true

/-- The backend's next keepalive does not repeat the identifier of one that is
still pending. -/
def fresh (s : Play) : Action → Bool
  | .BackendFrame _ =>
    match (s.from_backend[s.taken_backend]?).bind backend_keep_alive with
    | none => true
    | some id => id ∉ s.pending_keep_alives
  | _ => true

/-- The keepalives the client received less the answers the backend received. -/
def unanswered (s : Play) : Int :=
  (s.written.filterMap challenged).length - (s.written.filterMap answered).length

/-- The backend keeps to the limit: its next keepalive carries an identifier, and
fewer than the allowed number are without an answer when the loop takes it. -/
def withinLimit (s : Play) : Action → Bool
  | .BackendFrame _ =>
    match s.from_backend[s.taken_backend]? with
    | none => true
    | some frame =>
      !isKeepAlive frame ||
        ((backend_keep_alive frame).isSome && s.unanswered < s.max_pending_keep_alives)
  | _ => true

/-- The premises on both sides, asked of one step. -/
def orderly (s : Play) (a : Action) : Bool := s.honest a && s.fresh a && s.withinLimit a

/-- Under an honest client and fresh identifiers the keepalives form a queue:
the client's answers follow their order, and while the loop runs the pending
identifiers are those behind the forwarded answers, each once. -/
structure Ordered (s : Play) : Prop where
  answers : s.from_client.filterMap client_keep_alive <+: s.written.filterMap challenged
  waiting : s.result = none → ∃ waiting : List Int,
    s.written.filterMap challenged = s.written.filterMap answered ++ waiting ∧ waiting.Nodup ∧
      s.pending_keep_alives = waiting.toFinset
  accepted : ∀ err ∈ keepAliveErrors, s.result ≠ some err

theorem start_ordered (limit : Int) : (start limit).Ordered where
  answers := by simp [start]
  waiting := fun _ => ⟨[], by simp [start]⟩
  accepted := by simp [start]

/-- While the loop runs, the keepalives without an answer are the pending ones. -/
theorem Ordered.card_pending {s : Play} (h : s.Ordered) (hrunning : s.result = none) :
    (s.pending_keep_alives.card : Int) = s.unanswered := by
  obtain ⟨waiting, hsplit, hnodup, hpending⟩ := h.waiting hrunning
  rw [hpending, List.toFinset_card_of_nodup hnodup, unanswered, hsplit, List.length_append]
  omega

/-- The forwarded answers are those among the client's frames that the loop has
taken. -/
theorem Streams.answered_eq {s : Play} (h : s.Streams) (hrunning : s.result = none) :
    s.written.filterMap answered = (s.from_client.take s.taken_client).filterMap client_keep_alive := by
  have htake : s.written.filterMap toBackend = s.from_client.take s.taken_client := by
    rw [← h.backend_length hrunning]
    exact List.prefix_iff_eq_take.mp h.backend
  rw [← htake, List.filterMap_filterMap]
  rfl

/-- The next answer the loop takes belongs to the first keepalive that waits. -/
theorem Ordered.next_answer {s : Play} {frame : Bytes} {id : Int} (h : s.Ordered) (hstreams : s.Streams)
    (hrunning : s.result = none) (htaken : s.from_client[s.taken_client]? = some frame)
    (hid : client_keep_alive frame = some id) :
    ∃ rest, s.written.filterMap challenged = s.written.filterMap answered ++ id :: rest ∧
      (id :: rest).Nodup ∧ s.pending_keep_alives = (id :: rest).toFinset := by
  obtain ⟨waiting, hsplit, hnodup, hpending⟩ := h.waiting hrunning
  have hlater : s.from_client.filterMap client_keep_alive =
      s.written.filterMap answered ++
        id :: (s.from_client.drop (s.taken_client + 1)).filterMap client_keep_alive := by
    obtain ⟨hlt, rfl⟩ := List.getElem?_eq_some_iff.mp htaken
    rw [hstreams.answered_eq hrunning]
    conv_lhs => rw [← List.take_append_drop s.taken_client s.from_client,
      List.drop_eq_getElem_cons hlt, List.filterMap_append, List.filterMap_cons, hid]
  have hprefix := h.answers
  rw [hlater, hsplit, List.prefix_append_right_inj] at hprefix
  obtain ⟨tail, rfl⟩ := hprefix
  exact ⟨_, hsplit, hnodup, hpending⟩

/-- A frame for the client is forwarded: the client's answers still follow the
keepalives, and a new one joins the end of the queue. -/
private theorem Ordered.forward_client {s : Play} {frame : Bytes} {pending : Finset Int} (h : s.Ordered)
    (hrunning : s.result = none)
    (hpending : ∀ waiting : List Int, waiting.Nodup → s.pending_keep_alives = waiting.toFinset →
      ∃ more, (waiting ++ more).Nodup ∧ pending = (waiting ++ more).toFinset ∧
        [Written.ToClient frame].filterMap challenged = more)
    (outcome : WriteOutcome) :
    ({ s with taken_backend := s.taken_backend + 1, pending_keep_alives := pending }.forward
      (.ToClient frame) outcome).Ordered := by
  have hgrown : s.from_client.filterMap client_keep_alive <+:
      s.written.filterMap challenged ++ [Written.ToClient frame].filterMap challenged :=
    h.answers.trans (List.prefix_append _ _)
  cases outcome with
  | Written =>
    refine ⟨by simpa only [forward, List.filterMap_append] using hgrown, ?_, by simp [forward, hrunning]⟩
    intro _
    obtain ⟨waiting, hsplit, hnodup, hset⟩ := h.waiting hrunning
    obtain ⟨more, hnodup', hset', hmore⟩ := hpending waiting hnodup hset
    refine ⟨waiting ++ more, ?_, hnodup', hset'⟩
    simp only [forward, List.filterMap_append, hsplit, hmore]
    simp [answered, toBackend]
  | Failed reached =>
    cases reached with
    | true =>
      exact ⟨by simpa only [forward, List.filterMap_append] using hgrown, by simp [forward],
        by simp [forward, keepAliveErrors]⟩
    | false => exact ⟨h.answers, by simp [forward], by simp [forward, keepAliveErrors]⟩

/-- A frame for the backend is forwarded: it is no challenge, and an answer
leaves the front of the queue. -/
private theorem Ordered.forward_backend {s : Play} {frame : Bytes} {pending : Finset Int} (h : s.Ordered)
    (hrunning : s.result = none)
    (hpending : ∃ waiting : List Int, s.written.filterMap challenged =
      s.written.filterMap answered ++ [Written.ToBackend frame].filterMap answered ++ waiting ∧
        waiting.Nodup ∧ pending = waiting.toFinset)
    (outcome : WriteOutcome) :
    ({ s with taken_client := s.taken_client + 1, pending_keep_alives := pending }.forward
      (.ToBackend frame) outcome).Ordered := by
  have hsame : (s.written ++ [Written.ToBackend frame]).filterMap challenged =
      s.written.filterMap challenged := by
    simp [challenged, toClient]
  cases outcome with
  | Written =>
    refine ⟨by simpa only [forward, hsame] using h.answers, ?_, by simp [forward, hrunning]⟩
    intro _
    obtain ⟨waiting, hsplit, hnodup, hset⟩ := hpending
    exact ⟨waiting, by simpa only [forward, hsame, List.filterMap_append] using hsplit, hnodup, hset⟩
  | Failed reached =>
    cases reached with
    | true =>
      exact ⟨by simpa only [forward, hsame] using h.answers, by simp [forward],
        by simp [forward, keepAliveErrors]⟩
    | false => exact ⟨h.answers, by simp [forward], by simp [forward, keepAliveErrors]⟩

/-- One step. A new keepalive of the backend is the case that counts: the identifier
is free, or all its earlier answers have been taken. -/
theorem step_ordered {s s' : Play} {a : Action} (h : s.Ordered) (hstreams : s.Streams)
    (horderly : s.orderly a = true) (hstep : s.step a = some s') : s'.Ordered := by
  simp only [orderly, Bool.and_eq_true] at horderly
  obtain ⟨⟨hhonest, hfresh⟩, hwithin⟩ := horderly
  -- a loop that returns with any other error has not refused a keepalive
  have hother : ∀ {err : Error}, err ∉ keepAliveErrors →
      ∀ refused ∈ keepAliveErrors, some err ≠ some refused := by
    intro err herr refused hrefused heq
    rw [Option.some.injEq] at heq
    exact herr (heq ▸ hrefused)
  cases step_effect hstep with
  | backendSends frame => exact ⟨h.answers, h.waiting, h.accepted⟩
  | clientSends frame =>
    refine ⟨?_, h.waiting, h.accepted⟩
    rw [List.filterMap_append]
    simp only [honest] at hhonest
    cases hid : client_keep_alive frame with
    | none => simpa [hid] using h.answers
    | some id =>
      rw [hid] at hhonest
      simpa [hid] using prefix_snoc h.answers (of_decide_eq_true hhonest)
  | interrupted _ herr => exact ⟨h.answers, by simp, hother herr⟩
  | backendRejected _ _ herr => exact ⟨h.answers, by simp, hother herr⟩
  | clientRejected _ _ _ herr => exact ⟨h.answers, by simp, hother herr⟩
  | limited hrunning htaken hframe hlimit =>
    -- the backend would have sent an incomplete keepalive or one too many
    simp only [withinLimit, htaken, hframe, Bool.not_true, Bool.false_or, Bool.and_eq_true,
      decide_eq_true_eq, ← h.card_pending hrunning] at hwithin
    obtain hincomplete | hfull := hlimit
    · rw [hincomplete] at hwithin
      exact absurd hwithin.1 (by simp)
    · exact absurd hwithin.2 (not_lt.mpr hfull)
  | unexpected hrunning htaken hid hpending =>
    obtain ⟨rest, _, _, hset⟩ := h.next_answer hstreams hrunning htaken hid
    exact absurd (by simp [hset]) hpending
  | @challenge _ frame id hrunning htaken hid _ =>
    apply h.forward_client hrunning
    intro waiting hnodup hset
    have hnew : id ∉ waiting := by
      simp only [fresh, htaken, Option.bind_some, hid, hset, List.mem_toFinset] at hfresh
      exact of_decide_eq_true hfresh
    refine ⟨[id], ?_, ?_, by simp [challenged, toClient, hid]⟩
    · rw [List.nodup_append]
      exact ⟨hnodup, by simp, by simpa using fun other hother => ne_of_mem_of_not_mem hother hnew⟩
    · rw [hset]
      ext other
      simp
  | @clientbound _ frame hrunning _ hid =>
    apply h.forward_client hrunning
    intro waiting hnodup hset
    exact ⟨[], by simpa using hnodup, by simpa using hset, by simp [challenged, toClient, hid]⟩
  | @answer _ frame id hrunning htaken hid _ =>
    apply h.forward_backend hrunning
    obtain ⟨rest, hsplit, hnodup, hset⟩ := h.next_answer hstreams hrunning htaken hid
    obtain ⟨hfirst, hrest⟩ := List.nodup_cons.mp hnodup
    refine ⟨rest, by simp [hsplit, answered, toBackend, hid], hrest, ?_⟩
    rw [hset, List.toFinset_cons, Finset.erase_insert (by simpa using hfirst)]
  | @serverbound _ frame hrunning _ hid =>
    apply h.forward_backend hrunning
    obtain ⟨waiting, hsplit, hnodup, hset⟩ := h.waiting hrunning
    exact ⟨waiting, by simp [hsplit, answered, toBackend, hid], hnodup, hset⟩

/-- The loop takes the next answer and its write succeeds: the backend gets it. -/
theorem Ordered.forwards_answer {s : Play} {frame : Bytes} {id : Int} (h : s.Ordered) (hstreams : s.Streams)
    (hrunning : s.result = none) (htaken : s.from_client[s.taken_client]? = some frame)
    (hid : client_keep_alive frame = some id) :
    ∃ s', s.step (.ClientFrame .Written) = some s' ∧ s'.result = none ∧
      s'.written = s.written ++ [.ToBackend frame] := by
  obtain ⟨rest, _, _, hpending⟩ := h.next_answer hstreams hrunning htaken hid
  have hmem : id ∈ s.pending_keep_alives := by simp [hpending]
  refine ⟨s.client_frame frame .Written, by simp [step, hrunning, htaken], ?_⟩
  rw [client_frame_answer hid hmem]
  exact ⟨hrunning, rfl⟩

/-- Every answer the loop has taken was forwarded, was the one whose write
failed, or was the one refused as unexpected. -/
structure Delivered (s : Play) : Prop where
  taken : s.taken_client ≤ s.from_client.length
  delivered : ∀ {i frame id}, i < s.taken_client → s.from_client[i]? = some frame →
    client_keep_alive frame = some id → (s.written.filterMap toBackend)[i]? = some frame ∨
      s.result = some .Write ∨ s.result = some .UnexpectedBackendKeepAlive

theorem start_delivered (limit : Int) : (start limit).Delivered :=
  ⟨by simp [start], by simp [start]⟩

/-- While the loop runs, every taken frame was forwarded. -/
theorem Streams.forwarded {s : Play} {i : Nat} {frame : Bytes} (h : s.Streams) (hrunning : s.result = none)
    (hi : i < s.taken_client) (hframe : s.from_client[i]? = some frame) :
    (s.written.filterMap toBackend)[i]? = some frame := by
  obtain ⟨rest, hrest⟩ := h.backend
  have hlength := h.backend_length hrunning
  rw [← hrest, List.getElem?_append_left (by omega)] at hframe
  exact hframe

/-- A frame for the client does not touch what was taken from it. -/
private theorem Delivered.forward_client {s : Play} {frame : Bytes} (h : s.Delivered)
    (hstreams : s.Streams) (pending : Finset Int) (hrunning : s.result = none) (outcome : WriteOutcome) :
    ({ s with taken_backend := s.taken_backend + 1, pending_keep_alives := pending }.forward
      (.ToClient frame) outcome).Delivered := by
  cases outcome with
  | Written =>
    refine ⟨h.taken, ?_⟩
    intro i other id hi hother _
    left
    have hkept := hstreams.forwarded hrunning hi hother
    simpa [Play.forward] using hkept
  | Failed reached =>
    cases reached with
    | true => exact ⟨h.taken, fun _ _ _ => .inr (.inl rfl)⟩
    | false => exact ⟨h.taken, fun _ _ _ => .inr (.inl rfl)⟩

/-- One taken frame of the client, when its write decides whether it arrived. -/
private theorem Delivered.forward {s : Play} {frame : Bytes} {pending : Finset Int} (hstreams : s.Streams)
    (hrunning : s.result = none) (htaken : s.from_client[s.taken_client]? = some frame)
    (outcome : WriteOutcome) :
    ({ s with taken_client := s.taken_client + 1, pending_keep_alives := pending }.forward
      (.ToBackend frame) outcome).Delivered := by
  obtain ⟨hlt, _⟩ := List.getElem?_eq_some_iff.mp htaken
  cases outcome with
  | Written =>
    refine ⟨hlt, ?_⟩
    intro i other id hi hother _
    left
    have hnext := (hstreams.forward_backend pending hrunning htaken .Written).forwarded
      (by simpa [Play.forward] using hrunning) hi hother
    exact hnext
  | Failed reached =>
    cases reached with
    | true => exact ⟨hlt, fun _ _ _ => .inr (.inl rfl)⟩
    | false => exact ⟨hlt, fun _ _ _ => .inr (.inl rfl)⟩

/-- One step: an answer that is taken is forwarded, unless its own write fails. -/
theorem step_delivered {s s' : Play} {a : Action} (h : s.Delivered) (hstreams : s.Streams)
    (hstep : s.step a = some s') : s'.Delivered := by
  have hkept : s.result = none → ∀ {i frame}, i < s.taken_client → s.from_client[i]? = some frame →
      (s.written.filterMap toBackend)[i]? = some frame := fun hrunning => hstreams.forwarded hrunning
  cases step_effect hstep with
  | backendSends frame => exact ⟨h.taken, h.delivered⟩
  | clientSends frame =>
    refine ⟨le_trans h.taken (by simp), ?_⟩
    intro i other id hi hother hid
    have hlt : i < s.from_client.length := lt_of_lt_of_le hi h.taken
    rw [List.getElem?_append_left hlt] at hother
    exact h.delivered hi hother hid
  | interrupted hrunning _ =>
    exact ⟨h.taken, fun hi hother _ => .inl (hkept hrunning hi hother)⟩
  | backendRejected hrunning _ _ =>
    exact ⟨h.taken, fun hi hother _ => .inl (hkept hrunning hi hother)⟩
  | limited hrunning _ _ _ =>
    exact ⟨h.taken, fun hi hother _ => .inl (hkept hrunning hi hother)⟩
  | clientRejected hrunning htaken hnone _ =>
    obtain ⟨hlt, _⟩ := List.getElem?_eq_some_iff.mp htaken
    refine ⟨hlt, ?_⟩
    intro i other id hi hother hid
    by_cases hlast : i = s.taken_client
    · subst hlast
      rw [htaken, Option.some.injEq] at hother
      subst hother
      rw [hnone] at hid
      cases hid
    · exact .inl (hkept hrunning (by dsimp only at hi; omega) hother)
  | unexpected hrunning htaken _ _ =>
    obtain ⟨hlt, _⟩ := List.getElem?_eq_some_iff.mp htaken
    exact ⟨hlt, fun _ _ _ => .inr (.inr rfl)⟩
  | challenge hrunning _ _ _ => exact h.forward_client hstreams _ hrunning _
  | clientbound hrunning _ _ => exact h.forward_client hstreams _ hrunning _
  | answer hrunning htaken _ _ => exact .forward hstreams hrunning htaken _
  | serverbound hrunning htaken _ => exact .forward hstreams hrunning htaken _

end Play

/-- An honest client is never refused by an orderly backend: as long as no
keepalive repeats an identifier that is still pending and no more than the
allowed number wait for their answers, the bridge returns neither the
unexpected keepalive error nor the keepalive limit, every answer it has taken
was forwarded unless the write itself failed, and while it runs it forwards
the next answer as soon as it takes it. -/
theorem run_play_accepts_honest_client (limit : Int) {acts : List Action} {s : Play}
    (run : Runs Play.step (fun s a => s.orderly a = true) (Play.start limit) acts s) :
    s.result ≠ some .UnexpectedBackendKeepAlive ∧ s.result ≠ some .KeepAliveLimit ∧
    (∀ {i frame id}, i < s.taken_client → s.from_client[i]? = some frame →
      client_keep_alive frame = some id →
      (s.written.filterMap toBackend)[i]? = some frame ∨ s.result = some .Write) ∧
    (∀ {frame id}, s.result = none → s.from_client[s.taken_client]? = some frame →
      client_keep_alive frame = some id →
      ∃ s', s.step (.ClientFrame .Written) = some s' ∧ s'.result = none ∧
        s'.written = s.written ++ [.ToBackend frame]) := by
  have hinvariant : s.Streams ∧ s.Ordered ∧ s.Delivered := by
    apply run.invariant
    · exact ⟨Play.start_streams limit, Play.start_ordered limit, Play.start_delivered limit⟩
    rintro s a s' ⟨hstreams, hordered, hdelivered⟩ horderly hstep
    exact ⟨Play.step_streams hstreams hstep, Play.step_ordered hordered hstreams horderly hstep,
      Play.step_delivered hdelivered hstreams hstep⟩
  obtain ⟨hstreams, hordered, hdelivered⟩ := hinvariant
  have hunexpected := hordered.accepted .UnexpectedBackendKeepAlive (by decide)
  refine ⟨hunexpected, hordered.accepted .KeepAliveLimit (by decide), ?_, ?_⟩
  · intro i frame id hi hframe hid
    obtain hforwarded | hwrite | hrefused := hdelivered.delivered hi hframe hid
    · exact .inl hforwarded
    · exact .inr hwrite
    · exact absurd hrefused hunexpected
  · intro frame id hrunning htaken hid
    exact hordered.forwards_answer hstreams hrunning htaken hid

/-- A keepalive of the backend. -/
private def keepAliveFrame (id : UInt64) : Bytes := 0x24 :: play.put_uint64 id

/-- The client's answer to it. -/
private def answerFrame (id : UInt64) : Bytes := 0x15 :: play.put_uint64 id

/-- Two keepalives, the second with the identifier that was just answered. -/
private def reusedRun : List Action :=
  [.BackendSends (keepAliveFrame 7), .BackendFrame .Written, .ClientSends (answerFrame 7),
    .ClientFrame .Written, .BackendSends (keepAliveFrame 7), .BackendFrame .Written,
    .ClientSends (answerFrame 7), .ClientFrame .Written]

/-- A backend that uses an identifier again after its answer, with a limit of one. -/
theorem run_play_accepts_honest_client_reused_identifier :
    ∃ s, Runs Play.step (fun s a => s.orderly a = true) (Play.start 1) reusedRun s ∧
      s.taken_client = 2 ∧ s.written.filterMap answered = [7, 7] ∧ s.result ≠ some .KeepAliveLimit := by
  have hreached : ∃ s, Runs Play.step (fun s a => s.orderly a = true) (Play.start 1) reusedRun s ∧
      decide (s.taken_client = 2 ∧ s.written.filterMap answered = [7, 7]) = true :=
    Runs.of_exec (fun _ _ hok => hok) _ (by decide +kernel)
  obtain ⟨s, run, hobserved⟩ := hreached
  obtain ⟨htaken, hanswered⟩ := of_decide_eq_true hobserved
  exact ⟨s, run, htaken, hanswered, (run_play_accepts_honest_client 1 run).2.1⟩

/-- The backend repeats an identifier before the client has answered it. -/
private def repeatedRun : List Action :=
  [.BackendSends (keepAliveFrame 7), .BackendFrame .Written, .BackendSends (keepAliveFrame 7),
    .BackendFrame .Written, .ClientSends (answerFrame 7), .ClientFrame .Written,
    .ClientSends (answerFrame 7), .ClientFrame .Written]

/-- The pending set holds a repeated identifier once, so the honest client's
second answer is refused, with two keepalives out of the sixteen allowed. -/
theorem run_play_refuses_repeated_identifier :
    ∃ s, Runs Play.step (fun s a => (s.honest a && s.withinLimit a) = true) (Play.start 0)
      repeatedRun s ∧ (s.written.filterMap challenged).length = 2 ∧ s.written.filterMap answered = [7] ∧
      s.result = some .UnexpectedBackendKeepAlive := by
  have hreached : ∃ s, Runs Play.step (fun s a => (s.honest a && s.withinLimit a) = true) (Play.start 0)
      repeatedRun s ∧
      decide ((s.written.filterMap challenged).length = 2 ∧ s.written.filterMap answered = [7] ∧
        s.result = some .UnexpectedBackendKeepAlive) = true :=
    Runs.of_exec (fun _ _ hok => hok) _ (by decide +kernel)
  obtain ⟨s, run, hobserved⟩ := hreached
  exact ⟨s, run, of_decide_eq_true hobserved⟩

end regiongate.bridge
