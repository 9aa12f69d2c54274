import RegionGate.Challenge
import RegionGate.Codec.RoundTrip
import RegionGate.Protocol.Play

open regiongate.codec execution challenge

namespace regiongate.bridge

/-- A frame that reached one of the two peers. -/
inductive Written where
  | ToClient (frame : Bytes)
  | ToBackend (frame : Bytes)
  deriving DecidableEq

/-- The result of `WriteFrame`. A failed write ends the bridge; its frame may or
may not have reached the peer. -/
inductive WriteOutcome where
  | Written
  | Failed (reached : Bool)
  deriving DecidableEq

/-- One run of `RunPlay`. The two streams hold what the peers have sent so far,
and the two counters how much of each the loop has received; the reader
goroutines and their channels hand frames over in order. -/
structure Play where
  max_pending_keep_alives : Int
  from_backend : List Bytes
  from_client : List Bytes
  taken_backend : Nat
  taken_client : Nat
  pending_keep_alives : Finset Int
  written : List Written
  result : Option Error
  deriving DecidableEq

/-- Either peer sends a frame, the loop takes one and writes it or its read fails, or
the context ends. -/
inductive Action where
  | BackendSends (frame : Bytes)
  | ClientSends (frame : Bytes)
  | BackendFrame (outcome : WriteOutcome)
  | ClientFrame (outcome : WriteOutcome)
  | BackendReadFails
  | ClientReadFails
  | Cancelled
  deriving DecidableEq

/-- The identifier of a clientbound keepalive with a complete body. -/
def backend_keep_alive (frame : Bytes) : Option Int :=
  match packet_id frame with
  | .error _ => none
  | .ok (id, body) =>
    if id = play.ClientboundKeepAliveID ∧ body.length = 8 then some (play.uint64 body).toInt64.toInt
    else none

/-- The identifier of a serverbound keepalive, the client's answer. -/
def client_keep_alive (frame : Bytes) : Option Int := (play.parse_keep_alive frame).toOption

namespace Play

/-- `RunPlay` has been called, with the default of the limit in place. -/
def start (max_pending_keep_alives : Int) : Play where
  max_pending_keep_alives := if max_pending_keep_alives ≤ 0 then 16 else max_pending_keep_alives
  from_backend := []
  from_client := []
  taken_backend := 0
  taken_client := 0
  pending_keep_alives := ∅
  written := []
  result := none

/-- The last step of either case: the frame is written to the other side. -/
def forward (s : Play) (event : Written) : WriteOutcome → Play
  | .Written => { s with written := s.written ++ [event] }
  | .Failed true => { s with written := s.written ++ [event], result := some .Write }
  | .Failed false => { s with result := some .Write }

/-- The loop receives a frame of the backend. -/
def backend_frame (s : Play) (frame : Bytes) (outcome : WriteOutcome) : Play :=
  let s := { s with taken_backend := s.taken_backend + 1 }
  match packet_id frame with
  | .error e => { s with result := some e }
  | .ok (id, body) =>
    if id = play.ClientboundKeepAliveID then
      if body.length ≠ 8 ∨ (s.pending_keep_alives.card : Int) ≥ s.max_pending_keep_alives then
        { s with result := some .KeepAliveLimit }
      else
        { s with pending_keep_alives :=
            insert (play.uint64 body).toInt64.toInt s.pending_keep_alives }.forward
          (.ToClient frame) outcome
    else s.forward (.ToClient frame) outcome

/-- The loop receives a frame of the client. -/
def client_frame (s : Play) (frame : Bytes) (outcome : WriteOutcome) : Play :=
  let s := { s with taken_client := s.taken_client + 1 }
  match packet_id frame with
  | .error e => { s with result := some e }
  | .ok (id, _) =>
    if id = play.ServerboundKeepAliveID then
      match play.parse_keep_alive frame with
      | .error e => { s with result := some e }
      | .ok keep_alive_id =>
        if keep_alive_id ∉ s.pending_keep_alives then
          { s with result := some .UnexpectedBackendKeepAlive }
        else
          { s with pending_keep_alives := s.pending_keep_alives.erase keep_alive_id }.forward
            (.ToBackend frame) outcome
    else s.forward (.ToBackend frame) outcome

/-- Peers may send at any time; the loop runs until it has returned. -/
def step (s : Play) (action : Action) : Option Play :=
  match action with
  | .BackendSends frame => some { s with from_backend := s.from_backend ++ [frame] }
  | .ClientSends frame => some { s with from_client := s.from_client ++ [frame] }
  | _ =>
    if s.result.isSome then none
    else
      match action with
      | .BackendFrame outcome => (s.from_backend[s.taken_backend]?).map (s.backend_frame · outcome)
      | .ClientFrame outcome => (s.from_client[s.taken_client]?).map (s.client_frame · outcome)
      | .BackendReadFails | .ClientReadFails => some { s with result := some .Read }
      | _ => some { s with result := some .ContextDone }

end Play

/-- The frames written to the client. -/
def toClient : Written → Option Bytes
  | .ToClient frame => some frame
  | .ToBackend _ => none

/-- The frames written to the backend. -/
def toBackend : Written → Option Bytes
  | .ToClient _ => none
  | .ToBackend frame => some frame

@[simp] theorem filterMap_toClient_toBackend (frame : Bytes) :
    [Written.ToBackend frame].filterMap toClient = [] := rfl

@[simp] theorem filterMap_toBackend_toClient (frame : Bytes) :
    [Written.ToClient frame].filterMap toBackend = [] := rfl

/-- The keepalive a written frame puts to the client, and the one it answers. -/
def challenged (event : Written) : Option Int := (toClient event).bind backend_keep_alive

/-- The keepalive that a forwarded frame answers. -/
def answered (event : Written) : Option Int := (toBackend event).bind client_keep_alive

/-- A backend frame that the loop treats as a keepalive, complete or not. -/
def isKeepAlive (frame : Bytes) : Bool :=
  match packet_id frame with
  | .error _ => false
  | .ok (id, _) => id = play.ClientboundKeepAliveID

/-- The two errors with which the loop ends over a keepalive of one of the sides. -/
def keepAliveErrors : List Error := [.UnexpectedBackendKeepAlive, .KeepAliveLimit]

namespace Play

/-- Everything a step of the bridge can do. -/
inductive Effect (s : Play) : Action → Play → Prop where
  | backendSends (frame : Bytes) :
      Effect s (.BackendSends frame) { s with from_backend := s.from_backend ++ [frame] }
  | clientSends (frame : Bytes) :
      Effect s (.ClientSends frame) { s with from_client := s.from_client ++ [frame] }
  | interrupted {a : Action} {err : Error} (hrunning : s.result = none)
      (herr : err ∉ keepAliveErrors) : Effect s a { s with result := some err }
  | backendRejected {outcome : WriteOutcome} {frame : Bytes} {err : Error} (hrunning : s.result = none)
      (htaken : s.from_backend[s.taken_backend]? = some frame)
      (herr : err ∉ keepAliveErrors) :
      Effect s (.BackendFrame outcome)
        { s with taken_backend := s.taken_backend + 1, result := some err }
  | limited {outcome : WriteOutcome} {frame : Bytes} (hrunning : s.result = none)
      (htaken : s.from_backend[s.taken_backend]? = some frame) (hframe : isKeepAlive frame = true)
      (hlimit : backend_keep_alive frame = none ∨
        s.max_pending_keep_alives ≤ (s.pending_keep_alives.card : Int)) :
      Effect s (.BackendFrame outcome)
        { s with taken_backend := s.taken_backend + 1, result := some .KeepAliveLimit }
  | clientRejected {outcome : WriteOutcome} {frame : Bytes} {err : Error} (hrunning : s.result = none)
      (htaken : s.from_client[s.taken_client]? = some frame) (hother : client_keep_alive frame = none)
      (herr : err ∉ keepAliveErrors) :
      Effect s (.ClientFrame outcome) { s with taken_client := s.taken_client + 1, result := some err }
  | unexpected {outcome : WriteOutcome} {frame : Bytes} {id : Int} (hrunning : s.result = none)
      (htaken : s.from_client[s.taken_client]? = some frame) (hid : client_keep_alive frame = some id)
      (hpending : id ∉ s.pending_keep_alives) :
      Effect s (.ClientFrame outcome) { s with
        taken_client := s.taken_client + 1, result := some .UnexpectedBackendKeepAlive }
  | challenge {outcome : WriteOutcome} {frame : Bytes} {id : Int} (hrunning : s.result = none)
      (htaken : s.from_backend[s.taken_backend]? = some frame) (hid : backend_keep_alive frame = some id)
      (hroom : (s.pending_keep_alives.card : Int) < s.max_pending_keep_alives) :
      Effect s (.BackendFrame outcome) ({ s with
        taken_backend := s.taken_backend + 1
        pending_keep_alives := insert id s.pending_keep_alives }.forward (.ToClient frame) outcome)
  | clientbound {outcome : WriteOutcome} {frame : Bytes} (hrunning : s.result = none)
      (htaken : s.from_backend[s.taken_backend]? = some frame) (hid : backend_keep_alive frame = none) :
      Effect s (.BackendFrame outcome)
        ({ s with taken_backend := s.taken_backend + 1 }.forward (.ToClient frame) outcome)
  | answer {outcome : WriteOutcome} {frame : Bytes} {id : Int} (hrunning : s.result = none)
      (htaken : s.from_client[s.taken_client]? = some frame) (hid : client_keep_alive frame = some id)
      (hpending : id ∈ s.pending_keep_alives) :
      Effect s (.ClientFrame outcome) ({ s with
        taken_client := s.taken_client + 1
        pending_keep_alives := s.pending_keep_alives.erase id }.forward (.ToBackend frame) outcome)
  | serverbound {outcome : WriteOutcome} {frame : Bytes} (hrunning : s.result = none)
      (htaken : s.from_client[s.taken_client]? = some frame) (hid : client_keep_alive frame = none) :
      Effect s (.ClientFrame outcome)
        ({ s with taken_client := s.taken_client + 1 }.forward (.ToBackend frame) outcome)

private theorem backend_frame_effect {s : Play} {frame : Bytes} {outcome : WriteOutcome}
    (hrunning : s.result = none) (htaken : s.from_backend[s.taken_backend]? = some frame) :
    Effect s (.BackendFrame outcome) (s.backend_frame frame outcome) := by
  unfold backend_frame
  cases hid : packet_id frame with
  | error e =>
    refine .backendRejected hrunning htaken ?_
    obtain rfl | rfl | rfl := packet_id_error hid <;> decide
  | ok packet =>
    obtain ⟨id, body⟩ := packet
    dsimp only
    by_cases hkeepAlive : id = play.ClientboundKeepAliveID
    · rw [if_pos hkeepAlive]
      by_cases hlimit : body.length ≠ 8 ∨
          (s.pending_keep_alives.card : Int) ≥ s.max_pending_keep_alives
      · rw [if_pos hlimit]
        refine .limited hrunning htaken (by simp [isKeepAlive, hid, hkeepAlive]) ?_
        refine hlimit.imp_left fun hbody => ?_
        simp [backend_keep_alive, hid, hkeepAlive, hbody]
      · rw [if_neg hlimit]
        obtain ⟨hbody, hroom⟩ := not_or.mp hlimit
        rw [not_not] at hbody
        refine .challenge hrunning htaken ?_ (by omega)
        simp [backend_keep_alive, hid, hkeepAlive, hbody]
    · rw [if_neg hkeepAlive]
      exact .clientbound hrunning htaken (by simp [backend_keep_alive, hid, hkeepAlive])

/-- An answer to a pending keepalive is forwarded. -/
theorem client_frame_answer {s : Play} {frame : Bytes} {id : Int} {outcome : WriteOutcome}
    (hid : client_keep_alive frame = some id) (hpending : id ∈ s.pending_keep_alives) :
    s.client_frame frame outcome = { s with
      taken_client := s.taken_client + 1
      pending_keep_alives := s.pending_keep_alives.erase id }.forward (.ToBackend frame) outcome := by
  have hparse : play.parse_keep_alive frame = .ok id := by
    unfold client_keep_alive at hid
    cases hframe : play.parse_keep_alive frame <;> simp_all [Except.toOption]
  unfold client_frame
  cases hpacket : packet_id frame with
  | error e => simp [play.parse_keep_alive, hpacket] at hparse
  | ok packet =>
    have hkeepAlive : packet.1 = play.ServerboundKeepAliveID := by
      by_contra hother
      simp [play.parse_keep_alive, hpacket, hother] at hparse
    simp [hkeepAlive, hparse, hpending]

private theorem client_frame_effect {s : Play} {frame : Bytes} {outcome : WriteOutcome}
    (hrunning : s.result = none) (htaken : s.from_client[s.taken_client]? = some frame) :
    Effect s (.ClientFrame outcome) (s.client_frame frame outcome) := by
  unfold client_frame
  cases hid : packet_id frame with
  | error e =>
    refine .clientRejected hrunning htaken ?_ ?_
    · simp [client_keep_alive, play.parse_keep_alive, hid, Except.toOption]
    · obtain rfl | rfl | rfl := packet_id_error hid <;> decide
  | ok packet =>
    obtain ⟨id, body⟩ := packet
    dsimp only
    by_cases hkeepAlive : id = play.ServerboundKeepAliveID
    · rw [if_pos hkeepAlive]
      cases hparse : play.parse_keep_alive frame with
      | error e =>
        refine .clientRejected hrunning htaken (by simp [client_keep_alive, hparse, Except.toOption]) ?_
        simp only [play.parse_keep_alive, hid] at hparse
        split at hparse
        · cases hparse
          decide
        · cases hparse
      | ok value =>
        have hvalue : client_keep_alive frame = some value := by
          simp [client_keep_alive, hparse, Except.toOption]
        dsimp only
        by_cases hpending : value ∈ s.pending_keep_alives
        · rw [if_neg (not_not.mpr hpending)]
          exact .answer hrunning htaken hvalue hpending
        · rw [if_pos hpending]
          exact .unexpected hrunning htaken hvalue hpending
    · rw [if_neg hkeepAlive]
      refine .serverbound hrunning htaken ?_
      simp [client_keep_alive, play.parse_keep_alive, hid, hkeepAlive, Except.toOption]

theorem step_effect {s s' : Play} {a : Action} (h : s.step a = some s') : Effect s a s' := by
  unfold step at h
  cases a with
  | BackendSends frame =>
    cases h
    exact .backendSends frame
  | ClientSends frame =>
    cases h
    exact .clientSends frame
  | BackendFrame outcome =>
    dsimp only at h
    split at h
    · cases h
    · rename_i hrunning
      obtain ⟨frame, htaken, rfl⟩ := Option.map_eq_some_iff.mp h
      exact backend_frame_effect (by simpa using hrunning) htaken
  | ClientFrame outcome =>
    dsimp only at h
    split at h
    · cases h
    · rename_i hrunning
      obtain ⟨frame, htaken, rfl⟩ := Option.map_eq_some_iff.mp h
      exact client_frame_effect (by simpa using hrunning) htaken
  | BackendReadFails =>
    dsimp only at h
    split at h
    · cases h
    · rename_i hrunning
      cases h
      exact .interrupted (by simpa using hrunning) (by decide)
  | ClientReadFails =>
    dsimp only at h
    split at h
    · cases h
    · rename_i hrunning
      cases h
      exact .interrupted (by simpa using hrunning) (by decide)
  | Cancelled =>
    dsimp only at h
    split at h
    · cases h
    · rename_i hrunning
      cases h
      exact .interrupted (by simpa using hrunning) (by decide)

@[simp] theorem forward_limit (s : Play) (event : Written) (outcome : WriteOutcome) :
    (s.forward event outcome).max_pending_keep_alives = s.max_pending_keep_alives := by
  cases outcome with
  | Written => rfl
  | Failed reached => cases reached <;> rfl

theorem step_limit {s s' : Play} {a : Action} (hstep : s.step a = some s') :
    s'.max_pending_keep_alives = s.max_pending_keep_alives := by
  cases step_effect hstep <;> simp

/-- No step changes the limit on pending keepalives. -/
theorem run_limit {limit : Int} {acts : List Action} {s : Play}
    (run : Reaches step (start limit) acts s) :
    s.max_pending_keep_alives = if limit ≤ 0 then 16 else limit := by
  induction run with
  | nil => rfl
  | snoc _ _ hstep ih => exact (step_limit hstep).trans ih

/-- The limit, with its default, lets at least one keepalive wait. -/
theorem start_limit (limit : Int) : 0 < (start limit).max_pending_keep_alives := by
  simp only [start]
  split <;> omega

/-- What a run of the bridge keeps of its two streams: each side has received a
part of the other's frames from their beginning, and all that the loop took
while it runs. -/
structure Streams (s : Play) : Prop where
  client : s.written.filterMap toClient <+: s.from_backend
  client_length : s.result = none → (s.written.filterMap toClient).length = s.taken_backend
  backend : s.written.filterMap toBackend <+: s.from_client
  backend_length : s.result = none → (s.written.filterMap toBackend).length = s.taken_client

theorem start_streams (limit : Int) : (start limit).Streams := by
  constructor <;> simp [start]

theorem prefix_snoc {α : Type} {l part : List α} {next : α} (h : part <+: l)
    (hnext : l[part.length]? = some next) : part ++ [next] <+: l := by
  obtain ⟨rest, rfl⟩ := h
  rw [List.getElem?_append_right (le_refl _), Nat.sub_self] at hnext
  cases rest with
  | nil => simp at hnext
  | cons head tail =>
    simp only [List.getElem?_cons_zero, Option.some.injEq] at hnext
    exact ⟨tail, by simp [hnext]⟩

/-- Forwarding the next frame to the client, whatever becomes of the write. -/
theorem Streams.forward_client {s : Play} {frame : Bytes} (h : s.Streams) (pending : Finset Int)
    (hrunning : s.result = none) (htaken : s.from_backend[s.taken_backend]? = some frame)
    (outcome : WriteOutcome) :
    ({ s with taken_backend := s.taken_backend + 1, pending_keep_alives := pending }.forward
      (.ToClient frame) outcome).Streams := by
  have hlength := h.client_length hrunning
  have hnext := prefix_snoc h.client (by rw [hlength]; exact htaken)
  cases outcome with
  | Written =>
    refine ⟨by simpa [forward, toClient] using hnext, ?_, by simpa [forward, toBackend] using h.backend, ?_⟩
    · simp [forward, toClient, hlength]
    · intro _
      simpa [forward, toBackend] using h.backend_length hrunning
  | Failed reached =>
    cases reached with
    | true =>
      refine ⟨by simpa [forward, toClient] using hnext, by simp [forward],
        by simpa [forward, toBackend] using h.backend, by simp [forward]⟩
    | false => exact ⟨h.client, by simp [forward], h.backend, by simp [forward]⟩

/-- Forwarding the next frame to the backend, whatever becomes of the write. -/
theorem Streams.forward_backend {s : Play} {frame : Bytes} (h : s.Streams) (pending : Finset Int)
    (hrunning : s.result = none) (htaken : s.from_client[s.taken_client]? = some frame)
    (outcome : WriteOutcome) :
    ({ s with taken_client := s.taken_client + 1, pending_keep_alives := pending }.forward
      (.ToBackend frame) outcome).Streams := by
  have hlength := h.backend_length hrunning
  have hnext := prefix_snoc h.backend (by rw [hlength]; exact htaken)
  cases outcome with
  | Written =>
    refine ⟨by simpa [forward, toClient] using h.client, ?_, by simpa [forward, toBackend] using hnext, ?_⟩
    · intro _
      simpa [forward, toClient] using h.client_length hrunning
    · simp [forward, toBackend, hlength]
  | Failed reached =>
    cases reached with
    | true =>
      refine ⟨by simpa [forward, toClient] using h.client, by simp [forward],
        by simpa [forward, toBackend] using hnext, by simp [forward]⟩
    | false => exact ⟨h.client, by simp [forward], h.backend, by simp [forward]⟩

/-- One step: what has been written in either direction is a prefix of what was sent. -/
theorem step_streams {s s' : Play} {a : Action} (h : s.Streams) (hstep : s.step a = some s') :
    s'.Streams := by
  cases step_effect hstep with
  | backendSends frame =>
    exact ⟨h.client.trans (List.prefix_append _ _), h.client_length, h.backend, h.backend_length⟩
  | clientSends frame =>
    exact ⟨h.client, h.client_length, h.backend.trans (List.prefix_append _ _), h.backend_length⟩
  | interrupted _ _ => exact ⟨h.client, by simp, h.backend, by simp⟩
  | backendRejected _ _ _ => exact ⟨h.client, by simp, h.backend, by simp⟩
  | limited _ _ _ _ => exact ⟨h.client, by simp, h.backend, by simp⟩
  | clientRejected _ _ _ _ => exact ⟨h.client, by simp, h.backend, by simp⟩
  | unexpected _ _ _ _ => exact ⟨h.client, by simp, h.backend, by simp⟩
  | challenge hrunning htaken _ _ => exact h.forward_client _ hrunning htaken _
  | clientbound hrunning htaken _ => exact h.forward_client _ hrunning htaken _
  | answer hrunning htaken _ _ => exact h.forward_backend _ hrunning htaken _
  | serverbound hrunning htaken _ => exact h.forward_backend _ hrunning htaken _

/-- The keepalives of a run: what the pending set means while the loop runs, that
it never outgrows the limit, and that no answer was forwarded unasked. -/
structure KeepAlives (s : Play) : Prop where
  pending : s.result = none → ∀ id, id ∈ s.pending_keep_alives ↔ Awaiting challenged answered s.written id
  bounded : ∀ ids : Finset Int, (∀ id ∈ ids, Awaiting challenged answered s.written id) →
    (ids.card : Int) ≤ s.max_pending_keep_alives
  justified : Every (fun before e => ∀ id, answered e = some id → Awaiting challenged answered before id)
    s.written

theorem start_keepAlives (limit : Int) : (start limit).KeepAlives where
  pending := by
    intro _ id
    simp [start, not_awaiting_nil]
  bounded := by
    intro ids hids
    have hempty : ids = ∅ := by
      apply Finset.eq_empty_of_forall_notMem
      intro id hid
      exact not_awaiting_nil (hids id hid)
    have hlimit := start_limit limit
    rw [hempty, Finset.card_empty]
    omega
  justified := every_nil

/-- A frame is forwarded: the new pending set matches the history with it, and
has not outgrown the limit. -/
private theorem KeepAlives.forward {s t : Play} {event : Written} (h : s.KeepAlives)
    (hwritten : t.written = s.written) (hmax : t.max_pending_keep_alives = s.max_pending_keep_alives)
    (hanswer : ∀ id, answered event = some id → Awaiting challenged answered s.written id)
    (hpending : ∀ id, id ∈ t.pending_keep_alives ↔
      Awaiting challenged answered (s.written ++ [event]) id)
    (hroom : (t.pending_keep_alives.card : Int) ≤ s.max_pending_keep_alives)
    (outcome : WriteOutcome) : (t.forward event outcome).KeepAlives := by
  have hbounded : ∀ ids : Finset Int,
      (∀ id ∈ ids, Awaiting challenged answered (s.written ++ [event]) id) →
      (ids.card : Int) ≤ s.max_pending_keep_alives := by
    intro ids hids
    have hsubset : ids ⊆ t.pending_keep_alives := fun id hid => (hpending id).mpr (hids id hid)
    have hcard := Finset.card_le_card hsubset
    omega
  have hjustified := every_snoc.mpr ⟨h.justified, hanswer⟩
  cases outcome with
  | Written => exact ⟨by simpa [Play.forward, hwritten] using fun _ => hpending,
      by simpa [Play.forward, hwritten, hmax] using hbounded, by simpa only [Play.forward, hwritten] using hjustified⟩
  | Failed reached =>
    cases reached with
    | true => exact ⟨by simp [Play.forward], by simpa [Play.forward, hwritten, hmax] using hbounded,
        by simpa only [Play.forward, hwritten] using hjustified⟩
    | false => exact ⟨by simp [Play.forward], by simpa [Play.forward, hwritten, hmax] using h.bounded,
        by simpa only [Play.forward, hwritten] using h.justified⟩

/-- The loop returns without writing. -/
private theorem KeepAlives.ended {s t : Play} (h : s.KeepAlives) (hwritten : t.written = s.written)
    (hmax : t.max_pending_keep_alives = s.max_pending_keep_alives) (hresult : t.result ≠ none) :
    t.KeepAlives := by
  refine ⟨fun hrunning => absurd hrunning hresult, ?_, ?_⟩
  · rw [hwritten, hmax]
    exact h.bounded
  · rw [hwritten]
    exact h.justified

/-- While the loop runs the pending set itself respects the limit. -/
private theorem KeepAlives.card_le {s : Play} (h : s.KeepAlives) (hrunning : s.result = none) :
    (s.pending_keep_alives.card : Int) ≤ s.max_pending_keep_alives :=
  h.bounded _ fun id hid => (h.pending hrunning id).mp hid

/-- One step: every answer that is forwarded has a keepalive of its own before it. -/
theorem step_keepAlives {s s' : Play} {a : Action} (h : s.KeepAlives) (hstep : s.step a = some s') :
    s'.KeepAlives := by
  cases step_effect hstep with
  | backendSends frame => exact ⟨h.pending, h.bounded, h.justified⟩
  | clientSends frame => exact ⟨h.pending, h.bounded, h.justified⟩
  | interrupted _ _ => exact h.ended rfl rfl (by simp)
  | backendRejected _ _ _ => exact h.ended rfl rfl (by simp)
  | limited _ _ _ _ => exact h.ended rfl rfl (by simp)
  | clientRejected _ _ _ _ => exact h.ended rfl rfl (by simp)
  | unexpected _ _ _ _ => exact h.ended rfl rfl (by simp)
  | @challenge _ frame id hrunning _ hid hroom =>
    apply h.forward
    · rfl
    · rfl
    · simp [answered, toBackend]
    · intro other
      rw [Finset.mem_insert, h.pending hrunning, awaiting_snoc]
      simp [challenged, answered, toClient, toBackend, hid, eq_comm]
    · have hcard := Finset.card_insert_le id s.pending_keep_alives
      dsimp only
      omega
  | @clientbound _ frame hrunning _ hid =>
    apply h.forward
    · rfl
    · rfl
    · simp [answered, toBackend]
    · intro other
      rw [h.pending hrunning, awaiting_snoc]
      simp [challenged, answered, toClient, toBackend, hid]
    · exact h.card_le hrunning
  | @answer _ frame id hrunning _ hid hpending =>
    apply h.forward
    · rfl
    · rfl
    · intro other hother
      simp only [answered, toBackend, Option.bind_some, hid, Option.some.injEq] at hother
      subst hother
      exact (h.pending hrunning id).mp hpending
    · intro other
      rw [Finset.mem_erase, h.pending hrunning, awaiting_snoc]
      simp [challenged, answered, toClient, toBackend, hid, eq_comm, and_comm]
    · have hcard : (s.pending_keep_alives.erase id).card ≤ s.pending_keep_alives.card :=
        Finset.card_erase_le
      have hold := h.card_le hrunning
      dsimp only
      omega
  | @serverbound _ frame hrunning _ hid =>
    apply h.forward
    · rfl
    · rfl
    · simp [answered, toBackend, hid]
    · intro other
      rw [h.pending hrunning, awaiting_snoc]
      simp [challenged, answered, toClient, toBackend, hid]
    · exact h.card_le hrunning

end Play

/-- The bridge is transparent and its keepalive bookkeeping is sound: in every
state of every run both sides have received a part of the other's frames from
their beginning, every forwarded answer belongs to a keepalive of its own
that was forwarded before it, and the identifiers that still wait for an
answer stay within the limit. -/
theorem run_play_transparent (limit : Int) {acts : List Action} {s : Play}
    (run : Reaches Play.step (Play.start limit) acts s) :
    s.written.filterMap toClient <+: s.from_backend ∧
    s.written.filterMap toBackend <+: s.from_client ∧
    (∃ partner, Matching challenged answered s.written partner) ∧
    ∀ ids : Finset Int, (∀ id ∈ ids, Awaiting challenged answered s.written id) →
      (ids.card : Int) ≤ if limit ≤ 0 then 16 else limit := by
  have hstreams : s.Streams := run.invariant (Play.start_streams limit)
    fun h _ hstep => Play.step_streams h hstep
  have hkeepAlives : s.KeepAlives := run.invariant (Play.start_keepAlives limit)
    fun h _ hstep => Play.step_keepAlives h hstep
  have hlimit : s.max_pending_keep_alives = if limit ≤ 0 then 16 else limit :=
    Play.run_limit run
  refine ⟨hstreams.client, hstreams.backend, exists_matching hkeepAlives.justified, ?_⟩
  rw [← hlimit]
  exact hkeepAlives.bounded

/-- A keepalive that crosses other traffic and is answered. -/
private def answeredRun : List Action :=
  [.BackendSends [0x01], .BackendSends (0x24 :: play.put_uint64 77), .BackendFrame .Written,
    .ClientSends [0x17, 0x00], .BackendFrame .Written, .ClientSends (0x15 :: play.put_uint64 77),
    .ClientFrame .Written, .ClientFrame .Written]

/-- A keepalive and its answer, both forwarded. -/
theorem run_play_transparent_answered :
    ∃ s, Reaches Play.step (Play.start 0) answeredRun s ∧
      s.written.filterMap challenged = [77] ∧ s.written.filterMap answered = [77] ∧
      ∃ partner, Matching challenged answered s.written partner := by
  have hreached : ∃ s, Reaches Play.step (Play.start 0) answeredRun s ∧
      decide (s.written.filterMap challenged = [77] ∧ s.written.filterMap answered = [77]) = true :=
    Reaches.of_exec _ (by decide +kernel)
  obtain ⟨s, run, hobserved⟩ := hreached
  obtain ⟨hchallenged, hanswered⟩ := of_decide_eq_true hobserved
  obtain ⟨_, _, hmatching, _⟩ := run_play_transparent 0 run
  exact ⟨s, run, hchallenged, hanswered, hmatching⟩

end regiongate.bridge
