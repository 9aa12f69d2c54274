import Mathlib.Data.List.TakeWhile
import RegionGate.Transport.Dialogue

open checked execution framing regiongate.codec

namespace regiongate.transport

/-- What `WriteFrame` returns other than `nil`: `ErrClosed`, or the error with which
the writer loop could not write the frame. -/
inductive CallError where
  | Closed
  | Frame (err : Error)
  deriving DecidableEq

/-- Where a call of `WriteFrame` is: at its first `select`, at its second, or back
at its caller. -/
inductive CallPoint where
  | Offering
  | Awaiting
  | Returned (err : Option CallError)
  deriving DecidableEq

/-- A call of `WriteFrame`. `result` is what the writer loop has put in the result
channel of its request, which has room for one result. -/
structure Call where
  payload : Bytes
  point : CallPoint
  result : Option (Option Error)
  deriving DecidableEq

/-- Where the writer loop is: at its `select`, in the write of the request of a
call, or gone. -/
inductive WriterPoint where
  | Select
  | Writing (call : Nat)
  | Exited
  deriving DecidableEq

/-- A transport with any number of calls of `WriteFrame`, numbered as they are
made, its writer loop, and `Close`. `served` logs the writes of the loop. -/
structure Callers where
  calls : List Call
  writer : WriterPoint
  done : Bool
  sender : Sender
  served : List (Nat × Bytes × Option Error)

/-- `WriteFrame` is called; the writer loop takes the request or the call finds the
transport closed; the loop writes the frame and answers; the caller receives the
answer or gives up once the transport is closed; `Close` is called, and the writer
loop leaves. -/
inductive CallersAction where
  | Call (payload : Bytes)
  | Take (call : Nat)
  | Refuse (call : Nat)
  | Write (results : List WriteResult)
  | Receive (call : Nat)
  | Abandon (call : Nat)
  | Close
  | Exit

namespace Callers

/-- The writer loop of `New` at its `select`. -/
def start (t : Transport) : Callers where
  calls := []
  writer := .Select
  done := false
  sender := .start t
  served := []

/-- A call goes on. -/
def setCall (s : Callers) (n : Nat) (call : Call) : Callers := { s with calls := s.calls.set n call }

/-- One step. A `select` with more than one case ready takes any of them. -/
def step (zlib : Zlib) (aes : Aes) (s : Callers) : CallersAction → Option Callers
  | .Call payload => some { s with calls := s.calls ++ [{ payload, point := .Offering, result := none }] }
  | .Take n =>
    match s.calls[n]? with
    | none => none
    | some call =>
      if call.point = .Offering ∧ s.writer = .Select then
        some { s.setCall n { call with point := .Awaiting } with writer := .Writing n }
      else none
  | .Refuse n =>
    match s.calls[n]? with
    | none => none
    | some call =>
      if call.point = .Offering ∧ s.done then some (s.setCall n { call with point := .Returned (some .Closed) })
      else none
  | .Write results =>
    match s.writer with
    | .Writing n =>
      match s.calls[n]? with
      | none => none
      | some call =>
        match s.sender.endpoint.write_frame zlib aes results call.payload with
        | none => none
        | some w =>
          if call.result = none then
            some { s.setCall n { call with result := some w.err } with
              writer := .Select
              sender := { endpoint := w.endpoint, wire := s.sender.wire ++ w.out,
                          answers := s.sender.answers ++ [(call.payload, w.err)] }
              served := s.served ++ [(n, call.payload, w.err)] }
          else none
    | _ => none
  | .Receive n =>
    match s.calls[n]? with
    | none => none
    | some call =>
      match call.point, call.result with
      | .Awaiting, some err => some (s.setCall n { call with point := .Returned (err.map .Frame) })
      | _, _ => none
  | .Abandon n =>
    match s.calls[n]? with
    | none => none
    | some call =>
      if call.point = .Awaiting ∧ s.done then some (s.setCall n { call with point := .Returned (some .Closed) })
      else none
  | .Close => if s.done then none else some { s with done := true }
  | .Exit => if s.writer = .Select ∧ s.done then some { s with writer := .Exited } else none

end Callers

/-- What a step does, with the guard under which it does it. -/
inductive CallersEffect (zlib : Zlib) (aes : Aes) (s : Callers) : CallersAction → Callers → Prop where
  | Call (payload : Bytes) :
      CallersEffect zlib aes s (.Call payload)
        { s with calls := s.calls ++ [{ payload, point := .Offering, result := none }] }
  | Take {n : Nat} {call : Call} (hcall : s.calls[n]? = some call) (hpoint : call.point = .Offering)
      (hwriter : s.writer = .Select) :
      CallersEffect zlib aes s (.Take n) { s.setCall n { call with point := .Awaiting } with writer := .Writing n }
  | Refuse {n : Nat} {call : Call} (hcall : s.calls[n]? = some call) (hpoint : call.point = .Offering)
      (hdone : s.done = true) :
      CallersEffect zlib aes s (.Refuse n) (s.setCall n { call with point := .Returned (some .Closed) })
  | Write {n : Nat} {call : Call} {results : List WriteResult} {w : WriteOutcome} (hwriter : s.writer = .Writing n)
      (hcall : s.calls[n]? = some call)
      (hwrite : s.sender.endpoint.write_frame zlib aes results call.payload = some w) (hroom : call.result = none) :
      CallersEffect zlib aes s (.Write results)
        { s.setCall n { call with result := some w.err } with
          writer := .Select
          sender := { endpoint := w.endpoint, wire := s.sender.wire ++ w.out,
                      answers := s.sender.answers ++ [(call.payload, w.err)] }
          served := s.served ++ [(n, call.payload, w.err)] }
  | Receive {n : Nat} {call : Call} {err : Option Error} (hcall : s.calls[n]? = some call)
      (hpoint : call.point = .Awaiting) (hresult : call.result = some err) :
      CallersEffect zlib aes s (.Receive n) (s.setCall n { call with point := .Returned (err.map .Frame) })
  | Abandon {n : Nat} {call : Call} (hcall : s.calls[n]? = some call) (hpoint : call.point = .Awaiting)
      (hdone : s.done = true) :
      CallersEffect zlib aes s (.Abandon n) (s.setCall n { call with point := .Returned (some .Closed) })
  | Close (hopen : s.done = false) : CallersEffect zlib aes s .Close { s with done := true }
  | Exit (hwriter : s.writer = .Select) (hdone : s.done = true) :
      CallersEffect zlib aes s .Exit { s with writer := .Exited }

theorem callers_effect {zlib : Zlib} {aes : Aes} {s s' : Callers} {a : CallersAction}
    (h : s.step zlib aes a = some s') : CallersEffect zlib aes s a s' := by
  cases a with
  | Call payload =>
    cases h
    exact .Call payload
  | Take n =>
    simp only [Callers.step] at h
    split at h
    · cases h
    · rename_i call hcall
      split at h
      · rename_i hguard
        cases h
        exact .Take hcall hguard.1 hguard.2
      · cases h
  | Refuse n =>
    simp only [Callers.step] at h
    split at h
    · cases h
    · rename_i call hcall
      split at h
      · rename_i hguard
        cases h
        exact .Refuse hcall hguard.1 hguard.2
      · cases h
  | Write results =>
    simp only [Callers.step] at h
    split at h
    · rename_i n hwriter
      split at h
      · cases h
      · rename_i call hcall
        split at h
        · cases h
        · rename_i w hwrite
          split at h
          · rename_i hroom
            cases h
            exact .Write hwriter hcall hwrite hroom
          · cases h
    · cases h
  | Receive n =>
    simp only [Callers.step] at h
    split at h
    · cases h
    · rename_i call hcall
      split at h
      · rename_i err hpoint hresult
        cases h
        exact .Receive hcall hpoint hresult
      · cases h
  | Abandon n =>
    simp only [Callers.step] at h
    split at h
    · cases h
    · rename_i call hcall
      split at h
      · rename_i hguard
        cases h
        exact .Abandon hcall hguard.1 hguard.2
      · cases h
  | Close =>
    simp only [Callers.step] at h
    split at h
    · cases h
    · rename_i hopen
      cases h
      exact .Close (by simpa using hopen)
  | Exit =>
    simp only [Callers.step] at h
    split at h
    · rename_i hguard
      cases h
      exact .Exit hguard.1 hguard.2
    · cases h

namespace Sender

variable {zlib : Zlib} {aes : Aes} {t : Transport} {limit : Nat} {s s' : Sender}

/-- The payloads written before the first write that failed. -/
def beforeFailure (answers : List (Bytes × Option Error)) : List Bytes :=
  (answers.takeWhile fun answer => answer.2 = none).map Prod.fst

theorem beforeFailure_append_of_clean {answers more : List (Bytes × Option Error)}
    (hclean : ∀ answer ∈ answers, answer.2 = none) :
    beforeFailure (answers ++ more) = answers.map Prod.fst ++ beforeFailure more := by
  unfold beforeFailure
  rw [List.takeWhile_append_of_pos (by simpa using hclean), List.map_append]

theorem beforeFailure_of_clean {answers : List (Bytes × Option Error)}
    (hclean : ∀ answer ∈ answers, answer.2 = none) : beforeFailure answers = answers.map Prod.fst := by
  unfold beforeFailure
  rw [List.takeWhile_eq_self_iff.mpr (by simpa using hclean)]

theorem beforeFailure_append_of_failed {answers more : List (Bytes × Option Error)}
    (hfailed : ¬ ∀ answer ∈ answers, answer.2 = none) :
    beforeFailure (answers ++ more) = beforeFailure answers := by
  unfold beforeFailure
  rw [List.takeWhile_append, if_neg]
  intro hlength
  apply hfailed
  intro answer hanswer
  have hall := (List.takeWhile_prefix (fun answer : Bytes × Option Error => answer.2 = none)).eq_of_length hlength
  rw [← hall] at hanswer
  simpa using List.mem_takeWhile_imp hanswer

/-- The wire begins with the whole frames of the payloads written before the first
failure. Until then there is nothing else on it, and the register stands behind
it. -/
def Begun (zlib : Zlib) (aes : Aes) (t : Transport) (s : Sender) : Prop :=
  s.endpoint.format = t.format ∧ ∃ whole torn, s.wire = whole ++ torn ∧
    peer zlib aes t.format t.write_register whole = (beforeFailure s.answers, []) ∧
    ((∀ answer ∈ s.answers, answer.2 = none) →
      torn = [] ∧ s.endpoint.write_register = t.write_register.past s.wire)

theorem start_begun : (start t).Begun zlib aes t :=
  ⟨rfl, [], [], rfl, by rfl, fun _ => ⟨rfl, by rfl⟩⟩

/-- A write after a failed one leaves the frames before the failure where they are. -/
theorem Begun.of_failed {w : WriteOutcome} {payload : Bytes} (h : s.Begun zlib aes t)
    (hformat : w.endpoint.format = s.endpoint.format) (hfailed : ¬ ∀ answer ∈ s.answers, answer.2 = none) :
    Begun zlib aes t ⟨w.endpoint, s.wire ++ w.out, s.answers ++ [(payload, w.err)]⟩ := by
  obtain ⟨hbefore, whole, torn, hwire, hwhole, _⟩ := h
  refine ⟨hformat.trans hbefore, whole, torn ++ w.out, ?_, ?_, fun hclean => absurd ?_ hfailed⟩
  · dsimp only
    rw [hwire, List.append_assoc]
  · dsimp only
    rw [hwhole, beforeFailure_append_of_failed hfailed]
  · exact fun answer hanswer => hclean answer (List.mem_append_left _ hanswer)

/-- A write that succeeds puts one whole frame on the wire. -/
theorem write_frame_complete {endpoint : Transport} {results : List WriteResult} {payload : Bytes} {w : WriteOutcome}
    (h : endpoint.write_frame zlib aes results payload = some w) :
    w.endpoint.format = endpoint.format ∧
      (w.err = none → ∃ pieces, endpoint.format.frame_writes zlib payload = .ok pieces ∧
        w.out = encipher aes endpoint.write_register pieces.flatten ∧
        w.endpoint.write_register = endpoint.write_register.past w.out) := by
  unfold Transport.write_frame at h
  cases hpieces : endpoint.format.frame_writes zlib payload with
  | error e =>
    simp only [hpieces, Option.some.injEq] at h
    subst h
    exact ⟨rfl, by simp⟩
  | ok pieces =>
    simp only [hpieces] at h
    have hwritten := write_each_written h
    exact ⟨hwritten.format, fun herr => ⟨pieces, rfl, hwritten.complete herr⟩⟩

/-- One write: until the first failure the wire is the frames in order, and the failed
frame has left a part of itself. -/
theorem step_begun {call : WriteCall} (hvalid : t.format.Valid limit) (h : s.Begun zlib aes t)
    (hstep : s.step zlib aes call = some s') : s'.Begun zlib aes t := by
  unfold step at hstep
  cases hwrite : s.endpoint.write_frame zlib aes call.results call.payload with
  | none => simp [hwrite] at hstep
  | some w =>
    simp only [hwrite, Option.some.injEq] at hstep
    subst hstep
    obtain ⟨hformat, hcomplete⟩ := write_frame_complete hwrite
    by_cases hclean : ∀ answer ∈ s.answers, answer.2 = none
    · obtain ⟨hbefore, whole, torn, hwire, hwhole, hintact⟩ := h
      obtain ⟨rfl, hregister⟩ := hintact hclean
      rw [List.append_nil] at hwire
      subst hwire
      rw [beforeFailure_of_clean hclean] at hwhole
      cases herr : w.err with
      | some e =>
        -- The frame is torn here, so nothing is said about the register any more.
        refine ⟨hformat.trans hbefore, s.wire, w.out, rfl, ?_, fun hall => ?_⟩
        · dsimp only
          rw [hwhole, beforeFailure_append_of_clean hclean]
          simp [beforeFailure]
        · exact absurd (hall _ (List.mem_append_right _ (List.mem_singleton_self _))) (by simp)
      | none =>
        obtain ⟨pieces, hpieces, hout, hpast⟩ := hcomplete herr
        rw [hbefore] at hpieces
        refine ⟨hformat.trans hbefore, s.wire ++ w.out, [], (List.append_nil _).symm, ?_, fun _ => ⟨rfl, ?_⟩⟩
        · have hframe : peer zlib aes t.format (t.write_register.past s.wire) w.out = ([call.payload], []) := by
            have hreceived : received (.Ok call.payload) = some call.payload := rfl
            unfold peer
            rw [hout, hregister, decipher_encipher, (Format.complete_frame hvalid hpieces).decodeAll hreceived]
          unfold peer at hwhole hframe ⊢
          dsimp only
          rw [decipher_append, decodeAll_append (by rw [hwhole]), hwhole, hframe,
            beforeFailure_append_of_clean hclean]
          simp [beforeFailure]
        · dsimp only
          rw [hpast, hregister, Register.past_append]
    · exact h.of_failed hformat hclean

end Sender

namespace Callers

variable {zlib : Zlib} {aes : Aes} {t : Transport} {s s' : Callers} {n : Nat} {call : Call}

/-- What the state says about one call. -/
structure Accounted (s : Callers) (n : Nat) (call : Call) : Prop where
  unserved : call.result = none → ∀ entry ∈ s.served, entry.1 ≠ n
  served : ∀ err, call.result = some err → (n, call.payload, err) ∈ s.served ∧ s.writer ≠ .Writing n
  offering : call.point = .Offering → call.result = none ∧ s.writer ≠ .Writing n
  awaiting : call.point = .Awaiting → call.result = none → s.writer = .Writing n
  returned : ∀ err, call.point = .Returned err →
    (err = some .Closed ∧ s.done = true) ∨ ∃ result, call.result = some result ∧ err = result.map .Frame

/-- What the writer loop has done so far is a sequence of writes, one for each call
that it has served, in the order in which it took them. -/
structure Invariant (zlib : Zlib) (aes : Aes) (t : Transport) (s : Callers) : Prop where
  sequential : ∃ writes, Reaches (Sender.step zlib aes) (.start t) writes s.sender
  answers : s.sender.answers = s.served.map Prod.snd
  nodup : (s.served.map Prod.fst).Nodup
  known : ∀ entry ∈ s.served, entry.1 < s.calls.length
  writing : ∀ n, s.writer = .Writing n → ∃ call, s.calls[n]? = some call
  exited : s.writer = .Exited → s.done = true
  calls : ∀ n call, s.calls[n]? = some call → s.Accounted n call

theorem start_invariant : Invariant zlib aes t (start t) := by
  refine ⟨⟨[], .nil⟩, rfl, List.nodup_nil, ?_, ?_, ?_, ?_⟩ <;> simp [start]

/-- A step on behalf of others leaves a call accounted for. -/
theorem Accounted.mono (h : s.Accounted n call) (hkept : ∀ entry ∈ s.served, entry ∈ s'.served)
    (hnew : ∀ entry ∈ s'.served, entry ∈ s.served ∨ entry.1 ≠ n)
    (hwriter : s'.writer = .Writing n ↔ s.writer = .Writing n) (hdone : s.done = true → s'.done = true) :
    s'.Accounted n call := by
  refine ⟨fun hnone entry hentry => ?_, fun err herr => ?_, fun hpoint => ?_, fun hpoint hnone => ?_,
    fun err hpoint => ?_⟩
  · exact (hnew entry hentry).elim (h.unserved hnone entry) id
  · obtain ⟨hserved, hother⟩ := h.served err herr
    exact ⟨hkept _ hserved, mt hwriter.mp hother⟩
  · obtain ⟨hnone, hother⟩ := h.offering hpoint
    exact ⟨hnone, mt hwriter.mp hother⟩
  · exact hwriter.mpr (h.awaiting hpoint hnone)
  · exact (h.returned err hpoint).imp_left fun hclosed => ⟨hclosed.1, hdone hclosed.2⟩

/-- The calls after one of them has changed. -/
theorem calls_set {other : Nat} {call' found : Call} (hfound : (s.calls.set n call')[other]? = some found) :
    (other = n ∧ found = call') ∨ (other ≠ n ∧ s.calls[other]? = some found) := by
  rw [List.getElem?_set] at hfound
  split at hfound
  · rename_i hsame
    split at hfound
    · exact .inl ⟨hsame.symm, (Option.some.inj hfound).symm⟩
    · cases hfound
  · rename_i hother
    exact .inr ⟨fun hsame => hother hsame.symm, hfound⟩

/-- A step that only moves one call. -/
theorem Invariant.moved {point : CallPoint} (h : Invariant zlib aes t s) (hcall : s.calls[n]? = some call)
    (hpoint : s.Accounted n { call with point }) : Invariant zlib aes t (s.setCall n { call with point }) := by
  refine ⟨h.sequential, h.answers, h.nodup, ?_, ?_, h.exited, fun other found hfound => ?_⟩
  · intro entry hentry
    rw [setCall, List.length_set]
    exact h.known entry hentry
  · intro m hwriter
    obtain ⟨found, hfound⟩ := h.writing m hwriter
    have hlt := (List.getElem?_eq_some_iff.mp hfound).1
    exact ⟨_, List.getElem?_eq_getElem (by rwa [setCall, List.length_set])⟩
  · obtain ⟨rfl, rfl⟩ | ⟨hother, hfound⟩ := calls_set hfound
    · exact hpoint.mono (fun _ => id) (fun _ => .inl) Iff.rfl id
    · exact (h.calls other found hfound).mono (fun _ => id) (fun _ => .inl) Iff.rfl id

/-- A new call is nobody's business yet. -/
theorem Invariant.called (h : Invariant zlib aes t s) (payload : Bytes) :
    Invariant zlib aes t { s with calls := s.calls ++ [{ payload, point := .Offering, result := none }] } := by
  refine ⟨h.sequential, h.answers, h.nodup, fun entry hentry => ?_, fun m hwriter => ?_, h.exited,
    fun m found hfound => ?_⟩
  · have hlt := h.known entry hentry
    rw [List.length_append]
    exact Nat.lt_add_right _ hlt
  · obtain ⟨found, hfound⟩ := h.writing m hwriter
    have hlt := (List.getElem?_eq_some_iff.mp hfound).1
    exact ⟨found, by rw [List.getElem?_append_left hlt, hfound]⟩
  · obtain hlt | heq : m < s.calls.length ∨ m = s.calls.length := by
      have hlt := (List.getElem?_eq_some_iff.mp hfound).1
      rw [List.length_append, List.length_singleton] at hlt
      omega
    · rw [List.getElem?_append_left hlt] at hfound
      exact (h.calls m found hfound).mono (fun _ => id) (fun _ => .inl) Iff.rfl id
    · subst heq
      rw [List.getElem?_concat_length, Option.some.injEq] at hfound
      subst hfound
      refine ⟨fun _ entry hentry => Nat.ne_of_lt (h.known entry hentry), by simp, fun _ => ⟨rfl, ?_⟩, by simp, by simp⟩
      intro hwriter
      obtain ⟨found, hfound⟩ := h.writing _ hwriter
      exact absurd (List.getElem?_eq_some_iff.mp hfound).1 (Nat.lt_irrefl _)

/-- The writer loop takes the request of a call. -/
theorem Invariant.taken (h : Invariant zlib aes t s) (hcall : s.calls[n]? = some call)
    (hpoint : call.point = .Offering) (hwriter : s.writer = .Select) :
    Invariant zlib aes t { s.setCall n { call with point := .Awaiting } with writer := .Writing n } := by
  have haccounted := h.calls n call hcall
  obtain ⟨hnone, -⟩ := haccounted.offering hpoint
  have hlt := (List.getElem?_eq_some_iff.mp hcall).1
  refine ⟨h.sequential, h.answers, h.nodup, fun entry hentry => ?_, fun m hm => ?_, by simp,
    fun m found hfound => ?_⟩
  · dsimp only [setCall]
    rw [List.length_set]
    exact h.known entry hentry
  · obtain rfl : n = m := WriterPoint.Writing.inj hm
    exact ⟨_, List.getElem?_eq_getElem (by rwa [setCall, List.length_set])⟩
  · obtain ⟨rfl, rfl⟩ | ⟨hother, hfound⟩ := calls_set hfound
    · exact ⟨haccounted.unserved, by simp [hnone], by simp, fun _ _ => rfl, by simp⟩
    · refine (h.calls m found hfound).mono (fun _ => id) (fun _ => .inl) ?_ id
      rw [hwriter]
      simp [Ne.symm hother]

/-- The writer loop writes the frame and hands over the result. -/
theorem Invariant.written {results : List WriteResult} {w : WriteOutcome} (h : Invariant zlib aes t s)
    (hwriter : s.writer = .Writing n) (hcall : s.calls[n]? = some call)
    (hwrite : s.sender.endpoint.write_frame zlib aes results call.payload = some w) (hroom : call.result = none) :
    Invariant zlib aes t { s.setCall n { call with result := some w.err } with
      writer := .Select
      sender := { endpoint := w.endpoint, wire := s.sender.wire ++ w.out,
                  answers := s.sender.answers ++ [(call.payload, w.err)] }
      served := s.served ++ [(n, call.payload, w.err)] } := by
  have haccounted := h.calls n call hcall
  have hlt := (List.getElem?_eq_some_iff.mp hcall).1
  refine ⟨?_, ?_, ?_, fun entry hentry => ?_, by simp, by simp, fun m found hfound => ?_⟩
  · obtain ⟨writes, hwrites⟩ := h.sequential
    refine ⟨writes ++ [⟨call.payload, results⟩], hwrites.snoc trivial ?_⟩
    simp only [Sender.step, hwrite]
  · dsimp only
    rw [h.answers, List.map_append]
    rfl
  · dsimp only
    rw [List.map_append, List.map_singleton, List.nodup_append]
    refine ⟨h.nodup, by simp, ?_⟩
    rintro m hm m' hm' rfl
    obtain ⟨entry, hentry, rfl⟩ := List.mem_map.mp hm
    exact haccounted.unserved hroom entry hentry (List.mem_singleton.mp hm')
  · dsimp only [setCall] at hentry ⊢
    rw [List.length_set]
    obtain hentry | hentry := List.mem_append.mp hentry
    · exact h.known entry hentry
    · rw [List.mem_singleton.mp hentry]
      exact hlt
  · obtain ⟨rfl, rfl⟩ | ⟨hother, hfound⟩ := calls_set hfound
    · refine ⟨by simp, fun err herr => ⟨?_, by simp⟩, fun hpoint => ?_, by simp, fun err hpoint => ?_⟩
      · obtain rfl := Option.some.inj herr
        exact List.mem_append_right _ (List.mem_singleton.mpr rfl)
      · exact absurd hwriter (haccounted.offering hpoint).2
      · obtain hclosed | ⟨result, hresult, -⟩ := haccounted.returned err hpoint
        · exact .inl hclosed
        · rw [hroom] at hresult
          cases hresult
    · refine (h.calls m found hfound).mono (fun _ => List.mem_append_left _) (fun entry hentry => ?_) ?_ id
      · obtain hentry | hentry := List.mem_append.mp hentry
        · exact .inl hentry
        · rw [List.mem_singleton.mp hentry]
          exact .inr (Ne.symm hother)
      · rw [hwriter]
        simp [Ne.symm hother]

theorem step_invariant {a : CallersAction} (h : Invariant zlib aes t s) (hstep : s.step zlib aes a = some s') :
    Invariant zlib aes t s' := by
  cases callers_effect hstep with
  | Call payload => exact h.called payload
  | Take hcall hpoint hwriter => exact h.taken hcall hpoint hwriter
  | Refuse hcall hpoint hdone =>
    have haccounted := h.calls _ _ hcall
    obtain ⟨hnone, hother⟩ := haccounted.offering hpoint
    exact h.moved hcall ⟨haccounted.unserved, haccounted.served, by simp, by simp, by simp [hdone]⟩
  | Write hwriter hcall hwrite hroom => exact h.written hwriter hcall hwrite hroom
  | Receive hcall hpoint hresult =>
    have haccounted := h.calls _ _ hcall
    exact h.moved hcall ⟨haccounted.unserved, haccounted.served, by simp, by simp, by simp [hresult]⟩
  | Abandon hcall hpoint hdone =>
    have haccounted := h.calls _ _ hcall
    exact h.moved hcall ⟨haccounted.unserved, haccounted.served, by simp, by simp, by simp [hdone]⟩
  | Close hopen =>
    refine ⟨h.sequential, h.answers, h.nodup, h.known, h.writing, fun _ => rfl, fun m found hfound => ?_⟩
    exact (h.calls m found hfound).mono (fun _ => id) (fun _ => .inl) Iff.rfl fun _ => rfl
  | Exit hwriter hdone =>
    refine ⟨h.sequential, h.answers, h.nodup, h.known, by simp, fun _ => hdone, fun m found hfound => ?_⟩
    exact (h.calls m found hfound).mono (fun _ => id) (fun _ => .inl) (by simp [hwriter]) id

theorem reaches_invariant {acts : List CallersAction} (run : Reaches (step zlib aes) (start t) acts s) :
    Invariant zlib aes t s :=
  run.invariant start_invariant fun h _ hstep => step_invariant h hstep

/-- What the loop has written stays written, and stands before all that follows. -/
theorem step_served {a : CallersAction} (hstep : s.step zlib aes a = some s') : s.served <+: s'.served := by
  cases callers_effect hstep with
  | Write => exact List.prefix_append _ _
  | _ => exact List.prefix_rfl

/-- The calls are answered as if they had been made one after the other: the writes
of the loop are a run of a transport with one caller, every call is written at
most once, and it returns what its own write answered, or `ErrClosed` after
`Close`. -/
structure Linearized (zlib : Zlib) (aes : Aes) (t : Transport) (s : Callers) : Prop where
  sequential : ∃ writes, Reaches (Sender.step zlib aes) (.start t) writes s.sender
  answers : s.sender.answers = s.served.map Prod.snd
  once : (s.served.map Prod.fst).Nodup
  written : ∀ (n : Nat) (call : Call), s.calls[n]? = some call → call.point = .Returned none →
    (n, call.payload, none) ∈ s.served
  failed : ∀ (n : Nat) (call : Call) (err : Error), s.calls[n]? = some call →
    call.point = .Returned (some (.Frame err)) → (n, call.payload, some err) ∈ s.served
  closed : ∀ (n : Nat) (call : Call), s.calls[n]? = some call → call.point = .Returned (some .Closed) → s.done = true

/-- The order in which the writer loop took the requests is one that explains all
results. -/
theorem Invariant.linearized (h : Invariant zlib aes t s) : Linearized zlib aes t s := by
  refine ⟨h.sequential, h.answers, h.nodup, fun n call hcall hpoint => ?_, fun n call err hcall hpoint => ?_,
    fun n call hcall hpoint => ?_⟩
  · obtain ⟨hclosed, -⟩ | ⟨result, hresult, herr⟩ := (h.calls n call hcall).returned _ hpoint
    · cases hclosed
    · obtain rfl : result = none := by simpa using herr.symm
      exact ((h.calls n call hcall).served _ hresult).1
  · obtain ⟨hclosed, -⟩ | ⟨result, hresult, herr⟩ := (h.calls n call hcall).returned _ hpoint
    · cases hclosed
    · obtain rfl : result = some err := by simpa using herr.symm
      exact ((h.calls n call hcall).served _ hresult).1
  · obtain ⟨-, hdone⟩ | ⟨result, -, herr⟩ := (h.calls n call hcall).returned _ hpoint
    · exact hdone
    · simp at herr

/-- Any number of goroutines may call `WriteFrame` while another calls `Close`: the
calls are linearised by the writer loop, and a call that is made when others
have been written is written after them. -/
theorem write_frame_linearizable {acts later : List CallersAction}
    (run : Reaches (step zlib aes) (start t) acts s) (more : Reaches (step zlib aes) s later s') :
    Linearized zlib aes t s' ∧ s.served <+: s'.served ∧ ∀ entry ∈ s.served, entry.1 < s.calls.length := by
  refine ⟨(reaches_invariant (run.trans more)).linearized, ?_, (reaches_invariant run).known⟩
  apply more.invariant
  · exact List.prefix_rfl
  · exact fun h _ hstep => h.trans (step_served hstep)

/-- The second of two calls is written first. `Close` then meets the write of the
first one, which returns `ErrClosed` although its frame still gets out. -/
theorem write_frame_linearizable_in_a_race :
    ∃ s s', Reaches (step storedZlib fun _ _ => 0) (start (.new 16))
        [.Call [1, 2], .Call [3], .Take 1, .Write [⟨1, none⟩, ⟨1, none⟩], .Receive 1] s ∧
      Reaches (step storedZlib fun _ _ => 0) s
        [.Take 0, .Close, .Abandon 0, .Write [⟨1, none⟩, ⟨2, none⟩], .Exit] s' ∧
      s'.calls.map Call.point = [.Returned (some .Closed), .Returned none] ∧
      s'.served = [(1, [3], none), (0, [1, 2], none)] ∧
      Linearized storedZlib (fun _ _ => 0) (.new 16) s' ∧ s.served <+: s'.served ∧
      ∀ entry ∈ s.served, entry.1 < s.calls.length := by
  obtain ⟨s, run, hmore⟩ : ∃ s, Reaches (step storedZlib fun _ _ => 0) (start (.new 16))
      [.Call [1, 2], .Call [3], .Take 1, .Write [⟨1, none⟩, ⟨1, none⟩], .Receive 1] s ∧
      decide ((exec (step storedZlib fun _ _ => 0) (fun _ _ => true) s
        [.Take 0, .Close, .Abandon 0, .Write [⟨1, none⟩, ⟨2, none⟩], .Exit]).map (fun s' : Callers =>
          decide (s'.calls.map Call.point = [.Returned (some .Closed), .Returned none] ∧
            s'.served = [(1, [3], none), (0, [1, 2], none)])) = some true) = true :=
    Reaches.of_exec _ (by decide +kernel)
  obtain ⟨s', more, hobserved⟩ := Reaches.of_exec _ (of_decide_eq_true hmore)
  obtain ⟨hpoints, hserved⟩ := of_decide_eq_true hobserved
  exact ⟨s, s', run, more, hpoints, hserved, write_frame_linearizable run more⟩

/-- Frames of concurrent calls do not mix on the wire: the peer reads those that were
written before the first failed write, whole and in the order of the writes,
whatever the connection's writes return and whenever `Close` is called. -/
theorem concurrent_frames_arrive_whole {limit : Nat} {acts : List CallersAction} (hvalid : t.format.Valid limit)
    (run : Reaches (step zlib aes) (start t) acts s) :
    (s.served.takeWhile fun entry => entry.2.2 = none).map (fun entry => entry.2.1) <+:
      (peer zlib aes t.format t.write_register s.sender.wire).1 := by
  have hinvariant := reaches_invariant run
  obtain ⟨writes, hwrites⟩ := hinvariant.sequential
  obtain ⟨-, whole, torn, hwire, hwhole, -⟩ : s.sender.Begun zlib aes t :=
    hwrites.invariant Sender.start_begun fun h _ hstep => Sender.step_begun hvalid h hstep
  have hpayloads : Sender.beforeFailure s.sender.answers =
      (s.served.takeWhile fun entry => entry.2.2 = none).map (fun entry => entry.2.1) := by
    rw [hinvariant.answers, Sender.beforeFailure, List.takeWhile_map, List.map_map]
    rfl
  rw [hwire, peer_append (by rw [hwhole]), hwhole, hpayloads]
  exact List.prefix_append _ _

/-- The write of the second frame fails after a byte, and the third is lost behind it. -/
theorem concurrent_frames_arrive_whole_before_a_failure :
    ∃ s, Reaches (step storedZlib fun _ _ => 0) (start (.new 16))
        [.Call [1, 2], .Call [3], .Call [4], .Take 1, .Write [⟨1, none⟩, ⟨1, none⟩], .Take 0,
          .Write [⟨1, some .Write⟩], .Take 2, .Write [⟨1, none⟩, ⟨1, none⟩]] s ∧
      s.served.map (fun entry => entry.2.1) = [[3], [1, 2], [4]] ∧
      (s.served.takeWhile fun entry => entry.2.2 = none).map (fun entry => entry.2.1) = [[3]] ∧
      (s.served.takeWhile fun entry => entry.2.2 = none).map (fun entry => entry.2.1) <+:
        (peer storedZlib (fun _ _ => 0) (Transport.new 16).format none s.sender.wire).1 := by
  obtain ⟨s, run, hobserved⟩ : ∃ s, Reaches (step storedZlib fun _ _ => 0) (start (.new 16))
      [.Call [1, 2], .Call [3], .Call [4], .Take 1, .Write [⟨1, none⟩, ⟨1, none⟩], .Take 0,
        .Write [⟨1, some .Write⟩], .Take 2, .Write [⟨1, none⟩, ⟨1, none⟩]] s ∧
      decide (s.served.map (fun entry => entry.2.1) = [[3], [1, 2], [4]] ∧
        (s.served.takeWhile fun entry => entry.2.2 = none).map (fun entry => entry.2.1) = [[3]]) = true :=
    Reaches.of_exec _ (by decide +kernel)
  obtain ⟨hserved, hbefore⟩ := of_decide_eq_true hobserved
  have hvalid : (Transport.new 16).format.Valid 16 := ⟨by decide, rfl, by simp [Transport.new]⟩
  exact ⟨s, run, hserved, hbefore, concurrent_frames_arrive_whole hvalid run⟩

/-- The steps of the writer loop that take the request of a call and write, and the
step of the call that takes its result. -/
def Serves (n : Nat) : CallersAction → Prop
  | .Take m => m = n
  | .Write _ => True
  | .Receive m => m = n
  | _ => False

/-- A call can return what the writer loop answers within that many steps of the loop
and of itself. -/
def Answerable (zlib : Zlib) (aes : Aes) (n steps : Nat) (s : Callers) : Prop :=
  ∃ acts s', Runs (step zlib aes) (fun _ a => Serves n a) s acts s' ∧ acts.length ≤ steps ∧
    ∃ call result, s'.calls[n]? = some call ∧ call.point = .Returned (Option.map .Frame result)

theorem Answerable.step {steps : Nat} {a : CallersAction} (h : Answerable zlib aes n steps s')
    (hstep : s.step zlib aes a = some s') (hserves : Serves n a) : Answerable zlib aes n (steps + 1) s := by
  obtain ⟨acts, last, run, hlength, hreturned⟩ := h
  have hfirst : Runs (Callers.step zlib aes) (fun _ a => Serves n a) s [a] s' := Runs.single hserves hstep
  exact ⟨[a] ++ acts, last, hfirst.trans run, by simpa using hlength, hreturned⟩

theorem Answerable.mono {steps more : Nat} (h : Answerable zlib aes n steps s) (hmore : steps ≤ more) :
    Answerable zlib aes n more s := by
  obtain ⟨acts, last, run, hlength, hrest⟩ := h
  exact ⟨acts, last, run, hlength.trans hmore, hrest⟩

/-- The writer loop has room for the result that it hands over. -/
theorem Invariant.hand_over {results : List WriteResult} {w : WriteOutcome} (h : Invariant zlib aes t s)
    (hwriter : s.writer = .Writing n) (hcall : s.calls[n]? = some call)
    (hwrite : s.sender.endpoint.write_frame zlib aes results call.payload = some w) :
    ∃ s', s.step zlib aes (.Write results) = some s' ∧ s'.writer = .Select ∧
      s'.calls = s.calls.set n { call with result := some w.err } := by
  have hroom : call.result = none := by
    cases hresult : call.result with
    | none => rfl
    | some err => exact absurd hwriter ((h.calls n call hcall).served err hresult).2
  simp [step, hwriter, hcall, hwrite, hroom, setCall]

theorem answerable_received {err : Option Error} (hcall : s.calls[n]? = some call)
    (hpoint : call.point = .Awaiting) (hresult : call.result = some err) : Answerable zlib aes n 1 s := by
  have hstep : s.step zlib aes (.Receive n) = some (s.setCall n { call with point := .Returned (err.map .Frame) }) := by
    simp only [step, hcall, hpoint, hresult]
  have hlt := (List.getElem?_eq_some_iff.mp hcall).1
  exact ⟨[.Receive n], _, Runs.single rfl hstep, by simp, _, err, List.getElem?_set_self hlt, rfl⟩

theorem answerable_writing (h : Invariant zlib aes t s) (hcall : s.calls[n]? = some call)
    (hpoint : call.point = .Awaiting) (hwriter : s.writer = .Writing n) : Answerable zlib aes n 2 s := by
  obtain ⟨w, hwrite⟩ := write_frame_returns zlib aes s.sender.endpoint [] call.payload
  obtain ⟨next, hstep, -, hcalls⟩ := h.hand_over hwriter hcall hwrite
  have hlt := (List.getElem?_eq_some_iff.mp hcall).1
  have hnext : next.calls[n]? = some { call with result := some w.err } := by
    rw [hcalls, List.getElem?_set_self hlt]
  exact (answerable_received hnext hpoint rfl).step hstep trivial

/-- The writer loop is free to take the call's request. -/
theorem answerable_offering (h : Invariant zlib aes t s) (hcall : s.calls[n]? = some call)
    (hpoint : call.point = .Offering) (hwriter : s.writer = .Select) : Answerable zlib aes n 3 s := by
  have hstep : s.step zlib aes (.Take n) =
      some { s.setCall n { call with point := .Awaiting } with writer := .Writing n } := by
    simp only [step, hcall, hpoint, hwriter, and_self, if_true]
  have hlt := (List.getElem?_eq_some_iff.mp hcall).1
  have hawaits := answerable_writing (h.taken hcall hpoint hwriter) (List.getElem?_set_self hlt) rfl rfl
  exact hawaits.step hstep rfl

/-- A call whose request the writer loop is not at yet waits for one other write. -/
theorem answerable_queued {other : Nat} (h : Invariant zlib aes t s) (hcall : s.calls[n]? = some call)
    (hpoint : call.point = .Offering) (hwriter : s.writer = .Writing other) : Answerable zlib aes n 4 s := by
  obtain ⟨-, hnot⟩ := (h.calls n call hcall).offering hpoint
  have hother : other ≠ n := fun hsame => hnot (hsame ▸ hwriter)
  obtain ⟨found, hfound⟩ := h.writing other hwriter
  obtain ⟨w, hwrite⟩ := write_frame_returns zlib aes s.sender.endpoint [] found.payload
  obtain ⟨next, hstep, hselect, hcalls⟩ := h.hand_over hwriter hfound hwrite
  have hnext : next.calls[n]? = some call := by
    rw [hcalls, List.getElem?_set_ne hother, hcall]
  exact (answerable_offering (step_invariant h hstep) hnext hpoint hselect).step hstep trivial

/-- No call of `WriteFrame` is ever stuck. Before `Close` the writer loop can always
serve it; after `Close` it returns by a step of its own, also when the writer loop
is gone or hangs in a write. The writer loop itself never hangs at the hand-over
of a result, also when the call has gone. -/
theorem write_frame_never_stuck {acts : List CallersAction} (run : Reaches (step zlib aes) (start t) acts s)
    (hcall : s.calls[n]? = some call) :
    (s.done = false → Answerable zlib aes n 4 s) ∧
    (s.done = true → (∀ err, call.point ≠ .Returned err) → ∃ a ∈ [.Refuse n, .Abandon n], ∃ s' call',
      s.step zlib aes a = some s' ∧ s'.calls[n]? = some call' ∧ call'.point = .Returned (some .Closed)) ∧
    (∀ results w, s.writer = .Writing n → s.sender.endpoint.write_frame zlib aes results call.payload = some w →
      ∃ s', s.step zlib aes (.Write results) = some s') := by
  have h := reaches_invariant run
  have haccounted := h.calls n call hcall
  have hlt := (List.getElem?_eq_some_iff.mp hcall).1
  refine ⟨fun hopen => ?_, fun hdone hpending => ?_, fun results w hwriter hwrite => ?_⟩
  · cases hpoint : call.point with
    | Offering =>
      cases hwriter : s.writer with
      | Select => exact (answerable_offering h hcall hpoint hwriter).mono (by omega)
      | Writing other => exact answerable_queued h hcall hpoint hwriter
      | Exited => exact absurd (h.exited hwriter) (by simp [hopen])
    | Awaiting =>
      cases hresult : call.result with
      | none => exact (answerable_writing h hcall hpoint (haccounted.awaiting hpoint hresult)).mono (by omega)
      | some err => exact (answerable_received hcall hpoint hresult).mono (by omega)
    | Returned err =>
      obtain ⟨-, hdone⟩ | ⟨result, -, rfl⟩ := haccounted.returned err hpoint
      · exact absurd hdone (by simp [hopen])
      · exact ⟨[], s, .nil, by simp, call, result, hcall, hpoint⟩
  · cases hpoint : call.point with
    | Offering =>
      refine ⟨.Refuse n, by simp, s.setCall n { call with point := .Returned (some .Closed) }, _, ?_,
        List.getElem?_set_self hlt, rfl⟩
      simp only [step, hcall, hpoint, hdone, and_self, if_true]
    | Awaiting =>
      refine ⟨.Abandon n, by simp, s.setCall n { call with point := .Returned (some .Closed) }, _, ?_,
        List.getElem?_set_self hlt, rfl⟩
      simp only [step, hcall, hpoint, hdone, and_self, if_true]
    | Returned err => exact absurd hpoint (hpending err)
  · obtain ⟨s', hstep, -⟩ := h.hand_over hwriter hcall hwrite
    exact ⟨s', hstep⟩

/-- A call that comes in while the loop writes the frame of another one. -/
theorem write_frame_never_stuck_behind_a_write :
    ∃ s, Reaches (step storedZlib fun _ _ => 0) (start (.new 16)) [.Call [1, 2], .Take 0, .Call [3]] s ∧
      s.done = false ∧ Answerable storedZlib (fun _ _ => 0) 1 4 s := by
  have hreached : ∃ s, Reaches (step storedZlib fun _ _ => 0) (start (.new 16))
      [.Call [1, 2], .Take 0, .Call [3]] s ∧
      decide (s.done = false ∧ s.calls[1]? = some (Call.mk [3] .Offering none)) = true :=
    Reaches.of_exec _ (by decide +kernel)
  obtain ⟨s, run, hobserved⟩ := hreached
  obtain ⟨hopen, hcall⟩ := of_decide_eq_true hobserved
  exact ⟨s, run, hopen, (write_frame_never_stuck run hcall).1 hopen⟩

end Callers

end regiongate.transport
