import Mathlib.Algebra.Group.Int.Defs
import Mathlib.Data.Int.Order.Basic
import RegionGate.Error
import RegionGate.Refinement
import RegionGate.Window

open execution refinement window

namespace regiongate.ratelimit

/-- Times and durations are in nanoseconds. A missing value of `events` is a
key that the map does not hold. -/
structure Limiter where
  limit : Int
  window : Int
  events : Bytes → Option (List Int)
  requests : UInt64

/-- One call of `Allow`. -/
structure Request where
  key : Bytes
  now : Int
  deriving DecidableEq

namespace Limiter

/-- `New`, with its defaults for a limit and a window that are not positive. -/
def new (limit window : Int) : Limiter where
  limit := if limit ≤ 0 then 10 else limit
  window := if window ≤ 0 then 10 * 10 ^ 9 else window
  events := fun _ => none
  requests := 0

/-- The events of a key, none for a key that is not in the map. -/
def recent (l : Limiter) (key : Bytes) : List Int := (l.events key).getD []

/-- What the map holds for a key with these events. -/
def entry (events : List Int) : Option (List Int) := if events = [] then none else some events

/-- `Allow` without its counter and the cleanup. -/
def register (l : Limiter) (key : Bytes) (now : Int) : Bool × Limiter :=
  let cutoff := now - l.window
  let events := (l.recent key).dropWhile fun t => !decide (cutoff < t)
  let allowed := (events.length : Int) < l.limit
  let events := if allowed then events ++ [now] else events
  (allowed, { l with events := Function.update l.events key (entry events) })

/-- `cleanup`: a key goes when its last event has left the window. -/
def cleanup (l : Limiter) (cutoff : Int) : Limiter :=
  { l with events := fun key => (l.events key).filter fun events => events.getLast?.any (cutoff < ·) }

/-- `Allow`: whether the key has room in the window that ends now; every 1024th call
also cleans up. -/
def allow (l : Limiter) (key : Bytes) (now : Int) : Bool × Limiter :=
  let cutoff := now - l.window
  let (allowed, l) := l.register key now
  let l := { l with requests := l.requests + 1 }
  (allowed, if l.requests % 1024 = 0 then l.cleanup cutoff else l)

end Limiter

/-- The calls so far with what they returned. -/
abbrev History := List (Request × Bool)

/-- The times of the allowed calls of one key. -/
def allowedTimes (key : Bytes) (history : History) : List Int :=
  (history.filter fun call => call.2 && decide (call.1.key = key)).map (·.1.now)

/-- The allowed calls of one key at the times of a set. -/
def allowedAt (key : Bytes) (history : History) (inside : Int → Bool) : Nat :=
  ((allowedTimes key history).filter inside).length

/-- The exact sliding window over everything that was allowed so far. -/
def slidingWindow (limit window : Int) (history : History) (request : Request) : Bool :=
  (allowedAt request.key history fun t => request.now - window < t ∧ t ≤ request.now : Int) < limit

/-- The window in which the limiter counts. -/
def counted (window : Int) : Window Int where
  live now t := now - window < t
  shrinks hle hlive := by
    simp only [decide_eq_true_eq] at hlive ⊢
    omega
  upward hle hlive := by
    simp only [decide_eq_true_eq] at hlive ⊢
    omega

/-- No call was made after a time. -/
def Latest (history : History) (now : Int) : Prop := ∀ call ∈ history, call.1.now ≤ now

theorem latest_snoc {history : History} {request : Request} {ok : Bool} {now : Int} :
    Latest (history ++ [(request, ok)]) now ↔ Latest history now ∧ request.now ≤ now := by
  simp [Latest, or_imp, forall_and]

theorem allowedTimes_snoc {key : Bytes} {history : History} {request : Request} {ok : Bool} :
    allowedTimes key (history ++ [(request, ok)]) =
      allowedTimes key history ++ if ok = true ∧ request.key = key then [request.now] else [] := by
  rw [allowedTimes, List.filter_append, List.map_append]
  by_cases h : ok = true ∧ request.key = key
  · simp [allowedTimes, h]
  · rw [if_neg h, List.filter_cons_of_neg (by simpa using h)]
    rfl

theorem mem_allowedTimes {key : Bytes} {history : History} {t : Int} (h : t ∈ allowedTimes key history) :
    ∃ call ∈ history, call.1.now = t := by
  obtain ⟨call, hcall, rfl⟩ := List.mem_map.mp h
  exact ⟨call, List.mem_of_mem_filter hcall, rfl⟩

/-- What the limiter keeps of each key covers all that was allowed. -/
structure Limiter.Tracks (limit window : Int) (l : Limiter) (history : History) : Prop where
  limit_eq : l.limit = limit
  window_eq : l.window = window
  sorted : (history.map (·.1.now)).Pairwise (· ≤ ·)
  covers : ∀ key, (counted window).Covers (Latest history) (l.recent key) (allowedTimes key history)

namespace Limiter

variable {limit window : Int} {l : Limiter} {history : History} {request : Request} {key key' : Bytes}
  {now cutoff : Int}

theorem entry_getD (events : List Int) : (entry events).getD [] = events := by
  cases events with
  | nil => rfl
  | cons t rest => rfl

/-- A request is allowed if the trimmed events leave room for it. -/
theorem register_fst :
    (l.register key now).1 = decide ((((counted l.window).trim now (l.recent key)).length : Int) < l.limit) :=
  rfl

/-- A request changes the events of its own key only. -/
theorem recent_register : (l.register key now).2.recent key' =
    if key = key' then
      (counted l.window).trim now (l.recent key) ++ if (l.register key now).1 = true then [now] else []
    else l.recent key' := by
  have hevents : (l.register key now).2.events = Function.update l.events key
      (entry (if (((counted l.window).trim now (l.recent key)).length : Int) < l.limit then
        (counted l.window).trim now (l.recent key) ++ [now] else (counted l.window).trim now (l.recent key))) :=
    rfl
  rw [recent, hevents, register_fst]
  by_cases hkey : key = key'
  · subst hkey
    rw [if_pos rfl, Function.update_self, entry_getD]
    by_cases hallowed : (((counted l.window).trim now (l.recent key)).length : Int) < l.limit
    · simp [hallowed]
    · simp [hallowed]
  · rw [if_neg hkey, Function.update_of_ne (Ne.symm hkey), recent]

/-- `cleanup` drops the events of a key all together or not at all. -/
theorem recent_cleanup : (l.cleanup cutoff).recent key =
    if (l.recent key).getLast?.any (cutoff < ·) then l.recent key else [] := by
  cases hevents : l.events key with
  | none => simp [recent, cleanup, hevents]
  | some events =>
    simp only [recent, cleanup, hevents, Option.filter_some, Option.getD_some]
    split <;> rfl

/-- When the last of some sorted events is too old, all are. -/
theorem le_of_getLast {events : List Int} {t : Int} (hsorted : events.Pairwise (· ≤ ·))
    (hlast : ¬ events.getLast?.any (cutoff < ·) = true) (ht : t ∈ events) : t ≤ cutoff := by
  obtain rfl | ⟨rest, last, rfl⟩ := events.eq_nil_or_concat'
  · cases ht
  · have hold : last ≤ cutoff := by simpa using hlast
    obtain ht | rfl := List.mem_append.mp ht |>.imp_right List.mem_singleton.mp
    · exact ((List.pairwise_append.mp hsorted).2.2 t ht last (by simp)).trans hold
    · exact hold

namespace Tracks

theorem times_sorted (h : l.Tracks limit window history) (key : Bytes) :
    (allowedTimes key history).Pairwise (· ≤ ·) :=
  h.sorted.sublist (List.Sublist.map _ List.filter_sublist)

/-- The decision of `Allow` is that of the full history. -/
theorem decision (h : l.Tracks limit window history) (hlatest : Latest history request.now) :
    (l.register request.key request.now).1 = slidingWindow limit window history request := by
  have htrim := (h.covers request.key).trim_eq (h.times_sorted request.key) hlatest
  have hwindow : (allowedTimes request.key history).filter ((counted window).live request.now) =
      (allowedTimes request.key history).filter
        (fun t => request.now - window < t ∧ t ≤ request.now) := by
    refine List.filter_congr fun t ht => ?_
    obtain ⟨call, hcall, rfl⟩ := mem_allowedTimes ht
    simp [counted, hlatest call hcall]
  rw [register_fst, h.window_eq, h.limit_eq, htrim, hwindow]
  rfl

/-- A request is answered from the events as from the history. -/
theorem register (h : l.Tracks limit window history) (hlatest : Latest history request.now) :
    (l.register request.key request.now).2.Tracks limit window
      (history ++ [(request, slidingWindow limit window history request)]) where
  limit_eq := h.limit_eq
  window_eq := h.window_eq
  sorted := by
    rw [List.map_append, List.pairwise_append]
    refine ⟨h.sorted, List.pairwise_singleton _ _, fun t ht now hnow => ?_⟩
    obtain ⟨call, hcall, rfl⟩ := List.mem_map.mp ht
    obtain rfl := List.mem_singleton.mp hnow
    exact hlatest call hcall
  covers := by
    intro key
    have hcovers := h.covers key
    rw [recent_register, allowedTimes_snoc, h.decision hlatest, h.window_eq]
    by_cases hkey : request.key = key
    · subst hkey
      have htrim : (counted window).Covers
          (Latest (history ++ [(request, slidingWindow limit window history request)]))
          ((counted window).trim request.now (l.recent request.key)) (allowedTimes request.key history) :=
        hcovers.trim (h.times_sorted request.key) hlatest fun hlater => (latest_snoc.mp hlater).2
      by_cases hallowed : slidingWindow limit window history request = true
      · simpa [hallowed] using htrim.snoc
      · simpa [hallowed] using htrim
    · simpa [hkey] using hcovers.mono fun hlater => (latest_snoc.mp hlater).1

/-- A cleanup drops only keys without events that can still count. -/
theorem cleanup (h : l.Tracks limit window history) (hcutoff : ∀ {now}, Latest history now → cutoff ≤ now - window) :
    (l.cleanup cutoff).Tracks limit window history where
  limit_eq := h.limit_eq
  window_eq := h.window_eq
  sorted := h.sorted
  covers := by
    intro key
    rw [recent_cleanup]
    split
    · exact h.covers key
    · rename_i hlast
      refine (h.covers key).forget fun {now} hnow t ht => ?_
      have hold := le_of_getLast ((h.covers key).sorted (h.times_sorted key)) hlast ht
      have := hcutoff hnow
      simp only [counted, decide_eq_false_iff_not]
      omega

/-- Counting requests and cleaning up leave nothing to be seen. -/
theorem allow (h : l.Tracks limit window history) (hlatest : Latest history request.now) :
    (l.allow request.key request.now).2.Tracks limit window
      (history ++ [(request, slidingWindow limit window history request)]) := by
  have hregister := h.register hlatest
  have hcounted : { (l.register request.key request.now).2 with
      requests := (l.register request.key request.now).2.requests + 1 }.Tracks limit window
        (history ++ [(request, slidingWindow limit window history request)]) :=
    ⟨hregister.limit_eq, hregister.window_eq, hregister.sorted, hregister.covers⟩
  simp only [Limiter.allow]
  split
  · refine hcounted.cleanup fun hnow => ?_
    have := (latest_snoc.mp hnow).2
    have := h.window_eq
    omega
  · exact hcounted

end Tracks

theorem new_tracks (hlimit : 0 < limit) (hwindow : 0 < window) : (new limit window).Tracks limit window [] where
  limit_eq := if_neg (by omega)
  window_eq := if_neg (by omega)
  sorted := List.Pairwise.nil
  covers := fun _ => Window.Covers.refl

/-- A request to the limiter. -/
def answer (l : Limiter) (request : Request) : Bool × Limiter := l.allow request.key request.now

/-- A request to a limiter that never cleans up. -/
def answerOnly (l : Limiter) (request : Request) : Bool × Limiter := l.register request.key request.now

/-- The limiter answers as the sliding window over the full history. -/
theorem answer_simulates :
    Simulates answer (recording (slidingWindow limit window)) (fun history request => Latest history request.now)
      (Tracks limit window) where
  result hrel hok := hrel.decision hok
  next hrel hok := hrel.allow hok

theorem answerOnly_simulates :
    Simulates answerOnly (recording (slidingWindow limit window))
      (fun history request => Latest history request.now) (Tracks limit window) where
  result hrel hok := hrel.decision hok
  next hrel hok := hrel.register hok

end Limiter

section Window

variable {limit window : Int} {history : History}

/-- Only the calls of its own key count for a request. -/
theorem slidingWindow_filter (key : Bytes) {request : Request} (hkey : request.key = key) :
    slidingWindow limit window history request =
      slidingWindow limit window (history.filter (·.1.key = key)) request := by
  subst hkey
  have htimes : allowedTimes request.key (history.filter (·.1.key = request.key)) =
      allowedTimes request.key history := by
    rw [allowedTimes, allowedTimes, List.filter_filter]
    simp
  rw [slidingWindow, slidingWindow, allowedAt, allowedAt, htimes]

/-- The sliding window of a key does not see other keys. -/
theorem reference_filter (key : Bytes) (requests : List Request) :
    (transcript (recording (slidingWindow limit window)) [] requests).filter (·.1.key = key) =
      transcript (recording (slidingWindow limit window)) [] (requests.filter (·.key = key)) :=
  transcript_filter (fun request : Request => decide (request.key = key)) fun _ _ hkey =>
    slidingWindow_filter key (of_decide_eq_true hkey)

/-- No set of times less than a window apart has more than `limit` allowed calls
of one key. -/
theorem allowedAt_le {key : Bytes} {inside : Int → Bool} (hlimit : 0 ≤ limit)
    (hsorted : (history.map (·.1.now)).Pairwise (· ≤ ·))
    (hexact : Every (fun before call => call.2 = slidingWindow limit window before call.1) history)
    (hinside : ∀ {s t}, inside s = true → inside t = true → t - s < window) :
    (allowedAt key history inside : Int) ≤ limit := by
  induction history using List.reverseRecOn with
  | nil => simpa [allowedAt, allowedTimes] using hlimit
  | append_singleton history call ih =>
    obtain ⟨request, ok⟩ := call
    obtain ⟨hexact, hdecision⟩ := every_snoc.mp hexact
    rw [List.map_append, List.pairwise_append] at hsorted
    obtain ⟨hsorted, -, hlatest⟩ := hsorted
    have hold := ih hsorted hexact
    rw [allowedAt, allowedTimes_snoc, List.filter_append, List.length_append]
    by_cases hnew : (ok = true ∧ request.key = key) ∧ inside request.now = true
    · -- The earlier ones of the set all lie in the window of the new call.
      obtain ⟨⟨rfl, rfl⟩, hin⟩ := hnew
      have hroom : (allowedAt request.key history fun t => request.now - window < t ∧ t ≤ request.now : Int) <
          limit := by simpa [slidingWindow] using hdecision.symm
      have hsub : ((allowedTimes request.key history).filter inside).length ≤
          allowedAt request.key history fun t => request.now - window < t ∧ t ≤ request.now := by
        rw [allowedAt, ← List.countP_eq_length_filter, ← List.countP_eq_length_filter]
        refine List.countP_mono_left fun t ht hinside_t => ?_
        obtain ⟨call, hcall, rfl⟩ := mem_allowedTimes ht
        have hbefore := hlatest _ (List.mem_map_of_mem hcall) request.now (by simp)
        have hclose := hinside hinside_t hin
        exact decide_eq_true ⟨by omega, hbefore⟩
      simp only [true_and, if_true, List.filter_cons, hin, List.filter_nil, List.length_singleton]
      omega
    · have hnone : (if ok = true ∧ request.key = key then [request.now] else []).filter inside = [] := by
        split
        · rename_i hallowed
          exact List.filter_eq_nil_iff.mpr fun t ht hin => hnew ⟨hallowed, by rwa [← List.mem_singleton.mp ht]⟩
        · rfl
      rw [hnone]
      exact hold

end Window

/-- For requests at non-decreasing times the limiter is an exact sliding window.
A request is allowed when fewer than `limit` earlier ones of its key were in
the last `window`; so no half-open interval of that length has more than
`limit` allowed calls of one key. The decisions about one key are those of a
limiter that sees no other key, and those of a limiter that never cleans up. -/
theorem limiter_exact {limit window : Int} (hlimit : 0 < limit) (hwindow : 0 < window) {requests : List Request}
    (hordered : requests.Pairwise fun a b => a.now ≤ b.now) :
    let history := transcript Limiter.answer (.new limit window) requests
    Every (fun before call => call.2 = true ↔ (allowedAt call.1.key before fun t =>
        call.1.now - window < t ∧ t ≤ call.1.now : Int) < limit) history ∧
      (∀ key lo, (allowedAt key history (fun t => lo < t ∧ t ≤ lo + window) : Int) ≤ limit ∧
        (allowedAt key history (fun t => lo ≤ t ∧ t < lo + window) : Int) ≤ limit) ∧
      (∀ key, history.filter (·.1.key = key) =
        transcript Limiter.answer (.new limit window) (requests.filter (·.key = key))) ∧
      history = transcript Limiter.answerOnly (.new limit window) requests := by
  intro history
  have hstart := Limiter.new_tracks hlimit hwindow
  have hpermitted : ∀ {requests : List Request}, requests.Pairwise (fun a b => a.now ≤ b.now) →
      Permitted (recording (slidingWindow limit window)) (fun history request => Latest history request.now) []
        requests :=
    fun hordered => permitted_of_pairwise hordered nofun
  have hreference : history = transcript (recording (slidingWindow limit window)) [] requests :=
    Limiter.answer_simulates.transcript_eq hstart (hpermitted hordered)
  have hexact : Every (fun before call => call.2 = slidingWindow limit window before call.1) history := by
    rw [hreference]
    exact transcript_recording [] requests
  have hsorted : (history.map (·.1.now)).Pairwise (· ≤ ·) := by
    have hnow : history.map (·.1.now) = requests.map (·.now) := by
      conv_rhs => rw [← @transcript_fst _ _ _ Limiter.answer (.new limit window) requests, List.map_map]
      rfl
    rw [hnow]
    exact List.pairwise_map.mpr hordered
  refine ⟨fun before call after heq => ?_, fun key lo => ⟨?_, ?_⟩, fun key => ?_, ?_⟩
  · change call.2 = true ↔ _
    rw [hexact before call after heq, slidingWindow, decide_eq_true_eq]
  · refine allowedAt_le hlimit.le hsorted hexact fun hs ht => ?_
    simp only [decide_eq_true_eq] at hs ht
    omega
  · refine allowedAt_le hlimit.le hsorted hexact fun hs ht => ?_
    simp only [decide_eq_true_eq] at hs ht
    omega
  · have hone := Limiter.answer_simulates.transcript_eq hstart (hpermitted (hordered.filter (·.key = key)))
    rw [hone, hreference, reference_filter]
  · rw [hreference]
    exact (Limiter.answerOnly_simulates.transcript_eq hstart (hpermitted hordered)).symm

/-- Requests of two keys, one of which exceeds its limit and comes back later. -/
theorem limiter_exact_two_keys :
    let requests : List Request := [⟨[1], 0⟩, ⟨[1], 3⟩, ⟨[2], 3⟩, ⟨[1], 4⟩, ⟨[1], 10⟩, ⟨[1], 10⟩]
    let history := transcript Limiter.answer (.new 2 10) requests
    history.map (·.2) = [true, true, true, false, true, false] ∧
      history.filter (·.1.key = [1]) = transcript Limiter.answer (.new 2 10) (requests.filter (·.key = [1])) := by
  intro requests history
  have hordered : requests.Pairwise fun a b => a.now ≤ b.now := by decide
  obtain ⟨-, -, hkeys, -⟩ := limiter_exact (by decide : (0 : Int) < 2) (by decide : (0 : Int) < 10) hordered
  exact ⟨by decide +kernel, hkeys [1]⟩

end regiongate.ratelimit
