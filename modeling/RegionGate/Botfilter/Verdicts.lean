import RegionGate.Botfilter.Filter
import RegionGate.Refinement
import RegionGate.Window

open execution refinement window

namespace regiongate.botfilter

/-- A call of the filter at a time. -/
inductive Call where
  | Evaluate (now : Int) (evidence : Evidence)
  | Cleanup (now : Int)
  deriving DecidableEq

/-- The time of a call. -/
def Call.now : Call → Int
  | .Evaluate now _ => now
  | .Cleanup now => now

/-- The evaluations of an IP. -/
def Call.isFor (ip : Bytes) : Call → Bool
  | .Evaluate _ evidence => evidence.remote_ip = ip
  | .Cleanup _ => false

/-- The calls so far with their verdicts; a cleanup has none. -/
abbrev History := List (Call × Option Verdict)

/-- A call and the verdict that it returns. -/
def Manager.perform (m : Manager) : Call → Option Verdict × Manager
  | .Evaluate now evidence => (some (m.evaluate now evidence).1.verdict, (m.evaluate now evidence).2)
  | .Cleanup now => (none, m.cleanup now)

/-- The recorded violations in the window that ends with one of them. -/
def violationsUpTo (policy : FilterPolicy) (recorded : List Int) (v : Int) : Nat :=
  (recorded.filter fun t => v - policy.reputation.window ≤ t ∧ t ≤ v).length

/-- Some recorded violation had enough of them in the window that ends with it,
and its deny time is not over. -/
def blockedBy (policy : FilterPolicy) (recorded : List Int) (now : Int) : Bool :=
  recorded.any fun v =>
    policy.reputation.violation_limit ≤ violationsUpTo policy recorded v ∧
      now < v + policy.reputation.deny_ttl

/-- A violation is recorded unless its IP is blocked. -/
def recordedStep (policy : FilterPolicy) (ip : Bytes) (recorded : List Int) : Call → List Int
  | .Evaluate now evidence =>
    if evidence.remote_ip = ip ∧ evidence.protocol_violation = true ∧ blockedBy policy recorded now = false then
      recorded ++ [now]
    else recorded
  | .Cleanup _ => recorded

/-- The times of the recorded violations of an IP. -/
def recorded (policy : FilterPolicy) (ip : Bytes) (history : History) : List Int :=
  history.foldl (fun times call => recordedStep policy ip times call.1) []

/-- The evaluations of an IP that were not denied, as times and usernames. -/
def passedCall (ip : Bytes) : Call × Option Verdict → Option (Int × Bytes)
  | (.Evaluate now evidence, some verdict) =>
    if evidence.remote_ip = ip ∧ verdict ≠ .Deny then some (now, evidence.username) else none
  | _ => none

/-- The attempts of an address that were not denied, with their times and names. -/
def passed (ip : Bytes) (history : History) : List (Int × Bytes) := history.filterMap (passedCall ip)

/-- The attempts in the window that ends now. -/
def attemptsIn (passed : List (Int × Bytes)) (window now : Int) : Nat :=
  (passed.filter fun p => now - window ≤ p.1 ∧ p.1 ≤ now).length

/-- The distinct usernames in the window that ends now. -/
def usernamesIn (passed : List (Int × Bytes)) (window now : Int) : Nat :=
  ((passed.filter fun p => (now - window ≤ p.1 ∧ p.1 ≤ now) ∧ p.2 ≠ []).map (·.2)).toFinset.card

/-- The verdict on an evaluation, from the violations recorded and the
evaluations passed before. -/
def verdictFor (policy : FilterPolicy) (recorded : List Int) (passed : List (Int × Bytes)) (now : Int)
    (evidence : Evidence) : Verdict :=
  if evidence.protocol_violation = true ∨ blockedBy policy recorded now = true then .Deny
  else
    let passed := passed ++ [(now, evidence.username)]
    if policy.signals.soft_login_burst ≤ attemptsIn passed policy.signals.burst_window now ∨
        policy.signals.username_churn ≤ usernamesIn passed policy.signals.churn_window now then .Observe
    else .Allow

/-- The verdict that a whole history calls for. -/
def verdict (policy : FilterPolicy) (history : History) : Call → Option Verdict
  | .Evaluate now evidence =>
    some (verdictFor policy (recorded policy evidence.remote_ip history) (passed evidence.remote_ip history) now
      evidence)
  | .Cleanup _ => none

/-- The times of the last `length`, both ends included. -/
def closed (length : Int) : Window Int where
  live now t := now - length ≤ t
  shrinks hle hlive := by
    simp only [decide_eq_true_eq] at hlive ⊢
    omega
  upward hle hlive := by
    simp only [decide_eq_true_eq] at hlive ⊢
    omega

/-- `keepTimes` trims a list to a closed window. -/
theorem keep_times_eq (values : List Int) (now length : Int) :
    ReputationEntry.keep_times values (now - length) = (closed length).trim now values := by
  rw [ReputationEntry.keep_times, Window.trim]
  congr 1
  funext t
  rw [closed, Bool.eq_iff_iff]
  simp only [Bool.not_eq_true', decide_eq_true_eq, decide_eq_false_iff_not]
  omega

namespace ReputationEntry

/-- An entry keeps what matters, at the times that can come, of the violations
recorded and the evaluations passed for its IP. -/
structure Tracks (policy : FilterPolicy) (later : Int → Prop) (entry : ReputationEntry) (recorded : List Int)
    (passed : List (Int × Bytes)) : Prop where
  attempts : (closed policy.signals.burst_window).Covers later entry.burst_attempts (passed.map (·.1))
  violations : (closed policy.reputation.window).Covers later entry.violations recorded
  blocked_eq : ∀ {now}, later now → entry.blocked now = blockedBy policy recorded now
  unique : ∀ {name t t'}, (name, t) ∈ entry.usernames → (name, t') ∈ entry.usernames → t = t'
  names : ∀ {now}, later now → ∀ {name}, (∃ t, (name, t) ∈ entry.usernames ∧ now - policy.signals.churn_window ≤ t) ↔
    name ≠ [] ∧ ∃ t, (t, name) ∈ passed ∧ now - policy.signals.churn_window ≤ t

/-- The recorded violations and passed evaluations are in order and not after
the times that can come. -/
structure Ordered (later : Int → Prop) (recorded : List Int) (passed : List (Int × Bytes)) : Prop where
  recorded_sorted : recorded.Pairwise (· ≤ ·)
  passed_sorted : (passed.map (·.1)).Pairwise (· ≤ ·)
  recorded_le : ∀ {now}, later now → ∀ t ∈ recorded, t ≤ now
  passed_le : ∀ {now}, later now → ∀ p ∈ passed, p.1 ≤ now

/-- Everything an entry holds still counts. -/
structure Fresh (policy : FilterPolicy) (now : Int) (entry : ReputationEntry) : Prop where
  attempts : ∀ t ∈ entry.burst_attempts, (closed policy.signals.burst_window).live now t = true
  violations : ∀ t ∈ entry.violations, (closed policy.reputation.window).live now t = true
  usernames : ∀ {name t}, (name, t) ∈ entry.usernames → now - policy.signals.churn_window ≤ t

section Entry

variable {policy : FilterPolicy} {later later' : Int → Prop} {entry : ReputationEntry} {recorded : List Int}
  {passed : List (Int × Bytes)} {now : Int} {username : Bytes}

theorem Ordered.mono (h : Ordered later recorded passed) (hlater : ∀ {t}, later' t → later t) :
    Ordered later' recorded passed :=
  ⟨h.recorded_sorted, h.passed_sorted, fun hnow => h.recorded_le (hlater hnow),
    fun hnow => h.passed_le (hlater hnow)⟩

theorem Tracks.mono (h : entry.Tracks policy later recorded passed) (hlater : ∀ {t}, later' t → later t) :
    entry.Tracks policy later' recorded passed where
  attempts := h.attempts.mono hlater
  violations := h.violations.mono hlater
  blocked_eq hnow := h.blocked_eq (hlater hnow)
  unique := h.unique
  names hnow := h.names (hlater hnow)

theorem empty_tracks : empty.Tracks policy later [] [] where
  attempts := Window.Covers.refl
  violations := Window.Covers.refl
  blocked_eq _ := rfl
  unique hmem := absurd hmem (Finset.notMem_empty _)
  names _ := by simp [empty]

@[simp] theorem prune_attempts :
    (entry.prune now policy).burst_attempts = (closed policy.signals.burst_window).trim now entry.burst_attempts :=
  keep_times_eq _ _ _

@[simp] theorem prune_violations :
    (entry.prune now policy).violations = (closed policy.reputation.window).trim now entry.violations :=
  keep_times_eq _ _ _

@[simp] theorem mem_prune_usernames {name : Bytes} {t : Int} : (name, t) ∈ (entry.prune now policy).usernames ↔
    (name, t) ∈ entry.usernames ∧ now - policy.signals.churn_window ≤ t := by
  simp [ReputationEntry.prune]

/-- Pruning drops only what no later call will count. -/
theorem Tracks.prune (h : entry.Tracks policy later recorded passed) (hordered : Ordered later recorded passed)
    (hnow : later now) (hlater : ∀ {t}, later' t → later t ∧ now ≤ t) :
    (entry.prune now policy).Tracks policy later' recorded passed where
  attempts := by
    rw [prune_attempts]
    exact h.attempts.trim hordered.passed_sorted hnow fun ht => (hlater ht).2
  violations := by
    rw [prune_violations]
    exact h.violations.trim hordered.recorded_sorted hnow fun ht => (hlater ht).2
  blocked_eq ht := h.blocked_eq (hlater ht).1
  unique hmem hmem' := h.unique (mem_prune_usernames.mp hmem).1 (mem_prune_usernames.mp hmem').1
  names := by
    intro t ht name
    rw [← h.names (hlater ht).1]
    have hle := (hlater ht).2
    constructor
    · rintro ⟨s, hmem, hs⟩
      exact ⟨s, (mem_prune_usernames.mp hmem).1, hs⟩
    · rintro ⟨s, hmem, hs⟩
      exact ⟨s, mem_prune_usernames.mpr ⟨hmem, by omega⟩, hs⟩

/-- After pruning, everything in an entry lies in its window. -/
theorem Tracks.fresh (h : entry.Tracks policy later recorded passed) (hordered : Ordered later recorded passed) :
    (entry.prune now policy).Fresh policy now where
  attempts := by
    rw [prune_attempts]
    exact fun t ht => live_of_mem_trim (h.attempts.sorted hordered.passed_sorted) ht
  violations := by
    rw [prune_violations]
    exact fun t ht => live_of_mem_trim (h.violations.sorted hordered.recorded_sorted) ht
  usernames hmem := (mem_prune_usernames.mp hmem).2

/-- An address is blocked by a violation that made as many as the limit, for as long
as the block lasts. -/
theorem blockedBy_iff : blockedBy policy recorded now = true ↔ ∃ v ∈ recorded,
    policy.reputation.violation_limit ≤ violationsUpTo policy recorded v ∧
      now < v + policy.reputation.deny_ttl := by
  simp [blockedBy]

/-- The violations in the window of the newest one. -/
theorem violationsUpTo_snoc_self (hwindow : 0 ≤ policy.reputation.window) (hle : ∀ v ∈ recorded, v ≤ now) :
    violationsUpTo policy (recorded ++ [now]) now =
      (recorded.filter ((closed policy.reputation.window).live now)).length + 1 := by
  have hsame : (recorded.filter fun t => now - policy.reputation.window ≤ t ∧ t ≤ now) =
      recorded.filter ((closed policy.reputation.window).live now) :=
    List.filter_congr fun v hv => by simp [closed, hle v hv]
  rw [violationsUpTo, List.filter_append, List.length_append, hsame,
    List.filter_cons_of_pos (by simp; omega)]
  rfl

/-- A later violation does not count for an earlier one. -/
theorem violationsUpTo_snoc_lt {v : Int} (hlt : v < now) :
    violationsUpTo policy (recorded ++ [now]) v = violationsUpTo policy recorded v := by
  rw [violationsUpTo, List.filter_append, List.filter_cons_of_neg (by simp; omega), List.filter_nil,
    List.append_nil, violationsUpTo]

/-- A further violation counts those of its own window, and blocks by itself or
not at all. -/
theorem blockedBy_snoc {t : Int} (hwindow : 0 ≤ policy.reputation.window) (hle : ∀ v ∈ recorded, v ≤ now) :
    blockedBy policy (recorded ++ [now]) t = true ↔
      (policy.reputation.violation_limit ≤
          (recorded.filter ((closed policy.reputation.window).live now)).length + 1 ∧
        t < now + policy.reputation.deny_ttl) ∨ blockedBy policy recorded t = true := by
  have hself := violationsUpTo_snoc_self hwindow hle
  simp only [blockedBy_iff, List.mem_append, List.mem_singleton]
  constructor
  · rintro ⟨v, hv, hlimit, ht⟩
    by_cases hlast : v = now
    · subst hlast
      exact .inl ⟨by omega, ht⟩
    · have hv := hv.resolve_right hlast
      have hlt : v < now := lt_of_le_of_ne (hle v hv) hlast
      rw [violationsUpTo_snoc_lt hlt] at hlimit
      exact .inr ⟨v, hv, hlimit, ht⟩
  · rintro (⟨hlimit, ht⟩ | ⟨v, hv, hlimit, ht⟩)
    · exact ⟨now, .inr rfl, by omega, ht⟩
    · have hmono : violationsUpTo policy recorded v ≤ violationsUpTo policy (recorded ++ [now]) v := by
        simp [violationsUpTo]
      exact ⟨v, .inl hv, by omega, ht⟩

/-- A recorded violation blocks the address in the entry exactly when it does so in
the history. -/
theorem Tracks.record_violation (h : entry.Tracks policy later recorded passed) (hfresh : entry.Fresh policy now)
    (hwindow : 0 ≤ policy.reputation.window) (hnow : later now) (hle : ∀ v ∈ recorded, v ≤ now) :
    (entry.record_violation now policy).Tracks policy later (recorded ++ [now]) passed where
  attempts := h.attempts
  violations := h.violations.snoc
  blocked_eq := by
    intro t ht
    have hcount := h.violations.length_eq hnow hfresh.violations
    have hended : entry.blocked t = true → t < now + policy.reputation.deny_ttl := by
      rw [h.blocked_eq ht, blockedBy_iff]
      rintro ⟨v, hv, -, hend⟩
      have := hle v hv
      omega
    rw [Bool.eq_iff_iff, blockedBy_snoc hwindow hle, ← hcount, ← h.blocked_eq ht]
    by_cases hlimit : policy.reputation.violation_limit ≤ (entry.violations.length : Int) + 1
    · simpa [ReputationEntry.record_violation, ReputationEntry.blocked, hlimit] using hended
    · simp [ReputationEntry.record_violation, ReputationEntry.blocked, hlimit]
  unique := h.unique
  names := h.names

/-- The names of an entry after an attempt: its own name with the new time, and the
others. -/
theorem mem_attempt_usernames {name : Bytes} {t : Int} : (name, t) ∈ (entry.attempt now username).usernames ↔
    (username ≠ [] ∧ name = username ∧ t = now) ∨
      ((name, t) ∈ entry.usernames ∧ (username ≠ [] → name ≠ username)) := by
  by_cases hempty : username = []
  · simp [ReputationEntry.attempt, hempty]
  · simp [ReputationEntry.attempt, hempty]

/-- An attempt is stored in the entry as it is in the history; for each name only its
last time is kept. -/
theorem Tracks.attempt (h : entry.Tracks policy later recorded passed) (hlater : ∀ {t}, later t → now ≤ t)
    (hle : ∀ p ∈ passed, p.1 ≤ now) :
    (entry.attempt now username).Tracks policy later recorded (passed ++ [(now, username)]) where
  attempts := by
    rw [List.map_append]
    exact h.attempts.snoc
  violations := h.violations
  blocked_eq := h.blocked_eq
  unique := by
    intro name t t' hmem hmem'
    rw [mem_attempt_usernames] at hmem hmem'
    obtain ⟨hsome, hname, rfl⟩ | ⟨hmem, hother⟩ := hmem
    · obtain ⟨-, -, rfl⟩ | ⟨-, hother⟩ := hmem'
      · rfl
      · exact absurd hname (hother hsome)
    · obtain ⟨hsome, hname, -⟩ | ⟨hmem', -⟩ := hmem'
      · exact absurd hname (hother hsome)
      · exact h.unique hmem hmem'
  names := by
    intro t ht name
    by_cases hthis : name = username ∧ username ≠ []
    · -- The attempt is the last one of its own username.
      obtain ⟨rfl, hsome⟩ := hthis
      constructor
      · rintro ⟨s, hmem, hs⟩
        obtain ⟨-, -, rfl⟩ | ⟨-, hother⟩ := mem_attempt_usernames.mp hmem
        · exact ⟨hsome, s, by simp, hs⟩
        · exact absurd rfl (hother hsome)
      · rintro ⟨-, s, hmem, hs⟩
        have hsnow : s ≤ now := by
          obtain hmem | hmem := List.mem_append.mp hmem
          · exact hle _ hmem
          · simp_all
        exact ⟨now, mem_attempt_usernames.mpr (.inl ⟨hsome, rfl, rfl⟩), by omega⟩
    · have hnames : ∀ s, (name, s) ∈ (entry.attempt now username).usernames ↔ (name, s) ∈ entry.usernames := by
        intro s
        rw [mem_attempt_usernames]
        grind
      have hpassed : name ≠ [] → ∀ s, (s, name) ∈ passed ++ [(now, username)] ↔ (s, name) ∈ passed := by
        intro hname s
        grind
      simp only [hnames]
      rw [h.names ht]
      exact and_congr_right fun hname => by simp only [hpassed hname]

theorem Fresh.attempt (h : entry.Fresh policy now) (hburst : 0 ≤ policy.signals.burst_window)
    (hchurn : 0 ≤ policy.signals.churn_window) : (entry.attempt now username).Fresh policy now where
  attempts := by
    intro t ht
    obtain ht | rfl := List.mem_append.mp ht |>.imp_right List.mem_singleton.mp
    · exact h.attempts t ht
    · exact decide_eq_true (by omega)
  violations := h.violations
  usernames := by
    intro name t hmem
    obtain ⟨-, -, rfl⟩ | ⟨hmem, -⟩ := mem_attempt_usernames.mp hmem
    · omega
    · exact h.usernames hmem

/-- An entry that `cleanup` removes has nothing left that a later call would count. -/
theorem Tracks.forget (h : entry.Tracks policy later recorded passed) (hlater : ∀ {t}, later t → now ≤ t)
    (hunused : entry.unused now = true) : empty.Tracks policy later recorded passed := by
  obtain ⟨hattempts, husernames, hviolations, hblocked⟩ := of_decide_eq_true hunused
  have hattempts' := h.attempts
  have hviolations' := h.violations
  have hnames := @h.names
  rw [hattempts] at hattempts'
  rw [hviolations] at hviolations'
  rw [husernames] at hnames
  refine ⟨hattempts', hviolations', fun {t} ht => ?_, fun hmem => absurd hmem (Finset.notMem_empty _), hnames⟩
  rw [← h.blocked_eq ht]
  have hend := hlater ht
  cases huntil : entry.blocked_until with
  | none => simp [ReputationEntry.blocked, huntil, empty]
  | some until_ =>
    have : ¬ now < until_ := by simpa [ReputationEntry.blocked, huntil] using hblocked
    simp [ReputationEntry.blocked, huntil, empty]
    omega

/-- The attempts of a fresh entry are those of the history within the burst window. -/
theorem attempts_length (h : entry.Tracks policy later recorded passed) (hfresh : entry.Fresh policy now)
    (hnow : later now) (hle : ∀ p ∈ passed, p.1 ≤ now) :
    entry.burst_attempts.length = attemptsIn passed policy.signals.burst_window now := by
  rw [h.attempts.length_eq hnow hfresh.attempts, List.filter_map, List.length_map, attemptsIn]
  congr 1
  exact List.filter_congr fun p hp => by simp [closed, hle p hp]

/-- The names of a fresh entry are those of the history within the churn window. -/
theorem usernames_card (h : entry.Tracks policy later recorded passed) (hfresh : entry.Fresh policy now)
    (hnow : later now) (hle : ∀ p ∈ passed, p.1 ≤ now) :
    entry.usernames.card = usernamesIn passed policy.signals.churn_window now := by
  have hinjective : Set.InjOn Prod.fst (entry.usernames : Set (Bytes × Int)) := by
    rintro ⟨name, t⟩ hmem ⟨name', t'⟩ hmem' hname
    obtain rfl : name = name' := hname
    rw [h.unique hmem hmem']
  have himage : entry.usernames.image Prod.fst = ((passed.filter fun p =>
      (now - policy.signals.churn_window ≤ p.1 ∧ p.1 ≤ now) ∧ p.2 ≠ []).map (·.2)).toFinset := by
    ext name
    have hname : name ∈ entry.usernames.image Prod.fst ↔
        ∃ t, (name, t) ∈ entry.usernames ∧ now - policy.signals.churn_window ≤ t := by
      rw [Finset.mem_image]
      constructor
      · rintro ⟨⟨_, t⟩, hmem, rfl⟩
        exact ⟨t, hmem, hfresh.usernames hmem⟩
      · rintro ⟨t, hmem, -⟩
        exact ⟨(name, t), hmem, rfl⟩
    rw [hname, h.names hnow, List.mem_toFinset, List.mem_map]
    constructor
    · rintro ⟨hsome, t, hmem, ht⟩
      exact ⟨(t, name), List.mem_filter.mpr ⟨hmem, decide_eq_true ⟨⟨ht, hle _ hmem⟩, hsome⟩⟩, rfl⟩
    · rintro ⟨⟨t, _⟩, hmem, rfl⟩
      obtain ⟨hmem, hin⟩ := List.mem_filter.mp hmem
      obtain ⟨⟨ht, -⟩, hsome⟩ := of_decide_eq_true hin
      exact ⟨hsome, t, hmem, ht⟩
  rw [usernamesIn, ← himage, Finset.card_image_of_injOn hinjective]

/-- The decision on an entry that was just pruned is the one its history calls
for, and the entry goes on tracking that. -/
theorem Tracks.evaluate {evidence : Evidence} (h : entry.Tracks policy later recorded passed)
    (hfresh : entry.Fresh policy now) (hpolicy : policy.Windows) (hnow : later now)
    (hlater : ∀ {t}, later t → now ≤ t) (hordered : Ordered later recorded passed) :
    (entry.evaluate now evidence policy).1.verdict = verdictFor policy recorded passed now evidence ∧
      (entry.evaluate now evidence policy).2.Tracks policy later
        (recordedStep policy evidence.remote_ip recorded (.Evaluate now evidence))
        (passed ++ if verdictFor policy recorded passed now evidence ≠ .Deny then [(now, evidence.username)]
          else []) := by
  cases hblocked : entry.blocked now with
  | true =>
    have hblocked' : blockedBy policy recorded now = true := by rw [← h.blocked_eq hnow, hblocked]
    have hverdict : verdictFor policy recorded passed now evidence = .Deny := if_pos (.inr hblocked')
    rw [ReputationEntry.evaluate, if_pos hblocked, hverdict]
    exact ⟨rfl, by simpa [recordedStep, hblocked'] using h⟩
  | false =>
    have hblocked' : blockedBy policy recorded now = false := by rw [← h.blocked_eq hnow, hblocked]
    rw [ReputationEntry.evaluate, if_neg (by simp [hblocked])]
    cases hviolation : evidence.protocol_violation with
    | true =>
      have hverdict : verdictFor policy recorded passed now evidence = .Deny := if_pos (.inl hviolation)
      rw [if_pos rfl, hverdict]
      have hrecord := h.record_violation hfresh hpolicy.window.le hnow (hordered.recorded_le hnow)
      exact ⟨rfl, by simpa [recordedStep, hblocked', hviolation] using hrecord⟩
    | false =>
      have hattempt : (entry.attempt now evidence.username).Tracks policy later recorded
          (passed ++ [(now, evidence.username)]) := h.attempt hlater (hordered.passed_le hnow)
      have hfresh' : (entry.attempt now evidence.username).Fresh policy now :=
        hfresh.attempt hpolicy.burst_window.le hpolicy.churn_window.le
      have hle : ∀ p ∈ passed ++ [(now, evidence.username)], p.1 ≤ now := by
        intro p hp
        obtain hp | rfl := List.mem_append.mp hp |>.imp_right List.mem_singleton.mp
        · exact hordered.passed_le hnow p hp
        · exact le_rfl
      have hrecorded : recordedStep policy evidence.remote_ip recorded (.Evaluate now evidence) = recorded := by
        simp [recordedStep, hviolation]
      have hverdict : verdictFor policy recorded passed now evidence =
          if policy.signals.soft_login_burst ≤ (entry.attempt now evidence.username).burst_attempts.length ∨
              policy.signals.username_churn ≤ (entry.attempt now evidence.username).usernames.card then .Observe
          else .Allow := by
        rw [verdictFor, if_neg (by simp [hviolation, hblocked']), attempts_length hattempt hfresh' hnow hle,
          usernames_card hattempt hfresh' hnow hle]
      rw [if_neg (by simp), hrecorded, hverdict]
      by_cases hsignal :
          policy.signals.soft_login_burst ≤ (entry.attempt now evidence.username).burst_attempts.length ∨
            policy.signals.username_churn ≤ (entry.attempt now evidence.username).usernames.card
      · simp only [if_pos hsignal]
        exact ⟨trivial, hattempt⟩
      · simp only [if_neg hsignal]
        exact ⟨trivial, hattempt⟩

end Entry

end ReputationEntry

/-- No call was made after a time. -/
def Latest (history : History) (now : Int) : Prop := ∀ call ∈ history, call.1.now ≤ now

section History

variable {policy : FilterPolicy} {ip : Bytes} {history : History} {call : Call × Option Verdict}

theorem latest_snoc {now : Int} : Latest (history ++ [call]) now ↔ Latest history now ∧ call.1.now ≤ now := by
  simp [Latest, or_imp, forall_and]

theorem recorded_snoc :
    recorded policy ip (history ++ [call]) = recordedStep policy ip (recorded policy ip history) call.1 := by
  rw [recorded, List.foldl_append]
  rfl

theorem passed_snoc : passed ip (history ++ [call]) = passed ip history ++ (passedCall ip call).toList := by
  rw [passed, List.filterMap_append]
  cases hcall : passedCall ip call <;> simp [hcall, passed]

theorem passedCall_now {p : Int × Bytes} (h : passedCall ip call = some p) : p.1 = call.1.now := by
  obtain ⟨⟨now, evidence⟩ | ⟨now⟩, _ | verdict⟩ := call
  · cases h
  · rw [passedCall] at h
    split at h
    · cases h
      rfl
    · cases h
  · cases h
  · cases h

/-- Violations are recorded at the times of their calls. -/
theorem recorded_sublist : (recorded policy ip history).Sublist (history.map (·.1.now)) := by
  induction history using List.reverseRecOn with
  | nil => exact List.Sublist.refl _
  | append_singleton history call ih =>
    rw [recorded_snoc, List.map_append]
    obtain ⟨⟨now, evidence⟩ | ⟨now⟩, result⟩ := call
    · rw [recordedStep]
      split
      · exact ih.append (List.Sublist.refl _)
      · exact ih.trans (List.sublist_append_left _ _)
    · exact ih.trans (List.sublist_append_left _ _)

theorem passed_sublist : ((passed ip history).map (·.1)).Sublist (history.map (·.1.now)) := by
  induction history using List.reverseRecOn with
  | nil => exact List.Sublist.refl _
  | append_singleton history call ih =>
    rw [passed_snoc, List.map_append, List.map_append]
    refine ih.append ?_
    cases hcall : passedCall ip call with
    | none => exact List.nil_sublist _
    | some p =>
      rw [Option.toList_some, List.map_singleton, passedCall_now hcall]
      exact List.Sublist.refl _

/-- A call at a latest time keeps the history in order. -/
theorem sorted_snoc (hsorted : (history.map (·.1.now)).Pairwise (· ≤ ·)) (hlatest : Latest history call.1.now) :
    ((history ++ [call]).map (·.1.now)).Pairwise (· ≤ ·) := by
  rw [List.map_append, List.pairwise_append]
  refine ⟨hsorted, List.pairwise_singleton _ _, fun t ht now hnow => ?_⟩
  obtain ⟨earlier, hearlier, rfl⟩ := List.mem_map.mp ht
  obtain rfl := List.mem_singleton.mp hnow
  exact hlatest earlier hearlier

theorem recordedStep_other {times : List Int} {now : Int} {evidence : Evidence} (hip : evidence.remote_ip ≠ ip) :
    recordedStep policy ip times (.Evaluate now evidence) = times :=
  if_neg fun h => hip h.1

theorem passedCall_other {now : Int} {evidence : Evidence} {result : Option Verdict}
    (hip : evidence.remote_ip ≠ ip) : passedCall ip (.Evaluate now evidence, result) = none := by
  cases result with
  | none => rfl
  | some verdict => exact if_neg fun h => hip h.1

theorem passedCall_cleanup {now : Int} {result : Option Verdict} : passedCall ip (.Cleanup now, result) = none := by
  cases result <;> rfl

theorem passedCall_self {now : Int} {evidence : Evidence} {verdict : Verdict} :
    (passedCall evidence.remote_ip (.Evaluate now evidence, some verdict)).toList =
      if verdict ≠ .Deny then [(now, evidence.username)] else [] := by
  cases verdict <;> simp [passedCall]

/-- In a history in order, so are the violations and attempts of an address. -/
theorem ordered (hsorted : (history.map (·.1.now)).Pairwise (· ≤ ·)) :
    ReputationEntry.Ordered (Latest history) (recorded policy ip history) (passed ip history) where
  recorded_sorted := hsorted.sublist recorded_sublist
  passed_sorted := hsorted.sublist passed_sublist
  recorded_le := by
    intro now hnow t ht
    obtain ⟨call, hcall, rfl⟩ := List.mem_map.mp (recorded_sublist.subset ht)
    exact hnow call hcall
  passed_le := by
    intro now hnow p hp
    obtain ⟨call, hcall, hsame⟩ := List.mem_map.mp (passed_sublist.subset (List.mem_map_of_mem hp))
    rw [← hsame]
    exact hnow call hcall

end History

namespace Manager

/-- What is kept about an IP; nothing for one that the map does not hold. -/
def entry (m : Manager) (ip : Bytes) : ReputationEntry := (m.entries ip).getD .empty

/-- The entries of all IPs track the history. -/
structure Tracks (policy : FilterPolicy) (m : Manager) (history : History) : Prop where
  policy_eq : m.policy.bot_filter = policy
  sorted : (history.map (·.1.now)).Pairwise (· ≤ ·)
  entries : ∀ ip, (m.entry ip).Tracks policy (Latest history) (recorded policy ip history) (passed ip history)

section Manager

variable {policy : FilterPolicy} {m : Manager} {history : History} {now : Int} {evidence : Evidence} {ip : Bytes}

theorem evaluate_eq (henabled : m.policy.bot_filter.enabled = true) :
    (m.evaluate now evidence).1 = (((m.entry evidence.remote_ip).prune now m.policy.bot_filter).evaluate now evidence
      m.policy.bot_filter).1 := by
  simp [Manager.evaluate, henabled, entry]

/-- `Evaluate` touches the entry of its own address only. -/
theorem entry_evaluate (henabled : m.policy.bot_filter.enabled = true) : (m.evaluate now evidence).2.entry ip =
    if evidence.remote_ip = ip then
      (((m.entry ip).prune now m.policy.bot_filter).evaluate now evidence m.policy.bot_filter).2
    else m.entry ip := by
  have hentries : (m.evaluate now evidence).2.entries = Function.update m.entries evidence.remote_ip
      (some (((m.entry evidence.remote_ip).prune now m.policy.bot_filter).evaluate now evidence
        m.policy.bot_filter).2) := by
    simp [Manager.evaluate, henabled, entry]
  rw [entry, hentries]
  by_cases hip : evidence.remote_ip = ip
  · subst hip
    rw [Function.update_self, if_pos rfl, Option.getD_some]
  · rw [Function.update_of_ne (Ne.symm hip), if_neg hip, entry]

theorem entry_cleanup (henabled : m.policy.bot_filter.enabled = true) : (m.cleanup now).entry ip =
    if ((m.entry ip).prune now m.policy.bot_filter).unused now then .empty
    else (m.entry ip).prune now m.policy.bot_filter := by
  cases hentry : m.entries ip with
  | none =>
    have hempty : (ReputationEntry.empty.prune now m.policy.bot_filter).unused now = true := by
      simp [ReputationEntry.prune, ReputationEntry.empty, ReputationEntry.unused, ReputationEntry.keep_times,
        ReputationEntry.blocked]
    simp [entry, cleanup, hentry, hempty]
  | some e =>
    cases hunused : (e.prune now m.policy.bot_filter).unused now <;>
      simp [entry, cleanup, hentry, henabled, hunused]

/-- The verdict is that of the full history, which goes on being tracked. -/
theorem Tracks.evaluate (h : m.Tracks policy history) (henabled : policy.enabled = true) (hpolicy : policy.Windows)
    (hlatest : Latest history now) :
    (m.perform (.Evaluate now evidence)).1 = verdict policy history (.Evaluate now evidence) ∧
      (m.perform (.Evaluate now evidence)).2.Tracks policy
        (history ++ [(.Evaluate now evidence, verdict policy history (.Evaluate now evidence))]) := by
  obtain rfl := h.policy_eq
  have hlast : ∀ {t}, Latest (history ++
      [(.Evaluate now evidence, verdict m.policy.bot_filter history (.Evaluate now evidence))]) t →
        Latest history t ∧ now ≤ t := latest_snoc.mp
  have hnow : Latest (history ++
      [(.Evaluate now evidence, verdict m.policy.bot_filter history (.Evaluate now evidence))]) now :=
    latest_snoc.mpr ⟨hlatest, le_rfl⟩
  have hordered : ReputationEntry.Ordered (Latest history) (recorded m.policy.bot_filter evidence.remote_ip history)
      (passed evidence.remote_ip history) := ordered h.sorted
  have hentry := h.entries evidence.remote_ip
  have hpruned := hentry.prune hordered hlatest hlast
  obtain ⟨hverdict, htracks⟩ := hpruned.evaluate (hentry.fresh hordered) hpolicy hnow (fun ht => (hlast ht).2)
    (hordered.mono fun ht => (hlast ht).1)
  refine ⟨?_, ⟨congrArg Policy.bot_filter policy_evaluate, sorted_snoc h.sorted hlatest, fun ip => ?_⟩⟩
  · rw [perform, evaluate_eq henabled, hverdict]
    rfl
  · rw [perform, entry_evaluate henabled, recorded_snoc, passed_snoc]
    by_cases hip : evidence.remote_ip = ip
    · subst hip
      have hpassed : (passedCall evidence.remote_ip (.Evaluate now evidence,
          verdict m.policy.bot_filter history (.Evaluate now evidence))).toList = _ := passedCall_self
      rw [if_pos rfl, hpassed]
      exact htracks
    · rw [if_neg hip, recordedStep_other hip, passedCall_other hip, Option.toList_none, List.append_nil]
      exact (h.entries ip).mono fun ht => (hlast ht).1

/-- `cleanup` changes no verdict that is still to come. -/
theorem Tracks.cleanup (h : m.Tracks policy history) (henabled : policy.enabled = true)
    (hlatest : Latest history now) :
    (m.cleanup now).Tracks policy (history ++ [(.Cleanup now, none)]) := by
  obtain rfl := h.policy_eq
  have hlast : ∀ {t}, Latest (history ++ [(.Cleanup now, none)]) t → Latest history t ∧ now ≤ t := latest_snoc.mp
  refine ⟨rfl, sorted_snoc h.sorted hlatest, fun ip => ?_⟩
  have hpruned : ((m.entry ip).prune now m.policy.bot_filter).Tracks m.policy.bot_filter
      (Latest (history ++ [(.Cleanup now, none)])) (recorded m.policy.bot_filter ip history) (passed ip history) :=
    (h.entries ip).prune (ordered h.sorted) hlatest hlast
  rw [entry_cleanup henabled, recorded_snoc, passed_snoc, recordedStep, passedCall_cleanup,
    Option.toList_none, List.append_nil]
  split
  · exact hpruned.forget (fun ht => (hlast ht).2) ‹_›
  · exact hpruned

end Manager

theorem new_tracks (policy : Policy) : (new policy).Tracks policy.bot_filter [] where
  policy_eq := rfl
  sorted := List.Pairwise.nil
  entries := fun _ => ReputationEntry.empty_tracks

/-- The manager gives the verdicts of the full history, call by call. -/
theorem perform_simulates {policy : FilterPolicy} (henabled : policy.enabled = true) (hpolicy : policy.Windows) :
    Simulates perform (recording (verdict policy)) (fun history call => Latest history call.now) (Tracks policy) where
  result := by
    intro m history call htracks hlatest
    cases call with
    | Evaluate now evidence => exact (htracks.evaluate henabled hpolicy hlatest).1
    | Cleanup now => rfl
  next := by
    intro m history call htracks hlatest
    cases call with
    | Evaluate now evidence => exact (htracks.evaluate henabled hpolicy hlatest).2
    | Cleanup now => exact htracks.cleanup henabled hlatest

end Manager

/-- Calls for other addresses record nothing for this one. -/
theorem recorded_filter {policy : FilterPolicy} {ip : Bytes} {history : History} :
    recorded policy ip (history.filter (·.1.isFor ip)) = recorded policy ip history := by
  induction history using List.reverseRecOn with
  | nil => rfl
  | append_singleton history call ih =>
    rw [List.filter_append, recorded_snoc, ← ih]
    obtain ⟨⟨now, evidence⟩ | ⟨now⟩, result⟩ := call
    · by_cases hip : evidence.remote_ip = ip
      · rw [List.filter_cons_of_pos (by simpa [Call.isFor] using hip), List.filter_nil, recorded_snoc]
      · rw [List.filter_cons_of_neg (by simpa [Call.isFor] using hip), List.filter_nil, List.append_nil,
          recordedStep_other hip]
    · rw [List.filter_cons_of_neg (by simp [Call.isFor]), List.filter_nil, List.append_nil]
      rfl

/-- Calls for other addresses pass nothing for this one. -/
theorem passed_filter {ip : Bytes} {history : History} :
    passed ip (history.filter (·.1.isFor ip)) = passed ip history := by
  rw [passed, passed, List.filterMap_filter]
  congr 1
  funext ⟨call, result⟩
  cases call with
  | Evaluate now evidence =>
    by_cases hip : evidence.remote_ip = ip
    · simp [Call.isFor, hip]
    · simp [Call.isFor, hip, passedCall_other hip]
  | Cleanup now => exact passedCall_cleanup.symm

/-- Only the evaluations of its own IP count for a verdict. -/
theorem verdict_filter {policy : FilterPolicy} {history : History} {ip : Bytes} {call : Call}
    (hip : call.isFor ip = true) :
    verdict policy history call = verdict policy (history.filter (·.1.isFor ip)) call := by
  cases call with
  | Evaluate now evidence =>
    obtain rfl : evidence.remote_ip = ip := of_decide_eq_true hip
    rw [verdict, verdict, recorded_filter, passed_filter]
  | Cleanup now => rfl

/-- For a fixed valid and enabled policy and calls at non-decreasing times, every
verdict is the one that the whole history of its IP calls for; and it is the
one given when neither cleanups nor the evaluations of other IPs are made. -/
theorem verdicts_match_history {policy : Policy} (hvalid : policy.validate = .ok ())
    (henabled : policy.bot_filter.enabled = true) {calls : List Call}
    (hordered : calls.Pairwise fun a b => a.now ≤ b.now) :
    let history := transcript Manager.perform (.new policy) calls
    Every (fun before call => call.2 = verdict policy.bot_filter before call.1) history ∧
      ∀ ip, history.filter (·.1.isFor ip) =
        transcript Manager.perform (.new policy) (calls.filter (·.isFor ip)) := by
  intro history
  have hsimulates := Manager.perform_simulates henabled (Policy.validate_enabled hvalid henabled).2.2
  have hpermitted : ∀ {calls : List Call}, calls.Pairwise (fun a b => a.now ≤ b.now) →
      Permitted (recording (verdict policy.bot_filter)) (fun history call => Latest history call.now) [] calls :=
    fun hordered => permitted_of_pairwise hordered nofun
  have hreference : history = transcript (recording (verdict policy.bot_filter)) [] calls :=
    hsimulates.transcript_eq (Manager.new_tracks policy) (hpermitted hordered)
  refine ⟨?_, fun ip => ?_⟩
  · rw [hreference]
    exact transcript_recording [] calls
  · have hip := hsimulates.transcript_eq (Manager.new_tracks policy) (hpermitted (hordered.filter (·.isFor ip)))
    rw [hip, hreference]
    exact transcript_filter (Call.isFor ip) fun _ _ hcall => verdict_filter hcall

/-- A policy that denies for 20 after two violations within 10. -/
def strictPolicy : Policy where
  version := 1
  bot_filter := {
    enabled := true
    observation := ⟨5, 3, 2⟩
    reputation := ⟨10, 2, 20⟩
    signals := ⟨3, 10, 2, 10⟩ }

/-- Two violations, of which the second blocks the address, and a call of another
address. -/
theorem verdicts_match_history_two_violations :
    let violation : Evidence := ⟨[], [1], true⟩
    let login (name : Bytes) (ip : Bytes) : Evidence := ⟨name, ip, false⟩
    let calls : List Call := [.Evaluate 0 (login [7] [1]), .Evaluate 1 (login [8] [1]), .Evaluate 2 violation,
      .Evaluate 3 violation, .Cleanup 4, .Evaluate 5 (login [7] [1]), .Evaluate 5 (login [7] [2]), .Cleanup 23,
      .Evaluate 23 (login [7] [1])]
    (transcript Manager.perform (.new strictPolicy) calls).filterMap (·.2) =
        [.Allow, .Observe, .Deny, .Deny, .Deny, .Allow, .Allow] ∧
      Every (fun before call => call.2 = verdict strictPolicy.bot_filter before call.1)
        (transcript Manager.perform (.new strictPolicy) calls) := by
  intro violation login calls
  have hordered : calls.Pairwise fun a b => a.now ≤ b.now := by decide
  exact ⟨by decide +kernel, (verdicts_match_history rfl rfl hordered).1⟩

end regiongate.botfilter
