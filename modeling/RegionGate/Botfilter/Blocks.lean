import RegionGate.Botfilter.Verdicts
import RegionGate.Execution

open execution window

namespace regiongate.botfilter

/-- A call of the filter. `Record` takes its time from the event. -/
inductive Operation where
  | Evaluate (now : Int) (evidence : Evidence)
  | Record (event : Event)
  | Cleanup (now : Int)
  deriving DecidableEq

/-- The time at which an operation is made, or for a record that of its event. -/
def Operation.time : Operation → Int
  | .Evaluate now _ => now
  | .Record event => event.at_time
  | .Cleanup now => now

/-- The clock, for the calls that read it. -/
def Operation.clock : Operation → Option Int
  | .Evaluate now _ => some now
  | .Record _ => none
  | .Cleanup now => some now

namespace Manager

/-- The state of the manager after an operation, its answer left aside. -/
def apply (m : Manager) : Operation → Manager
  | .Evaluate now evidence => (m.evaluate now evidence).2
  | .Record event => m.record event
  | .Cleanup now => m.cleanup now

/-- The time of the violation of an IP that a call records. -/
def violation (m : Manager) (ip : Bytes) : Operation → Option Int
  | .Evaluate now evidence =>
    if evidence.remote_ip = ip ∧ (m.evaluate now evidence).1.rule_id = .ProtocolViolation then some now else none
  | .Record event => if event.ip = ip ∧ event.violation = true then some event.at_time else none
  | .Cleanup _ => none

@[simp] theorem policy_apply {m : Manager} (op : Operation) : (m.apply op).policy = m.policy := by
  cases op with
  | Evaluate now evidence => exact policy_evaluate
  | Record event => rfl
  | Cleanup now => rfl

end Manager

/-- Everything that a call can do to the entry of an IP, with the violation that
it records. -/
inductive Change (policy : FilterPolicy) (before : Option ReputationEntry) :
    Operation → Option Int → Option ReputationEntry → Prop where
  | untouched {op : Operation} : Change policy before op none before
  | evaluated {now : Int} {evidence : Evidence} {entry : ReputationEntry}
      (hviolations : entry.violations = ((before.getD .empty).prune now policy).violations)
      (hblocked : entry.blocked_until = (before.getD .empty).blocked_until) :
    Change policy before (.Evaluate now evidence) none (some entry)
  | violated {now : Int} {evidence : Evidence} (hfree : (before.getD .empty).blocked now = false) :
    Change policy before (.Evaluate now evidence) (some now)
      (some (((before.getD .empty).prune now policy).record_violation now policy))
  | noted {event : Event} :
    Change policy before (.Record event) (some event.at_time)
      (some ((before.getD .empty).record_violation event.at_time policy))
  | seen {event : Event} : Change policy before (.Record event) none (some (before.getD .empty))
  | cleaned {now : Int} {entry : ReputationEntry} (hbefore : before = some entry) :
    Change policy before (.Cleanup now) none (some (entry.prune now policy))
  | forgotten {now : Int} {entry : ReputationEntry} (hbefore : before = some entry)
      (hunused : (entry.prune now policy).unused now = true) :
    Change policy before (.Cleanup now) none none

section Change

variable {m : Manager} {ip : Bytes} {op : Operation}

/-- `Evaluate` prunes the entry first, and records a violation only when it sees one. -/
private theorem change_evaluate {now : Int} {evidence : Evidence} (henabled : m.policy.bot_filter.enabled = true) :
    Change m.policy.bot_filter (m.entries ip) (.Evaluate now evidence) (m.violation ip (.Evaluate now evidence))
      ((m.evaluate now evidence).2.entries ip) := by
  by_cases hip : evidence.remote_ip = ip
  · subst hip
    simp only [Manager.violation, Manager.evaluate, henabled, Bool.not_true, Bool.false_eq_true, if_false,
      Manager.entries_count, Function.update_self, true_and]
    rw [ReputationEntry.evaluate]
    cases hblocked : (((m.entries evidence.remote_ip).getD .empty).prune now m.policy.bot_filter).blocked now with
    | true => exact .evaluated rfl rfl
    | false =>
      simp only [Bool.false_eq_true, if_false]
      cases evidence.protocol_violation with
      | true => exact .violated hblocked
      | false =>
        simp only [Bool.false_eq_true, if_false]
        split
        · exact .evaluated rfl rfl
        · exact .evaluated rfl rfl
  · have hentry : (m.evaluate now evidence).2.entries ip = m.entries ip := by
      simp [Manager.evaluate, henabled, Function.update_of_ne (Ne.symm hip)]
    rw [hentry, Manager.violation, if_neg fun h => hip h.1]
    exact .untouched

private theorem change_record {event : Event} :
    Change m.policy.bot_filter (m.entries ip) (.Record event) (m.violation ip (.Record event))
      ((m.record event).entries ip) := by
  by_cases hip : event.ip = ip
  · subst hip
    simp only [Manager.violation, Manager.record, Function.update_self, true_and]
    cases event.violation with
    | true => exact .noted
    | false => exact .seen
  · have hentry : (m.record event).entries ip = m.entries ip := by
      simp [Manager.record, Function.update_of_ne (Ne.symm hip)]
    rw [hentry, Manager.violation, if_neg fun h => hip h.1]
    exact .untouched

/-- `cleanup` prunes, and drops an entry in which nothing is left. -/
private theorem change_cleanup {now : Int} (henabled : m.policy.bot_filter.enabled = true) :
    Change m.policy.bot_filter (m.entries ip) (.Cleanup now) none ((m.cleanup now).entries ip) := by
  simp only [Manager.cleanup, henabled, Bool.not_true, Bool.false_eq_true, if_false]
  cases hbefore : m.entries ip with
  | none => exact .untouched
  | some entry =>
    simp only [Option.bind_eq_bind, Option.bind_some]
    split
    · rename_i hunused
      exact .forgotten rfl hunused
    · exact .cleaned rfl

/-- How an operation changes the entry of an address. -/
theorem Manager.apply_change (henabled : m.policy.bot_filter.enabled = true) :
    Change m.policy.bot_filter (m.entries ip) op (m.violation ip op) ((m.apply op).entries ip) := by
  cases op with
  | Evaluate now evidence => exact change_evaluate henabled
  | Record event => exact change_record
  | Cleanup now => exact change_cleanup henabled

end Change

/-- The filter with its calls so far, the times of the violations recorded for
each IP, and those of them after which the IP was blocked from then on. -/
structure Audited where
  manager : Manager
  calls : List Operation
  recorded : Bytes → List Int
  blocks : Bytes → List Int

namespace Audited

/-- Before the first operation. -/
def new (policy : Policy) : Audited where
  manager := .new policy
  calls := []
  recorded := fun _ => []
  blocks := fun _ => []

/-- The IP is blocked for the deny time from `t` on. -/
def blockedFrom (policy : FilterPolicy) (entry : Option ReputationEntry) (t : Int) : Bool :=
  entry.any (·.blocked_until = some (t + policy.reputation.deny_ttl))

/-- An operation, with the violation that it adds to the history and the block, if the
violation is the one that sets it. -/
def perform (s : Audited) (op : Operation) : Audited where
  manager := s.manager.apply op
  calls := s.calls ++ [op]
  recorded := fun ip => s.recorded ip ++ (s.manager.violation ip op).toList
  blocks := fun ip => s.blocks ip ++
    (s.manager.violation ip op).toList.filter
      (blockedFrom s.manager.policy.bot_filter ((s.manager.apply op).entries ip))

/-- Every operation is possible at any time. -/
def step (s : Audited) (op : Operation) : Option Audited := some (s.perform op)

end Audited

namespace ReputationEntry

/-- No stored violation is older than the window that ends at `t`. -/
def fresh (policy : FilterPolicy) (entry : ReputationEntry) (t : Int) : Bool :=
  entry.violations.all (t - policy.reputation.window ≤ ·)

/-- What an entry keeps of the violations recorded for its IP, and where its
block comes from. -/
structure Earned (policy : FilterPolicy) (later : Int → Prop) (entry : ReputationEntry)
    (recorded blocks : List Int) : Prop where
  sorted : recorded.Pairwise (· ≤ ·)
  recorded_le : ∀ {now}, later now → ∀ v ∈ recorded, v ≤ now
  covers : (closed policy.reputation.window).Covers later entry.violations recorded
  source : ∀ {T}, entry.blocked_until = some T → ∃ v ∈ blocks, T = v + policy.reputation.deny_ttl
  enough : ∀ t ∈ blocks, policy.reputation.violation_limit ≤ violationsUpTo policy recorded t

section Earned

variable {policy : FilterPolicy} {later later' : Int → Prop} {entry : ReputationEntry} {recorded blocks : List Int}
  {t : Int}

theorem Earned.mono (h : entry.Earned policy later recorded blocks) (hlater : ∀ {u}, later' u → later u) :
    entry.Earned policy later' recorded blocks :=
  ⟨h.sorted, fun hu => h.recorded_le (hlater hu), h.covers.mono hlater, h.source, h.enough⟩

theorem empty_earned : empty.Earned policy later [] [] where
  sorted := List.Pairwise.nil
  recorded_le _ _ hv := absurd hv List.not_mem_nil
  covers := Window.Covers.refl
  source := by rintro _ ⟨⟩
  enough _ ht := absurd ht List.not_mem_nil

/-- Pruning removes nothing that a later violation would count. -/
theorem Earned.prune (h : entry.Earned policy later recorded blocks) (ht : later t)
    (hlater : ∀ {u}, later' u → later u ∧ t ≤ u) : (entry.prune t policy).Earned policy later' recorded blocks where
  sorted := h.sorted
  recorded_le hu := h.recorded_le (hlater hu).1
  covers := by
    rw [prune_violations]
    exact h.covers.trim h.sorted ht fun hu => (hlater hu).2
  source := h.source
  enough := h.enough

/-- The rest of an entry does not matter. -/
theorem Earned.congr {entry' : ReputationEntry} (h : entry.Earned policy later recorded blocks)
    (hviolations : entry'.violations = entry.violations) (hblocked : entry'.blocked_until = entry.blocked_until) :
    entry'.Earned policy later recorded blocks :=
  ⟨h.sorted, h.recorded_le, by rw [hviolations]; exact h.covers, by rw [hblocked]; exact h.source, h.enough⟩

/-- An entry that is not used any more may be forgotten. -/
theorem Earned.forget (h : entry.Earned policy later recorded blocks) (hunused : entry.unused t = true) :
    empty.Earned policy later recorded blocks := by
  obtain ⟨_, _, hviolations, _⟩ := of_decide_eq_true hunused
  refine ⟨h.sorted, h.recorded_le, ?_, by rintro _ ⟨⟩, h.enough⟩
  have hcovers := h.covers
  rwa [hviolations] at hcovers

theorem violationsUpTo_snoc_le (v : Int) :
    violationsUpTo policy recorded v ≤ violationsUpTo policy (recorded ++ [t]) v := by
  simp [violationsUpTo]

/-- The violations in the window of a new one are those of the entry that are still
live, and itself. -/
theorem violationsUpTo_recorded (h : entry.Earned policy later recorded blocks)
    (hwindow : 0 ≤ policy.reputation.window) (ht : later t) :
    violationsUpTo policy (recorded ++ [t]) t =
      (entry.violations.filter ((closed policy.reputation.window).live t)).length + 1 := by
  rw [violationsUpTo_snoc_self hwindow (h.recorded_le ht), h.covers.agree ht]

/-- Violations of which none has expired are all in the window. -/
theorem fresh_filter (hfresh : entry.fresh policy t = true) :
    entry.violations.filter ((closed policy.reputation.window).live t) = entry.violations := by
  rw [List.filter_eq_self]
  intro v hv
  have hwithin := List.all_eq_true.mp hfresh v hv
  simpa [closed] using hwithin

/-- One more violation blocks only an IP whose stored ones, none of them
expired, make up the limit with it. -/
theorem Earned.enough_snoc (h : entry.Earned policy later recorded blocks)
    (hwindow : 0 ≤ policy.reputation.window) (ht : later t) (hfresh : entry.fresh policy t = true) :
    ∀ u ∈ blocks ++ [t].filter (Audited.blockedFrom policy (some (entry.record_violation t policy))),
      policy.reputation.violation_limit ≤ violationsUpTo policy (recorded ++ [t]) u := by
  have hold : ∀ u ∈ blocks, policy.reputation.violation_limit ≤ violationsUpTo policy (recorded ++ [t]) u := by
    intro u hu
    have hbefore := h.enough u hu
    have hmono := @violationsUpTo_snoc_le policy recorded t u
    omega
  intro u hu
  obtain hu | hu := List.mem_append.mp hu
  · exact hold u hu
  obtain ⟨hmem, hblocked⟩ := List.mem_filter.mp hu
  obtain rfl := List.mem_singleton.mp hmem
  by_cases hset : policy.reputation.violation_limit ≤ (entry.violations.length : Int) + 1
  · have hself := violationsUpTo_recorded h hwindow ht
    rw [fresh_filter hfresh] at hself
    omega
  · -- The violation blocks nothing; if a block ends with its deny time, that is an earlier one.
    have huntil : entry.blocked_until = some (u + policy.reputation.deny_ttl) := by
      simpa [Audited.blockedFrom, ReputationEntry.record_violation, hset] using hblocked
    obtain ⟨v, hv, hend⟩ := h.source huntil
    obtain rfl : u = v := by omega
    exact hold u hv

/-- The step that sets a block. `fresh` makes every stored violation one of the
window, so that the length of the list is the count of the history. -/
theorem Earned.record_violation (h : entry.Earned policy later recorded blocks)
    (hwindow : 0 ≤ policy.reputation.window) (ht : later t) (hlater : ∀ {u}, later' u → later u ∧ t ≤ u)
    (hfresh : entry.fresh policy t = true) :
    (entry.record_violation t policy).Earned policy later' (recorded ++ [t])
      (blocks ++ [t].filter (Audited.blockedFrom policy (some (entry.record_violation t policy)))) where
  sorted := by
    rw [List.pairwise_append]
    refine ⟨h.sorted, List.pairwise_singleton _ _, fun v hv u hu => ?_⟩
    obtain rfl := List.mem_singleton.mp hu
    exact h.recorded_le ht v hv
  recorded_le := by
    intro u hu v hv
    obtain hv | hv := List.mem_append.mp hv
    · exact h.recorded_le (hlater hu).1 v hv
    · obtain rfl := List.mem_singleton.mp hv
      exact (hlater hu).2
  covers := (h.covers.mono fun hu => (hlater hu).1).snoc
  source := by
    intro T huntil
    by_cases hset : policy.reputation.violation_limit ≤ (entry.violations.length : Int) + 1
    · have hblocked : (entry.record_violation t policy).blocked_until = some (t + policy.reputation.deny_ttl) := by
        simp [ReputationEntry.record_violation, hset]
      rw [huntil] at hblocked
      refine ⟨t, List.mem_append_right _ (List.mem_filter.mpr ⟨by simp, ?_⟩), Option.some.inj hblocked⟩
      simp [Audited.blockedFrom, huntil, hblocked]
    · have hkept : entry.blocked_until = some T := by
        simpa [ReputationEntry.record_violation, hset] using huntil
      obtain ⟨v, hv, hend⟩ := h.source hkept
      exact ⟨v, List.mem_append_left _ hv, hend⟩
  enough := h.enough_snoc hwindow ht hfresh

theorem Earned.fresh_prune (h : entry.Earned policy later recorded blocks) :
    (entry.prune t policy).fresh policy t = true := by
  rw [fresh, prune_violations, List.all_eq_true]
  intro v hv
  have hlive := live_of_mem_trim (h.covers.sorted h.sorted) hv
  simpa [closed] using hlive

/-- A call keeps what is known of an entry if a violation from outside finds no
expired one there. -/
theorem Earned.change {before after : Option ReputationEntry} {op : Operation} {violation : Option Int}
    (h : (before.getD .empty).Earned policy later recorded blocks) (hwindow : 0 ≤ policy.reputation.window)
    (ht : later op.time) (hlater : ∀ {u}, later' u → later u ∧ op.time ≤ u)
    (hchange : Change policy before op violation after)
    (hfresh : ∀ event, op = .Record event → violation = some event.at_time →
      (before.getD .empty).fresh policy event.at_time = true) :
    (after.getD .empty).Earned policy later' (recorded ++ violation.toList)
      (blocks ++ violation.toList.filter (Audited.blockedFrom policy after)) := by
  cases hchange with
  | untouched =>
    rw [Option.toList_none, List.filter_nil, List.append_nil, List.append_nil]
    exact h.mono fun hu => (hlater hu).1
  | evaluated hviolations hblocked =>
    rw [Option.toList_none, List.filter_nil, List.append_nil, List.append_nil]
    exact (h.prune ht hlater).congr hviolations hblocked
  | @violated now evidence hfree =>
    have hpruned : ((before.getD .empty).prune now policy).Earned policy (fun u => later u ∧ now ≤ u)
        recorded blocks := h.prune ht fun hu => hu
    exact hpruned.record_violation hwindow ⟨ht, le_rfl⟩ (fun hu => ⟨hlater hu, (hlater hu).2⟩) h.fresh_prune
  | noted =>
    exact h.record_violation hwindow ht hlater (hfresh _ rfl rfl)
  | seen =>
    rw [Option.toList_none, List.filter_nil, List.append_nil, List.append_nil]
    exact h.mono fun hu => (hlater hu).1
  | cleaned hbefore =>
    subst hbefore
    rw [Option.toList_none, List.filter_nil, List.append_nil, List.append_nil]
    exact h.prune ht hlater
  | forgotten hbefore hunused =>
    subst hbefore
    rw [Option.toList_none, List.filter_nil, List.append_nil, List.append_nil]
    exact (h.prune ht hlater).forget hunused

end Earned

end ReputationEntry

namespace Manager

/-- The call does not add a violation to expired ones of its IP that are still
stored. Only `Record` can: it does not prune. -/
def fresh (m : Manager) : Operation → Bool
  | .Record event => !event.violation || (m.entry event.ip).fresh m.policy.bot_filter event.at_time
  | _ => true

end Manager

namespace Audited

/-- No earlier call worked with a later time. -/
def inOrder (s : Audited) (op : Operation) : Bool := s.calls.all (·.time ≤ op.time)

/-- What is known of the entries of all IPs. -/
structure Tracks (policy : Policy) (s : Audited) : Prop where
  policy_eq : s.manager.policy = policy
  entries : ∀ ip, (s.manager.entry ip).Earned policy.bot_filter (fun now => ∀ op ∈ s.calls, op.time ≤ now)
    (s.recorded ip) (s.blocks ip)

section Tracks

variable {policy : Policy} {s : Audited} {op : Operation}

theorem new_tracks : (new policy).Tracks policy := ⟨rfl, fun _ => ReputationEntry.empty_earned⟩

/-- `apply_change` in terms of the policy at the start. -/
theorem Tracks.change (h : s.Tracks policy) (henabled : policy.bot_filter.enabled = true) (ip : Bytes) :
    Change policy.bot_filter (s.manager.entries ip) op (s.manager.violation ip op)
      ((s.manager.apply op).entries ip) := by
  rw [← h.policy_eq] at henabled ⊢
  exact Manager.apply_change henabled

/-- One operation keeps every entry in step with the history of its address. -/
theorem Tracks.perform (h : s.Tracks policy) (henabled : policy.bot_filter.enabled = true)
    (hwindow : 0 ≤ policy.bot_filter.reputation.window) (horder : s.inOrder op = true)
    (hfresh : s.manager.fresh op = true) : (s.perform op).Tracks policy where
  policy_eq := (Manager.policy_apply op).trans h.policy_eq
  entries ip := by
    have hlatest : ∀ call ∈ s.calls, call.time ≤ op.time := by simpa [inOrder] using horder
    have hfresh' : ∀ event, op = .Record event → s.manager.violation ip op = some event.at_time →
        (s.manager.entry ip).fresh policy.bot_filter event.at_time = true := by
      rintro event rfl hviolation
      rw [Manager.violation] at hviolation
      split at hviolation
      · rename_i hevent
        obtain ⟨rfl, hevent⟩ := hevent
        rw [← h.policy_eq]
        simpa [Manager.fresh, hevent] using hfresh
      · cases hviolation
    have hkept : ((s.perform op).manager.entry ip).Earned policy.bot_filter
        (fun now => ∀ call ∈ s.calls ++ [op], call.time ≤ now) _ _ :=
      (h.entries ip).change hwindow hlatest
        (fun hu => ⟨fun call hcall => hu call (List.mem_append_left _ hcall), hu op (by simp)⟩)
        (h.change henabled ip) hfresh'
    rw [← h.policy_eq] at hkept ⊢
    exact hkept

end Tracks

end Audited

/-- For a fixed valid and enabled policy, in every run at non-decreasing times in
which `Record` adds no violation to expired ones, every block was earned by
enough violations in the window that ended with the last of them. -/
theorem blocks_earned_in_window {policy : Policy} (hvalid : policy.validate = .ok ())
    (henabled : policy.bot_filter.enabled = true) {ops : List Operation} {s : Audited}
    (run : Runs Audited.step (fun s op => (s.inOrder op && s.manager.fresh op) = true) (.new policy) ops s) :
    ∀ ip, ∀ t ∈ s.blocks ip, policy.bot_filter.reputation.violation_limit ≤
      violationsUpTo policy.bot_filter (s.recorded ip) t := by
  have hwindow := (Policy.validate_enabled hvalid henabled).2.2.window.le
  have htracks : s.Tracks policy := by
    refine run.invariant Audited.new_tracks fun {s op s'} h hallowed hstep => ?_
    obtain rfl := Option.some.inj hstep
    obtain ⟨horder, hfresh⟩ := Bool.and_eq_true_iff.mp hallowed
    exact h.perform henabled hwindow horder hfresh
  exact fun ip => (htracks.entries ip).enough

/-- Two violations within the window, one from outside, and a cleanup between
them. -/
theorem blocks_earned_in_window_two_violations :
    ∃ s, Runs Audited.step (fun s op => (s.inOrder op && s.manager.fresh op) = true) (.new strictPolicy)
        [.Record ⟨[1], 0, true⟩, .Cleanup 5, .Evaluate 10 ⟨[], [1], true⟩] s ∧
      s.blocks [1] = [10] ∧ 2 ≤ violationsUpTo strictPolicy.bot_filter (s.recorded [1]) 10 := by
  obtain ⟨s, run, hobserved⟩ : ∃ s, Runs Audited.step
      (fun s op => (s.inOrder op && s.manager.fresh op) = true) (.new strictPolicy)
      [.Record ⟨[1], 0, true⟩, .Cleanup 5, .Evaluate 10 ⟨[], [1], true⟩] s ∧
      decide (s.blocks [1] = [10]) = true :=
    Runs.of_exec (fun _ _ hok => hok) _ (by decide +kernel)
  have hblocks := of_decide_eq_true hobserved
  have hearned := blocks_earned_in_window rfl rfl run [1] 10 (by simp [hblocks])
  exact ⟨s, run, hblocks, Int.ofNat_le.mp hearned⟩

/-- Two events of a violation, far more than the window apart: `Record` blocks
the IP. -/
theorem expired_violation_blocks :
    ∃ s, Runs Audited.step (fun s op => s.inOrder op = true) (.new strictPolicy)
        [.Record ⟨[1], 0, true⟩, .Record ⟨[1], 1000, true⟩] s ∧
      s.recorded [1] = [0, 1000] ∧ s.blocks [1] = [1000] ∧
      (s.manager.entry [1]).blocked_until = some 1020 ∧
      violationsUpTo strictPolicy.bot_filter (s.recorded [1]) 1000 = 1 := by
  obtain ⟨s, run, hobserved⟩ : ∃ s, Runs Audited.step (fun s op => s.inOrder op = true) (.new strictPolicy)
      [.Record ⟨[1], 0, true⟩, .Record ⟨[1], 1000, true⟩] s ∧
      decide (s.recorded [1] = [0, 1000] ∧ s.blocks [1] = [1000] ∧
        (s.manager.entry [1]).blocked_until = some 1020 ∧
        violationsUpTo strictPolicy.bot_filter (s.recorded [1]) 1000 = 1) = true :=
    Runs.of_exec (fun _ _ hok => hok) _ (by decide +kernel)
  exact ⟨s, run, of_decide_eq_true hobserved⟩

/-- An IP that was blocked until `T` is blocked until then or longer. -/
def Manager.HoldsBlock (m : Manager) (ip : Bytes) (T : Int) : Prop :=
  ∃ T', (m.entry ip).blocked_until = some T' ∧ T ≤ T'

/-- No violation from outside happened before the one that last blocked its IP.
Only `Record` takes such a time: it is the caller's. -/
def Audited.afterBlock (s : Audited) : Operation → Bool
  | .Record event => !event.violation || (s.blocks event.ip).getLast?.all (· ≤ event.at_time)
  | _ => true

/-- The clock goes on; the times of events are anything. -/
def Audited.clockInOrder (s : Audited) (op : Operation) : Bool :=
  op.clock.all fun now => s.calls.all fun call => call.clock.all (· ≤ now)

/-- A block comes from the last violation that blocked the IP. -/
def Audited.Sourced (policy : FilterPolicy) (s : Audited) : Prop :=
  ∀ ip T, (s.manager.entry ip).blocked_until = some T →
    ∃ t, (s.blocks ip).getLast? = some t ∧ T = t + policy.reputation.deny_ttl

section Prolongs

variable {policy : FilterPolicy} {m : Manager} {ip : Bytes} {op : Operation} {T : Int}

/-- One more violation sets the block from its own time on, or leaves it. -/
theorem record_violation_blocked (policy : FilterPolicy) (entry : ReputationEntry) (t : Int) :
    (entry.record_violation t policy).blocked_until = some (t + policy.reputation.deny_ttl) ∨
      (entry.record_violation t policy).blocked_until = entry.blocked_until := by
  by_cases hset : policy.reputation.violation_limit ≤ (entry.violations.length : Int) + 1
  · simp [ReputationEntry.record_violation, hset]
  · simp [ReputationEntry.record_violation, hset]

/-- A block ends no earlier after a call, or it was over and is forgotten by a
cleanup. -/
theorem Change.blocked_until {before after : Option ReputationEntry} {violation : Option Int}
    (hchange : Change policy before op violation after) (httl : 0 ≤ policy.reputation.deny_ttl)
    (hblocked : (before.getD .empty).blocked_until = some T)
    (hlater : ∀ event, op = .Record event → violation = some event.at_time →
      T ≤ event.at_time + policy.reputation.deny_ttl) :
    (∃ T', (after.getD .empty).blocked_until = some T' ∧ T ≤ T') ∨ ∃ now, op = .Cleanup now ∧ T ≤ now := by
  cases hchange with
  | untouched => exact .inl ⟨T, hblocked, le_rfl⟩
  | evaluated _ hkept => exact .inl ⟨T, hkept.trans hblocked, le_rfl⟩
  | @violated now evidence hfree =>
    have hover : T ≤ now := by simpa [ReputationEntry.blocked, hblocked] using hfree
    obtain hset | hkept := record_violation_blocked policy ((before.getD .empty).prune now policy) now
    · exact .inl ⟨_, hset, by omega⟩
    · exact .inl ⟨T, hkept.trans hblocked, le_rfl⟩
  | @noted event =>
    obtain hset | hkept := record_violation_blocked policy (before.getD .empty) event.at_time
    · exact .inl ⟨_, hset, hlater event rfl rfl⟩
    · exact .inl ⟨T, hkept.trans hblocked, le_rfl⟩
  | seen => exact .inl ⟨T, hblocked, le_rfl⟩
  | cleaned hbefore =>
    subst hbefore
    exact .inl ⟨T, hblocked, le_rfl⟩
  | @forgotten now entry hbefore hunused =>
    subst hbefore
    obtain ⟨_, _, _, hfree⟩ := of_decide_eq_true hunused
    have huntil : (entry.prune now policy).blocked_until = some T := hblocked
    refine .inr ⟨now, rfl, ?_⟩
    simpa [ReputationEntry.blocked, huntil] using hfree

/-- After a call a block still comes from the last violation that blocked. -/
theorem Change.source {before after : Option ReputationEntry} {violation : Option Int} {blocks : List Int}
    (hchange : Change policy before op violation after)
    (h : ∀ T, (before.getD .empty).blocked_until = some T →
      ∃ t, blocks.getLast? = some t ∧ T = t + policy.reputation.deny_ttl)
    (huntil : (after.getD .empty).blocked_until = some T) :
    ∃ t, (blocks ++ violation.toList.filter (Audited.blockedFrom policy after)).getLast? = some t ∧
      T = t + policy.reputation.deny_ttl := by
  have hrecorded : ∀ {entry : ReputationEntry} {t : Int}, entry.blocked_until = (before.getD .empty).blocked_until →
      (entry.record_violation t policy).blocked_until = some T →
      ∃ u, (blocks ++ [t].filter
          (Audited.blockedFrom policy (some (entry.record_violation t policy)))).getLast? = some u ∧
        T = u + policy.reputation.deny_ttl := by
    intro entry t hentry huntil
    by_cases hfrom : Audited.blockedFrom policy (some (entry.record_violation t policy)) t = true
    · rw [List.filter_cons_of_pos hfrom, List.filter_nil, List.getLast?_append]
      refine ⟨t, rfl, ?_⟩
      simpa [Audited.blockedFrom, huntil] using hfrom
    · rw [List.filter_cons_of_neg hfrom, List.filter_nil, List.append_nil]
      obtain hset | hkept := record_violation_blocked policy entry t
      · simp [Audited.blockedFrom, hset] at hfrom
      · exact h T (hentry ▸ hkept ▸ huntil)
  cases hchange with
  | untouched | seen => simpa using h T huntil
  | evaluated _ hkept => simpa using h T (hkept ▸ huntil)
  | violated hfree => exact hrecorded rfl huntil
  | noted => exact hrecorded rfl huntil
  | cleaned hbefore =>
    subst hbefore
    simpa using h T huntil
  | forgotten => cases huntil

/-- One operation sets a block only at a violation. -/
theorem Audited.Sourced.perform {s : Audited} (h : s.Sourced s.manager.policy.bot_filter)
    (henabled : s.manager.policy.bot_filter.enabled = true) :
    (s.perform op).Sourced (s.perform op).manager.policy.bot_filter := by
  intro ip T huntil
  have hpolicy : (s.perform op).manager.policy = s.manager.policy := Manager.policy_apply op
  rw [hpolicy]
  exact (Manager.apply_change henabled).source (h ip) huntil

/-- A call that records no violation from before the last block shortens none. -/
theorem Audited.Sourced.holds_block {s : Audited} (h : s.Sourced s.manager.policy.bot_filter)
    (henabled : s.manager.policy.bot_filter.enabled = true)
    (httl : 0 ≤ s.manager.policy.bot_filter.reputation.deny_ttl) (hafter : s.afterBlock op = true)
    (hblocked : (s.manager.entry ip).blocked_until = some T) :
    (s.perform op).manager.HoldsBlock ip T ∨ ∃ now, op = .Cleanup now ∧ T ≤ now := by
  refine (Manager.apply_change henabled).blocked_until httl hblocked ?_
  rintro event rfl hviolation
  rw [Manager.violation] at hviolation
  split at hviolation
  · rename_i hevent
    obtain ⟨rfl, hevent⟩ := hevent
    obtain ⟨t, hlast, rfl⟩ := h event.ip T hblocked
    have hle : t ≤ event.at_time := by simpa [afterBlock, hevent, hlast] using hafter
    omega
  · cases hviolation

/-- A blocked IP is denied. -/
theorem Manager.HoldsBlock.deny {now : Int} {evidence : Evidence} (h : m.HoldsBlock evidence.remote_ip T)
    (henabled : m.policy.bot_filter.enabled = true) (hnow : now < T) :
    (m.evaluate now evidence).1.verdict = .Deny := by
  obtain ⟨T', huntil, hle⟩ := h
  have hblocked : ((m.entry evidence.remote_ip).prune now m.policy.bot_filter).blocked now = true := by
    have hpruned : ((m.entry evidence.remote_ip).prune now m.policy.bot_filter).blocked_until = some T' := huntil
    simp only [ReputationEntry.blocked, hpruned, Option.any_some, decide_eq_true_eq]
    omega
  simp only [Manager.evaluate, henabled, Bool.not_true, Bool.false_eq_true, if_false]
  rw [← Manager.entry, ReputationEntry.evaluate, if_pos hblocked]

end Prolongs

section Run

variable {allowed : Audited → Operation → Prop} {s s' : Audited} {ops : List Operation} {ip : Bytes} {T : Int}

theorem Audited.runs_calls (run : Runs Audited.step allowed s ops s') : s'.calls = s.calls ++ ops := by
  induction run with
  | nil => simp
  | snoc _ _ hstep ih =>
    obtain rfl := Option.some.inj hstep
    rw [Audited.perform, ih, List.append_assoc]

theorem Audited.runs_policy (run : Runs Audited.step allowed s ops s') :
    s'.manager.policy = s.manager.policy := by
  induction run with
  | nil => rfl
  | snoc _ _ hstep ih =>
    obtain rfl := Option.some.inj hstep
    exact (Manager.policy_apply _).trans ih

/-- Every block comes from the last violation that blocked, whatever was called. -/
theorem Audited.runs_sourced {policy : Policy} (henabled : policy.bot_filter.enabled = true)
    (run : Runs Audited.step allowed (.new policy) ops s) : s.Sourced s.manager.policy.bot_filter := by
  induction run with
  | nil => rintro ip T ⟨⟩
  | snoc run _ hstep ih =>
    obtain rfl := Option.some.inj hstep
    refine ih.perform ?_
    rw [Audited.runs_policy run]
    exact henabled

/-- A block is held until it is over, along a whole run. -/
theorem Audited.runs_holds_block (henabled : s.manager.policy.bot_filter.enabled = true)
    (httl : 0 ≤ s.manager.policy.bot_filter.reputation.deny_ttl)
    (hsourced : s.Sourced s.manager.policy.bot_filter)
    (hblocked : (s.manager.entry ip).blocked_until = some T)
    (run : Runs Audited.step (fun s op => (s.clockInOrder op && s.afterBlock op) = true) s ops s') :
    s'.Sourced s'.manager.policy.bot_filter ∧
      (s'.manager.HoldsBlock ip T ∨ ∃ now, .Cleanup now ∈ ops ∧ T ≤ now) := by
  induction run with
  | nil => exact ⟨hsourced, .inl ⟨T, hblocked, le_rfl⟩⟩
  | @snoc ops s' s'' op run hallowed hstep ih =>
    obtain rfl := Option.some.inj hstep
    have hpolicy := Audited.runs_policy run
    rw [← hpolicy] at henabled httl
    obtain ⟨hsourced', hheld⟩ := ih
    refine ⟨hsourced'.perform henabled, ?_⟩
    obtain ⟨T', huntil, hle⟩ | ⟨now, hmem, hover⟩ := hheld
    · have hafter := (Bool.and_eq_true_iff.mp hallowed).2
      obtain ⟨T'', huntil', hle'⟩ | ⟨now, rfl, hover⟩ := hsourced'.holds_block henabled httl hafter huntil
      · exact .inl ⟨T'', huntil', hle.trans hle'⟩
      · exact .inr ⟨now, by simp, hle.trans hover⟩
    · exact .inr ⟨now, List.mem_append_left _ hmem, hover⟩

end Run

/-- For a fixed valid and enabled policy, once any calls have left an IP blocked
until `T`, in every run with the clock going on and events of any time of
which none is a violation from before the one that last blocked its IP: the
IP stays blocked until `T` or longer, unless a cleanup at `T` or later has
forgotten it, and every evaluation before `T` denies. -/
theorem denial_never_shortened {policy : Policy} (hvalid : policy.validate = .ok ())
    (henabled : policy.bot_filter.enabled = true) {before ops : List Operation} {s s' : Audited}
    (hreached : Reaches Audited.step (.new policy) before s) {ip : Bytes} {T : Int}
    (hblocked : (s.manager.entry ip).blocked_until = some T)
    (run : Runs Audited.step (fun s op => (s.clockInOrder op && s.afterBlock op) = true) s ops s') :
    (s'.manager.HoldsBlock ip T ∨ ∃ now, .Cleanup now ∈ ops ∧ T ≤ now) ∧
      ∀ now evidence, evidence.remote_ip = ip → now < T → s'.clockInOrder (.Evaluate now evidence) = true →
        (s'.manager.evaluate now evidence).1.verdict = .Deny := by
  have httl := (Policy.validate_enabled hvalid henabled).2.1.le
  have hsourced := Audited.runs_sourced henabled hreached
  have hpolicy : s.manager.policy = policy := Audited.runs_policy hreached
  rw [← hpolicy] at henabled httl
  have hholds := (Audited.runs_holds_block henabled httl hsourced hblocked run).2
  rw [← Audited.runs_policy run] at henabled
  refine ⟨hholds, ?_⟩
  rintro now evidence rfl hnow hclock
  obtain hholds | ⟨earlier, hmem, hover⟩ := hholds
  · exact hholds.deny henabled hnow
  · -- The cleanup was made no later than now, which is before the block ends.
    have hcall : Operation.Cleanup earlier ∈ s'.calls := by
      rw [Audited.runs_calls run]
      exact List.mem_append_right _ hmem
    have hle : earlier ≤ now := by
      have hall : ∀ call ∈ s'.calls, call.clock.all (· ≤ now) = true := by
        simpa [Audited.clockInOrder, Operation.clock] using hclock
      simpa [Operation.clock] using hall _ hcall
    omega

/-- The filter after two violations. -/
def Audited.afterViolations (first second : Operation) : Audited :=
  ((Audited.new strictPolicy).perform first).perform second

theorem Audited.reaches_afterViolations (first second : Operation) :
    Reaches Audited.step (.new strictPolicy) [first, second] (.afterViolations first second) :=
  .snoc (.snoc .nil trivial rfl) trivial rfl

/-- A block until 21 that an event at 5 prolongs, with a cleanup at 10. -/
theorem denial_never_shortened_later_event :
    ∃ s s', Reaches Audited.step (.new strictPolicy) [.Evaluate 0 ⟨[], [1], true⟩, .Evaluate 1 ⟨[], [1], true⟩] s ∧
      (s.manager.entry [1]).blocked_until = some 21 ∧
      Runs Audited.step (fun s op => (s.clockInOrder op && s.afterBlock op) = true) s
        [.Record ⟨[1], 5, true⟩, .Cleanup 10] s' ∧
      (s'.manager.evaluate 20 ⟨[7], [1], false⟩).1.verdict = .Deny := by
  have hreaches := Audited.reaches_afterViolations (.Evaluate 0 ⟨[], [1], true⟩) (.Evaluate 1 ⟨[], [1], true⟩)
  have hblocked : ((Audited.afterViolations (.Evaluate 0 ⟨[], [1], true⟩)
      (.Evaluate 1 ⟨[], [1], true⟩)).manager.entry [1]).blocked_until = some 21 := by decide +kernel
  obtain ⟨s', run, hclock⟩ : ∃ s', Runs Audited.step
      (fun s op => (s.clockInOrder op && s.afterBlock op) = true)
      (.afterViolations (.Evaluate 0 ⟨[], [1], true⟩) (.Evaluate 1 ⟨[], [1], true⟩))
      [.Record ⟨[1], 5, true⟩, .Cleanup 10] s' ∧ s'.clockInOrder (.Evaluate 20 ⟨[7], [1], false⟩) = true :=
    Runs.of_exec (fun _ _ hok => hok) _ (by decide +kernel)
  have hdeny := (denial_never_shortened rfl rfl hreaches hblocked run).2 20 ⟨[7], [1], false⟩ rfl (by decide) hclock
  exact ⟨_, s', hreaches, hblocked, run, hdeny⟩

/-- An event of an earlier time, delivered late, replaces a block until 120 by
one until 20: an evaluation at 50 passes. -/
theorem late_event_shortens_denial :
    ∃ s s', Reaches Audited.step (.new strictPolicy) [.Record ⟨[1], 100, true⟩, .Record ⟨[1], 100, true⟩] s ∧
      (s.manager.entry [1]).blocked_until = some 120 ∧
      Runs Audited.step (fun s op => s.clockInOrder op = true) s [.Record ⟨[1], 0, true⟩] s' ∧
      (s'.manager.entry [1]).blocked_until = some 20 ∧
      (s'.manager.evaluate 50 ⟨[7], [1], false⟩).1.verdict = .Allow := by
  have hreaches := Audited.reaches_afterViolations (.Record ⟨[1], 100, true⟩) (.Record ⟨[1], 100, true⟩)
  obtain ⟨s', run, hobserved⟩ : ∃ s', Runs Audited.step (fun s op => s.clockInOrder op = true)
      (.afterViolations (.Record ⟨[1], 100, true⟩) (.Record ⟨[1], 100, true⟩)) [.Record ⟨[1], 0, true⟩] s' ∧
      decide ((s'.manager.entry [1]).blocked_until = some 20 ∧
        (s'.manager.evaluate 50 ⟨[7], [1], false⟩).1.verdict = .Allow) = true :=
    Runs.of_exec (fun _ _ hok => hok) _ (by decide +kernel)
  obtain ⟨hafter, hpasses⟩ := of_decide_eq_true hobserved
  exact ⟨_, s', hreaches, by decide +kernel, run, hafter, hpasses⟩

end regiongate.botfilter
