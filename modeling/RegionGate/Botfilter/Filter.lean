import Mathlib.Algebra.Group.Int.Defs
import Mathlib.Data.Finset.Card
import RegionGate.Error

namespace regiongate.botfilter

/-- `Verdict`. -/
inductive Verdict where
  | Allow
  | Observe
  | Deny
  deriving DecidableEq, Repr

/-- The rules that a decision names. -/
inductive RuleID where
  | Disabled
  | ReputationDeny
  | ProtocolViolation
  | SoftBurst
  | Allow
  deriving DecidableEq, Repr

/-- The part of the evidence that `Evaluate` reads; `username` is that of the
identity. -/
structure Evidence where
  username : Bytes
  remote_ip : Bytes
  protocol_violation : Bool
  deriving DecidableEq

/-- `Decision`: the verdict, how long to observe the client and the rule that has
decided. -/
structure Decision where
  verdict : Verdict
  observe_for : Int
  rule_id : RuleID
  deriving DecidableEq

/-- Times and durations are in nanoseconds. -/
structure Observation where
  hold : Int
  keepalive_interval : Int
  required_keepalives : Int
  deriving DecidableEq

/-- `Reputation`: how many violations within the window lead to a block, and its
length. -/
structure Reputation where
  window : Int
  violation_limit : Int
  deny_ttl : Int
  deriving DecidableEq

/-- `Signals`: the logins and the different names of an address that are too many
within their windows. -/
structure Signals where
  soft_login_burst : Int
  burst_window : Int
  username_churn : Int
  churn_window : Int
  deriving DecidableEq

/-- `FilterPolicy`, the part of a policy file that `Evaluate` reads. -/
structure FilterPolicy where
  enabled : Bool
  observation : Observation
  reputation : Reputation
  signals : Signals
  deriving DecidableEq

/-- `Policy`, a policy file. -/
structure Policy where
  version : Int
  bot_filter : FilterPolicy
  deriving DecidableEq

/-- `DefaultPolicy`, which a policy file is read over. -/
def default_policy : Policy where
  version := 1
  bot_filter := {
    enabled := false
    observation := ⟨10 * 10 ^ 9, 3 * 10 ^ 9, 2⟩
    reputation := ⟨5 * 60 * 10 ^ 9, 3, 10 * 60 * 10 ^ 9⟩
    signals := ⟨4, 10 * 10 ^ 9, 6, 60 * 10 ^ 9⟩ }

/-- The ways in which `LoadFile` fails. -/
inductive PolicyError where
  | Read
  | Parse
  | UnsupportedVersion (version : Int)
  | ObservationValues
  | ReputationValues
  | SignalValues
  deriving DecidableEq, Repr

/-- `Validate`: the values are checked only when the filter is on. -/
def Policy.validate (p : Policy) : Except PolicyError Unit :=
  let filter := p.bot_filter
  if p.version ≠ 0 ∧ p.version ≠ 1 then .error (.UnsupportedVersion p.version)
  else if !filter.enabled then .ok ()
  else if filter.observation.hold ≤ 0 ∨ filter.observation.keepalive_interval ≤ 0 ∨
      filter.observation.required_keepalives ≤ 0 then .error .ObservationValues
  else if filter.reputation.window ≤ 0 ∨ filter.reputation.violation_limit ≤ 0 ∨
      filter.reputation.deny_ttl ≤ 0 then .error .ReputationValues
  else if filter.signals.soft_login_burst ≤ 0 ∨ filter.signals.burst_window ≤ 0 ∨
      filter.signals.username_churn ≤ 0 ∨ filter.signals.churn_window ≤ 0 then .error .SignalValues
  else .ok ()

/-- The policy of a file; no data is a file that cannot be read, and `unmarshal`
is `yaml.Unmarshal` over a policy that is already there. -/
def load_file (unmarshal : Bytes → Policy → Option Policy) (data : Option Bytes) : Except PolicyError Policy :=
  match data with
  | none => .error .Read
  | some data =>
    match unmarshal data default_policy with
    | none => .error .Parse
    | some policy => do
      policy.validate
      return policy

/-- What is kept about an IP, the source's `reputation`. The map of usernames is
the set of its pairs, and a missing `blocked_until` the zero time. -/
structure ReputationEntry where
  burst_attempts : List Int
  usernames : Finset (Bytes × Int)
  violations : List Int
  blocked_until : Option Int
  deriving DecidableEq

namespace ReputationEntry

/-- The entry of an address that is not in the map. -/
def empty : ReputationEntry := ⟨[], ∅, [], none⟩

/-- `entry.BlockedUntil.After(now)`. -/
def blocked (entry : ReputationEntry) (now : Int) : Bool := entry.blocked_until.any (now < ·)

/-- `recordViolation`: the violation is stored, and blocks the address when it makes
as many as the limit allows. -/
def record_violation (entry : ReputationEntry) (now : Int) (policy : FilterPolicy) : ReputationEntry :=
  let violations := entry.violations ++ [now]
  { entry with
    violations
    blocked_until :=
      if policy.reputation.violation_limit ≤ violations.length then some (now + policy.reputation.deny_ttl)
      else entry.blocked_until }

/-- `keepTimes`: it drops from the front only, so a late time keeps older ones behind
it. -/
def keep_times (values : List Int) (cutoff : Int) : List Int := values.dropWhile (· < cutoff)

/-- `prune`: what has left its window is forgotten. -/
def prune (entry : ReputationEntry) (now : Int) (policy : FilterPolicy) : ReputationEntry :=
  { entry with
    burst_attempts := keep_times entry.burst_attempts (now - policy.signals.burst_window)
    violations := keep_times entry.violations (now - policy.reputation.window)
    usernames := entry.usernames.filter fun (_, seen) => ¬ seen < now - policy.signals.churn_window }

/-- An evaluation that is not denied is noted, with its username unless that is
empty. -/
def attempt (entry : ReputationEntry) (now : Int) (username : Bytes) : ReputationEntry :=
  { entry with
    burst_attempts := entry.burst_attempts ++ [now]
    usernames :=
      if username ≠ [] then insert (username, now) (entry.usernames.filter (·.1 ≠ username))
      else entry.usernames }

/-- `Evaluate` from the pruned entry on. -/
def evaluate (entry : ReputationEntry) (now : Int) (evidence : Evidence) (policy : FilterPolicy) :
    Decision × ReputationEntry :=
  if entry.blocked now then (⟨.Deny, 0, .ReputationDeny⟩, entry)
  else if evidence.protocol_violation then
    (⟨.Deny, 0, .ProtocolViolation⟩, entry.record_violation now policy)
  else
    let entry := entry.attempt now evidence.username
    if policy.signals.soft_login_burst ≤ entry.burst_attempts.length ∨
        policy.signals.username_churn ≤ entry.usernames.card then
      (⟨.Observe, policy.observation.hold, .SoftBurst⟩, entry)
    else (⟨.Allow, 0, .Allow⟩, entry)

/-- Nothing is left that a later evaluation could use. -/
def unused (entry : ReputationEntry) (now : Int) : Bool :=
  entry.burst_attempts = [] ∧ entry.usernames = ∅ ∧ entry.violations = [] ∧ ¬ entry.blocked now

end ReputationEntry

/-- The part of an event that `Record` reads. -/
structure Event where
  ip : Bytes
  at_time : Int
  violation : Bool
  deriving DecidableEq

/-- A missing value of `entries` is an IP that the map does not hold, and a
missing `mod_time` the zero time. -/
structure Manager where
  policy : Policy
  entries : Bytes → Option ReputationEntry
  mod_time : Option Int
  allowed : UInt64
  observed : UInt64
  denied : UInt64
  reloads : UInt64
  active : UInt64

namespace Manager

/-- `New`: no address is known and nothing has been counted. -/
def new (policy : Policy) : Manager where
  policy
  entries := fun _ => none
  mod_time := none
  allowed := 0
  observed := 0
  denied := 0
  reloads := 0
  active := 0

/-- The counters of a decision. -/
def count (m : Manager) : Verdict → Manager
  | .Allow => { m with allowed := m.allowed + 1 }
  | .Observe => { m with observed := m.observed + 1, active := m.active + 1 }
  | .Deny => { m with denied := m.denied + 1 }

/-- `cleanup`: entries are pruned and those with nothing left are removed, all of them
when the filter is off. -/
def cleanup (m : Manager) (now : Int) : Manager :=
  let policy := m.policy.bot_filter
  { m with entries := fun ip => do
      let entry ← m.entries ip
      if !policy.enabled then none
      else
        let entry := entry.prune now policy
        if entry.unused now then none else some entry }

/-- `Evaluate`: the verdict on a login, which is stored in the entry of the address
and counted. -/
def evaluate (m : Manager) (now : Int) (evidence : Evidence) : Decision × Manager :=
  let policy := m.policy.bot_filter
  if !policy.enabled then (⟨.Allow, 0, .Disabled⟩, m.count .Allow)
  else
    let entry := (m.entries evidence.remote_ip).getD .empty
    let (decision, entry) := (entry.prune now policy).evaluate now evidence policy
    (decision,
      { m with entries := Function.update m.entries evidence.remote_ip (some entry) }.count decision.verdict)

/-- `Record`, which makes an entry even for an event that is no violation. -/
def record (m : Manager) (event : Event) : Manager :=
  let entry := (m.entries event.ip).getD .empty
  let entry :=
    if event.violation then entry.record_violation event.at_time m.policy.bot_filter else entry
  { m with entries := Function.update m.entries event.ip (some entry) }

/-- One look at the policy file: its modification time, none if it cannot be
found, and what it then holds. -/
def reload (unmarshal : Bytes → Policy → Option Policy) (m : Manager) (stat : Option Int) (data : Option Bytes) :
    Manager :=
  match stat with
  | none => { m with reloads := m.reloads + 1 }
  | some mod_time =>
    if m.mod_time.any (mod_time ≤ ·) then m
    else
      match load_file unmarshal data with
      | .error _ => { m with reloads := m.reloads + 1 }
      | .ok policy => { m with policy, mod_time := some mod_time }

/-- `RequiredKeepAlives`: without a filter one answer is enough. -/
def required_keepalives (m : Manager) : Int :=
  if !m.policy.bot_filter.enabled then 1 else m.policy.bot_filter.observation.required_keepalives

/-- `KeepAliveInterval`, zero for the server's own. -/
def keepalive_interval (m : Manager) : Int :=
  if !m.policy.bot_filter.enabled then 0 else m.policy.bot_filter.observation.keepalive_interval

end Manager

/-- The windows over the past are not empty. -/
structure FilterPolicy.Windows (policy : FilterPolicy) : Prop where
  window : 0 < policy.reputation.window
  burst_window : 0 < policy.signals.burst_window
  churn_window : 0 < policy.signals.churn_window

/-- What the checks of an enabled policy guarantee. -/
theorem Policy.validate_enabled {p : Policy} (hvalid : p.validate = .ok ())
    (henabled : p.bot_filter.enabled = true) :
    0 < p.bot_filter.observation.required_keepalives ∧ 0 < p.bot_filter.reputation.deny_ttl ∧
      p.bot_filter.Windows := by
  rw [Policy.validate] at hvalid
  simp only [henabled, Bool.not_true, Bool.false_eq_true, if_false] at hvalid
  split at hvalid
  · cases hvalid
  split at hvalid
  · cases hvalid
  split at hvalid
  · cases hvalid
  split at hvalid
  · cases hvalid
  · exact ⟨by omega, by omega, by omega, by omega, by omega⟩

example : default_policy.validate = .ok () := rfl

/-- A policy file that `LoadFile` accepts has passed `Validate`. -/
theorem load_file_valid {unmarshal : Bytes → Policy → Option Policy} {data : Option Bytes} {p : Policy}
    (h : load_file unmarshal data = .ok p) : p.validate = .ok () := by
  unfold load_file at h
  split at h
  · cases h
  split at h
  · cases h
  · rename_i policy _
    cases hvalid : policy.validate with
    | error e => simp [hvalid, bind, Except.bind] at h
    | ok value =>
      obtain rfl : policy = p := by simpa [hvalid, bind, Except.bind, pure, Except.pure] using h
      exact hvalid

/-- A reload leaves the policy alone or puts the file's in its place. -/
theorem Manager.reload_policy {unmarshal : Bytes → Policy → Option Policy} {m : Manager} {stat : Option Int}
    {data : Option Bytes} :
    (m.reload unmarshal stat data).policy = m.policy ∨
      load_file unmarshal data = .ok (m.reload unmarshal stat data).policy := by
  unfold reload
  split
  · exact .inl rfl
  split
  · exact .inl rfl
  split
  · exact .inl rfl
  · rename_i hload
    exact .inr hload

@[simp] theorem Manager.policy_count {m : Manager} (v : Verdict) : (m.count v).policy = m.policy := by
  cases v <;> rfl

@[simp] theorem Manager.entries_count {m : Manager} (v : Verdict) : (m.count v).entries = m.entries := by
  cases v <;> rfl

theorem Manager.policy_evaluate {m : Manager} {now : Int} {evidence : Evidence} :
    (m.evaluate now evidence).2.policy = m.policy := by
  rw [Manager.evaluate]
  split
  · exact policy_count _
  · exact policy_count _

/-- Only a disabled filter decides by the rule for that. -/
theorem Manager.evaluate_rule {m : Manager} {now : Int} {evidence : Evidence} :
    (m.evaluate now evidence).1.rule_id = .Disabled ↔ m.policy.bot_filter.enabled = false := by
  rw [Manager.evaluate]
  split
  · rename_i h
    simpa using h
  · rename_i h
    have henabled : m.policy.bot_filter.enabled = true := by simpa using h
    simp only [henabled, ReputationEntry.evaluate]
    split
    · simp
    split
    · simp
    split
    · simp
    · simp

end regiongate.botfilter
