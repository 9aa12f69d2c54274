import RegionGate.Botfilter.Filter
import RegionGate.Server.Limbo

open execution regiongate.botfilter

namespace regiongate.app

/-- Where a session's challenge stands: before its first keepalive answer, after
the hook was asked for the required answers, after its goroutine was started,
and when that goroutine's `Evaluate` has returned, or at once without a hook. -/
inductive Stage where
  | Waiting
  | Asked
  | Spawned
  | Done
  deriving DecidableEq

/-- The challenge of one session; an `interval` of zero leaves its ticker alone.
`policy` is the policy in force at its first keepalive answer. -/
structure Challenge where
  stage : Stage
  required_keep_alives : Int
  interval : Int
  decision : Option Decision
  policy : Option Policy
  deriving DecidableEq

/-- A session that has joined Limbo: its hook waits for one answer to a keepalive. -/
def Challenge.start : Challenge := ⟨.Waiting, 1, 0, none, none⟩

/-- The bot filter as `Run` wires it into the server, and the challenges of the
sessions. -/
structure Gateway where
  bot_manager : Manager
  challenge_hook : Bool
  sessions : Nat → Challenge

/-- The steps of the background job and of the sessions: `Answer` is the first answer
to a keepalive, at which the hook is asked how many it requires, `Spawn` the start
of its goroutine and `Verify` the verdict. -/
inductive Action where
  | Cleanup (now : Int)
  | Reload (stat : Option Int) (data : Option Bytes)
  | Answer (session : Nat)
  | Spawn (session : Nat)
  | Verify (session : Nat) (now : Int) (username address : Bytes)

/-- `requiredKeepAlives` after the hook was asked. -/
def requiredKeepAlives (m : Manager) : Int :=
  if m.required_keepalives < 1 then 1 else m.required_keepalives

namespace Gateway

/-- `Run` with the policy of the file; the manager becomes the server's hook when
that policy is enabled. -/
def run (policy : Policy) : Gateway where
  bot_manager := .new policy
  challenge_hook := policy.bot_filter.enabled
  sessions := fun _ => .start

/-- The gateway with the challenge of one session replaced. -/
def set (g : Gateway) (session : Nat) (c : Challenge) : Gateway :=
  { g with sessions := Function.update g.sessions session c }

/-- One step, or `none` where the session is not at it. A session without a hook is
done with its challenge at its first answer. -/
def step (unmarshal : Bytes → Policy → Option Policy) (g : Gateway) : Action → Option Gateway
  | .Cleanup now => some { g with bot_manager := g.bot_manager.cleanup now }
  | .Reload stat data => some { g with bot_manager := g.bot_manager.reload unmarshal stat data }
  | .Answer session =>
    let c := { g.sessions session with policy := some g.bot_manager.policy }
    if (g.sessions session).stage ≠ .Waiting then none
    else if !g.challenge_hook then some (g.set session { c with stage := .Done })
    else
      some (g.set session { c with
        stage := .Asked
        required_keep_alives := requiredKeepAlives g.bot_manager })
  | .Spawn session =>
    let c := g.sessions session
    let interval := g.bot_manager.keepalive_interval
    if c.stage ≠ .Asked then none
    else
      some (g.set session { c with
        stage := .Spawned
        interval := if interval > 0 then interval else c.interval })
  | .Verify session now username address =>
    let c := g.sessions session
    let (decision, bot_manager) := g.bot_manager.evaluate now ⟨username, address, false⟩
    if c.stage ≠ .Spawned then none
    else some ({ g with bot_manager }.set session { c with stage := .Done, decision := some decision })

/-- The hook is there for a session whose policy is enabled, and no reload turns
the filter on or off between a session's first answer and its verification. -/
def takesEffect (unmarshal : Bytes → Policy → Option Policy) (g : Gateway) : Action → Prop
  | .Answer _ => g.challenge_hook = true ∨ g.bot_manager.policy.bot_filter.enabled = false
  | .Reload stat data =>
    (∃ session, (g.sessions session).stage = .Asked ∨ (g.sessions session).stage = .Spawned) →
      (g.bot_manager.reload unmarshal stat data).policy.bot_filter.enabled =
        g.bot_manager.policy.bot_filter.enabled
  | _ => True

end Gateway

/-- The filter looked at the session with an enabled policy. -/
def Challenge.Verified (c : Challenge) : Prop := ∃ d, c.decision = some d ∧ d.rule_id ≠ .Disabled

/-- A session is gated as a policy asks. -/
structure Challenge.Gated (c : Challenge) (p : Policy) : Prop where
  verified : c.Verified ↔ p.bot_filter.enabled = true
  required : c.required_keep_alives =
    if p.bot_filter.enabled then p.bot_filter.observation.required_keepalives else 1

/-- The start of a challenge in the loop of `serveLimbo`, with the manager as the
hook. -/
theorem start_challenge_asks {cfg : server.Config} {q : server.AdmissionQueue} {s : server.Limbo} {m : Manager}
    (hhook : cfg.challenge_hook = true) (hfirst : s.challenge_started = false)
    (hrequired : s.required = some m.required_keepalives) :
    s.start_challenge cfg q = .ok (q, { s with
      challenge_started := true
      challenge_result := true
      required_keep_alives := requiredKeepAlives m }) := by
  rw [server.Limbo.start_challenge, if_neg (by simp [hfirst]), if_neg (by simp [hhook]), hrequired]
  rfl

/-- What is known about a challenge at each stage, by whether the filter is now
enabled. -/
def Challenge.Tracked (enabled : Bool) (c : Challenge) : Prop :=
  match c.stage with
  | .Waiting => c.decision = none ∧ c.required_keep_alives = 1
  | .Asked | .Spawned => c.decision = none ∧ ∃ p, c.policy = some p ∧ p.bot_filter.enabled = enabled ∧
      c.required_keep_alives = if enabled then p.bot_filter.observation.required_keepalives else 1
  | .Done => ∃ p, c.policy = some p ∧ c.Gated p

/-- The policy in use has passed `Validate`, and every session is where that policy,
or the one at its first answer, has brought it. -/
structure Gateway.Invariant (g : Gateway) : Prop where
  valid : g.bot_manager.policy.validate = .ok ()
  sessions : ∀ n, (g.sessions n).Tracked g.bot_manager.policy.bot_filter.enabled

section Invariant

variable {unmarshal : Bytes → Policy → Option Policy} {g g' : Gateway} {a : Action} {n : Nat} {c : Challenge}

/-- `serveLimbo` raises a number below one to one, which a validated policy never
needs. -/
theorem requiredKeepAlives_eq {m : Manager} (hvalid : m.policy.validate = .ok ()) :
    requiredKeepAlives m = if m.policy.bot_filter.enabled then
      m.policy.bot_filter.observation.required_keepalives else 1 := by
  rw [requiredKeepAlives, Manager.required_keepalives]
  cases henabled : m.policy.bot_filter.enabled with
  | false => simp
  | true =>
    have hpositive := (Policy.validate_enabled hvalid henabled).1
    simp only [Bool.not_true, Bool.false_eq_true, if_false, if_true]
    rw [if_neg (by omega)]

/-- A session may change while the policy stays. -/
theorem Gateway.Invariant.set {m : Manager} (h : g.Invariant)
    (hpolicy : m.policy = g.bot_manager.policy) (hc : c.Tracked g.bot_manager.policy.bot_filter.enabled) :
    ({ g with bot_manager := m }.set n c).Invariant where
  valid := hpolicy ▸ h.valid
  sessions := by
    intro session
    change (Function.update g.sessions n c session).Tracked m.policy.bot_filter.enabled
    rw [hpolicy, Function.update_apply]
    split
    · exact hc
    · exact h.sessions session

/-- A session that is not in the middle of its challenge does not depend on the
policy in force. -/
theorem Challenge.Tracked.reload {enabled enabled' : Bool} (h : c.Tracked enabled)
    (hkept : c.stage = .Asked ∨ c.stage = .Spawned → enabled' = enabled) : c.Tracked enabled' := by
  unfold Tracked at h ⊢
  cases hstage : c.stage with
  | Asked => simpa [hstage, hkept (.inl hstage)] using h
  | Spawned => simpa [hstage, hkept (.inr hstage)] using h
  | Waiting => simpa [hstage] using h
  | Done => simpa [hstage] using h

/-- One step. A reload is the case that counts: it may replace the policy under
sessions that have been asked and not yet verified, but not turn the filter on or
off. -/
theorem Gateway.step_invariant (h : g.Invariant) (hallowed : g.takesEffect unmarshal a)
    (hstep : g.step unmarshal a = some g') : g'.Invariant := by
  cases a with
  | Cleanup now =>
    cases hstep
    exact ⟨h.valid, h.sessions⟩
  | Reload stat data =>
    cases hstep
    constructor
    · rcases @Manager.reload_policy unmarshal g.bot_manager stat data with hkept | hload
      · exact hkept ▸ h.valid
      · exact load_file_valid hload
    · intro session
      exact (h.sessions session).reload fun hstage => hallowed ⟨session, hstage⟩
  | Answer session =>
    have hsession := h.sessions session
    simp only [step] at hstep
    split at hstep
    · cases hstep
    rename_i hstage
    have hstage : (g.sessions session).stage = .Waiting := by simpa using hstage
    simp only [Challenge.Tracked, hstage] at hsession
    obtain ⟨hdecision, hrequired⟩ := hsession
    split at hstep
    · rename_i hhook
      cases hstep
      have henabled : g.bot_manager.policy.bot_filter.enabled = false := by
        rcases hallowed with hthere | hdisabled
        · simp [hthere] at hhook
        · exact hdisabled
      refine h.set rfl ⟨g.bot_manager.policy, rfl, ?_, ?_⟩
      · simp [Challenge.Verified, hdecision, henabled]
      · simpa [henabled] using hrequired
    · cases hstep
      exact h.set rfl ⟨hdecision, g.bot_manager.policy, rfl, rfl, requiredKeepAlives_eq h.valid⟩
  | Spawn session =>
    have hsession := h.sessions session
    simp only [step] at hstep
    split at hstep
    · cases hstep
    rename_i hstage
    have hstage : (g.sessions session).stage = .Asked := by simpa using hstage
    simp only [Challenge.Tracked, hstage] at hsession
    cases hstep
    exact h.set rfl hsession
  | Verify session now username address =>
    have hsession := h.sessions session
    simp only [step] at hstep
    split at hstep
    · cases hstep
    rename_i hstage
    have hstage : (g.sessions session).stage = .Spawned := by simpa using hstage
    simp only [Challenge.Tracked, hstage] at hsession
    obtain ⟨-, p, hpolicy, henabled, hrequired⟩ := hsession
    cases hstep
    refine h.set Manager.policy_evaluate ⟨p, hpolicy, ?_, ?_⟩
    · simp [Challenge.Verified, Manager.evaluate_rule, henabled]
    · rw [henabled]
      exact hrequired

/-- The gateway as `Run` makes it from a policy that `LoadFile` has accepted. -/
theorem Gateway.run_invariant {policy : Policy} (hvalid : policy.validate = .ok ()) : (run policy).Invariant where
  valid := hvalid
  sessions := fun _ => ⟨rfl, rfl⟩

end Invariant

/-- In every run in which the hook is there whenever it is needed and no reload
cuts into a challenge, each session is gated as the policy in force at its
first keepalive answer asks. -/
theorem Gateway.reloads_take_effect {unmarshal : Bytes → Policy → Option Policy} {file : Option Bytes}
    {policy : Policy} {acts : List Action} {g : Gateway} (hfile : load_file unmarshal file = .ok policy)
    (hrun : Runs (step unmarshal) (takesEffect unmarshal) (run policy) acts g) {session : Nat}
    (hdone : (g.sessions session).stage = .Done) :
    ∃ p, (g.sessions session).policy = some p ∧ (g.sessions session).Gated p := by
  have h : g.Invariant :=
    hrun.invariant (run_invariant (load_file_valid hfile)) fun h hallowed hstep =>
      step_invariant h hallowed hstep
  have hsession := h.sessions session
  rwa [Challenge.Tracked, hdone] at hsession

/-- The default policy, enabled and with its own number of keepalives. -/
def requiring (keepalives : Nat) : Policy :=
  { default_policy with
    bot_filter := { default_policy.bot_filter with
      enabled := true
      observation := { default_policy.bot_filter.observation with required_keepalives := keepalives } } }

/-- The empty file leaves the policy as it is; another one gives the number of
keepalives. -/
def unmarshalRequired : Bytes → Policy → Option Policy
  | [], p => some p
  | keepalives :: _, _ => some (requiring keepalives.toNat)

/-- A reload that raises the required answers between the first answer of one session
and its verification, and before the first answer of another. -/
theorem Gateway.reloads_take_effect_more_keepalives :
    ∃ g, load_file unmarshalRequired (some [2]) = .ok (requiring 2) ∧
      Runs (step unmarshalRequired) (takesEffect unmarshalRequired) (run (requiring 2))
        [.Answer 0, .Reload (some 1) (some [3]), .Spawn 0, .Verify 0 2 [7] [1], .Reload none none,
          .Answer 1, .Spawn 1, .Verify 1 3 [8] [1]] g ∧
      (g.sessions 0).required_keep_alives = 2 ∧ (g.sessions 1).required_keep_alives = 3 ∧
      ∃ p, (g.sessions 1).policy = some p ∧ (g.sessions 1).Gated p := by
  -- the filter is enabled throughout, which is more than a run has to ask
  have henabled : ∀ g a, (g.challenge_hook && (step unmarshalRequired g a).all
      (·.bot_manager.policy.bot_filter.enabled) && g.bot_manager.policy.bot_filter.enabled) = true →
      takesEffect unmarshalRequired g a := by
    intro g a hok
    simp only [Bool.and_eq_true] at hok
    cases a with
    | Answer session => exact .inl hok.1.1
    | Reload stat data => exact fun _ => hok.1.2.trans hok.2.symm
    | _ => trivial
  obtain ⟨g, hrun, hobserved⟩ : ∃ g,
      Runs (step unmarshalRequired) (takesEffect unmarshalRequired) (run (requiring 2))
      [.Answer 0, .Reload (some 1) (some [3]), .Spawn 0, .Verify 0 2 [7] [1], .Reload none none,
        .Answer 1, .Spawn 1, .Verify 1 3 [8] [1]] g ∧
      decide ((g.sessions 0).required_keep_alives = 2 ∧ (g.sessions 1).required_keep_alives = 3 ∧
        (g.sessions 1).stage = .Done) = true :=
    Runs.of_exec henabled _ (by decide +kernel)
  obtain ⟨hfirst, hsecond, hdone⟩ := of_decide_eq_true hobserved
  have hfile : load_file unmarshalRequired (some [2]) = .ok (requiring 2) := rfl
  exact ⟨g, hfile, hrun, hfirst, hsecond, reloads_take_effect hfile hrun hdone⟩

/-- A process that starts with a disabled policy never asks the filter, although
the policy in force is enabled by the time of the first answer. -/
theorem Gateway.enabling_reload_ignored :
    ∃ g, load_file unmarshalRequired (some []) = .ok default_policy ∧
      Reaches (step unmarshalRequired) (run default_policy) [.Reload (some 1) (some [2]), .Answer 0] g ∧
      (g.sessions 0).stage = .Done ∧ (g.sessions 0).policy = some (requiring 2) ∧
      ¬ (g.sessions 0).Verified ∧ (g.sessions 0).required_keep_alives = 1 := by
  obtain ⟨g, hrun, hobserved⟩ : ∃ g, Reaches (step unmarshalRequired) (run default_policy)
      [.Reload (some 1) (some [2]), .Answer 0] g ∧
      decide ((g.sessions 0).stage = .Done ∧ (g.sessions 0).policy = some (requiring 2) ∧
        (g.sessions 0).decision = none ∧ (g.sessions 0).required_keep_alives = 1) = true :=
    Reaches.of_exec _ (by decide +kernel)
  obtain ⟨hdone, hpolicy, hdecision, hrequired⟩ := of_decide_eq_true hobserved
  refine ⟨g, rfl, hrun, hdone, hpolicy, ?_, hrequired⟩
  simp [Challenge.Verified, hdecision]

/-- A policy that a reload turns off between the first answer and the verification
keeps the number of keepalives but not the verification. -/
theorem Gateway.disabling_reload_skips_verification :
    ∃ g, Reaches (step unmarshalRequired) (run (requiring 2))
        [.Answer 0, .Spawn 0, .Reload (some 1) (some []), .Verify 0 2 [7] [1]] g ∧
      (g.sessions 0).policy = some (requiring 2) ∧ ¬ (g.sessions 0).Verified := by
  obtain ⟨g, hrun, hobserved⟩ : ∃ g, Reaches (step unmarshalRequired) (run (requiring 2))
      [.Answer 0, .Spawn 0, .Reload (some 1) (some []), .Verify 0 2 [7] [1]] g ∧
      decide ((g.sessions 0).policy = some (requiring 2) ∧
        (g.sessions 0).decision.map (·.rule_id) = some .Disabled) = true :=
    Reaches.of_exec _ (by decide +kernel)
  obtain ⟨hpolicy, hrule⟩ := of_decide_eq_true hobserved
  refine ⟨g, hrun, hpolicy, ?_⟩
  rintro ⟨d, hd, hverified⟩
  simp only [hd, Option.map_some, Option.some.injEq] at hrule
  exact hverified hrule

end regiongate.app
