import RegionGate.Botfilter.Filter
import RegionGate.Execution

open execution

namespace regiongate.botfilter

/-- What `Verify` returns instead of `nil`. -/
inductive VerifyError where
  | VerificationFailed
  | Ctx (err : CtxErr)
  deriving DecidableEq

/-- Where a call of `Verify` is: it has its context, `Evaluate` has answered that it is
to be observed, it is at its `select` with the timer, it is past the `select` with
the deferred calls to come, or it has returned. -/
inductive VerifyPoint where
  | Entered
  | Observed (hold : Int)
  | Waiting (expires : Int)
  | Leaving (err : Option VerifyError)
  | Returned (err : Option VerifyError)
  deriving DecidableEq

/-- A call of `Verify` by the goroutine that `serveLimbo` starts for a player, with the
time of its `context.WithTimeout`. `decision` and `left` log when `Evaluate` answered
what, and when the timer was received. -/
structure Verification where
  evidence : Evidence
  started : Int
  ctx_err : Option CtxErr
  decision : Option (Int × Decision)
  left : Option Int
  point : VerifyPoint
  deriving DecidableEq

/-- The steps of a call of `Verify`: the verdict, the new timer, the two cases of the
`select` (`Fire` and `Interrupt`) and the deferred decrement; and the two ways in
which its context ends. -/
inductive VerifyAction where
  | Evaluate
  | NewTimer
  | Fire
  | Interrupt
  | Leave
  | Expire
  | Cancel
  deriving DecidableEq

namespace Verification

/-- `Verify` has been called. -/
def start (clock : Int) (username address : Bytes) : Verification where
  evidence := ⟨username, address, false⟩
  started := clock
  ctx_err := none
  decision := none
  left := none
  point := .Entered

/-- Where `Verify` is after the answer of `Evaluate`. -/
def decided (d : Decision) : VerifyPoint :=
  match d.verdict with
  | .Deny => .Returned (some .VerificationFailed)
  | .Observe => .Observed d.observe_for
  | .Allow => .Returned none

/-- A step of the call or of its context. The deferred `m.active.Add(^uint64(0))` takes
one away. -/
def act (timeout clock : Int) (v : Verification) (m : Manager) : VerifyAction → Option (Verification × Manager)
  | .Evaluate =>
    if v.point = .Entered then
      let (decision, m) := m.evaluate clock v.evidence
      some ({ v with decision := some (clock, decision), point := decided decision }, m)
    else none
  | .NewTimer =>
    match v.point with
    | .Observed hold => some ({ v with point := .Waiting (clock + hold) }, m)
    | _ => none
  | .Fire =>
    match v.point with
    | .Waiting expires =>
      if expires ≤ clock then some ({ v with left := some clock, point := .Leaving none }, m) else none
    | _ => none
  | .Interrupt =>
    match v.point, v.ctx_err with
    | .Waiting _, some err => some ({ v with point := .Leaving (some (.Ctx err)) }, m)
    | _, _ => none
  | .Leave =>
    match v.point with
    | .Leaving err => some ({ v with point := .Returned err }, { m with active := m.active - 1 })
    | _ => none
  | .Expire =>
    if v.ctx_err = none ∧ v.started + timeout ≤ clock then
      some ({ v with ctx_err := some .DeadlineExceeded }, m)
    else none
  | .Cancel => if v.ctx_err = none then some ({ v with ctx_err := some .Canceled }, m) else none

end Verification

/-- The bot filter with any number of players that are being verified, its background
job and the violations that the server records. -/
structure Observers where
  manager : Manager
  clock : Int
  verifications : List Verification

/-- A call of `Verify` begins or takes a step, the loop of `Start` or an event changes
the manager, or time goes by. -/
inductive ObserversAction where
  | Verify (username address : Bytes)
  | Act (index : Nat) (action : VerifyAction)
  | Record (event : Event)
  | Cleanup
  | Reload (stat : Option Int) (data : Option Bytes)
  | Tick (elapsed : Nat)

namespace Observers

/-- A new manager before the first call. -/
def start (policy : Policy) (clock : Int) : Observers where
  manager := .new policy
  clock
  verifications := []

/-- One step of everything that shares the manager. -/
def step (unmarshal : Bytes → Policy → Option Policy) (timeout : Int) (s : Observers) :
    ObserversAction → Option Observers
  | .Verify username address =>
    some { s with verifications := s.verifications ++ [.start s.clock username address] }
  | .Act index action =>
    match s.verifications[index]? with
    | none => none
    | some v =>
      match v.act timeout s.clock s.manager action with
      | none => none
      | some (v, manager) => some { s with manager, verifications := s.verifications.set index v }
  | .Record event => some { s with manager := s.manager.record event }
  | .Cleanup => some { s with manager := s.manager.cleanup s.clock }
  | .Reload stat data => some { s with manager := s.manager.reload unmarshal stat data }
  | .Tick elapsed => some { s with clock := s.clock + elapsed }

end Observers

/-- What a step of a call does, with the guard under which it does it. -/
inductive VerifyEffect (timeout clock : Int) (v : Verification) (m : Manager) :
    VerifyAction → Verification → Manager → Prop where
  | Evaluate (hpoint : v.point = .Entered) :
      VerifyEffect timeout clock v m .Evaluate
        { v with
          decision := some (clock, (m.evaluate clock v.evidence).1)
          point := Verification.decided (m.evaluate clock v.evidence).1 }
        (m.evaluate clock v.evidence).2
  | NewTimer {hold : Int} (hpoint : v.point = .Observed hold) :
      VerifyEffect timeout clock v m .NewTimer { v with point := .Waiting (clock + hold) } m
  | Fire {expires : Int} (hpoint : v.point = .Waiting expires) (hexpired : expires ≤ clock) :
      VerifyEffect timeout clock v m .Fire { v with left := some clock, point := .Leaving none } m
  | Interrupt {expires : Int} {err : CtxErr} (hpoint : v.point = .Waiting expires) (hdone : v.ctx_err = some err) :
      VerifyEffect timeout clock v m .Interrupt { v with point := .Leaving (some (.Ctx err)) } m
  | Leave {err : Option VerifyError} (hpoint : v.point = .Leaving err) :
      VerifyEffect timeout clock v m .Leave { v with point := .Returned err } { m with active := m.active - 1 }
  | Expire (hlive : v.ctx_err = none) (hexpired : v.started + timeout ≤ clock) :
      VerifyEffect timeout clock v m .Expire { v with ctx_err := some .DeadlineExceeded } m
  | Cancel (hlive : v.ctx_err = none) :
      VerifyEffect timeout clock v m .Cancel { v with ctx_err := some .Canceled } m

theorem verify_effect {timeout clock : Int} {v v' : Verification} {m m' : Manager} {a : VerifyAction}
    (h : v.act timeout clock m a = some (v', m')) : VerifyEffect timeout clock v m a v' m' := by
  cases a with
  | Evaluate =>
    simp only [Verification.act] at h
    split at h
    · rename_i hpoint
      cases h
      exact .Evaluate hpoint
    · cases h
  | NewTimer =>
    simp only [Verification.act] at h
    split at h
    · rename_i hold hpoint
      cases h
      exact .NewTimer hpoint
    · cases h
  | Fire =>
    simp only [Verification.act] at h
    split at h
    · rename_i expires hpoint
      split at h
      · rename_i hexpired
        cases h
        exact .Fire hpoint hexpired
      · cases h
    · cases h
  | Interrupt =>
    simp only [Verification.act] at h
    split at h
    · rename_i expires err hpoint hdone
      cases h
      exact .Interrupt hpoint hdone
    · cases h
  | Leave =>
    simp only [Verification.act] at h
    split at h
    · rename_i err hpoint
      cases h
      exact .Leave hpoint
    · cases h
  | Expire =>
    simp only [Verification.act] at h
    split at h
    · rename_i hguard
      cases h
      exact .Expire hguard.1 hguard.2
    · cases h
  | Cancel =>
    simp only [Verification.act] at h
    split at h
    · rename_i hlive
      cases h
      exact .Cancel hlive
    · cases h

/-- An enabled policy holds clients for some time. -/
theorem Policy.validate_hold {p : Policy} (hvalid : p.validate = .ok ()) (henabled : p.bot_filter.enabled = true) :
    0 < p.bot_filter.observation.hold := by
  rw [Policy.validate] at hvalid
  simp only [henabled, Bool.not_true, Bool.false_eq_true, if_false] at hvalid
  split at hvalid
  · cases hvalid
  split at hvalid
  · cases hvalid
  · omega

/-- A client is observed for the time of the policy. -/
theorem ReputationEntry.evaluate_observe_for {entry : ReputationEntry} {now : Int} {evidence : Evidence}
    {policy : FilterPolicy} (hobserve : (entry.evaluate now evidence policy).1.verdict = .Observe) :
    (entry.evaluate now evidence policy).1.observe_for = policy.observation.hold := by
  unfold evaluate at hobserve ⊢
  grind

namespace Manager

variable {m : Manager} {now : Int} {evidence : Evidence}

/-- `Evaluate` changes the entries, and counts its verdict. -/
theorem evaluate_counted :
    ∃ entries, (m.evaluate now evidence).2 = { m with entries }.count (m.evaluate now evidence).1.verdict := by
  rw [evaluate]
  split
  · exact ⟨m.entries, rfl⟩
  · exact ⟨_, rfl⟩

/-- A valid policy holds the players that it observes for some time. -/
theorem evaluate_hold (hvalid : m.policy.validate = .ok ())
    (hobserve : (m.evaluate now evidence).1.verdict = .Observe) : 0 < (m.evaluate now evidence).1.observe_for := by
  rw [evaluate] at hobserve ⊢
  cases henabled : m.policy.bot_filter.enabled with
  | false => simp [henabled] at hobserve
  | true =>
    simp only [henabled, Bool.not_true, Bool.false_eq_true, if_false] at hobserve ⊢
    rw [ReputationEntry.evaluate_observe_for hobserve]
    exact Policy.validate_hold hvalid henabled

/-- A reload puts only policies in force that have passed `Validate`. -/
theorem reload_valid {unmarshal : Bytes → Policy → Option Policy} {stat : Option Int} {data : Option Bytes}
    (hvalid : m.policy.validate = .ok ()) : (m.reload unmarshal stat data).policy.validate = .ok () := by
  obtain hsame | hload : (m.reload unmarshal stat data).policy = m.policy ∨
      load_file unmarshal data = .ok (m.reload unmarshal stat data).policy := reload_policy
  · rw [hsame]
    exact hvalid
  · exact load_file_valid hload

/-- The counter of a verdict. -/
def counter (m : Manager) : Verdict → UInt64
  | .Allow => m.allowed
  | .Observe => m.observed
  | .Deny => m.denied

/-- A reload counts its own failures only. -/
theorem reload_counted (unmarshal : Bytes → Policy → Option Policy) (m : Manager) (stat : Option Int)
    (data : Option Bytes) : (m.reload unmarshal stat data).active = m.active ∧
      ∀ verdict, (m.reload unmarshal stat data).counter verdict = m.counter verdict := by
  unfold reload
  split
  · exact ⟨rfl, fun verdict => by cases verdict <;> rfl⟩
  split
  · exact ⟨rfl, fun _ => rfl⟩
  split
  · exact ⟨rfl, fun verdict => by cases verdict <;> rfl⟩
  · exact ⟨rfl, fun verdict => by cases verdict <;> rfl⟩

end Manager

namespace Verification

variable {timeout clock : Int} {v v' : Verification} {m m' : Manager} {a : VerifyAction} {err : Option VerifyError}

/-- `Evaluate` answered then that the player is to be observed for that time. -/
def Held (v : Verification) (answered hold : Int) : Prop :=
  ∃ d, v.decision = some (answered, d) ∧ d.verdict = .Observe ∧ d.observe_for = hold ∧ 0 < hold

/-- The observation ended, with its time or with the context. -/
def Ended (v : Verification) (err : Option VerifyError) : Prop :=
  ∃ answered hold, v.Held answered hold ∧
    ((err = none ∧ ∃ left, v.left = some left ∧ answered + hold ≤ left) ∨
      ∃ ctxErr, err = some (.Ctx ctxErr) ∧ v.ctx_err = some ctxErr)

/-- What the point of a call says about it. -/
def AtPoint (clock : Int) (v : Verification) : VerifyPoint → Prop
  | .Entered => v.decision = none
  | .Observed hold => ∃ answered, v.Held answered hold ∧ answered ≤ clock
  | .Waiting expires => ∃ answered hold, v.Held answered hold ∧ answered + hold ≤ expires
  | .Leaving err => v.Ended err
  | .Returned err => v.Ended err ∨
      ∃ answered d, v.decision = some (answered, d) ∧
        ((d.verdict = .Allow ∧ err = none) ∨ (d.verdict = .Deny ∧ err = some .VerificationFailed))

/-- A call is where its decision, the clock and the ends of its context allow it to
be. -/
structure Sound (timeout clock : Int) (v : Verification) : Prop where
  deadline : v.ctx_err = some .DeadlineExceeded → v.started + timeout ≤ clock
  point : v.AtPoint clock v.point

theorem start_sound {username address : Bytes} : (start clock username address).Sound timeout clock :=
  ⟨by simp [start], rfl⟩

/-- Time passes. -/
theorem Sound.later {now : Int} (h : v.Sound timeout clock) (hle : clock ≤ now) : v.Sound timeout now := by
  refine ⟨fun hexpired => (h.deadline hexpired).trans hle, ?_⟩
  have hpoint := h.point
  cases hat : v.point with
  | Observed hold =>
    rw [hat] at hpoint
    obtain ⟨answered, hheld, hanswered⟩ := hpoint
    exact ⟨answered, hheld, hanswered.trans hle⟩
  | _ =>
    rw [hat] at hpoint
    exact hpoint

/-- The context becomes done. A call that it ended has seen it done before. -/
theorem AtPoint.done {point : VerifyPoint} (h : v.AtPoint clock point) (hlive : v.ctx_err = none) (ctxErr : CtxErr) :
    AtPoint clock { v with ctx_err := some ctxErr } point := by
  have hended : ∀ {err}, v.Ended err → Ended { v with ctx_err := some ctxErr } err := by
    rintro err ⟨answered, hold, hheld, hleft | ⟨other, -, hother⟩⟩
    · exact ⟨answered, hold, hheld, .inl hleft⟩
    · rw [hlive] at hother
      cases hother
  cases point with
  | Leaving err => exact hended h
  | Returned err => exact h.imp_left hended
  | _ => exact h

/-- A verdict leads to the point that it asks for. -/
theorem evaluate_at_point (hvalid : m.policy.validate = .ok ()) :
    AtPoint clock
      { v with
        decision := some (clock, (m.evaluate clock v.evidence).1)
        point := decided (m.evaluate clock v.evidence).1 }
      (decided (m.evaluate clock v.evidence).1) := by
  unfold decided
  cases hverdict : (m.evaluate clock v.evidence).1.verdict with
  | Allow => exact .inr ⟨clock, _, rfl, .inl ⟨hverdict, rfl⟩⟩
  | Deny => exact .inr ⟨clock, _, rfl, .inr ⟨hverdict, rfl⟩⟩
  | Observe => exact ⟨clock, ⟨_, rfl, hverdict, rfl, m.evaluate_hold hvalid hverdict⟩, le_rfl⟩

theorem effect_sound (hvalid : m.policy.validate = .ok ()) (h : v.Sound timeout clock)
    (heffect : VerifyEffect timeout clock v m a v' m') : v'.Sound timeout clock := by
  have hat := h.point
  cases heffect with
  | Evaluate hpoint => exact ⟨h.deadline, evaluate_at_point hvalid⟩
  | NewTimer hpoint =>
    rw [hpoint] at hat
    obtain ⟨answered, hheld, hanswered⟩ := hat
    exact ⟨h.deadline, answered, _, hheld, Int.add_le_add_right hanswered _⟩
  | Fire hpoint hexpired =>
    rw [hpoint] at hat
    obtain ⟨answered, hold, hheld, hexpires⟩ := hat
    exact ⟨h.deadline, answered, hold, hheld, .inl ⟨rfl, clock, rfl, hexpires.trans hexpired⟩⟩
  | Interrupt hpoint hdone =>
    rw [hpoint] at hat
    obtain ⟨answered, hold, hheld, -⟩ := hat
    exact ⟨h.deadline, answered, hold, hheld, .inr ⟨_, rfl, hdone⟩⟩
  | Leave hpoint =>
    rw [hpoint] at hat
    exact ⟨h.deadline, .inl hat⟩
  | Expire hlive hexpired => exact ⟨fun _ => hexpired, hat.done hlive _⟩
  | Cancel hlive => exact ⟨by simp, hat.done hlive _⟩

/-- `Evaluate` has answered, and the call still counts as an active observation. -/
def observing (v : Verification) : Bool :=
  match v.point with
  | .Observed _ | .Waiting _ | .Leaving _ => true
  | _ => false

/-- The call has been decided with this verdict. -/
def decidedAs (verdict : Verdict) (v : Verification) : Bool := v.decision.any (·.2.verdict = verdict)

theorem effect_policy (heffect : VerifyEffect timeout clock v m a v' m') : m'.policy = m.policy := by
  cases heffect with
  | Evaluate => exact Manager.policy_evaluate
  | _ => rfl

/-- The counters move with the call. -/
theorem effect_counted (h : v.Sound timeout clock) (heffect : VerifyEffect timeout clock v m a v' m') :
    m'.active + .ofNat v.observing.toNat = m.active + .ofNat v'.observing.toNat ∧
      ∀ verdict, m'.counter verdict + .ofNat (v.decidedAs verdict).toNat =
        m.counter verdict + .ofNat (v'.decidedAs verdict).toNat := by
  cases heffect with
  | Evaluate hpoint =>
    have hnew := h.point
    rw [hpoint] at hnew
    change v.decision = none at hnew
    obtain ⟨entries, hcount⟩ : ∃ entries, (m.evaluate clock v.evidence).2 =
      { m with entries }.count (m.evaluate clock v.evidence).1.verdict := m.evaluate_counted
    rw [hcount]
    generalize (m.evaluate clock v.evidence).1 = d
    cases hverdict : d.verdict with
    | Allow =>
      refine ⟨by simp [Manager.count, observing, decided, hpoint, hverdict], fun verdict => ?_⟩
      cases verdict <;> simp [Manager.count, Manager.counter, decidedAs, hnew, hverdict]
    | Observe =>
      refine ⟨by simp [Manager.count, observing, decided, hpoint, hverdict], fun verdict => ?_⟩
      cases verdict <;> simp [Manager.count, Manager.counter, decidedAs, hnew, hverdict]
    | Deny =>
      refine ⟨by simp [Manager.count, observing, decided, hpoint, hverdict], fun verdict => ?_⟩
      cases verdict <;> simp [Manager.count, Manager.counter, decidedAs, hnew, hverdict]
  | NewTimer hpoint | Fire hpoint | Interrupt hpoint | Leave hpoint => exact ⟨by simp [observing, hpoint], fun _ => rfl⟩
  | Expire | Cancel => exact ⟨rfl, fun _ => rfl⟩

/-- The call has no step to take before that time. -/
def patient (timeout now : Int) (v : Verification) : Bool :=
  match v.point with
  | .Returned _ => true
  | .Waiting expires => v.ctx_err = none ∧ now ≤ expires ∧ now ≤ v.started + timeout
  | _ => false

/-- The call has lost no time, up to its `select`. -/
def OnTime (timeout clock : Int) (v : Verification) : VerifyPoint → Prop
  | .Entered => clock = v.started
  | .Observed hold => clock = v.started ∧ ∃ answered, v.Held answered hold
  | .Waiting expires => ∃ answered hold, v.Held answered hold ∧ expires = v.started + hold ∧ clock ≤ expires ∧
      clock ≤ v.started + timeout
  | .Leaving err | .Returned err => ∀ answered hold, v.Held answered hold →
      (err = none → hold ≤ timeout) ∧ (err = some (.Ctx .DeadlineExceeded) → timeout ≤ hold)

theorem Held.pos {answered hold : Int} (h : v.Held answered hold) : 0 < hold := by
  obtain ⟨-, -, -, -, hpos⟩ := h
  exact hpos

theorem Held.hold_eq {answered answered' hold hold' : Int} (h : v.Held answered hold)
    (h' : v.Held answered' hold') : hold = hold' := by
  obtain ⟨d, hdecision, -, rfl, -⟩ := h
  obtain ⟨d', hdecision', -, rfl, -⟩ := h'
  rw [hdecision, Option.some.injEq, Prod.mk.injEq] at hdecision'
  rw [hdecision'.2]

/-- A verdict at the start of a call is on time. -/
theorem evaluate_onTime (hvalid : m.policy.validate = .ok ()) (hclock : clock = v.started) :
    OnTime timeout clock
      { v with
        decision := some (clock, (m.evaluate clock v.evidence).1)
        point := decided (m.evaluate clock v.evidence).1 }
      (decided (m.evaluate clock v.evidence).1) := by
  unfold decided
  cases hverdict : (m.evaluate clock v.evidence).1.verdict with
  | Allow =>
    rintro answered hold ⟨d, hdecision, hobserve, -⟩
    obtain ⟨-, rfl⟩ := Prod.mk.inj (Option.some.inj hdecision)
    simp [hverdict] at hobserve
  | Deny => exact fun _ _ _ => ⟨by simp, by simp⟩
  | Observe => exact ⟨hclock, clock, _, rfl, hverdict, rfl, m.evaluate_hold hvalid hverdict⟩

/-- One step of a call leaves it on time, if the scheduler does not delay it. -/
theorem effect_onTime (htimeout : 0 < timeout) (hvalid : m.policy.validate = .ok ()) (hsound : v.Sound timeout clock)
    (h : v.OnTime timeout clock v.point) (heffect : VerifyEffect timeout clock v m a v' m') :
    v'.OnTime timeout clock v'.point := by
  cases heffect with
  | Evaluate hpoint =>
    rw [hpoint] at h
    exact evaluate_onTime hvalid h
  | NewTimer hpoint =>
    rw [hpoint] at h
    obtain ⟨rfl, answered, hheld⟩ := h
    have hpos := hheld.pos
    refine ⟨answered, _, hheld, rfl, ?_, ?_⟩
    · omega
    · dsimp only
      omega
  | Fire hpoint hexpired =>
    rw [hpoint] at h
    obtain ⟨answered, hold, hheld, rfl, -, hdeadline⟩ := h
    refine fun answered' hold' hheld' => ⟨fun _ => ?_, by simp⟩
    rw [← hheld.hold_eq hheld']
    omega
  | Interrupt hpoint hdone =>
    rw [hpoint] at h
    obtain ⟨answered, hold, hheld, rfl, hexpires, -⟩ := h
    refine fun answered' hold' hheld' => ⟨by simp, fun herr => ?_⟩
    obtain rfl : _ = CtxErr.DeadlineExceeded := by simpa using herr
    have hdeadline := hsound.deadline hdone
    rw [← hheld.hold_eq hheld']
    omega
  | Leave hpoint =>
    rw [hpoint] at h
    exact h
  | Expire | Cancel =>
    cases hpoint : v.point <;> rw [hpoint] at h <;> exact h

end Verification

namespace Observers

variable {unmarshal : Bytes → Policy → Option Policy} {timeout : Int} {s s' : Observers} {a : ObserversAction}

/-- Counting in a list of which one element is replaced. -/
theorem count_set {α : Type} {l : List α} {n : Nat} {x y : α} {p : α → Bool} (hx : l[n]? = some x) :
    (l.set n y).countP p + (p x).toNat = l.countP p + (p y).toNat := by
  obtain ⟨hlt, rfl⟩ := List.getElem?_eq_some_iff.mp hx
  rw [List.countP_set hlt]
  cases hold : p l[n] with
  | false => cases p y <;> simp
  | true =>
    have hpos : 0 < l.countP p := List.countP_pos_iff.mpr ⟨_, List.getElem_mem hlt, hold⟩
    cases p y <;> simp <;> omega

/-- A counter of 64 bits that moves as a count does stands for the count. -/
theorem counter_eq {x x' : UInt64} {count count' a b : Nat} (hx : x = .ofNat count)
    (hmoved : x' + .ofNat a = x + .ofNat b) (hcount : count' + a = count + b) : x' = .ofNat count' := by
  have hcast := congrArg UInt64.ofNat hcount
  rw [UInt64.ofNat_add, UInt64.ofNat_add] at hcast
  grind

/-- The counters of the metrics, which are `uint64`, against the calls of `Verify`. -/
structure Counted (s : Observers) : Prop where
  active : s.manager.active = .ofNat (s.verifications.countP Verification.observing)
  verdicts : ∀ verdict, s.manager.counter verdict = .ofNat (s.verifications.countP (Verification.decidedAs verdict))

theorem act_effect {index : Nat} {action : VerifyAction}
    (hstep : s.step unmarshal timeout (.Act index action) = some s') :
    ∃ v v' manager, s.verifications[index]? = some v ∧ VerifyEffect timeout s.clock v s.manager action v' manager ∧
      s' = { s with manager, verifications := s.verifications.set index v' } := by
  simp only [step] at hstep
  split at hstep
  · cases hstep
  rename_i v hv
  split at hstep
  · cases hstep
  rename_i v' manager hact
  cases hstep
  exact ⟨v, v', manager, hv, verify_effect hact, rfl⟩

/-- The policy has passed `Validate`, every call is sound, and the counters are the
numbers of the verdicts. -/
structure Invariant (timeout : Int) (s : Observers) : Prop where
  valid : s.manager.policy.validate = .ok ()
  sound : ∀ v ∈ s.verifications, v.Sound timeout s.clock
  counted : s.Counted

/-- A new manager has counted nothing, and nobody is verified. -/
theorem start_invariant {policy : Policy} {clock : Int} (hvalid : policy.validate = .ok ()) :
    (start policy clock).Invariant timeout := by
  refine ⟨hvalid, by simp [start], rfl, fun verdict => ?_⟩
  cases verdict <;> rfl

/-- What does not touch the counters keeps them right. -/
theorem Counted.manager {manager : Manager} (h : s.Counted) (hactive : manager.active = s.manager.active)
    (hcounter : ∀ verdict, manager.counter verdict = s.manager.counter verdict) :
    Counted { s with manager } :=
  ⟨hactive.trans h.active, fun verdict => (hcounter verdict).trans (h.verdicts verdict)⟩

theorem step_invariant (h : s.Invariant timeout) (hstep : s.step unmarshal timeout a = some s') :
    s'.Invariant timeout := by
  cases a with
  | Verify username address =>
    cases hstep
    refine ⟨h.valid, fun v hv => ?_, ?_, fun verdict => ?_⟩
    · obtain hold | hnew := List.mem_append.mp hv
      · exact h.sound v hold
      · obtain rfl := List.mem_singleton.mp hnew
        exact Verification.start_sound
    · dsimp only
      rw [List.countP_append, h.counted.active]
      rfl
    · dsimp only
      rw [List.countP_append, h.counted.verdicts]
      rfl
  | Act index action =>
    obtain ⟨v, v', manager, hv, heffect, rfl⟩ := act_effect hstep
    have hsound := h.sound v (List.mem_of_getElem? hv)
    obtain ⟨hactive, hverdicts⟩ := Verification.effect_counted hsound heffect
    refine ⟨?_, fun other hother => ?_, ?_, fun verdict => ?_⟩
    · rw [Verification.effect_policy heffect]
      exact h.valid
    · obtain hold | rfl := List.mem_or_eq_of_mem_set hother
      · exact h.sound other hold
      · exact Verification.effect_sound h.valid hsound heffect
    · exact counter_eq h.counted.active hactive (count_set hv)
    · exact counter_eq (h.counted.verdicts verdict) (hverdicts verdict) (count_set hv)
  | Record event =>
    cases hstep
    exact ⟨h.valid, h.sound, h.counted.manager rfl fun verdict => by cases verdict <;> rfl⟩
  | Cleanup =>
    cases hstep
    exact ⟨h.valid, h.sound, h.counted.manager rfl fun verdict => by cases verdict <;> rfl⟩
  | Reload stat data =>
    cases hstep
    obtain ⟨hactive, hcounter⟩ := s.manager.reload_counted unmarshal stat data
    exact ⟨Manager.reload_valid h.valid, h.sound, h.counted.manager hactive hcounter⟩
  | Tick elapsed =>
    cases hstep
    refine ⟨h.valid, fun v hv => (h.sound v hv).later ?_, h.counted.active, h.counted.verdicts⟩
    exact Int.le_add_of_nonneg_right (Int.natCast_nonneg elapsed)

theorem reaches_invariant {policy : Policy} {clock : Int} {acts : List ObserversAction}
    (hvalid : policy.validate = .ok ()) (run : Reaches (step unmarshal timeout) (start policy clock) acts s) :
    s.Invariant timeout :=
  run.invariant (start_invariant hvalid) fun h _ hstep => step_invariant h hstep

/-- The metrics of the bot filter are exact for any number of players that are verified
at the same time, whatever the background job does between them: every call is
counted under its verdict, and the gauge is the number of the calls that are being
observed, so that it goes back to zero. -/
theorem metrics_count_verifications {policy : Policy} {clock : Int} {acts : List ObserversAction}
    (hvalid : policy.validate = .ok ()) (run : Reaches (step unmarshal timeout) (start policy clock) acts s) :
    s.manager.active = .ofNat (s.verifications.countP Verification.observing) ∧
      s.manager.allowed = .ofNat (s.verifications.countP (Verification.decidedAs .Allow)) ∧
      s.manager.observed = .ofNat (s.verifications.countP (Verification.decidedAs .Observe)) ∧
      s.manager.denied = .ofNat (s.verifications.countP (Verification.decidedAs .Deny)) := by
  have hcounted := (reaches_invariant hvalid run).counted
  exact ⟨hcounted.active, hcounted.verdicts .Allow, hcounted.verdicts .Observe, hcounted.verdicts .Deny⟩

/-- Everybody is observed for five units of time. -/
def watchful : Policy where
  version := 1
  bot_filter := { enabled := true, observation := ⟨5, 1, 1⟩, reputation := ⟨10, 3, 10⟩, signals := ⟨1, 10, 6, 10⟩ }

/-- One of two players who are observed has been held for long enough. -/
theorem metrics_count_verifications_of_two :
    ∃ s, Reaches (step (fun _ p => some p) 10) (start watchful 0)
        [.Verify [1] [127], .Act 0 .Evaluate, .Act 0 .NewTimer, .Tick 2, .Verify [2] [128], .Act 1 .Evaluate,
          .Tick 3, .Act 0 .Fire, .Cleanup, .Act 0 .Leave] s ∧
      s.verifications.map Verification.point = [.Returned none, .Observed 5] ∧
      s.manager.active = 1 ∧ s.manager.observed = 2 ∧
      s.manager.active = .ofNat (s.verifications.countP Verification.observing) := by
  have hreached : ∃ s, Reaches (step (fun _ p => some p) 10) (start watchful 0)
      [.Verify [1] [127], .Act 0 .Evaluate, .Act 0 .NewTimer, .Tick 2, .Verify [2] [128], .Act 1 .Evaluate,
        .Tick 3, .Act 0 .Fire, .Cleanup, .Act 0 .Leave] s ∧
      decide (s.verifications.map Verification.point = [.Returned none, .Observed 5] ∧
        s.manager.active = 1 ∧ s.manager.observed = 2) = true :=
    Reaches.of_exec _ (by decide +kernel)
  obtain ⟨s, run, hobserved⟩ := hreached
  obtain ⟨hpoints, hactive, hobserved⟩ := of_decide_eq_true hobserved
  exact ⟨s, run, hpoints, hactive, hobserved, (metrics_count_verifications rfl run).1⟩

/-- What `Verify` returns. A player passes who was allowed, or who was held for the whole
time that the policy asked for when it judged, whatever has been reloaded since. Only
a denial fails the verification itself, and only an observation ends with the
context. -/
theorem verify_returns_verdict {policy : Policy} {clock : Int} {acts : List ObserversAction} {v : Verification}
    {err : Option VerifyError} (hvalid : policy.validate = .ok ())
    (run : Reaches (step unmarshal timeout) (start policy clock) acts s) (hv : v ∈ s.verifications)
    (hreturned : v.point = .Returned err) :
    ∃ answered d, v.decision = some (answered, d) ∧
      ((d.verdict = .Allow ∧ err = none) ∨
        (d.verdict = .Deny ∧ err = some .VerificationFailed) ∨
        (d.verdict = .Observe ∧ err = none ∧ 0 < d.observe_for ∧
          ∃ left, v.left = some left ∧ answered + d.observe_for ≤ left) ∨
        (d.verdict = .Observe ∧ ∃ ctxErr, err = some (.Ctx ctxErr) ∧ v.ctx_err = some ctxErr ∧
          (ctxErr = .DeadlineExceeded → v.started + timeout ≤ s.clock))) := by
  have hsound := (reaches_invariant hvalid run).sound v hv
  have hpoint := hsound.point
  rw [hreturned] at hpoint
  obtain ⟨answered, hold, ⟨d, hdecision, hverdict, rfl, hhold⟩, hended⟩ | ⟨answered, d, hdecision, hended⟩ := hpoint
  · refine ⟨answered, d, hdecision, ?_⟩
    obtain ⟨rfl, hleft⟩ | ⟨ctxErr, rfl, hctx⟩ := hended
    · exact .inr (.inr (.inl ⟨hverdict, rfl, hhold, hleft⟩))
    · refine .inr (.inr (.inr ⟨hverdict, ctxErr, rfl, hctx, ?_⟩))
      rintro rfl
      exact hsound.deadline hctx
  · refine ⟨answered, d, hdecision, ?_⟩
    obtain hallowed | hdenied := hended
    · exact .inl hallowed
    · exact .inr (.inl hdenied)

/-- A player who was held for the time of the policy. -/
def heldPlayer : Verification where
  evidence := ⟨[1], [127], false⟩
  started := 0
  ctx_err := none
  decision := some (0, ⟨.Observe, 5, .SoftBurst⟩)
  left := some 6
  point := .Returned none

/-- The policy is reloaded while the player is held. -/
theorem verify_returns_verdict_of_held_player :
    ∃ s, Reaches (step (fun _ p => some p) 10) (start watchful 0)
        [.Verify [1] [127], .Act 0 .Evaluate, .Tick 1, .Act 0 .NewTimer, .Reload (some 1) (some []), .Tick 5,
          .Act 0 .Fire, .Act 0 .Leave] s ∧
      s.manager.policy = default_policy ∧ heldPlayer ∈ s.verifications ∧
      ∃ answered d, heldPlayer.decision = some (answered, d) ∧
        ((d.verdict = .Allow ∧ (none : Option VerifyError) = none) ∨
          (d.verdict = .Deny ∧ none = some VerifyError.VerificationFailed) ∨
          (d.verdict = .Observe ∧ (none : Option VerifyError) = none ∧ 0 < d.observe_for ∧
            ∃ left, heldPlayer.left = some left ∧ answered + d.observe_for ≤ left) ∨
          (d.verdict = .Observe ∧ ∃ ctxErr, none = some (VerifyError.Ctx ctxErr) ∧ heldPlayer.ctx_err = some ctxErr ∧
            (ctxErr = .DeadlineExceeded → heldPlayer.started + 10 ≤ s.clock))) := by
  have hreached : ∃ s, Reaches (step (fun _ p => some p) 10) (start watchful 0)
      [.Verify [1] [127], .Act 0 .Evaluate, .Tick 1, .Act 0 .NewTimer, .Reload (some 1) (some []), .Tick 5,
        .Act 0 .Fire, .Act 0 .Leave] s ∧
      decide (s.manager.policy = default_policy ∧ heldPlayer ∈ s.verifications) = true :=
    Reaches.of_exec _ (by decide +kernel)
  obtain ⟨s, run, hobserved⟩ := hreached
  obtain ⟨hpolicy, hheld⟩ := of_decide_eq_true hobserved
  exact ⟨s, run, hpolicy, hheld, verify_returns_verdict rfl run hheld rfl⟩

/-- Time passes only while nobody has a step to take, and never past the moment at
which a timer or a context is due. -/
def prompt (timeout : Int) (s : Observers) : ObserversAction → Bool
  | .Tick elapsed => s.verifications.all (·.patient timeout (s.clock + elapsed))
  | _ => true

/-- Everybody is on time. -/
def Punctual (timeout : Int) (s : Observers) : Prop := ∀ v ∈ s.verifications, v.OnTime timeout s.clock v.point

/-- One step leaves every call on time when goroutines are scheduled without delay. -/
theorem step_punctual (htimeout : 0 < timeout) (hinv : s.Invariant timeout) (h : s.Punctual timeout)
    (hprompt : s.prompt timeout a = true) (hstep : s.step unmarshal timeout a = some s') : s'.Punctual timeout := by
  cases a with
  | Verify username address =>
    cases hstep
    intro v hv
    obtain hold | hnew := List.mem_append.mp hv
    · exact h v hold
    · obtain rfl := List.mem_singleton.mp hnew
      rfl
  | Act index action =>
    obtain ⟨v, v', manager, hv, heffect, rfl⟩ := act_effect hstep
    have hmem := List.mem_of_getElem? hv
    intro other hother
    obtain hold | rfl := List.mem_or_eq_of_mem_set hother
    · exact h other hold
    · exact Verification.effect_onTime htimeout hinv.valid (hinv.sound v hmem) (h v hmem) heffect
  | Record event | Cleanup | Reload stat data =>
    cases hstep
    exact h
  | Tick elapsed =>
    cases hstep
    intro v hv
    have honTime := h v hv
    have hpatient := List.all_eq_true.mp hprompt v hv
    unfold Verification.patient at hpatient
    cases hpoint : v.point with
    | Returned err =>
      rw [hpoint] at honTime
      exact honTime
    | Waiting expires =>
      rw [hpoint] at honTime hpatient
      obtain ⟨answered, hold, hheld, rfl, -, -⟩ := honTime
      obtain ⟨-, hdue⟩ := of_decide_eq_true hpatient
      exact ⟨answered, hold, hheld, rfl, hdue⟩
    | Entered | Observed hold | Leaving err =>
      rw [hpoint] at hpatient
      cases hpatient

/-- On a machine that keeps up, an observed player passes only if the policy holds for no
longer than the challenge may take, and runs into the challenge timeout only if it
does not hold for less. So `hold` has to be below `REGIONGATE_CHALLENGE_TIMEOUT`: above
it nobody who is observed ever passes, and below it nobody runs into the timeout. -/
theorem observed_passes_within_challenge {policy : Policy} {clock answered : Int} {acts : List ObserversAction}
    {v : Verification} {d : Decision} {err : Option VerifyError} (htimeout : 0 < timeout)
    (hvalid : policy.validate = .ok ())
    (run : Runs (step unmarshal timeout) (fun s a => s.prompt timeout a = true) (start policy clock) acts s)
    (hv : v ∈ s.verifications)
    (hdecision : v.decision = some (answered, d)) (hobserve : d.verdict = .Observe)
    (hreturned : v.point = .Returned err) :
    (timeout < d.observe_for → err ≠ none) ∧
      (d.observe_for < timeout → err ≠ some (.Ctx .DeadlineExceeded)) := by
  have hinv : s.Invariant timeout ∧ s.Punctual timeout := by
    apply run.invariant
    · exact ⟨start_invariant hvalid, by simp [Punctual, start]⟩
    · rintro s a s' ⟨hinv, hpunctual⟩ hprompt hstep
      exact ⟨step_invariant hinv hstep, step_punctual htimeout hinv hpunctual hprompt hstep⟩
  have hpoint := (hinv.1.sound v hv).point
  have honTime := hinv.2 v hv
  rw [hreturned] at hpoint honTime
  obtain ⟨answered', hold, hheld, -⟩ | ⟨answered', d', hdecision', hverdict⟩ := hpoint
  · obtain ⟨hpassed, hexpired⟩ := honTime answered' hold hheld
    obtain ⟨d', hdecision', -, rfl, -⟩ := hheld
    obtain ⟨rfl, rfl⟩ := Prod.mk.inj (Option.some.inj (hdecision.symm.trans hdecision'))
    exact ⟨fun hlonger herr => absurd (hpassed herr) (by omega), fun hshorter herr => absurd (hexpired herr) (by omega)⟩
  · obtain ⟨rfl, rfl⟩ := Prod.mk.inj (Option.some.inj (hdecision.symm.trans hdecision'))
    simp [hobserve] at hverdict

/-- A hold of five units of time against a challenge timeout of three. -/
theorem observed_passes_within_challenge_of_late_player :
    ∃ s v, Runs (step (fun _ p => some p) 3) (fun s a => s.prompt 3 a = true) (start watchful 0)
        [.Verify [1] [127], .Act 0 .Evaluate, .Act 0 .NewTimer, .Tick 3, .Act 0 .Expire, .Act 0 .Interrupt,
          .Act 0 .Leave] s ∧
      v ∈ s.verifications ∧ v.point = .Returned (some (.Ctx .DeadlineExceeded)) ∧
      ((3 : Int) < 5 → some (VerifyError.Ctx .DeadlineExceeded) ≠ none) ∧
      ((5 : Int) < 3 → some (VerifyError.Ctx .DeadlineExceeded) ≠ some (.Ctx .DeadlineExceeded)) := by
  have hreached : ∃ s, Runs (step (fun _ p => some p) 3) (fun s a => s.prompt 3 a = true) (start watchful 0)
      [.Verify [1] [127], .Act 0 .Evaluate, .Act 0 .NewTimer, .Tick 3, .Act 0 .Expire, .Act 0 .Interrupt,
        .Act 0 .Leave] s ∧
      decide ({ heldPlayer with
        ctx_err := some .DeadlineExceeded, left := none, point := .Returned (some (.Ctx .DeadlineExceeded)) } ∈
          s.verifications) = true :=
    Runs.of_exec (fun (s : Observers) (a : ObserversAction) (hok : s.prompt 3 a = true) => hok) _ (by decide +kernel)
  obtain ⟨s, run, hobserved⟩ := hreached
  have hv := of_decide_eq_true hobserved
  exact ⟨s, _, run, hv, rfl, observed_passes_within_challenge (by decide) rfl run hv rfl rfl rfl⟩

end Observers

end regiongate.botfilter
