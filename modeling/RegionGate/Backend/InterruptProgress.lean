import RegionGate.Backend.Interrupt

open execution

namespace regiongate.backend

/-- The steps of the exchange itself, of the caller and of its function. -/
def ExchangeAction.own : ExchangeAction → Bool
  | .Tick | .CancelParent _ | .Past _ _ | .Receive _ | .Next => false
  | .Current action => action.ofFunction
  | .Proceed | .Frame | .ReadTimeout | .ReadError | .Continue | .Reply _ | .Fail _ | .Written | .WriteTimeout
  | .WriteError => true

/-- The own steps that need nobody else: not the end of a read or of a write that the
connection decides. -/
def ExchangeAction.free : ExchangeAction → Bool
  | .ReadError | .Written | .WriteError => false
  | a => a.own

/-- The steps that the caller has left, when there is nothing more to read. -/
def ExchangePoint.rank : ExchangePoint → Nat
  | .SetRead => 15
  | .SetWrite => 14
  | .Register => 13
  | .Handle => 12
  | .Write _ => 11
  | .Read => 10
  | .Stop .Success => 9
  | .Wait .Success => 8
  | .Cancel .Success => 7
  | .ClearRead => 6
  | .ClearWrite => 5
  | .Stop (.Return _) => 4
  | .Wait (.Return _) => 3
  | .Cancel (.Return _) => 2
  | .Returned _ => 0

/-- The steps that a function has left, once its context is done. -/
def hookRank : Option HookPoint → Nat
  | none | some .Armed => 3
  | some .Started => 2
  | some .Interrupted => 1
  | some .Closed | some .Stopped => 0

/-- The deadlines are set. -/
def ExchangePoint.begun : ExchangePoint → Bool
  | .SetRead | .SetWrite => false
  | _ => true

/-- The caller may still read and write under its deadlines. -/
def ExchangePoint.trades : ExchangePoint → Bool
  | .Register | .Read | .Handle | .Write _ => true
  | _ => false

namespace Exchanging

variable {s s' : Exchanging} {a : ExchangeAction} {action : HookAction} {current : Attempt}

/-- How many steps the caller and its function are from the caller's return; a frame
that is buffered takes three. -/
def distance (s : Exchanging) : Nat := s.point.rank + hookRank s.current.hook + 3 * s.buffered

/-- The exchange is back at its caller, with or without an error. -/
def HasReturned (s : Exchanging) : Prop := ∃ result, s.point = .Returned result

/-- A deadline of an exchange under way is over at a time that is given, or now. -/
def Ends (deadline : Exchanging → Option Nat) (time : Nat) (s : Exchanging) : Prop :=
  s.point.begun = true ∧ (s.point.trades = true → ∃ d, deadline s = some d ∧ d ≤ max time s.now)

/-- Nothing more is read from the connection. -/
def ReadsOver (s : Exchanging) : Prop := Ends read_deadline 0 s

/-- The two ways in which an exchange waits: for the backend to send something, as
long as its context is not done, and for the backend to take what it was sent. In
both a deadline lies ahead. -/
inductive Waits (s : Exchanging) : Prop where
  | read {deadline : Nat} (hpoint : s.point = .Read) (hnothing : s.buffered = 0) (hctx : s.current.err = none)
      (hdeadline : s.read_deadline = some deadline) (hahead : s.now < deadline)
      (hbound : deadline ≤ s.now + s.current.timeout)
  | write {last : Bool} {deadline : Nat} (hpoint : s.point = .Write last) (hdeadline : s.write_deadline = some deadline)
      (hahead : s.now < deadline) (hbound : deadline ≤ s.now + s.current.timeout)

section Deadlines

variable {deadline : Exchanging → Option Nat} {time : Nat}

/-- What a step leaves of an exchange whose deadlines are set. -/
structure Kept (s s' : Exchanging) : Prop where
  begun : s'.point.begun = true
  trades : s'.point.trades = true → s.point.trades = true
  now : s.now ≤ s'.now
  timeout : s'.current.timeout = s.current.timeout
  read : s'.point.trades = true → s'.read_deadline = s.read_deadline ∨ s'.read_deadline = some s'.now
  write : s'.point.trades = true → s'.write_deadline = s.write_deadline

/-- Once the caller is through with its reads and writes, the deadlines no longer
matter. -/
theorem Kept.over (hbegun : s'.point.begun = true) (hover : s'.point.trades = false) (hnow : s.now ≤ s'.now)
    (htimeout : s'.current.timeout = s.current.timeout) : Kept s s' := by
  have hnot : s'.point.trades ≠ true := by simp [hover]
  exact ⟨hbegun, fun h => absurd h hnot, hnow, htimeout, fun h => absurd h hnot, fun h => absurd h hnot⟩

/-- A step of the caller starts no new exchange and moves no deadline while it trades. -/
theorem proceed_kept (hbegun : s.point.begun = true) (hstep : s.proceed = some s') : Kept s s' := by
  unfold proceed at hstep
  cases hpoint : s.point with
  | SetRead | SetWrite =>
    rw [hpoint] at hbegun
    cases hbegun
  | Register =>
    simp only [hpoint, Option.some.injEq] at hstep
    subst hstep
    exact ⟨rfl, fun _ => by rw [hpoint]; rfl, Nat.le_refl _, rfl, fun _ => .inl rfl, fun _ => rfl⟩
  | Stop ending =>
    simp only [hpoint] at hstep
    split at hstep
    · cases hstep
      exact .over rfl rfl (Nat.le_refl _) rfl
    · split at hstep
      · cases hstep
        exact .over rfl rfl (Nat.le_refl _) rfl
      · cases hstep
        exact .over rfl rfl (Nat.le_refl _) rfl
  | Wait ending =>
    simp only [hpoint] at hstep
    split at hstep
    · cases hstep
      exact .over rfl rfl (Nat.le_refl _) rfl
    · cases hstep
  | Cancel ending =>
    simp only [hpoint] at hstep
    cases ending with
    | Success | Return result =>
      cases hstep
      exact .over rfl rfl (Nat.le_refl _) rfl
  | ClearRead | ClearWrite =>
    simp only [hpoint, Option.some.injEq] at hstep
    subst hstep
    exact .over rfl rfl (Nat.le_refl _) rfl
  | Read | Handle | Write | Returned => simp [hpoint] at hstep

theorem act_timeout {a a' : Attempt} {now : Nat} {parent : Option CtxErr} (h : a.act now parent action = some a') :
    a'.timeout = a.timeout := by
  obtain ⟨-, _, rfl⟩ | ⟨-, -, rfl⟩ | ⟨-, -, rfl⟩ | ⟨-, -, rfl⟩ := act_cases h <;> rfl

/-- Reads and writes are made after the deadlines were set. -/
theorem Move.begun {buffered : Nat} {point : ExchangePoint} (h : Move s a buffered point) :
    point.begun = true ∧ s.point.trades = true := by
  cases h with
  | frame hpoint | read_timeout hpoint | read_error hpoint | ignored hpoint | reply _ hpoint | fail _ hpoint
  | write_timeout hpoint | write_error hpoint => exact ⟨rfl, by rw [hpoint]; rfl⟩
  | @written last hpoint =>
    rw [hpoint]
    cases last <;> exact ⟨rfl, rfl⟩

/-- Within an exchange nothing moves its timeout or takes the clock back. -/
theorem step_kept (hbegun : s.point.begun = true) (hother : a ≠ .Next) (hstep : s.step a = some s') : Kept s s' := by
  have hinterrupt : ∀ action : HookAction, (if action = .Interrupt then some s.now else s.read_deadline) =
      s.read_deadline ∨ (if action = .Interrupt then some s.now else s.read_deadline) = some s.now := by
    intro action
    split
    · exact .inr rfl
    · exact .inl rfl
  cases step_effect hstep with
  | tick => exact ⟨hbegun, id, Nat.le_succ _, rfl, fun _ => .inl rfl, fun _ => rfl⟩
  | cancelled => exact ⟨hbegun, id, Nat.le_refl _, rfl, fun _ => .inl rfl, fun _ => rfl⟩
  | current hact => exact ⟨hbegun, id, Nat.le_refl _, act_timeout hact, fun _ => hinterrupt _, fun _ => rfl⟩
  | past => exact ⟨hbegun, id, Nat.le_refl _, rfl, fun _ => hinterrupt _, fun _ => rfl⟩
  | proceeded hproceed => exact proceed_kept hbegun hproceed
  | received => exact ⟨hbegun, id, Nat.le_refl _, rfl, fun _ => .inl rfl, fun _ => rfl⟩
  | moved hmove =>
    exact ⟨hmove.begun.1, fun _ => hmove.begun.2, Nat.le_refl _, rfl, fun _ => .inl rfl, fun _ => rfl⟩
  | next => exact absurd rfl hother

theorem Ends.mono {later : Nat} (h : Ends deadline time s) (hle : time ≤ later) : Ends deadline later s :=
  ⟨h.1, fun htrades => by
    obtain ⟨d, hd, hbound⟩ := h.2 htrades
    exact ⟨d, hd, by omega⟩⟩

theorem Ends.over (h : Ends deadline time s) (hpassed : time ≤ s.now) : Ends deadline 0 s :=
  ⟨h.1, fun htrades => by
    obtain ⟨d, hd, hbound⟩ := h.2 htrades
    exact ⟨d, hd, by omega⟩⟩

/-- A deadline stays where it is, unless the hook moves it to the present. -/
theorem Ends.kept (h : Ends deadline time s) (hkept : Kept s s')
    (hdeadline : s'.point.trades = true → deadline s' = deadline s ∨ deadline s' = some s'.now) :
    Ends deadline time s' := by
  refine ⟨hkept.begun, fun htrades => ?_⟩
  obtain ⟨d, hd, hbound⟩ := h.2 (hkept.trades htrades)
  have hnow := hkept.now
  obtain hsame | hover := hdeadline htrades
  · exact ⟨d, hsame.trans hd, by omega⟩
  · exact ⟨_, hover, by omega⟩

theorem proceed_now (hstep : s.proceed = some s') : s'.now = s.now := by
  grind [proceed, stopped]

theorem step_now (hstep : s.step a = some s') : s.now ≤ s'.now := by
  cases step_effect hstep with
  | tick => exact Nat.le_succ _
  | proceeded hproceed => exact (proceed_now hproceed).ge
  | cancelled | current | past | received | moved | next => exact Nat.le_refl _

theorem step_read_ends (hother : a ≠ .Next) (h : Ends read_deadline time s) (hstep : s.step a = some s') :
    Ends read_deadline time s' :=
  have hkept := step_kept h.1 hother hstep
  h.kept hkept hkept.read

/-- Nobody moves the write deadline of an exchange. -/
theorem step_write_ends (hother : a ≠ .Next) (h : Ends write_deadline time s) (hstep : s.step a = some s') :
    Ends write_deadline time s' :=
  have hkept := step_kept h.1 hother hstep
  h.kept hkept fun htrades => .inl (hkept.write htrades)

/-- The deadline of the reads is at most the timeout away. -/
theorem Invariant.read_ends (h : s.Invariant) (hbegun : s.point.begun = true) :
    Ends read_deadline (s.now + s.current.timeout) s := by
  refine ⟨hbegun, fun htrades => ?_⟩
  have hbounded : ∃ d, s.read_deadline = some d ∧ d ≤ s.now + s.current.timeout := by
    have hholds := h.holds
    cases hpoint : s.point with
    | Register =>
      rw [hpoint] at hholds
      exact hholds.deadline
    | Read | Handle | Write =>
      rw [hpoint] at hholds
      obtain ⟨-, _, -, -, d, hd, hbound, -⟩ := hholds
      exact ⟨d, hd, hbound⟩
    | SetRead | SetWrite | Stop | Wait | Cancel | ClearRead | ClearWrite | Returned =>
      rw [hpoint] at htrades
      cases htrades
  obtain ⟨d, hd, hbound⟩ := hbounded
  exact ⟨d, hd, by omega⟩

/-- So is the deadline of the writes. -/
def WriteBounded (s : Exchanging) : Prop :=
  s.point.begun = true → Ends write_deadline (s.now + s.current.timeout) s

/-- The write deadline lies at most a timeout ahead. -/
theorem step_write_bounded (h : s.WriteBounded) (hstep : s.step a = some s') : s'.WriteBounded := by
  intro hbegun'
  by_cases hbegun : s.point.begun = true
  · by_cases hnext : a = .Next
    · subst hnext
      cases step_effect hstep with
      | moved hmove => cases hmove
      | next => cases hbegun'
    · have hkept := step_kept hbegun hnext hstep
      have hnow := hkept.now
      have htimeout := hkept.timeout
      exact (step_write_ends hnext (h hbegun) hstep).mono (by omega)
  · -- the step from `SetWrite` is the one that sets it
    cases step_effect hstep with
    | tick | cancelled | current | past => exact absurd hbegun' hbegun
    | received _ hpoint => rw [hpoint] at hbegun; exact absurd rfl hbegun
    | moved hmove =>
      have htrades := hmove.begun.2
      cases hpoint : s.point <;> simp [hpoint, ExchangePoint.trades, ExchangePoint.begun] at htrades hbegun
    | next => cases hbegun'
    | proceeded hproceed =>
      unfold proceed at hproceed
      cases hpoint : s.point with
      | SetRead =>
        simp only [hpoint, Option.some.injEq] at hproceed
        subst hproceed
        cases hbegun'
      | SetWrite =>
        simp only [hpoint, Option.some.injEq] at hproceed
        subst hproceed
        exact ⟨rfl, fun _ => ⟨_, rfl, Nat.le_max_left _ _⟩⟩
      | _ =>
        rw [hpoint] at hbegun
        exact absurd rfl hbegun

theorem reaches_write_bounded {timeout : Nat} {timeouts : List Nat} {acts : List ExchangeAction}
    (run : Reaches step (start timeout timeouts) acts s) : s.WriteBounded :=
  run.invariant (fun hbegun => by cases hbegun) fun h _ hstep => step_write_bounded h hstep

end Deadlines

section Distance

theorem proceed_distance (h : s.Invariant) (hstep : s.proceed = some s') : s'.distance < s.distance := by
  have hholds := h.holds
  unfold proceed at hstep
  cases hpoint : s.point with
  | SetRead | SetWrite | ClearRead | ClearWrite =>
    simp only [hpoint, Option.some.injEq] at hstep
    subst hstep
    simp [distance, hpoint, ExchangePoint.rank]
  | Register =>
    simp only [hpoint, Option.some.injEq] at hstep
    rw [hpoint] at hholds
    have hnone := hholds.hook
    subst hstep
    simp [distance, hpoint, hnone, ExchangePoint.rank, hookRank]
  | Stop ending =>
    simp only [hpoint] at hstep
    split at hstep
    · cases hstep
      cases ending <;> simp [distance, stopped, hpoint, ExchangePoint.rank]
    · split at hstep
      · rename_i harmed
        cases hstep
        cases ending <;> simp [distance, hpoint, harmed, ExchangePoint.rank, hookRank]
      · cases hstep
        cases ending <;> simp [distance, hpoint, ExchangePoint.rank]
  | Wait ending =>
    simp only [hpoint] at hstep
    split at hstep
    · cases hstep
      cases ending <;> simp [distance, stopped, hpoint, ExchangePoint.rank]
    · cases hstep
  | Cancel ending =>
    simp only [hpoint] at hstep
    cases ending with
    | Success | Return result =>
      cases hstep
      simp [distance, hpoint, ExchangePoint.rank]
  | Read | Handle | Write | Returned => simp [hpoint] at hstep

/-- The hook comes nearer to its end by its own steps and by no other. -/
theorem act_hookRank {a a' : Attempt} {now : Nat} {parent : Option CtxErr} (h : a.act now parent action = some a') :
    hookRank a'.hook ≤ hookRank a.hook ∧ (action.ofFunction = true → hookRank a'.hook < hookRank a.hook) := by
  obtain ⟨hquiet, _, rfl⟩ | ⟨-, hhook, rfl⟩ | ⟨-, hhook, rfl⟩ | ⟨-, hhook, rfl⟩ := act_cases h
  · exact ⟨Nat.le_refl _, fun hfunction => absurd (hquiet.symm.trans hfunction) Bool.false_ne_true⟩
  all_goals simp [hhook, hookRank]

/-- A read or a write brings the exchange nearer to its end; a frame from the buffer
is paid for by the buffer. -/
theorem Move.distance {buffered : Nat} {point : ExchangePoint} (h : Move s a buffered point) :
    point.rank + 3 * buffered < s.point.rank + 3 * s.buffered := by
  cases h with
  | frame hpoint hbuffered =>
    simp only [hpoint, hbuffered, ExchangePoint.rank]
    omega
  | read_timeout hpoint | read_error hpoint | ignored hpoint | reply _ hpoint | fail _ hpoint | write_timeout hpoint
  | write_error hpoint =>
    simp only [hpoint, ExchangePoint.rank]
    omega
  | @written last hpoint =>
    rw [hpoint]
    cases last <;> simp [ExchangePoint.rank]

/-- Where nothing more is received, the own steps of an exchange bring it nearer to its
return, and nobody leads it away. -/
theorem step_distance (h : s.Invariant) (hover : s.point = .Read → s.readable = false) (hother : a ≠ .Next)
    (hstep : s.step a = some s') : s'.distance ≤ s.distance ∧ (a.own = true → s'.distance < s.distance) := by
  cases step_effect hstep with
  | tick | cancelled | past => exact ⟨Nat.le_refl _, fun hown => by cases hown⟩
  | current hact =>
    obtain ⟨hle, hlt⟩ := act_hookRank hact
    simp only [distance, acted]
    refine ⟨by omega, fun hown => ?_⟩
    have := hlt hown
    omega
  | proceeded hproceed =>
    have hlt := proceed_distance h hproceed
    exact ⟨hlt.le, fun _ => hlt⟩
  | received frames hpoint hreadable => exact absurd ((hover hpoint).symm.trans hreadable) Bool.false_ne_true
  | moved hmove =>
    have hdown := hmove.distance
    simp only [distance]
    exact ⟨by omega, fun _ => by omega⟩
  | next => exact absurd rfl hother

/-- When the reads are over nothing more can be received. -/
theorem ReadsOver.unreadable (h : s.ReadsOver) (hpoint : s.point = .Read) : s.readable = false := by
  obtain ⟨d, hd, hbound⟩ := h.2 (by rw [hpoint]; rfl)
  simp only [readable, hd, Option.all_some, decide_eq_false_iff_not]
  omega

/-- However an exchange goes on that can receive nothing more, its own steps are
numbered. -/
theorem run_distance {later : List ExchangeAction} (h : s.Invariant) (hover : s.ReadsOver)
    (run : Runs step (fun _ a => a ≠ .Next) s later s') : later.countP (·.own) + s'.distance ≤ s.distance := by
  induction run with
  | nil => simp
  | @snoc acts middle s' a run hother hstep ih =>
    have hinv : middle.Invariant := run.invariant h fun h _ hstep => step_invariant h hstep
    have hreads : middle.ReadsOver := run.invariant hover fun h hother hstep => step_read_ends hother h hstep
    obtain ⟨hle, hlt⟩ := step_distance hinv hreads.unreadable hother hstep
    rw [List.countP_append, List.countP_singleton]
    split
    · rename_i hown
      have := hlt hown
      omega
    · omega

/-- The steps that are left, by the frames in the buffer. -/
theorem distance_le (s : Exchanging) : s.distance ≤ 18 + 3 * s.buffered := by
  have hpoint : s.point.rank ≤ 15 := by
    unfold ExchangePoint.rank
    split <;> decide
  have hhook : hookRank s.current.hook ≤ 3 := by
    unfold hookRank
    split <;> decide
  unfold distance
  omega

end Distance

section Ready

theorem step_current (hact : s.current.act s.now s.parent action = some current) :
    s.step (.Current action) ≠ none := by
  simp only [step, hact]
  exact Option.some_ne_none _

/-- `stopInterrupt` waits only for a function that is on its way. -/
theorem wait_ready {ending : Ending} (h : s.Waiting) (hpoint : s.point = .Wait ending) :
    ∃ a, a.free = true ∧ s.step a ≠ none := by
  obtain hstarted | hinterrupted | hclosed := h.hook
  · exact ⟨.Current .Interrupt, rfl, step_current (by rw [Attempt.act, if_pos hstarted])⟩
  · exact ⟨.Current .Close, rfl, step_current (by rw [Attempt.act, if_pos hinterrupted])⟩
  · refine ⟨.Proceed, rfl, ?_⟩
    rw [step, Exchanging.proceed, hpoint]
    simp [hclosed]

/-- A read ends with a frame that is there, with its deadline, or with the function of
a context that is done. -/
theorem read_ready (h : s.Watched) (hpoint : s.point = .Read) :
    (∃ a, a.free = true ∧ s.step a ≠ none) ∨ s.Waits := by
  cases hbuffered : s.buffered with
  | succ buffered => exact .inl ⟨.Frame, rfl, by simp [step, hpoint, hbuffered]⟩
  | zero =>
    obtain ⟨-, point, hhook, hlive, deadline, hdeadline, hbound, hlate⟩ := h
    by_cases hpassed : deadline ≤ s.now
    · refine .inl ⟨.ReadTimeout, rfl, ?_⟩
      simp [step, hpoint, hbuffered, readable, hdeadline, hpassed]
    · by_cases hctx : s.current.err = none
      · exact .inr (.read hpoint hbuffered hctx hdeadline (by omega) hbound)
      · cases point with
        | Armed => exact .inl ⟨.Current .Fire, rfl, step_current (by rw [Attempt.act, if_pos ⟨hctx, hhook⟩])⟩
        | Started => exact .inl ⟨.Current .Interrupt, rfl, step_current (by rw [Attempt.act, if_pos hhook])⟩
        | Interrupted => exact absurd (hlate (.inl rfl)) hpassed
        | Closed => exact absurd (hlate (.inr rfl)) hpassed
        | Stopped => exact absurd rfl hlive

/-- A write ends with its deadline, if the backend does not take it before. -/
theorem write_ready {last : Bool} (h : s.WriteBounded) (hpoint : s.point = .Write last) :
    (∃ a, a.free = true ∧ s.step a ≠ none) ∨ s.Waits := by
  obtain ⟨deadline, hdeadline, hbound⟩ := (h (by rw [hpoint]; rfl)).2 (by rw [hpoint]; rfl)
  by_cases hpassed : deadline ≤ s.now
  · exact .inl ⟨.WriteTimeout, rfl, by simp [step, hpoint, hdeadline, hpassed]⟩
  · exact .inr (.write hpoint hdeadline (by omega) (by omega))

/-- An exchange that has not returned has a step to take, unless it waits. -/
theorem ready (h : s.Invariant) (hwrite : s.WriteBounded) :
    s.HasReturned ∨ (∃ a, a.free = true ∧ s.step a ≠ none) ∨ s.Waits := by
  have hholds := h.holds
  cases hpoint : s.point with
  | Read =>
    rw [hpoint] at hholds
    exact .inr (read_ready hholds hpoint)
  | Write last => exact .inr (write_ready hwrite hpoint)
  | Handle => exact .inr (.inl ⟨.Continue, rfl, by simp [step, hpoint]⟩)
  | Wait ending =>
    rw [hpoint] at hholds
    obtain rfl | ⟨-, hstage, -⟩ := stage_of_ending ending
    · exact hholds.elim
    · rw [hstage] at hholds
      exact .inr (.inl (wait_ready hholds hpoint))
  | Returned result => exact .inl ⟨result, hpoint⟩
  | Stop ending =>
    refine .inr (.inl ⟨.Proceed, rfl, ?_⟩)
    simp only [step, proceed, hpoint]
    split
    · simp
    · split <;> simp
  | Cancel ending =>
    refine .inr (.inl ⟨.Proceed, rfl, ?_⟩)
    cases ending <;> simp [step, proceed, hpoint]
  | SetRead | SetWrite | Register | ClearRead | ClearWrite =>
    exact .inr (.inl ⟨.Proceed, rfl, by simp [step, proceed, hpoint]⟩)

/-- Nothing is waited for once both deadlines have passed. -/
theorem not_waits (hread : s.ReadsOver) (hwrite : Ends write_deadline 0 s) : ¬ s.Waits := by
  rintro (⟨hpoint, -, -, hdeadline, hahead, -⟩ | ⟨hpoint, hdeadline, hahead, -⟩)
  · obtain ⟨d, hd, hbound⟩ := hread.2 (by rw [hpoint]; rfl)
    obtain rfl := Option.some.inj (hdeadline.symm.trans hd)
    omega
  · obtain ⟨d, hd, hbound⟩ := hwrite.2 (by rw [hpoint]; rfl)
    obtain rfl := Option.some.inj (hdeadline.symm.trans hd)
    omega

end Ready

section Fair

variable {states : Nat → Exchanging} {act : Nat → ExchangeAction}

/-- The fair runs of one exchange: the caller and its function get their turn. -/
abbrev FairRun (states : Nat → Exchanging) (act : Nat → ExchangeAction) : Prop :=
  Fair step (fun _ a => a ≠ .Next) (·.free = true) (·.own = true) states act

theorem fair_begins (fair : FairRun states act) (h : (states 0).Invariant) :
    ∃ n, 0 ≤ n ∧ (states n).point.begun = true := by
  have hready : ∀ s : Exchanging, s.Invariant → ¬ s.point.begun = true → ∃ a, a.free = true ∧ s.step a ≠ none := by
    intro s _ hnot
    refine ⟨.Proceed, rfl, ?_⟩
    cases hpoint : s.point with
    | SetRead | SetWrite => simp [step, proceed, hpoint]
    | _ =>
      rw [hpoint] at hnot
      exact absurd rfl hnot
  refine fair.reaches_goal distance (fun h _ hstep => step_invariant h hstep) hready ?_ h
  intro s a s' h hnot hother hstep
  refine step_distance h (fun hpoint => ?_) hother hstep
  rw [hpoint] at hnot
  exact absurd rfl hnot

/-- An exchange both of whose deadlines have passed. -/
structure Overdue (s : Exchanging) : Prop where
  invariant : s.Invariant
  bounded : s.WriteBounded
  reads : s.ReadsOver
  writes : Ends write_deadline 0 s

/-- A fair run returns once both deadlines have passed. -/
theorem fair_returns (fair : FairRun states act) {n : Nat} (h : (states n).Overdue) :
    ∃ m, n ≤ m ∧ (states m).HasReturned := by
  refine fair.reaches_goal distance ?_ ?_ ?_ h
  · exact fun h hother hstep => ⟨step_invariant h.invariant hstep, step_write_bounded h.bounded hstep,
      step_read_ends hother h.reads hstep, step_write_ends hother h.writes hstep⟩
  · intro s h hnot
    obtain hreturned | hready | hwaits := ready h.invariant h.bounded
    · exact absurd hreturned hnot
    · exact hready
    · exact absurd hwaits (not_waits h.reads h.writes)
  · exact fun h _ hother hstep => step_distance h.invariant h.reads.unreadable hother hstep

/-- In a run in which time goes on both deadlines pass. -/
theorem fair_overdue (fair : FairRun states act) (hinv : (states 0).Invariant) (hbounded : (states 0).WriteBounded)
    (htime : ∀ time, ∃ n, time ≤ (states n).now) : ∃ n, (states n).Overdue := by
  obtain ⟨first, -, hbegun⟩ := fair_begins fair hinv
  have hinvs : ∀ n, (states n).Invariant :=
    fun n => fair.invariant (fun h _ hstep => step_invariant h hstep) (Nat.zero_le n) hinv
  have hbounds : ∀ n, (states n).WriteBounded :=
    fun n => fair.invariant (fun h _ hstep => step_write_bounded h hstep) (Nat.zero_le n) hbounded
  obtain ⟨late, hlate⟩ := htime ((states first).now + (states first).current.timeout)
  have hread : ∀ n, first ≤ n → Ends read_deadline ((states first).now + (states first).current.timeout) (states n) :=
    fun n hle => fair.invariant (fun h hother hstep => step_read_ends hother h hstep) hle
      ((hinvs first).read_ends hbegun)
  have hwrite : ∀ n, first ≤ n → Ends write_deadline ((states first).now + (states first).current.timeout) (states n) :=
    fun n hle => fair.invariant (fun h hother hstep => step_write_ends hother h hstep) hle (hbounds first hbegun)
  have hclock : ∀ n, late ≤ n → (states first).now + (states first).current.timeout ≤ (states n).now := by
    intro n hle
    induction n, hle using Nat.le_induction with
    | base => exact hlate
    | succ n _ ih => exact ih.trans (step_now (fair.follows n))
  refine ⟨max first late, hinvs _, hbounds _, ?_, ?_⟩
  · exact (hread _ (Nat.le_max_left _ _)).over (hclock _ (Nat.le_max_right _ _))
  · exact (hwrite _ (Nat.le_max_left _ _)).over (hclock _ (Nat.le_max_right _ _))

end Fair

/-- The function of a context that is done ends the reads. -/
theorem Invariant.interrupted (h : s.Invariant)
    (hhook : s.current.hook = some .Interrupted ∨ s.current.hook = some .Closed) : s.ReadsOver := by
  have hholds := h.holds
  have hwatched : s.Watched → ∃ d, s.read_deadline = some d ∧ d ≤ max 0 s.now := by
    rintro ⟨-, point, hpoint, -, d, hd, -, hlate⟩
    rw [hpoint] at hhook
    have hpassed := hlate (by simpa using hhook)
    exact ⟨d, hd, by omega⟩
  cases hpoint : s.point with
  | SetRead =>
    rw [hpoint] at hholds
    simp [hholds.2] at hhook
  | SetWrite | Register =>
    rw [hpoint] at hholds
    simp [hholds.hook] at hhook
  | Read | Handle | Write =>
    rw [hpoint] at hholds
    exact ⟨by rw [hpoint]; rfl, fun _ => hwatched hholds⟩
  | Stop | Wait | Cancel | ClearRead | ClearWrite | Returned =>
    refine ⟨by rw [hpoint]; rfl, fun htrades => ?_⟩
    rw [hpoint] at htrades
    cases htrades

/-- A backend exchange returns. It waits only for a backend that sends nothing, while
its context is not done, and for one that does not take what it was sent: the
function of a context that is done ends the reads, not a write. Once the reads are
over a bounded number of steps is left, whatever happens around them, and every
fair run in which time goes on gets to the return. -/
theorem exchange_always_returns {timeout : Nat} {timeouts : List Nat} {acts : List ExchangeAction}
    (run : Reaches step (start timeout timeouts) acts s) :
    (s.HasReturned ∨ (∃ a, a.free = true ∧ s.step a ≠ none) ∨ s.Waits) ∧
      (s.current.hook = some .Interrupted ∨ s.current.hook = some .Closed → s.ReadsOver) ∧
      (s.ReadsOver → ∀ later s', Runs step (fun _ a => a ≠ .Next) s later s' →
        later.countP (·.own) ≤ 18 + 3 * s.buffered) ∧
      ∀ states act, FairRun states act → states 0 = s → (∀ time, ∃ n, time ≤ (states n).now) →
        ∃ n, (states n).HasReturned := by
  have hinv := reaches_invariant run
  have hbounded := reaches_write_bounded run
  refine ⟨ready hinv hbounded, hinv.interrupted, fun hover later s' hlater => ?_, ?_⟩
  · have hcount := run_distance hinv hover hlater
    have hfar := distance_le s
    omega
  · rintro states act fair rfl htime
    obtain ⟨n, hoverdue⟩ := fair_overdue fair hinv hbounded htime
    obtain ⟨m, -, hreturned⟩ := fair_returns fair hoverdue
    exact ⟨m, hreturned⟩

/-- Nothing is left to do for an exchange that has returned. -/
theorem returned_rests (h : s.Invariant) (hreturned : s.HasReturned) (hown : a.own = true) : s.step a = none := by
  obtain ⟨result, hpoint⟩ := hreturned
  have hdead : s.current.Dead := by
    have hholds := h.holds
    rw [hpoint] at hholds
    cases result <;> exact hholds.dead
  cases hstep : s.step a with
  | none => rfl
  | some s' =>
    cases step_effect hstep with
    | tick | cancelled | past | received | next => cases hown
    | current hact =>
      have hfree := (act_hookRank hact).2 hown
      obtain hhook | hhook := hdead <;> simp [hhook, hookRank] at hfree
    | proceeded hproceed =>
      rw [proceed, hpoint] at hproceed
      cases hproceed
    | moved hmove =>
      have htrades := hmove.begun.2
      rw [hpoint] at htrades
      cases htrades

theorem own_of_free (h : a.free = true) : a.own = true := by
  cases a <;> first | exact h | rfl

/-- Time goes on after the return, and nothing else. -/
theorem returned_fair (h : s.Invariant) (hreturned : s.HasReturned) :
    FairRun (fun n => { s with now := s.now + n }) (fun _ => .Tick) := by
  refine ⟨fun _ => rfl, by simp, fun n hready => ?_⟩
  obtain ⟨a, hfree, hstep⟩ := hready n (Nat.le_refl n)
  have hinv : Invariant { s with now := s.now + n } :=
    ⟨h.past, h.holds.unchanged rfl rfl rfl (Nat.le_add_right _ _)⟩
  exact absurd (returned_rests hinv hreturned (own_of_free hfree)) hstep

/-- The request is cancelled while the backend does not take a frame. -/
def sampleCancel : List ExchangeAction :=
  [.Proceed, .Proceed, .Proceed, .Receive 1, .Frame, .Reply false, .CancelParent .Canceled, .Current .Propagate,
    .Current .Fire, .Current .Interrupt, .Current .Close]

/-- The write lasts to its deadline. -/
def sampleLater : List ExchangeAction := List.replicate 10 .Tick ++ [.WriteTimeout, .Proceed, .Proceed, .Proceed]

/-- `HasReturned` as a test, for runs that are computed. -/
def hasReturned (s : Exchanging) : Bool :=
  match s.point with
  | .Returned _ => true
  | _ => false

theorem hasReturned_iff : s.hasReturned = true ↔ s.HasReturned := by
  unfold hasReturned HasReturned
  cases s.point <;> simp

/-- What is seen of an exchange that is blocked in a write, with its reads over. -/
def blocked (s : Exchanging) : Bool :=
  decide (s.current.hook = some .Closed) && decide (s.buffered = 0) &&
    decide ((exec step (fun _ a => a ≠ .Next) s sampleLater).map hasReturned = some true)

/-- The context ends while the exchange is blocked in a write, which the backend never
takes and only the deadline ends. -/
theorem exchange_always_returns_after_cancel :
    ∃ s, Reaches step (start 10 []) sampleCancel s ∧ s.ReadsOver ∧
      (∀ later s', Runs step (fun _ a => a ≠ .Next) s later s' → later.countP (·.own) ≤ 18) ∧
      ∃ states act, FairRun states act ∧ states 0 = s ∧ (∀ time, ∃ n, time ≤ (states n).now) ∧
        ∃ n, (states n).HasReturned := by
  have hreached : ∃ s, Reaches step (start 10 []) sampleCancel s ∧ s.blocked = true :=
    Reaches.of_exec blocked (by decide)
  obtain ⟨s, run, hs⟩ := hreached
  simp only [blocked, Bool.and_eq_true, decide_eq_true_eq] at hs
  obtain ⟨⟨hhook, hbuffered⟩, hlater⟩ := hs
  obtain ⟨-, hinterrupted, hbound, hreturns⟩ := exchange_always_returns run
  obtain ⟨last, hlast, hreturned⟩ := Runs.of_exec (fun _ _ => of_decide_eq_true) hasReturned hlater
  have hinv : last.Invariant := hlast.invariant (reaches_invariant run) fun h _ hstep => step_invariant h hstep
  obtain ⟨states, act, fair, hfirst, hafter⟩ :=
    (returned_fair hinv (hasReturned_iff.mp hreturned)).prepend hlast rfl
  have htime : ∀ time, ∃ n, time ≤ (states n).now := fun time => ⟨_, by rw [hafter time]; exact Nat.le_add_left _ _⟩
  have hover := hinterrupted (.inr hhook)
  rw [hbuffered] at hbound
  exact ⟨s, run, hover, hbound hover, states, act, fair, hfirst, htime, hreturns states act fair hfirst htime⟩

end Exchanging

end regiongate.backend
