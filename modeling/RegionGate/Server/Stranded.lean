import RegionGate.Server.Gateway
import RegionGate.Server.OwnAdmission

open regiongate.session regiongate.transfer execution

namespace regiongate.server

/-- The scheduler has taken a session's item and not called `Admit` for it yet. -/
def SchedulerLocation.held (conn : Conn) : SchedulerLocation → Nat
  | .Popped item => if item.admit_callback = some conn then 1 else 0
  | .Calling caller => if caller = conn then 1 else 0
  | _ => 0

namespace Gateway

/-- No other session of the same player takes a step while the session's loop runs,
but one whose deferred `Cancel` has run already: what is left of it then (a
goroutine of `prepareTransfer`, a timer, a call of `Admit`) does no harm. -/
def unshared (conn : Conn) (g : Gateway) : GatewayAction → Bool
  | .Session other _ =>
    other = conn || match g.sessions conn, g.sessions other with
      | some s, some s' => s.location.ended || s'.location.closing || s'.uuid ≠ s.uuid
      | _, _ => true
  | _ => true

/-- The session is alone with its player, and its own `Admit` returns no error while
its loop runs. -/
def admitsPlayer (conn : Conn) (g : Gateway) (a : GatewayAction) : Bool :=
  g.unshared conn a && match a with
    | .Session other action => other ≠ conn || (g.sessions conn).all (·.admittedOrEnded action)
    | _ => true

/-- The session's items in the queue. -/
def waiting (g : Gateway) (conn : Conn) : Nat := g.queue.items.countP (·.admit_callback = some conn)

/-- The places where the one admission of a session can be: in the queue, with the
scheduler, or in a call of `Admit`. -/
def tickets (g : Gateway) (conn : Conn) (s : Limbo) : Nat :=
  g.waiting conn + g.scheduler.held conn + s.calls.length

/-- A session that was queued has one admission, wherever it is. -/
structure Ticketed (cfg : Config) (conn : Conn) (g : Gateway) : Prop where
  absent : g.sessions conn = none → g.waiting conn + g.scheduler.held conn = 0
  admission : ∀ s, g.sessions conn = some s → s.Admission cfg
  atMost : ∀ s, g.sessions conn = some s → g.tickets conn s ≤ s.queued.toNat
  exactly : ∀ s, g.sessions conn = some s → s.location.ended = false → g.tickets conn s = s.queued.toNat

section Step

variable {cfg : Config} {g g' : Gateway} {a : GatewayAction} {conn : Conn} {s s' : Limbo}

theorem Ticketed.single (h : Ticketed cfg conn g) (hsession : g.sessions conn = some s) : s.calls.length ≤ 1 :=
  calc s.calls.length ≤ g.tickets conn s := Nat.le_add_left _ _
    _ ≤ s.queued.toNat := h.atMost s hsession
    _ ≤ 1 := Bool.toNat_le _

theorem start_ticketed (max_size : Int) : Ticketed cfg conn (start max_size) := by
  refine ⟨fun _ => rfl, ?_, ?_, ?_⟩
  all_goals
    intro s hsession
    cases hsession

/-- A step that leaves the session and its admission where they are, or hands the
item from the queue to the scheduler. -/
theorem Ticketed.kept (h : Ticketed cfg conn g) (hsession : g'.sessions conn = g.sessions conn)
    (hplaces : g'.waiting conn + g'.scheduler.held conn = g.waiting conn + g.scheduler.held conn) :
    Ticketed cfg conn g' := by
  refine ⟨?_, ?_, ?_, ?_⟩
  all_goals rw [hsession]
  · rw [hplaces]
    exact h.absent
  · exact h.admission
  · simp only [tickets, hplaces]
    exact h.atMost
  · simp only [tickets, hplaces]
    exact h.exactly

/-- A step of the session itself. -/
theorem Ticketed.moved (hsession : g'.sessions conn = some s') (hadmission : s'.Admission cfg)
    (hatMost : g'.tickets conn s' ≤ s'.queued.toNat)
    (hexactly : s'.location.ended = false → g'.tickets conn s' = s'.queued.toNat) : Ticketed cfg conn g' := by
  refine ⟨?_, ?_, ?_, ?_⟩
  · intro hnone
    rw [hsession] at hnone
    cases hnone
  all_goals
    intro s hs
    obtain rfl : s' = s := Option.some.inj (hsession.symm.trans hs)
    assumption

/-- The admission of a session that has ended may get lost. -/
theorem Ticketed.lost (h : Ticketed cfg conn g) (hsession : g.sessions conn = some s)
    (hended : s.location.ended = true) (hsame : g'.sessions conn = g.sessions conn)
    (hplaces : g'.waiting conn + g'.scheduler.held conn ≤ g.waiting conn + g.scheduler.held conn) :
    Ticketed cfg conn g' := by
  refine .moved (hsame.trans hsession) (h.admission s hsession) ?_ ?_
  · have hatMost := h.atMost s hsession
    unfold tickets at hatMost ⊢
    omega
  · rw [hended]
    nofun

theorem countP_eraseP {α : Type} {l : List α} {p keep : α → Bool} (h : ∀ x ∈ l, p x = true → keep x = false) :
    (l.eraseP p).countP keep = l.countP keep := by
  induction l with
  | nil => rfl
  | cons x rest ih =>
    by_cases hx : p x = true
    · rw [List.eraseP_cons_of_pos hx, List.countP_cons_of_neg (by simp [h x List.mem_cons_self hx])]
    · rw [List.eraseP_cons_of_neg hx, List.countP_cons, List.countP_cons,
        ih fun y hy => h y (List.mem_cons_of_mem _ hy)]

theorem waiting_enqueue {q : AdmissionQueue} {caller : Conn} {id : Bytes} {n : Nat}
    (henqueue : g.queue.enqueue .Background { id, context := some (.Queue caller), admit_callback := some caller } =
      .ok (n, q)) :
    ({ g with queue := q } : Gateway).waiting conn = g.waiting conn + if caller = conn then 1 else 0 := by
  change q.items.countP _ = _
  rw [(queue.FIFO.enqueue_eq_ok henqueue).2.2.1, List.countP_append]
  simp [waiting, List.countP_singleton]

theorem waiting_cancel_le {id : Bytes} :
    ({ g with queue := if cfg.admission_queue then (g.queue.cancel id).2 else g.queue } : Gateway).waiting conn ≤
      g.waiting conn := by
  unfold waiting
  dsimp only
  split
  · rw [queue.FIFO.cancel_items]
    exact List.eraseP_sublist.countP_le
  · exact le_refl _

/-- Another session's step leaves the session's item alone, unless it cancels the
item's identifier. -/
theorem waiting_of_other {q : AdmissionQueue} {action : Action} {other : Conn} (hother : other ≠ conn)
    (hconn : s.conn = other) (heffect : Limbo.QueueEffect cfg g.queue s action q s')
    (hspares : ∀ item ∈ g.queue.items, item.id = s.queue_id → item.admit_callback ≠ some conn) :
    ({ g with queue := q } : Gateway).waiting conn = g.waiting conn := by
  cases heffect with
  | unchanged => rfl
  | enqueued _ _ henqueue => rw [waiting_enqueue henqueue, hconn, if_neg hother, Nat.add_zero]
  | cancelled =>
    unfold waiting
    dsimp only
    split
    · rw [queue.FIFO.cancel_items]
      exact countP_eraseP fun item hitem hid => by simpa using hspares item hitem (by simpa using hid)
    · rfl

theorem waiting_le_of_other {q : AdmissionQueue} {action : Action} {other : Conn} (hother : other ≠ conn)
    (hconn : s.conn = other) (heffect : Limbo.QueueEffect cfg g.queue s action q s') :
    ({ g with queue := q } : Gateway).waiting conn ≤ g.waiting conn := by
  cases heffect with
  | unchanged => exact le_refl _
  | enqueued _ _ henqueue => rw [waiting_enqueue henqueue, hconn, if_neg hother, Nat.add_zero]
  | cancelled => exact waiting_cancel_le

/-- The session's own item enters the queue with it and leaves when it has ended. -/
theorem tickets_of_own {q : AdmissionQueue} {action : Action} (hconn : s.conn = conn)
    (hcalls : s'.calls.length = s.calls.length) (heffect : Limbo.QueueEffect cfg g.queue s action q s')
    (hatMost : g.tickets conn s ≤ s.queued.toNat) :
    ({ g with queue := q }.set conn s').tickets conn s' ≤ s'.queued.toNat ∧
      (s'.location.ended = false → g.tickets conn s = s.queued.toNat →
        ({ g with queue := q }.set conn s').tickets conn s' = s'.queued.toNat) := by
  have htickets : ({ g with queue := q }.set conn s').tickets conn s' =
      ({ g with queue := q } : Gateway).waiting conn + g.scheduler.held conn + s.calls.length := by
    rw [← hcalls]
    rfl
  rw [htickets]
  unfold tickets at hatMost ⊢
  cases heffect with
  | unchanged hqueued =>
    rw [hqueued]
    exact ⟨hatMost, fun _ hexactly => hexactly⟩
  | enqueued hfresh hqueued henqueue =>
    rw [hfresh, Bool.toNat_false] at hatMost
    rw [waiting_enqueue henqueue, hconn, if_pos rfl, hqueued, Bool.toNat_true]
    exact ⟨by omega, fun _ _ => by omega⟩
  | cancelled =>
    refine ⟨le_trans ?_ hatMost, nofun⟩
    exact Nat.add_le_add_right (Nat.add_le_add_right waiting_cancel_le _) _

/-- A session and one of its items agree on the player. -/
theorem uuid_of_item {item : queue.Item Context Conn} (howned : g.Owned) (hsession : g.sessions conn = some s)
    (hitem : item ∈ g.queue.items) (hcallback : item.admit_callback = some conn) (hid : item.id = s'.queue_id) :
    s'.uuid = s.uuid := by
  obtain ⟨owner, s₁, hcallback₁, _, hsession₁, hid₁, _⟩ := howned.items item hitem
  obtain rfl : conn = owner := Option.some.inj (hcallback.symm.trans hcallback₁)
  obtain rfl : s = s₁ := Option.some.inj (hsession.symm.trans hsession₁)
  exact uuid_of_queue_id (hid.symm.trans hid₁)

/-- A session whose deferred `Cancel` has run leaves the queue alone. -/
theorem waiting_of_closing {q : AdmissionQueue} {action : Action} (hclosing : s.location.closing = true)
    (heffect : Limbo.QueueEffect cfg g.queue s action q s') :
    ({ g with queue := q } : Gateway).waiting conn = g.waiting conn := by
  cases heffect with
  | unchanged => rfl
  | enqueued _ _ _ hrunning => exact absurd hclosing (by simp [hrunning.1])
  | cancelled _ hlocation =>
    rw [hlocation] at hclosing
    cases hclosing

/-- A step of another session. It may cancel this one's item only if it shares the
player's identifier. -/
theorem other_ticketed {other : Conn} {action : Action} {q : AdmissionQueue} (howned : g.Owned)
    (h : Ticketed cfg conn g) (hunshared : g.unshared conn (.Session other action) = true) (hother : other ≠ conn)
    (hsession : g.sessions other = some s) (heffect : Limbo.QueueEffect cfg g.queue s action q s') :
    Ticketed cfg conn ({ g with queue := q }.set other s') := by
  have hsame : ({ g with queue := q }.set other s').sessions conn = g.sessions conn :=
    sessions_set_ne (Ne.symm hother)
  have hconn := howned.conn other s hsession
  have hle := waiting_le_of_other hother hconn heffect
  cases hown : g.sessions conn with
  | none =>
    have habsent := h.absent hown
    refine h.kept hsame ?_
    change ({ g with queue := q } : Gateway).waiting conn + g.scheduler.held conn = _
    omega
  | some s₀ =>
    simp only [unshared, hown, hsession, hother, decide_false, Bool.false_or, Bool.or_eq_true, decide_eq_true_eq]
      at hunshared
    obtain (hended | hclosing) | huuid := hunshared
    · exact h.lost hown hended hsame (Nat.add_le_add_right hle _)
    · exact h.kept hsame (congrArg (· + _) (waiting_of_closing hclosing heffect))
    · refine h.kept hsame (congrArg (· + _) (waiting_of_other hother hconn heffect ?_))
      intro item hitem hid hcallback
      exact huuid (uuid_of_item howned hown hitem hcallback hid)

/-- One step: the player has one ticket, which is its item, the scheduler's hand or
its call, or the session has ended. -/
theorem step_ticketed (howned : g.Owned) (h : Ticketed cfg conn g) (hallowed : g.admitsPlayer conn a = true)
    (hstep : g.step cfg a = some g') : Ticketed cfg conn g' := by
  obtain ⟨hunshared, hadmits⟩ := Bool.and_eq_true_iff.mp hallowed
  cases step_effect hstep with
  | @joined other uuid required hfree =>
    by_cases hother : other = conn
    · subst hother
      have hzero : (g.set other (.start other uuid required)).tickets other (.start other uuid required) = 0 :=
        h.absent hfree
      refine .moved sessions_set_self (Limbo.start_admission cfg other uuid required) ?_ fun _ => ?_
      · rw [hzero]
        exact Nat.zero_le _
      · rw [hzero]
        rfl
    · exact h.kept (sessions_set_ne (Ne.symm hother)) rfl
  | @session other action s s' q hsession hcalled hnext =>
    have heffect := Limbo.step_effect hnext
    by_cases hother : other = conn
    · subst hother
      have hpermitted : s.admittedOrEnded action = true := by simpa [hsession] using hadmits
      obtain ⟨hatMost, hexactly⟩ := tickets_of_own (howned.conn _ _ hsession)
        (Limbo.effect_calls_length hcalled heffect) (Limbo.queue_effect heffect) (h.atMost s hsession)
      refine .moved sessions_set_self ?_ hatMost fun hrunning => ?_
      · exact Limbo.effect_admission (h.admission s hsession) (h.single hsession) hpermitted heffect
      · exact hexactly hrunning (h.exactly s hsession (heffect.running hrunning))
    · exact other_ticketed howned h hunshared hother hsession (Limbo.queue_effect heffect)
  | idle => exact h
  | @popped item q hselect hpop =>
    refine h.kept rfl ?_
    simp only [waiting, pop_items hpop, List.countP_cons, hselect, SchedulerLocation.held, decide_eq_true_eq]
    omega
  | @skipped item hpopped hdone =>
    obtain ⟨owner, s, hcallback, hcontext, hsession, _⟩ := howned.popped item hpopped
    by_cases howner : owner = conn
    · subst howner
      have hended : s.location.ended = true := by
        refine (h.admission s hsession).done (.inl ?_)
        simpa [contextDone, hcontext, hsession] using hdone
      exact h.lost hsession hended rfl (Nat.add_le_add_left (Nat.zero_le _) _)
    · exact h.kept rfl (by simp [hpopped, SchedulerLocation.held, hcallback, howner, waiting])
  | calling hpopped hcallback => exact h.kept rfl (by simp [hpopped, SchedulerLocation.held, hcallback, waiting])
  | @not_in_limbo caller hcalling huntracked =>
    by_cases hcaller : caller = conn
    · subst hcaller
      cases hsession : g.sessions caller with
      | none =>
        have habsent := h.absent hsession
        simp [hcalling, SchedulerLocation.held] at habsent
      | some s =>
        have hended := (h.admission s hsession).done (.inr (huntracked s hsession))
        exact h.lost hsession hended rfl (Nat.add_le_add_left (Nat.zero_le _) _)
    · exact h.kept rfl (by simp [hcalling, SchedulerLocation.held, hcaller, waiting])
  | @admitting caller s hcalling hsession htracked =>
    by_cases hcaller : caller = conn
    · subst hcaller
      have heffect : Limbo.Effect cfg g.queue s (.AdmitCalled true) g.queue _ := .admit_called htracked
      have htickets : ∀ {call : AdmitCall}, (set { g with scheduler := .Admitting caller s.calls.length } caller
          { s with calls := s.calls ++ [call] }).tickets caller { s with calls := s.calls ++ [call] } =
          g.tickets caller s := by
        intro call
        change g.waiting caller + 0 + (s.calls ++ [call]).length = g.waiting caller + g.scheduler.held caller + _
        simp only [hcalling, SchedulerLocation.held, List.length_append, List.length_singleton, if_true]
        omega
      refine .moved sessions_set_self ?_ ?_ ?_
      · exact Limbo.effect_admission (h.admission s hsession) (h.single hsession) rfl heffect
      · rw [htickets]
        exact h.atMost s hsession
      · rw [htickets]
        exact h.exactly s hsession
    · refine h.kept (sessions_set_ne (Ne.symm hcaller)) ?_
      change g.waiting conn + 0 = _
      simp [hcalling, SchedulerLocation.held, hcaller]
  | admit_returned hadmitting => exact h.kept rfl (by simp [hadmitting, SchedulerLocation.held, waiting])
  | stopped hselect => exact h.kept rfl (by simp [hselect, SchedulerLocation.held, waiting])

end Step

/-- The scheduler has popped the session's item and its `Admit` has not returned. -/
def AdmissionInProgress (g : Gateway) (conn : Conn) (s : Limbo) : Prop :=
  (∃ item, g.scheduler = .Popped item ∧ item.admit_callback = some conn) ∨ g.scheduler = .Calling conn ∨
    ∃ call ∈ s.calls, ∀ result, call.location ≠ .Returned result

/-- A player in the scheduler's hand is being admitted. -/
theorem inProgress_of_held {g : Gateway} {conn : Conn} {s : Limbo} (h : g.scheduler.held conn ≠ 0) :
    g.AdmissionInProgress conn s := by
  unfold SchedulerLocation.held at h
  split at h
  · rename_i item hpopped
    exact .inl ⟨item, hpopped, by simpa using h⟩
  · rename_i caller hcalling
    obtain rfl : caller = conn := by simpa using h
    exact .inr (.inl hcalling)
  · exact absurd rfl h

/-- In every run in which the session is alone with its player and its own `Admit`
returns no error while its loop runs, a session in Limbo that has passed the
gate is in the queue, or its admission is in progress, or its loop is ending. -/
theorem no_stranded_player {cfg : Config} {max_size : Int} {conn : Conn} {acts : List GatewayAction} {g : Gateway}
    {s : Limbo} (hqueue : cfg.admission_queue = true) (hcoordinator : cfg.transfer_coordinator.isSome = true)
    (run : Runs (step cfg) (fun g a => g.admitsPlayer conn a = true) (start max_size) acts g)
    (hsession : g.sessions conn = some s) (hstate : s.session.state = .LimboPlay)
    (hpassed : s.challenge_passed = true) (hanswered : s.required_keep_alives ≤ s.valid_keep_alives) :
    (∃ item ∈ g.queue.items, item.admit_callback = some conn) ∨ g.AdmissionInProgress conn s ∨
      s.location.ended = true := by
  obtain ⟨_, h⟩ : g.Owned ∧ Ticketed cfg conn g := by
    refine @Runs.invariant _ _ _ _ _ _ _ (fun g => g.Owned ∧ Ticketed cfg conn g) run
      ⟨start_owned max_size, start_ticketed max_size⟩ ?_
    intro g a g' h hallowed hstep
    exact ⟨step_owned h.1 hstep, step_ticketed h.1 h.2 hallowed hstep⟩
  have hadmission := h.admission s hsession
  cases hended : s.location.ended with
  | true => exact .inr (.inr rfl)
  | false =>
    have hqueued : s.queued = true := by
      obtain hqueued | hclosed | hnoqueue | hnone := hadmission.settled.resolve_left (by simp [hended])
      · exact hqueued
      · exact absurd ⟨hpassed, hanswered⟩ hclosed
      · simp [hqueue] at hnoqueue
      · simp [hnone] at hcoordinator
    have hone := h.exactly s hsession hended
    rw [hqueued, Bool.toNat_true, tickets] at hone
    by_cases hwaiting : g.waiting conn = 0
    · refine .inr (.inl ?_)
      by_cases hheld : g.scheduler.held conn = 0
      · obtain ⟨call, hcalls⟩ := List.length_eq_one_iff.mp (show s.calls.length = 1 by omega)
        have hcall : call ∈ s.calls := by simp [hcalls]
        exact .inr (.inr ⟨call, hcall, hadmission.pending hended hstate hcall⟩)
      · exact inProgress_of_held hheld
    · left
      obtain ⟨item, hitem, hcallback⟩ := List.countP_pos_iff.mp (Nat.pos_of_ne_zero hwaiting)
      exact ⟨item, hitem, by simpa using hcallback⟩

/-- The scheduler admits the queued session, and its loop takes the request. -/
def admittedActions (conn : Conn) : List GatewayAction :=
  queuedActions conn ++
    [.Tick, .Check, .Lookup, .Session conn (.AdmitSent 0), .Session conn .Admission]

theorem no_stranded_player_admitted :
    ∃ g s, Runs (step Limbo.sampleConfig) (fun g a => g.admitsPlayer 0 a = true) (start 4) (admittedActions 0) g ∧
      g.sessions 0 = some s ∧ s.session.state = .LimboPlay ∧ s.challenge_passed = true ∧
      s.required_keep_alives ≤ s.valid_keep_alives ∧
      ((∃ item ∈ g.queue.items, item.admit_callback = some 0) ∨ g.AdmissionInProgress 0 s ∨
        s.location.ended = true) := by
  obtain ⟨g, run, hobserved⟩ : ∃ g, Runs (step Limbo.sampleConfig) (fun g a => g.admitsPlayer 0 a = true) (start 4)
      (admittedActions 0) g ∧
      (g.sessions 0).any (fun s => decide (s.session.state = .LimboPlay ∧ s.challenge_passed = true ∧
        s.required_keep_alives ≤ s.valid_keep_alives)) = true :=
    Runs.of_exec (fun _ _ hok => hok) _ (by decide +kernel)
  obtain ⟨s, hsession, hdecided⟩ := (Option.any_eq_true _ _).mp hobserved
  obtain ⟨hstate, hpassed, hanswered⟩ := of_decide_eq_true hdecided
  exact ⟨g, s, run, hsession, hstate, hpassed, hanswered,
    no_stranded_player rfl rfl run hsession hstate hpassed hanswered⟩

/-- The backend cannot be dialed, and the loop gives that error to `Admit`. -/
def failedActions (conn : Conn) : List GatewayAction :=
  admittedActions conn ++
    [.Session conn (.Prepare 0 (.ok [])), .Session conn (.Prepare 0 (.ok [])),
      .Session conn (.Prepare 0 (.error .Dial)), .Session conn (.Prepare 0 (.ok [])),
      .Session conn .PrepareResult, .Session conn (.AdmitReceived 0), .AdmitReturned]

/-- After a failed admission the session is back in Limbo with its loop in the
select, but neither queued nor being admitted; `queued` is still set, so it
will not enter the queue again. -/
theorem failed_admission_strands_player :
    ∃ g s, Reaches (step Limbo.sampleConfig) (start 4) (failedActions 0) g ∧
      g.sessions 0 = some s ∧ s.session.state = .LimboPlay ∧ s.challenge_passed = true ∧
      s.required_keep_alives ≤ s.valid_keep_alives ∧ g.queue.items = [] ∧ ¬ g.AdmissionInProgress 0 s ∧
      s.location = .Select ∧ s.queued = true := by
  obtain ⟨g, run, hobserved⟩ : ∃ g, Reaches (step Limbo.sampleConfig) (start 4) (failedActions 0) g ∧
      (g.sessions 0).any (fun s => decide (s.session.state = .LimboPlay ∧ s.challenge_passed = true ∧
        s.required_keep_alives ≤ s.valid_keep_alives ∧ g.queue.items = [] ∧ g.scheduler = .Select ∧
        s.calls.map (·.location) = [.Returned (some .Dial)] ∧ s.location = .Select ∧ s.queued = true)) = true :=
    Reaches.of_exec _ (by decide +kernel)
  obtain ⟨s, hsession, hdecided⟩ := (Option.any_eq_true _ _).mp hobserved
  obtain ⟨hstate, hpassed, hanswered, hempty, hselect, hcalls, hlocation, hqueued⟩ := of_decide_eq_true hdecided
  refine ⟨g, s, run, hsession, hstate, hpassed, hanswered, hempty, ?_, hlocation, hqueued⟩
  rintro (⟨item, hpopped, _⟩ | hcalling | ⟨call, hcall, hpending⟩)
  · rw [hselect] at hpopped
    cases hpopped
  · rw [hselect] at hcalling
    cases hcalling
  · have hreturned : call.location ∈ s.calls.map (·.location) := List.mem_map_of_mem hcall
    rw [hcalls, List.mem_singleton] at hreturned
    exact hpending _ hreturned

end Gateway

end regiongate.server
