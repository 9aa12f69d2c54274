import RegionGate.Queue.Reference
import RegionGate.Server.KeepAliveTimeout

open regiongate.session regiongate.transfer execution

namespace regiongate.server

/-- Where `Scheduler.Run` stands: in its select, between `Pop` and its look at the
item's context, before `Admit` has found the connection, within `Admit`, or
returned. -/
inductive SchedulerLocation where
  | Select
  | Popped (item : queue.Item Context Conn)
  | Calling (conn : Conn)
  | Admitting (conn : Conn) (call : Nat)
  | Returned
  deriving DecidableEq

/-- The sessions of `serveLimbo` with the queue that they share and its scheduler. -/
structure Gateway where
  queue : AdmissionQueue
  sessions : Conn → Option Limbo
  scheduler : SchedulerLocation

/-- `Join` is a login that reaches `serveLimbo`; the actions from `Tick` on are the
scheduler's. -/
inductive GatewayAction where
  | Join (conn : Conn) (uuid : UUID) (required : Option Int)
  | Session (conn : Conn) (action : Action)
  | Tick
  | Check
  | Lookup
  | AdmitReturned
  | Stop

namespace Gateway

/-- No session has joined, and the scheduler is at its `select`. -/
def start (max_size : Int) : Gateway where
  queue := .new max_size
  sessions := fun _ => none
  scheduler := .Select

/-- The gateway with one session replaced. -/
def set (g : Gateway) (conn : Conn) (s : Limbo) : Gateway :=
  { g with sessions := Function.update g.sessions conn (some s) }

/-- `item.Context.Err() != nil`. -/
def contextDone (g : Gateway) : Option Context → Bool
  | some (.Queue conn) => (g.sessions conn).any (·.queue_done)
  | _ => false

/-- A step of one session. Only the callbacks of queue items call `Admit`. -/
def session_step (cfg : Config) (g : Gateway) (conn : Conn) (s : Limbo) : Action → Option Gateway
  | .AdmitCalled _ => none
  | action => (s.step cfg g.queue action).map fun (queue, s) => { g with queue }.set conn s

/-- `Admit` finds the connection's channel or returns an error at once. -/
def lookup (cfg : Config) (g : Gateway) (conn : Conn) : Option Gateway :=
  match g.sessions conn with
  | none => some { g with scheduler := .Select }
  | some s =>
    if s.tracked then
      (s.step cfg g.queue (.AdmitCalled true)).map fun (queue, s') =>
        { g with queue, scheduler := .Admitting conn s.calls.length }.set conn s'
    else some { g with scheduler := .Select }

/-- One step of a session, of the scheduler, or of a client that joins. -/
def step (cfg : Config) (g : Gateway) : GatewayAction → Option Gateway
  | .Join conn uuid required =>
    if (g.sessions conn).isNone then some (g.set conn (.start conn uuid required)) else none
  | .Session conn action => (g.sessions conn).bind fun s => g.session_step cfg conn s action
  | .Tick =>
    match g.scheduler with
    | .Select =>
      match g.queue.pop with
      | none => some g
      | some (item, queue) => some { g with queue, scheduler := .Popped item }
    | _ => none
  | .Check =>
    match g.scheduler with
    | .Popped item =>
      if g.contextDone item.context then some { g with scheduler := .Select }
      else item.admit_callback.map fun conn => { g with scheduler := .Calling conn }
    | _ => none
  | .Lookup =>
    match g.scheduler with
    | .Calling conn => g.lookup cfg conn
    | _ => none
  | .AdmitReturned =>
    match g.scheduler with
    | .Admitting conn call =>
      match (g.sessions conn).bind (·.calls[call]?) with
      | some { location := .Returned _, .. } => some { g with scheduler := .Select }
      | _ => none
    | _ => none
  | .Stop =>
    match g.scheduler with
    | .Select => some { g with scheduler := .Returned }
    | _ => none

/-- The deferred `Cancel` of a session finds no item of another session under its
identifier. -/
def cancelsOwn (g : Gateway) : GatewayAction → Bool
  | .Session conn (.Proceed _) =>
    match g.sessions conn with
    | none => true
    | some s =>
      !(s.location matches .CancelItem _) ||
        g.queue.items.all fun item => item.id ≠ s.queue_id || item.admit_callback = some conn
  | _ => true

end Gateway

namespace Limbo

/-- What a step does to the admission queue. -/
inductive QueueEffect (cfg : Config) (q : AdmissionQueue) (s : Limbo) (a : Action) :
    AdmissionQueue → Limbo → Prop where
  | unchanged {s' : Limbo} (hqueued : s'.queued = s.queued)
      (hclosing : s'.location.closing = true → s.location.closing = true) : QueueEffect cfg q s a q s'
  | enqueued {q' : AdmissionQueue} {s' : Limbo} {n : Nat} (hfresh : s.queued = false)
      (hqueued : s'.queued = true) (hitem : q.enqueue .Background
        { id := s.queue_id, context := some (.Queue s.conn), admit_callback := some s.conn } = .ok (n, q'))
      (hrunning : s.location.closing = false ∧ s'.location.closing = false)
      (hconfigured : cfg.admission_queue = true) :
    QueueEffect cfg q s a q' s'
  | cancelled {written : Bool} {e : Error} (haction : a = .Proceed written)
      (hlocation : s.location = .CancelItem e) :
    QueueEffect cfg q s a (if cfg.admission_queue then (q.cancel s.queue_id).2 else q)
      { s with location := .CancelContext e }

section Step

variable {cfg : Config} {q q' : AdmissionQueue} {s s' : Limbo} {a : Action}

/-- What a step of a session does to the queue: nothing, add its item, or cancel by
its identifier. -/
theorem queue_effect (heffect : Effect cfg q s a q' s') : QueueEffect cfg q s a q' s' := by
  cases heffect with
  | item_cancelled hlocation => exact .cancelled rfl hlocation
  | answered_enqueued hlocation _ _ henqueues =>
    obtain ⟨n, hitem⟩ := henqueues.item
    exact .enqueued henqueues.fresh rfl hitem ⟨by rw [hlocation]; rfl, rfl⟩ henqueues.configured.1
  | challenge_enqueued hlocation _ henqueues =>
    obtain ⟨n, hitem⟩ := henqueues.item
    have hselect : s.location.closing = false := by rw [hlocation]; rfl
    exact .enqueued henqueues.fresh rfl hitem ⟨hselect, hselect⟩ henqueues.configured.1
  | prepare_failed | transfer_lost | begin_undone | admitted =>
    obtain ⟨_, heq⟩ | ⟨request, _, heq⟩ := respond_cases _ _ _ <;> rw [heq]
    all_goals first | exact .unchanged rfl id | exact .unchanged rfl (by rintro ⟨⟩)
  | answer_unqueued _ _ _ _ hnext => obtain rfl | rfl := hnext <;> exact .unchanged rfl (by rintro ⟨⟩)
  | context_cancelled hlocation | untracked hlocation =>
    exact .unchanged rfl fun _ => by rw [hlocation]; rfl
  | _ => first | exact .unchanged rfl id | exact .unchanged rfl (by rintro ⟨⟩)

/-- A session keeps its connection and its player. -/
theorem effect_identity (heffect : Effect cfg q s a q' s') : s'.conn = s.conn ∧ s'.queue_id = s.queue_id := by
  cases heffect with
  | prepare_failed | transfer_lost | begin_undone | admitted =>
    obtain ⟨_, heq⟩ | ⟨request, _, heq⟩ := respond_cases _ _ _ <;> rw [heq]
    all_goals exact ⟨rfl, rfl⟩
  | answer_unqueued _ _ _ _ hnext => obtain rfl | rfl := hnext <;> exact ⟨rfl, rfl⟩
  | _ => exact ⟨rfl, rfl⟩

end Step

end Limbo

namespace Gateway

/-- An item is that of a session which is in the queue. -/
def OwnedBy (g : Gateway) (item : queue.Item Context Conn) (conn : Conn) (s : Limbo) : Prop :=
  item.admit_callback = some conn ∧ item.context = some (.Queue conn) ∧ g.sessions conn = some s ∧
    item.id = s.queue_id ∧ s.queued = true

/-- Sessions know their connection, and every item in the queue or in the
scheduler's hands has its session. -/
structure Owned (g : Gateway) : Prop where
  conn : ∀ conn s, g.sessions conn = some s → s.conn = conn
  items : ∀ item ∈ g.queue.items, ∃ conn s, g.OwnedBy item conn s
  popped : ∀ item, g.scheduler = .Popped item → ∃ conn s, g.OwnedBy item conn s

section Step

variable {cfg : Config} {g g' : Gateway} {a : GatewayAction} {conn : Conn} {s s' : Limbo}
  {item : queue.Item Context Conn}

/-- The cases of a step that a session takes part in. -/
inductive StepEffect (cfg : Config) (g : Gateway) : GatewayAction → Gateway → Prop where
  | joined {conn : Conn} {uuid : UUID} {required : Option Int} (hfree : g.sessions conn = none) :
    StepEffect cfg g (.Join conn uuid required) (g.set conn (.start conn uuid required))
  | session {conn : Conn} {action : Action} {s s' : Limbo} {queue : AdmissionQueue}
      (hsession : g.sessions conn = some s) (hcalled : ∀ own, action ≠ .AdmitCalled own)
      (hstep : s.step cfg g.queue action = some (queue, s')) :
    StepEffect cfg g (.Session conn action) ({ g with queue }.set conn s')
  | idle (hselect : g.scheduler = .Select) (hempty : g.queue.items = []) : StepEffect cfg g .Tick g
  | popped {item : queue.Item Context Conn} {queue : AdmissionQueue} (hselect : g.scheduler = .Select)
      (hpop : g.queue.pop = some (item, queue)) :
    StepEffect cfg g .Tick { g with queue, scheduler := .Popped item }
  | skipped {item : queue.Item Context Conn} (hpopped : g.scheduler = .Popped item)
      (hdone : g.contextDone item.context = true) : StepEffect cfg g .Check { g with scheduler := .Select }
  | calling {item : queue.Item Context Conn} {conn : Conn} (hpopped : g.scheduler = .Popped item)
      (hcallback : item.admit_callback = some conn) :
    StepEffect cfg g .Check { g with scheduler := .Calling conn }
  | not_in_limbo {conn : Conn} (hcalling : g.scheduler = .Calling conn)
      (huntracked : ∀ s, g.sessions conn = some s → s.tracked = false) :
    StepEffect cfg g .Lookup { g with scheduler := .Select }
  | admitting {conn : Conn} {s : Limbo} (hcalling : g.scheduler = .Calling conn)
      (hsession : g.sessions conn = some s) (htracked : s.tracked = true) :
    StepEffect cfg g .Lookup (set { g with scheduler := .Admitting conn s.calls.length } conn
      { s with calls := s.calls ++ [{
        own := true, cancelled := false, location := .Sending, placed := false, results := [] }] })
  | admit_returned {conn : Conn} {call : Nat} (hadmitting : g.scheduler = .Admitting conn call) :
    StepEffect cfg g .AdmitReturned { g with scheduler := .Select }
  | stopped (hselect : g.scheduler = .Select) : StepEffect cfg g .Stop { g with scheduler := .Returned }

theorem session_step_effect {action : Action} (hsession : g.sessions conn = some s)
    (hstep : g.session_step cfg conn s action = some g') : StepEffect cfg g (.Session conn action) g' := by
  unfold session_step at hstep
  split at hstep
  · cases hstep
  · rename_i hcalled
    obtain ⟨⟨queue, s'⟩, hnext, rfl⟩ := Option.map_eq_some_iff.mp hstep
    exact .session hsession hcalled hnext

theorem lookup_effect (hcalling : g.scheduler = .Calling conn) (hlookup : g.lookup cfg conn = some g') :
    StepEffect cfg g .Lookup g' := by
  unfold lookup at hlookup
  split at hlookup
  · rename_i hnone
    cases hlookup
    exact .not_in_limbo hcalling fun s hs => by simp [hnone] at hs
  · rename_i s hsession
    split at hlookup
    · rename_i htracked
      rw [Limbo.step, if_pos htracked, Option.map_some, Option.some.injEq] at hlookup
      subst hlookup
      exact .admitting hcalling hsession htracked
    · rename_i huntracked
      cases hlookup
      refine .not_in_limbo hcalling fun s' hs' => ?_
      rw [hsession, Option.some.injEq] at hs'
      subst hs'
      simpa using huntracked

theorem step_effect (hstep : g.step cfg a = some g') : StepEffect cfg g a g' := by
  cases a with
  | Join conn uuid required =>
    obtain ⟨hfree, hg'⟩ := Option.ite_none_right_eq_some.mp hstep
    cases hg'
    exact .joined (Option.isNone_iff_eq_none.mp hfree)
  | Session conn action =>
    obtain ⟨s, hsession, hstep⟩ := Option.bind_eq_some_iff.mp hstep
    exact session_step_effect hsession hstep
  | Tick =>
    simp only [step] at hstep
    split at hstep
    · rename_i hselect
      split at hstep
      · rename_i hpop
        cases hstep
        refine .idle hselect ?_
        unfold queue.FIFO.pop at hpop
        split at hpop
        · assumption
        · cases hpop
      · rename_i hpop
        cases hstep
        exact .popped hselect hpop
    · cases hstep
  | Check =>
    simp only [step] at hstep
    split at hstep
    · rename_i hpopped
      split at hstep
      · rename_i hdone
        cases hstep
        exact .skipped hpopped hdone
      · obtain ⟨conn, hcallback, rfl⟩ := Option.map_eq_some_iff.mp hstep
        exact .calling hpopped hcallback
    · cases hstep
  | Lookup =>
    simp only [step] at hstep
    split at hstep
    · rename_i hcalling
      exact lookup_effect hcalling hstep
    · cases hstep
  | AdmitReturned =>
    simp only [step] at hstep
    split at hstep
    · rename_i hadmitting
      split at hstep
      · cases hstep
        exact .admit_returned hadmitting
      · cases hstep
    · cases hstep
  | Stop =>
    simp only [step] at hstep
    split at hstep
    · rename_i hselect
      cases hstep
      exact .stopped hselect
    · cases hstep

theorem start_owned (max_size : Int) : (start max_size).Owned := by
  refine ⟨?_, ?_, ?_⟩
  · intro conn s hsession
    cases hsession
  · intro item hitem
    cases hitem
  · intro item hpopped
    cases hpopped

@[simp] theorem sessions_set_self : (g.set conn s).sessions conn = some s := Function.update_self ..

theorem sessions_set_ne {other : Conn} (hne : other ≠ conn) : (g.set conn s).sessions other = g.sessions other :=
  Function.update_of_ne hne ..

/-- An item keeps its session when only other sessions change or its own one goes
on. -/
theorem OwnedBy.kept {owner : Conn} {old : Limbo} (h : g.OwnedBy item owner old)
    (hkept : conn = owner → s.queue_id = old.queue_id ∧ s.queued = true) :
    ∃ owner' s', (g.set conn s).OwnedBy item owner' s' := by
  obtain ⟨hcallback, hcontext, hsession, hid, hqueued⟩ := h
  by_cases hown : conn = owner
  · subst hown
    obtain ⟨hid', hqueued'⟩ := hkept rfl
    refine ⟨conn, s, hcallback, hcontext, sessions_set_self, ?_, hqueued'⟩
    rw [hid, hid']
  · refine ⟨owner, old, hcallback, hcontext, ?_, hid, hqueued⟩
    rw [sessions_set_ne (Ne.symm hown)]
    exact hsession

/-- The queue after a session's step: its own item may be new, every other one was
there before. -/
theorem mem_of_queueEffect {q q' : AdmissionQueue} {action : Action}
    (heffect : Limbo.QueueEffect cfg q s action q' s') (hitem : item ∈ q'.items) :
    item ∈ q.items ∨ s'.queued = true ∧ item.id = s.queue_id ∧ item.context = some (.Queue s.conn) ∧
      item.admit_callback = some s.conn := by
  cases heffect with
  | unchanged => exact .inl hitem
  | enqueued hfresh hqueued henqueue =>
    rw [(queue.FIFO.enqueue_eq_ok henqueue).2.2.1, List.mem_append, List.mem_singleton] at hitem
    obtain hold | rfl := hitem
    · exact .inl hold
    · exact .inr ⟨hqueued, rfl, rfl, rfl⟩
  | cancelled haction hlocation =>
    split at hitem
    · rw [queue.FIFO.cancel_items] at hitem
      exact .inl (List.mem_of_mem_eraseP hitem)
    · exact .inl hitem

theorem queued_of_queueEffect {q q' : AdmissionQueue} {action : Action}
    (heffect : Limbo.QueueEffect cfg q s action q' s') (hqueued : s.queued = true) : s'.queued = true := by
  cases heffect with
  | unchanged hsame => rwa [hsame]
  | enqueued _ hqueued' => exact hqueued'
  | cancelled => exact hqueued

theorem Owned.set {q : AdmissionQueue} (h : g.Owned) (hconn : s.conn = conn)
    (hkept : ∀ old, g.sessions conn = some old → s.queue_id = old.queue_id ∧ (old.queued = true → s.queued = true))
    (hitems : ∀ item ∈ q.items, item ∈ g.queue.items ∨ s.queued = true ∧ item.id = s.queue_id ∧
      item.context = some (.Queue conn) ∧ item.admit_callback = some conn) :
    ({ g with queue := q }.set conn s).Owned := by
  have hkeeps : ∀ {item owner old}, g.OwnedBy item owner old →
      ∃ owner' s', ({ g with queue := q }.set conn s).OwnedBy item owner' s' := by
    intro item owner old howned
    refine OwnedBy.kept (g := { g with queue := q }) howned fun hown => ?_
    subst hown
    obtain ⟨hid, hqueued⟩ := hkept old howned.2.2.1
    exact ⟨hid, hqueued howned.2.2.2.2⟩
  refine ⟨?_, ?_, ?_⟩
  · intro other s' hs'
    by_cases hother : other = conn
    · subst hother
      rw [sessions_set_self, Option.some.injEq] at hs'
      rw [← hs', hconn]
    · rw [sessions_set_ne hother] at hs'
      exact h.conn other s' hs'
  · intro item hitem
    obtain hold | ⟨hqueued, hid, hcontext, hcallback⟩ := hitems item hitem
    · obtain ⟨owner, old, howned⟩ := h.items item hold
      exact hkeeps howned
    · exact ⟨conn, s, hcallback, hcontext, sessions_set_self, hid, hqueued⟩
  · intro item hpopped
    obtain ⟨owner, old, howned⟩ := h.popped item hpopped
    exact hkeeps howned

theorem Owned.busy {location : SchedulerLocation} (h : g.Owned) (hlocation : ∀ item, location ≠ .Popped item) :
    { g with scheduler := location }.Owned :=
  ⟨h.conn, h.items, fun item hpopped => absurd hpopped (hlocation item)⟩

theorem pop_items {q q' : AdmissionQueue} (hpop : q.pop = some (item, q')) : q.items = item :: q'.items := by
  unfold queue.FIFO.pop at hpop
  split at hpop
  · cases hpop
  · rename_i hitems
    cases hpop
    exact hitems

/-- One step: every item belongs to the session that its callback names. -/
theorem step_owned (h : g.Owned) (hstep : g.step cfg a = some g') : g'.Owned := by
  cases step_effect hstep with
  | joined hfree => exact h.set rfl (fun old hold => by simp [hfree] at hold) fun _ hitem => .inl hitem
  | session hsession hcalled hnext =>
    have heffect := Limbo.step_effect hnext
    obtain ⟨hconn, hid⟩ := Limbo.effect_identity heffect
    have hqueue := Limbo.queue_effect heffect
    refine h.set (hconn.trans (h.conn _ _ hsession)) ?_ ?_
    · intro old hold
      rw [hsession, Option.some.injEq] at hold
      subst hold
      exact ⟨hid, queued_of_queueEffect hqueue⟩
    · intro item hitem
      rw [hid, ← h.conn _ _ hsession]
      exact mem_of_queueEffect hqueue hitem
  | idle => exact h
  | @popped item _ hselect hpop =>
    have hitems := h.items
    rw [pop_items hpop] at hitems
    refine ⟨h.conn, fun other hother => hitems other (List.mem_cons_of_mem _ hother), ?_⟩
    rintro _ ⟨⟩
    exact hitems item List.mem_cons_self
  | @admitting conn s hcalling hsession htracked =>
    have hbusy : ({ g with scheduler := .Admitting conn s.calls.length } : Gateway).Owned := h.busy nofun
    refine hbusy.set ?_ ?_ fun _ hitem => .inl hitem
    · exact h.conn conn s hsession
    intro old hold
    rw [hsession, Option.some.injEq] at hold
    subst hold
    exact ⟨rfl, id⟩
  | _ => exact h.busy nofun

/-- Queue identifiers tell players apart. -/
theorem uuid_of_queue_id (h : s.queue_id = s'.queue_id) : s.uuid = s'.uuid :=
  Subtype.ext (hex.encode_to_string_injective h)

/-- The items of the queue have distinct identifiers, and belong to sessions whose
deferred `Cancel` has not run. -/
structure Live (cfg : Config) (g : Gateway) : Prop where
  represents : ∃ capacity, g.queue.Represents capacity g.queue.items
  configured : g.queue.items ≠ [] → cfg.admission_queue = true
  running : ∀ item conn s, item ∈ g.queue.items → g.OwnedBy item conn s → s.location.closing = false

theorem start_live (max_size : Int) : Live cfg (start max_size) :=
  ⟨⟨_, queue.new_represents max_size⟩, fun hitems => absurd rfl hitems, fun _ _ _ hitem => by cases hitem⟩

/-- A step that puts nothing into the queue and moves no owner past its `Cancel`. -/
theorem Live.kept (h : Live cfg g) (howned : g.Owned) (hqueue : g'.queue = g.queue)
    (hsessions : ∀ conn s', g'.sessions conn = some s' → s'.location.closing = true →
      ∃ s, g.sessions conn = some s ∧ s.location.closing = true) : Live cfg g' := by
  refine ⟨hqueue ▸ h.represents, hqueue ▸ h.configured, fun item conn s' hitem hown => ?_⟩
  rw [hqueue] at hitem
  by_contra hclosing
  obtain ⟨s, hsession, hbefore⟩ := hsessions conn s' hown.2.2.1 (by simpa using hclosing)
  obtain ⟨owner, s₁, hown₁⟩ := howned.items item hitem
  obtain rfl : conn = owner := Option.some.inj (hown.1.symm.trans hown₁.1)
  obtain rfl : s = s₁ := Option.some.inj (hsession.symm.trans hown₁.2.2.1)
  exact absurd (h.running item conn s hitem hown₁) (by simp [hbefore])

theorem closing_of_set (hset : s'.location.closing = true → ∃ s, g.sessions conn = some s ∧ s.location.closing = true) :
    ∀ other s₁, (g.set conn s').sessions other = some s₁ → s₁.location.closing = true →
      ∃ s, g.sessions other = some s ∧ s.location.closing = true := by
  intro other s₁ hs₁ hclosing
  by_cases hother : other = conn
  · subst hother
    rw [sessions_set_self, Option.some.injEq] at hs₁
    subst hs₁
    exact hset hclosing
  · rw [sessions_set_ne hother] at hs₁
    exact ⟨s₁, hs₁, hclosing⟩

/-- A step of a session: it adds an item only while it runs, and removes the items of
its player when its deferred `Cancel` runs. -/
theorem Live.session {action : Action} {q : AdmissionQueue} (h : Live cfg g) (howned : g.Owned)
    (hsession : g.sessions conn = some s) (hid : s'.queue_id = s.queue_id)
    (heffect : Limbo.QueueEffect cfg g.queue s action q s') : Live cfg ({ g with queue := q }.set conn s') := by
  obtain ⟨capacity, hrepresents⟩ := h.represents
  -- the items of the others are those that were there
  have hothers : ∀ item owner s₁, owner ≠ conn → item ∈ q.items →
      ({ g with queue := q }.set conn s').OwnedBy item owner s₁ → s₁.location.closing = false := by
    rintro item owner s₁ howner hmem ⟨hcallback, hcontext, hsession₁, hrest⟩
    rw [sessions_set_ne howner] at hsession₁
    refine h.running item owner s₁ ?_ ⟨hcallback, hcontext, hsession₁, hrest⟩
    obtain hold | ⟨-, -, -, hnew⟩ := mem_of_queueEffect heffect hmem
    · exact hold
    · rw [howned.conn conn s hsession] at hnew
      exact absurd (Option.some.inj (hcallback.symm.trans hnew)) howner
  have hown : ∀ {item s₁}, ({ g with queue := q }.set conn s').OwnedBy item conn s₁ →
      s' = s₁ ∧ item.id = s.queue_id := by
    rintro item s₁ ⟨-, -, hsession₁, hitem, -⟩
    rw [sessions_set_self, Option.some.injEq] at hsession₁
    exact ⟨hsession₁, by rw [hitem, ← hsession₁, hid]⟩
  cases heffect with
  | unchanged hqueued hclosing =>
    exact h.kept howned rfl (closing_of_set fun hclosed => ⟨s, hsession, hclosing hclosed⟩)
  | enqueued hfresh hqueued hitem hrunning hconfigured =>
    have hrepresents' := hrepresents.of_enqueue hitem
    refine ⟨⟨capacity, hrepresents'.items_eq ▸ hrepresents'⟩, fun _ => hconfigured, fun item owner s₁ hmem hs₁ => ?_⟩
    by_cases howner : owner = conn
    · subst howner
      exact (hown hs₁).1 ▸ hrunning.2
    · exact hothers item owner s₁ howner hmem hs₁
  | cancelled haction hlocation =>
    cases hqueue : cfg.admission_queue with
    | false =>
      have hnone : g.queue.items = [] := by
        by_contra hsome
        simp [h.configured hsome] at hqueue
      simp only [hqueue, Bool.false_eq_true, if_false] at hothers ⊢
      exact ⟨⟨capacity, hrepresents⟩, fun hsome => absurd hnone hsome, fun item _ _ hmem => by
        change item ∈ g.queue.items at hmem
        simp [hnone] at hmem⟩
    | true =>
      have hrepresents' := hrepresents.of_cancel s.queue_id
      simp only [hqueue, if_true] at hothers hown ⊢
      refine ⟨⟨capacity, hrepresents'.items_eq ▸ hrepresents'⟩, fun _ => hqueue, fun item owner s₁ hmem hs₁ => ?_⟩
      by_cases howner : owner = conn
      · subst howner
        -- its item, if it was still there, has left with the `Cancel`
        change item ∈ (g.queue.cancel s.queue_id).2.items at hmem
        rw [hrepresents'.items_eq, List.mem_filter] at hmem
        exact absurd (hown hs₁).2 (by simpa using hmem.2)
      · exact hothers item owner s₁ howner hmem hs₁

/-- One step: whoever has an item in the queue has not run its deferred `Cancel`. -/
theorem step_live (h : Live cfg g) (howned : g.Owned) (hstep : g.step cfg a = some g') : Live cfg g' := by
  cases step_effect hstep with
  | joined hfree => exact h.kept howned rfl (closing_of_set (by rintro ⟨⟩))
  | session hsession hcalled hnext =>
    have heffect := Limbo.step_effect hnext
    exact h.session howned hsession (Limbo.effect_identity heffect).2 (Limbo.queue_effect heffect)
  | popped hselect hpop =>
    obtain ⟨capacity, hrepresents⟩ := h.represents
    obtain ⟨rest, hitems, hrest⟩ := hrepresents.of_pop hpop
    have hmore : ∀ {item}, item ∈ _ → item ∈ g.queue.items := fun hmem => pop_items hpop ▸ List.mem_cons_of_mem _ hmem
    exact ⟨⟨capacity, hrest.items_eq ▸ hrest⟩, fun hsome => h.configured (by simp [hitems]),
      fun item conn s hmem hown => h.running item conn s (hmore hmem) hown⟩
  | @admitting conn s hcalling hsession htracked =>
    exact h.kept howned rfl (closing_of_set fun hclosed => ⟨s, hsession, hclosed⟩)
  | idle | skipped | calling | not_in_limbo | admit_returned | stopped =>
    exact h.kept howned rfl fun _ s hs hclosed => ⟨s, hs, hclosed⟩

/-- An item leaves the queue in a step that pops it or in the deferred `Cancel` of
its identifier. -/
theorem left_queue (hstep : g.step cfg a = some g') (hitem : item ∈ g.queue.items)
    (hgone : item ∉ g'.queue.items) :
    (a = .Tick ∧ g'.scheduler = .Popped item) ∨
      ∃ conn s written e, a = .Session conn (.Proceed written) ∧ g.sessions conn = some s ∧
        s.location = .CancelItem e ∧ item.id = s.queue_id := by
  cases step_effect hstep with
  | @session conn action s s' q hsession hcalled hnext =>
    change item ∉ q.items at hgone
    cases Limbo.queue_effect (Limbo.step_effect hnext) with
    | unchanged => exact absurd hitem hgone
    | enqueued _ _ henqueue =>
      rw [(queue.FIFO.enqueue_eq_ok henqueue).2.2.1, List.mem_append] at hgone
      exact absurd (.inl hitem) hgone
    | @cancelled written e haction hlocation =>
      refine .inr ⟨conn, s, written, e, by rw [haction], hsession, hlocation, ?_⟩
      by_contra hother
      split at hgone
      · rw [queue.FIFO.cancel_items, List.mem_eraseP_of_neg (by simpa using hother)] at hgone
        exact hgone hitem
      · exact hgone hitem
  | @popped first q hselect hpop =>
    refine .inl ⟨rfl, ?_⟩
    change item ∉ q.items at hgone
    rw [pop_items hpop, List.mem_cons] at hitem
    rw [hitem.resolve_right hgone]
  | _ => exact absurd hitem hgone

/-- A `Cancel` that is permitted removes the session's own item. -/
theorem callback_of_cancelsOwn {written : Bool} {e : Error}
    (h : g.cancelsOwn (.Session conn (.Proceed written)) = true) (hsession : g.sessions conn = some s)
    (hlocation : s.location = .CancelItem e) (hitem : item ∈ g.queue.items)
    (hid : item.id = s.queue_id) : item.admit_callback = some conn := by
  simp only [cancelsOwn, hsession, hlocation, Bool.not_true, Bool.false_or, List.all_eq_true, Bool.or_eq_true,
    decide_eq_true_eq] at h
  exact (h item hitem).resolve_left fun hother => hother hid

end Step

/-- In every run in which no deferred `Cancel` finds the item of another session, an
item leaves the queue only because the scheduler pops it or because the session
that put it there has ended. -/
theorem item_leaves_with_owner {cfg : Config} {max_size : Int} {acts : List GatewayAction} {g g' : Gateway}
    {a : GatewayAction} (run : Runs (step cfg) (fun g a => g.cancelsOwn a = true) (start max_size) acts g)
    (hallowed : g.cancelsOwn a = true) (hstep : g.step cfg a = some g') {item : queue.Item Context Conn}
    (hitem : item ∈ g.queue.items) (hgone : item ∉ g'.queue.items) :
    ∃ conn s, g.OwnedBy item conn s ∧
      ((a = .Tick ∧ g'.scheduler = .Popped item) ∨
        ∃ written e, a = .Session conn (.Proceed written) ∧ s.location = .CancelItem e) := by
  have howned : g.Owned := run.invariant (start_owned max_size) fun h _ hstep => step_owned h hstep
  obtain ⟨conn, s, hown⟩ := howned.items item hitem
  refine ⟨conn, s, hown, ?_⟩
  obtain hpopped | ⟨other, s', written, e, rfl, hsession, hlocation, hid⟩ := left_queue hstep hitem hgone
  · exact .inl hpopped
  · have hcallback := callback_of_cancelsOwn hallowed hsession hlocation hitem hid
    obtain rfl : conn = other := Option.some.inj (hown.1.symm.trans hcallback)
    obtain rfl : s = s' := Option.some.inj (hown.2.2.1.symm.trans hsession)
    exact .inr ⟨written, e, rfl, hlocation⟩

/-- No two sessions whose deferred `Cancel` has not run are of the same player. -/
def Distinct (g : Gateway) : Prop :=
  ∀ conn other s s', g.sessions conn = some s → g.sessions other = some s' → s.location.closing = false →
    s'.location.closing = false → s.uuid = s'.uuid → conn = other

/-- Distinct players are enough for every deferred `Cancel` to find no item but its
own. -/
theorem cancelsOwn_of_distinct {cfg : Config} {max_size : Int} {acts : List GatewayAction} {g : Gateway}
    (run : Reaches (step cfg) (start max_size) acts g) (hdistinct : g.Distinct) (a : GatewayAction) :
    g.cancelsOwn a = true := by
  obtain ⟨howned, hlive⟩ : g.Owned ∧ Live cfg g := by
    refine @Runs.invariant _ _ _ _ _ _ _ (fun g => g.Owned ∧ Live cfg g) run
      ⟨start_owned max_size, start_live max_size⟩ ?_
    intro g a g' h _ hstep
    exact ⟨step_owned h.1 hstep, step_live h.2 h.1 hstep⟩
  cases a with
  | Session conn action =>
    cases action with
    | Proceed written =>
      cases hsession : g.sessions conn with
      | none => simp [cancelsOwn, hsession]
      | some s =>
        cases hlocation : s.location with
        | CancelItem e =>
          simp only [cancelsOwn, hsession, hlocation, Bool.not_true, Bool.false_or, List.all_eq_true, Bool.or_eq_true,
            decide_eq_true_eq]
          intro item hitem
          by_cases hid : item.id = s.queue_id
          · obtain ⟨owner, s', hown⟩ := howned.items item hitem
            have huuid := uuid_of_queue_id (hid.symm.trans hown.2.2.2.1)
            obtain rfl := hdistinct conn owner s s' hsession hown.2.2.1 (by rw [hlocation]; rfl)
              (hlive.running item owner s' hitem hown) huuid
            exact .inr hown.1
          · exact .inl hid
        | _ => simp [cancelsOwn, hsession, hlocation]
    | _ => rfl
  | _ => rfl

/-- The moves of one session among the others. -/
def sessionActions (conn : Conn) (moves : List Move) : List GatewayAction :=
  moves.filterMap fun
    | .Session action => some (.Session conn action)
    | .Others _ => none

/-- A session that answers its first keepalive and enters the queue. -/
def queuedActions (conn : Conn) : List GatewayAction :=
  .Join conn Limbo.sampleUUID none :: sessionActions conn Limbo.joinMoves ++
    [.Session conn (.Frame (.ok (Limbo.keepAliveFrame 1))), .Session conn (.Proceed true)]

/-- The item of a sample session. -/
def sampleItem (conn : Conn) : queue.Item Context Conn where
  id := hex.encode_to_string Limbo.sampleUUID.val
  context := some (.Queue conn)
  admit_callback := some conn

theorem item_leaves_with_owner_popped :
    ∃ g g', Runs (step Limbo.sampleConfig) (fun g a => g.cancelsOwn a = true) (start 4) (queuedActions 0) g ∧
      g.step Limbo.sampleConfig .Tick = some g' ∧ sampleItem 0 ∈ g.queue.items ∧ sampleItem 0 ∉ g'.queue.items ∧
      ∃ conn s, g.OwnedBy (sampleItem 0) conn s ∧ g'.scheduler = .Popped (sampleItem 0) := by
  obtain ⟨g, run, hobserved⟩ : ∃ g, Runs (step Limbo.sampleConfig) (fun g a => g.cancelsOwn a = true) (start 4)
      (queuedActions 0) g ∧
      (g.step Limbo.sampleConfig .Tick).any (fun g' =>
        decide (sampleItem 0 ∈ g.queue.items ∧ sampleItem 0 ∉ g'.queue.items)) = true :=
    Runs.of_exec (fun _ _ hok => hok) _ (by decide +kernel)
  obtain ⟨g', hstep, hdecided⟩ := (Option.any_eq_true _ _).mp hobserved
  obtain ⟨hitem, hgone⟩ := of_decide_eq_true hdecided
  obtain ⟨conn, s, hown, ⟨_, hpopped⟩ | ⟨_, _, hsession, _⟩⟩ := item_leaves_with_owner run rfl hstep hitem hgone
  · exact ⟨g, g', run, hstep, hitem, hgone, conn, s, hown, hpopped⟩
  · cases hsession

/-- A second session of the same player fails while it joins, and its deferred
`Cancel` removes the item of the first, which is still in its select. -/
theorem second_login_removes_item :
    ∃ g g' s, Reaches (step Limbo.sampleConfig) (start 4)
        (queuedActions 0 ++ [.Join 1 Limbo.sampleUUID none, .Session 1 (.Proceed false)]) g ∧
      g.step Limbo.sampleConfig (.Session 1 (.Proceed true)) = some g' ∧
      sampleItem 0 ∈ g.queue.items ∧ sampleItem 0 ∉ g'.queue.items ∧
      g'.sessions 0 = some s ∧ s.location = .Select ∧ s.queued = true := by
  obtain ⟨g, run, hobserved⟩ : ∃ g, Reaches (step Limbo.sampleConfig) (start 4)
      (queuedActions 0 ++ [.Join 1 Limbo.sampleUUID none, .Session 1 (.Proceed false)]) g ∧
      (g.step Limbo.sampleConfig (.Session 1 (.Proceed true))).any (fun g' =>
        (g'.sessions 0).any fun s => decide (sampleItem 0 ∈ g.queue.items ∧ sampleItem 0 ∉ g'.queue.items ∧
          s.location = .Select ∧ s.queued = true)) = true :=
    Reaches.of_exec _ (by decide +kernel)
  obtain ⟨g', hstep, hsessions⟩ := (Option.any_eq_true _ _).mp hobserved
  obtain ⟨s, hsession, hdecided⟩ := (Option.any_eq_true _ _).mp hsessions
  obtain ⟨hitem, hgone, hselect, hqueued⟩ := of_decide_eq_true hdecided
  exact ⟨g, g', s, run, hstep, hitem, hgone, hsession, hselect, hqueued⟩

end Gateway

end regiongate.server
