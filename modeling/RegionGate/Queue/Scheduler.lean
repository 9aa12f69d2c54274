import RegionGate.Queue.Reference

open execution

namespace regiongate.queue

/-- A callback with the number of the `Enqueue` call that it was passed to, so
that equal items of different calls can be told apart. -/
abbrev Numbered (α : Type) := Nat × α

/-- Where `Scheduler.Run` stands: in its select, between `Pop` and its look at
the item's context, within `Admit`, or returned. -/
inductive RunLocation (ι : Type) where
  | Select
  | Popped (item : ι)
  | Admitting (item : ι)
  | Returned
  deriving DecidableEq

/-- The history of a queue with its scheduler. `Cancelled` is a call of `Cancel`
that returned true, with the item it removed; `Popped` records the error of
the item's context at that time. -/
inductive Event (ι : Type) where
  | Enqueued (item : ι)
  | Cancelled (item : ι)
  | Popped (item : ι) (err : Option Error)
  | Skipped (item : ι) (err : Error)
  | Admitted (item : ι)
  | AdmitReturned (item : ι) (err : Option Error)
  deriving DecidableEq

/-- A queue, its scheduler and the errors of the contexts that are done. -/
structure System (χ α : Type) where
  fifo : FIFO χ (Numbered α)
  requests : Nat
  errs : χ → Option Error
  location : RunLocation (Item χ (Numbered α))
  log : List (Event (Item χ (Numbered α)))

/-- What can happen next: calls of the queue by anyone, a context that ends, and
the steps of the scheduler. -/
inductive Action (χ α : Type) where
  | Enqueue (id : Bytes) (context : Option χ) (admit_callback : Option α)
  | Cancel (id : Bytes)
  | ContextDone (context : χ) (err : Error)
  | Tick
  | Check
  | AdmitReturns (err : Option Error)
  | Stop

namespace System

variable {χ α : Type}

/-- An empty queue, and the scheduler at its `select`. -/
def start (max_size : Int) : System χ α where
  fifo := .new max_size
  requests := 0
  errs := fun _ => none
  location := .Select
  log := []

/-- `item.Context.Err()`. -/
def contextErr (s : System χ α) (item : Item χ (Numbered α)) : Option Error := item.context.bind s.errs

/-- The atomic steps. A context keeps its first error, and the scheduler's ticker
case with an empty queue goes back to its select. -/
def step [DecidableEq χ] (background : χ) (s : System χ α) : Action χ α → Option (System χ α)
  | .Enqueue id context admit_callback =>
    let item : Item χ (Numbered α) := { id, context, admit_callback := admit_callback.map (s.requests, ·) }
    match s.fifo.enqueue background item with
    | .error _ => some { s with requests := s.requests + 1 }
    | .ok (_, fifo) =>
      some { s with
        fifo, requests := s.requests + 1, log := s.log ++ [.Enqueued (item.stored background)] }
  | .Cancel id =>
    let (removed, fifo) := s.fifo.cancel id
    let items := if removed then s.fifo.items.find? (·.id = id) else none
    some { s with fifo, log := s.log ++ items.toList.map .Cancelled }
  | .ContextDone context err =>
    some { s with errs := fun c => if c = context ∧ (s.errs c).isNone then some err else s.errs c }
  | .Tick =>
    match s.location with
    | .Select =>
      match s.fifo.pop with
      | none => some s
      | some (item, fifo) =>
        some { s with fifo, location := .Popped item, log := s.log ++ [.Popped item (s.contextErr item)] }
    | _ => none
  | .Check =>
    match s.location with
    | .Popped item =>
      match s.contextErr item with
      | some err => some { s with location := .Select, log := s.log ++ [.Skipped item err] }
      | none => some { s with location := .Admitting item, log := s.log ++ [.Admitted item] }
    | _ => none
  | .AdmitReturns err =>
    match s.location with
    | .Admitting item => some { s with location := .Select, log := s.log ++ [.AdmitReturned item err] }
    | _ => none
  | .Stop =>
    match s.location with
    | .Select => some { s with location := .Returned }
    | _ => none

end System

section Histories

variable {ι : Type}

/-- The item that entered the queue. -/
def Event.enqueued : Event ι → Option ι
  | .Enqueued item => some item
  | _ => none

/-- The item whose `Admit` was called. -/
def Event.admitted : Event ι → Option ι
  | .Admitted item => some item
  | _ => none

/-- Processing an item is calling its `Admit` or skipping it. -/
def Event.processed : Event ι → Option ι
  | .Admitted item | .Skipped item _ => some item
  | _ => none

/-- The successful enqueues, in their order. -/
def enqueued (log : List (Event ι)) : List ι := log.filterMap Event.enqueued

/-- The items whose `Admit` was called, in order. -/
def admitted (log : List (Event ι)) : List ι := log.filterMap Event.admitted

/-- The items that the scheduler has taken from the queue, in order. -/
def processed (log : List (Event ι)) : List ι := log.filterMap Event.processed

/-- The item that has been popped and not processed yet. -/
def RunLocation.popped : RunLocation ι → List ι
  | .Popped item => [item]
  | _ => []

end Histories

/-- `Enqueue` accepts only items with a callback. -/
theorem enqueue_callback {χ α : Type} {background : χ} {q q' : FIFO χ α} {item : Item χ α} {n : Nat}
    (h : q.enqueue background item = .ok (n, q')) : ∃ callback, item.admit_callback = some callback := by
  unfold FIFO.enqueue at h
  split at h
  · cases h
  · rename_i hvalid
    rw [not_or, Option.isNone_iff_eq_none] at hvalid
    exact Option.ne_none_iff_exists'.mp hvalid.2

/-- `Cancel` removes an item or does nothing. -/
theorem cancel_cases {χ α : Type} (q : FIFO χ α) (id : Bytes) :
    ((q.cancel id).1 = false ∧ (q.cancel id).2 = q) ∨
      ((q.cancel id).1 = true ∧ ∃ item ∈ q.items, item.id = id ∧ q.items.find? (·.id = id) = some item) := by
  unfold FIFO.cancel
  split
  · rename_i hany
    cases hfind : q.items.find? (·.id = id) with
    | none =>
      rw [List.find?_eq_none] at hfind
      obtain ⟨item, hitem, hid⟩ := List.any_eq_true.mp hany
      exact absurd hid (hfind item hitem)
    | some item => exact .inr ⟨rfl, item, List.mem_of_find?_eq_some hfind, by simpa using List.find?_some hfind, rfl⟩
  · exact .inl ⟨rfl, rfl⟩

namespace System

variable {χ α : Type}

/-- Everything a step can do. -/
inductive Effect (background : χ) (s : System χ α) : System χ α → Prop where
  | refused {requests : Nat} (hrequests : s.requests ≤ requests) : Effect background s { s with requests }
  | enqueued {item : Item χ (Numbered α)} {callback : α} {n : Nat} {fifo : FIFO χ (Numbered α)}
      (hnumber : item.admit_callback = some (s.requests, callback))
      (henqueue : s.fifo.enqueue background item = .ok (n, fifo)) :
    Effect background s
      { s with fifo, requests := s.requests + 1, log := s.log ++ [.Enqueued (item.stored background)] }
  | cancelled {item : Item χ (Numbered α)} (hitem : item ∈ s.fifo.items) :
    Effect background s
      { s with fifo := (s.fifo.cancel item.id).2, log := s.log ++ [.Cancelled item] }
  | context_done {errs : χ → Option Error} (herrs : ∀ c err, s.errs c = some err → errs c = some err) :
    Effect background s { s with errs }
  | popped {item : Item χ (Numbered α)} {fifo : FIFO χ (Numbered α)} (hlocation : s.location = .Select)
      (hpop : s.fifo.pop = some (item, fifo)) :
    Effect background s
      { s with fifo, location := .Popped item, log := s.log ++ [.Popped item (s.contextErr item)] }
  | skipped {item : Item χ (Numbered α)} {err : Error} (hlocation : s.location = .Popped item)
      (herr : s.contextErr item = some err) :
    Effect background s { s with location := .Select, log := s.log ++ [.Skipped item err] }
  | admitted {item : Item χ (Numbered α)} (hlocation : s.location = .Popped item)
      (hlive : s.contextErr item = none) :
    Effect background s { s with location := .Admitting item, log := s.log ++ [.Admitted item] }
  | returned {item : Item χ (Numbered α)} {err : Option Error} (hlocation : s.location = .Admitting item) :
    Effect background s { s with location := .Select, log := s.log ++ [.AdmitReturned item err] }
  | stopped (hlocation : s.location = .Select) : Effect background s { s with location := .Returned }

section Step

variable {background : χ} {capacity : Nat} {s s' : System χ α} {a : Action χ α}

theorem step_effect [DecidableEq χ] (h : s.step background a = some s') : Effect background s s' := by
  cases a with
  | Enqueue id context admit_callback =>
    simp only [step] at h
    split at h
    · cases h
      exact .refused (Nat.le_succ _)
    · rename_i henqueue
      cases h
      obtain ⟨callback, hcallback⟩ := enqueue_callback henqueue
      obtain ⟨callback, _, rfl⟩ := Option.map_eq_some_iff.mp hcallback
      exact .enqueued hcallback henqueue
  | Cancel id =>
    simp only [step, Option.some.injEq] at h
    subst h
    obtain ⟨hremoved, hsame⟩ | ⟨hremoved, item, hitem, rfl, hfind⟩ := cancel_cases s.fifo id
    · rw [hremoved, hsame]
      have hnothing : Effect background s { s with requests := s.requests } := .refused (le_refl _)
      simpa using hnothing
    · rw [hremoved, if_pos rfl, hfind]
      exact .cancelled hitem
  | ContextDone context err =>
    simp only [step, Option.some.injEq] at h
    subst h
    exact .context_done fun c first hfirst => by simp [hfirst]
  | Tick =>
    simp only [step] at h
    split at h
    · rename_i hlocation
      split at h
      · cases h
        exact .refused (le_refl s.requests)
      · rename_i hpop
        cases h
        exact .popped hlocation hpop
    · cases h
  | Check =>
    simp only [step] at h
    split at h
    · rename_i hlocation
      split at h
      · rename_i herr
        cases h
        exact .skipped hlocation herr
      · rename_i hlive
        cases h
        exact .admitted hlocation hlive
    · cases h
  | AdmitReturns err =>
    simp only [step] at h
    split at h
    · rename_i hlocation
      cases h
      exact .returned hlocation
    · cases h
  | Stop =>
    simp only [step] at h
    split at h
    · rename_i hlocation
      cases h
      exact .stopped hlocation
    · cases h

/-- What has been processed, what has been popped and what waits are, one after
the other, a subsequence of the successful enqueues. -/
structure Order (capacity : Nat) (s : System χ α) : Prop where
  represents : s.fifo.Represents capacity s.fifo.items
  numbered : ∀ item ∈ enqueued s.log, ∃ n callback, item.admit_callback = some (n, callback) ∧ n < s.requests
  distinct : (enqueued s.log).Nodup
  sublist : (processed s.log ++ s.location.popped ++ s.fifo.items).Sublist (enqueued s.log)

/-- Nothing is processed twice or processed while it waits. -/
theorem Order.nodup (h : s.Order capacity) :
    (processed s.log ++ s.location.popped ++ s.fifo.items).Nodup :=
  h.distinct.sublist h.sublist

theorem Order.waiting_sublist (h : s.Order capacity) : s.fifo.items.Sublist (enqueued s.log) :=
  (List.sublist_append_right _ _).trans h.sublist

/-- A new item has a number that no earlier one has. -/
theorem Order.fresh (h : s.Order capacity) {item : Item χ (Numbered α)} {callback : α}
    (hnumber : item.admit_callback = some (s.requests, callback)) : item ∉ enqueued s.log := by
  intro hmem
  obtain ⟨n, other, hother, hn⟩ := h.numbered item hmem
  rw [hnumber, Option.some.injEq, Prod.mk.injEq] at hother
  omega

/-- A step after which nothing waits that did not wait before. -/
theorem Order.kept {events : List (Event (Item χ (Numbered α)))} (h : s.Order capacity)
    (hrepresents : s'.fifo.Represents capacity s'.fifo.items) (hrequests : s.requests ≤ s'.requests)
    (hlog : s'.log = s.log ++ events) (henqueued : enqueued events = [])
    (hsublist : (processed events ++ s'.location.popped ++ s'.fifo.items).Sublist
      (s.location.popped ++ s.fifo.items)) : s'.Order capacity := by
  have hsame : enqueued s'.log = enqueued s.log := by
    rw [hlog, enqueued, List.filterMap_append]
    exact (congrArg _ henqueued).trans (List.append_nil _)
  have hprocessed : processed s'.log = processed s.log ++ processed events := by
    rw [hlog, processed, List.filterMap_append]
    rfl
  refine ⟨hrepresents, ?_, ?_, ?_⟩
  · rw [hsame]
    intro item hitem
    obtain ⟨n, callback, hnumber, hn⟩ := h.numbered item hitem
    exact ⟨n, callback, hnumber, hn.trans_le hrequests⟩
  · rw [hsame]
    exact h.distinct
  · rw [hsame, hprocessed, List.append_assoc, List.append_assoc]
    refine List.Sublist.trans ?_ h.sublist
    rw [List.append_assoc]
    exact (List.Sublist.refl _).append (by rwa [← List.append_assoc])

/-- One step keeps the order: what has been processed, what is popped and what waits
are, in this sequence, what was enqueued and not cancelled. -/
theorem effect_order (h : s.Order capacity) (heffect : Effect background s s') : s'.Order capacity := by
  cases heffect with
  | refused hrequests =>
    exact h.kept h.represents hrequests (List.append_nil _).symm rfl (List.Sublist.refl _)
  | context_done =>
    exact h.kept h.represents (le_refl _) (List.append_nil _).symm rfl (List.Sublist.refl _)
  | @enqueued item callback n fifo hnumber henqueue =>
    have hrepresents := h.represents.of_enqueue henqueue
    have hnew : item.stored background ∉ enqueued s.log := h.fresh hnumber
    have henqueued : enqueued (s.log ++ [.Enqueued (item.stored background)]) =
        enqueued s.log ++ [item.stored background] := List.filterMap_append
    refine ⟨hrepresents.items_eq ▸ hrepresents, ?_, ?_, ?_⟩
    · rw [henqueued]
      intro other hother
      obtain hother | hother := List.mem_append.mp hother
      · obtain ⟨n, callback, hn, hlt⟩ := h.numbered other hother
        exact ⟨n, callback, hn, hlt.trans (Nat.lt_succ_self _)⟩
      · rw [List.mem_singleton.mp hother]
        exact ⟨s.requests, callback, hnumber, Nat.lt_succ_self _⟩
    · rw [henqueued]
      exact List.nodup_append.mpr ⟨h.distinct, List.nodup_singleton _, by
        rintro other hother _ hsame rfl
        exact hnew (List.mem_singleton.mp hsame ▸ hother)⟩
    · have hprocessed : processed (s.log ++ [.Enqueued (item.stored background)]) = processed s.log :=
        List.filterMap_append.trans (List.append_nil _)
      rw [henqueued, hprocessed, hrepresents.items_eq, ← List.append_assoc]
      exact h.sublist.append (List.Sublist.refl _)
  | @cancelled item hitem =>
    have hrepresents := h.represents.of_cancel item.id
    refine h.kept (hrepresents.items_eq ▸ hrepresents) (le_refl _) rfl rfl ?_
    change ([] ++ s.location.popped ++ (s.fifo.cancel item.id).2.items).Sublist _
    rw [hrepresents.items_eq]
    exact (List.Sublist.refl _).append List.filter_sublist
  | popped hlocation hpop =>
    obtain ⟨rest, hitems, hrepresents⟩ := h.represents.of_pop hpop
    refine h.kept (hrepresents.items_eq ▸ hrepresents) (le_refl _) rfl rfl ?_
    rw [hlocation, hitems, hrepresents.items_eq]
    exact List.Sublist.refl _
  | skipped hlocation | admitted hlocation =>
    refine h.kept h.represents (le_refl _) rfl rfl ?_
    rw [hlocation]
    exact List.Sublist.refl _
  | returned hlocation =>
    refine h.kept h.represents (le_refl _) rfl rfl ?_
    rw [hlocation]
    exact List.Sublist.refl _
  | stopped hlocation =>
    refine h.kept h.represents (le_refl _) (List.append_nil _).symm rfl ?_
    rw [hlocation]
    exact List.Sublist.refl _

/-- A cancelled item has left the queue for good. -/
structure Cancels (s : System χ α) : Prop where
  gone : ∀ item, .Cancelled item ∈ s.log → item ∈ enqueued s.log ∧ item ∉ s.location.popped ++ s.fifo.items
  unprocessed : Every (fun before event => ∀ item, event.processed = some item →
    .Cancelled item ∉ before) s.log

theorem Cancels.kept {event : Event (Item χ (Numbered α))} (h : s.Cancels) (hlog : s'.log = s.log ++ [event])
    (hevent : ∀ item, event ≠ .Cancelled item)
    (hwaiting : ∀ item ∈ s'.location.popped ++ s'.fifo.items, item ∈ s.location.popped ++ s.fifo.items)
    (hprocessed : ∀ item, event.processed = some item → item ∈ s.location.popped) : s'.Cancels := by
  refine ⟨?_, ?_⟩
  · intro item hitem
    rw [hlog, List.mem_append, List.mem_singleton] at hitem
    obtain hitem | hitem := hitem
    · obtain ⟨henqueued, hgone⟩ := h.gone item hitem
      refine ⟨?_, fun hmem => hgone (hwaiting item hmem)⟩
      rw [hlog, enqueued, List.filterMap_append]
      exact List.mem_append_left _ henqueued
    · exact absurd hitem.symm (hevent item)
  · rw [hlog, every_snoc]
    refine ⟨h.unprocessed, fun item hitem hcancelled => ?_⟩
    exact (h.gone item hcancelled).2 (List.mem_append_left _ (hprocessed item hitem))

/-- One step: whatever was cancelled does not come back. -/
theorem effect_cancels (horder : s.Order capacity) (h : s.Cancels) (heffect : Effect background s s') :
    s'.Cancels := by
  cases heffect with
  | refused | context_done => exact ⟨h.gone, h.unprocessed⟩
  | @enqueued item callback n fifo hnumber henqueue =>
    have hitems := (horder.represents.of_enqueue henqueue).items_eq
    have hnew : item.stored background ∉ enqueued s.log := horder.fresh hnumber
    refine ⟨?_, every_snoc.mpr ⟨h.unprocessed, nofun⟩⟩
    intro other hother
    rw [List.mem_append, List.mem_singleton] at hother
    obtain hother | hother := hother
    · obtain ⟨henqueued, hgone⟩ := h.gone other hother
      refine ⟨?_, ?_⟩
      · rw [enqueued, List.filterMap_append]
        exact List.mem_append_left _ henqueued
      · rw [hitems, ← List.append_assoc, List.mem_append, List.mem_singleton, not_or]
        exact ⟨hgone, fun hsame => hnew (hsame ▸ henqueued)⟩
    · cases hother
  | @cancelled item hitem =>
    have hitems := (horder.represents.of_cancel item.id).items_eq
    have hsubset : ∀ other ∈ s.location.popped ++ (s.fifo.cancel item.id).2.items,
        other ∈ s.location.popped ++ s.fifo.items := by
      intro other hother
      rw [hitems, List.mem_append, List.mem_filter] at hother
      exact List.mem_append.mpr (hother.imp_right And.left)
    refine ⟨?_, every_snoc.mpr ⟨h.unprocessed, nofun⟩⟩
    intro other hother
    rw [List.mem_append, List.mem_singleton] at hother
    have hsame : enqueued (s.log ++ [.Cancelled item]) = enqueued s.log :=
      List.filterMap_append.trans (List.append_nil _)
    rw [hsame]
    obtain hother | hother := hother
    · obtain ⟨henqueued, hgone⟩ := h.gone other hother
      exact ⟨henqueued, fun hmem => hgone (hsubset other hmem)⟩
    · cases hother
      -- The removed item occurs once in what was popped and what waits.
      refine ⟨horder.sublist.subset (List.mem_append_right _ hitem), ?_⟩
      have hnodup := horder.nodup
      rw [List.append_assoc] at hnodup
      have hdisjoint := List.disjoint_of_nodup_append (List.nodup_append.mp hnodup).2.1
      rw [hitems, List.mem_append, List.mem_filter, not_or]
      exact ⟨fun hpopped => hdisjoint hpopped hitem, by simp⟩
  | popped hlocation hpop =>
    obtain ⟨rest, hitems, hrepresents⟩ := horder.represents.of_pop hpop
    refine h.kept rfl nofun ?_ nofun
    rw [hlocation, hitems, hrepresents.items_eq]
    exact fun _ hmem => hmem
  | skipped hlocation | admitted hlocation =>
    refine h.kept rfl nofun ?_ ?_
    · exact fun _ hmem => List.mem_append_right _ hmem
    · rintro other ⟨⟩
      rw [hlocation]
      exact List.mem_singleton_self _
  | returned hlocation =>
    exact h.kept rfl nofun (fun _ hmem => List.mem_append_right _ hmem) nofun
  | stopped hlocation =>
    refine ⟨fun item hitem => ?_, h.unprocessed⟩
    obtain ⟨henqueued, hgone⟩ := h.gone item hitem
    exact ⟨henqueued, fun hmem => hgone (List.mem_append_right _ hmem)⟩

/-- An `Admit` that has not returned is the one that the scheduler is in. -/
structure Alone (s : System χ α) : Prop where
  returned : ∀ item, .Admitted item ∈ s.log →
    (∃ err, .AdmitReturned item err ∈ s.log) ∨ s.location = .Admitting item
  started : Every (fun before event => ∀ item, event = .Admitted item → ∀ other, .Admitted other ∈ before →
    ∃ err, .AdmitReturned other err ∈ before) s.log

theorem Alone.idle (h : s.Alone) (hlocation : ∀ item, s.location ≠ .Admitting item) :
    ∀ item, .Admitted item ∈ s.log → ∃ err, .AdmitReturned item err ∈ s.log :=
  fun item hitem => (h.returned item hitem).resolve_right (hlocation item)

theorem Alone.kept {event : Event (Item χ (Numbered α))} (h : s.Alone) (hlog : s'.log = s.log ++ [event])
    (hevent : ∀ item, event ≠ .Admitted item)
    (hlocation : ∀ item, s.location = .Admitting item → s'.location = .Admitting item) : s'.Alone := by
  refine ⟨?_, ?_⟩
  · intro item hitem
    rw [hlog, List.mem_append, List.mem_singleton] at hitem
    obtain hitem | hitem := hitem
    · obtain ⟨err, herr⟩ | hadmitting := h.returned item hitem
      · exact .inl ⟨err, hlog ▸ List.mem_append_left _ herr⟩
      · exact .inr (hlocation item hadmitting)
    · exact absurd hitem.symm (hevent item)
  · rw [hlog, every_snoc]
    exact ⟨h.started, fun item hitem => absurd hitem (hevent item)⟩

/-- One step: `Admit` is called when every earlier call has returned. -/
theorem effect_alone (h : s.Alone) (heffect : Effect background s s') : s'.Alone := by
  cases heffect with
  | refused | context_done => exact ⟨h.returned, h.started⟩
  | enqueued | cancelled => exact h.kept rfl nofun fun _ hlocation => hlocation
  | popped hlocation | skipped hlocation =>
    refine h.kept rfl nofun fun item hadmitting => ?_
    cases hlocation.symm.trans hadmitting
  | @admitted item hlocation =>
    have hidle := h.idle fun other hadmitting => nomatch hlocation.symm.trans hadmitting
    refine ⟨?_, every_snoc.mpr ⟨h.started, fun _ _ => hidle⟩⟩
    intro other hother
    rw [List.mem_append, List.mem_singleton] at hother
    obtain hother | hother := hother
    · obtain ⟨err, herr⟩ := hidle other hother
      exact .inl ⟨err, List.mem_append_left _ herr⟩
    · cases hother
      exact .inr rfl
  | @returned item err hlocation =>
    refine ⟨?_, every_snoc.mpr ⟨h.started, nofun⟩⟩
    intro other hother
    rw [List.mem_append, List.mem_singleton] at hother
    obtain hother | hother := hother
    · left
      obtain ⟨err', herr⟩ | hadmitting := h.returned other hother
      · exact ⟨err', List.mem_append_left _ herr⟩
      · cases hlocation.symm.trans hadmitting
        exact ⟨err, List.mem_append_right _ (List.mem_singleton_self _)⟩
    · cases hother
  | stopped hlocation =>
    refine ⟨fun item hitem => ?_, h.started⟩
    exact .inl (h.idle (fun other hadmitting => nomatch hlocation.symm.trans hadmitting) item hitem)

/-- What the history says about the contexts of the items. -/
structure Contexts (s : System χ α) : Prop where
  popped : ∀ item err, .Popped item (some err) ∈ s.log → s.contextErr item = some err
  skipped : ∀ item err, .Skipped item err ∈ s.log → s.contextErr item = some err
  live : Every (fun before event => ∀ item, event = .Admitted item → ∀ err, .Popped item (some err) ∉ before)
    s.log

/-- A context that is done stays so, with its error. -/
theorem contextErr_mono (herrs : ∀ c err, s.errs c = some err → s'.errs c = some err)
    {item : Item χ (Numbered α)} {err : Error} (h : s.contextErr item = some err) :
    s'.contextErr item = some err := by
  unfold contextErr at h ⊢
  obtain ⟨c, hc, herr⟩ := Option.bind_eq_some_iff.mp h
  exact Option.bind_eq_some_iff.mpr ⟨c, hc, herrs c err herr⟩

theorem Contexts.kept {event : Event (Item χ (Numbered α))} (h : s.Contexts) (hlog : s'.log = s.log ++ [event])
    (herrs : s'.errs = s.errs)
    (hdone : ∀ item err, event = .Popped item (some err) ∨ event = .Skipped item err →
      s.contextErr item = some err)
    (hlive : ∀ item, event = .Admitted item → s.contextErr item = none) : s'.Contexts := by
  have hcontext : ∀ {item err}, s.contextErr item = some err → s'.contextErr item = some err :=
    contextErr_mono fun c err hc => by rw [herrs]; exact hc
  refine ⟨?_, ?_, ?_⟩
  · intro item err hitem
    rw [hlog, List.mem_append, List.mem_singleton] at hitem
    exact hcontext (hitem.elim (h.popped item err) fun heq => hdone item err (.inl heq.symm))
  · intro item err hitem
    rw [hlog, List.mem_append, List.mem_singleton] at hitem
    exact hcontext (hitem.elim (h.skipped item err) fun heq => hdone item err (.inr heq.symm))
  · rw [hlog, every_snoc]
    refine ⟨h.live, fun item hitem err hpop => ?_⟩
    have hnone := hlive item hitem
    rw [h.popped item err hpop] at hnone
    cases hnone

/-- One step: items are skipped for contexts that are done, and admitted under open
ones. -/
theorem effect_contexts (h : s.Contexts) (heffect : Effect background s s') : s'.Contexts := by
  cases heffect with
  | refused | stopped => exact ⟨h.popped, h.skipped, h.live⟩
  | context_done herrs =>
    exact ⟨fun item err hitem => contextErr_mono herrs (h.popped item err hitem),
      fun item err hitem => contextErr_mono herrs (h.skipped item err hitem), h.live⟩
  | enqueued | cancelled | returned => exact h.kept rfl rfl (by simp) nofun
  | popped hlocation hpop =>
    refine h.kept rfl rfl ?_ nofun
    rintro item err (heq | heq)
    · rw [Event.Popped.injEq] at heq
      rw [← heq.1]
      exact heq.2
    · cases heq
  | skipped hlocation herr =>
    refine h.kept rfl rfl ?_ nofun
    rintro item err (heq | heq)
    · cases heq
    · cases heq
      exact herr
  | admitted hlocation hlive =>
    refine h.kept rfl rfl (by simp) ?_
    rintro item ⟨⟩
    exact hlive

/-- Nothing that was enqueued comes back to the queue after it left. -/
structure Later (s s' : System χ α) : Prop where
  grown : ∃ rest, enqueued s'.log = enqueued s.log ++ rest
  waiting : ∀ item ∈ enqueued s.log, item ∈ s'.fifo.items → item ∈ s.fifo.items

theorem Later.trans {s₁ : System χ α} (h : s.Later s₁) (h' : s₁.Later s') : s.Later s' := by
  obtain ⟨rest, hrest⟩ := h.grown
  obtain ⟨rest', hrest'⟩ := h'.grown
  refine ⟨⟨rest ++ rest', by rw [hrest', hrest, List.append_assoc]⟩, fun item hitem hwaiting => ?_⟩
  exact h.waiting item hitem (h'.waiting item (by rw [hrest]; exact List.mem_append_left _ hitem) hwaiting)

/-- One step leaves everything that has happened. -/
theorem effect_later (horder : s.Order capacity) (heffect : Effect background s s') : s.Later s' := by
  have hsame : ∀ event : Event (Item χ (Numbered α)), event.enqueued = none →
      enqueued (s.log ++ [event]) = enqueued s.log ++ [] := by
    intro event hevent
    rw [enqueued, List.filterMap_append]
    simp [hevent, enqueued]
  cases heffect with
  | refused | context_done | stopped => exact ⟨⟨[], (List.append_nil _).symm⟩, fun _ _ hmem => hmem⟩
  | @enqueued item callback n fifo hnumber henqueue =>
    refine ⟨⟨[item.stored background], List.filterMap_append⟩, fun other hother hmem => ?_⟩
    rw [(horder.represents.of_enqueue henqueue).items_eq, List.mem_append, List.mem_singleton] at hmem
    obtain hmem | rfl := hmem
    · exact hmem
    · exact absurd hother (horder.fresh hnumber)
  | @cancelled item hitem =>
    refine ⟨⟨[], hsame _ rfl⟩, fun other _ hmem => ?_⟩
    rw [(horder.represents.of_cancel item.id).items_eq, List.mem_filter] at hmem
    exact hmem.1
  | popped hlocation hpop =>
    obtain ⟨rest, hitems, hrepresents⟩ := horder.represents.of_pop hpop
    refine ⟨⟨[], hsame _ rfl⟩, fun other _ hmem => ?_⟩
    rw [hrepresents.items_eq] at hmem
    rw [hitems]
    exact List.mem_cons_of_mem _ hmem
  | skipped | admitted | returned => exact ⟨⟨[], hsame _ rfl⟩, fun _ _ hmem => hmem⟩

section Position

variable [DecidableEq χ] [DecidableEq α] {item : Item χ (Numbered α)}

/-- One plus the number of still waiting items that were enqueued before an
item. -/
def rank (s : System χ α) (item : Item χ (Numbered α)) : Nat :=
  (((enqueued s.log).takeWhile (· ≠ item)).filter (· ∈ s.fifo.items)).length + 1

/-- The position of a waiting item is its rank. -/
theorem Order.position_eq (h : s.Order capacity) (hitem : item ∈ s.fifo.items) :
    s.fifo.position item.id = some (s.rank item) := by
  rw [h.represents.position_eq, if_pos ⟨item, hitem, rfl⟩, rank,
    ← keyed.takeWhile_of_sublist h.waiting_sublist h.distinct hitem,
    ← keyed.takeWhile_key h.represents.distinct hitem]

theorem Later.rank_le (h : s.Later s') (hitem : item ∈ enqueued s.log) : s'.rank item ≤ s.rank item := by
  obtain ⟨rest, hrest⟩ := h.grown
  unfold rank
  rw [hrest, keyed.takeWhile_append_of_mem hitem, ← List.countP_eq_length_filter,
    ← List.countP_eq_length_filter]
  refine Nat.succ_le_succ (List.countP_mono_left ?_)
  intro other hother hwaiting
  have henqueued := (List.takeWhile_sublist _).subset hother
  simpa using h.waiting other henqueued (by simpa using hwaiting)

end Position

end Step

/-- The items that `Admit` is called on are among those that are processed. -/
theorem admitted_sublist_processed {ι : Type} (log : List (Event ι)) :
    (admitted log).Sublist (processed log) := by
  induction log with
  | nil => exact List.Sublist.refl _
  | cons event rest ih =>
    cases event with
    | Admitted item => exact ih.cons_cons item
    | Skipped item => exact ih.cons item
    | _ => exact ih

/-- Everything that every step keeps. -/
structure Invariant (capacity : Nat) (s : System χ α) : Prop where
  order : s.Order capacity
  cancels : s.Cancels
  alone : s.Alone
  contexts : s.Contexts

theorem step_invariant [DecidableEq χ] {background : χ} {capacity : Nat} {s s' : System χ α} {a : Action χ α}
    (h : s.Invariant capacity) (hstep : s.step background a = some s') : s'.Invariant capacity := by
  have heffect := step_effect hstep
  exact ⟨effect_order h.order heffect, effect_cancels h.order h.cancels heffect, effect_alone h.alone heffect,
    effect_contexts h.contexts heffect⟩

theorem start_invariant (max_size : Int) :
    (start max_size : System χ α).Invariant (FIFO.new max_size : FIFO χ (Numbered α)).max_size where
  order := ⟨new_represents max_size, fun _ hmem => absurd hmem List.not_mem_nil, List.nodup_nil, List.Sublist.refl _⟩
  cancels := ⟨fun _ hmem => absurd hmem List.not_mem_nil, every_nil⟩
  alone := ⟨fun _ hmem => absurd hmem List.not_mem_nil, every_nil⟩
  contexts := ⟨fun _ _ hmem => absurd hmem List.not_mem_nil, fun _ _ hmem => absurd hmem List.not_mem_nil, every_nil⟩

/-- A run keeps the invariant and everything that has happened. -/
theorem run_later [DecidableEq χ] {background : χ} {capacity : Nat} {acts : List (Action χ α)}
    {s s' : System χ α} (h : s.Invariant capacity) (run : Reaches (step background) s acts s') :
    s'.Invariant capacity ∧ s.Later s' := by
  induction run with
  | nil => exact ⟨h, ⟨[], (List.append_nil _).symm⟩, fun _ _ hmem => hmem⟩
  | snoc _ _ hstep ih =>
    exact ⟨step_invariant ih.1 hstep, ih.2.trans (effect_later ih.1.order (step_effect hstep))⟩

/-- The admission order is fair. -/
structure Fair [DecidableEq χ] [DecidableEq α] (s : System χ α) : Prop where
  ordered : (admitted s.log).Sublist (enqueued s.log)
  once : (processed s.log).Nodup
  uncancelled : Every (fun before event => ∀ item, event.processed = some item →
    .Cancelled item ∉ before) s.log
  alone : Every (fun before event => ∀ item, event = .Admitted item → ∀ other, .Admitted other ∈ before →
    ∃ err, .AdmitReturned other err ∈ before) s.log
  live : Every (fun before event => ∀ item, event = .Admitted item → ∀ err, .Popped item (some err) ∉ before)
    s.log
  skipped : ∀ item err, .Skipped item err ∈ s.log → s.contextErr item = some err
  position : ∀ item ∈ s.fifo.items, s.fifo.position item.id = some (s.rank item)

/-- The clauses of fairness, read off the invariant. -/
theorem Invariant.fair [DecidableEq χ] [DecidableEq α] {capacity : Nat} {s : System χ α}
    (h : s.Invariant capacity) : s.Fair := by
  have hprocessed : (processed s.log).Sublist (enqueued s.log) := by
    refine List.Sublist.trans ?_ h.order.sublist
    rw [List.append_assoc]
    exact List.sublist_append_left _ _
  exact {
    ordered := (admitted_sublist_processed s.log).trans hprocessed
    once := h.order.distinct.sublist hprocessed
    uncancelled := h.cancels.unprocessed
    alone := h.alone.started
    live := h.contexts.live
    skipped := h.contexts.skipped
    position := fun _ hitem => h.order.position_eq hitem }

/-- In every run the scheduler calls `Admit` on a subsequence of the successful
enqueues in their order and one call at a time, processes each item at most
once and no item after its cancellation, and skips an item only with its
context's error, and always when that was there at `Pop`. The position of a
waiting item is its rank among the waiting ones and never increases. -/
theorem scheduler_fair [DecidableEq χ] [DecidableEq α] {background : χ} {max_size : Int}
    {acts : List (Action χ α)} {s : System χ α}
    (run : Reaches (step background) (start max_size) acts s) :
    s.Fair ∧ ∀ later s', Reaches (step background) s later s' → ∀ item ∈ s.fifo.items,
      item ∈ s'.fifo.items → ∃ n n', s.fifo.position item.id = some n ∧
        s'.fifo.position item.id = some n' ∧ n' ≤ n := by
  obtain ⟨hinvariant, _⟩ := run_later (start_invariant max_size) run
  refine ⟨hinvariant.fair, fun later s' run' item hitem hitem' => ?_⟩
  obtain ⟨hinvariant', hlater⟩ := run_later hinvariant run'
  have henqueued := hinvariant.order.waiting_sublist.subset hitem
  exact ⟨s.rank item, s'.rank item, hinvariant.order.position_eq hitem, hinvariant'.order.position_eq hitem',
    hlater.rank_le henqueued⟩

/-- Two players wait, the second leaves and comes back, and the first is
admitted while a third arrives. -/
def fairActions : List (Action Nat Nat) :=
  [.Enqueue [1] (some 1) (some 7), .Enqueue [2] (some 2) (some 7), .Cancel [2], .Enqueue [2] (some 2) (some 7),
    .Tick, .Check, .Enqueue [3] none (some 7), .AdmitReturns none, .ContextDone 2 .Canceled, .Tick, .Check]

/-- Three players, of which one leaves the queue and comes back, and is skipped in
the end. -/
theorem scheduler_fair_three_players :
    ∃ s, Reaches (step 0) (start 2) fairActions s ∧ (processed s.log).map (·.id) = [[1], [2]] ∧ s.Fair := by
  obtain ⟨s, run, hobserved⟩ : ∃ s, Reaches (step 0) (start 2) fairActions s ∧
      decide ((processed s.log).map (·.id) = [[1], [2]]) = true :=
    Reaches.of_exec _ (by decide +kernel)
  exact ⟨s, run, of_decide_eq_true hobserved, (scheduler_fair run).1⟩

end System

end regiongate.queue
