import RegionGate.Keyed
import RegionGate.Queue.FIFO
import RegionGate.Refinement

open refinement

namespace regiongate.queue

/-- The calls of the queue. -/
inductive Operation (χ α : Type) where
  | Enqueue (item : Item χ α)
  | Cancel (id : Bytes)
  | Pop
  | Len
  | Position (id : Bytes)

/-- What the operations return. -/
inductive Result (χ α : Type) where
  | Enqueued (result : Except Error Nat)
  | Cancelled (removed : Bool)
  | Popped (item : Option (Item χ α))
  | Length (length : Nat)
  | Position (position : Option Nat)

variable {χ α : Type}

/-- The item that a call of `Enqueue` stores. -/
def Item.stored (background : χ) (item : Item χ α) : Item χ α :=
  { item with context := some (item.context.getD background) }

/-- An operation of the implementation; one that fails leaves the queue as it was. -/
def FIFO.perform (background : χ) (q : FIFO χ α) : Operation χ α → Result χ α × FIFO χ α
  | .Enqueue item =>
    match q.enqueue background item with
    | .error e => (.Enqueued (.error e), q)
    | .ok (length, q') => (.Enqueued (.ok length), q')
  | .Cancel id => (.Cancelled (q.cancel id).1, (q.cancel id).2)
  | .Pop =>
    match q.pop with
    | none => (.Popped none, q)
    | some (item, q') => (.Popped (some item), q')
  | .Len => (.Length q.len, q)
  | .Position id => (.Position (q.position id), q)

/-- An item with this identifier waits. -/
def Waiting (items : List (Item χ α)) (id : Bytes) : Prop := ∃ item ∈ items, item.id = id

instance (items : List (Item χ α)) (id : Bytes) : Decidable (Waiting items id) :=
  inferInstanceAs (Decidable (∃ item ∈ items, item.id = id))

/-- What the queue is for: a list of waiting items, oldest first, with at most
`capacity` items and one for each identifier. -/
def reference (background : χ) (capacity : Nat) (items : List (Item χ α)) :
    Operation χ α → Result χ α × List (Item χ α)
  | .Enqueue item =>
    if item.id = [] ∨ item.admit_callback.isNone then (.Enqueued (.error .QueueItemInvalid), items)
    else if Waiting items item.id then (.Enqueued (.error .QueueDuplicate), items)
    else if items.length = capacity then (.Enqueued (.error .QueueFull), items)
    else (.Enqueued (.ok (items.length + 1)), items ++ [item.stored background])
  | .Cancel id => (.Cancelled (Waiting items id), items.filter (·.id ≠ id))
  | .Pop => (.Popped items.head?, items.tail)
  | .Len => (.Length items.length, items)
  | .Position id =>
    (.Position (if Waiting items id then some ((items.takeWhile (·.id ≠ id)).length + 1) else none), items)

/-- The queue holds these items: its identifier map has exactly their
identifiers, which are distinct, and there are not too many. -/
structure FIFO.Represents (q : FIFO χ α) (capacity : Nat) (items : List (Item χ α)) : Prop where
  items_eq : q.items = items
  queued : ∀ id, id ∈ q.queued ↔ Waiting items id
  distinct : (items.map (·.id)).Nodup
  bounded : items.length ≤ capacity
  capacity_eq : q.max_size = capacity

section Represents

variable {background : χ} {q q' : FIFO χ α} {capacity : Nat} {items : List (Item χ α)} {id : Bytes}

theorem waiting_iff_mem : Waiting items id ↔ id ∈ items.map (·.id) := by
  simp [Waiting]

theorem new_represents (max_size : Int) :
    (FIFO.new max_size : FIFO χ α).Represents (FIFO.new max_size : FIFO χ α).max_size [] where
  items_eq := rfl
  queued := by simp [FIFO.new, Waiting]
  distinct := List.nodup_nil
  bounded := Nat.zero_le _
  capacity_eq := rfl

theorem Waiting.append {item : Item χ α} : Waiting (items ++ [item]) id ↔ Waiting items id ∨ item.id = id := by
  simp [waiting_iff_mem, eq_comm]

/-- `Enqueue` in the terms of the reference. -/
theorem FIFO.Represents.enqueue_eq (h : q.Represents capacity items) (background : χ) (item : Item χ α) :
    q.enqueue background item =
      if item.id = [] ∨ item.admit_callback.isNone then .error .QueueItemInvalid
      else if Waiting items item.id then .error .QueueDuplicate
      else if items.length = capacity then .error .QueueFull
      else .ok (items.length + 1,
        { q with items := items ++ [item.stored background], queued := insert item.id q.queued }) := by
  have hfull : items.length ≥ q.max_size ↔ items.length = capacity := by
    rw [h.capacity_eq]
    have hbounded := h.bounded
    omega
  unfold FIFO.enqueue
  simp only [h.queued, h.items_eq, hfull, Item.stored, List.length_append, List.length_singleton]

/-- An item that is not there yet, with room for it, is added at the end. -/
theorem FIFO.Represents.enqueued (h : q.Represents capacity items) {item : Item χ α}
    (hnew : ¬ Waiting items item.id) (hroom : items.length ≠ capacity) :
    ({ q with items := items ++ [item.stored background], queued := insert item.id q.queued } :
      FIFO χ α).Represents capacity (items ++ [item.stored background]) where
  items_eq := rfl
  queued := by
    intro id
    rw [Finset.mem_insert, h.queued, Waiting.append, or_comm, eq_comm]
    rfl
  distinct := by
    rw [List.map_append, List.map_singleton]
    refine List.nodup_append.mpr ⟨h.distinct, List.nodup_singleton _, ?_⟩
    intro id hid other hother
    rintro rfl
    rw [List.mem_singleton.mp hother] at hid
    exact hnew (waiting_iff_mem.mpr hid)
  bounded := by
    have hbounded := h.bounded
    rw [List.length_append, List.length_singleton]
    omega
  capacity_eq := h.capacity_eq

theorem FIFO.Represents.of_enqueue (h : q.Represents capacity items) {item : Item χ α} {n : Nat}
    (henqueue : q.enqueue background item = .ok (n, q')) :
    q'.Represents capacity (items ++ [item.stored background]) := by
  rw [h.enqueue_eq] at henqueue
  split_ifs at henqueue with hinvalid hwaiting hfull
  cases henqueue
  exact h.enqueued hwaiting hfull

theorem FIFO.Represents.cancel_eq (h : q.Represents capacity items) (id : Bytes) :
    q.cancel id =
      if Waiting items id then
        (true, { q with items := items.filter (·.id ≠ id), queued := q.queued.erase id })
      else (false, q) := by
  have hany : items.any (·.id = id) = true ↔ Waiting items id := by simp [Waiting]
  unfold FIFO.cancel
  simp only [h.items_eq, hany, keyed.eraseP_eq_filter h.distinct]

/-- Items that leave take their identifiers with them. -/
theorem FIFO.Represents.removed (h : q.Represents capacity items) {rest : List (Item χ α)}
    (hsublist : rest.Sublist items) (hrest : ∀ other, Waiting rest other ↔ Waiting items other ∧ other ≠ id) :
    ({ q with items := rest, queued := q.queued.erase id } : FIFO χ α).Represents capacity rest where
  items_eq := rfl
  queued := by
    intro other
    rw [Finset.mem_erase, h.queued, hrest, and_comm]
  distinct := h.distinct.sublist (hsublist.map _)
  bounded := hsublist.length_le.trans h.bounded
  capacity_eq := h.capacity_eq

theorem waiting_filter {other : Bytes} :
    Waiting (items.filter (·.id ≠ id)) other ↔ Waiting items other ∧ other ≠ id := by
  constructor
  · rintro ⟨item, hitem, rfl⟩
    rw [List.mem_filter] at hitem
    exact ⟨⟨item, hitem.1, rfl⟩, by simpa using hitem.2⟩
  · rintro ⟨⟨item, hitem, rfl⟩, hne⟩
    exact ⟨item, List.mem_filter.mpr ⟨hitem, by simpa using hne⟩, rfl⟩

theorem filter_of_not_waiting (h : ¬ Waiting items id) : items.filter (·.id ≠ id) = items := by
  rw [List.filter_eq_self]
  intro item hitem
  simpa using fun hsame => h ⟨item, hitem, hsame⟩

/-- `Cancel` removes one item, which is the only one of its identifier. -/
theorem FIFO.Represents.of_cancel (h : q.Represents capacity items) (id : Bytes) :
    (q.cancel id).2.Represents capacity (items.filter (·.id ≠ id)) := by
  rw [h.cancel_eq]
  split_ifs with hwaiting
  · exact h.removed List.filter_sublist fun _ => waiting_filter
  · rw [filter_of_not_waiting hwaiting]
    exact h

/-- `Position` is the number of those before, and one. -/
theorem FIFO.Represents.position_eq (h : q.Represents capacity items) (id : Bytes) :
    q.position id =
      if Waiting items id then some ((items.takeWhile (·.id ≠ id)).length + 1) else none := by
  unfold FIFO.position
  rw [h.items_eq]
  by_cases hwaiting : Waiting items id
  · rw [if_pos hwaiting, keyed.findIdx?_of_mem hwaiting]
    rfl
  · rw [if_neg hwaiting, keyed.findIdx?_of_not_mem hwaiting]
    rfl

/-- Taking the oldest item. -/
theorem FIFO.Represents.of_pop {item : Item χ α} (h : q.Represents capacity items)
    (hpop : q.pop = some (item, q')) : ∃ rest, items = item :: rest ∧ q'.Represents capacity rest := by
  have hitems := h.items_eq
  unfold FIFO.pop at hpop
  split at hpop
  · cases hpop
  rename_i rest hqueue
  cases hpop
  obtain rfl := hitems.symm.trans hqueue
  refine ⟨rest, rfl, h.removed (List.sublist_cons_self item rest) ?_⟩
  intro other
  have hdistinct := h.distinct
  rw [List.map_cons, List.nodup_cons] at hdistinct
  rw [waiting_iff_mem, waiting_iff_mem, List.map_cons, List.mem_cons]
  constructor
  · intro hother
    exact ⟨.inr hother, fun hsame => hdistinct.1 (hsame ▸ hother)⟩
  · rintro ⟨hsame | hother, hne⟩
    · exact absurd hsame hne
    · exact hother

end Represents

/-- Every call of the queue answers as the reference does and keeps the queue in
step with it. -/
theorem FIFO.Represents.perform {q : FIFO χ α} {capacity : Nat} {items : List (Item χ α)}
    (h : q.Represents capacity items) (background : χ) (op : Operation χ α) :
    (q.perform background op).1 = (reference background capacity items op).1 ∧
      (q.perform background op).2.Represents capacity (reference background capacity items op).2 := by
  cases op with
  | Enqueue item =>
    simp only [FIFO.perform, reference, h.enqueue_eq background item]
    split_ifs with hinvalid hwaiting hfull
    · exact ⟨rfl, h⟩
    · exact ⟨rfl, h⟩
    · exact ⟨rfl, h⟩
    · exact ⟨rfl, h.enqueued hwaiting hfull⟩
  | Cancel id =>
    refine ⟨?_, h.of_cancel id⟩
    simp only [FIFO.perform, reference, h.cancel_eq id]
    split_ifs with hwaiting <;> simp [hwaiting]
  | Pop =>
    cases hpop : q.pop with
    | none =>
      have hitems : items = [] := by
        unfold FIFO.pop at hpop
        rw [h.items_eq] at hpop
        cases items with
        | nil => rfl
        | cons item rest => cases hpop
      subst hitems
      simp only [FIFO.perform, hpop]
      exact ⟨rfl, h⟩
    | some popped =>
      obtain ⟨rest, rfl, hrest⟩ := h.of_pop hpop
      simp only [FIFO.perform, hpop]
      exact ⟨rfl, hrest⟩
  | Len => exact ⟨by simp only [FIFO.perform, reference, FIFO.len, h.items_eq], h⟩
  | Position id => exact ⟨by simp only [FIFO.perform, reference, h.position_eq id], h⟩

/-- For every sequence of calls, and so for every interleaving of them, the
queue answers as a bounded duplicate-free list of waiting items does. At
every moment it holds exactly the waiting items, its identifier map holds
exactly their identifiers, these are distinct, and there are not more items
than the effective size. -/
theorem fifo_refines_reference (background : χ) (max_size : Int) (ops : List (Operation χ α)) :
    (calls (FIFO.perform background) (FIFO.new max_size) ops).1 =
        (calls (reference background (FIFO.new max_size : FIFO χ α).max_size) [] ops).1 ∧
      (calls (FIFO.perform background) (FIFO.new max_size) ops).2.Represents
        (FIFO.new max_size : FIFO χ α).max_size
        (calls (reference background (FIFO.new max_size : FIFO χ α).max_size) [] ops).2 := by
  have hsimulates : Simulates (FIFO.perform (α := α) background)
      (reference background (FIFO.new max_size : FIFO χ α).max_size) (fun _ _ => True)
      (fun q items => q.Represents (FIFO.new max_size : FIFO χ α).max_size items) :=
    ⟨fun h _ => (h.perform background _).1, fun h _ => (h.perform background _).2⟩
  exact hsimulates.calls_eq (new_represents max_size) permitted_true

end regiongate.queue
