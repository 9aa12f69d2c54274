import Mathlib.Data.Finset.Basic
import RegionGate.Checked
import RegionGate.Error

open checked

namespace regiongate.queue

/-- A queue item. `χ` is the type of contexts and `α` that of callbacks; a
missing value is Go's `nil`. -/
structure Item (χ α : Type) where
  id : Bytes
  context : Option χ
  admit_callback : Option α
  deriving DecidableEq

/-- `FIFO`: the waiting players in order, and the set of their identifiers, which
`Enqueue` looks duplicates up in. -/
structure FIFO (χ α : Type) where
  max_size : Nat
  items : List (Item χ α)
  queued : Finset Bytes
  deriving DecidableEq

/-- The bytes of an `Item` on a 64-bit machine: a string, an interface and a
function. -/
def itemSize : Nat := 16 + 16 + 8

namespace FIFO

variable {χ α : Type}

/-- `New`, for a size whose items can be stored. -/
def new (max_size : Int) : FIFO χ α where
  max_size := if max_size ≤ 0 then 1024 else max_size.toNat
  items := []
  queued := ∅

/-- `New` with its allocation: `make` panics for a size whose items could never be
stored. -/
def new_checked (max_size : Int) : Outcome Error (FIFO χ α) := do
  let items ← makeSlice itemSize (if max_size ≤ 0 then 1024 else max_size)
  .Ok { (new max_size : FIFO χ α) with items }

/-- `New` makes a queue of a given size exactly when its items can be stored. -/
theorem new_checked_eq {max_size : Int} (h : 0 < max_size) :
    (new_checked max_size : Outcome Error (FIFO χ α)) =
      if max_size * itemSize ≤ maxAlloc then .Ok (new max_size) else .Panic := by
  have hallocated : (makeSlice itemSize (if max_size ≤ 0 then 1024 else max_size) : Outcome Error (List (Item χ α))) =
      if max_size * itemSize ≤ maxAlloc then .Ok [] else .Panic := by
    rw [if_neg (Int.not_le.mpr h), makeSlice]
    simp only [h.le, true_and]
  rw [new_checked, hallocated]
  split
  · rfl
  · rfl

/-- `background` is `context.Background()`, which replaces a missing context. -/
def enqueue (background : χ) (q : FIFO χ α) (item : Item χ α) : Except Error (Nat × FIFO χ α) :=
  if item.id = [] ∨ item.admit_callback.isNone then .error .QueueItemInvalid
  else if item.id ∈ q.queued then .error .QueueDuplicate
  else if q.items.length ≥ q.max_size then .error .QueueFull
  else
    let item := { item with context := some (item.context.getD background) }
    let items := q.items ++ [item]
    .ok (items.length, { q with items, queued := insert item.id q.queued })

/-- `Cancel`: the first item with the identifier is removed, wherever it stands. -/
def cancel (q : FIFO χ α) (id : Bytes) : Bool × FIFO χ α :=
  if q.items.any (·.id = id) then
    (true, { q with items := q.items.eraseP (·.id = id), queued := q.queued.erase id })
  else (false, q)

/-- `Pop`, the oldest item. -/
def pop (q : FIFO χ α) : Option (Item χ α × FIFO χ α) :=
  match q.items with
  | [] => none
  | item :: rest => some (item, { q with items := rest, queued := q.queued.erase item.id })

/-- `Len`. -/
def len (q : FIFO χ α) : Nat := q.items.length

/-- `Position`, counted from one. -/
def position (q : FIFO χ α) (id : Bytes) : Option Nat :=
  (q.items.findIdx? (·.id = id)).map (· + 1)

/-- A successful enqueue appends the item at the end, and only when no item
with its identifier was registered and there was room. -/
theorem enqueue_eq_ok {background : χ} {q q' : FIFO χ α} {item : Item χ α} {n : Nat}
    (h : q.enqueue background item = .ok (n, q')) :
    item.id ∉ q.queued ∧ q.items.length < q.max_size ∧
      q'.items = q.items ++ [{ item with context := some (item.context.getD background) }] ∧
      q'.queued = insert item.id q.queued ∧ q'.max_size = q.max_size := by
  unfold enqueue at h
  split at h
  · cases h
  · split at h
    · cases h
    · rename_i hfresh
      split at h
      · cases h
      · rename_i hroom
        simp only [Except.ok.injEq, Prod.mk.injEq] at h
        obtain ⟨_, rfl⟩ := h
        exact ⟨hfresh, by omega, rfl, rfl, rfl⟩

/-- Cancelling removes the first item with the identifier and nothing else. -/
theorem cancel_items (q : FIFO χ α) (id : Bytes) :
    (q.cancel id).2.items = q.items.eraseP (·.id = id) := by
  unfold cancel
  split
  · rfl
  · rename_i hnone
    rw [List.eraseP_of_forall_not]
    intro item hitem hid
    exact hnone (List.any_eq_true.mpr ⟨item, hitem, hid⟩)

end FIFO

end regiongate.queue
