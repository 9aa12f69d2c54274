import Mathlib.Data.List.Basic

namespace checked

/-- The outcome of a computation that can return an error, and that panics when
it indexes or slices outside its data. -/
inductive Outcome (ε α : Type) where
  | Ok (value : α)
  | Fail (err : ε)
  | Panic
  deriving DecidableEq, Repr

namespace Outcome

variable {ε ε' α β : Type}

/-- Statements in sequence: an error returns at once, and a panic is passed on as
nothing here recovers from one. -/
def bind (m : Outcome ε α) (next : α → Outcome ε β) : Outcome ε β :=
  match m with
  | .Ok value => next value
  | .Fail err => .Fail err
  | .Panic => .Panic

instance : Monad (Outcome ε) where
  pure := .Ok
  bind := Outcome.bind

/-- Replacing the error of a failed call, as callers do that report their own. -/
def mapError (m : Outcome ε α) (f : ε → ε') : Outcome ε' α :=
  match m with
  | .Ok value => .Ok value
  | .Fail err => .Fail (f err)
  | .Panic => .Panic

/-- A failed call whose error the caller only tests for. -/
def caught (m : Outcome ε α) : Outcome ε' (Option α) :=
  match m with
  | .Ok value => .Ok (some value)
  | .Fail _ => .Ok none
  | .Panic => .Panic

/-- A computation without indexing, seen as one that could panic. -/
def ofExcept : Except ε α → Outcome ε α
  | .ok value => .Ok value
  | .error err => .Fail err

/-- What a computation returned, without its error. -/
def toOption : Outcome ε α → Option α
  | .Ok value => some value
  | .Fail _ => none
  | .Panic => none

@[simp] theorem ok_bind (value : α) (next : α → Outcome ε β) :
    ((Outcome.Ok value : Outcome ε α) >>= next) = next value := rfl

@[simp] theorem fail_bind (err : ε) (next : α → Outcome ε β) :
    ((Outcome.Fail err : Outcome ε α) >>= next) = .Fail err := rfl

@[simp] theorem mapError_ok (value : α) (f : ε → ε') :
    (Outcome.Ok value : Outcome ε α).mapError f = .Ok value := rfl

@[simp] theorem ofExcept_ok (value : α) : ofExcept (.ok value : Except ε α) = .Ok value := rfl

theorem ofExcept_guarded (guard : Prop) [Decidable guard] (err : ε) (m : Except ε α) :
    ofExcept (if guard then .error err else m) = if guard then .Fail err else ofExcept m :=
  apply_ite ofExcept guard (.error err) m

theorem ofExcept_eq_ok {m : Except ε α} {value : α} : ofExcept m = .Ok value ↔ m = .ok value := by
  cases m <;> simp [ofExcept]

/-- Errors and panics forgotten, statements in sequence are those of an option. -/
theorem toOption_bind (m : Outcome ε α) (next : α → Outcome ε β) :
    (m >>= next).toOption = m.toOption.bind fun value => (next value).toOption := by
  cases m <;> rfl

theorem toOption_mapError (m : Outcome ε α) (f : ε → ε') : (m.mapError f).toOption = m.toOption := by
  cases m <;> rfl

theorem toOption_eq_some {m : Outcome ε α} {value : α} : m.toOption = some value ↔ m = .Ok value := by
  cases m <;> simp [toOption]

/-- The computation does not panic, and what it returns meets `post`. -/
def Safe (m : Outcome ε α) (post : α → Prop) : Prop :=
  match m with
  | .Ok value => post value
  | .Fail _ => True
  | .Panic => False

theorem Safe.ne_panic {m : Outcome ε α} {post : α → Prop} (h : m.Safe post) : m ≠ .Panic := by
  rintro rfl
  exact h

/-- What is safe returns only what its postcondition says. -/
theorem Safe.ok {m : Outcome ε α} {post : α → Prop} (h : m.Safe post) {value : α} (hm : m = .Ok value) :
    post value := by
  subst hm
  exact h

/-- Sequencing: what the first part guarantees is what the second may assume. -/
theorem Safe.bind {m : Outcome ε α} {next : α → Outcome ε β} {mid : α → Prop} {post : β → Prop}
    (h : m.Safe mid) (hnext : ∀ value, mid value → (next value).Safe post) : (m >>= next).Safe post := by
  cases m with
  | Ok value => exact hnext value h
  | Fail err => trivial
  | Panic => exact h

theorem Safe.mapError {m : Outcome ε α} {post : α → Prop} (h : m.Safe post) (f : ε → ε') :
    (m.mapError f).Safe post := by
  cases m with
  | Ok value => exact h
  | Fail err => trivial
  | Panic => exact h

/-- A guard that returns an error leaves its negation to the rest. -/
theorem Safe.guarded {p : Prop} [Decidable p] {err : ε} {rest : Outcome ε α} {post : α → Prop}
    (h : ¬ p → rest.Safe post) : (if p then .Fail err else rest).Safe post := by
  by_cases hp : p
  · rw [if_pos hp]
    trivial
  · rw [if_neg hp]
    exact h hp

theorem safe_ofExcept {m : Except ε α} {post : α → Prop} (h : ∀ value, m = .ok value → post value) :
    (ofExcept m).Safe post := by
  cases m with
  | error err => trivial
  | ok value => exact h value rfl

end Outcome

section Access

variable {ε β : Type}

/-- `data[i]`. -/
def index (data : List β) (i : Nat) : Outcome ε β :=
  match data[i]? with
  | some value => .Ok value
  | none => .Panic

/-- `data[low:high]`. -/
def slice (data : List β) (low high : Nat) : Outcome ε (List β) :=
  if low ≤ high ∧ high ≤ data.length then .Ok ((data.take high).drop low) else .Panic

/-- `data[low:]`. -/
def sliceFrom (data : List β) (low : Nat) : Outcome ε (List β) :=
  if low ≤ data.length then .Ok (data.drop low) else .Panic

/-- The bytes that can be allocated in one piece on a 64-bit machine. -/
def maxAlloc : Nat := 1 <<< 48

/-- `make([]T, 0, capacity)` for elements of `size` bytes, which panics when so
many of them could never be allocated. -/
def makeSlice (size : Nat) (capacity : Int) : Outcome ε (List β) :=
  if 0 ≤ capacity ∧ capacity * size ≤ maxAlloc then .Ok [] else .Panic

theorem index_ok {data : List β} {i : Nat} {value : β} (h : data[i]? = some value) :
    (index data i : Outcome ε β) = .Ok value := by
  simp [index, h]

theorem slice_ok {data : List β} {low high : Nat} (hlow : low ≤ high) (hhigh : high ≤ data.length) :
    (slice data low high : Outcome ε (List β)) = .Ok ((data.take high).drop low) := by
  simp [slice, hlow, hhigh]

theorem sliceFrom_ok {data : List β} {low : Nat} (h : low ≤ data.length) :
    (sliceFrom data low : Outcome ε (List β)) = .Ok (data.drop low) := by
  simp [sliceFrom, h]

theorem safe_index {data : List β} {i : Nat} (h : i < data.length) :
    (index data i : Outcome ε β).Safe fun value => data[i]? = some value := by
  rw [index_ok (List.getElem?_eq_getElem h)]
  exact List.getElem?_eq_getElem h

/-- Bounds in order and within the slice do not panic. -/
theorem safe_slice {data : List β} {low high : Nat} (hlow : low ≤ high) (hhigh : high ≤ data.length) :
    (slice data low high : Outcome ε (List β)).Safe fun value => value.length = high - low := by
  rw [slice_ok hlow hhigh]
  simp [Outcome.Safe, Nat.min_eq_left hhigh]

/-- A lower bound within the slice does not panic. -/
theorem safe_sliceFrom {data : List β} {low : Nat} (h : low ≤ data.length) :
    (sliceFrom data low : Outcome ε (List β)).Safe fun value => value.length = data.length - low := by
  rw [sliceFrom_ok h]
  simp [Outcome.Safe]

end Access

end checked
