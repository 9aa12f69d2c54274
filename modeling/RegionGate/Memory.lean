import Mathlib.Logic.Function.Basic

namespace memory

variable {β : Type}

/-- The symbols at `length` addresses from `start` on. -/
def read (mem : Nat → β) : (start length : Nat) → List β
  | _, 0 => []
  | start, length + 1 => mem start :: read mem (start + 1) length

theorem read_congr {mem mem' : Nat → β} {start length : Nat}
    (h : ∀ address, start ≤ address → address < start + length → mem address = mem' address) :
    read mem start length = read mem' start length := by
  induction length generalizing start with
  | zero => rfl
  | succ length ih =>
    rw [read, read, h start (Nat.le_refl _) (by omega)]
    congr 1
    exact ih fun address hlow hhigh => h address (by omega) (by omega)

/-- A store outside the addresses that are read is not seen. -/
theorem read_update {mem : Nat → β} {start length address : Nat} (value : β)
    (h : address < start ∨ start + length ≤ address) :
    read (Function.update mem address value) start length = read mem start length := by
  refine read_congr fun other hlow hhigh => Function.update_of_ne ?_ _ _
  omega

end memory
