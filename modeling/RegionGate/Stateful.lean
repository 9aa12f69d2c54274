import Mathlib.Data.List.Basic

namespace stateful

variable {ε σ α β : Type} {m : EStateM ε σ α} {f : α → EStateM ε σ β} {s s' s'' : σ} {a : α} {b : β} {e : ε}

/-- A computation that returns goes on with what follows it. -/
theorem bind_ok (h : m s = .ok a s') : (m >>= f) s = f a s' := by
  change EStateM.bind m f s = f a s'
  rw [EStateM.bind, h]

theorem bind_error (h : m s = .error e s') : (m >>= f) s = .error e s' := by
  change EStateM.bind m f s = .error e s'
  rw [EStateM.bind, h]

/-- What is said of the two kinds of endings holds of this one. -/
def Ends (post : α → σ → Prop) (failed : ε → σ → Prop) : EStateM.Result ε σ α → Prop
  | .ok a s => post a s
  | .error e s => failed e s

/-- From every state with `pre` the computation ends with a value and a state
that meet `post`, or with an error and a state that meet `failed`. What it did
before an error stays done. -/
structure Triple (pre : σ → Prop) (m : EStateM ε σ α) (post : α → σ → Prop) (failed : ε → σ → Prop) : Prop where
  ends : ∀ s, pre s → Ends post failed (m s)

variable {pre : σ → Prop} {mid : α → σ → Prop} {post : β → σ → Prop} {failed : ε → σ → Prop}

theorem Triple.ok (h : Triple pre m mid failed) (hpre : pre s) (hm : m s = .ok a s') : mid a s' := by
  have hs := h.ends s hpre
  rwa [hm] at hs

theorem Triple.error (h : Triple pre m mid failed) (hpre : pre s) (hm : m s = .error e s') : failed e s' := by
  have hs := h.ends s hpre
  rwa [hm] at hs

/-- Statements in sequence: what the first establishes is what the second may assume. -/
theorem Triple.bind (h : Triple pre m mid failed) (hnext : ∀ a, Triple (mid a) (f a) post failed) :
    Triple pre (m >>= f) post failed := by
  constructor
  intro s hpre
  cases hm : m s with
  | ok a s' =>
    rw [bind_ok hm]
    exact (hnext a).ends s' (h.ok hpre hm)
  | error e s' =>
    rw [bind_error hm]
    exact h.error hpre hm

theorem Triple.pure (h : ∀ s, pre s → mid a s) : Triple pre (Pure.pure a : EStateM ε σ α) mid failed :=
  ⟨fun s hpre => h s hpre⟩

/-- What a precondition says of more than the state can be assumed. -/
theorem Triple.assume {p : Prop} (h : p → Triple pre m mid failed) : Triple (fun s => p ∧ pre s) m mid failed :=
  ⟨fun s hpre => (h hpre.1).ends s hpre.2⟩

/-- A precondition may name what it says is there. -/
theorem Triple.exists {γ : Type} {pre : γ → σ → Prop} (h : ∀ c, Triple (pre c) m mid failed) :
    Triple (fun s => ∃ c, pre c s) m mid failed :=
  ⟨fun s hpre => hpre.elim fun c hc => (h c).ends s hc⟩

theorem Triple.mono {mid' : α → σ → Prop} (h : Triple pre m mid failed) (hmid : ∀ a s, mid a s → mid' a s) :
    Triple pre m mid' failed := by
  constructor
  intro s hpre
  cases hm : m s with
  | ok a s' => exact hmid a s' (h.ok hpre hm)
  | error e s' => exact h.error hpre hm

theorem Triple.ite {p : Prop} [Decidable p] {m' : EStateM ε σ α} (h : p → Triple pre m mid failed)
    (h' : ¬ p → Triple pre m' mid failed) : Triple pre (if p then m else m') mid failed := by
  by_cases hp : p
  · rw [if_pos hp]
    exact h hp
  · rw [if_neg hp]
    exact h' hp

end stateful
