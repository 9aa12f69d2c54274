import Mathlib.Data.List.Basic
import Mathlib.Order.Lattice

namespace window

/-- A sliding window over times: which times still count at a given time. A time
that stopped counting never counts again, and then no earlier time does. -/
structure Window (τ : Type) [LinearOrder τ] where
  live : τ → τ → Bool
  shrinks : ∀ {now now' t}, now ≤ now' → live now' t = true → live now t = true
  upward : ∀ {now t t'}, t ≤ t' → live now t = true → live now t' = true

variable {τ : Type} [LinearOrder τ]

/-- The times without the leading ones that no longer count. -/
def Window.trim (w : Window τ) (now : τ) (kept : List τ) : List τ := kept.dropWhile (!w.live now ·)

/-- The kept times are all those of the full list that can still matter at the
times of a set. -/
structure Window.Covers (w : Window τ) (later : τ → Prop) (kept full : List τ) : Prop where
  sublist : kept.Sublist full
  agree : ∀ {now}, later now → kept.filter (w.live now) = full.filter (w.live now)

section Covers

variable {w : Window τ} {later later' : τ → Prop} {kept full : List τ} {now t : τ}

/-- In a sorted list, trimming from the front leaves exactly what is live. -/
theorem trim_eq_filter (hsorted : kept.Pairwise (· ≤ ·)) : w.trim now kept = kept.filter (w.live now) := by
  induction kept with
  | nil => rfl
  | cons t rest ih =>
    obtain ⟨hfirst, hrest⟩ := List.pairwise_cons.mp hsorted
    cases hlive : w.live now t with
    | true =>
      have hall : rest.filter (w.live now) = rest :=
        List.filter_eq_self.mpr fun t' ht' => w.upward (hfirst t' ht') hlive
      simp [Window.trim, hlive, hall]
    | false =>
      rw [List.filter_cons_of_neg (by simp [hlive]), ← ih hrest]
      simp [Window.trim, hlive]

theorem Window.Covers.refl : w.Covers later full full :=
  ⟨List.Sublist.refl _, fun _ => rfl⟩

theorem Window.Covers.mono (h : w.Covers later kept full) (hlater : ∀ {t}, later' t → later t) :
    w.Covers later' kept full :=
  ⟨h.sublist, fun hnow => h.agree (hlater hnow)⟩

theorem Window.Covers.sorted (h : w.Covers later kept full) (hsorted : full.Pairwise (· ≤ ·)) :
    kept.Pairwise (· ≤ ·) :=
  hsorted.sublist h.sublist

/-- A window can be trimmed at any time that may come. -/
theorem Window.Covers.trim_eq (h : w.Covers later kept full) (hsorted : full.Pairwise (· ≤ ·)) (hnow : later now) :
    w.trim now kept = full.filter (w.live now) := by
  rw [trim_eq_filter (h.sorted hsorted), h.agree hnow]

/-- When everything kept counts, what is kept is counted exactly. -/
theorem Window.Covers.length_eq (h : w.Covers later kept full) (hnow : later now)
    (hlive : ∀ t ∈ kept, w.live now t = true) : kept.length = (full.filter (w.live now)).length := by
  rw [← h.agree hnow, List.filter_eq_self.mpr hlive]

theorem live_of_mem_trim (hsorted : kept.Pairwise (· ≤ ·)) (ht : t ∈ w.trim now kept) :
    w.live now t = true := by
  rw [trim_eq_filter hsorted] at ht
  exact (List.mem_filter.mp ht).2

/-- Trimming drops only what no later time has in its window. -/
theorem Window.Covers.trim (h : w.Covers later kept full) (hsorted : full.Pairwise (· ≤ ·)) (hnow : later now)
    (hlater : ∀ {t}, later' t → now ≤ t) : w.Covers later' (w.trim now kept) full := by
  rw [h.trim_eq hsorted hnow]
  refine ⟨List.filter_sublist, fun {t} ht => ?_⟩
  rw [List.filter_filter]
  refine List.filter_congr fun s _ => ?_
  cases hlive : w.live t s with
  | true => rw [w.shrinks (hlater ht) hlive, Bool.and_self]
  | false => rw [Bool.false_and]

theorem Window.Covers.snoc (h : w.Covers later kept full) : w.Covers later (kept ++ [t]) (full ++ [t]) := by
  refine ⟨h.sublist.append (List.Sublist.refl _), fun hnow => ?_⟩
  rw [List.filter_append, List.filter_append, h.agree hnow]

/-- Kept times that have all stopped counting can be forgotten. -/
theorem Window.Covers.forget (h : w.Covers later kept full)
    (hdead : ∀ {t}, later t → ∀ s ∈ kept, w.live t s = false) :
    w.Covers later [] full := by
  refine ⟨List.nil_sublist _, fun {t} ht => ?_⟩
  have hnone : kept.filter (w.live t) = [] := by
    rw [List.filter_eq_nil_iff]
    intro s hs
    simp [hdead ht s hs]
  rw [← h.agree ht, hnone, List.filter_nil]

end Covers

end window
