import Mathlib.Data.List.Nodup

namespace keyed

variable {α κ : Type} [DecidableEq κ] {key : α → κ} {l : List α} {k : κ}

/-- With distinct keys, removing the first match removes every match. -/
theorem eraseP_eq_filter (h : (l.map key).Nodup) :
    l.eraseP (fun x => key x = k) = l.filter (fun x => key x ≠ k) := by
  induction l with
  | nil => rfl
  | cons x rest ih =>
    rw [List.map_cons, List.nodup_cons] at h
    by_cases hx : key x = k
    · have hrest : rest.filter (fun y => key y ≠ k) = rest := by
        rw [List.filter_eq_self]
        intro y hy
        have hne : key y ≠ k := fun hsame => h.1 (List.mem_map.mpr ⟨y, hy, hsame.trans hx.symm⟩)
        simpa using hne
      rw [List.eraseP_cons_of_pos (by simpa using hx), List.filter_cons_of_neg (by simpa using hx), hrest]
    · rw [List.eraseP_cons_of_neg (by simpa using hx), List.filter_cons_of_pos (by simpa using hx), ih h.2]

/-- The index of a key is the number of elements before it. -/
theorem findIdx?_of_mem (h : ∃ x ∈ l, key x = k) :
    l.findIdx? (fun x => key x = k) = some (l.takeWhile (fun x => key x ≠ k)).length := by
  induction l with
  | nil =>
    obtain ⟨x, hx, _⟩ := h
    cases hx
  | cons x rest ih =>
    by_cases hx : key x = k
    · simp [List.findIdx?_cons, hx]
    · have hrest : ∃ y ∈ rest, key y = k := by
        obtain ⟨y, hy, hsame⟩ := h
        obtain rfl | hy := List.mem_cons.mp hy
        · exact absurd hsame hx
        · exact ⟨y, hy, hsame⟩
      simp [List.findIdx?_cons, hx, ih hrest]

theorem findIdx?_of_not_mem (h : ¬ ∃ x ∈ l, key x = k) : l.findIdx? (fun x => key x = k) = none := by
  rw [List.findIdx?_eq_none_iff]
  intro x hx
  simpa using fun hsame => h ⟨x, hx, hsame⟩

/-- Looking for an element by its key or by itself is the same. -/
theorem takeWhile_key [DecidableEq α] {x : α} (h : (l.map key).Nodup) (hx : x ∈ l) :
    l.takeWhile (fun y => key y ≠ key x) = l.takeWhile (· ≠ x) := by
  induction l with
  | nil => rfl
  | cons y rest ih =>
    rw [List.map_cons, List.nodup_cons] at h
    obtain rfl | hx := List.mem_cons.mp hx
    · simp
    · have hkey : key y ≠ key x := fun hsame => h.1 (List.mem_map.mpr ⟨x, hx, hsame.symm⟩)
      have hyx : y ≠ x := fun hsame => hkey (congrArg key hsame)
      rw [List.takeWhile_cons_of_pos (by simpa using hkey), List.takeWhile_cons_of_pos (by simpa using hyx),
        ih h.2 hx]

/-- What stands before an element does not depend on what is added behind it. -/
theorem takeWhile_append_of_mem [DecidableEq α] {x : α} {rest : List α} (hx : x ∈ l) :
    (l ++ rest).takeWhile (· ≠ x) = l.takeWhile (· ≠ x) := by
  induction l with
  | nil => cases hx
  | cons y l ih =>
    by_cases hyx : y = x
    · simp [hyx]
    · have hx' : x ∈ l := (List.mem_cons.mp hx).resolve_left fun hsame => hyx hsame.symm
      rw [List.cons_append, List.takeWhile_cons_of_pos (by simpa using hyx),
        List.takeWhile_cons_of_pos (by simpa using hyx), ih hx']

section Sublist

variable [DecidableEq α] {l' : List α} {x : α}

/-- The elements before `x` in a part of a list are those before `x` in the whole
list that belong to the part. -/
theorem takeWhile_of_sublist (h : l'.Sublist l) (hnodup : l.Nodup) (hx : x ∈ l') :
    l'.takeWhile (· ≠ x) = (l.takeWhile (· ≠ x)).filter (· ∈ l') := by
  induction h with
  | slnil => cases hx
  | @cons l' l y h ih =>
    obtain ⟨hy, hnodup⟩ := List.nodup_cons.mp hnodup
    have hyx : y ≠ x := by
      rintro rfl
      exact hy (h.subset hx)
    have hyl : y ∉ l' := fun hmem => hy (h.subset hmem)
    rw [List.takeWhile_cons_of_pos (by simpa using hyx), List.filter_cons_of_neg (by simpa using hyl)]
    exact ih hnodup hx
  | @cons_cons l' l y h ih =>
    obtain ⟨hy, hnodup⟩ := List.nodup_cons.mp hnodup
    by_cases hyx : y = x
    · simp [hyx]
    · have hx' : x ∈ l' := by
        obtain rfl | hx' := List.mem_cons.mp hx
        · exact absurd rfl hyx
        · exact hx'
      rw [List.takeWhile_cons_of_pos (by simpa using hyx), List.takeWhile_cons_of_pos (by simpa using hyx),
        List.filter_cons_of_pos (by simp), ih hnodup hx']
      congr 1
      refine List.filter_congr fun z hz => ?_
      have hzy : z ≠ y := by
        rintro rfl
        exact hy ((List.takeWhile_sublist _).subset hz)
      simp [hzy]

end Sublist

end keyed
