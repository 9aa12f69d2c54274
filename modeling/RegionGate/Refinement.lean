import RegionGate.Execution

namespace refinement

/-- The results of calling an object with a list of operations, and its last
state. -/
def calls {S O R : Type} (perform : S → O → R × S) : S → List O → List R × S
  | s, [] => ([], s)
  | s, o :: rest =>
    ((perform s o).1 :: (calls perform (perform s o).2 rest).1, (calls perform (perform s o).2 rest).2)

/-- The calls of a list with their results. -/
def transcript {S O R : Type} (perform : S → O → R × S) : S → List O → List (O × R)
  | _, [] => []
  | s, o :: rest => (o, (perform s o).1) :: transcript perform (perform s o).2 rest

/-- The object whose state is the transcript so far and whose results are a
function of that. -/
def recording {O R : Type} (spec : List (O × R) → O → R) (history : List (O × R)) (o : O) :
    R × List (O × R) :=
  (spec history o, history ++ [(o, spec history o)])

/-- Every call meets a condition in the state in which it is made. -/
def Permitted {S O R : Type} (perform : S → O → R × S) (ok : S → O → Prop) : S → List O → Prop
  | _, [] => True
  | s, o :: rest => ok s o ∧ Permitted perform ok (perform s o).2 rest

/-- Related states give equal results and go to related states, for the
operations that the reference object permits. -/
structure Simulates {S T O R : Type} (perform : S → O → R × S) (reference : T → O → R × T)
    (ok : T → O → Prop) (Rel : S → T → Prop) : Prop where
  result : ∀ {s t o}, Rel s t → ok t o → (perform s o).1 = (reference t o).1
  next : ∀ {s t o}, Rel s t → ok t o → Rel (perform s o).2 (reference t o).2

section Calls

variable {S T O R : Type} {perform : S → O → R × S} {reference : T → O → R × T} {ok : T → O → Prop}
  {Rel : S → T → Prop} {s : S} {t : T} {ops : List O}

/-- Whole sequences of calls cannot be told apart. -/
theorem Simulates.calls_eq (h : Simulates perform reference ok Rel) (hrel : Rel s t)
    (hok : Permitted reference ok t ops) :
    (calls perform s ops).1 = (calls reference t ops).1 ∧
      Rel (calls perform s ops).2 (calls reference t ops).2 := by
  induction ops generalizing s t with
  | nil => exact ⟨rfl, hrel⟩
  | cons o rest ih =>
    obtain ⟨hfirst, hrest⟩ := hok
    obtain ⟨hresults, hlast⟩ := ih (h.next hrel hfirst) hrest
    refine ⟨?_, hlast⟩
    change (perform s o).1 :: _ = (reference t o).1 :: _
    rw [h.result hrel hfirst, hresults]

theorem transcript_fst : (transcript perform s ops).map Prod.fst = ops := by
  induction ops generalizing s with
  | nil => rfl
  | cons o rest ih => rw [transcript, List.map_cons, ih]

/-- Calls that the reference permits have the reference's results. -/
theorem Simulates.transcript_eq (h : Simulates perform reference ok Rel) (hrel : Rel s t)
    (hok : Permitted reference ok t ops) : transcript perform s ops = transcript reference t ops := by
  induction ops generalizing s t with
  | nil => rfl
  | cons o rest ih =>
    obtain ⟨hfirst, hrest⟩ := hok
    rw [transcript, transcript, h.result hrel hfirst, ih (h.next hrel hfirst) hrest]

/-- Without a condition every call is permitted. -/
theorem permitted_true : Permitted reference (fun _ _ => True) t ops := by
  induction ops generalizing t with
  | nil => trivial
  | cons o rest ih => exact ⟨trivial, ih⟩

end Calls

section Recording

variable {O R : Type} {spec : List (O × R) → O → R} {history : List (O × R)} {ops : List O}

/-- Against a specification on histories, every call returns what it says of the calls
before. -/
theorem transcript_recording (history : List (O × R)) (ops : List O) :
    execution.Every (fun before call => call.2 = spec (history ++ before) call.1)
      (transcript (recording spec) history ops) := by
  induction ops generalizing history with
  | nil => exact execution.every_nil
  | cons o rest ih =>
    intro before call after heq
    cases before with
    | nil =>
      obtain ⟨rfl, -⟩ := List.cons_eq_cons.mp heq
      simp [recording]
    | cons first before =>
      obtain ⟨rfl, hrest⟩ := List.cons_eq_cons.mp heq
      have hcall : call.2 = spec (history ++ [(o, spec history o)] ++ before) call.1 :=
        ih (history ++ [(o, spec history o)]) before call after hrest
      rwa [List.append_assoc] at hcall

/-- Where a kept call's result depends on the kept calls only, the other calls
can be left out. -/
theorem transcript_filter (keep : O → Bool)
    (hspec : ∀ history o, keep o = true → spec history o = spec (history.filter (keep ·.1)) o) :
    (transcript (recording spec) history ops).filter (keep ·.1) =
      transcript (recording spec) (history.filter (keep ·.1)) (ops.filter keep) := by
  induction ops generalizing history with
  | nil => rfl
  | cons o rest ih =>
    have hrest := @ih (recording spec history o).2
    cases hkeep : keep o with
    | true =>
      rw [transcript, List.filter_cons_of_pos (by simpa using hkeep), hrest, List.filter_cons_of_pos hkeep,
        transcript]
      simp [recording, hkeep, ← hspec history o hkeep]
    | false =>
      rw [transcript, List.filter_cons_of_neg (by simp [hkeep]), hrest,
        List.filter_cons_of_neg (by simp [hkeep])]
      simp [recording, hkeep]

/-- Calls in order are permitted where the order is the only condition. -/
theorem permitted_of_pairwise {before : O → O → Prop} (hops : ops.Pairwise before)
    (hhistory : ∀ call ∈ history, ∀ o ∈ ops, before call.1 o) :
    Permitted (recording spec) (fun history o => ∀ call ∈ history, before call.1 o) history ops := by
  induction ops generalizing history with
  | nil => trivial
  | cons o rest ih =>
    obtain ⟨hfirst, hrest⟩ := List.pairwise_cons.mp hops
    refine ⟨fun call hcall => hhistory call hcall o (by simp), ih hrest fun call hcall later hlater => ?_⟩
    obtain hcall | rfl := List.mem_append.mp hcall |>.imp_right List.mem_singleton.mp
    · exact hhistory call hcall later (by simp [hlater])
    · exact hfirst later hlater

end Recording

end refinement
