import Mathlib.Data.List.Basic
import Mathlib.Data.List.Infix

namespace execution

/-- Runs of a partial step function from one start state. Every step meets
`allowed` in the state in which it is taken, so the unrestricted runs are
those of the constantly true condition. -/
inductive Runs {S A : Type} (step : S → A → Option S) (allowed : S → A → Prop) (start : S) :
    List A → S → Prop where
  | nil : Runs step allowed start [] start
  | snoc {acts : List A} {s s' : S} {a : A} (run : Runs step allowed start acts s)
      (hallowed : allowed s a) (hstep : step s a = some s') :
      Runs step allowed start (acts ++ [a]) s'

/-- Every run, with no condition on its steps. -/
abbrev Reaches {S A : Type} (step : S → A → Option S) (start : S) : List A → S → Prop :=
  Runs step (fun _ _ => True) start

section Runs

variable {S A : Type} {step : S → A → Option S} {allowed : S → A → Prop} {start s : S}
  {acts : List A}

/-- A property of the start state that every allowed step preserves holds in
every state reached. -/
theorem Runs.invariant {Inv : S → Prop} (run : Runs step allowed start acts s)
    (hstart : Inv start)
    (hstep : ∀ {s a s'}, Inv s → allowed s a → step s a = some s' → Inv s') : Inv s := by
  induction run with
  | nil => exact hstart
  | snoc _ hallowed hnext ih => exact hstep ih hallowed hnext

/-- A run under a condition is one under any weaker condition. -/
theorem Runs.mono {weaker : S → A → Prop} (run : Runs step allowed start acts s)
    (himp : ∀ s a, allowed s a → weaker s a) : Runs step weaker start acts s := by
  induction run with
  | nil => exact .nil
  | snoc _ hallowed hnext ih => exact .snoc ih (himp _ _ hallowed) hnext

theorem Runs.reaches (run : Runs step allowed start acts s) : Reaches step start acts s :=
  run.mono fun _ _ _ => trivial

theorem Runs.trans {middle : S} {rest : List A} (run : Runs step allowed start acts middle)
    (more : Runs step allowed middle rest s) : Runs step allowed start (acts ++ rest) s := by
  induction more with
  | nil => rwa [List.append_nil]
  | snoc _ hallowed hnext ih =>
    rw [← List.append_assoc]
    exact .snoc ih hallowed hnext

theorem Runs.single {a : A} (hallowed : allowed start a) (hstep : step start a = some s) :
    Runs step allowed start [a] s :=
  Runs.nil.snoc hallowed hstep

/-- A system that in every state short of the goal has a step that brings it nearer
gets there, in no more steps than it is far. -/
theorem Runs.reaches_goal {Inv goal : S → Prop} (distance : S → Nat)
    (hnearer : ∀ s, Inv s → ¬ goal s → ∃ a s', allowed s a ∧ step s a = some s' ∧ Inv s' ∧ distance s' < distance s)
    (hs : Inv s) : ∃ acts s', Runs step allowed s acts s' ∧ goal s' ∧ acts.length ≤ distance s := by
  induction hdistance : distance s using Nat.strong_induction_on generalizing s with
  | _ far ih =>
    subst hdistance
    by_cases hgoal : goal s
    · exact ⟨[], s, .nil, hgoal, Nat.zero_le _⟩
    · obtain ⟨a, next, hallowed, hstep, hnext, hlt⟩ := hnearer s hs hgoal
      obtain ⟨acts, s', run, hgoal', hlength⟩ := ih (distance next) hlt hnext rfl
      refine ⟨a :: acts, s', (Runs.single hallowed hstep).trans run, hgoal', ?_⟩
      rw [List.length_cons]
      omega

/-- Runs without end, given by their states and actions. They are fair to the `own`
actions: these get a turn when at all times one of them could be taken that is
`ready` whatever others do. -/
structure Fair (step : S → A → Option S) (allowed : S → A → Prop) (ready own : A → Prop) (run : Nat → S)
    (act : Nat → A) : Prop where
  follows : ∀ n, step (run n) (act n) = some (run (n + 1))
  allows : ∀ n, allowed (run n) (act n)
  turn : ∀ n, (∀ m, n ≤ m → ∃ a, ready a ∧ step (run m) a ≠ none) → ∃ m, n ≤ m ∧ own (act m)

/-- What every allowed step keeps holds from a state of a fair run on. -/
theorem Fair.invariant {ready own : A → Prop} {run : Nat → S} {act : Nat → A} {Inv : S → Prop}
    (fair : Fair step allowed ready own run act)
    (hstep : ∀ {s a s'}, Inv s → allowed s a → step s a = some s' → Inv s') {n m : Nat} (hle : n ≤ m)
    (hn : Inv (run n)) : Inv (run m) := by
  induction m, hle using Nat.le_induction with
  | base => exact hn
  | succ m _ ih => exact hstep ih (fair.allows m) (fair.follows m)

/-- What comes before a fair run does not change that it is fair. -/
theorem Fair.cons {ready own : A → Prop} {run : Nat → S} {act : Nat → A} {a : A}
    (fair : Fair step allowed ready own run act) (hallowed : allowed s a) (hstep : step s a = some (run 0)) :
    Fair step allowed ready own (fun n => n.casesOn s run) (fun n => n.casesOn a act) := by
  refine ⟨fun n => ?_, fun n => ?_, fun n hready => ?_⟩
  · cases n with
    | zero => exact hstep
    | succ n => exact fair.follows n
  · cases n with
    | zero => exact hallowed
    | succ n => exact fair.allows n
  · obtain ⟨m, hle, hown⟩ := fair.turn n fun m hle => hready (m + 1) (by omega)
    exact ⟨m + 1, by omega, hown⟩

/-- Every finite run to the first state of a fair one is the beginning of a fair one. -/
theorem Fair.prepend {ready own : A → Prop} {run : Nat → S} {act : Nat → A}
    (fair : Fair step allowed ready own run act) (hrun : Runs step allowed start acts s) (hs : run 0 = s) :
    ∃ run' act', Fair step allowed ready own run' act' ∧ run' 0 = start ∧ ∀ n, run' (n + acts.length) = run n := by
  induction hrun generalizing run act with
  | nil => exact ⟨run, act, fair, hs, fun _ => rfl⟩
  | snoc _ hallowed hstep ih =>
    subst hs
    obtain ⟨run', act', fair', hstart, hrun'⟩ := ih (fair.cons hallowed hstep) rfl
    refine ⟨run', act', fair', hstart, fun n => ?_⟩
    rw [List.length_append, List.length_singleton, ← Nat.add_assoc, Nat.add_right_comm]
    exact hrun' (n + 1)

/-- A fair run gets to a goal that its own steps bring nearer, if nobody else leads
away from it and short of it there is always a step to take. -/
theorem Fair.reaches_goal {ready own : A → Prop} {run : Nat → S} {act : Nat → A} {Inv goal : S → Prop}
    (fair : Fair step allowed ready own run act) (distance : S → Nat)
    (hinv : ∀ {s a s'}, Inv s → allowed s a → step s a = some s' → Inv s')
    (hready : ∀ s, Inv s → ¬ goal s → ∃ a, ready a ∧ step s a ≠ none)
    (hnearer : ∀ {s a s'}, Inv s → ¬ goal s → allowed s a → step s a = some s' →
      distance s' ≤ distance s ∧ (own a → distance s' < distance s))
    {n : Nat} (hn : Inv (run n)) : ∃ m, n ≤ m ∧ goal (run m) := by
  induction hdistance : distance (run n) using Nat.strong_induction_on generalizing n with
  | _ far ih =>
    subst hdistance
    by_contra hnever
    have hnot : ∀ m, n ≤ m → ¬ goal (run m) := fun m hle hgoal => hnever ⟨m, hle, hgoal⟩
    have hinvs : ∀ m, n ≤ m → Inv (run m) := fun m hle => fair.invariant hinv hle hn
    have hdown : ∀ m, n ≤ m → distance (run m) ≤ distance (run n) := by
      intro m hle
      induction m, hle using Nat.le_induction with
      | base => exact Nat.le_refl _
      | succ m hle ihm =>
        exact (hnearer (hinvs m hle) (hnot m hle) (fair.allows m) (fair.follows m)).1.trans ihm
    obtain ⟨m, hle, hown⟩ := fair.turn n fun m hle => hready _ (hinvs m hle) (hnot m hle)
    have hlt := (hnearer (hinvs m hle) (hnot m hle) (fair.allows m) (fair.follows m)).2 hown
    obtain ⟨m', hle', hgoal⟩ := ih _ (hlt.trans_le (hdown m hle)) (hinvs (m + 1) (by omega)) rfl
    exact hnot m' (by omega) hgoal

/-- Executing a list of actions, where `ok` decides whether a step may be
taken. The result is missing when a step is refused or not enabled. -/
def exec (step : S → A → Option S) (ok : S → A → Bool) : S → List A → Option S
  | s, [] => some s
  | s, a :: rest => if ok s a then (step s a).bind (exec step ok · rest) else none

/-- The part of a computed run that is still to come. -/
theorem Runs.exec_from {ok : S → A → Bool} (hok : ∀ s a, ok s a = true → allowed s a)
    {done rest : List A} {final : S} (run : Runs step allowed start done s)
    (hexec : exec step ok s rest = some final) :
    Runs step allowed start (done ++ rest) final := by
  induction rest generalizing done s with
  | nil =>
    obtain rfl : s = final := by simpa [exec] using hexec
    simpa using run
  | cons a rest ih =>
    rw [exec] at hexec
    split at hexec
    · rename_i hallowed
      obtain ⟨next, hnext, hrest⟩ := Option.bind_eq_some_iff.mp hexec
      simpa using ih (run.snoc (hok _ _ hallowed) hnext) hrest
    · cases hexec

/-- A concrete execution is a run, and what a decision procedure observes at
its end holds in a state that the run reaches. -/
theorem Runs.of_exec {ok : S → A → Bool} (hok : ∀ s a, ok s a = true → allowed s a)
    (observe : S → Bool) (hexec : (exec step ok start acts).map observe = some true) :
    ∃ final, Runs step allowed start acts final ∧ observe final = true := by
  obtain ⟨final, hfinal, hobserve⟩ := Option.map_eq_some_iff.mp hexec
  exact ⟨final, by simpa using Runs.nil.exec_from hok hfinal, hobserve⟩

/-- A run that is computed, with what is observed of its last state. -/
theorem Reaches.of_exec (observe : S → Bool)
    (hexec : (exec step (fun _ _ => true) start acts).map observe = some true) :
    ∃ final, Reaches step start acts final ∧ observe final = true :=
  Runs.of_exec (fun _ _ _ => trivial) observe hexec

end Runs

/-- Every event of a history is justified by the events before it. -/
def Every {E : Type} (justified : List E → E → Prop) (history : List E) : Prop :=
  ∀ before event after, history = before ++ event :: after → justified before event

section Every

variable {E : Type} {justified : List E → E → Prop} {history : List E}

@[simp] theorem every_nil : Every justified [] := by
  intro before event after h
  simp at h

/-- An event of a history to which one was added is the added one or was there before. -/
theorem snoc_eq_append_cons {l before after : List E} {e event : E}
    (h : l ++ [e] = before ++ event :: after) :
    (l = before ∧ e = event ∧ after = []) ∨ ∃ rest, l = before ++ event :: rest := by
  obtain rfl | ⟨rest, last, rfl⟩ := after.eq_nil_or_concat
  · obtain ⟨hl, he⟩ := List.append_inj' h rfl
    exact .inl ⟨hl, by simpa using he, rfl⟩
  · have h' : l ++ [e] = (before ++ event :: rest) ++ [last] := by simpa using h
    exact .inr ⟨rest, (List.append_inj' h' rfl).1⟩

@[simp] theorem every_snoc {event : E} :
    Every justified (history ++ [event]) ↔ Every justified history ∧ justified history event := by
  constructor
  · intro h
    refine ⟨fun before e after heq => ?_, h history event [] rfl⟩
    exact h before e (after ++ [event]) (by simp [heq])
  · rintro ⟨hold, hnew⟩ before e after heq
    obtain ⟨rfl, rfl, _⟩ | ⟨rest, hrest⟩ := snoc_eq_append_cons heq
    · exact hnew
    · exact hold before e rest hrest

/-- Events that are justified after any history extend a justified one. -/
theorem Every.append {events : List E} (h : Every justified history)
    (hevents : ∀ before, ∀ e ∈ events, justified before e) : Every justified (history ++ events) := by
  induction events using List.reverseRecOn with
  | nil => simpa using h
  | append_singleton events e ih =>
    rw [← List.append_assoc, every_snoc]
    exact ⟨ih fun before e he => hevents before e (by simp [he]), hevents _ e (by simp)⟩

end Every

/-- The events of a script happened after a mark, in the order of the script. -/
def Since {E : Type} (mark : E) (script history : List E) : Prop :=
  ∃ before after, history = before ++ mark :: after ∧ script.Sublist after

section Since

variable {E : Type} {mark : E} {script script' history events : List E}

/-- Nothing has happened since a mark that is the last event. -/
theorem since_mark : Since mark [] (history ++ [mark]) :=
  ⟨history, [], rfl, List.Sublist.refl []⟩

/-- A script goes on with what happens, or with a part of it. -/
theorem Since.extend (h : Since mark script history) (hscript : script'.Sublist (script ++ events)) :
    Since mark script' (history ++ events) := by
  obtain ⟨before, after, rfl, hafter⟩ := h
  refine ⟨before, after ++ events, by simp, ?_⟩
  exact hscript.trans (hafter.append (List.Sublist.refl events))

/-- What has happened since a mark has still happened after further events. -/
theorem Since.append (h : Since mark script history) : Since mark script (history ++ events) :=
  h.extend (List.sublist_append_left script events)

end Since

end execution
