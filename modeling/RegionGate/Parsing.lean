import RegionGate.Checked

open checked

namespace parsing

/-- A parser of lists of symbols: what it reads is taken off the front. -/
abbrev Reader (σ α : Type) := StateT (List σ) Option α

variable {σ α β : Type}

/-- The parser reads back a value from what was written for it, whatever
follows. -/
def Reads (r : Reader σ α) (written : List σ) (value : α) : Prop :=
  ∀ rest, r.run (written ++ rest) = some (value, rest)

/-- The value of an input that is read to its end. -/
def whole (r : Reader σ α) (input : List σ) : Option α :=
  match r.run input with
  | some (value, []) => some value
  | _ => none

/-- The next symbol. -/
def one : Reader σ σ := fun
  | [] => none
  | symbol :: rest => some (symbol, rest)

/-- The next `n` symbols, if there are as many. -/
def exactly (n : Nat) : Reader σ (List σ) := fun input =>
  if n ≤ input.length then some (input.take n, input.drop n) else none

/-- `n` values one after the other. -/
def times (n : Nat) (r : Reader σ α) : Reader σ (List α) :=
  match n with
  | 0 => pure []
  | n + 1 => do
    let value ← r
    let values ← times n r
    return value :: values

/-- All that is left. -/
def remaining : Reader σ (List σ) := fun input => some (input, [])

/-- Values up to the end of the input, at most a given number. -/
def untilEnd (r : Reader σ α) (atMost : Nat) : Reader σ (List α) :=
  match atMost with
  | 0 => fun input => if input.isEmpty then some ([], input) else none
  | atMost + 1 => fun input =>
    if input.isEmpty then some ([], input)
    else StateT.run (do
      let value ← r
      let values ← untilEnd r atMost
      return value :: values) input

section Reads

variable {r : Reader σ α} {f : α → Reader σ β} {written written' : List σ} {value : α} {result : β}

theorem Reads.pure : Reads (Pure.pure value : Reader σ α) [] value := fun _ => rfl

/-- Two readers in sequence read two texts in sequence. -/
theorem Reads.bind (h : Reads r written value) (h' : Reads (f value) written' result) :
    Reads (r >>= f) (written ++ written') result := by
  intro rest
  rw [StateT.run_bind, List.append_assoc, h]
  exact h' rest

/-- A check of what was read takes no symbols. -/
theorem Reads.bind_nil (h : Reads r written value) (h' : Reads (f value) [] result) :
    Reads (r >>= f) written result := by
  have hboth := h.bind h'
  rwa [List.append_nil] at hboth

theorem Reads.guarded {p : Prop} [Decidable p] (hp : ¬ p) (h : Reads r written value) :
    Reads (if p then failure else r) written value := by
  rwa [if_neg hp]

/-- The last step of a parser that puts together what it read. -/
theorem Reads.map {g : α → β} (h : Reads r written value) :
    Reads (do let value ← r; Pure.pure (g value)) written (g value) := by
  intro rest
  rw [StateT.run_bind, h]
  rfl

/-- A parser reads to the end what was written. -/
theorem Reads.bind_end (h : Reads r written value) (hend : (f value).run written' = some (result, [])) :
    (r >>= f).run (written ++ written') = some (result, []) := by
  rw [StateT.run_bind, h]
  exact hend

theorem Reads.whole (h : Reads r written value) : whole r written = some value := by
  have hrun : r.run written = some (value, []) := by
    have := h []
    rwa [List.append_nil] at this
  rw [parsing.whole, hrun]

/-- An input with something left over is not read to its end. -/
theorem Reads.whole_append (h : Reads r written value) {rest : List σ} (hrest : rest ≠ []) :
    parsing.whole r (written ++ rest) = none := by
  obtain ⟨symbol, rest, rfl⟩ := List.exists_cons_of_ne_nil hrest
  rw [parsing.whole, h]

theorem reads_one (symbol : σ) : Reads one [symbol] symbol := fun _ => rfl

theorem reads_exactly {n : Nat} {symbols : List σ} (h : symbols.length = n) :
    Reads (exactly n) symbols symbols := by
  subst h
  intro rest
  change (if _ then _ else _) = _
  rw [if_pos (by simp), List.take_left, List.drop_left]

theorem reads_times {ι : Type} {items : List ι} {write : ι → List σ} {value : ι → α}
    (h : ∀ item ∈ items, Reads r (write item) (value item)) :
    Reads (times items.length r) (items.flatMap write) (items.map value) := by
  induction items with
  | nil => exact Reads.pure
  | cons item items ih =>
    have hitem := h item (by simp)
    have hitems := ih fun item hmem => h item (by simp [hmem])
    rw [List.flatMap_cons, List.map_cons]
    exact hitem.bind hitems.map

/-- A list that ends with the input, if no item is written as nothing. -/
theorem untilEnd_run {write : α → List σ} {values : List α} {atMost : Nat}
    (h : ∀ value ∈ values, Reads r (write value) value) (hwritten : ∀ value ∈ values, write value ≠ [])
    (hmost : values.length ≤ atMost) : (untilEnd r atMost).run (values.flatMap write) = some (values, []) := by
  induction values generalizing atMost with
  | nil => cases atMost <;> rfl
  | cons value values ih =>
    cases atMost with
    | zero => simp at hmost
    | succ atMost =>
      have hvalues := ih (fun value hmem => h value (by simp [hmem]))
        (fun value hmem => hwritten value (by simp [hmem])) (by simpa using hmost)
      have hsome : (write value ++ values.flatMap write).isEmpty = false := by
        simp [hwritten value (by simp)]
      rw [List.flatMap_cons, untilEnd]
      change (if _ then _ else _) = _
      rw [hsome, if_neg Bool.false_ne_true]
      refine (h value (by simp)).bind_end ?_
      rw [StateT.run_bind, hvalues]
      rfl

end Reads

/-- What a parser reads does not depend on what follows it. -/
def Local (r : Reader σ α) : Prop :=
  ∀ ⦃input value rest⦄, r.run input = some (value, rest) →
    ∃ written, input = written ++ rest ∧ Reads r written value

/-- Every value that a parser reads meets `post`. -/
def Ensures (r : Reader σ α) (post : α → Prop) : Prop :=
  ∀ ⦃input value rest⦄, r.run input = some (value, rest) → post value

section Local

variable {r : Reader σ α} {f : α → Reader σ β} {post : α → Prop} {p : Prop} [Decidable p]

/-- A sequence that succeeds, in its two parts. -/
theorem run_bind_eq_some {input rest : List σ} {result : β} (h : (r >>= f).run input = some (result, rest)) :
    ∃ value between, r.run input = some (value, between) ∧ (f value).run between = some (result, rest) := by
  rw [StateT.run_bind] at h
  obtain ⟨⟨value, between⟩, hread, hnext⟩ := Option.bind_eq_some_iff.mp h
  exact ⟨value, between, hread, hnext⟩

theorem Local.pure (value : α) : Local (Pure.pure value : Reader σ α) := by
  intro input value' rest h
  cases h
  exact ⟨[], rfl, Reads.pure⟩

/-- Two readers in sequence look no further than each of them. -/
theorem Local.bind (h : Local r) (hnext : ∀ value, Local (f value)) : Local (r >>= f) := by
  intro input result rest hrun
  obtain ⟨value, between, hread, hrest⟩ := run_bind_eq_some hrun
  obtain ⟨written, rfl, hwritten⟩ := h hread
  obtain ⟨written', rfl, hwritten'⟩ := hnext value hrest
  exact ⟨written ++ written', (List.append_assoc ..).symm, hwritten.bind hwritten'⟩

theorem Local.guarded (h : ¬ p → Local r) : Local (if p then failure else r) := by
  intro input value rest hrun
  by_cases hp : p
  · rw [if_pos hp] at hrun
    cases hrun
  · rw [if_neg hp] at hrun ⊢
    exact h hp hrun

theorem local_one : Local (one : Reader σ σ) := by
  intro input symbol rest h
  cases input with
  | nil => cases h
  | cons first input =>
    cases h
    exact ⟨[symbol], rfl, reads_one symbol⟩

theorem local_exactly (n : Nat) : Local (exactly n : Reader σ (List σ)) := by
  intro input symbols rest h
  change (if _ then _ else _) = _ at h
  split at h
  · rename_i hle
    cases h
    exact ⟨input.take n, (List.take_append_drop ..).symm, reads_exactly (List.length_take_of_le hle)⟩
  · cases h

theorem Ensures.pure {value : α} (h : post value) : Ensures (Pure.pure value : Reader σ α) post := by
  intro input value' rest hrun
  cases hrun
  exact h

/-- The second reader may rely on what the first ensures. -/
theorem Ensures.bind {post' : β → Prop} (h : Ensures r post) (hnext : ∀ value, post value → Ensures (f value) post') :
    Ensures (r >>= f) post' := by
  intro input result rest hrun
  obtain ⟨value, between, hread, hrest⟩ := run_bind_eq_some hrun
  exact hnext value (h hread) hrest

/-- A part of which nothing needs to be known. -/
theorem Ensures.skip {post' : β → Prop} (hnext : ∀ value, Ensures (f value) post') : Ensures (r >>= f) post' := by
  intro input result rest hrun
  obtain ⟨value, between, -, hrest⟩ := run_bind_eq_some hrun
  exact hnext value hrest

theorem Ensures.guarded (h : ¬ p → Ensures r post) : Ensures (if p then failure else r) post := by
  intro input value rest hrun
  by_cases hp : p
  · rw [if_pos hp] at hrun
    cases hrun
  · rw [if_neg hp] at hrun
    exact h hp hrun

theorem Ensures.failure : Ensures (Alternative.failure : Reader σ α) post := by
  rintro input value rest ⟨⟩

theorem Ensures.ite {r' : Reader σ α} (h : Ensures r post) (h' : Ensures r' post) :
    Ensures (if p then r else r') post := by
  split
  · exact h
  · exact h'

theorem ensures_exactly (n : Nat) : Ensures (exactly n : Reader σ (List σ)) (·.length = n) := by
  intro input symbols rest h
  change (if _ then _ else _) = _ at h
  split at h
  · rename_i hle
    cases h
    exact List.length_take_of_le hle
  · cases h

/-- A counted list has its length, and each item what its reader ensures. -/
theorem ensures_times (n : Nat) (h : Ensures r post) :
    Ensures (times n r) fun values => values.length = n ∧ ∀ value ∈ values, post value := by
  induction n with
  | zero => exact .pure ⟨rfl, by simp⟩
  | succ n ih =>
    refine h.bind fun value hvalue => ih.bind fun values hvalues => .pure ⟨congrArg Nat.succ hvalues.1, ?_⟩
    exact List.forall_mem_cons.mpr ⟨hvalue, hvalues.2⟩

end Local

section Whole

variable {r : Reader σ α} {f : α → Reader σ β} {input : List σ}

/-- To read all of the input is to leave nothing. -/
theorem whole_eq_some {value : α} : whole r input = some value ↔ r.run input = some (value, []) := by
  unfold whole
  split
  · rename_i heq
    simp [heq]
  · rename_i hother
    constructor
    · intro h
      cases h
    · intro h
      exact absurd h (hother value)

/-- Two readers of all of the input: the second gets what the first leaves. -/
theorem whole_bind : whole (r >>= f) input = (r.run input).bind fun read => whole (f read.1) read.2 := by
  apply Option.ext
  intro result
  rw [whole_eq_some, StateT.run_bind, Option.bind_eq_bind, Option.bind_eq_some_iff, Option.bind_eq_some_iff]
  simp only [whole_eq_some]

theorem whole_one_bind {f : σ → Reader σ β} {symbol : σ} :
    whole (one >>= f) (symbol :: input) = whole (f symbol) input := rfl

theorem whole_exactly_bind {f : List σ → Reader σ β} {n : Nat} :
    whole (exactly n >>= f) input =
      if n ≤ input.length then whole (f (input.take n)) (input.drop n) else none := by
  rw [whole_bind]
  change Option.bind (if _ then _ else _) _ = _
  split <;> rfl

theorem whole_pure {value : α} :
    whole (pure value : Reader σ α) input = if input.length ≠ 0 then none else some value := by
  cases input <;> rfl

/-- The last check: nothing is left, and what was read is acceptable. -/
theorem whole_ended {p : Prop} [Decidable p] {value : α} :
    whole (if p then failure else pure value : Reader σ α) input =
      if input.length ≠ 0 ∨ p then none else some value := by
  by_cases hp : p
  · rw [if_pos hp, if_pos (Or.inr hp)]
    rfl
  · simp only [if_neg hp, whole_pure, or_iff_left hp]

/-- A last step that checks what was read, or puts it together. -/
theorem whole_checked {p : α → Prop} [DecidablePred p] {g : α → β} :
    whole (do let value ← r; if p value then failure else pure (g value)) input =
      (whole r input).bind fun value => if p value then none else some (g value) := by
  rw [whole_bind, whole]
  cases r.run input with
  | none => rfl
  | some read =>
    obtain ⟨value, rest⟩ := read
    rw [Option.bind_some, whole_ended]
    cases rest with
    | nil => simp
    | cons symbol rest => simp

theorem whole_map {g : α → β} : whole (do let value ← r; pure (g value)) input = (whole r input).map g := by
  rw [whole_bind, whole]
  cases r.run input with
  | none => rfl
  | some read =>
    obtain ⟨value, rest⟩ := read
    cases rest <;> rfl

/-- A local reader that has read all of an input reads it off anything. -/
theorem Local.whole (h : Local r) {value : α} (hwhole : whole r input = some value) : Reads r input value := by
  obtain ⟨written, hwritten, hreads⟩ := h (whole_eq_some.mp hwhole)
  rwa [hwritten, List.append_nil]

end Whole

/-- A writer and a decoder agree on the values within `limits`: these are read
back; whatever is accepted is within the limits and is read again from its own
encoding; and nothing is accepted with bytes added or left off at its end. -/
structure Agrees (write : α → List σ) (read : List σ → Option α) (limits : α → Prop) : Prop where
  read_write : ∀ value, limits value → read (write value) = some value
  within : ∀ input value, read input = some value → limits value
  rewritten : ∀ input value, read input = some value → read (write value) = some value
  trailing : ∀ input rest value, read input = some value → rest ≠ [] → read (input ++ rest) = none
  missing : ∀ input rest value, read (input ++ rest) = some value → rest ≠ [] → read input = none

section Agrees

variable {write : α → List σ} {read : List σ → Option α} {limits : α → Prop}

/-- A codec agrees with its packet if it reads back what it writes, reads only what is
within the limits, and refuses anything behind a packet. -/
theorem Agrees.of_trailing (hwrite : ∀ value, limits value → read (write value) = some value)
    (hwithin : ∀ input value, read input = some value → limits value)
    (htrailing : ∀ input rest value, read input = some value → rest ≠ [] → read (input ++ rest) = none) :
    Agrees write read limits where
  read_write := hwrite
  within := hwithin
  rewritten input value h := hwrite value (hwithin input value h)
  trailing := htrailing
  missing input rest value h hrest := by
    cases hread : read input with
    | none => rfl
    | some value' =>
      rw [htrailing input rest value' hread hrest] at h
      cases h

/-- A decoder that is a parser run to the end of its input agrees with a writer
of what the parser reads. -/
theorem Agrees.of_reader {r : Reader σ α} (hread : ∀ input, read input = whole r input) (hlocal : Local r)
    (hwrite : ∀ value, limits value → Reads r (write value) value) (hlimits : Ensures r limits) :
    Agrees write read limits := by
  refine Agrees.of_trailing ?_ ?_ ?_
  · intro value hvalue
    rw [hread]
    exact (hwrite value hvalue).whole
  · intro input value h
    rw [hread] at h
    exact hlimits (whole_eq_some.mp h)
  · intro input rest value h hrest
    rw [hread] at h ⊢
    exact (hlocal.whole h).whole_append hrest

end Agrees

section Offsets

variable {ε : Type} {r : Reader σ α} {f : α → Reader σ β} {data : List σ}

/-- Code that reads what the parser reads and returns the offset where it ends. -/
def Measures (m : Outcome ε (α × Nat)) (r : Reader σ α) (data : List σ) : Prop :=
  m.toOption = (r.run data).map fun read => (read.1, data.length - read.2.length)

theorem Local.rest_length_le (h : Local r) {value : α} {rest : List σ} (hrun : r.run data = some (value, rest)) :
    rest.length ≤ data.length := by
  obtain ⟨written, rfl, -⟩ := h hrun
  simp

/-- The slice behind what a reader has consumed is what it leaves. -/
theorem sliceFrom_rest (h : Local r) {value : α} {rest : List σ} (hrun : r.run data = some (value, rest)) :
    (sliceFrom data (data.length - rest.length) : Outcome ε (List σ)) = .Ok rest := by
  obtain ⟨written, rfl, -⟩ := h hrun
  have hoffset : (written ++ rest).length - rest.length = written.length := by simp
  rw [hoffset, sliceFrom_ok (by simp), List.drop_left]

/-- Code that goes on from the offset reads what the parser reads after its
first part. -/
theorem Measures.bind {m : Outcome ε (α × Nat)} (h : Measures m r data) {next : α × Nat → Outcome ε β}
    (hnext : ∀ value rest, r.run data = some (value, rest) →
      (next (value, data.length - rest.length)).toOption = whole (f value) rest) :
    (m >>= next).toOption = whole (r >>= f) data := by
  rw [Outcome.toOption_bind, h, whole_bind]
  cases hrun : r.run data with
  | none => rfl
  | some read => exact hnext read.1 read.2 hrun

/-- A parser that first consumes what `r` reads and then goes on as `f` reads what
both read in sequence. -/
theorem toOption_bind_eq_whole {m : Outcome ε (α × List σ)} (h : m.toOption = r.run data)
    {next : α × List σ → Outcome ε β}
    (hnext : ∀ value rest, r.run data = some (value, rest) → (next (value, rest)).toOption = whole (f value) rest) :
    (m >>= next).toOption = whole (r >>= f) data := by
  rw [Outcome.toOption_bind, h, whole_bind]
  cases hrun : r.run data with
  | none => rfl
  | some read => exact hnext read.1 read.2 hrun

/-- A check that fails on both sides. -/
theorem guarded_eq_whole {p : Prop} [Decidable p] {err : ε} {m : Outcome ε α}
    (h : ¬ p → m.toOption = whole r data) :
    (if p then .Fail err else m).toOption = whole (if p then failure else r) data := by
  by_cases hp : p
  · rw [if_pos hp, if_pos hp]
    rfl
  · rw [if_neg hp, if_neg hp]
    exact h hp

/-- The last check of a parser, that nothing is left, together with its others. -/
theorem ended_eq_whole {p : Prop} [Decidable p] {err : ε} {value : α} :
    (if data.length ≠ 0 ∨ p then .Fail err else .Ok value : Outcome ε α).toOption =
      whole (if p then failure else pure value) data := by
  rw [whole_ended]
  split <;> rfl

end Offsets

end parsing
