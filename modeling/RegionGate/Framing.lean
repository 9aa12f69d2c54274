import Mathlib.Data.List.Basic
import Mathlib.Data.List.Infix

namespace framing

variable {σ β ρ : Type} {step : σ → β → σ ⊕ ρ} {s s' : σ} {r : ρ} {xs ys rest : List β}

/-- Feeding symbols to a reader until it has a result. The symbols after the
result stay unread. -/
def feed (step : σ → β → σ ⊕ ρ) : σ → List β → σ ⊕ (ρ × List β)
  | s, [] => .inl s
  | s, b :: rest =>
    match step s b with
    | .inl s' => feed step s' rest
    | .inr r => .inr (r, rest)

@[simp] theorem feed_nil : feed step s [] = .inl s := rfl

/-- A reader that has no result yet goes on with what follows. -/
theorem feed_append_of_waiting (h : feed step s xs = .inl s') :
    feed step s (xs ++ ys) = feed step s' ys := by
  induction xs generalizing s with
  | nil =>
    obtain rfl : s = s' := by simpa using h
    rfl
  | cons b xs ih =>
    rw [List.cons_append, feed]
    rw [feed] at h
    cases hstep : step s b with
    | inl next =>
      rw [hstep] at h
      exact ih h
    | inr r => simp [hstep] at h

/-- Symbols after the result do not change it. -/
theorem feed_append_of_result (h : feed step s xs = .inr (r, rest)) :
    feed step s (xs ++ ys) = .inr (r, rest ++ ys) := by
  induction xs generalizing s with
  | nil => simp at h
  | cons b xs ih =>
    rw [List.cons_append, feed]
    rw [feed] at h
    cases hstep : step s b with
    | inl next =>
      rw [hstep] at h
      exact ih h
    | inr other =>
      simp only [hstep, Sum.inr.injEq, Prod.mk.injEq] at h ⊢
      exact ⟨h.1, by rw [h.2]⟩

/-- A result takes at least one symbol. -/
theorem feed_consumes (h : feed step s xs = .inr (r, rest)) : rest.length < xs.length := by
  induction xs generalizing s with
  | nil => simp at h
  | cons b xs ih =>
    rw [feed] at h
    cases hstep : step s b with
    | inl next =>
      rw [hstep] at h
      have hrest := ih h
      rw [List.length_cons]
      omega
    | inr other =>
      simp only [hstep, Sum.inr.injEq, Prod.mk.injEq] at h
      rw [← h.2, List.length_cons]
      omega

/-- Some step made the result. -/
theorem feed_result (h : feed step s xs = .inr (r, rest)) : ∃ last b, step last b = .inr r := by
  induction xs generalizing s with
  | nil => simp at h
  | cons b xs ih =>
    rw [feed] at h
    cases hstep : step s b with
    | inl next =>
      rw [hstep] at h
      exact ih h
    | inr other =>
      simp only [hstep, Sum.inr.injEq, Prod.mk.injEq] at h
      exact ⟨s, b, by rw [hstep, h.1]⟩

/-- `code` is one message: the reader has the result with its last symbol. -/
def Complete (step : σ → β → σ ⊕ ρ) (s : σ) (code : List β) (r : ρ) : Prop :=
  feed step s code = .inr (r, [])

/-- A complete message is read off whatever comes after it. -/
theorem Complete.append {code : List β} (h : Complete step s code r) (rest : List β) :
    feed step s (code ++ rest) = .inr (r, rest) :=
  feed_append_of_result h

/-- No proper beginning of a message has a result. -/
theorem Complete.waiting {code : List β} (h : Complete step s code r) (hbegin : xs <+: code)
    (hproper : xs.length < code.length) : ∃ next, feed step s xs = .inl next := by
  cases hfeed : feed step s xs with
  | inl next => exact ⟨next, rfl⟩
  | inr result =>
    obtain ⟨other, rest⟩ := result
    obtain ⟨more, rfl⟩ := hbegin
    have hall : feed step s (xs ++ more) = .inr (other, rest ++ more) := feed_append_of_result hfeed
    unfold Complete at h
    rw [h, Sum.inr.injEq, Prod.mk.injEq] at hall
    have hmore : rest.length + more.length = 0 := by
      rw [← List.length_append, ← hall.2, List.length_nil]
    rw [List.length_append] at hproper
    omega

section Decode

variable {α : Type} {accept : ρ → Option α} {start : σ} {data more : List β}

/-- The messages at the front of a stream, up to the first result that `accept`
refuses or the first message that is not complete, and the symbols from
there on. -/
def decode (step : σ → β → σ ⊕ ρ) (accept : ρ → Option α) (start : σ) :
    (fuel : Nat) → List β → List α × List β
  | 0, data => ([], data)
  | fuel + 1, data =>
    match feed step start data with
    | .inl _ => ([], data)
    | .inr (r, rest) =>
      match accept r with
      | none => ([], data)
      | some a =>
        (a :: (decode step accept start fuel rest).1, (decode step accept start fuel rest).2)

theorem decode_of_message {a : α} (fuel : Nat) (h : feed step start data = .inr (r, rest))
    (haccept : accept r = some a) :
    decode step accept start (fuel + 1) data =
      (a :: (decode step accept start fuel rest).1, (decode step accept start fuel rest).2) := by
  simp only [decode, h, haccept]

theorem decode_of_waiting (fuel : Nat) (h : feed step start data = .inl s) :
    decode step accept start fuel data = ([], data) := by
  cases fuel with
  | zero => rfl
  | succ fuel => rw [decode, h]

theorem decode_of_refused (fuel : Nat) (h : feed step start data = .inr (r, rest))
    (haccept : accept r = none) : decode step accept start fuel data = ([], data) := by
  cases fuel with
  | zero => rfl
  | succ fuel => simp only [decode, h, haccept]

/-- Every message takes a symbol, so as much fuel as there are symbols is
enough. -/
theorem decode_fuel (fuel : Nat) (h : data.length ≤ fuel) :
    decode step accept start fuel data = decode step accept start data.length data := by
  induction fuel using Nat.strong_induction_on generalizing data with
  | _ fuel ih =>
    cases hfeed : feed step start data with
    | inl next => rw [decode_of_waiting fuel hfeed, decode_of_waiting data.length hfeed]
    | inr result =>
      obtain ⟨r, rest⟩ := result
      cases haccept : accept r with
      | none => rw [decode_of_refused fuel hfeed haccept, decode_of_refused data.length hfeed haccept]
      | some a =>
        have hrest := feed_consumes hfeed
        obtain ⟨fuel, rfl⟩ : ∃ n, fuel = n + 1 := ⟨fuel - 1, by omega⟩
        obtain ⟨size, hsize⟩ : ∃ n, data.length = n + 1 := ⟨data.length - 1, by omega⟩
        rw [hsize, decode_of_message fuel hfeed haccept, decode_of_message size hfeed haccept,
          ih fuel (by omega) (by omega : rest.length ≤ fuel),
          ih size (by omega) (by omega : rest.length ≤ size)]

/-- The messages of a whole stream. -/
def decodeAll (step : σ → β → σ ⊕ ρ) (accept : ρ → Option α) (start : σ) (data : List β) :
    List α × List β :=
  decode step accept start data.length data

/-- The messages of a stream that starts with a whole one. -/
theorem decodeAll_of_message {a : α} (h : feed step start data = .inr (r, rest))
    (haccept : accept r = some a) :
    decodeAll step accept start data =
      (a :: (decodeAll step accept start rest).1, (decodeAll step accept start rest).2) := by
  have hrest := feed_consumes h
  obtain ⟨size, hsize⟩ : ∃ n, data.length = n + 1 := ⟨data.length - 1, by omega⟩
  unfold decodeAll
  rw [hsize, decode_of_message size h haccept, decode_fuel size (by omega)]

/-- The beginning of a message is not decoded. -/
theorem decodeAll_of_waiting (h : feed step start data = .inl s) :
    decodeAll step accept start data = ([], data) :=
  decode_of_waiting _ h

/-- One message alone. -/
theorem Complete.decodeAll {code : List β} {a : α} (h : Complete step start code r)
    (haccept : accept r = some a) : decodeAll step accept start code = ([a], []) := by
  rw [decodeAll_of_message h haccept, decodeAll_of_waiting feed_nil]

/-- A stream that ends with a message is decoded independently of what
follows. -/
theorem decodeAll_append (h : (decodeAll step accept start data).2 = []) :
    decodeAll step accept start (data ++ more) =
      ((decodeAll step accept start data).1 ++ (decodeAll step accept start more).1,
        (decodeAll step accept start more).2) := by
  induction hn : data.length using Nat.strong_induction_on generalizing data with
  | _ n ih =>
    cases hfeed : feed step start data with
    | inl next =>
      rw [decodeAll_of_waiting hfeed] at h
      obtain rfl : data = [] := h
      rfl
    | inr result =>
      obtain ⟨r, rest⟩ := result
      cases haccept : accept r with
      | none =>
        unfold decodeAll at h
        rw [decode_of_refused _ hfeed haccept] at h
        obtain rfl : data = [] := h
        simp at hfeed
      | some a =>
        have hrest := feed_consumes hfeed
        rw [decodeAll_of_message hfeed haccept] at h ⊢
        rw [decodeAll_of_message (feed_append_of_result hfeed) haccept, ih rest.length (by omega) h rfl]
        rfl

end Decode

end framing
