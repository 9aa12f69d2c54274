import RegionGate.Server.Accounting

open execution

namespace regiongate.server.serve.Server

variable {host : Nat → Bytes} {limits : Limits} {s s' : Server} {conn : Nat} {a : Action}

/-- The shutdown goroutine does not take the case of a returned `Serve` when its
context is cancelled as well. -/
def prefersContext (s : Server) (a : Action) : Prop := a = .TakeDone → s.ctx_done = false

instance : Decidable (s.prefersContext a) := inferInstanceAs (Decidable (_ → _))

/-- `Serve` returns for its context only when that is cancelled, and tells its
goroutine when it has returned. -/
structure Returns (s : Server) : Prop where
  cancelled : s.loop = .Returning .Cancelled ∨ s.loop = .Returned .Cancelled → s.ctx_done = true
  done : s.shutdown_done = true → ∃ reason, s.loop = .Returned reason

/-- Where the shutdown goroutine has got to. -/
structure Closing (s : Server) : Prop where
  cancelled : s.shutdown = .CloseListener ∨ s.shutdown = .CloseConnections ∨ s.shutdown = .ClosedAll →
    s.ctx_done = true
  listener : s.shutdown = .CloseConnections ∨ s.shutdown = .ClosedAll → s.listener_closed = true
  skipped : s.shutdown = .Skipped → ∃ reason, reason ≠ .Cancelled ∧ s.loop = .Returned reason

/-- A connection is closed, or the loop or its goroutine will see to it; after
the shutdown only the loop can have an open one that is tracked. -/
structure Closed (s : Server) : Prop where
  client : ∀ c, s.location c = .ClientClosed → s.closed c = true
  all : ∀ c, c < s.next → s.closed c = true ∨ s.loop.hand = some c ∨ c ∈ s.conns
  tracked : s.shutdown = .ClosedAll → ∀ c ∈ s.conns, s.closed c = true ∨ s.loop = .Tracked c

/-- One step: `Serve` gives its context as the reason only when that is done. -/
theorem effect_returns (h : s.Returns) (heffect : Effect host limits s a s') : s'.Returns := by
  obtain ⟨hcancelled, hdone⟩ := h
  cases heffect with
  | goes hgoes => cases hgoes <;> exact ⟨hcancelled, hdone⟩
  | _ => constructor <;> simp_all [close, move, close_connections]

/-- One step: the goroutine that closes everything has seen the context done, and
skips its work only when `Serve` has returned for another reason. -/
theorem effect_closing (hreturns : s.Returns) (h : s.Closing) (hallowed : s.prefersContext a)
    (heffect : Effect host limits s a s') : s'.Closing := by
  obtain ⟨hcancelled, hlistener, hskipped⟩ := h
  cases heffect with
  | goes hgoes => cases hgoes <;> exact ⟨hcancelled, hlistener, hskipped⟩
  | takesDone hshutdown hdone =>
    refine ⟨nofun, nofun, fun _ => ?_⟩
    obtain ⟨reason, hloop⟩ := hreturns.done hdone
    refine ⟨reason, ?_, hloop⟩
    rintro rfl
    have hctx := hreturns.cancelled (.inr hloop)
    rw [hallowed rfl] at hctx
    cases hctx
  | _ => constructor <;> simp_all [close, move, close_connections]

/-- A step that opens nothing and closes nothing that counts. -/
theorem Closed.kept (h : s.Closed) (hlocation : ∀ c, s'.location c = .ClientClosed → s.location c = .ClientClosed)
    (hclosed : ∀ c, s.closed c = true → s'.closed c = true) (hnext : s'.next = s.next)
    (hhand : ∀ c, s.loop.hand = some c → s'.closed c = true ∨ s'.loop.hand = some c ∨ c ∈ s'.conns)
    (hconns : s'.conns = s.conns) (hshutdown : s'.shutdown = .ClosedAll → s.shutdown = .ClosedAll)
    (htracked : s'.shutdown = .ClosedAll → ∀ c, s.loop = .Tracked c → s'.closed c = true ∨ s'.loop = .Tracked c) :
    s'.Closed where
  client c hc := hclosed c (h.client c (hlocation c hc))
  all c hc := by
    obtain hc | hc | hc := h.all c (hnext ▸ hc)
    · exact .inl (hclosed c hc)
    · exact hhand c hc
    · exact .inr (.inr (hconns ▸ hc))
  tracked hall c hc := by
    obtain hc | hc := h.tracked (hshutdown hall) c (hconns ▸ hc)
    · exact .inl (hclosed c hc)
    · exact htracked hall c hc

theorem clientClosed_move {l : ConnLocation} {c : Nat} (hl : l ≠ .ClientClosed)
    (hc : (s.move conn l).location c = .ClientClosed) : s.location c = .ClientClosed := by
  rw [move_location] at hc
  split at hc
  · exact absurd hc hl
  · exact hc

/-- A goroutine that moves on without closing or untracking its connection. -/
theorem Closed.move {l : ConnLocation} (h : s.Closed) (hl : l ≠ .ClientClosed)
    (hlocation : s'.location = (s.move conn l).location) (hclosed : ∀ c, s.closed c = true → s'.closed c = true)
    (hnext : s'.next = s.next) (hloop : s'.loop = s.loop) (hconns : s'.conns = s.conns)
    (hshutdown : s'.shutdown = s.shutdown) : s'.Closed := by
  refine h.kept (fun c hc => clientClosed_move hl (hlocation ▸ hc)) hclosed hnext (fun c hc => ?_) hconns
    (fun hall => hshutdown ▸ hall) fun _ c hc => .inr (hloop.trans hc)
  exact .inr (.inl (by rwa [hloop]))

theorem closed_close (c : Nat) (hc : s.closed c = true) : (s.close conn).closed c = true := by
  simp [close, Function.update_apply, hc]

theorem ConnEffect.closed (h : s.Closed) (hgoes : ConnEffect host s conn s') : s'.Closed := by
  cases hgoes with
  | closesClient hlocation =>
    have hkept : ({ s.close conn with location := s.location } : Server).Closed :=
      h.kept (fun _ => id) closed_close rfl (fun _ hc => .inr (.inl hc)) rfl id fun _ _ hc => .inr hc
    refine ⟨fun c hc => ?_, hkept.all, hkept.tracked⟩
    by_cases hsame : c = conn
    · simp [hsame, Server.move, close]
    · rw [move_location, if_neg hsame] at hc
      exact closed_close c (h.client c hc)
  | untracks hlocation =>
    have hconn := h.client conn hlocation
    refine ⟨fun c hc => h.client c (clientClosed_move (by simp) hc), fun c hc => ?_, fun hall c hc => ?_⟩
    · obtain hc | hc | hc := h.all c hc
      · exact .inl hc
      · exact .inr (.inl hc)
      · by_cases hsame : c = conn
        · exact .inl (hsame ▸ hconn)
        · exact .inr (.inr (Finset.mem_erase.mpr ⟨hsame, hc⟩))
    · exact h.tracked hall c (Finset.mem_of_mem_erase hc)
  | closes hlocation => exact h.move (by simp) rfl closed_close rfl rfl rfl rfl
  | _ => exact h.move (by simp) rfl (fun _ => id) rfl rfl rfl rfl

/-- One step: after everything has been closed, an open connection that is tracked is
in the hands of the accept loop. A connection accepted in between is the case that
counts. -/
theorem effect_closed (htracking : s.Tracking host limits) (hclosing : s.Closing) (h : s.Closed)
    (heffect : Effect host limits s a s') : s'.Closed := by
  cases heffect with
  | goes hgoes => exact hgoes.closed h
  | returns hlocation => exact h.move (by simp) rfl (fun _ => id) rfl rfl rfl rfl
  | accept hloop hopen =>
    refine ⟨h.client, fun c hc => ?_, fun hall c hc => ?_⟩
    · by_cases hnew : c = s.next
      · exact .inr (.inl (by rw [hnew]; rfl))
      · have hlt : c < s.next + 1 := hc
        obtain hc | hc | hc := h.all c (by omega)
        · exact .inl hc
        · simp [hloop, LoopLocation.hand] at hc
        · exact .inr (.inr hc)
    · obtain hc | hc := h.tracked hall c hc
      · exact .inl hc
      · simp [hloop] at hc
  | @tracked conn hloop hcount =>
    refine ⟨h.client, fun c hc => ?_, fun hall c hc => ?_⟩
    · obtain hc | hc | hc := h.all c hc
      · exact .inl hc
      · obtain rfl : conn = c := by simpa [hloop, LoopLocation.hand] using hc
        exact .inr (.inl rfl)
      · exact .inr (.inr (Finset.mem_insert_of_mem hc))
    · obtain rfl | hc := Finset.mem_insert.mp hc
      · exact .inr rfl
      · obtain hc | hc := h.tracked hall c hc
        · exact .inl hc
        · simp [hloop] at hc
  | kept hloop hctx =>
    -- After the shutdown the context is cancelled, so the loop would close.
    refine h.kept (fun _ => id) (fun _ => id) rfl (fun c hc => ?_) rfl id fun hall => ?_
    · exact .inr (.inl (by simpa [hloop, LoopLocation.hand] using hc))
    · have hcancelled := hclosing.cancelled (.inr (.inr hall))
      simp [hctx] at hcancelled
  | @spawned conn hloop =>
    have hconn : conn ∈ s.conns := (htracking.conns conn).mpr (.inl (by rw [hloop]; rfl))
    refine h.kept (fun c hc => clientClosed_move (by simp) hc) (fun _ => id) rfl (fun c hc => ?_) rfl id ?_
    · obtain rfl : conn = c := by simpa [hloop, LoopLocation.hand] using hc
      exact .inr (.inr hconn)
    · simp [hloop]
  | closesConnections hshutdown =>
    have hgrows : ∀ c, s.closed c = true → s.close_connections.closed c = true := by
      intro c hc
      simp [close_connections, hc]
    refine ⟨fun c hc => hgrows c (h.client c hc), fun c hc => ?_, fun _ c hc => ?_⟩
    · exact (h.all c hc).imp_left (hgrows c)
    · have hmem : c ∈ s.conns := hc
      simp [close_connections, hmem]
  | _ =>
    refine h.kept ?_ ?_ rfl ?_ rfl ?_ ?_ <;> simp_all [LoopLocation.hand, close, Function.update_apply]

/-- Everything that a step keeps when the goroutine prefers its context. -/
structure ShutdownInvariant (host : Nat → Bytes) (limits : Limits) (s : Server) : Prop where
  accounting : s.Invariant host limits
  returns : s.Returns
  closing : s.Closing
  closed : s.Closed

theorem start_shutdownInvariant : start.ShutdownInvariant host limits where
  accounting := start_invariant
  returns := ⟨by simp [start], nofun⟩
  closing := ⟨by simp [start], by simp [start], nofun⟩
  closed := ⟨nofun, nofun, nofun⟩

theorem step_shutdownInvariant (h : s.ShutdownInvariant host limits) (hallowed : s.prefersContext a)
    (hstep : s.step host limits a = some s') : s'.ShutdownInvariant host limits := by
  have heffect := step_effect hstep
  exact ⟨step_invariant h.accounting hstep, effect_returns h.returns heffect,
    effect_closing h.returns h.closing hallowed heffect,
    effect_closed h.accounting.tracking h.closing h.closed heffect⟩

/-- `Serve` has returned for its cancelled context, and its goroutine ended. -/
def ShutDown (s : Server) : Prop :=
  s.loop = .Returned .Cancelled ∧ (s.shutdown = .ClosedAll ∨ s.shutdown = .Skipped)

instance : Decidable s.ShutDown := inferInstanceAs (Decidable (_ ∧ _))

/-- Nothing is left open. -/
structure NothingOpen (s : Server) : Prop where
  listener : s.listener_closed = true
  accepted : ∀ c, c < s.next → s.location c = .Ended ∨ s.closed c = true
  tracked : ∀ c ∈ s.conns, s.closed c = true

/-- In every run in which the shutdown goroutine prefers the context over the
return of `Serve`, everything is closed once both have ended after a
cancellation. -/
theorem shutdown_closes_all {acts : List Action} (run : Runs (step host limits) prefersContext start acts s)
    (hshutdown : s.ShutDown) : s.NothingOpen := by
  have h : s.ShutdownInvariant host limits :=
    run.invariant start_shutdownInvariant fun h hallowed hstep => step_shutdownInvariant h hallowed hstep
  obtain ⟨hloop, hfinished⟩ := hshutdown
  have hall : s.shutdown = .ClosedAll := by
    refine hfinished.resolve_right fun hskipped => ?_
    obtain ⟨reason, hreason, hloop'⟩ := h.closing.skipped hskipped
    rw [hloop] at hloop'
    cases hloop'
    exact hreason rfl
  have htracked : ∀ c ∈ s.conns, s.closed c = true := fun c hc =>
    (h.closed.tracked hall c hc).resolve_right (by simp [hloop])
  refine ⟨h.closing.listener (.inr hall), fun c hc => .inr ?_, htracked⟩
  obtain hclosed | hhand | hconns := h.closed.all c hc
  · exact hclosed
  · simp [hloop, LoopLocation.hand] at hhand
  · exact htracked c hconns

/-- A connection is being served when the context is cancelled. -/
def servingActions : List Action := [.Accept, .Loop, .Loop, .Loop, .Loop, .Loop, .Loop, .Goes 0, .Cancel]

theorem shutdown_closes_all_one_connection :
    ∃ s, Runs (step (fun _ => []) ⟨4, 4⟩) prefersContext start
        (servingActions ++ [.TakeContext, .Shutdown, .Shutdown, .AcceptFails true, .Loop]) s ∧
      s.ShutDown ∧ s.NothingOpen := by
  obtain ⟨s, run, hobserved⟩ : ∃ s, Runs (step (fun _ => []) ⟨4, 4⟩) prefersContext start
      (servingActions ++ [.TakeContext, .Shutdown, .Shutdown, .AcceptFails true, .Loop]) s ∧
      decide s.ShutDown = true :=
    Runs.of_exec (fun _ _ hok => of_decide_eq_true hok) _ (by decide +kernel)
  have hshutdown := of_decide_eq_true hobserved
  exact ⟨s, run, hshutdown, shutdown_closes_all run hshutdown⟩

/-- A connection that arrives after the cancellation makes `Serve` return by
itself; its goroutine can then see both cases ready and take the one that
closes nothing, and the connection that was being served stays open. -/
theorem late_connection_skips_shutdown :
    ∃ s, Reaches (step (fun _ => []) ⟨4, 4⟩) start (servingActions ++ [.Accept, .Loop, .Loop, .TakeDone]) s ∧
      s.ShutDown ∧ s.listener_closed = false ∧ 0 ∈ s.conns ∧ s.closed 0 = false ∧ s.location 0 = .Handshake := by
  obtain ⟨s, run, hobserved⟩ : ∃ s, Reaches (step (fun _ => []) ⟨4, 4⟩) start
      (servingActions ++ [.Accept, .Loop, .Loop, .TakeDone]) s ∧
      decide (s.ShutDown ∧ s.listener_closed = false ∧ 0 ∈ s.conns ∧ s.closed 0 = false ∧
        s.location 0 = .Handshake) = true :=
    Reaches.of_exec _ (by decide +kernel)
  exact ⟨s, run, of_decide_eq_true hobserved⟩

end regiongate.server.serve.Server
