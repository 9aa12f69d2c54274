import RegionGate.App.Run

open execution

namespace regiongate.app

variable {ε : Type}

/-- The steps that a serving goroutine has left. -/
def ServingPoint.rank {ρ : Type} : ServingPoint ρ → Nat
  | .Serving => 2
  | .Ended _ => 1
  | .Sent _ => 0

/-- The steps that the goroutine around `Shutdown` has left. -/
def ShutdownPoint.rank : ShutdownPoint → Nat
  | .Waiting => 2
  | .Shutting => 1
  | .Finished => 0

theorem ServingPoint.rank_le {ρ : Type} (point : ServingPoint ρ) : point.rank ≤ 2 := by
  cases point <;> simp [rank]

theorem ShutdownPoint.rank_le (point : ShutdownPoint) : point.rank ≤ 2 := by
  cases point <;> simp [rank]

/-- The steps that both goroutines of an HTTP server have left. -/
def HttpServer.rank (h : HttpServer ε) : Nat := h.serving.rank + h.shutdown.rank

/-- The steps that `Run` has left, in the longest way through its `select`. -/
def RunPoint.rank : RunPoint ε → Nat
  | .Select => 4
  | .Drain => 3
  | .CloseListener _ => 2
  | .CancelRun _ => 1
  | .Returned _ => 0

/-- Every step of an HTTP server is one towards its end. -/
theorem HttpEffect.rank_lt {done : Bool} {h h' : HttpServer ε} {a : HttpAction ε} (heffect : HttpEffect done h a h') :
    h'.rank < h.rank := by
  cases heffect with
  | Fail hserving | Closed hserving | Send hserving => simp [HttpServer.rank, hserving, ServingPoint.rank]
  | Shutdown hshutdown | ShutdownReturns hshutdown => simp [HttpServer.rank, hshutdown, ShutdownPoint.rank]

/-- A server that is to be shut down has a step to take until it is down. -/
theorem HttpServer.ready {h : HttpServer ε} (hfine : h.Fine true) (hleft : h.rank ≠ 0) :
    ∃ action h', (∀ err, action ≠ .Fail err) ∧ h.act true action = some h' := by
  cases hshutdown : h.shutdown with
  | Waiting => exact ⟨.Shutdown, { h with shutdown := .Shutting }, by simp, by simp only [HttpServer.act, hshutdown]⟩
  | Shutting =>
    exact ⟨.ShutdownReturns, { h with shutdown := .Finished }, by simp, by simp only [HttpServer.act, hshutdown]⟩
  | Finished =>
    cases hserving : h.serving with
    | Serving =>
      refine ⟨.Closed, { h with serving := .Ended .ServerClosed }, by simp, ?_⟩
      simp only [HttpServer.act, hserving, hshutdown]
    | Ended result =>
      have hroom := hfine.room (by simp [hserving])
      refine ⟨.Send, { h with serving := .Sent result, channel := some result }, by simp, ?_⟩
      simp only [HttpServer.act, hserving, hroom]
    | Sent result => simp [HttpServer.rank, hserving, hshutdown, ServingPoint.rank, ShutdownPoint.rank] at hleft

namespace Running

variable {s s' : Running ε} {a : RunAction ε}

/-- The steps that nothing outside has to bring about. -/
def Own : RunAction ε → Prop
  | .CancelCtx | .Accept | .AcceptFails _ | .Http _ (.Fail _) => False
  | _ => True

/-- The steps that one of the HTTP servers has left, if it has been started. -/
def httpRank (s : Running ε) (service : Service) : Nat := (s.http service).elim 0 HttpServer.rank

/-- How many steps are left to the end. -/
def distance (s : Running ε) : Nat :=
  s.point.rank + s.gateway.rank + s.closing.toNat + s.httpRank .Health + s.httpRank .Pprof

/-- `Run` is on its way out. -/
def Stopping (s : Running ε) : Prop := s.ctx_done = true ∨ (s.point ≠ .Select ∧ s.point ≠ .Drain)

/-- `Run` is back, and none of the goroutines that serve and shut down is left. -/
structure Over (s : Running ε) : Prop where
  returned : ∃ result, s.point = .Returned result
  gateway : s.gateway.rank = 0
  closing : s.closing = false
  http : ∀ service, s.httpRank service = 0

/-- The program itself has a step to take. -/
def Ready (s : Running ε) : Prop := ∃ a, Own a ∧ s.step a ≠ none

/-- `Serve`, or the goroutine that closes its listener, can go on when something of
them is left and `runCtx` is done. -/
theorem gateway_ready (h : s.Invariant) (hdone : s.done = true) (hleft : s.gateway.rank ≠ 0 ∨ s.closing = true) :
    s.Ready := by
  cases hclosing : s.closing with
  | true => exact ⟨.CloseOnDone, trivial, by simp [step, hclosing, hdone]⟩
  | false =>
    cases hgateway : s.gateway with
    | Serving =>
      obtain hclosed | hnot := h.gateway.closing hclosing
      · exact ⟨.AcceptClosed, trivial, by simp [step, hgateway, hclosed]⟩
      · exact absurd hgateway hnot
    | Ended result =>
      have hroom := h.gateway.room (by simp [hgateway])
      exact ⟨.SendServe, trivial, by simp [step, hgateway, hroom]⟩
    | Sent result => simp [hgateway, hclosing, ServingPoint.rank] at hleft

/-- An HTTP server can go on when something of it is left and `runCtx` is done. -/
theorem http_ready {service : Service} (h : s.Invariant) (hdone : s.done = true) (hleft : s.httpRank service ≠ 0) :
    s.Ready := by
  cases hh : s.http service with
  | none => simp [httpRank, hh] at hleft
  | some server =>
    have hfine := h.http service server hh
    rw [hdone] at hfine
    obtain ⟨action, server', hnotFail, hact⟩ := HttpServer.ready hfine (by simpa [httpRank, hh] using hleft)
    refine ⟨.Http service action, ?_, by simp [step, hh, hdone, hact]⟩
    cases action with
    | Fail err => exact absurd rfl (hnotFail err)
    | _ => trivial

/-- On its way out the program is never stuck. -/
theorem ready_of_not_over (h : s.Invariant) (hstopping : s.Stopping) (hnot : ¬ s.Over) : s.Ready := by
  cases hpoint : s.point with
  | Select =>
    have hctx : s.ctx_done = true := by simpa [Stopping, hpoint] using hstopping
    exact ⟨.TakeDone, trivial, by simp [step, hpoint, done, hctx]⟩
  | Drain =>
    have hctx : s.ctx_done = true := by simpa [Stopping, hpoint] using hstopping
    cases hgateway : s.gateway with
    | Sent result =>
      have hserve := h.gateway.kept result hgateway (.inr hpoint)
      exact ⟨.Drain, trivial, by simp [step, hpoint, hserve]⟩
    | Serving | Ended result =>
      exact gateway_ready h (by simp [done, hctx]) (.inl (by simp [hgateway, ServingPoint.rank]))
  | CloseListener result => exact ⟨.CloseListener, trivial, by simp [step, hpoint]⟩
  | CancelRun result => exact ⟨.CancelRun, trivial, by simp [step, hpoint]⟩
  | Returned result =>
    have hdone : s.done = true := by simp [done, h.run.cancelled result hpoint]
    by_cases hgateway : s.gateway.rank ≠ 0 ∨ s.closing = true
    · exact gateway_ready h hdone hgateway
    · by_cases hhttp : ∃ service, s.httpRank service ≠ 0
      · obtain ⟨service, hleft⟩ := hhttp
        exact http_ready h hdone hleft
      · refine absurd ⟨⟨result, hpoint⟩, ?_, ?_, ?_⟩ hnot
        · by_contra hrank
          exact hgateway (.inl hrank)
        · by_contra hclosing
          exact hgateway (.inr (by simpa using hclosing))
        · exact fun service => by_contra fun hleft => hhttp ⟨service, hleft⟩

/-- Once `runCtx` is done everything keeps on stopping. -/
theorem effect_stopping (h : s.Stopping) (heffect : RunEffect s a s') : s'.Stopping := by
  cases heffect with
  | CancelCtx => exact .inl rfl
  | TakeServe | TakeHttp | Drain | CloseListener | CancelRun => exact .inr ⟨by simp, by simp⟩
  | TakeDone hpoint => exact .inl (by simpa [Stopping, hpoint] using h)
  | _ => exact h

/-- A step of one of the HTTP servers and of `Run`. -/
theorem distance_lt_of_http {h h' : HttpServer ε} {service : Service} (hh : s.http service = some h)
    (hhttp : s'.http = Function.update s.http service (some h')) (hgateway : s'.gateway = s.gateway)
    (hclosing : s'.closing = s.closing) (hlt : s'.point.rank + h'.rank < s.point.rank + h.rank) :
    s'.distance < s.distance := by
  unfold distance httpRank
  cases service with
  | Health =>
    simp only [hhttp, hh, hgateway, hclosing, Function.update, Option.elim_some, reduceCtorEq, dite_true, dite_false]
    omega
  | Pprof =>
    simp only [hhttp, hh, hgateway, hclosing, Function.update, Option.elim_some, reduceCtorEq, dite_true, dite_false]
    omega

/-- Nobody leads away from the end, and the program's own steps lead to it. -/
theorem effect_distance (heffect : RunEffect s a s') :
    s'.distance ≤ s.distance ∧ (Own a → s'.distance < s.distance) := by
  have hdown : s'.distance < s.distance → s'.distance ≤ s.distance ∧ (Own a → s'.distance < s.distance) :=
    fun hlt => ⟨hlt.le, fun _ => hlt⟩
  cases heffect with
  | CancelCtx | Accept => exact ⟨Nat.le_refl _, fun hown => hown.elim⟩
  | AcceptDone hgateway | AcceptFails hgateway | AcceptClosed hgateway | SendServe hgateway =>
    exact hdown (by simp [distance, httpRank, hgateway, ServingPoint.rank])
  | CloseOnDone hclosing | CloserLeaves _ hclosing => exact hdown (by simp [distance, httpRank, hclosing])
  | Http hh heffect => exact hdown (distance_lt_of_http hh rfl rfl rfl (Nat.add_lt_add_left heffect.rank_lt _))
  | TakeHttp hpoint hh =>
    refine hdown (distance_lt_of_http hh rfl rfl rfl ?_)
    rw [hpoint]
    exact Nat.add_lt_add_right (by simp [RunPoint.rank]) _
  | TakeServe hpoint | TakeDone hpoint | Drain hpoint | CloseListener hpoint | CancelRun hpoint =>
    exact hdown (by simp [distance, httpRank, hpoint, RunPoint.rank])

/-- The states from which `Run` is on its way out. -/
structure Leaving (s : Running ε) : Prop where
  invariant : s.Invariant
  stopping : s.Stopping

theorem step_leaving (h : s.Leaving) (hstep : s.step a = some s') : s'.Leaving :=
  ⟨step_invariant h.invariant hstep, effect_stopping h.stopping (run_effect hstep)⟩

/-- Fifteen steps are enough from anywhere. -/
theorem distance_le (s : Running ε) : s.distance ≤ 15 := by
  have hpoint : s.point.rank ≤ 4 := by cases s.point <;> simp [RunPoint.rank]
  have hgateway := s.gateway.rank_le
  have hclosing : s.closing.toNat ≤ 1 := Bool.toNat_le _
  have hhttp : ∀ service, s.httpRank service ≤ 4 := by
    intro service
    unfold httpRank
    cases s.http service with
    | none => exact Nat.zero_le _
    | some h => exact Nat.add_le_add h.serving.rank_le h.shutdown.rank_le
  have hhealth := hhttp .Health
  have hpprof := hhttp .Pprof
  unfold distance
  omega

/-- Once its context is cancelled, or one of its servers has failed, `Run` always comes
back, and none of the goroutines of the HTTP servers and of `Serve` with its closer
stays behind: the program's own steps lead to it, at most fifteen of them, and every
run gets there in which they have their turn. None of these goroutines waits for a
receiver that is gone. -/
theorem run_leaves_nothing_behind {pprof : Bool} {acts : List (RunAction ε)}
    (run : Reaches step (start pprof) acts s) (hstopping : s.Stopping) :
    (∃ rest s', Runs step (fun _ a => Own a) s rest s' ∧ s'.Over ∧ rest.length ≤ 15) ∧
      ∀ states act, Fair step (fun _ _ => True) Own Own states act → states 0 = s → ∃ n, (states n).Over := by
  have hstart : s.Leaving := ⟨reaches_invariant run, hstopping⟩
  constructor
  · have hnearer : ∀ s : Running ε, s.Leaving → ¬ s.Over → ∃ a s', Own a ∧ s.step a = some s' ∧ s'.Leaving ∧
        s'.distance < s.distance := by
      intro s h hnot
      obtain ⟨a, hown, hready⟩ := ready_of_not_over h.invariant h.stopping hnot
      obtain ⟨s', hstep⟩ := Option.ne_none_iff_exists'.mp hready
      exact ⟨a, s', hown, hstep, step_leaving h hstep, (effect_distance (run_effect hstep)).2 hown⟩
    obtain ⟨rest, s', hrest, hover, hlength⟩ := Runs.reaches_goal distance hnearer hstart
    exact ⟨rest, s', hrest, hover, hlength.trans s.distance_le⟩
  · rintro states act fair rfl
    obtain ⟨n, -, hover⟩ := fair.reaches_goal distance (fun h _ hstep => step_leaving h hstep)
      (fun s h hnot => ready_of_not_over h.invariant h.stopping hnot)
      (fun _ _ _ hstep => effect_distance (run_effect hstep)) hstart
    exact ⟨n, hover⟩

/-- Nothing is left to do when all is over, but for a context that is cancelled again. -/
theorem over_fair (h : s.Over) (hctx : s.ctx_done = true) :
    Fair step (fun _ _ => True) Own Own (fun _ => s) (fun _ => .CancelCtx) := by
  refine ⟨fun _ => ?_, fun _ => trivial, fun n hready => ?_⟩
  · rw [step, ← hctx]
  · obtain ⟨a, hown, hstep⟩ := hready n (Nat.le_refl n)
    obtain ⟨s', hstep⟩ := Option.ne_none_iff_exists'.mp hstep
    have hlt := (effect_distance (run_effect hstep)).2 hown
    obtain ⟨⟨result, hpoint⟩, hgateway, hclosing, hhttp⟩ := h
    simp [distance, hpoint, hgateway, hclosing, hhttp, RunPoint.rank] at hlt

/-- The end of the caller's context is not taken back. -/
theorem run_ctx_done {rest : List (RunAction ε)} (run : Runs step (fun _ a => Own a) s rest s')
    (hctx : s.ctx_done = true) : s'.ctx_done = true := by
  induction run with
  | nil => exact hctx
  | snoc _ _ hstep ih => cases run_effect hstep <;> first | exact ih | rfl

/-- The health server has closed, and `Run` returns for that before the gateway is down. -/
theorem run_leaves_nothing_behind_after_health :
    ∃ s : Running Nat, Reaches step (start true) [.CancelCtx, .Http .Health .Shutdown, .Http .Health .Closed,
        .Http .Health .Send, .TakeHttp .Health] s ∧
      s.point = .CloseListener none ∧ s.gateway = .Serving ∧
      (∃ rest s', Runs step (fun _ a => Own a) s rest s' ∧ s'.Over ∧ rest.length ≤ 15) ∧
      ∃ states act, Fair step (fun _ _ => True) Own Own states act ∧ states 0 = s ∧ ∃ n, (states n).Over := by
  have hreached : ∃ s : Running Nat, Reaches step (start true) [.CancelCtx, .Http .Health .Shutdown,
      .Http .Health .Closed, .Http .Health .Send, .TakeHttp .Health] s ∧
      decide (s.ctx_done = true ∧ s.point = .CloseListener none ∧ s.gateway = .Serving) = true :=
    Reaches.of_exec _ (by decide +kernel)
  obtain ⟨s, run, hobserved⟩ := hreached
  obtain ⟨hctx, hpoint, hgateway⟩ := of_decide_eq_true hobserved
  obtain ⟨⟨rest, s', hrest, hover, hlength⟩, hall⟩ := run_leaves_nothing_behind run (.inl hctx)
  obtain ⟨states, act, fair, hfirst, -⟩ := (over_fair hover (run_ctx_done hrest hctx)).prepend hrest.reaches rfl
  exact ⟨s, run, hpoint, hgateway, ⟨rest, s', hrest, hover, hlength⟩, states, act, fair, hfirst,
    hall states act fair hfirst⟩

end Running

end regiongate.app
