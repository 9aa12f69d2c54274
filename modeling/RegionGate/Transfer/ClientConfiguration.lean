import RegionGate.Transfer.PrepareOutcome

open execution regiongate.session regiongate.backend

namespace regiongate.transfer

/-- `WriteClientConfiguration` as a whole: the frames that reached the client and
the result. Its two critical sections find the prepared transfer and the
session as `first` and `last`, since other goroutines run in between, and
`successes` of its client writes succeed before one fails. -/
def write_client_configuration (first last : Prepared × Session) (successes : Nat) :
    List Bytes × Except Error Session :=
  match first.1.write_check first.2 with
  | .error e => ([], .error e)
  | .ok packets =>
    let frames := packets ++ [configuration.finish_payload]
    if successes < frames.length then (frames.take successes, .error .Write)
    else (frames, last.1.write_finish last.2)

/-- A successful call has written every packet of the transfer and then Finish. -/
theorem write_client_configuration_eq_ok {first last : Prepared × Session} {successes : Nat}
    {frames : List Bytes} {session : Session}
    (h : write_client_configuration first last successes = (frames, .ok session)) :
    frames = first.1.packets ++ [configuration.finish_payload] := by
  unfold write_client_configuration at h
  cases hcheck : first.1.write_check first.2 with
  | error e => simp [hcheck] at h
  | ok packets =>
    obtain ⟨_, rfl, _⟩ := Prepared.write_check_eq_ok.mp hcheck
    simp only [hcheck] at h
    split at h
    · simp at h
    · simp only [Prod.mk.injEq] at h
      exact h.1.symm

/-- The reads that `CompleteConfiguration` made among the steps of a `Prepare`. -/
def exchangeReads (acts : List PrepareAction) : List ConfigurationRead :=
  acts.filterMap fun
    | .ConfigurationRead read => some read
    | _ => none

/-- What `Prepare` knows of the configuration exchange at each of its points. -/
def PreparePoint.ExchangeAt (config : ConfigurationConfig) (reads : List ConfigurationRead) :
    PreparePoint → Prop
  | .Configuring exchange => Reaches Configuring.step (.start config) reads exchange
  | .Configured packets => ∃ exchange, Reaches Configuring.step (.start config) reads exchange ∧
      exchange.result = some (.ok ()) ∧ packets = exchange.packets
  | .Returned p => ∃ exchange, Reaches Configuring.step (.start config) reads exchange ∧
      exchange.result = some (.ok ()) ∧ p.packets = exchange.packets
  | .Closing _ | .RollingBack _ | .Failed _ => True
  | _ => reads = []

/-- A step other than a read of the exchange makes no read of it. -/
private theorem exchangeReads_snoc {acts : List PrepareAction} {a : PrepareAction}
    (h : ∀ read, a ≠ .ConfigurationRead read) : exchangeReads (acts ++ [a]) = exchangeReads acts := by
  cases a with
  | ConfigurationRead read => exact absurd rfl (h read)
  | _ => simp [exchangeReads]

private theorem exchangeReads_read (acts : List PrepareAction) (read : ConfigurationRead) :
    exchangeReads (acts ++ [.ConfigurationRead read]) = exchangeReads acts ++ [read] := by
  simp [exchangeReads]

section Exchange

variable {player : Player} {acts : List PrepareAction} {s s' : Preparing} {a : PrepareAction}

/-- The exchange point after an advance, which either goes on or gives up. -/
private theorem advance_exchange {config : ConfigurationConfig} {reads : List ConfigurationRead}
    {phase : BarrierPhase} {target : PreparePoint} {failed : Error → PreparePoint}
    (htarget : target.ExchangeAt config reads) (hfailed : ∀ e, (failed e).ExchangeAt config reads) :
    (s.advance phase target failed).point.ExchangeAt config reads := by
  obtain hpoint | ⟨e, hpoint⟩ := advance_point s phase target failed
  · rw [hpoint]
    exact htarget
  · rw [hpoint]
    exact hfailed e

/-- One step: the exchange of `CompleteConfiguration` is the run of the frames read so
far. -/
theorem step_exchange (h : s.point.ExchangeAt player.configuration (exchangeReads acts))
    (hstep : s.step player a = some s') :
    s'.point.ExchangeAt player.configuration (exchangeReads (acts ++ [a])) := by
  cases prepare_effect hstep with
  | unconfigured | begin_refused | no_address | closed | rolled_back | dial_failed | write_failed
  | login_failed | configuration_failed => trivial
  | begun hpoint | dialing hpoint | connected hpoint | wrote_handshake hpoint | wrote_login_start hpoint
  | login_waits hpoint | logged_in hpoint =>
    rw [hpoint] at h
    rw [exchangeReads_snoc (by simp)]
    exact h
  | login_phase hpoint =>
    rw [hpoint] at h
    rw [exchangeReads_snoc (by simp)]
    exact advance_exchange h fun _ => trivial
  | configuration_phase hpoint =>
    rw [hpoint] at h
    rw [exchangeReads_snoc (by simp), show exchangeReads acts = [] from h]
    exact advance_exchange .nil fun _ => trivial
  | configuration_waits hpoint hnext _ =>
    rw [hpoint] at h
    rw [exchangeReads_read]
    exact .snoc h trivial hnext
  | configured hpoint hnext hresult =>
    rw [hpoint] at h
    rw [exchangeReads_read]
    exact ⟨_, .snoc h trivial hnext, hresult, rfl⟩
  | finished hpoint =>
    rw [hpoint] at h
    rw [exchangeReads_snoc (by simp)]
    exact advance_exchange h fun _ => trivial
  | @timed_out p hpoint =>
    rw [hpoint] at h
    rw [exchangeReads_snoc (by simp)]
    obtain ⟨exchange, run, hresult, hpackets⟩ := h
    exact ⟨exchange, run, hresult, (p.timeout_packets s.session).trans hpackets⟩
  | cancelled | read | called =>
    rw [exchangeReads_snoc (by simp)]
    exact h

/-- A prepared transfer holds the packets of the exchange that `Prepare` made. -/
theorem prepare_exchange {before : Session} {dialer : Dialer}
    (run : Reaches (Preparing.step player) (Preparing.start before dialer) acts s) :
    s.point.ExchangeAt player.configuration (exchangeReads acts) := by
  induction run with
  | nil => exact rfl
  | snoc _ _ hstep ih => exact step_exchange ih hstep

end Exchange

/-- The backend's configuration reaches the client without loss. In every state of
every configuration exchange the buffer is within its limits, and where the
exchange has succeeded, the backend got one reply for each keepalive and ping,
with the same body and in order, and then the acknowledgement. A
`WriteClientConfiguration` that succeeds on the transfer which `Prepare`
returned, whatever its second critical section finds, has sent the client
exactly the frames of that `Prepare`'s exchange that are meant for it, in
order, and then Finish. -/
theorem configuration_relayed_without_loss (player : Player) :
    (∀ {reads : List ConfigurationRead} {exchange : Configuring},
      Reaches Configuring.step (.start player.configuration) reads exchange →
      (exchange.packets.length : Int) ≤
        (if player.configuration.max_packets ≤ 0 then 128 else player.configuration.max_packets) ∧
      ((exchange.packets.map List.length).sum : Int) ≤
        (if player.configuration.max_bytes ≤ 0 then 8 * 2 ^ 20 else player.configuration.max_bytes) ∧
      (exchange.result = some (.ok ()) →
        exchange.replies = exchange.received.filterMap configuration_reply ++
          [configuration.finish_acknowledged_payload] ∧
        BodiesComplete exchange.received)) ∧
    (∀ {before session : Session} {dialer : Dialer} {acts : List PrepareAction} {s : Preparing}
        {p : Prepared} {last : Prepared × Session} {successes : Nat} {client : List Bytes},
      Reaches (Preparing.step player) (Preparing.start before dialer) acts s → s.point = .Returned p →
      write_client_configuration (p, s.session) last successes = (client, .ok session) →
      ∃ exchange, Reaches Configuring.step (.start player.configuration) (exchangeReads acts) exchange ∧
        exchange.result = some (.ok ()) ∧
        client = exchange.received.filter relayed ++ [configuration.finish_payload]) := by
  refine ⟨?_, ?_⟩
  · intro reads exchange run
    have hinvariant := Configuring.run_invariant run
    obtain ⟨hpackets, hbytes⟩ := Configuring.run_limits run
    have hbounded := hinvariant.bounded
    refine ⟨?_, ?_, ?_⟩
    · have hcount := hbounded.packets
      rw [hpackets] at hcount
      exact hcount
    · have htotal := hbounded.bytes
      rw [hbytes, hbounded.counted] at htotal
      exact_mod_cast htotal
    · intro hdone
      have hfaithful := hinvariant.faithful (by simp [hdone])
      exact ⟨by simpa [hdone] using hfaithful.replies, hfaithful.bodies⟩
  · intro before session dialer acts s p last successes client run hreturned hwrite
    have hexchange := prepare_exchange run
    rw [hreturned] at hexchange
    obtain ⟨exchange, hreads, hdone, hpackets⟩ := hexchange
    have hfaithful := (Configuring.run_invariant hreads).faithful (by simp [hdone])
    refine ⟨exchange, hreads, hdone, ?_⟩
    rw [write_client_configuration_eq_ok hwrite, hpackets, hfaithful.buffered]

/-- A registry packet between a keepalive and a ping, then Finish with a
non-minimal packet identifier. -/
private def smallExchange : List ConfigurationRead :=
  [.Frame (0x03 :: List.replicate 8 1) true, .Frame [0x05, 7, 7] true, .Frame [0x04, 0, 0, 0, 9] true,
    .Frame [0x82, 0x00] true]

/-- A whole `Prepare` with that exchange, and the client's acknowledgement of the
configuration that follows it. -/
private def smallPrepare : List PrepareAction :=
  [.Proceed, .Proceed, .Proceed, .Connect none, .Write true, .Write true,
    .LoginRead (.Frame (login.success_profile_payload samplePlayer.identity.uuid [0x62] []) true), .Proceed] ++
  smallExchange.map .ConfigurationRead ++
  [.Proceed, .Read [0x0b], .Call]

/-- After that `Prepare` the two client writes succeed, of the registry packet and of
Finish. -/
private def smallExchangeWritten (s : Preparing) : Bool :=
  match s.point with
  | .Returned p =>
    match write_client_configuration (p, s.session) (p, s.session) 2 with
    | (client, .ok _) => decide (client = [[0x05, 7, 7], configuration.finish_payload])
    | _ => false
  | _ => false

/-- The client gets the registry packet and Finish, the backend its two replies and
the acknowledgement. -/
theorem configuration_relayed_small_exchange :
    (∃ (s : Preparing) (p : Prepared) (session : Session) (exchange : Configuring),
      Reaches (Preparing.step samplePlayer) (Preparing.start Preparing.limbo sampleDialer) smallPrepare s ∧
      s.point = .Returned p ∧
      write_client_configuration (p, s.session) (p, s.session) 2 =
        ([[0x05, 7, 7], configuration.finish_payload], .ok session) ∧
      Reaches Configuring.step (.start samplePlayer.configuration) smallExchange exchange ∧
      [[0x05, 7, 7], configuration.finish_payload] =
        exchange.received.filter relayed ++ [configuration.finish_payload]) ∧
    ∃ exchange, Reaches Configuring.step (.start samplePlayer.configuration) smallExchange exchange ∧
      exchange.replies = [0x03 :: List.replicate 8 1, [0x04, 0, 0, 0, 9], [0x02]] := by
  obtain ⟨hexchange, hclient⟩ := configuration_relayed_without_loss samplePlayer
  refine ⟨?_, ?_⟩
  · have hreached : ∃ s, Reaches (Preparing.step samplePlayer)
        (Preparing.start Preparing.limbo sampleDialer) smallPrepare s ∧ smallExchangeWritten s = true :=
      Reaches.of_exec _ (by decide +kernel)
    obtain ⟨s, run, hobserved⟩ := hreached
    unfold smallExchangeWritten at hobserved
    cases hpoint : s.point with
    | Returned p =>
      simp only [hpoint] at hobserved
      cases hwrite : write_client_configuration (p, s.session) (p, s.session) 2 with
      | mk client result =>
        cases result with
        | error e => simp [hwrite] at hobserved
        | ok session =>
          simp only [hwrite, decide_eq_true_eq] at hobserved
          subst hobserved
          obtain ⟨exchange, hreads, _, hframes⟩ := hclient run hpoint hwrite
          exact ⟨s, p, session, exchange, run, hpoint, hwrite, hreads, hframes⟩
    | _ => simp [hpoint] at hobserved
  · have hreached : ∃ exchange, Reaches Configuring.step (.start samplePlayer.configuration)
        smallExchange exchange ∧
        decide (exchange.result = some (.ok ()) ∧ exchange.received =
          [0x03 :: List.replicate 8 1, [0x05, 7, 7], [0x04, 0, 0, 0, 9], [0x82, 0x00]]) = true :=
      Reaches.of_exec _ (by decide +kernel)
    obtain ⟨exchange, run, hobserved⟩ := hreached
    obtain ⟨hdone, hreceived⟩ := of_decide_eq_true hobserved
    obtain ⟨_, _, hsuccess⟩ := hexchange run
    refine ⟨exchange, run, ?_⟩
    rw [(hsuccess hdone).1, hreceived]
    decide +kernel

end regiongate.transfer
