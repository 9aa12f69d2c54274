import RegionGate.Server.Serve

open execution

namespace regiongate.server.serve

/-- The connection in the hands of the loop. -/
def LoopLocation.hand : LoopLocation → Option Nat
  | .Accepted conn | .Counting conn | .Selecting conn | .Tracking conn | .Refused conn | .Tracked conn
  | .Spawning conn => some conn
  | .Accepting | .Returning _ | .Returned _ => none

/-- The connection for which the loop holds a semaphore slot. -/
def LoopLocation.slot : LoopLocation → Option Nat
  | .Tracking conn | .Refused conn | .Tracked conn | .Spawning conn => some conn
  | _ => none

theorem LoopLocation.hand_of_slot {l : LoopLocation} {conn : Nat} (h : l.slot = some conn) : l.hand = some conn := by
  cases l <;> simp_all [slot, hand]

/-- The connection that the loop has tracked and whose goroutine it has not yet
started. -/
def LoopLocation.tracked : LoopLocation → Option Nat
  | .Tracked conn | .Spawning conn => some conn
  | _ => none

theorem LoopLocation.hand_of_tracked {l : LoopLocation} {conn : Nat} (h : l.tracked = some conn) :
    l.hand = some conn := by
  cases l <;> simp_all [tracked, hand]

theorem LoopLocation.slot_of_tracked {l : LoopLocation} {conn : Nat} (h : l.tracked = some conn) :
    l.slot = some conn := by
  cases l <;> simp_all [tracked, slot]

/-- The accepted connections that are neither rejected nor tracked yet. -/
def LoopLocation.undecided : LoopLocation → UInt64
  | .Selecting _ | .Tracking _ => 1
  | _ => 0

/-- The goroutine holds a semaphore slot. -/
def ConnLocation.holdsSlot (l : ConnLocation) : Bool := l ≠ .Unstarted && l ≠ .Ended

/-- From `track` to `untrack`. -/
def ConnLocation.isTracked : ConnLocation → Bool
  | .Spawned | .Handshake | .Login | .Limbo | .Returning | .ClientClosed => true
  | _ => false

theorem ConnLocation.holdsSlot_of_isTracked {l : ConnLocation} (h : l.isTracked = true) : l.holdsSlot = true := by
  cases l <;> first | rfl | cases h

/-- A session is in its map only up to here: it leaves it after the connection is
untracked. -/
def ConnLocation.hasSession (l : ConnLocation) : Bool := l.isTracked || l = .Untracked

/-- A client is in its map only up to here, one deferred call later than its session. -/
def ConnLocation.hasClient (l : ConnLocation) : Bool := l.hasSession || l = .SessionUntracked

/-- The admissions of a connection are in their map only up to here, again one call
later. -/
def ConnLocation.hasAdmission (l : ConnLocation) : Bool := l.hasClient || l = .ClientUntracked

namespace Server

variable {host : Nat → Bytes} {limits : Limits} {s s' : Server} {conn : Nat} {a : Action}

/-- A slot is taken for the connection by the loop or its goroutine. -/
def HoldsSlot (s : Server) (conn : Nat) : Prop :=
  s.loop.slot = some conn ∨ (s.location conn).holdsSlot = true

/-- The connection is tracked, by the accept loop or by its own goroutine. -/
def IsTracked (s : Server) (conn : Nat) : Prop :=
  s.loop.tracked = some conn ∨ (s.location conn).isTracked = true

/-- The connections that `conns` holds for an address. -/
def fromIP (host : Nat → Bytes) (s : Server) (ip : Bytes) : Nat := (s.conns.filter (host · = ip)).card

/-- Only accepted connections have a goroutine, and not while the loop has them. -/
structure Positions (s : Server) : Prop where
  fresh : ∀ c, s.next ≤ c → s.location c = .Unstarted
  hand : ∀ c, s.loop.hand = some c → c < s.next ∧ s.location c = .Unstarted

/-- The slots taken are those of their holders. -/
structure Slots (limits : Limits) (s : Server) : Prop where
  holders : ∃ holding : Finset Nat, (∀ c, c ∈ holding ↔ s.HoldsSlot c) ∧ s.sem = holding.card
  bounded : s.sem ≤ limits.max_connections

/-- The table of addresses counts the tracked connections. -/
structure Tracking (host : Nat → Bytes) (limits : Limits) (s : Server) : Prop where
  conns : ∀ c, c ∈ s.conns ↔ s.IsTracked c
  ips : ∀ ip, s.ip_connections ip = if s.fromIP host ip = 0 then none else some (s.fromIP host ip)
  bounded : ∀ ip, s.fromIP host ip ≤ limits.max_connections_per_ip

/-- The other tables hold only connections whose goroutine will remove them. -/
structure Owners (s : Server) : Prop where
  sessions : ∀ c ∈ s.sessions, (s.location c).hasSession = true
  clients : ∀ c ∈ s.clients, (s.location c).hasClient = true
  admissions : ∀ c ∈ s.admissions, (s.location c).hasAdmission = true

/-- Every accepted connection is rejected or tracked. -/
def Counted (s : Server) : Prop :=
  s.accepted = s.rejected_cap + s.rejected_ip + .ofNat s.tracked.length + s.loop.undecided

/-- One step counts every connection that `Accept` returns. -/
theorem effect_counted (h : s.Counted) (heffect : Effect host limits s a s') : s'.Counted := by
  rw [Counted] at h
  cases heffect with
  | goes hgoes => cases hgoes <;> exact h
  | counted hloop =>
    simp only [Counted, h, hloop, LoopLocation.undecided]
    grind
  | full hloop hfull =>
    simp only [Counted, h, hloop, LoopLocation.undecided, close]
    grind
  | tracked hloop hcount =>
    simp only [Counted, h, hloop, LoopLocation.undecided, List.length_append, List.length_singleton,
      UInt64.ofNat_add]
    grind
  | refused hloop hcount =>
    simp only [Counted, h, hloop, LoopLocation.undecided]
    grind
  | _ => simp_all [Counted, LoopLocation.undecided, close, move, close_connections]

theorem ConnEffect.started (h : ConnEffect host s conn s') : s.location conn ≠ .Unstarted := by
  cases h <;> simp [*]

/-- A goroutine leaves the loop and the other goroutines where they are. -/
structure Moves (s s' : Server) (conn : Nat) : Prop where
  next : s'.next = s.next
  loop : s'.loop = s.loop
  others : ∀ c, c ≠ conn → s'.location c = s.location c

theorem ConnEffect.moves (h : ConnEffect host s conn s') : Moves s s' conn := by
  cases h <;> exact ⟨rfl, rfl, fun c hc => (move_location _ c).trans (if_neg hc)⟩

theorem Positions.kept (h : s.Positions) (hnext : s'.next = s.next) (hlocation : s'.location = s.location)
    (hhand : ∀ c, s'.loop.hand = some c → s.loop.hand = some c) : s'.Positions := by
  constructor
  · rw [hnext, hlocation]
    exact h.fresh
  · intro c hc
    rw [hnext, hlocation]
    exact h.hand c (hhand c hc)

theorem Positions.moves (h : s.Positions) (hstarted : s.location conn ≠ .Unstarted) (hmoves : Moves s s' conn) :
    s'.Positions := by
  constructor
  · intro c hc
    rw [hmoves.next] at hc
    have hfresh := h.fresh c hc
    have hother : c ≠ conn := by
      rintro rfl
      exact hstarted hfresh
    rw [hmoves.others c hother, hfresh]
  · intro c hc
    rw [hmoves.loop] at hc
    obtain ⟨hnext, hunstarted⟩ := h.hand c hc
    have hother : c ≠ conn := by
      rintro rfl
      exact hstarted hunstarted
    rw [hmoves.next, hmoves.others c hother]
    exact ⟨hnext, hunstarted⟩

/-- One step: the accept loop and the goroutines do not hold the same connection. -/
theorem effect_positions (h : s.Positions) (heffect : Effect host limits s a s') : s'.Positions := by
  cases heffect with
  | accept hloop hopen =>
    refine ⟨fun c hc => h.fresh c (by simp at hc; omega), fun c hc => ?_⟩
    obtain rfl : s.next = c := by simpa [LoopLocation.hand] using hc
    exact ⟨Nat.lt_succ_self _, h.fresh _ le_rfl⟩
  | spawned hloop =>
    obtain ⟨hnext, -⟩ := h.hand _ (by rw [hloop]; rfl)
    refine ⟨fun c hc => ?_, by simp [LoopLocation.hand]⟩
    have hle : s.next ≤ c := hc
    simp only [move_location]
    rw [if_neg (by omega), h.fresh c hle]
  | goes hgoes => exact h.moves hgoes.started hgoes.moves
  | returns hlocation =>
    refine h.moves ?_ ⟨rfl, rfl, fun c hc => (move_location _ c).trans (if_neg hc)⟩
    rintro hunstarted
    simp [hunstarted] at hlocation
  | _ => exact h.kept rfl rfl (by simp [LoopLocation.hand, *])

theorem Slots.kept (h : s.Slots limits) (hholds : ∀ c, s'.HoldsSlot c ↔ s.HoldsSlot c) (hsem : s'.sem = s.sem) :
    s'.Slots limits := by
  obtain ⟨holding, hmem, hcard⟩ := h.holders
  exact ⟨⟨holding, fun c => (hmem c).trans (hholds c).symm, hsem.trans hcard⟩, hsem ▸ h.bounded⟩

/-- A slot is taken for a connection that has none. -/
theorem Slots.taken (h : s.Slots limits) (hholds : ∀ c, s'.HoldsSlot c ↔ conn = c ∨ s.HoldsSlot c)
    (hfree : ¬ s.HoldsSlot conn) (hsem : s'.sem = s.sem + 1) (hroom : s.sem < limits.max_connections) :
    s'.Slots limits := by
  obtain ⟨holding, hmem, hcard⟩ := h.holders
  refine ⟨⟨insert conn holding, fun c => ?_, ?_⟩, by omega⟩
  · rw [Finset.mem_insert, hmem, hholds, eq_comm]
  · rw [Finset.card_insert_of_notMem (by rwa [hmem]), hsem, hcard]

/-- A slot is given back by the connection that has it. -/
theorem Slots.released (h : s.Slots limits) (hholds : ∀ c, s'.HoldsSlot c ↔ c ≠ conn ∧ s.HoldsSlot c)
    (hheld : s.HoldsSlot conn) (hsem : s'.sem = s.sem - 1) : s'.Slots limits := by
  obtain ⟨holding, hmem, hcard⟩ := h.holders
  have := h.bounded
  refine ⟨⟨holding.erase conn, fun c => ?_, ?_⟩, by omega⟩
  · rw [Finset.mem_erase, hmem, hholds]
  · rw [Finset.card_erase_of_mem (by rwa [hmem]), hsem, hcard]

theorem holdsSlot_move {l : ConnLocation} (hsame : l.holdsSlot = (s.location conn).holdsSlot) (c : Nat) :
    (s.move conn l).HoldsSlot c ↔ s.HoldsSlot c := by
  by_cases hc : c = conn
  · simp [HoldsSlot, hc, hsame]
  · simp [HoldsSlot, hc]

/-- A goroutine holds its slot until it gives it back at its end. -/
theorem ConnEffect.slots (hpositions : s.Positions) (h : s.Slots limits) (hgoes : ConnEffect host s conn s') :
    s'.Slots limits := by
  cases hgoes with
  | ends hlocation hsem =>
    have hloop : s.loop.slot ≠ some conn := fun hslot => by
      obtain ⟨-, hunstarted⟩ := hpositions.hand conn (LoopLocation.hand_of_slot hslot)
      simp [hunstarted] at hlocation
    refine @Slots.released limits s _ conn h (fun c => ?_) (.inr (by rw [hlocation]; rfl)) rfl
    by_cases hc : c = conn
    · subst hc
      simp [HoldsSlot, ConnLocation.holdsSlot, move, hloop]
    · simp [HoldsSlot, hc, move]
  | _ =>
    exact h.kept (holdsSlot_move (by simp [ConnLocation.holdsSlot, close, untrack, *])) rfl

/-- One step: the semaphore counts the connections that hold a slot. -/
theorem effect_slots (hpositions : s.Positions) (h : s.Slots limits) (heffect : Effect host limits s a s') :
    s'.Slots limits := by
  cases heffect with
  | @acquired conn hloop hroom =>
    obtain ⟨-, hunstarted⟩ := hpositions.hand _ (by rw [hloop]; rfl)
    refine @Slots.taken limits s _ conn h (fun c => ?_) ?_ rfl hroom
    · simp [HoldsSlot, hloop, LoopLocation.slot]
    · simp [HoldsSlot, hloop, LoopLocation.slot, hunstarted, ConnLocation.holdsSlot]
  | @released conn hloop hsem =>
    obtain ⟨-, hunstarted⟩ := hpositions.hand _ (by rw [hloop]; rfl)
    refine @Slots.released limits s _ conn h (fun c => ?_) (.inl (by rw [hloop]; rfl)) rfl
    by_cases hc : c = conn
    · simp [HoldsSlot, LoopLocation.slot, hc, hunstarted, ConnLocation.holdsSlot]
    · simp [HoldsSlot, hloop, LoopLocation.slot, hc, Ne.symm hc]
  | @spawned conn hloop =>
    refine h.kept (fun c => ?_) rfl
    by_cases hc : c = conn
    · simp [HoldsSlot, hloop, LoopLocation.slot, hc, ConnLocation.holdsSlot]
    · simp [HoldsSlot, hloop, LoopLocation.slot, hc, Ne.symm hc]
  | goes hgoes => exact hgoes.slots hpositions h
  | returns hlocation =>
    refine h.kept (holdsSlot_move ?_) rfl
    obtain hl | hl | hl := hlocation <;> simp [hl, ConnLocation.holdsSlot]
  | _ => exact h.kept (by simp [HoldsSlot, LoopLocation.slot, *]) rfl

theorem Tracking.kept (h : s.Tracking host limits) (htracked : ∀ c, s'.IsTracked c ↔ s.IsTracked c)
    (hconns : s'.conns = s.conns) (hips : s'.ip_connections = s.ip_connections) : s'.Tracking host limits := by
  have hfrom : s'.fromIP host = s.fromIP host := by
    funext ip
    rw [fromIP, fromIP, hconns]
  constructor
  · intro c
    rw [hconns, htracked]
    exact h.conns c
  · rw [hfrom, hips]
    exact h.ips
  · rw [hfrom]
    exact h.bounded

/-- The table's value for an address is the number of its connections. -/
theorem Tracking.getD (h : s.Tracking host limits) (ip : Bytes) :
    (s.ip_connections ip).getD 0 = s.fromIP host ip := by
  rw [h.ips]
  split <;> simp_all

theorem fromIP_added (hconns : s'.conns = insert conn s.conns) (hnew : conn ∉ s.conns) (ip : Bytes) :
    s'.fromIP host ip = s.fromIP host ip + if host conn = ip then 1 else 0 := by
  rw [fromIP, fromIP, hconns, Finset.filter_insert]
  split
  · exact Finset.card_insert_of_notMem fun hmem => hnew (Finset.mem_of_mem_filter _ hmem)
  · rfl

theorem fromIP_removed (hconns : s'.conns = s.conns.erase conn) (hold : conn ∈ s.conns) (ip : Bytes) :
    s'.fromIP host ip + (if host conn = ip then 1 else 0) = s.fromIP host ip := by
  have hback : s.conns = insert conn s'.conns := by rw [hconns, Finset.insert_erase hold]
  exact (fromIP_added hback (by rw [hconns]; exact Finset.notMem_erase _ _) ip).symm

theorem Tracking.added (h : s.Tracking host limits) (hnew : conn ∉ s.conns)
    (htracked : ∀ c, s'.IsTracked c ↔ conn = c ∨ s.IsTracked c) (hconns : s'.conns = insert conn s.conns)
    (hips : s'.ip_connections = Function.update s.ip_connections (host conn)
      (some ((s.ip_connections (host conn)).getD 0 + 1)))
    (hcount : (s.ip_connections (host conn)).getD 0 < limits.max_connections_per_ip) :
    s'.Tracking host limits := by
  rw [h.getD] at hips hcount
  constructor
  · intro c
    rw [hconns, Finset.mem_insert, htracked, h.conns, eq_comm]
  · intro ip
    rw [fromIP_added hconns hnew, hips, Function.update_apply]
    by_cases hip : host conn = ip
    · simp [hip]
    · simp [hip, Ne.symm hip, h.ips]
  · intro ip
    have := h.bounded ip
    rw [fromIP_added hconns hnew]
    split
    · rename_i hip
      rw [← hip]
      omega
    · omega

/-- `untrack`: the last connection of an address takes its entry along. -/
theorem Tracking.removed (h : s.Tracking host limits) (hold : conn ∈ s.conns)
    (htracked : ∀ c, s'.IsTracked c ↔ c ≠ conn ∧ s.IsTracked c) (hconns : s'.conns = s.conns.erase conn)
    (hips : s'.ip_connections = Function.update s.ip_connections (host conn)
      (if (s.ip_connections (host conn)).getD 0 ≤ 1 then none
        else some ((s.ip_connections (host conn)).getD 0 - 1))) :
    s'.Tracking host limits := by
  rw [h.getD] at hips
  constructor
  · intro c
    rw [hconns, Finset.mem_erase, htracked, h.conns]
  · intro ip
    have hremoved : s'.fromIP host ip + _ = s.fromIP host ip := fromIP_removed hconns hold ip
    rw [hips, Function.update_apply]
    by_cases hip : host conn = ip
    · subst hip
      rw [if_pos rfl] at hremoved ⊢
      rw [← hremoved]
      by_cases hlast : s'.fromIP host (host conn) = 0
      · simp [hlast]
      · rw [if_neg (by omega), if_neg hlast, Nat.add_sub_cancel]
    · simp only [hip, if_false, Nat.add_zero] at hremoved
      rw [if_neg (Ne.symm hip), hremoved, h.ips]
  · intro ip
    have hremoved : s'.fromIP host ip + _ = s.fromIP host ip := fromIP_removed hconns hold ip
    have := h.bounded ip
    omega

theorem isTracked_move {l : ConnLocation} (hsame : l.isTracked = (s.location conn).isTracked) (c : Nat) :
    (s.move conn l).IsTracked c ↔ s.IsTracked c := by
  by_cases hc : c = conn
  · simp [IsTracked, hc, hsame]
  · simp [IsTracked, hc]

/-- A connection's goroutine tracks nobody and untracks itself. -/
theorem ConnEffect.tracking (hpositions : s.Positions) (h : s.Tracking host limits)
    (hgoes : ConnEffect host s conn s') : s'.Tracking host limits := by
  cases hgoes with
  | untracks hlocation =>
    have htracked : conn ∈ s.conns := (h.conns conn).mpr (.inr (by rw [hlocation]; rfl))
    have hloop : s.loop.tracked ≠ some conn := fun hloop => by
      obtain ⟨-, hunstarted⟩ := hpositions.hand conn (LoopLocation.hand_of_tracked hloop)
      simp [hunstarted] at hlocation
    refine h.removed htracked (fun c => ?_) rfl rfl
    by_cases hc : c = conn
    · subst hc
      simp [IsTracked, ConnLocation.isTracked, hloop, untrack, move]
    · simp [IsTracked, hc, untrack, move]
  | _ =>
    exact h.kept (isTracked_move (by simp [ConnLocation.isTracked, close, *])) rfl rfl

/-- One step: the counts of the addresses are those of the tracked connections. -/
theorem effect_tracking (hpositions : s.Positions) (h : s.Tracking host limits)
    (heffect : Effect host limits s a s') : s'.Tracking host limits := by
  cases heffect with
  | @tracked conn hloop hcount =>
    obtain ⟨-, hunstarted⟩ := hpositions.hand _ (by rw [hloop]; rfl)
    have hnew : conn ∉ s.conns := by
      rw [h.conns]
      simp [IsTracked, hloop, LoopLocation.tracked, hunstarted, ConnLocation.isTracked]
    refine h.added hnew (fun c => ?_) rfl rfl hcount
    simp [IsTracked, hloop, LoopLocation.tracked]
  | @spawned conn hloop =>
    refine h.kept (fun c => ?_) rfl rfl
    by_cases hc : c = conn
    · simp [IsTracked, hloop, LoopLocation.tracked, hc, ConnLocation.isTracked]
    · simp [IsTracked, hloop, LoopLocation.tracked, hc, Ne.symm hc]
  | goes hgoes => exact hgoes.tracking hpositions h
  | returns hlocation =>
    refine h.kept (isTracked_move ?_) rfl rfl
    obtain hl | hl | hl := hlocation <;> simp [hl, ConnLocation.isTracked]
  | _ => exact h.kept (by simp [IsTracked, LoopLocation.tracked, *]) rfl rfl

theorem Owners.kept (h : s.Owners) (hlocation : ∀ c, s'.location c = s.location c ∨ s.location c = .Unstarted)
    (hsessions : s'.sessions = s.sessions) (hclients : s'.clients = s.clients)
    (hadmissions : s'.admissions = s.admissions) : s'.Owners := by
  have hkept : ∀ {has : ConnLocation → Bool} {owners : Finset Nat}, has .Unstarted = false →
      (∀ c ∈ owners, has (s.location c) = true) → ∀ c ∈ owners, has (s'.location c) = true := by
    intro has owners hunstarted howners c hc
    obtain hsame | hnone := hlocation c
    · rw [hsame, howners c hc]
    · have := howners c hc
      simp [hnone, hunstarted] at this
  constructor
  · rw [hsessions]
    exact hkept rfl h.sessions
  · rw [hclients]
    exact hkept rfl h.clients
  · rw [hadmissions]
    exact hkept rfl h.admissions

/-- The members of a table keep what they need when a goroutine moves, if it is
entered in time and removed in time. -/
theorem owners_move {has : ConnLocation → Bool} {owners owners' : Finset Nat} {l : ConnLocation}
    (h : ∀ c ∈ owners, has (s.location c) = true) (hothers : ∀ c, c ≠ conn → c ∈ owners' → c ∈ owners)
    (hconn : conn ∈ owners' → has l = true ∨ conn ∈ owners ∧ has (s.location conn) = false) :
    ∀ c ∈ owners', has ((s.move conn l).location c) = true := by
  intro c hc
  by_cases hsame : c = conn
  · subst hsame
    rw [move_location, if_pos rfl]
    obtain hl | ⟨hold, hnone⟩ := hconn hc
    · exact hl
    · have := h c hold
      simp [hnone] at this
  · rw [move_location, if_neg hsame]
    exact h c (hothers c hsame hc)

/-- A connection's goroutine changes its own entries only. -/
theorem ConnEffect.owners (h : s.Owners) (hgoes : ConnEffect host s conn s') : s'.Owners := by
  cases hgoes <;>
    exact ⟨owners_move h.sessions (by simp +contextual [close, untrack])
        (by simp [ConnLocation.hasSession, ConnLocation.isTracked, close, untrack, *]),
      owners_move h.clients (by simp +contextual [close, untrack])
        (by simp [ConnLocation.hasClient, ConnLocation.hasSession, ConnLocation.isTracked, close, untrack, *]),
      owners_move h.admissions (by simp +contextual [close, untrack])
        (by simp [ConnLocation.hasAdmission, ConnLocation.hasClient, ConnLocation.hasSession,
          ConnLocation.isTracked, close, untrack, *])⟩

/-- One step: every entry of the three maps belongs to a goroutine that will remove
it. -/
theorem effect_owners (h : s.Owners) (hpositions : s.Positions) (heffect : Effect host limits s a s') :
    s'.Owners := by
  cases heffect with
  | goes hgoes => exact hgoes.owners h
  | @spawned conn hloop =>
    obtain ⟨-, hunstarted⟩ := hpositions.hand conn (by rw [hloop]; rfl)
    refine h.kept (fun c => ?_) rfl rfl rfl
    by_cases hc : c = conn
    · exact .inr (hc ▸ hunstarted)
    · exact .inl (by simp [hc])
  | returns hlocation =>
    exact ⟨owners_move h.sessions (fun _ _ => id) fun _ => .inl rfl,
      owners_move h.clients (fun _ _ => id) fun _ => .inl rfl,
      owners_move h.admissions (fun _ _ => id) fun _ => .inl rfl⟩
  | _ => exact h.kept (fun _ => .inl rfl) rfl rfl rfl

/-- Everything that every step keeps. -/
structure Invariant (host : Nat → Bytes) (limits : Limits) (s : Server) : Prop where
  positions : s.Positions
  slots : s.Slots limits
  tracking : s.Tracking host limits
  owners : s.Owners
  counted : s.Counted

theorem start_invariant : start.Invariant host limits where
  positions := ⟨fun _ _ => rfl, nofun⟩
  slots := ⟨⟨∅, by simp [HoldsSlot, start, LoopLocation.slot, ConnLocation.holdsSlot], rfl⟩, Nat.zero_le _⟩
  tracking := ⟨by simp [IsTracked, start, LoopLocation.tracked, ConnLocation.isTracked], fun _ => rfl,
    fun _ => Nat.zero_le _⟩
  owners := ⟨by simp [start], by simp [start], by simp [start]⟩
  counted := rfl

theorem step_invariant (h : s.Invariant host limits) (hstep : s.step host limits a = some s') :
    s'.Invariant host limits := by
  have heffect := step_effect hstep
  exact ⟨effect_positions h.positions heffect, effect_slots h.positions h.slots heffect,
    effect_tracking h.positions h.tracking heffect, effect_owners h.owners h.positions heffect,
    effect_counted h.counted heffect⟩

instance : Decidable (s.HoldsSlot conn) := inferInstanceAs (Decidable (_ ∨ _))

/-- Every goroutine has ended and the loop has no connection in its hands. -/
def AllEnded (s : Server) : Prop :=
  s.loop.hand = none ∧ ∀ c, s.location c = .Unstarted ∨ s.location c = .Ended

/-- The accounts of a server are right. -/
structure Accounts (host : Nat → Bytes) (limits : Limits) (s : Server) : Prop where
  ips : ∀ ip, s.ip_connections ip = if s.fromIP host ip = 0 then none else some (s.fromIP host ip)
  per_ip : ∀ ip, s.fromIP host ip ≤ limits.max_connections_per_ip
  capacity : s.conns.card ≤ limits.max_connections
  slots : s.sem = ((Finset.range s.next).filter s.HoldsSlot).card
  releasable : ∀ c, s.HoldsSlot c → s.sem ≠ 0
  counted : s.loop = .Accepting →
    s.accepted = s.rejected_cap + s.rejected_ip + .ofNat s.tracked.length
  ended : s.AllEnded → s.sem = 0 ∧ s.conns = ∅ ∧ s.sessions = ∅ ∧ s.clients = ∅ ∧ s.admissions = ∅ ∧
    ∀ ip, s.ip_connections ip = none

theorem Invariant.lt_next (h : s.Invariant host limits) (hholds : s.HoldsSlot conn) : conn < s.next := by
  obtain hslot | hslot := hholds
  · exact (h.positions.hand conn (LoopLocation.hand_of_slot hslot)).1
  · by_contra hfresh
    rw [h.positions.fresh conn (by omega)] at hslot
    cases hslot

/-- The holders of the slots, as a set. -/
theorem Invariant.holders (h : s.Invariant host limits) :
    (∀ c, c ∈ (Finset.range s.next).filter s.HoldsSlot ↔ s.HoldsSlot c) ∧
      s.sem = ((Finset.range s.next).filter s.HoldsSlot).card := by
  obtain ⟨holding, hmem, hcard⟩ := h.slots.holders
  have hholders : ∀ c, c ∈ (Finset.range s.next).filter s.HoldsSlot ↔ s.HoldsSlot c := by
    intro c
    rw [Finset.mem_filter, Finset.mem_range]
    exact ⟨fun hc => hc.2, fun hc => ⟨h.lt_next hc, hc⟩⟩
  have hsame : holding = (Finset.range s.next).filter s.HoldsSlot := by
    ext c
    rw [hmem, hholders]
  exact ⟨hholders, hsame ▸ hcard⟩

theorem holdsSlot_of_isTracked (h : s.IsTracked conn) : s.HoldsSlot conn := by
  obtain h | h := h
  · exact .inl (LoopLocation.slot_of_tracked h)
  · exact .inr (ConnLocation.holdsSlot_of_isTracked h)

/-- The counts and maps, read off the invariant. -/
theorem Invariant.accounts (h : s.Invariant host limits) : s.Accounts host limits := by
  obtain ⟨hholders, hsem⟩ := h.holders
  refine ⟨h.tracking.ips, h.tracking.bounded, ?_, hsem, fun c hc => ?_, fun hloop => ?_, fun hended => ?_⟩
  · have hsub : s.conns ⊆ (Finset.range s.next).filter s.HoldsSlot := fun c hc =>
      (hholders c).mpr (holdsSlot_of_isTracked ((h.tracking.conns c).mp hc))
    calc s.conns.card ≤ ((Finset.range s.next).filter s.HoldsSlot).card := Finset.card_le_card hsub
      _ = s.sem := hsem.symm
      _ ≤ limits.max_connections := h.slots.bounded
  · rw [hsem]
    exact Finset.card_ne_zero_of_mem ((hholders c).mpr hc)
  · have hcounted : s.accepted = _ + s.loop.undecided := h.counted
    have hnone : s.loop.undecided = 0 := by rw [hloop]; rfl
    rwa [hnone, UInt64.add_zero] at hcounted
  · obtain ⟨hhand, hlocations⟩ := hended
    have hnone : ∀ {has : ConnLocation → Bool}, has .Unstarted = false → has .Ended = false →
        ∀ c, has (s.location c) = false := by
      intro has hunstarted hended c
      obtain hl | hl := hlocations c
      · rw [hl, hunstarted]
      · rw [hl, hended]
    have hslots : ∀ c, ¬ s.HoldsSlot c := by
      rintro c (hslot | hslot)
      · simp [LoopLocation.hand_of_slot hslot] at hhand
      · have hfree : (s.location c).holdsSlot = false := hnone rfl rfl c
        rw [hfree] at hslot
        cases hslot
    have hconns : s.conns = ∅ := Finset.eq_empty_of_forall_notMem fun c hc =>
      hslots c (holdsSlot_of_isTracked ((h.tracking.conns c).mp hc))
    have hempty : ∀ {has : ConnLocation → Bool} {owners : Finset Nat}, has .Unstarted = false →
        has .Ended = false → (∀ c ∈ owners, has (s.location c) = true) → owners = ∅ := by
      intro has owners hunstarted hended howners
      refine Finset.eq_empty_of_forall_notMem fun c hc => ?_
      have := howners c hc
      rw [hnone hunstarted hended] at this
      cases this
    refine ⟨?_, hconns, hempty rfl rfl h.owners.sessions, hempty rfl rfl h.owners.clients,
      hempty rfl rfl h.owners.admissions, fun ip => ?_⟩
    · rw [hsem, Finset.card_eq_zero]
      exact Finset.eq_empty_of_forall_notMem fun c hc => hslots c ((hholders c).mp hc)
    · rw [h.tracking.ips, fromIP, hconns]
      rfl

/-- In every run the accounts of the server are right. -/
theorem accounts_exact {acts : List Action} (run : Reaches (step host limits) start acts s) :
    s.Accounts host limits :=
  Invariant.accounts (run.invariant start_invariant fun h _ hstep => step_invariant h hstep)

/-- Two connections from one address are allowed one; the other one is turned
away, and the first ends. -/
def twoConnections : List Action :=
  [.Accept, .Loop, .Loop, .Loop, .Loop, .Loop, .Loop, .Goes 0, .Accept, .Loop, .Loop, .Loop, .Loop, .Loop,
    .Goes 0, .Returns 0, .Goes 0, .Goes 0, .Goes 0, .Goes 0, .Goes 0, .Goes 0, .Goes 0]

/-- Two connections of one address that may have one. -/
theorem accounts_exact_two_connections :
    ∃ s, Reaches (step (fun _ => []) ⟨4, 1⟩) start twoConnections s ∧
      (s.accepted = 2 ∧ s.rejected_ip = 1 ∧ s.tracked = [0] ∧ s.sem = 0) ∧ s.Accounts (fun _ => []) ⟨4, 1⟩ := by
  obtain ⟨s, run, hobserved⟩ : ∃ s, Reaches (step (fun _ => []) ⟨4, 1⟩) start twoConnections s ∧
      decide (s.accepted = 2 ∧ s.rejected_ip = 1 ∧ s.tracked = [0] ∧ s.sem = 0) = true :=
    Reaches.of_exec _ (by decide +kernel)
  exact ⟨s, run, of_decide_eq_true hobserved, accounts_exact run⟩

end Server

end regiongate.server.serve
