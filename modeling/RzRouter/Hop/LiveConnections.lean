import RzRouter.Hop.SelfHealing

/-!
# Live connections and the maintenance of a hop

Two routines replace the connection set of a hop.  `ensure_connections` keeps what is open and adds
to it; `try_reconnect` throws the set away, which is harmless only if nothing in it is open.  A
connection that is thrown away closes when its last handle goes: at once, or when the forward call
that uses it is done with it.
-/

namespace RzRouter

open Program Transition

namespace HopSystem

variable {ι : Type} [DecidableEq ι] {connPerHop : Nat}

/-- The tick is going to reconnect: it has found the hop recovering, or would find it so now. -/
def Reconnects (s : HopSystem ι) (ph : TickPhase) : Prop :=
  ph.acted = false ∧
    (ph.started = some .recovering ∨ ph.started = none ∧ s.fields.state = .recovering)

/-- A tick that is going to reconnect has nothing open in the set. -/
def DeadStart (s : HopSystem ι) (ph : TickPhase) : Prop :=
  Reconnects s ph → s.fields.AllClosed

/-- The connections of the set that are still open are in the next set. -/
def KeepsOpen (s s' : HopSystem ι) : Prop :=
  ∀ conn ∈ s.fields.connections, conn ∉ s'.fields.closed → conn ∈ s'.fields.connections

/-- An open connection of the set stays open and in the set unless one of the events closes it. -/
def KeepsLive (s : HopSystem ι) (es : List (UpkeepEvent ι)) (s' : HopSystem ι) : Prop :=
  ∀ conn ∈ s.fields.connections, conn ∉ s.fields.closed → .close conn ∉ es →
    conn ∉ s'.fields.closed ∧ conn ∈ s'.fields.connections

/-- A tick that starts in `Recovering` starts with nothing open in the set. -/
def ReconnectsDead (s : HopSystem ι) : UpkeepEvent ι → Prop
  | .interval => s.tick = .ret () → s.fields.state = .recovering → s.fields.AllClosed
  | _ => True

/-! ## One step -/

section Tick

variable {s : HopSystem ι} {ph : TickPhase} {env : Surroundings}

omit [DecidableEq ι] in
/-- No operation but storing a set makes a tick reconnect that did not before. -/
theorem reconnects_of_afterTick (h : TickInv connPerHop s ph) {o : HopOp} {k : o.Ret → HopM Unit}
    (htick : s.tick = .op o k)
    (hnext : Reconnects (s.afterTick env o k) (nextPhase connPerHop s env ph o)) :
    Reconnects s ph ∧ ∀ connections, o ≠ .storeConnections connections := by
  have hfollows := h.follows
  rw [htick] at hfollows
  obtain ⟨hallowed, -⟩ := hfollows
  obtain ⟨hacted, hstarted⟩ := hnext
  obtain ⟨hacted, hstore⟩ := acted_nextPhase hacted
  refine ⟨⟨hacted, ?_⟩, hstore⟩
  rcases @started_nextPhase _ connPerHop env s ph o with hsame | ⟨rfl, hload⟩
  · rw [hsame] at hstarted
    apply hstarted.imp id
    intro hnone
    refine ⟨hnone.1, ?_⟩
    -- before it has loaded the state a tick stores none
    have hkeep : (s.afterTick env o k).fields.state = s.fields.state := by
      apply HopFields.perform_state
      rintro state rfl
      unfold tickProtocol at hallowed
      cases state <;> simp [hnone.1] at hallowed
    exact hkeep.symm.trans hnone.2
  · -- the state that it loads is the one that it would find
    rw [hload] at hstarted
    rcases hstarted with hstate | hnone
    · exact Or.inr ⟨hallowed, Option.some.inj hstate⟩
    · cases hnone.1

omit [DecidableEq ι] in
/-- A reconnect goes on with a dead set, and no operation drops an open connection. -/
theorem keepsLive_afterTick (h : TickInv connPerHop s ph) {o : HopOp} {k : o.Ret → HopM Unit}
    (htick : s.tick = .op o k) (hdead : DeadStart s ph) :
    DeadStart (s.afterTick env o k) (nextPhase connPerHop s env ph o) ∧
      KeepsLive s [.tick env] (s.afterTick env o k) := by
  have hfollows := h.follows
  rw [htick] at hfollows
  obtain ⟨hallowed, -⟩ := hfollows
  constructor
  · intro hnext
    obtain ⟨hreconnects, hstore⟩ := reconnects_of_afterTick h htick hnext
    have hconnections : (s.afterTick env o k).fields.connections = s.fields.connections :=
      HopFields.perform_connections _ hstore
    have hclosed : (s.afterTick env o k).fields.closed = s.fields.closed :=
      HopFields.perform_closed _ hstore
    unfold HopFields.AllClosed
    rw [hconnections, hclosed]
    exact hdead hreconnects
  · intro conn hconn hopen _
    by_cases hstore : ∃ connections, o = .storeConnections connections
    · obtain ⟨connections, rfl⟩ := hstore
      -- a reconnect drops closed connections only, and a filled set keeps the open ones
      have hkept : conn ∈ connections := by
        rcases hallowed.2.2 with ⟨hrecovering, hacted⟩ | ⟨-, old, hloaded, hkeeps⟩
        · exact absurd (hdead ⟨hacted, Or.inl hrecovering⟩ conn hconn) hopen
        · apply hkeeps
          · rw [← h.loaded old hloaded]
            exact hconn
          · exact fun hseen => hopen (h.seen conn hseen)
      refine ⟨fun hclosed => ?_, hkept⟩
      rcases (HopFields.mem_closed_perform _ _).mp hclosed with hold | ⟨_, hsame, hdropped⟩
      · exact hopen hold
      · cases hsame
        exact ((HopFields.mem_dropped _).mp hdropped).2.1 hkept
    · have hnone : ∀ connections, o ≠ .storeConnections connections :=
        fun c hc => hstore ⟨c, hc⟩
      constructor
      · show conn ∉ (s.fields.perform env o).1.closed
        rw [HopFields.perform_closed _ hnone]
        exact hopen
      · show conn ∈ (s.fields.perform env o).1.connections
        rw [HopFields.perform_connections _ hnone]
        exact hconn

end Tick

section Call

variable {s : HopSystem ι} {ph : TickPhase} {i : ι} {env : Surroundings} {o : HopOp}
  {k : o.Ret → HopM (Option String)}

theorem allClosed_afterCall (h : TickInv connPerHop s ph) (hcall : s.calls i = .op o k)
    (hdead : s.fields.AllClosed) : (s.afterCall i env o k).fields.AllClosed := by
  unfold HopFields.AllClosed
  rw [connections_afterCall h hcall, closed_afterCall h hcall]
  exact hdead

end Call

theorem deadStart_afterCall {s : HopSystem ι} {ph : TickPhase} {i : ι} {env : Surroundings}
    {o : HopOp} {k : o.Ret → HopM (Option String)} (h : TickInv connPerHop s ph)
    (hcall : s.calls i = .op o k) (hdead : DeadStart s ph) :
    DeadStart (s.afterCall i env o k) ph := by
  intro hreconnects
  apply allClosed_afterCall h hcall
  apply hdead
  refine ⟨hreconnects.1, hreconnects.2.imp id ?_⟩
  intro hnone
  refine ⟨hnone.1, ?_⟩
  -- a call never makes a hop recovering
  have hkeep : (s.afterCall i env o k).fields.state = s.fields.state := by
    apply HopFields.perform_state
    rintro state rfl
    have hunavailable : state = .unavailable := (allowed_call h hcall).1
    subst hunavailable
    cases hnone.2
  exact hkeep.symm.trans hnone.2

theorem keepsLive_step {s s' : HopSystem ι} {e : UpkeepEvent ι} {ph : TickPhase}
    (h : TickInv connPerHop s ph) (hdead : DeadStart s ph) (hcond : ReconnectsDead s e)
    (hstep : step connPerHop s e = some s') :
    DeadStart s' (phaseAfter connPerHop s ph e) ∧ KeepsLive s [e] s' := by
  cases moves_of_step hstep with
  | interval hidle =>
    refine ⟨?_, fun conn hconn hopen _ => ⟨hopen, hconn⟩⟩
    rintro ⟨-, hrecovering | ⟨-, hrecovering⟩⟩
    · cases hrecovering
    · exact hcond hidle hrecovering
  | tick env o k htick =>
    unfold phaseAfter
    simp only [htick]
    exact keepsLive_afterTick h htick hdead
  | call i env o k hcall =>
    refine ⟨deadStart_afterCall h hcall hdead, fun conn hconn hopen _ => ⟨?_, ?_⟩⟩
    · exact closed_afterCall h hcall ▸ hopen
    · exact connections_afterCall h hcall ▸ hconn
  | close conn hconn =>
    constructor
    · exact fun hreconnects c hc => Finset.mem_insert_of_mem (hdead hreconnects c hc)
    · intro c hc hopen hnot
      refine ⟨fun hclosed => ?_, hc⟩
      rcases Finset.mem_insert.mp hclosed with rfl | hold
      · exact hnot (List.mem_singleton_self _)
      · exact hopen hold
  | hold conn hconn => exact ⟨hdead, fun c hc hopen _ => ⟨hopen, hc⟩⟩
  | release conn hconn =>
    constructor
    · exact fun hreconnects c hc =>
        HopFields.closed_subset_release _ _ (hdead hreconnects c hc)
    · intro c hc hopen _
      refine ⟨fun hclosed => ?_, hc⟩
      -- only a connection outside the set closes with its last handle
      change c ∈ (if conn ∈ s.fields.connections then s.fields.closed
        else insert conn s.fields.closed) at hclosed
      split at hclosed
      · exact hopen hclosed
      · rename_i hout
        rcases Finset.mem_insert.mp hclosed with rfl | hold
        · exact hout hc
        · exact hopen hold

/-! ## Every run -/

/-- From a state in which no tick is reconnecting over an open connection, runs in which every
reconnect starts over a dead set keep the live connections. -/
theorem keepsLive_run {s s' : HopSystem ι} {es : List (UpkeepEvent ι)} {ph : TickPhase}
    (h : TickInv connPerHop s ph) (hdead : DeadStart s ph)
    (hmeets : Meets (step connPerHop) ReconnectsDead s es)
    (hrun : run (step connPerHop) s es = some s') : KeepsLive s es s' := by
  induction es generalizing s ph with
  | nil =>
    cases hrun
    exact fun conn hconn hopen _ => ⟨hopen, hconn⟩
  | cons e es ih =>
    obtain ⟨t, ht, hrest⟩ := (run_cons_eq_some s s' e es).mp hrun
    obtain ⟨hdead', hfirst⟩ := keepsLive_step h hdead hmeets.1 ht
    have hlater := ih (tickInv_step h ht) hdead' (hmeets.2 t ht) hrest
    intro conn hconn hopen hnot
    rw [List.mem_cons, not_or] at hnot
    obtain ⟨hopen', hconn'⟩ := hfirst conn hconn hopen (fun hmem =>
      hnot.1 (List.mem_singleton.mp hmem))
    exact hlater conn hconn' hopen' hnot.2

/-- What an event has closed stays closed. -/
theorem closed_run {s s' : HopSystem ι} {es : List (UpkeepEvent ι)}
    (hrun : run (step connPerHop) s es = some s') :
    s.fields.closed ⊆ s'.fields.closed ∧
      ∀ conn, UpkeepEvent.close conn ∈ es → conn ∈ s'.fields.closed := by
  induction es generalizing s with
  | nil =>
    cases hrun
    exact ⟨Finset.Subset.refl _, fun conn hmem => absurd hmem List.not_mem_nil⟩
  | cons e es ih =>
    obtain ⟨t, ht, hrest⟩ := (run_cons_eq_some s s' e es).mp hrun
    obtain ⟨hgrows, hclosed⟩ := ih hrest
    refine ⟨(closed_step ht).trans hgrows, fun conn hmem => ?_⟩
    rcases List.mem_cons.mp hmem with rfl | hlater
    · cases moves_of_step ht with
      | close conn hconn => exact hgrows (Finset.mem_insert_self _ _)
    · exact hclosed conn hlater

/-- A connection that is open at the end was closed by no event. -/
theorem KeepsLive.keepsOpen {s s' : HopSystem ι} {es : List (UpkeepEvent ι)}
    (h : KeepsLive s es s') (hrun : run (step connPerHop) s es = some s') : KeepsOpen s s' := by
  obtain ⟨hgrows, hclosed⟩ := closed_run hrun
  intro conn hconn hopen
  exact (h conn hconn (fun hmem => hopen (hgrows hmem))
    (fun hmem => hopen (hclosed conn hmem))).2

omit [DecidableEq ι] in
theorem deadStart_init (calls : ι → AddressCall) : DeadStart (init calls) TickPhase.idle :=
  fun _ _ hconn => absurd hconn List.not_mem_nil

theorem deadStart_run {calls : ι → AddressCall} {es : List (UpkeepEvent ι)} {s : HopSystem ι}
    (hmeets : Meets (step connPerHop) ReconnectsDead (init calls) es)
    (hrun : run (step connPerHop) (init calls) es = some s) :
    ∃ ph, TickInv connPerHop s ph ∧ DeadStart s ph := by
  have hstep : ∀ (t : HopSystem ι) (e : UpkeepEvent ι) (t' : HopSystem ι),
      (∃ ph, TickInv connPerHop t ph ∧ DeadStart t ph) → ReconnectsDead t e →
      step connPerHop t e = some t' → ∃ ph, TickInv connPerHop t' ph ∧ DeadStart t' ph := by
    intro t e t' ht hcond hstep
    obtain ⟨ph, hph, hdead⟩ := ht
    exact ⟨_, tickInv_step hph hstep, (keepsLive_step hph hdead hcond hstep).1⟩
  exact invariant_of_meets hstep
    ⟨TickPhase.idle, tickInv_init connPerHop calls, deadStart_init calls⟩ hmeets hrun

/-! ## One tick -/

/-- Without another interval no reconnect starts. -/
theorem meets_of_no_interval (s : HopSystem ι) {es : List (UpkeepEvent ι)}
    (hes : UpkeepEvent.interval ∉ es) : Meets (step connPerHop) ReconnectsDead s es := by
  induction es generalizing s with
  | nil => trivial
  | cons e es ih =>
    rw [List.mem_cons, not_or] at hes
    refine ⟨?_, fun t _ => ih t hes.2⟩
    cases e with
    | interval => exact absurd rfl hes.1
    | _ => trivial

/-- A tick that starts over a dead set, or not in `Recovering`, keeps the open connections. -/
theorem keepsOpen_of_dead {s s' : HopSystem ι} {es : List (UpkeepEvent ι)} {ph : TickPhase}
    (h : TickInv connPerHop s ph) (hdead : s.fields.state = .recovering → s.fields.AllClosed)
    (hes : UpkeepEvent.interval ∉ es)
    (hrun : run (step connPerHop) s (.interval :: es) = some s') : KeepsOpen s s' := by
  obtain ⟨t, ht, hrest⟩ := (run_cons_eq_some s s' _ es).mp hrun
  cases moves_of_step ht with
  | interval hidle =>
    have hstart : DeadStart { s with tick := maintenanceTick connPerHop } TickPhase.idle := by
      rintro ⟨-, hrecovering | ⟨-, hrecovering⟩⟩
      · cases hrecovering
      · exact hdead hrecovering
    exact (keepsLive_run (tickInv_interval h) hstart (meets_of_no_interval _ hes) hrest).keepsOpen
      hrest

/-- A reconnect that succeeds discards an open connection; if a forward call holds it, it stays
open. -/
theorem dead_of_keepsOpen {s : HopSystem ι} {ph : TickPhase} (h : TickInv connPerHop s ph)
    (hidle : s.tick = .ret ())
    (hkeeps : ∀ es s', UpkeepEvent.interval ∉ es →
      run (step connPerHop) s (.interval :: es) = some s' → KeepsOpen s s') :
    s.fields.state = .recovering → s.fields.AllClosed := by
  intro hrecovering conn hconn
  by_contra hopen
  have hhost := onlyHost_hostAt "10.0.0.1"
  -- the call takes its handle when the tick has begun
  obtain ⟨n, hn⟩ := run_tick connPerHop (hostAt "10.0.0.1") (maintenanceTick connPerHop)
    { s with fields := s.fields.hold conn }
  have hrun : run (step connPerHop) s
      (.interval :: .hold conn :: List.replicate n (.tick (hostAt "10.0.0.1"))) =
        some { s with
          fields := (s.fields.hold conn).upkeep connPerHop (hostAt "10.0.0.1")
          tick := .ret () } := by
    refine (run_cons_eq_some _ _ _ _).mpr ⟨{ s with tick := maintenanceTick connPerHop }, ?_, ?_⟩
    · unfold step
      simp only [hidle]
    · refine (run_cons_eq_some _ _ _ _).mpr ⟨_, if_pos hconn, hn⟩
  have hstate : (s.fields.hold conn).state = .recovering := hrecovering
  rw [HopFields.upkeep_recovering _ connPerHop hhost hstate] at hrun
  have hkept : conn ∈ [s.fields.established] := by
    refine hkeeps _ _ ?_ hrun conn hconn ?_
    · intro hmem
      rcases List.mem_cons.mp hmem with heq | hmem
      · cases heq
      · cases List.eq_of_mem_replicate hmem
    · intro hclosed
      rcases Finset.mem_union.mp hclosed with hold | hdropped
      · exact hopen hold
      · obtain ⟨-, -, hunheld⟩ :=
          (HopFields.mem_dropped _).mp (List.mem_toFinset.mp hdropped)
        exact hunheld (Finset.mem_insert_self _ _)
  -- what the reconnect has stored is not what was there
  have hold := h.known.connections conn hconn
  rw [List.mem_singleton.mp hkept] at hold
  exact absurd hold (Nat.lt_irrefl _)

/-- In every run, whatever resolver and hosts answer and whenever connections die, the set never
holds more than `max connPerHop 1` connections.  A tick that starts in a state it may be in keeps
the connections that stay open, whatever else happens meanwhile, exactly if the hop is not
`Recovering` over an open connection when it starts; and if no tick of a run starts so, then over
any part of the run, a tick or more, the connections of the set that stay open stay in the set, and
the maintenance closes none of them. -/
theorem maintenance_keeps_open (connPerHop : Nat) (calls : ι → AddressCall)
    (es : List (UpkeepEvent ι)) (s : HopSystem ι)
    (hrun : run (step connPerHop) (init calls) es = some s) :
    s.fields.connections.length ≤ max connPerHop 1 ∧
      (s.tick = .ret () →
        ((∀ es' s', UpkeepEvent.interval ∉ es' →
            run (step connPerHop) s (.interval :: es') = some s' → KeepsOpen s s') ↔
          (s.fields.state = .recovering → s.fields.AllClosed))) ∧
      ∀ es' s', run (step connPerHop) s es' = some s' →
        Meets (step connPerHop) ReconnectsDead (init calls) (es ++ es') →
        KeepsOpen s s' ∧ KeepsLive s es' s' := by
  obtain ⟨ph, hinv⟩ := tickInv_run hrun
  refine ⟨hinv.bound, fun hidle => ⟨dead_of_keepsOpen hinv hidle, ?_⟩, ?_⟩
  · intro hdead es' s' hes hrun'
    exact keepsOpen_of_dead hinv hdead hes hrun'
  · intro es' s' hrun' hmeets
    obtain ⟨hbefore, hafter⟩ := meets_append hmeets
    obtain ⟨ph', hinv', hdead⟩ := deadStart_run hbefore hrun
    have hlive := keepsLive_run hinv' hdead (hafter s hrun) hrun'
    exact ⟨hlive.keepsOpen hrun', hlive⟩

/-- One of two connections dies, and the next tick makes up for it. -/
theorem maintenance_keeps_open_filled :
    ∃ s s', run (step 2) (init (fun _ : Unit => AddressCall.resolve))
        (.interval :: List.replicate 8 (.tick (hostAt "10.0.0.1"))) = some s ∧
      s.fields.connections = [0, 1] ∧ s.fields.closed = ∅ ∧
      run (step 2) s
        (.close 1 :: .interval :: List.replicate 9 (.tick (hostAt "10.0.0.1"))) = some s' ∧
      s'.fields.connections = [0, 2] ∧ s'.fields.connections.length ≤ max 2 1 ∧
      KeepsOpen s s' ∧ 0 ∉ s'.fields.closed := by
  obtain ⟨s, hrun, hs⟩ := Option.map_eq_some_iff.mp (show
    (run (step 2) (init (fun _ : Unit => AddressCall.resolve))
      (.interval :: List.replicate 8 (.tick (hostAt "10.0.0.1")))).map HopSystem.fields =
        some ⟨some "10.0.0.1", [0, 1], .healthy, 2, ∅, ∅⟩ from rfl)
  have hboth : (run (step 2) (init (fun _ : Unit => AddressCall.resolve))
      ((.interval :: List.replicate 8 (.tick (hostAt "10.0.0.1"))) ++
        .close 1 :: .interval :: List.replicate 9 (.tick (hostAt "10.0.0.1")))).map
          (fun s => s.fields.connections) = some [0, 2] := rfl
  rw [run_append, hrun, Option.bind_some] at hboth
  obtain ⟨s', hrun', hs'⟩ := Option.map_eq_some_iff.mp hboth
  have hmeets : Meets (step 2) ReconnectsDead (init (fun _ : Unit => AddressCall.resolve))
      ((.interval :: List.replicate 8 (.tick (hostAt "10.0.0.1"))) ++
        .close 1 :: .interval :: List.replicate 9 (.tick (hostAt "10.0.0.1"))) := by
    have htest : ∀ (s : HopSystem Unit) (e : UpkeepEvent Unit),
        decide (s.fields.state ≠ .recovering) = true → ReconnectsDead s e := by
      intro s e hstate
      cases e with
      | interval => exact fun _ hrecovering => absurd hrecovering (of_decide_eq_true hstate)
      | _ => trivial
    exact meets_of_checks htest rfl
  obtain ⟨-, -, hkeeps⟩ := maintenance_keeps_open 2 _ _ s hrun
  obtain ⟨hopen, hlive⟩ := hkeeps _ s' hrun' hmeets
  refine ⟨s, s', hrun, by rw [hs], by rw [hs], hrun', hs', by rw [hs']; decide, hopen, ?_⟩
  exact (hlive 0 (by rw [hs]; decide) (by rw [hs]; decide) (by simp)).1

/-! ## A reconnect that discards a live connection -/

/-- In the first tick the first of two connects fails and the second succeeds, so the hop is
recovering with a live connection.  A forward call sends its request on it; the second tick replaces
the set, while the call is waiting. -/
theorem reconnect_discards_open :
    ∃ s s', run (step 2) (init (fun _ : Unit => AddressCall.resolve))
        (.interval :: (List.replicate 5 (.tick (hostAt "10.0.0.1")) ++
          .tick outage :: List.replicate 3 (.tick (hostAt "10.0.0.1"))) ++ [.hold 0]) = some s ∧
      s.tick = .ret () ∧
      run (step 2) s (.interval :: List.replicate 5 (.tick (hostAt "10.0.0.1"))) = some s' ∧
      s'.tick = .ret () ∧ ¬ KeepsOpen s s' := by
  refine ⟨⟨⟨some "10.0.0.1", [0], .recovering, 1, ∅, {0}⟩, .ret (), fun _ => resolveAddress⟩,
    ⟨⟨some "10.0.0.1", [1], .healthy, 2, ∅, {0}⟩, .ret (), fun _ => resolveAddress⟩,
    rfl, rfl, rfl, rfl, ?_⟩
  intro hkeeps
  have hmem : 0 ∈ [1] := hkeeps 0 List.mem_cons_self (Finset.notMem_empty 0)
  exact absurd hmem (by decide)

end HopSystem

end RzRouter
