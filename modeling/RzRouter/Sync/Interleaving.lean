import RzRouter.Sync.RegistryTicks

/-!
# The refresh task, step by step

The registry and the published table are two separate atomic cells, and the hot path may look at
them between any two writes of a tick.  A tick starts with what RzID answers during it; then come
the calls of `get_or_create`, the end of `sync_routing_state` with `retire_unused`, and the store
of the new table.  The new table is in place only after the hops of the old one are retired.
-/

namespace RzRouter

/-- Where the refresh task is. -/
inductive RefreshPhase
  | idle
  /-- `get_or_create` is still to be called for `requests`; then the sync ends with `outcome`. -/
  | syncing (requests : List String)
      (outcome : Except RZError (Option RoutingSnapshot) × ClientState)
  /-- The sync has returned a new table. -/
  | publishing (snapshot : RoutingSnapshot)

/-- The state of the refresh task within a tick. -/
structure LiveState where
  refresh : RefreshState
  phase : RefreshPhase

inductive LiveEvent
  | tick (tick : Tick)
  /-- The next `get_or_create`. -/
  | getOrCreate
  /-- `sync_routing_state` returns, after `retire_unused` if it has built a table. -/
  | retireUnused
  /-- `routing.store`. -/
  | store
  /-- `forward` reads the table and the registry. -/
  | lookup (segment : String)

/-- The calls of `get_or_create` in a tick. -/
def RefreshState.tickRequests (client : RzidClient) (s : RefreshState) (tick : Tick) :
    List String :=
  match tick.answers.versions with
  | .error _ => []
  | .ok manifest =>
    if s.changed client manifest = ∅ then [] else s.hopRequests client manifest tick

/-- What `sync_routing_state` returns in a tick. -/
def RefreshState.synced (client : RzidClient) (s : RefreshState) (tick : Tick) :
    Except RZError (Option RoutingSnapshot) × ClientState :=
  client.syncRoutingState (some s.routing) tick s.client

namespace LiveState

def init (mode : RouterMode) : LiveState := ⟨RefreshState.init mode, .idle⟩

def hops (s : LiveState) : HopManager := s.refresh.client.hops

def setHops (s : LiveState) (hops : HopManager) : LiveState :=
  { s with refresh := { s.refresh with client := { s.refresh.client with hops := hops } } }

/-- One step of the refresh task, or a lookup. -/
def step (client : RzidClient) (s : LiveState) (e : LiveEvent) : Option LiveState :=
  match s.phase, e with
  | _, .lookup _ => some s
  | .idle, .tick tick =>
      some
        { refresh := { s.refresh with manifest := tick.latestManifest s.refresh.manifest }
          phase := .syncing (s.refresh.tickRequests client tick) (s.refresh.synced client tick) }
  | .syncing (id :: requests) outcome, .getOrCreate =>
      some { s.setHops (s.hops.getOrCreate id) with phase := .syncing requests outcome }
  | .syncing [] (.ok (some snapshot), c), .retireUnused =>
      let hops := s.hops.retireUnused snapshot.getAllHopIds
      some
        { refresh := { s.refresh with client := { c with hops := hops } }
          phase := .publishing snapshot }
  | .syncing [] (_, c), .retireUnused =>
      some { refresh := { s.refresh with client := { c with hops := s.hops } }, phase := .idle }
  | .publishing snapshot, .store =>
      some { refresh := { s.refresh with routing := snapshot }, phase := .idle }
  | _, _ => none

/-- Every hop id of the published table is registered, and its hop was not shut down. -/
def Resolves (s : LiveState) : Prop :=
  ∀ id ∈ s.refresh.routing.getAllHopIds, ∃ hop, s.hops.get id = some hop ∧ hop ∉ s.hops.shutdowns

end LiveState

/-! ## A whole tick -/

section Tick

variable (client : RzidClient) (s : RefreshState) (tick : Tick)

theorem hops_synced :
    (s.synced client tick).2.hops =
      match (s.synced client tick).1 with
      | .ok (some snapshot) => (s.client.hops.createAll
          (s.tickRequests client tick)).retireUnused snapshot.getAllHopIds
      | _ => s.client.hops.createAll (s.tickRequests client tick) := by
  unfold RefreshState.synced RefreshState.tickRequests
  cases hversions : tick.answers.versions with
  | error e =>
    unfold RzidClient.syncRoutingState
    simp only [hversions]
    rfl
  | ok manifest =>
    by_cases hchanged : s.changed client manifest = ∅
    · rw [syncRoutingState_of_unchanged hversions hchanged]
      simp only [if_pos hchanged]
      rfl
    · rw [syncRoutingState_of_changed hversions hchanged]
      simp only [if_neg hchanged]
      have hsync := syncOutcome client s manifest tick
      -- only a sync that has built a table retires hops
      generalize s.sync client manifest tick = result at hsync
      cases hsync with
      | failed e c hnone hhops => exact hhops
      | built snapshot c hsome hlists hhops =>
        simp only
        rw [hhops]

/-- The state of a tick when all calls of `get_or_create` are done. -/
def RefreshState.created (client : RzidClient) (s : RefreshState) (tick : Tick) : RefreshState :=
  { s with
    client := { s.client with hops := s.client.hops.createAll (s.tickRequests client tick) }
    manifest := tick.latestManifest s.manifest }

theorem run_getOrCreate (refresh : RefreshState) (requests : List String)
    (outcome : Except RZError (Option RoutingSnapshot) × ClientState) :
    Transition.run (LiveState.step client) ⟨refresh, .syncing requests outcome⟩
        (List.replicate requests.length .getOrCreate) =
      some { LiveState.setHops ⟨refresh, .idle⟩ (refresh.client.hops.createAll requests) with
        phase := .syncing [] outcome } := by
  induction requests generalizing refresh with
  | nil => rfl
  | cons id requests ih =>
    rw [List.length_cons, List.replicate_succ]
    refine (Transition.run_cons_eq_some _ _ _ _).mpr ⟨_, rfl, ?_⟩
    exact ih _

/-- A tick up to the end of its calls of `get_or_create`. -/
def createEvents : List LiveEvent :=
  .tick tick :: List.replicate (s.tickRequests client tick).length .getOrCreate

theorem run_createEvents :
    Transition.run (LiveState.step client) ⟨s, .idle⟩ (createEvents client s tick) =
      some ⟨s.created client tick, .syncing [] (s.synced client tick)⟩ :=
  (Transition.run_cons_eq_some _ _ _ _).mpr ⟨_, rfl, run_getOrCreate client _ _ _⟩

/-- The steps of one tick. -/
def tickEvents : List LiveEvent :=
  createEvents client s tick ++ .retireUnused ::
    match (s.synced client tick).1 with
    | .ok (some _) => [.store]
    | _ => []

/-- Played to the end, the steps of a tick are the tick. -/
theorem run_tickEvents :
    Transition.run (LiveState.step client) ⟨s, .idle⟩ (tickEvents client s tick) =
      some ⟨refreshTick client s tick, .idle⟩ := by
  have hhops := hops_synced client s tick
  have hsynced : client.syncRoutingState (some s.routing) tick s.client =
      s.synced client tick := rfl
  unfold tickEvents refreshTick
  rw [Transition.run_append, run_createEvents, Option.bind_some, hsynced]
  -- the requests first, then what the sync decides about the registry
  generalize s.synced client tick = outcome at hhops
  obtain ⟨result, c⟩ := outcome
  refine (Transition.run_cons_eq_some _ _ _ _).mpr ?_
  rcases result with e | _ | snapshot
  · refine ⟨_, rfl, ?_⟩
    simp only at hhops ⊢
    rw [Transition.run_nil]
    unfold LiveState.hops RefreshState.created
    simp only [← hhops]
  · refine ⟨_, rfl, ?_⟩
    simp only at hhops ⊢
    rw [Transition.run_nil]
    unfold LiveState.hops RefreshState.created
    simp only [← hhops]
  · refine ⟨_, rfl, (Transition.run_cons_eq_some _ _ _ _).mpr ⟨_, rfl, ?_⟩⟩
    simp only at hhops ⊢
    rw [Transition.run_nil]
    unfold LiveState.hops RefreshState.created
    simp only [← hhops]

end Tick

/-! ## The condition -/

/-- A tick that builds a table has every hop id of the published table in some list of the new
one: the list that is fetched for a zone (or shard) or, if none is, its list in the published
table. -/
def RefreshState.KeepsRoutes (client : RzidClient) (s : RefreshState) (tick : Tick) : Prop :=
  ∀ manifest, tick.answers.versions = .ok manifest → s.changed client manifest ≠ ∅ →
    (∃ owner, s.nextList client manifest tick owner ≠ none) →
    ∀ id ∈ s.routing.getAllHopIds, ∃ owner list,
      s.nextList client manifest tick owner = some list ∧ id ∈ list

def KeepsRoutes (client : RzidClient) (s : LiveState) (e : LiveEvent) : Prop :=
  match e with
  | .tick tick => s.refresh.KeepsRoutes client tick
  | _ => True

section Built

variable {client : RzidClient} {s : RefreshState} {tick : Tick} {snapshot : RoutingSnapshot}
  {c : ClientState}

/-- Where a new table comes from. -/
theorem built_of_synced (h : s.synced client tick = (.ok (some snapshot), c)) :
    ∃ manifest, tick.answers.versions = .ok manifest ∧ s.changed client manifest ≠ ∅ ∧
      s.tickRequests client tick = s.hopRequests client manifest tick ∧
      (∃ owner, s.nextList client manifest tick owner ≠ none) ∧
      ∀ owner, snapshot.lists.lookup owner = s.nextList client manifest tick owner := by
  unfold RefreshState.synced at h
  unfold RefreshState.tickRequests
  cases hversions : tick.answers.versions with
  | error e =>
    unfold RzidClient.syncRoutingState at h
    rw [hversions] at h
    cases h
  | ok manifest =>
    by_cases hchanged : s.changed client manifest = ∅
    · rw [syncRoutingState_of_unchanged hversions hchanged] at h
      cases h
    · refine ⟨manifest, rfl, hchanged, if_neg hchanged, ?_⟩
      rw [syncRoutingState_of_changed hversions hchanged] at h
      have hsync := syncOutcome client s manifest tick
      generalize s.sync client manifest tick = result at hsync h
      cases hsync with
      | failed e c hnone hhops => cases h
      | built snapshot' c hsome hlists hhops =>
        cases h
        exact ⟨hsome, hlists⟩

end Built

/-! ## Steps -/

/-- A step is a lookup or the next one of the tick. -/
inductive LiveStep (client : RzidClient) (s : LiveState) : LiveEvent → LiveState → Prop
  | lookup (segment : String) : LiveStep client s (.lookup segment) s
  | tick (tick : Tick) (hphase : s.phase = .idle) :
      LiveStep client s (.tick tick)
        { refresh := { s.refresh with manifest := tick.latestManifest s.refresh.manifest }
          phase := .syncing (s.refresh.tickRequests client tick) (s.refresh.synced client tick) }
  | getOrCreate (id : String) (requests : List String)
      (outcome : Except RZError (Option RoutingSnapshot) × ClientState)
      (hphase : s.phase = .syncing (id :: requests) outcome) :
      LiveStep client s .getOrCreate
        { s.setHops (s.hops.getOrCreate id) with phase := .syncing requests outcome }
  | retire (snapshot : RoutingSnapshot) (c : ClientState)
      (hphase : s.phase = .syncing [] (.ok (some snapshot), c)) :
      LiveStep client s .retireUnused
        { refresh := { s.refresh with
            client := { c with hops := s.hops.retireUnused snapshot.getAllHopIds } }
          phase := .publishing snapshot }
  | keep (c : ClientState) :
      LiveStep client s .retireUnused
        { refresh := { s.refresh with client := { c with hops := s.hops } }, phase := .idle }
  | store (snapshot : RoutingSnapshot) (hphase : s.phase = .publishing snapshot) :
      LiveStep client s .store { refresh := { s.refresh with routing := snapshot }, phase := .idle }

theorem liveStep {client : RzidClient} {s s' : LiveState} {e : LiveEvent}
    (hstep : s.step client e = some s') : LiveStep client s e s' := by
  unfold LiveState.step at hstep
  split at hstep
  · cases hstep
    exact .lookup _
  · rename_i tick hphase
    cases hstep
    exact .tick tick hphase
  · rename_i id requests outcome hphase
    cases hstep
    exact .getOrCreate id requests outcome hphase
  · rename_i snapshot c hphase
    cases hstep
    exact .retire snapshot c hphase
  · cases hstep
    exact .keep _
  · rename_i snapshot hphase
    cases hstep
    exact .store snapshot hphase
  · cases hstep

/-! ## The invariant -/

/-- The published table resolves, and so will the one that is being built. -/
structure Live (s : LiveState) : Prop where
  registered : Registered s.refresh
  requested : ∀ requests snapshot c, s.phase = .syncing requests (.ok (some snapshot), c) →
    ∀ id ∈ snapshot.getAllHopIds, (s.hops.get id).isSome ∨ id ∈ requests
  kept : ∀ requests snapshot c, s.phase = .syncing requests (.ok (some snapshot), c) →
    ∀ id ∈ s.refresh.routing.getAllHopIds, id ∈ snapshot.getAllHopIds
  publishable : ∀ snapshot, s.phase = .publishing snapshot →
    ∀ id ∈ snapshot.getAllHopIds, (s.hops.get id).isSome

theorem resolves_of_live {s : LiveState} (h : Live s) : s.Resolves := by
  intro id hid
  obtain ⟨hop, hget⟩ := Option.isSome_iff_exists.mp (h.registered.routed id hid)
  exact ⟨hop, hget, h.registered.sound.notMem_shutdowns hget⟩

theorem live_init (mode : RouterMode) : Live (LiveState.init mode) :=
  ⟨registered_init mode, nofun, nofun, nofun⟩

section Steps

variable {client : RzidClient} {s : LiveState}

theorem live_tick {tick : Tick} (h : Live s) (hcond : s.refresh.KeepsRoutes client tick) :
    Live
      { refresh := { s.refresh with manifest := tick.latestManifest s.refresh.manifest }
        phase := .syncing (s.refresh.tickRequests client tick) (s.refresh.synced client tick) } where
  registered := ⟨h.registered.sound, h.registered.routed⟩
  requested := by
    intro requests snapshot c hphase id hid
    injection hphase with hrequests hsynced
    obtain ⟨manifest, -, -, htick, -, hlists⟩ := built_of_synced hsynced
    rw [← hrequests, htick]
    exact requested_of_next h.registered hlists hid
  kept := by
    intro requests snapshot c hphase id hid
    injection hphase with hrequests hsynced
    obtain ⟨manifest, hversions, hchanged, -, hsome, hlists⟩ := built_of_synced hsynced
    obtain ⟨owner, list, hnext, hmem⟩ := hcond manifest hversions hchanged hsome id hid
    rw [← hlists] at hnext
    exact (snapshot.mem_getAllHopIds id).mpr ⟨owner, list, hnext, hmem⟩
  publishable := nofun

theorem live_getOrCreate {id : String} {requests : List String}
    {outcome : Except RZError (Option RoutingSnapshot) × ClientState} (h : Live s)
    (hphase : s.phase = .syncing (id :: requests) outcome) :
    Live { s.setHops (s.hops.getOrCreate id) with phase := .syncing requests outcome } where
  registered := by
    refine ⟨HopManager.sound_getOrCreate h.registered.sound id, fun a ha => ?_⟩
    exact (HopManager.isSome_get_getOrCreate _ id a).mpr (Or.inl (h.registered.routed a ha))
  requested := by
    rintro _ snapshot c ⟨⟩ a ha
    have hbefore := h.requested _ snapshot c hphase a ha
    rw [List.mem_cons, ← or_assoc] at hbefore
    exact hbefore.imp_left (HopManager.isSome_get_getOrCreate _ id a).mpr
  kept := by
    rintro _ snapshot c ⟨⟩
    exact h.kept _ snapshot c hphase
  publishable := nofun

/-- No hop of the published table is retired, as every id of it is in the new one. -/
theorem live_retire {snapshot : RoutingSnapshot} {c : ClientState} (h : Live s)
    (hphase : s.phase = .syncing [] (.ok (some snapshot), c)) :
    Live
      { refresh := { s.refresh with
          client := { c with hops := s.hops.retireUnused snapshot.getAllHopIds } }
        phase := .publishing snapshot } where
  registered := by
    refine ⟨HopManager.sound_retireUnused h.registered.sound _, fun id hid => ?_⟩
    simp only [HopManager.get_retireUnused, if_pos (h.kept _ snapshot c hphase id hid)]
    exact h.registered.routed id hid
  requested := nofun
  kept := nofun
  publishable := by
    rintro _ ⟨⟩ id hid
    unfold LiveState.hops
    simp only [HopManager.get_retireUnused, if_pos hid]
    exact (h.requested _ snapshot c hphase id hid).resolve_right List.not_mem_nil

theorem live_step {s' : LiveState} {e : LiveEvent} (h : Live s) (hcond : KeepsRoutes client s e)
    (hstep : s.step client e = some s') : Live s' := by
  cases liveStep hstep with
  | lookup segment => exact h
  | tick tick hphase => exact live_tick h hcond
  | getOrCreate id requests outcome hphase => exact live_getOrCreate h hphase
  | retire snapshot c hphase => exact live_retire h hphase
  | keep c => exact ⟨⟨h.registered.sound, h.registered.routed⟩, nofun, nofun, nofun⟩
  | store snapshot hphase =>
    exact ⟨⟨h.registered.sound, h.publishable snapshot hphase⟩, nofun, nofun, nofun⟩

end Steps

/-! ## Results -/

/-- In a tick that does not keep a hop id of the published table, that id is not registered any
more when the new table is about to be stored. -/
theorem unresolved_of_dropped {client : RzidClient} {s : RefreshState} {tick : Tick}
    (h : ¬ s.KeepsRoutes client tick) :
    ∃ s', Transition.run (LiveState.step client) ⟨s, .idle⟩
      (createEvents client s tick ++ [.retireUnused]) = some s' ∧ ¬ s'.Resolves := by
  unfold RefreshState.KeepsRoutes at h
  push Not at h
  obtain ⟨manifest, hversions, hchanged, hsome, id, hid, hnone⟩ := h
  have hsync := syncOutcome client s manifest tick
  have hsynced : s.synced client tick = _ := syncRoutingState_of_changed hversions hchanged.ne_empty
  generalize s.sync client manifest tick = result at hsync hsynced
  cases hsync with
  | failed e c hempty hhops =>
    obtain ⟨owner, howner⟩ := hsome
    exact absurd (hempty owner) howner
  | built snapshot c _ hlists hhops =>
    rw [Transition.run_append, run_createEvents, hsynced, Option.bind_some]
    refine ⟨_, rfl, fun hresolves => ?_⟩
    -- the hop is retired while the old table still lists it
    obtain ⟨hop, hget, -⟩ := hresolves id hid
    have hnot : id ∉ snapshot.getAllHopIds := by
      intro hmem
      obtain ⟨owner, list, hlookup, hlist⟩ := (snapshot.mem_getAllHopIds id).mp hmem
      rw [hlists] at hlookup
      exact hnone owner list hlookup hlist
    unfold LiveState.hops at hget
    simp only [HopManager.get_retireUnused, if_neg hnot] at hget
    cases hget

/-- In a run whose ticks keep the hop ids of the published table, every route resolves at every
moment; and every tick that does not keep them passes through a state in which one does not.  Played
to the end, the steps of a tick are the tick. -/
theorem published_routes_resolve (client : RzidClient) (es : List LiveEvent) (s : LiveState)
    (hrun : Transition.run (LiveState.step client) (LiveState.init client.mode) es = some s) :
    (Transition.Meets (LiveState.step client) (KeepsRoutes client) (LiveState.init client.mode)
        es → s.Resolves) ∧
    (s.phase = .idle → ∀ tick, ¬ s.refresh.KeepsRoutes client tick →
      ∃ s', Transition.run (LiveState.step client) s
        (createEvents client s.refresh tick ++ [.retireUnused]) = some s' ∧ ¬ s'.Resolves) ∧
    (s.phase = .idle → ∀ tick,
      Transition.run (LiveState.step client) s (tickEvents client s.refresh tick) =
        some ⟨refreshTick client s.refresh tick, .idle⟩) := by
  refine ⟨?_, ?_, ?_⟩
  · intro hmeets
    exact resolves_of_live (Transition.invariant_of_meets (I := Live)
      (fun _ _ _ h hcond hstep => live_step h hcond hstep) (live_init client.mode) hmeets hrun)
  · intro hphase tick hdropped
    obtain ⟨refresh, phase⟩ := s
    cases hphase
    exact unresolved_of_dropped hdropped
  · intro hphase tick
    obtain ⟨refresh, phase⟩ := s
    cases hphase
    exact run_tickEvents client refresh tick

/-- The tick that publishes the routers of both zones. -/
def publishBoth : List LiveEvent :=
  [.tick (routersOnly bothZones), .getOrCreate, .getOrCreate, .retireUnused, .store]

theorem published_routes_resolve_both :
    ∃ s, Transition.run (LiveState.step (edgeClient "")) (LiveState.init .edge) publishBoth =
      some s ∧ "router-b" ∈ s.refresh.routing.getAllHopIds ∧ s.Resolves := by
  obtain ⟨s, hrun, hs⟩ := Option.map_eq_some_iff.mp (show
    (Transition.run (LiveState.step (edgeClient "")) (LiveState.init .edge) publishBoth).map
      (fun s => decide ("router-b" ∈ s.refresh.routing.getAllHopIds)) = some true by decide)
  have hmeets : Transition.Meets (LiveState.step (edgeClient "")) (KeepsRoutes (edgeClient ""))
      (LiveState.init .edge) publishBoth :=
    ⟨fun _ _ _ _ id hid => absurd hid (Multiset.notMem_zero id), fun _ _ => ⟨trivial, fun _ _ =>
      ⟨trivial, fun _ _ => ⟨trivial, fun _ _ => ⟨trivial, fun _ _ => trivial⟩⟩⟩⟩⟩
  exact ⟨s, hrun, of_decide_eq_true hs,
    (published_routes_resolve (edgeClient "") publishBoth s hrun).1 hmeets⟩

/-- Zone `b` is gone from the registry, and still in the published table. -/
theorem router_b_unresolved :
    ¬ ∀ (client : RzidClient) (es : List LiveEvent) (s : LiveState),
      Transition.run (LiveState.step client) (LiveState.init client.mode) es = some s →
        s.Resolves := by
  intro h
  obtain ⟨s, hrun, hs⟩ := Option.map_eq_some_iff.mp (show
    (Transition.run (LiveState.step (edgeClient "")) (LiveState.init .edge)
      (publishBoth ++ [.tick (routersOnly newerZoneA), .getOrCreate, .retireUnused])).map
      (fun s => (decide ("router-b" ∈ s.refresh.routing.getAllHopIds), s.hops.get "router-b")) =
        some (true, none) by decide)
  rw [Prod.mk.injEq] at hs
  obtain ⟨hop, hget, -⟩ := h (edgeClient "") _ s hrun "router-b" (of_decide_eq_true hs.1)
  rw [hs.2] at hget
  cases hget

end RzRouter
