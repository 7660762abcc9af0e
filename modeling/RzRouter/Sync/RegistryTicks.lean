import RzRouter.Sync.HopLists
import RzRouter.Sync.RemovedZones

/-!
# The hop registry across ticks

After every tick the registry holds the hops of the published table, and after a tick that
publishes it holds no others.
-/

namespace RzRouter

/-- The registry accounts for its hops, and every route of the published table has one. -/
structure Registered (s : RefreshState) : Prop where
  sound : s.client.hops.Sound
  routed : ∀ id ∈ s.routing.getAllHopIds, (s.client.hops.get id).isSome

theorem registered_init (mode : RouterMode) : Registered (RefreshState.init mode) where
  sound := HopManager.sound_new
  routed := by
    intro id hid
    cases mode <;> exact absurd hid (Multiset.notMem_zero id)

/-- A tick leaves the table and only creates hops, or it publishes a table and retires the hops
that are not in it. -/
inductive TickOutcome (client : RzidClient) (s : RefreshState) (tick : Tick) : RefreshState → Prop
  | kept (ids : List String) (c : ClientState) (manifest : Option VersionManifest)
      (hpublishes : ¬ Publishes client s tick) (hhops : c.hops = s.client.hops.createAll ids) :
      TickOutcome client s tick { s with client := c, manifest := manifest }
  | published (manifest : VersionManifest) (snapshot : RoutingSnapshot) (c : ClientState)
      (hpublishes : Publishes client s tick)
      (hlists : ∀ owner, snapshot.lists.lookup owner = s.nextList client manifest tick owner)
      (hhops : c.hops = (s.client.hops.createAll
        (s.hopRequests client manifest tick)).retireUnused snapshot.getAllHopIds) :
      TickOutcome client s tick ⟨snapshot, c, some manifest⟩

theorem tickOutcome (client : RzidClient) (s : RefreshState) (tick : Tick) :
    TickOutcome client s tick (refreshTick client s tick) := by
  cases hversions : tick.answers.versions with
  | error e =>
    rw [refreshTick_of_error hversions]
    exact .kept [] s.client s.manifest (not_publishes_of_error hversions) rfl
  | ok manifest =>
    -- no manifest, no change, a failed sync: three ways to keep the table
    by_cases hchanged : s.changed client manifest = ∅
    · rw [refreshTick_of_unchanged hversions hchanged]
      exact .kept [] s.client _ (not_publishes_of_unchanged hversions hchanged) rfl
    · have hsync := syncOutcome client s manifest tick
      generalize hresult : s.sync client manifest tick = result at hsync
      cases hsync with
      | failed e c hnone hhops =>
        rw [refreshTick_of_failed hversions hchanged hresult]
        exact .kept _ c _ (not_publishes_of_failed hversions hchanged hresult) hhops
      | built snapshot c hsome hlists hhops =>
        rw [refreshTick_of_published hversions hchanged hresult, hhops]
        exact .published manifest snapshot _ (publishes_of_published hversions hchanged hresult)
          hlists rfl

section Tick

variable {client : RzidClient} {s : RefreshState} {tick : Tick} {manifest : VersionManifest}

/-- Every id of the new table is registered before anything is retired. -/
theorem requested_of_next (h : Registered s) {snapshot : RoutingSnapshot}
    (hlists : ∀ owner, snapshot.lists.lookup owner = s.nextList client manifest tick owner)
    {id : String} (hid : id ∈ snapshot.getAllHopIds) :
    (s.client.hops.get id).isSome ∨ id ∈ s.hopRequests client manifest tick := by
  obtain ⟨owner, list, hlookup, hmem⟩ := (snapshot.mem_getAllHopIds id).mp hid
  rw [hlists] at hlookup
  rcases RzidClient.requested_or_current hlookup with hrequested | hcurrent
  · exact Or.inr (hrequested id hmem)
  · exact Or.inl (h.routed id ((s.routing.mem_getAllHopIds id).mpr ⟨owner, list, hcurrent, hmem⟩))

theorem isSome_get_published (h : Registered s) {snapshot : RoutingSnapshot}
    (hlists : ∀ owner, snapshot.lists.lookup owner = s.nextList client manifest tick owner)
    (id : String) :
    (((s.client.hops.createAll (s.hopRequests client manifest tick)).retireUnused
      snapshot.getAllHopIds).get id).isSome ↔ id ∈ snapshot.getAllHopIds := by
  rw [HopManager.get_retireUnused]
  by_cases hid : id ∈ snapshot.getAllHopIds
  · rw [if_pos hid, HopManager.isSome_get_createAll]
    exact iff_of_true (requested_of_next h hlists hid) hid
  · rw [if_neg hid]
    exact iff_of_false Bool.false_ne_true hid

theorem registered_refreshTick (h : Registered s) : Registered (refreshTick client s tick) := by
  have houtcome := tickOutcome client s tick
  generalize refreshTick client s tick = s' at houtcome
  cases houtcome with
  | kept ids c manifest hpublishes hhops =>
    constructor
    · rw [hhops]
      exact HopManager.sound_createAll h.sound ids
    · intro id hid
      rw [hhops, HopManager.isSome_get_createAll]
      exact Or.inl (h.routed id hid)
  | published manifest snapshot c hpublishes hlists hhops =>
    constructor
    · rw [hhops]
      exact HopManager.sound_retireUnused (HopManager.sound_createAll h.sound _) _
    · intro id hid
      rw [hhops]
      exact (isSome_get_published h hlists id).mpr hid

/-- A hop stays where its id stays in the table. -/
theorem get_refreshTick {id : String} {hop : Hop} (hget : s.client.hops.get id = some hop)
    (hid : id ∈ (refreshTick client s tick).routing.getAllHopIds) :
    (refreshTick client s tick).client.hops.get id = some hop := by
  have houtcome := tickOutcome client s tick
  generalize refreshTick client s tick = s' at houtcome hid
  cases houtcome with
  | kept ids c manifest hpublishes hhops =>
    rw [hhops]
    exact HopManager.get_createAll_of_get hget ids
  | published manifest snapshot c hpublishes hlists hhops =>
    rw [hhops, HopManager.get_retireUnused, if_pos hid]
    exact HopManager.get_createAll_of_get hget _

theorem mem_created_refreshTick {hop : Hop} (h : hop ∈ s.client.hops.created) :
    hop ∈ (refreshTick client s tick).client.hops.created := by
  have houtcome := tickOutcome client s tick
  generalize refreshTick client s tick = s' at houtcome
  cases houtcome with
  | kept ids c manifest hpublishes hhops =>
    rw [hhops]
    exact HopManager.mem_created_createAll h ids
  | published manifest snapshot c hpublishes hlists hhops =>
    rw [hhops, HopManager.created_retireUnused]
    exact HopManager.mem_created_createAll h _

end Tick

/-! ## Runs -/

theorem registered_of_run {client : RzidClient} {s s' : RefreshState} {ticks : List Tick}
    (h : Registered s) (hrun : Transition.run (refreshStep client) s ticks = some s') :
    Registered s' := by
  refine Transition.invariant_of_run (I := Registered) (fun s tick s' h hstep => ?_) h hrun
  cases hstep
  exact registered_refreshTick h

theorem mem_created_of_run {client : RzidClient} {s s' : RefreshState} {ticks : List Tick}
    {hop : Hop} (h : hop ∈ s.client.hops.created)
    (hrun : Transition.run (refreshStep client) s ticks = some s') :
    hop ∈ s'.client.hops.created := by
  refine Transition.invariant_of_run (I := fun s => hop ∈ s.client.hops.created)
    (fun s tick s' h hstep => ?_) h hrun
  cases hstep
  exact mem_created_refreshTick h

/-- In every run: after a tick that publishes, the registered ids are those of the new table; a hop
whose id stays in the table is the same one; a hop that leaves the registry is shut down once; and
a tick that publishes nothing leaves the table, whose ids stay registered. -/
theorem registry_exact (client : RzidClient) (ticks : List Tick) (s : RefreshState)
    (hrun : Transition.run (refreshStep client) (RefreshState.init client.mode) ticks = some s)
    (tick : Tick) :
    (Publishes client s tick → ∀ id,
      ((refreshTick client s tick).client.hops.get id).isSome ↔
        id ∈ (refreshTick client s tick).routing.getAllHopIds) ∧
    (∀ id ∈ s.routing.getAllHopIds, id ∈ (refreshTick client s tick).routing.getAllHopIds →
      ∃ hop, s.client.hops.get id = some hop ∧
        (refreshTick client s tick).client.hops.get id = some hop ∧
        hop ∉ (refreshTick client s tick).client.hops.shutdowns) ∧
    (∀ id hop later s', s.client.hops.get id = some hop →
      Transition.run (refreshStep client) s later = some s' →
      s'.client.hops.get id = some hop ∧ s'.client.hops.shutdowns.count hop = 0 ∨
        s'.client.hops.get id ≠ some hop ∧ s'.client.hops.shutdowns.count hop = 1) ∧
    (¬ Publishes client s tick → (refreshTick client s tick).routing = s.routing ∧
      ∀ id ∈ s.routing.getAllHopIds,
        ((refreshTick client s tick).client.hops.get id).isSome) := by
  have h := registered_of_run (registered_init client.mode) hrun
  have hnext : Registered (refreshTick client s tick) := registered_refreshTick h
  refine ⟨fun hpublishes id => ?_, fun id hid hid' => ?_, fun id hop later s' hget hlater => ?_,
    fun hpublishes => ?_⟩
  · have houtcome := tickOutcome client s tick
    generalize refreshTick client s tick = s' at houtcome
    cases houtcome with
    | kept ids c manifest hnot hhops => exact absurd hpublishes hnot
    | published manifest snapshot c _ hlists hhops =>
      rw [hhops]
      exact isSome_get_published h hlists id
  · obtain ⟨hop, hget⟩ := Option.isSome_iff_exists.mp (h.routed id hid)
    have hkept := get_refreshTick hget hid'
    exact ⟨hop, hget, hkept, hnext.sound.notMem_shutdowns hkept⟩
  · have hcreated := mem_created_of_run (HopManager.mem_created_of_get hget) hlater
    have hcount := (registered_of_run h hlater).sound.get_or_count hcreated
    rw [h.sound.named id hop hget] at hcount
    exact hcount
  · have hroutes : (refreshTick client s tick).routing = s.routing := by
      have houtcome := tickOutcome client s tick
      generalize refreshTick client s tick = s' at houtcome
      cases houtcome with
      | kept ids c manifest hnot hhops => rfl
      | published manifest snapshot c hyes hlists hhops => exact absurd hyes hpublishes
    exact ⟨hroutes, fun id hid => hnext.routed id (hroutes.symm ▸ hid)⟩

/-- The keys of zone `b` leave the manifest, and zone `a` has a new version. -/
def newerZoneA : FiniteMap String UInt64 := (∅ : FiniteMap String UInt64).insert "zones/a/routers" 2

/-- Zone `a` has one shard, which is reached through these bridges. -/
def bridgesTick (version : UInt64) (bridges : List String) : Tick where
  answers :=
    { versions := .ok ⟨((∅ : FiniteMap String UInt64).insert "zones/a/shards" version).insert
        "shards/s/segments" 1⟩
      zoneRouters := fun _ => .error (.http "zone routers: timeout")
      zoneSegments := fun _ => .error (.http "zone segments: timeout")
      zoneShards := fun _ => .ok (version, (∅ : FiniteMap String (List String)).insert "s" bridges)
      shardSegments := fun _ => .ok (1, "a", ["lyon"]) }
  zoneOrder := Iteration.ascending String
  topologyOrder := Iteration.ascending String
  shardOrder := Iteration.ascending String

/-- The table of the zone router once the shard has two bridges. -/
def twoBridges : RefreshState :=
  refreshTick (zoneClient "a") (RefreshState.init .zone) (bridgesTick 1 ["bridge-1", "bridge-2"])

/-- On the edge, zone `b` is published and goes; in a zone, the shard loses a bridge.  The hop that
has gone is shut down once, and the other one stays. -/
theorem registry_exact_router_b :
    (refreshTick (edgeClient "")
      (refreshTick (edgeClient "") (RefreshState.init .edge) (routersOnly bothZones))
      (routersOnly newerZoneA)).client.hops.shutdowns.count ⟨"router-b", 1⟩ = 1 ∧
    Publishes (zoneClient "a") twoBridges (bridgesTick 2 ["bridge-2"]) ∧
    (∀ id, ((refreshTick (zoneClient "a") twoBridges
        (bridgesTick 2 ["bridge-2"])).client.hops.get id).isSome ↔ id = "bridge-2") ∧
    (refreshTick (zoneClient "a") twoBridges
      (bridgesTick 2 ["bridge-2"])).client.hops.shutdowns.count ⟨"bridge-1", 0⟩ = 1 := by
  refine ⟨?_, ⟨_, rfl⟩, ?_, ?_⟩
  · obtain ⟨-, -, hremoved, -⟩ := registry_exact (edgeClient "") [routersOnly bothZones] _ rfl
      (routersOnly newerZoneA)
    rcases hremoved "router-b" ⟨"router-b", 1⟩ [routersOnly newerZoneA] _ (by decide) rfl with
      ⟨hget, -⟩ | ⟨-, hcount⟩
    · exact absurd hget (by decide)
    · exact hcount
  · obtain ⟨hexact, -, -, -⟩ := registry_exact (zoneClient "a")
      [bridgesTick 1 ["bridge-1", "bridge-2"]] twoBridges rfl (bridgesTick 2 ["bridge-2"])
    intro id
    rw [hexact ⟨_, rfl⟩ id]
    have hids : (refreshTick (zoneClient "a") twoBridges
        (bridgesTick 2 ["bridge-2"])).routing.getAllHopIds = {"bridge-2"} := by decide
    rw [hids, Multiset.mem_singleton]
  · obtain ⟨-, -, hremoved, -⟩ := registry_exact (zoneClient "a")
      [bridgesTick 1 ["bridge-1", "bridge-2"]] twoBridges rfl (bridgesTick 2 ["bridge-2"])
    rcases hremoved "bridge-1" ⟨"bridge-1", 0⟩ [bridgesTick 2 ["bridge-2"]] _ (by decide) rfl with
      ⟨hget, -⟩ | ⟨-, hcount⟩
    · exact absurd hget (by decide)
    · exact hcount

end RzRouter
