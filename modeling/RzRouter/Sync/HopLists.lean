import RzRouter.Sync.EdgeTick
import RzRouter.Sync.HopRegistry
import RzRouter.Sync.ZoneTick

/-!
# Hop lists and hop requests of a sync

In both modes a table maps segments to owners (zones or shards) and owners to lists of hop ids.
Here is which lists a tick puts into the table it builds, and for which ids it calls
`get_or_create` on the way.
-/

namespace RzRouter

namespace RoutingSnapshot

/-- Segment to zone, or to shard. -/
def owners : RoutingSnapshot → FiniteMap String String
  | .edge state => state.segmentToZone
  | .zone state => state.segmentToShard

/-- Zone to router ids, or shard to bridge ids. -/
def lists : RoutingSnapshot → FiniteMap String (List String)
  | .edge state => state.zoneToRouters
  | .zone state => state.shardToBridges

theorem lookup_eq (snapshot : RoutingSnapshot) (segment : String) :
    snapshot.lookup segment = lookupTwoLevel snapshot.owners snapshot.lists segment := by
  cases snapshot <;> rfl

theorem mem_getAllHopIds (snapshot : RoutingSnapshot) (id : String) :
    id ∈ snapshot.getAllHopIds ↔
      ∃ owner list, snapshot.lists.lookup owner = some list ∧ id ∈ list := by
  have hbind : snapshot.getAllHopIds =
      snapshot.lists.entries.bind (fun e => (e.2 : Multiset String)) := by
    cases snapshot <;> rfl
  rw [hbind, Multiset.mem_bind]
  constructor
  · rintro ⟨⟨owner, list⟩, hentry, hid⟩
    exact ⟨owner, list, Finmap.lookup_eq_some_iff.mpr hentry, Multiset.mem_coe.mp hid⟩
  · rintro ⟨owner, list, hlookup, hid⟩
    exact ⟨⟨owner, list⟩, Finmap.lookup_eq_some_iff.mp hlookup, Multiset.mem_coe.mpr hid⟩

end RoutingSnapshot

namespace RzidClient

/-- The list of an owner in the table that a sync builds: the one that is fetched, or else the one
of the published table. -/
def nextList (client : RzidClient) (current : RoutingSnapshot) (manifest : VersionManifest)
    (changed : Finset String) (answers : RzidAnswers) (owner : String) : Option (List String) :=
  match client.mode with
  | .edge =>
      if owner ∈ manifest.validZones then
        ((fetchedRouters answers changed owner).map Prod.snd).or
          ((currentEdge (some current)).zoneToRouters.lookup owner)
      else none
  | .zone =>
      (((fetchedTopology client answers changed (currentZone (some current))).map Prod.snd).getD
        (currentZone (some current)).shardToBridges).lookup owner

/-- The ids for which a sync calls `get_or_create`, in order. -/
def hopRequests (client : RzidClient) (current : RoutingSnapshot) (manifest : VersionManifest)
    (changed : Finset String) (tick : Tick) : List String :=
  match client.mode with
  | .edge =>
      (tick.zoneOrder.toList manifest.validZones).flatMap (fun zone =>
        ((fetchedRouters tick.answers changed zone).map Prod.snd).getD [])
  | .zone =>
      ((fetchedTopology client tick.answers changed (currentZone (some current))).map
        (fun r => topologyHops tick r.2)).getD []

/-! ## Edge sync -/

theorem hops_syncZones (answers : RzidAnswers) (changed : Finset String) (zs : List String)
    (work : EdgeState × ClientState) :
    (syncZones answers changed zs work).2.hops =
      work.2.hops.createAll
        (zs.flatMap (fun z => ((fetchedRouters answers changed z).map Prod.snd).getD [])) := by
  unfold syncZones
  induction zs generalizing work with
  | nil => rfl
  | cons z zs ih =>
    have hturn : (syncZone answers changed work z).2.hops =
        work.2.hops.createAll (((fetchedRouters answers changed z).map Prod.snd).getD []) := by
      unfold syncZone
      rw [syncZoneSegments_eq, syncZoneRouters_eq]
      cases fetchedRouters answers changed z <;> cases fetchedSegments answers changed z <;> rfl
    rw [List.foldl_cons, ih, hturn, List.flatMap_cons, HopManager.createAll_append]

theorem lookup_edgeWork (current : RoutingSnapshot) (manifest : VersionManifest)
    (changed : Finset String) (tick : Tick) (c : ClientState) (zid owner : String) :
    (edgeWork (some current) manifest changed tick c).1.zoneToRouters.lookup owner =
      (edgeClient zid).nextList current manifest changed tick.answers owner := by
  unfold nextList
  simp only [edgeClient]
  by_cases howner : owner ∈ manifest.validZones
  · rw [if_pos howner]
    have hview := congrArg ZoneView.routers
      (zoneView_edgeWork_of_mem (some current) manifest changed tick c howner)
    simp only [zoneView, ZoneView.turn] at hview
    rw [hview]
    cases fetchedRouters tick.answers changed owner <;> rfl
  · rw [if_neg howner]
    exact congrArg ZoneView.routers
      (zoneView_edgeWork_of_notMem (some current) manifest changed tick c howner)

/-! ## Zone sync -/

theorem hops_syncShards (client : RzidClient) (tick : Tick) (manifest : VersionManifest)
    (xs : List String) (work : ZoneState × ClientState) :
    (syncShards client tick manifest xs work).2.hops = work.2.hops := by
  unfold syncShards
  induction xs generalizing work with
  | nil => rfl
  | cons x xs ih =>
    rw [List.foldl_cons, ih, syncShardSegments_eq]
    cases fetchedShard client tick.answers manifest
      (work.2.localVersions.lookup (shardSegmentsKey x)) x <;> rfl

theorem mem_topologyHops (tick : Tick) (shards : FiniteMap String (List String)) (id : String) :
    id ∈ topologyHops tick shards ↔ ∃ shard list, shards.lookup shard = some list ∧ id ∈ list := by
  unfold topologyHops
  rw [List.mem_flatMap]
  constructor
  · rintro ⟨shard, -, hid⟩
    cases hlist : shards.lookup shard with
    | none =>
      rw [hlist] at hid
      cases hid
    | some list =>
      rw [hlist] at hid
      exact ⟨shard, list, hlist, hid⟩
  · rintro ⟨shard, list, hlist, hid⟩
    refine ⟨shard, ?_, by rw [hlist]; exact hid⟩
    rw [(tick.topologyOrder.enumerates _).mem_iff, Finmap.mem_keys]
    exact Finmap.mem_of_lookup_eq_some hlist

theorem hops_topologyWork (zid : String) (current : RoutingSnapshot) (manifest : VersionManifest)
    (changed : Finset String) (tick : Tick) (c : ClientState) :
    (topologyWork (zoneClient zid) (some current) changed tick c).2.hops =
      c.hops.createAll ((zoneClient zid).hopRequests current manifest changed tick) := by
  unfold hopRequests
  simp only [zoneClient]
  cases hfetched : fetchedTopology ⟨.zone, zid⟩ tick.answers changed
      (currentZone (some current)) with
  | none =>
    rw [topologyWork_of_none _ _ _ _ _ hfetched]
    rfl
  | some r =>
    rw [topologyWork_of_some _ _ _ _ _ hfetched]
    rfl

/-! ## Both -/

/-- A list of the new table was fetched, with requests for all its ids, or it is in the published
table. -/
theorem requested_or_current {client : RzidClient} {current : RoutingSnapshot}
    {manifest : VersionManifest} {changed : Finset String} {tick : Tick} {owner : String}
    {list : List String}
    (h : client.nextList current manifest changed tick.answers owner = some list) :
    (∀ id ∈ list, id ∈ client.hopRequests current manifest changed tick) ∨
      current.lists.lookup owner = some list := by
  obtain ⟨mode, zid⟩ := client
  unfold nextList at h
  unfold hopRequests
  cases mode with
  | edge =>
    simp only at h ⊢
    by_cases howner : owner ∈ manifest.validZones
    · rw [if_pos howner] at h
      -- a list comes from an answer, which creates its hops, or from the table in use
      cases hfetched : fetchedRouters tick.answers changed owner with
      | none =>
        rw [hfetched] at h
        cases current with
        | edge state => exact Or.inr h
        | zone state => cases h
      | some r =>
        rw [hfetched] at h
        cases h
        refine Or.inl fun id hid => List.mem_flatMap.mpr ⟨owner, ?_, ?_⟩
        · exact (mem_zoneOrder manifest tick owner).mpr howner
        · rw [hfetched]
          exact hid
    · rw [if_neg howner] at h
      cases h
  | zone =>
    simp only at h ⊢
    cases hfetched : fetchedTopology ⟨.zone, zid⟩ tick.answers changed
        (currentZone (some current)) with
    | none =>
      rw [hfetched] at h
      cases current with
      | edge state => cases h
      | zone state => exact Or.inr h
    | some r =>
      rw [hfetched] at h
      exact Or.inl fun id hid => (mem_topologyHops tick r.2 id).mpr ⟨owner, list, h, hid⟩

end RzidClient

section Sync

variable (client : RzidClient) (s : RefreshState) (manifest : VersionManifest) (tick : Tick)

/-- The list of an owner in the table that the tick builds. -/
def RefreshState.nextList (owner : String) : Option (List String) :=
  client.nextList s.routing manifest (s.changed client manifest) tick.answers owner

def RefreshState.hopRequests : List String :=
  client.hopRequests s.routing manifest (s.changed client manifest) tick

/-- What the sync of a tick returns, and what it does to the registry. -/
inductive SyncOutcome : Except RZError (Option RoutingSnapshot) × ClientState → Prop
  | failed (e : RZError) (c : ClientState)
      (hnone : ∀ owner, s.nextList client manifest tick owner = none)
      (hhops : c.hops = s.client.hops.createAll (s.hopRequests client manifest tick)) :
      SyncOutcome (.error e, c)
  | built (snapshot : RoutingSnapshot) (c : ClientState)
      (hsome : ∃ owner, s.nextList client manifest tick owner ≠ none)
      (hlists : ∀ owner, snapshot.lists.lookup owner = s.nextList client manifest tick owner)
      (hhops : c.hops = s.client.hops.createAll (s.hopRequests client manifest tick)) :
      SyncOutcome (.ok (some snapshot), c)

theorem exists_lookup_ne_none {ν : Type} {m : FiniteMap String ν} (h : m ≠ ∅) :
    ∃ a, m.lookup a ≠ none := by
  by_contra hno
  push Not at hno
  exact h ((FiniteMap.eq_empty_iff m).mpr fun a ha => Finmap.lookup_eq_none.mp (hno a) ha)

theorem syncOutcome : SyncOutcome client s manifest tick (s.sync client manifest tick) := by
  obtain ⟨mode, zid⟩ := client
  cases mode with
  | edge =>
    have hhops : (tickWork zid s tick manifest).2.hops =
        s.client.hops.createAll (s.hopRequests (edgeClient zid) manifest tick) :=
      RzidClient.hops_syncZones _ _ _ _
    have hlists : ∀ owner, (tickWork zid s tick manifest).1.zoneToRouters.lookup owner =
        s.nextList (edgeClient zid) manifest tick owner :=
      RzidClient.lookup_edgeWork _ _ _ _ _ zid
    change SyncOutcome (edgeClient zid) s manifest tick (s.sync (edgeClient zid) manifest tick)
    rw [sync_edge_eq]
    split
    -- the sync fails exactly when no owner has a list
    · rename_i hempty
      refine .failed _ _ (fun owner => ?_) hhops
      rw [← hlists owner, hempty, Finmap.lookup_empty]
    · rename_i hsome
      obtain ⟨owner, howner⟩ := exists_lookup_ne_none hsome
      exact .built _ _ ⟨owner, (hlists owner).symm ▸ howner⟩ hlists hhops
  | zone =>
    have htopology : (tickTopologyWork zid s tick manifest).2.hops =
        s.client.hops.createAll (s.hopRequests (zoneClient zid) manifest tick) :=
      RzidClient.hops_topologyWork zid s.routing manifest _ tick s.client
    have hhops : (tickZoneWork zid s tick manifest).2.hops =
        s.client.hops.createAll (s.hopRequests (zoneClient zid) manifest tick) := by
      unfold tickZoneWork
      rw [RzidClient.hops_syncShards, htopology]
    change SyncOutcome (zoneClient zid) s manifest tick (s.sync (zoneClient zid) manifest tick)
    rw [sync_zone_eq]
    split
    · rename_i hempty
      refine .failed _ _ (fun owner => ?_) hhops
      change (resultShards zid s tick manifest).lookup owner = none
      rw [hempty, Finmap.lookup_empty]
    · rename_i hsome
      refine .built _ _ (exists_lookup_ne_none hsome) (fun owner => ?_) hhops
      exact congrArg (Finmap.lookup owner) (shardToBridges_tickZoneWork zid s tick manifest)

end Sync

end RzRouter
