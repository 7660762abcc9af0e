import RzRouter.Sync.ListedSegments

/-!
# The order of the zones and shards

A sync goes through the zones (shards) in the order of a hash set.  If no two of the lists it
installs share a segment, the table it builds does not depend on that order, and the owner of every
segment can be read off the lists and the table it started from.
-/

namespace RzRouter

open Ownership

namespace RzidClient

section Inputs

variable (client : RzidClient) (current : Option RoutingSnapshot) (manifest : VersionManifest)
  (changed : Finset String) (answers : RzidAnswers) (c : ClientState)

/-- The zones (shards) a sync goes through. -/
def syncedOwners : Finset String :=
  match client.mode with
  | .edge => manifest.validZones
  | .zone => (shardsToSync client current answers changed).keys

/-- The segment list that a sync installs for a zone (shard): it is asked for and answered, for a
shard with our own zone. -/
def installedList (owner : String) : Option (List String) :=
  if owner ∈ client.syncedOwners current manifest changed answers then
    match client.mode with
    | .edge => (fetchedSegments answers changed owner).map Prod.snd
    | .zone => (fetchedShard client answers manifest
        (c.localVersions.lookup (shardSegmentsKey owner)) owner).map Prod.snd
  else none

/-- The owners of the table that a sync starts from. -/
def oldOwners : FiniteMap String String :=
  match client.mode with
  | .edge => (currentEdge current).segmentToZone
  | .zone => (currentZone current).segmentToShard

/-- The owners whose segments get to the loop: a zone of the manifest; a shard of the topology, or
any shard if the topology is not fetched. -/
def ReachesLoop (owner : String) : Prop :=
  match client.mode with
  | .edge => owner ∈ manifest.validZones
  | .zone => fetchedTopology client answers changed (currentZone current) = none ∨
      owner ∈ shardsToSync client current answers changed

/-- No two of the installed lists share a segment. -/
def ListsDisjoint : Prop :=
  ∀ o o', o ≠ o' → ∀ list list',
    client.installedList current manifest changed answers c o = some list →
    client.installedList current manifest changed answers c o' = some list' → list.Disjoint list'

end Inputs

section Call

variable (client : RzidClient) (current : Option RoutingSnapshot) (manifest : VersionManifest)
  (changed : Finset String) (tick : Tick) (c : ClientState)

/-- The sync function of the client's mode. -/
def syncState : Except RZError (Option RoutingSnapshot) × ClientState :=
  match client.mode with
  | .edge => syncEdgeState current manifest changed tick c
  | .zone => client.syncZoneState current manifest changed tick c

/-- The segment map at the end of the loop, before the last pass. -/
def segmentMap : FiniteMap String String :=
  match client.mode with
  | .edge => (edgeWork current manifest changed tick c).1.segmentToZone
  | .zone => (zoneWork client current manifest changed tick c).1.segmentToShard

/-! ## The loop installs the lists one by one -/

variable {client current manifest changed tick c}

theorem mem_syncedOwners_of_installedList {answers : RzidAnswers} {owner : String}
    (h : client.installedList current manifest changed answers c owner ≠ none) :
    owner ∈ client.syncedOwners current manifest changed answers := by
  by_contra hnot
  apply h
  unfold installedList
  rw [if_neg hnot]

/-- The map at the end of the loop: the owners that reach it, and then every installed list. -/
theorem exists_segmentMap_eq :
    ∃ start order, Enumerates order (client.syncedOwners current manifest changed tick.answers) ∧
      (∀ segment owner, start.lookup segment = some owner ↔
        (client.oldOwners current).lookup segment = some owner ∧
          client.ReachesLoop current manifest changed tick.answers owner) ∧
      client.segmentMap current manifest changed tick c = replaceOwners start
        (claimsOf (client.installedList current manifest changed tick.answers c) order) := by
  -- inside the loop the installed list of an owner is the one that is fetched for it
  have hclaims : ∀ (fetched : String → Option (UInt64 × List String)) (order : List String),
      (∀ o ∈ order, client.installedList current manifest changed tick.answers c o =
        (fetched o).map Prod.snd) →
      (order.filterMap (fun o => (fetched o).map (fun r => (o, r.2)))).reverse =
        claimsOf (client.installedList current manifest changed tick.answers c) order := by
    intro fetched order h
    unfold claimsOf
    congr 1
    apply List.filterMap_congr
    intro o ho
    rw [h o ho, Option.map_map]
    rfl
  obtain ⟨mode, zid⟩ := client
  cases mode with
  | edge =>
    refine ⟨((currentEdge current).retainValidZones manifest.validZones).segmentToZone,
      tick.zoneOrder.toList manifest.validZones, tick.zoneOrder.enumerates _, ?_, ?_⟩
    · intro segment owner
      unfold EdgeState.retainValidZones
      rw [FiniteMap.lookup_retain_eq_some, decide_eq_true_eq]
      rfl
    · rw [← hclaims (fetchedSegments tick.answers changed)]
      · exact segmentToZone_syncZones _ _ _ _
      · intro o ho
        unfold installedList
        exact if_pos ((mem_zoneOrder manifest tick o).mp ho)
  | zone =>
    have henum : Enumerates (tick.shardOrder.toList
        (topologyWork ⟨.zone, zid⟩ current changed tick c).1.shardToBridges.keys)
        (shardsToSync ⟨.zone, zid⟩ current tick.answers changed).keys := by
      rw [shardToBridges_topologyWork]
      exact tick.shardOrder.enumerates _
    refine ⟨(topologyWork ⟨.zone, zid⟩ current changed tick c).1.segmentToShard, _, henum, ?_, ?_⟩
    · intro segment owner
      unfold ReachesLoop oldOwners shardsToSync
      cases hf : fetchedTopology ⟨.zone, zid⟩ tick.answers changed (currentZone current) with
      | none =>
        rw [topologyWork_of_none _ _ _ _ _ hf]
        simp
      | some r =>
        rw [topologyWork_of_some _ _ _ _ _ hf]
        unfold ZoneState.retainValidShards
        rw [FiniteMap.lookup_retain_eq_some, decide_eq_true_eq, Finmap.mem_keys]
        simp
    · rw [← hclaims (fun x => fetchedShard ⟨.zone, zid⟩ tick.answers manifest
        (c.localVersions.lookup (shardSegmentsKey x)) x)]
      · have hshards := segmentToShard_syncShards ⟨.zone, zid⟩ tick manifest henum.nodup
          (topologyWork ⟨.zone, zid⟩ current changed tick c)
        unfold shardListsFetched at hshards
        -- the topology phase records no segments key
        simp only [localVersions_topologyWork _ _ _ _ _
          (Ne.symm (zoneShardsKey_ne_shardSegmentsKey _ _))] at hshards
        exact hshards
      · intro o ho
        unfold installedList
        exact if_pos ((henum.mem_iff o).mp ho)

theorem lookup_segmentMap
    (hdisjoint : client.ListsDisjoint current manifest changed tick.answers c)
    (segment owner : String) :
    (client.segmentMap current manifest changed tick c).lookup segment = some owner ↔
      (∃ list, client.installedList current manifest changed tick.answers c owner = some list ∧
        segment ∈ list) ∨
      (∀ o list, client.installedList current manifest changed tick.answers c o = some list →
        segment ∉ list) ∧
      ((client.oldOwners current).lookup segment = some owner ∧
        client.ReachesLoop current manifest changed tick.answers owner) ∧
      client.installedList current manifest changed tick.answers c owner = none := by
  obtain ⟨start, order, henum, hstart, hmap⟩ :=
    @exists_segmentMap_eq client current manifest changed tick c
  rw [hmap, lookup_replaceOwners_claimsOf start henum.nodup _ hdisjoint, hstart]
  intro o ho
  exact (henum.mem_iff o).mpr (mem_syncedOwners_of_installedList ho)

/-! ## The table -/

theorem zoneToRouters_edgeWork_congr {tick' : Tick} (h : tick'.answers = tick.answers) :
    (edgeWork current manifest changed tick' c).1.zoneToRouters =
      (edgeWork current manifest changed tick c).1.zoneToRouters := by
  apply Finmap.ext_lookup
  intro z
  have hview : zoneView (edgeWork current manifest changed tick' c) z =
      zoneView (edgeWork current manifest changed tick c) z := by
    by_cases hz : z ∈ manifest.validZones
    · rw [zoneView_edgeWork_of_mem _ _ _ _ _ hz, zoneView_edgeWork_of_mem _ _ _ _ _ hz, h]
    · rw [zoneView_edgeWork_of_notMem _ _ _ _ _ hz, zoneView_edgeWork_of_notMem _ _ _ _ _ hz]
  exact congrArg ZoneView.routers hview

theorem shardToBridges_zoneWork :
    (zoneWork client current manifest changed tick c).1.shardToBridges =
      shardsToSync client current tick.answers changed := by
  unfold zoneWork
  rw [shardToBridges_syncShards, shardToBridges_topologyWork]

theorem syncState_congr {tick' : Tick} (h : tick'.answers = tick.answers)
    (hmap : client.segmentMap current manifest changed tick' c =
      client.segmentMap current manifest changed tick c) :
    (client.syncState current manifest changed tick' c).1 =
      (client.syncState current manifest changed tick c).1 := by
  obtain ⟨mode, zid⟩ := client
  cases mode with
  | edge =>
    have hwork : (edgeWork current manifest changed tick' c).1 =
        (edgeWork current manifest changed tick c).1 := by
      apply EdgeState.ext
      · exact hmap
      · exact zoneToRouters_edgeWork_congr h
    change (syncEdgeState current manifest changed tick' c).1 =
      (syncEdgeState current manifest changed tick c).1
    rw [syncEdgeState_eq, syncEdgeState_eq, hwork]
    split <;> rfl
  | zone =>
    have hwork : (zoneWork ⟨.zone, zid⟩ current manifest changed tick' c).1 =
        (zoneWork ⟨.zone, zid⟩ current manifest changed tick c).1 := by
      apply ZoneState.ext
      · exact hmap
      · rw [shardToBridges_zoneWork, shardToBridges_zoneWork, h]
    change (syncZoneState ⟨.zone, zid⟩ current manifest changed tick' c).1 =
      (syncZoneState ⟨.zone, zid⟩ current manifest changed tick c).1
    rw [syncZoneState_eq, syncZoneState_eq, hwork, shardToBridges_topologyWork,
      shardToBridges_topologyWork, h]
    split <;> rfl

/-- The last pass drops the segments whose owner has no list. -/
theorem lookup_owners_syncState {snapshot : RoutingSnapshot}
    (h : (client.syncState current manifest changed tick c).1 = .ok (some snapshot))
    (segment owner : String) :
    snapshot.owners.lookup segment = some owner ↔
      (client.segmentMap current manifest changed tick c).lookup segment = some owner ∧
        owner ∈ snapshot.lists := by
  obtain ⟨mode, zid⟩ := client
  cases mode with
  | edge =>
    change (syncEdgeState current manifest changed tick c).1 = .ok (some snapshot) at h
    rw [syncEdgeState_eq] at h
    by_cases hempty : (edgeWork current manifest changed tick c).1.zoneToRouters = ∅
    · rw [if_pos hempty] at h
      cases h
    · rw [if_neg hempty] at h
      cases h
      exact lookup_dropUnrouted _ segment owner
  | zone =>
    change (syncZoneState ⟨.zone, zid⟩ current manifest changed tick c).1 = .ok (some snapshot) at h
    rw [syncZoneState_eq] at h
    by_cases hempty : (topologyWork ⟨.zone, zid⟩ current changed tick c).1.shardToBridges = ∅
    · rw [if_pos hempty] at h
      cases h
    · rw [if_neg hempty] at h
      cases h
      have hlists : (zoneWork ⟨.zone, zid⟩ current manifest changed tick c).1.shardToBridges =
          (topologyWork ⟨.zone, zid⟩ current changed tick c).1.shardToBridges := by
        rw [shardToBridges_zoneWork, shardToBridges_topologyWork]
      change ((zoneWork ⟨.zone, zid⟩ current manifest changed tick c).1.retainValidShards
        _).segmentToShard.lookup segment = some owner ↔ _ ∧ owner ∈ (zoneWork ⟨.zone, zid⟩ current
          manifest changed tick c).1.shardToBridges
      unfold ZoneState.retainValidShards
      rw [FiniteMap.lookup_retain_eq_some, decide_eq_true_eq, Finmap.mem_keys, hlists]
      rfl

end Call

end RzidClient

/-- A sync with disjoint lists does not depend on the order of its hash sets: at the end of the
loop a segment in an installed list has that list's owner; any other segment keeps an old owner
that reaches the loop and gets no new list, and has none otherwise; the last pass leaves exactly
the segments whose owner is in the new table. -/
theorem sync_order_free (client : RzidClient) (current : Option RoutingSnapshot)
    (manifest : VersionManifest) (changed : Finset String) (tick : Tick) (c : ClientState)
    (hdisjoint : client.ListsDisjoint current manifest changed tick.answers c) :
    (∀ segment owner,
      (client.segmentMap current manifest changed tick c).lookup segment = some owner ↔
        (∃ list, client.installedList current manifest changed tick.answers c owner = some list ∧
          segment ∈ list) ∨
        (∀ o list, client.installedList current manifest changed tick.answers c o = some list →
          segment ∉ list) ∧
        ((client.oldOwners current).lookup segment = some owner ∧
          client.ReachesLoop current manifest changed tick.answers owner) ∧
        client.installedList current manifest changed tick.answers c owner = none) ∧
    (∀ tick' : Tick, tick'.answers = tick.answers →
      client.segmentMap current manifest changed tick' c =
          client.segmentMap current manifest changed tick c ∧
        (client.syncState current manifest changed tick' c).1 =
          (client.syncState current manifest changed tick c).1) ∧
    ∀ snapshot, (client.syncState current manifest changed tick c).1 = .ok (some snapshot) →
      ∀ segment owner, snapshot.owners.lookup segment = some owner ↔
        (client.segmentMap current manifest changed tick c).lookup segment = some owner ∧
          owner ∈ snapshot.lists := by
  refine ⟨RzidClient.lookup_segmentMap hdisjoint, ?_, ?_⟩
  · intro tick' hanswers
    have hmap : client.segmentMap current manifest changed tick' c =
        client.segmentMap current manifest changed tick c := by
      apply Finmap.ext_lookup
      intro segment
      apply Option.ext
      intro owner
      have hdisjoint' : client.ListsDisjoint current manifest changed tick'.answers c := by
        rw [hanswers]
        exact hdisjoint
      rw [RzidClient.lookup_segmentMap hdisjoint', RzidClient.lookup_segmentMap hdisjoint, hanswers]
    exact ⟨hmap, RzidClient.syncState_congr hanswers hmap⟩
  · intro snapshot hsnapshot
    exact RzidClient.lookup_owners_syncState hsnapshot

/-! ## A segment that moves between two zones

Zone `a` had `lyon`; now `b` has it and `a` has `paris`. -/

def movedManifest : VersionManifest :=
  ⟨((∅ : FiniteMap String UInt64).insert "zones/a/segments" 2).insert "zones/b/segments" 2⟩

def movedTick : Tick where
  answers :=
    { versions := .ok movedManifest
      zoneRouters := fun _ => .error (.http "zone routers: timeout")
      zoneSegments := fun zone => .ok (2, if zone = "a" then ["paris"] else ["lyon"])
      zoneShards := fun _ => .error (.http "zone shards: timeout")
      shardSegments := fun _ => .error (.http "shard segments: timeout") }
  zoneOrder := Iteration.ascending String
  topologyOrder := Iteration.ascending String
  shardOrder := Iteration.ascending String

def lyonInA : RoutingSnapshot :=
  .edge ⟨(∅ : FiniteMap String String).insert "lyon" "a",
    ((∅ : FiniteMap String (List String)).insert "a" ["router-a"]).insert "b" ["router-b"]⟩

theorem movedTick_disjoint :
    RzidClient.ListsDisjoint ⟨.edge, ""⟩ (some lyonInA) movedManifest
      {"zones/a/segments", "zones/b/segments"} movedTick.answers ClientState.new := by
  have hlist : ∀ o list, RzidClient.installedList ⟨.edge, ""⟩ (some lyonInA) movedManifest
      {"zones/a/segments", "zones/b/segments"} movedTick.answers ClientState.new o = some list →
      o = "a" ∧ list = ["paris"] ∨ o = "b" ∧ list = ["lyon"] := by
    intro o list hlist
    have hmem : o ∈ movedManifest.validZones :=
      RzidClient.mem_syncedOwners_of_installedList (hlist ▸ Option.some_ne_none list)
    have hvalid : movedManifest.validZones = {"a", "b"} := by decide
    rw [hvalid, Finset.mem_insert, Finset.mem_singleton] at hmem
    rcases hmem with rfl | rfl
    · left
      exact ⟨rfl, (Option.some.inj hlist).symm⟩
    · right
      exact ⟨rfl, (Option.some.inj hlist).symm⟩
  intro o o' hne list list' ho ho'
  rcases hlist o list ho with ⟨rfl, rfl⟩ | ⟨rfl, rfl⟩ <;>
    rcases hlist o' list' ho' with ⟨rfl, rfl⟩ | ⟨rfl, rfl⟩
  · exact absurd rfl hne
  · simp
  · simp
  · exact absurd rfl hne

theorem sync_order_free_moved :
    (RzidClient.segmentMap ⟨.edge, ""⟩ (some lyonInA) movedManifest
      {"zones/a/segments", "zones/b/segments"} movedTick ClientState.new).lookup "lyon" =
        some "b" :=
  ((sync_order_free ⟨.edge, ""⟩ (some lyonInA) movedManifest
    {"zones/a/segments", "zones/b/segments"} movedTick ClientState.new
    movedTick_disjoint).1 "lyon" "b").mpr (Or.inl ⟨["lyon"], rfl, List.mem_singleton_self _⟩)

/-! ## A list that is not installed, and an owner that only the last pass drops

RzID puts shard `s1` of zone `z1` into zone `z2`.  In the second table `paris` points at a shard
that is not in the topology, and the topology is not fetched. -/

def shardManifest : VersionManifest :=
  ⟨(∅ : FiniteMap String UInt64).insert "shards/s1/segments" 1⟩

def foreignShardTick : Tick where
  answers :=
    { versions := .ok shardManifest
      zoneRouters := fun _ => .error (.http "zone routers: timeout")
      zoneSegments := fun _ => .error (.http "zone segments: timeout")
      zoneShards := fun _ => .error (.http "zone shards: timeout")
      shardSegments := fun _ => .ok (1, "z2", ["lyon"]) }
  zoneOrder := Iteration.ascending String
  topologyOrder := Iteration.ascending String
  shardOrder := Iteration.ascending String

/-- Shard `s1` with one bridge, and the given owners. -/
def oneShard (owners : FiniteMap String String) : RoutingSnapshot :=
  .zone ⟨owners, (∅ : FiniteMap String (List String)).insert "s1" ["bridge-1"]⟩

theorem segment_map_exceptions :
    (foreignShardTick.answers.shardSegments "s1").toOption = some (1, "z2", ["lyon"]) ∧
      (RzidClient.segmentMap ⟨.zone, "z1"⟩ (some (oneShard ∅)) shardManifest
        {"shards/s1/segments"} foreignShardTick ClientState.new).lookup "lyon" = none ∧
      (RzidClient.segmentMap ⟨.zone, "z1"⟩
        (some (oneShard ((∅ : FiniteMap String String).insert "paris" "s0"))) shardManifest
        {"shards/s1/segments"} foreignShardTick ClientState.new).lookup "paris" = some "s0" := by
  decide

end RzRouter
