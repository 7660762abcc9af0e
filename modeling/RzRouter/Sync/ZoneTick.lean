import RzRouter.Sync.Zone
import RzRouter.Sync.Tick

/-!
# Ticks of a zone router

What a tick can do to the state of the refresh task, and the facts about shards that hold along
every run whatever RzID answers.
-/

namespace RzRouter

open Ownership

/-- The client of a router of zone `zoneId`. -/
def zoneClient (zoneId : String) : RzidClient := ⟨.zone, zoneId⟩

/-- The published zone table. -/
def RefreshState.zoneTable (s : RefreshState) : ZoneState := RzidClient.currentZone (some s.routing)

section Tick

variable (zid : String) (s : RefreshState) (tick : Tick) (manifest : VersionManifest)

/-- The shard topology that the tick fetches. -/
def tickTopology : Option (UInt64 × FiniteMap String (List String)) :=
  fetchedTopology (zoneClient zid) tick.answers (s.changed (zoneClient zid) manifest) s.zoneTable

/-- The shards after the topology phase of the tick. -/
def resultShards : FiniteMap String (List String) :=
  ((tickTopology zid s tick manifest).map Prod.snd).getD s.zoneTable.shardToBridges

/-- The segment list that the tick fetches and accepts for a shard. -/
def tickShard (x : String) : Option (UInt64 × List String) :=
  fetchedShard (zoneClient zid) tick.answers manifest
    (s.client.localVersions.lookup (shardSegmentsKey x)) x

/-- Working state after the topology phase. -/
def tickTopologyWork : ZoneState × ClientState :=
  topologyWork (zoneClient zid) (some s.routing) (s.changed (zoneClient zid) manifest) tick s.client

/-- Working state after the shard loop. -/
def tickZoneWork : ZoneState × ClientState :=
  (zoneClient zid).syncShards tick manifest
    (tick.shardOrder.toList (resultShards zid s tick manifest).keys)
    (tickTopologyWork zid s tick manifest)

/-- How a tick with a manifest can end. -/
inductive ZoneOutcome : Prop
  | unchanged (hchanged : s.changed (zoneClient zid) manifest = ∅)
      (hpublishes : ¬ Publishes (zoneClient zid) s tick)
      (hnext : refreshTick (zoneClient zid) s tick = { s with manifest := some manifest })
  | discarded (hchanged : s.changed (zoneClient zid) manifest ≠ ∅)
      (hpublishes : ¬ Publishes (zoneClient zid) s tick)
      (hempty : resultShards zid s tick manifest = ∅)
      (hnext : refreshTick (zoneClient zid) s tick =
        { s with client := (tickTopologyWork zid s tick manifest).2, manifest := some manifest })
  | published (hchanged : s.changed (zoneClient zid) manifest ≠ ∅)
      (hpublishes : Publishes (zoneClient zid) s tick)
      (hsome : resultShards zid s tick manifest ≠ ∅) (hops : HopManager)
      (hnext : refreshTick (zoneClient zid) s tick =
        { routing := .zone ((tickZoneWork zid s tick manifest).1.retainValidShards
            (resultShards zid s tick manifest).keys)
          client := { (tickZoneWork zid s tick manifest).2 with hops := hops }
          manifest := some manifest })

theorem shardToBridges_tickTopologyWork :
    (tickTopologyWork zid s tick manifest).1.shardToBridges = resultShards zid s tick manifest :=
  shardToBridges_topologyWork (zoneClient zid) (some s.routing)
    (s.changed (zoneClient zid) manifest) tick s.client

theorem shardToBridges_tickZoneWork :
    (tickZoneWork zid s tick manifest).1.shardToBridges = resultShards zid s tick manifest := by
  unfold tickZoneWork
  rw [RzidClient.shardToBridges_syncShards, shardToBridges_tickTopologyWork]

theorem zoneWork_eq_tickZoneWork :
    zoneWork (zoneClient zid) (some s.routing) manifest (s.changed (zoneClient zid) manifest) tick
      s.client = tickZoneWork zid s tick manifest := by
  unfold tickZoneWork
  rw [← shardToBridges_tickTopologyWork]
  rfl

theorem sync_zone_eq :
    s.sync (zoneClient zid) manifest tick =
      if resultShards zid s tick manifest = ∅ then
        (.error (.noRoute "empty zone state after sync"), (tickZoneWork zid s tick manifest).2)
      else
        (.ok (some (.zone ((tickZoneWork zid s tick manifest).1.retainValidShards
            (resultShards zid s tick manifest).keys))), (tickZoneWork zid s tick manifest).2) := by
  have hsync : s.sync (zoneClient zid) manifest tick = _ :=
    syncZoneState_eq (zoneClient zid) (some s.routing) manifest
      (s.changed (zoneClient zid) manifest) tick s.client
  have hshards := shardToBridges_tickTopologyWork zid s tick manifest
  unfold tickTopologyWork at hshards
  rw [hsync, zoneWork_eq_tickZoneWork, hshards]

variable {zid s tick manifest}

variable (zid s) in
theorem zoneOutcome (h : tick.answers.versions = .ok manifest) :
    ZoneOutcome zid s tick manifest := by
  by_cases hchanged : s.changed (zoneClient zid) manifest = ∅
  · exact ZoneOutcome.unchanged hchanged (not_publishes_of_unchanged h hchanged)
      (refreshTick_of_unchanged h hchanged)
  · have hsync := sync_zone_eq zid s tick manifest
    by_cases hempty : resultShards zid s tick manifest = ∅
    · have hshards := (shardToBridges_tickTopologyWork zid s tick manifest).trans hempty
      unfold tickTopologyWork at hshards
      rw [if_pos hempty, ← zoneWork_eq_tickZoneWork,
        zoneWork_of_no_shards _ _ _ _ _ _ hshards] at hsync
      exact ZoneOutcome.discarded hchanged (not_publishes_of_failed h hchanged hsync) hempty
        (refreshTick_of_failed h hchanged hsync)
    · rw [if_neg hempty] at hsync
      exact ZoneOutcome.published hchanged (publishes_of_published h hchanged hsync) hempty _
        (refreshTick_of_published h hchanged hsync)

/-! ## The topology phase, shard by shard -/

theorem shardClaims_tickTopologyWork :
    shardClaims (tickTopologyWork zid s tick manifest).2.log = shardClaims s.client.log := by
  unfold tickTopologyWork
  cases hf : tickTopology zid s tick manifest with
  | none => rw [topologyWork_of_none _ _ _ _ _ hf]
  | some r =>
    rw [topologyWork_of_some _ _ _ _ _ hf]
    rfl

theorem recorded_tickTopologyWork (x : String) :
    (tickTopologyWork zid s tick manifest).2.localVersions.lookup (shardSegmentsKey x) =
      s.client.localVersions.lookup (shardSegmentsKey x) := by
  unfold tickTopologyWork
  cases hf : tickTopology zid s tick manifest with
  | none => rw [topologyWork_of_none _ _ _ _ _ hf]
  | some r =>
    rw [topologyWork_of_some _ _ _ _ _ hf]
    exact Finmap.lookup_insert_of_ne _ (Ne.symm (zoneShardsKey_ne_shardSegmentsKey _ x))

theorem last_tickTopologyWork (x : String) :
    lastShardSegments (tickTopologyWork zid s tick manifest).2.log x =
      lastShardSegments s.client.log x := by
  unfold tickTopologyWork
  cases hf : tickTopology zid s tick manifest with
  | none => rw [topologyWork_of_none _ _ _ _ _ hf]
  | some r =>
    rw [topologyWork_of_some _ _ _ _ _ hf]
    rfl

/-- A shard leaves when the fetched topology is not empty and does not have it. -/
theorem left_tickTopologyWork (x : String) :
    leftTopology (tickTopologyWork zid s tick manifest).2.log x =
      (decide (resultShards zid s tick manifest ≠ ∅ ∧ x ∉ resultShards zid s tick manifest ∧
        tickTopology zid s tick manifest ≠ none) || leftTopology s.client.log x) := by
  unfold tickTopologyWork resultShards
  cases hf : tickTopology zid s tick manifest with
  | none =>
    rw [topologyWork_of_none _ _ _ _ _ hf]
    simp
  | some r =>
    rw [topologyWork_of_some _ _ _ _ _ hf]
    simp [ClientState.updateLocalVersion, ClientState.createHops, leftTopology]

theorem lookup_tickTopologyWork (seg x : String) :
    (tickTopologyWork zid s tick manifest).1.segmentToShard.lookup seg = some x ↔
      s.zoneTable.segmentToShard.lookup seg = some x ∧
        (tickTopology zid s tick manifest ≠ none → x ∈ resultShards zid s tick manifest) := by
  unfold tickTopologyWork resultShards
  cases hf : tickTopology zid s tick manifest with
  | none =>
    rw [topologyWork_of_none _ _ _ _ _ hf]
    simp [RefreshState.zoneTable]
  | some r =>
    rw [topologyWork_of_some _ _ _ _ _ hf]
    unfold ZoneState.retainValidShards
    rw [FiniteMap.lookup_retain_eq_some, decide_eq_true_eq, Finmap.mem_keys]
    simp [RefreshState.zoneTable]

end Tick

/-! ## What holds along every run -/

/-- The published table is a zone table whose segments point at shards of the topology, every
recorded version is that of the last list, and the table has the segments of the shards that have
stayed in the topology since. -/
structure ZoneInvariant (s : RefreshState) : Prop where
  zone : s.routing = .zone s.zoneTable
  placed : ∀ seg x, s.zoneTable.segmentToShard.lookup seg = some x → x ∈ s.zoneTable.shardToBridges
  recorded : ∀ x, s.client.localVersions.lookup (shardSegmentsKey x) =
    (lastShardSegments s.client.log x).map Prod.fst
  owns : ∀ x, RzidClient.ShardOwns (s.zoneTable, s.client) x

theorem zoneInvariant_init : ZoneInvariant (RefreshState.init .zone) where
  zone := rfl
  placed := by
    intro seg x h
    cases h
  recorded _ := rfl
  owns x := by
    refine ⟨fun _ => ?_, nofun⟩
    exact (exact_iff_of_unowned (fun seg h => by cases h)).mpr rfl

section Run

variable {zid : String} {s : RefreshState} {tick : Tick} {manifest : VersionManifest}

/-- Every segment points at a shard of the topology phase when the table is published. -/
theorem placed_tickZoneWork (h : ZoneInvariant s) {seg x : String}
    (hseg : (tickZoneWork zid s tick manifest).1.segmentToShard.lookup seg = some x) :
    x ∈ resultShards zid s tick manifest := by
  rcases RzidClient.claimed_syncShards _ _ _ _ _ _ _ hseg with hbefore | ⟨hloop, -⟩
  · obtain ⟨hold, htopology⟩ := (lookup_tickTopologyWork seg x).mp hbefore
    by_cases hnone : tickTopology zid s tick manifest = none
    · unfold resultShards
      rw [hnone]
      exact h.placed seg x hold
    · exact htopology hnone
  · exact Finmap.mem_keys.mp (((tick.shardOrder.enumerates _).mem_iff x).mp hloop)

theorem shardOwns_tickTopologyWork (h : ZoneInvariant s)
    (hsome : resultShards zid s tick manifest ≠ ∅) (x : String) :
    RzidClient.ShardOwns (tickTopologyWork zid s tick manifest) x := by
  have howns := h.owns x
  constructor
  · intro hfalse
    rw [left_tickTopologyWork, Bool.or_eq_false_iff, decide_eq_false_iff_not] at hfalse
    rw [shardClaims_tickTopologyWork]
    intro seg
    rw [lookup_tickTopologyWork, ← howns.exact hfalse.2 seg, and_iff_left_iff_imp]
    intro _ hfetched
    by_contra hnot
    exact hfalse.1 ⟨hsome, hnot, hfetched⟩
  · intro htrue seg hseg
    obtain ⟨hold, htopology⟩ := (lookup_tickTopologyWork seg x).mp hseg
    rw [left_tickTopologyWork, Bool.or_eq_true, decide_eq_true_eq] at htrue
    -- it left in this tick, or before and has not answered since
    rcases htrue with ⟨-, hnot, hfetched⟩ | hleft
    · exact hnot (htopology hfetched)
    · exact howns.unmapped hleft seg hold

theorem lookup_retain_tickZoneWork (h : ZoneInvariant s) (seg x : String) :
    ((tickZoneWork zid s tick manifest).1.retainValidShards
        (resultShards zid s tick manifest).keys).segmentToShard.lookup seg = some x ↔
      (tickZoneWork zid s tick manifest).1.segmentToShard.lookup seg = some x := by
  unfold ZoneState.retainValidShards
  rw [FiniteMap.lookup_retain_eq_some, and_iff_left_iff_imp, decide_eq_true_eq, Finmap.mem_keys]
  exact placed_tickZoneWork h

/-- In a published table every shard that has not left owns exactly its segments. -/
theorem shardOwns_of_published (h : ZoneInvariant s)
    (hsome : resultShards zid s tick manifest ≠ ∅) (hops : HopManager) (x : String) :
    RzidClient.ShardOwns
      ((tickZoneWork zid s tick manifest).1.retainValidShards (resultShards zid s tick manifest).keys,
        { (tickZoneWork zid s tick manifest).2 with hops := hops }) x := by
  have howns := RzidClient.shardOwns_syncShards (zoneClient zid) tick manifest
    (tick.shardOrder.toList (resultShards zid s tick manifest).keys) _ x
    (shardOwns_tickTopologyWork h hsome x)
  constructor
  · intro hfalse seg
    rw [lookup_retain_tickZoneWork h]
    exact howns.exact hfalse seg
  · intro htrue seg hseg
    rw [lookup_retain_tickZoneWork h] at hseg
    exact howns.unmapped htrue seg hseg

theorem shardView_tickZoneWork (x : String) :
    RzidClient.shardView (tickZoneWork zid s tick manifest).2 x =
      if x ∈ resultShards zid s tick manifest then
        (RzidClient.shardView (tickTopologyWork zid s tick manifest).2 x).turn
          (tickShard zid s tick manifest x)
      else RzidClient.shardView (tickTopologyWork zid s tick manifest).2 x := by
  unfold tickZoneWork
  rw [RzidClient.shardView_syncShards _ _ _ (tick.shardOrder.enumerates _).nodup]
  simp only [(tick.shardOrder.enumerates _).mem_iff, Finmap.mem_keys]
  congr 3
  exact recorded_tickTopologyWork x

theorem recorded_tickZoneWork (h : ZoneInvariant s) (x : String) :
    (RzidClient.shardView (tickZoneWork zid s tick manifest).2 x).recorded =
      (RzidClient.shardView (tickZoneWork zid s tick manifest).2 x).last.map Prod.fst := by
  have htopology : (RzidClient.shardView (tickTopologyWork zid s tick manifest).2 x).recorded =
      (RzidClient.shardView (tickTopologyWork zid s tick manifest).2 x).last.map Prod.fst := by
    simp only [RzidClient.shardView, recorded_tickTopologyWork, last_tickTopologyWork]
    exact h.recorded x
  rw [shardView_tickZoneWork]
  split
  · cases tickShard zid s tick manifest x with
    | none => exact htopology
    | some r => rfl
  · exact htopology

theorem zoneInvariant_refreshTick (h : ZoneInvariant s) :
    ZoneInvariant (refreshTick (zoneClient zid) s tick) := by
  cases hversions : tick.answers.versions with
  | error e =>
    rw [refreshTick_of_error hversions]
    exact h
  | ok manifest =>
    rcases zoneOutcome zid s hversions with
      ⟨hchanged, -, hnext⟩ | ⟨hchanged, -, hempty, hnext⟩ | ⟨hchanged, -, hsome, hops, hnext⟩
    · rw [hnext]
      exact ⟨h.zone, h.placed, h.recorded, h.owns⟩
    · rw [hnext]
      refine ⟨h.zone, h.placed, fun x => ?_, fun x => ⟨fun hfalse => ?_, fun htrue => ?_⟩⟩
      · rw [recorded_tickTopologyWork, last_tickTopologyWork]
        exact h.recorded x
      · -- an empty topology is not installed, nobody leaves
        simp only [left_tickTopologyWork, hempty] at hfalse
        simp only [shardClaims_tickTopologyWork]
        exact (h.owns x).exact (by simpa using hfalse)
      · simp only [left_tickTopologyWork, hempty] at htrue
        exact (h.owns x).unmapped (by simpa using htrue)
    · rw [hnext]
      refine ⟨rfl, fun seg x hseg => ?_, recorded_tickZoneWork h, shardOwns_of_published h hsome hops⟩
      have hplaced := placed_tickZoneWork h ((lookup_retain_tickZoneWork h seg x).mp hseg)
      rw [← shardToBridges_tickZoneWork] at hplaced
      exact hplaced

end Run

end RzRouter
