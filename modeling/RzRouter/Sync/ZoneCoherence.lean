import RzRouter.Sync.ZoneTick
import Mathlib.Data.String.Basic

/-!
# Recorded versions and the published zone table

The topology refresh drops the segments of a shard that leaves, the segment loop skips a shard
whose recorded version is the manifest's, and the recorded version outlives the absence.  A shard
that comes back at the same version comes back without its segments.
-/

namespace RzRouter

open Ownership

/-- After a tick that publishes, every shard of the table whose recorded version is the
manifest's has the segments of the list last fetched, less those of newer lists of other shards. -/
def ShardsCoherentAfter (zid : String) (s : RefreshState) (tick : Tick) : Prop :=
  Publishes (zoneClient zid) s tick → ∀ manifest, tick.answers.versions = .ok manifest →
    ∃ st, (refreshTick (zoneClient zid) s tick).routing = .zone st ∧
      ∀ x ∈ st.shardToBridges, ∀ version,
        (refreshTick (zoneClient zid) s tick).client.localVersions.lookup (shardSegmentsKey x) =
          some version →
        manifest.versions.lookup (shardSegmentsKey x) = some version →
        (∃ list, lastShardSegments (refreshTick (zoneClient zid) s tick).client.log x =
          some (version, list)) ∧
        Exact st.segmentToShard
          (shardClaims (refreshTick (zoneClient zid) s tick).client.log) x

/-- No shard of the resulting topology has been out of the topology since its last list was
fetched while its recorded version is still the manifest's, unless the lists fetched in this tick
for other shards take every segment it should have. -/
def NoShardReturnsUnfetched (zid : String) (s : RefreshState) (tick : Tick) : Prop :=
  ∀ manifest, tick.answers.versions = .ok manifest → s.changed (zoneClient zid) manifest ≠ ∅ →
    ∀ x ∈ resultShards zid s tick manifest, ∀ version,
      s.client.localVersions.lookup (shardSegmentsKey x) = some version →
      manifest.versions.lookup (shardSegmentsKey x) = some version →
      leftTopology s.client.log x = true →
      ∀ seg ∈ held (shardClaims s.client.log) x,
        ∃ other ∈ resultShards zid s tick manifest, ∃ version list,
          tickShard zid s tick manifest other = some (version, list) ∧ seg ∈ list

section Tick

variable {zid : String} {s : RefreshState} {tick : Tick} {manifest : VersionManifest}

/-- A shard at the manifest's version is not fetched. -/
theorem tickShard_of_current {x : String} {version : UInt64}
    (hrecorded : s.client.localVersions.lookup (shardSegmentsKey x) = some version)
    (hmanifest : manifest.versions.lookup (shardSegmentsKey x) = some version) :
    tickShard zid s tick manifest x = none := by
  unfold tickShard fetchedShard
  rw [hmanifest, hrecorded]
  exact if_pos rfl

/-- What a shard that is not fetched still holds after the loop. -/
theorem held_tickZoneWork_eq_empty_iff {x : String}
    (hx : tickShard zid s tick manifest x = none) :
    held (shardClaims (tickZoneWork zid s tick manifest).2.log) x = ∅ ↔
      ∀ seg ∈ held (shardClaims s.client.log) x,
        ∃ other ∈ resultShards zid s tick manifest, ∃ version list,
          tickShard zid s tick manifest other = some (version, list) ∧ seg ∈ list := by
  -- `x` keeps what no other shard claims in this tick
  have hmem : ∀ seg, seg ∈ held (shardClaims (tickZoneWork zid s tick manifest).2.log) x ↔
      seg ∈ held (shardClaims s.client.log) x ∧
        ∀ other ∈ resultShards zid s tick manifest, ∀ version list,
          tickShard zid s tick manifest other = some (version, list) → seg ∉ list := by
    intro seg
    unfold tickZoneWork
    rw [RzidClient.mem_held_syncShards _ _ _ (tick.shardOrder.enumerates _).nodup,
      shardClaims_tickTopologyWork]
    · simp only [recorded_tickTopologyWork, (tick.shardOrder.enumerates _).mem_iff,
        Finmap.mem_keys]
      rfl
    · rw [recorded_tickTopologyWork]
      exact hx
  rw [Finset.eq_empty_iff_forall_notMem]
  refine forall_congr' (fun seg => ?_)
  rw [hmem seg]
  simp only [not_and, not_forall, not_not, exists_prop]

theorem shard_coherent_iff (h : ZoneInvariant s)
    (hsome : resultShards zid s tick manifest ≠ ∅) {x : String}
    (hx : x ∈ resultShards zid s tick manifest) (hops : HopManager) :
    (∀ version, (tickZoneWork zid s tick manifest).2.localVersions.lookup (shardSegmentsKey x) =
        some version →
      manifest.versions.lookup (shardSegmentsKey x) = some version →
      (∃ list, lastShardSegments (tickZoneWork zid s tick manifest).2.log x =
        some (version, list)) ∧
      Exact ((tickZoneWork zid s tick manifest).1.retainValidShards
          (resultShards zid s tick manifest).keys).segmentToShard
        (shardClaims (tickZoneWork zid s tick manifest).2.log) x) ↔
    ∀ version, s.client.localVersions.lookup (shardSegmentsKey x) = some version →
      manifest.versions.lookup (shardSegmentsKey x) = some version →
      leftTopology s.client.log x = true →
      ∀ seg ∈ held (shardClaims s.client.log) x,
        ∃ other ∈ resultShards zid s tick manifest, ∃ version list,
          tickShard zid s tick manifest other = some (version, list) ∧ seg ∈ list := by
  have howns := shardOwns_of_published h hsome hops x
  have hlast : (RzidClient.shardView (tickZoneWork zid s tick manifest).2 x).recorded = _ :=
    recorded_tickZoneWork h x
  have hview : RzidClient.shardView (tickZoneWork zid s tick manifest).2 x = _ :=
    shardView_tickZoneWork x
  rw [if_pos hx] at hview
  cases hf : tickShard zid s tick manifest x with
  | some r =>
    rw [hf] at hview
    -- the shard has answered: it owns its list, and its version was not the current one
    refine iff_of_true ?_ ?_
    · intro version hrecorded _
      have hr : some r.1 = some version :=
        (congrArg RzidClient.ShardView.recorded hview).symm.trans hrecorded
      cases hr
      exact ⟨⟨r.2, congrArg RzidClient.ShardView.last hview⟩,
        howns.exact (congrArg RzidClient.ShardView.left hview)⟩
    · intro version hrecorded hmanifest
      rw [tickShard_of_current hrecorded hmanifest] at hf
      cases hf
  | none =>
    rw [hf] at hview
    have hrecorded : (tickZoneWork zid s tick manifest).2.localVersions.lookup
        (shardSegmentsKey x) = s.client.localVersions.lookup (shardSegmentsKey x) :=
      (congrArg RzidClient.ShardView.recorded hview).trans (recorded_tickTopologyWork x)
    -- the shard is in the new topology, so it does not leave in this tick
    have hleft : leftTopology (tickZoneWork zid s tick manifest).2.log x =
        leftTopology s.client.log x := by
      refine (congrArg RzidClient.ShardView.left hview).trans ?_
      rw [← Bool.false_or (leftTopology s.client.log x)]
      refine (left_tickTopologyWork x).trans ?_
      simp [hx]
    have hlist : ∀ version, s.client.localVersions.lookup (shardSegmentsKey x) = some version →
        ∃ list, lastShardSegments (tickZoneWork zid s tick manifest).2.log x =
          some (version, list) := by
      intro version hversion
      rw [← hrecorded] at hversion
      obtain ⟨r, hr, rfl⟩ := Option.map_eq_some_iff.mp (hlast.symm.trans hversion)
      exact ⟨r.2, hr⟩
    rw [hrecorded]
    refine forall_congr' (fun version => forall₂_congr (fun hversion _ => ?_))
    rw [and_iff_right (hlist version hversion), ← held_tickZoneWork_eq_empty_iff hf]
    -- a shard that never left owns what it holds, one that did owns nothing
    cases hl : leftTopology s.client.log x with
    | false => exact iff_of_true (howns.exact (hleft.trans hl)) nofun
    | true =>
      rw [exact_iff_of_unowned (howns.unmapped (hleft.trans hl)), forall_prop_of_true rfl]

theorem shardsCoherentAfter_iff (h : ZoneInvariant s) :
    ShardsCoherentAfter zid s tick ↔ NoShardReturnsUnfetched zid s tick := by
  unfold ShardsCoherentAfter NoShardReturnsUnfetched
  cases hversions : tick.answers.versions with
  | error e =>
    exact iff_of_true (fun hpublishes => absurd hpublishes (not_publishes_of_error hversions))
      (fun _ => nofun)
  | ok manifest =>
    simp only [Except.ok.injEq, forall_eq']
    rcases zoneOutcome zid s hversions with
      ⟨hchanged, hpublishes, -⟩ | ⟨hchanged, hpublishes, hempty, -⟩ |
        ⟨hchanged, hpublishes, hsome, hops, hnext⟩
    · exact iff_of_true (fun hp => absurd hp hpublishes) (fun hne => absurd hchanged hne)
    · refine iff_of_true (fun hp => absurd hp hpublishes) (fun _ x hx => ?_)
      rw [hempty] at hx
      exact absurd hx Finmap.notMem_empty
    · rw [hnext, forall_prop_of_true hpublishes, forall_prop_of_true hchanged]
      have hshards := shardToBridges_tickZoneWork zid s tick manifest
      constructor
      · rintro ⟨st, hst, hcoherent⟩ x hx
        cases hst
        exact (shard_coherent_iff h hsome hx hops).mp (hcoherent x (hshards.symm ▸ hx))
      · intro hreturns
        refine ⟨_, rfl, fun x hx => ?_⟩
        have hx' : x ∈ resultShards zid s tick manifest := hshards ▸ hx
        exact (shard_coherent_iff h hsome hx' hops).mpr (hreturns x hx')

end Tick

/-- A run of a zone router is coherent after every tick that publishes exactly when no shard
returns to the topology with its segments dropped and its version recorded. -/
theorem zone_coherence_iff (zid : String) (ticks : List Tick) :
    Transition.Meets (refreshStep (zoneClient zid)) (ShardsCoherentAfter zid)
        (RefreshState.init .zone) ticks ↔
      Transition.Meets (refreshStep (zoneClient zid)) (NoShardReturnsUnfetched zid)
        (RefreshState.init .zone) ticks := by
  have hiff : ∀ s tick, ZoneInvariant s →
      (ShardsCoherentAfter zid s tick ↔ NoShardReturnsUnfetched zid s tick) :=
    fun s tick h => shardsCoherentAfter_iff h
  refine Transition.meets_congr hiff ?_ zoneInvariant_init
  rintro s tick s' h - hstep
  cases hstep
  exact zoneInvariant_refreshTick h

/-! ## A shard that comes back empty

Shard `x` is there, is moved away for one tick, and is there again; its segment list never
changes. -/

/-- RzID's answers for a topology of zone `z`, at the topology's version. -/
def topologyTick (version : UInt64) (shards : List String) : Tick where
  answers :=
    { versions := .ok ⟨((((∅ : FiniteMap String UInt64).insert "zones/z/shards" version).insert
        "shards/x/segments" 1).insert "shards/y/segments" 1)⟩
      zoneRouters := fun _ => .error (.http "zone routers: timeout")
      zoneSegments := fun _ => .error (.http "zone segments: timeout")
      zoneShards := fun _ =>
        .ok (version, shards.foldl (fun m shard => m.insert shard ["bridge-" ++ shard]) ∅)
      shardSegments := fun shard => .ok (1, "z", ["segment-" ++ shard]) }
  zoneOrder := Iteration.ascending String
  topologyOrder := Iteration.ascending String
  shardOrder := Iteration.ascending String

/-- The state after the three ticks. -/
def returnedState : RefreshState :=
  [topologyTick 1 ["x", "y"], topologyTick 2 ["y"], topologyTick 3 ["x", "y"]].foldl
    (refreshTick (zoneClient "z")) (RefreshState.init .zone)

theorem returned_shard_has_no_segments :
    ¬ Transition.Meets (refreshStep (zoneClient "z")) (ShardsCoherentAfter "z")
        (RefreshState.init .zone)
        [topologyTick 1 ["x", "y"], topologyTick 2 ["y"], topologyTick 3 ["x", "y"]] := by
  rintro ⟨-, hrest⟩
  obtain ⟨-, hrest⟩ := hrest _ rfl
  obtain ⟨hlast, -⟩ := hrest _ rfl
  have hpublishes : Publishes (zoneClient "z")
      ([topologyTick 1 ["x", "y"], topologyTick 2 ["y"]].foldl
        (refreshTick (zoneClient "z")) (RefreshState.init .zone))
      (topologyTick 3 ["x", "y"]) := ⟨_, rfl⟩
  obtain ⟨st, hst, hcoherent⟩ := hlast hpublishes _ rfl
  have hx : (match returnedState.routing with
    | .zone st => decide ("x" ∈ st.shardToBridges ∧ st.segmentToShard.lookup "segment-x" = none)
    | .edge _ => false) = true := by decide
  have hst' : returnedState.routing = .zone st := hst
  rw [hst'] at hx
  obtain ⟨hmem, hnone⟩ := of_decide_eq_true hx
  obtain ⟨-, hexact⟩ := hcoherent "x" hmem 1 (by decide) (by decide)
  have hsome := (hexact "segment-x").mpr (by decide)
  rw [hnone] at hsome
  cases hsome

end RzRouter
