import Mathlib.Data.String.Basic
import RzRouter.Network.FixedTable
import RzRouter.Sync.HopLists

/-!
# Listed segments

A segment is listed when it has an owner, and forwarded when the owner's list is not empty.  The
last pass of a sync only asks whether the owner has a list, so the two differ where RzID answers
with an empty one.
-/

namespace RzRouter

open Ownership

namespace RzidClient

theorem segmentToZone_syncZones (answers : RzidAnswers) (changed : Finset String)
    (zs : List String) (work : EdgeState × ClientState) :
    (syncZones answers changed zs work).1.segmentToZone =
      replaceOwners work.1.segmentToZone (fetchedClaims answers changed zs) := by
  unfold syncZones fetchedClaims
  induction zs generalizing work with
  | nil => rfl
  | cons z zs ih =>
    -- one turn replaces the segments of its zone, if they were fetched
    have hturn : (syncZone answers changed work z).1.segmentToZone =
        replaceOwners work.1.segmentToZone
          ((fetchedSegments answers changed z).map (fun r => (z, r.2))).toList := by
      unfold syncZone
      rw [syncZoneSegments_eq, syncZoneRouters_eq]
      cases fetchedRouters answers changed z <;> cases fetchedSegments answers changed z <;> rfl
    rw [List.foldl_cons, ih, hturn, List.filterMap_cons, ← replaceOwners_append]
    cases fetchedSegments answers changed z with
    | none => simp
    | some r => simp

/-- The segment lists that the shard loop fetches, newest first. -/
def shardListsFetched (client : RzidClient) (answers : RzidAnswers) (manifest : VersionManifest)
    (localVersions : FiniteMap String UInt64) (xs : List String) : List (String × List String) :=
  (xs.filterMap (fun x =>
    (fetchedShard client answers manifest (localVersions.lookup (shardSegmentsKey x)) x).map
      (fun r => (x, r.2)))).reverse

theorem segmentToShard_syncShards (client : RzidClient) (tick : Tick) (manifest : VersionManifest)
    {xs : List String} (hxs : xs.Nodup) (work : ZoneState × ClientState) :
    (syncShards client tick manifest xs work).1.segmentToShard =
      replaceOwners work.1.segmentToShard
        (shardListsFetched client tick.answers manifest work.2.localVersions xs) := by
  unfold syncShards shardListsFetched
  induction xs generalizing work with
  | nil => rfl
  | cons x xs ih =>
    obtain ⟨hx, hrest⟩ := List.nodup_cons.mp hxs
    have hturn : (syncShardSegments client tick.answers manifest work x).1.segmentToShard =
        replaceOwners work.1.segmentToShard
          ((fetchedShard client tick.answers manifest
            (work.2.localVersions.lookup (shardSegmentsKey x)) x).map
              (fun r => (x, r.2))).toList := by
      rw [syncShardSegments_eq]
      cases fetchedShard client tick.answers manifest
        (work.2.localVersions.lookup (shardSegmentsKey x)) x <;> rfl
    -- the versions of the other shards are not touched
    have hothers : ∀ y ∈ xs,
        (syncShardSegments client tick.answers manifest work x).2.localVersions.lookup
          (shardSegmentsKey y) = work.2.localVersions.lookup (shardSegmentsKey y) := by
      intro y hy
      have hview := congrArg ShardView.recorded
        (shardView_syncShardSegments client manifest tick.answers work x y)
      rw [if_neg (fun h : y = x => hx (h ▸ hy))] at hview
      exact hview
    rw [List.foldl_cons, ih hrest, hturn, List.filterMap_cons, ← replaceOwners_append]
    rw [List.filterMap_congr (fun y hy => by rw [hothers y hy])]
    cases fetchedShard client tick.answers manifest
        (work.2.localVersions.lookup (shardSegmentsKey x)) x with
    | none => simp
    | some r => simp

end RzidClient

section Tick

variable (client : RzidClient) (s : RefreshState) (manifest : VersionManifest) (tick : Tick)

end Tick

/-! ## Ticks -/

section Step

variable {client : RzidClient} {s : RefreshState} {tick : Tick} {manifest : VersionManifest}

end Step

end RzRouter
