import RzRouter.Sync.Edge
import RzRouter.Sync.Zone
import Mathlib.Data.String.Basic

/-!
# Failed syncs

When `sync_routing_state` fails the caller keeps the old table.  The recorded versions should then
be the old ones too; both sync functions write them as the fetches succeed and fail only at the
end, so they are the old ones exactly when `KeepsVersionsOnError` holds.
-/

namespace RzRouter

/-- The calls that cannot fail after recording a version: there is nothing to do, or the table
ends up with routers (shards), or no version is recorded that was not there. -/
def KeepsVersionsOnError (client : RzidClient) (current : Option RoutingSnapshot) (tick : Tick)
    (c : ClientState) : Prop :=
  ∀ manifest, tick.answers.versions = .ok manifest →
    client.detectChanges manifest c.localVersions ≠ ∅ →
    match client.mode with
    | .edge =>
        (∃ z ∈ manifest.validZones, z ∈ (RzidClient.currentEdge current).zoneToRouters ∨
          fetchedRouters tick.answers (client.detectChanges manifest c.localVersions) z ≠ none) ∨
        ∀ z ∈ manifest.validZones, ∀ version segments,
          fetchedSegments tick.answers (client.detectChanges manifest c.localVersions) z =
            some (version, segments) →
          c.localVersions.lookup (zoneSegmentsKey z) = some version
    | .zone =>
        ∀ version, fetchedTopology client tick.answers
            (client.detectChanges manifest c.localVersions) (RzidClient.currentZone current) =
            some (version, ∅) →
          c.localVersions.lookup (zoneShardsKey client.zoneId) = some version

/-- Zones for which nothing new is fetched leave the recorded versions alone. -/
theorem localVersions_syncZones_of_recorded (answers : RzidAnswers) (changed : Finset String)
    (zs : List String) (work : EdgeState × ClientState)
    (hrouters : ∀ z ∈ zs, fetchedRouters answers changed z = none)
    (hsegments : ∀ z ∈ zs, ∀ version segments,
      fetchedSegments answers changed z = some (version, segments) →
      work.2.localVersions.lookup (zoneSegmentsKey z) = some version) :
    (RzidClient.syncZones answers changed zs work).2.localVersions = work.2.localVersions := by
  unfold RzidClient.syncZones
  induction zs generalizing work with
  | nil => rfl
  | cons z zs ih =>
    -- a turn records at most the version that is recorded already
    have hturn : (RzidClient.syncZone answers changed work z).2.localVersions =
        work.2.localVersions := by
      unfold RzidClient.syncZone
      rw [RzidClient.syncZoneRouters_eq, hrouters z List.mem_cons_self,
        RzidClient.syncZoneSegments_eq]
      cases hf : fetchedSegments answers changed z with
      | none => rfl
      | some r => exact FiniteMap.insert_of_lookup _ _ _ (hsegments z List.mem_cons_self r.1 r.2 hf)
    rw [List.foldl_cons, ih, hturn]
    · exact fun z' hz' => hrouters z' (List.mem_cons_of_mem _ hz')
    · intro z' hz' version segments hf
      rw [hturn]
      exact hsegments z' (List.mem_cons_of_mem _ hz') version segments hf

section Edge

variable (current : Option RoutingSnapshot) (manifest : VersionManifest)
  (changed : Finset String) (tick : Tick) (c : ClientState)

/-- If no zone ends up with routers, the recorded versions survive exactly when every fetched
segment list carries the recorded version. -/
theorem edgeWork_localVersions_eq_iff
    (hempty : (edgeWork current manifest changed tick c).1.zoneToRouters = ∅) :
    (edgeWork current manifest changed tick c).2.localVersions = c.localVersions ↔
      ∀ z ∈ manifest.validZones, ∀ version segments,
        fetchedSegments tick.answers changed z = some (version, segments) →
        c.localVersions.lookup (zoneSegmentsKey z) = some version := by
  constructor
  · intro heq z hz version segments hf
    -- the version of a zone that has answered is recorded
    have hview := congrArg RzidClient.ZoneView.segmentsVersion
      (zoneView_edgeWork_of_mem current manifest changed tick c hz)
    simp only [RzidClient.zoneView, RzidClient.ZoneView.turn, hf, Option.map_some,
      Option.getD_some, heq] at hview
    exact hview
  · intro hrecorded
    have hnone := (edgeWork_routers_eq_empty_iff current manifest changed tick c).mp hempty
    apply localVersions_syncZones_of_recorded
    · exact fun z hz => (hnone z ((mem_zoneOrder manifest tick z).mp hz)).2
    · exact fun z hz => hrecorded z ((mem_zoneOrder manifest tick z).mp hz)

theorem failed_syncEdgeState_iff :
    (∀ e c', RzidClient.syncEdgeState current manifest changed tick c = (.error e, c') →
      c'.localVersions = c.localVersions) ↔
      (∃ z ∈ manifest.validZones, z ∈ (RzidClient.currentEdge current).zoneToRouters ∨
        fetchedRouters tick.answers changed z ≠ none) ∨
      ∀ z ∈ manifest.validZones, ∀ version segments,
        fetchedSegments tick.answers changed z = some (version, segments) →
        c.localVersions.lookup (zoneSegmentsKey z) = some version := by
  rw [syncEdgeState_eq]
  by_cases hempty : (edgeWork current manifest changed tick c).1.zoneToRouters = ∅
  · have hnone := (edgeWork_routers_eq_empty_iff current manifest changed tick c).mp hempty
    -- without any routers the sync fails, with some it does not
    have hno : ¬ ∃ z ∈ manifest.validZones, z ∈ (RzidClient.currentEdge current).zoneToRouters ∨
        fetchedRouters tick.answers changed z ≠ none := by
      rintro ⟨z, hz, hin | hfetched⟩
      · exact (hnone z hz).1 hin
      · exact hfetched (hnone z hz).2
    rw [if_pos hempty, or_iff_right hno,
      ← edgeWork_localVersions_eq_iff current manifest changed tick c hempty]
    constructor
    · exact fun h => h _ _ rfl
    · rintro h e c' heq
      cases heq
      exact h
  · have hsome : ∃ z ∈ manifest.validZones,
        z ∈ (RzidClient.currentEdge current).zoneToRouters ∨
          fetchedRouters tick.answers changed z ≠ none := by
      by_contra hno
      apply hempty
      rw [edgeWork_routers_eq_empty_iff]
      intro z hz
      refine ⟨fun hin => hno ⟨z, hz, Or.inl hin⟩, ?_⟩
      by_contra hfetched
      exact hno ⟨z, hz, Or.inr hfetched⟩
    rw [if_neg hempty]
    exact iff_of_true (fun e c' heq => by cases heq) (Or.inl hsome)

end Edge

section Zone

variable (client : RzidClient) (current : Option RoutingSnapshot) (manifest : VersionManifest)
  (changed : Finset String) (tick : Tick) (c : ClientState)

/-- A zone sync fails exactly when it fetches an empty topology, or has none and fetches none. -/
theorem topologyWork_shards_eq_empty_iff :
    (topologyWork client current changed tick c).1.shardToBridges = ∅ ↔
      match fetchedTopology client tick.answers changed (RzidClient.currentZone current) with
      | some (_, shards) => shards = ∅
      | none => (RzidClient.currentZone current).shardToBridges = ∅ := by
  cases hf : fetchedTopology client tick.answers changed (RzidClient.currentZone current) with
  | none => rw [topologyWork_of_none client current changed tick c hf]
  | some r =>
    rw [topologyWork_of_some client current changed tick c hf]
    rfl

/-- A zone sync that fails keeps the recorded versions exactly when it does not record the version
of an empty topology anew. -/
theorem zoneWork_localVersions_eq_iff
    (hempty : (topologyWork client current changed tick c).1.shardToBridges = ∅) :
    (zoneWork client current manifest changed tick c).2.localVersions = c.localVersions ↔
      ∀ version,
        fetchedTopology client tick.answers changed (RzidClient.currentZone current) =
            some (version, ∅) →
          c.localVersions.lookup (zoneShardsKey client.zoneId) = some version := by
  rw [zoneWork_of_no_shards client current manifest changed tick c hempty]
  rw [topologyWork_shards_eq_empty_iff] at hempty
  cases hf : fetchedTopology client tick.answers changed (RzidClient.currentZone current) with
  | none =>
    rw [topologyWork_of_none client current changed tick c hf]
    simp
  | some r =>
    obtain ⟨version, shards⟩ := r
    rw [hf] at hempty
    simp only at hempty
    -- the topology was fetched and has no shards
    subst hempty
    rw [topologyWork_of_some client current changed tick c hf]
    constructor
    · intro heq version' hversion
      cases hversion
      have hlookup := congrArg (Finmap.lookup (zoneShardsKey client.zoneId)) heq
      rw [← hlookup]
      exact Finmap.lookup_insert _
    · exact fun h => FiniteMap.insert_of_lookup _ _ _ (h version rfl)

theorem failed_syncZoneState_iff :
    (∀ e c', client.syncZoneState current manifest changed tick c = (.error e, c') →
      c'.localVersions = c.localVersions) ↔
      ∀ version,
        fetchedTopology client tick.answers changed (RzidClient.currentZone current) =
            some (version, ∅) →
          c.localVersions.lookup (zoneShardsKey client.zoneId) = some version := by
  rw [syncZoneState_eq]
  by_cases hempty : (topologyWork client current changed tick c).1.shardToBridges = ∅
  · rw [if_pos hempty,
      ← zoneWork_localVersions_eq_iff client current manifest changed tick c hempty]
    constructor
    · exact fun h => h _ _ rfl
    · rintro h e c' heq
      cases heq
      exact h
  · rw [if_neg hempty]
    refine iff_of_true (fun e c' heq => by cases heq) (fun version hf => ?_)
    rw [topologyWork_shards_eq_empty_iff, hf] at hempty
    exact absurd rfl hempty

end Zone

/-! ## The whole call -/

/-- How `sync_routing_state` can fail: the manifest is not fetched, or the sync of the mode
fails. -/
theorem syncRoutingState_eq_error_iff (client : RzidClient) (current : Option RoutingSnapshot)
    (tick : Tick) (c c' : ClientState) (e : RZError) :
    client.syncRoutingState current tick c = (.error e, c') ↔
      match tick.answers.versions with
      | .error e' => e' = e ∧ c = c'
      | .ok manifest =>
        client.detectChanges manifest c.localVersions ≠ ∅ ∧
        match client.mode with
        | .edge => RzidClient.syncEdgeState current manifest
            (client.detectChanges manifest c.localVersions) tick c = (.error e, c')
        | .zone => client.syncZoneState current manifest
            (client.detectChanges manifest c.localVersions) tick c = (.error e, c') := by
  unfold RzidClient.syncRoutingState
  cases tick.answers.versions with
  | error e' => simp
  | ok manifest =>
    simp only
    -- without a change there is no sync that could fail
    by_cases hchanged : client.detectChanges manifest c.localVersions = ∅
    · simp [hchanged]
    · rw [if_neg hchanged]
      cases client.mode with
      | edge =>
        simp only [ne_eq, hchanged, not_false_eq_true, true_and]
        rcases hr : RzidClient.syncEdgeState current manifest
          (client.detectChanges manifest c.localVersions) tick c with ⟨_ | _ | _, _⟩ <;> simp
      | zone =>
        simp only [ne_eq, hchanged, not_false_eq_true, true_and]
        rcases hr : client.syncZoneState current manifest
          (client.detectChanges manifest c.localVersions) tick c with ⟨_ | _ | _, _⟩ <;> simp

/-- The versions survive every failing outcome of `sync_routing_state` exactly under
`KeepsVersionsOnError`. -/
theorem failed_sync_keeps_versions_iff (client : RzidClient) (current : Option RoutingSnapshot)
    (tick : Tick) (c : ClientState) :
    (∀ e c', client.syncRoutingState current tick c = (.error e, c') →
      c'.localVersions = c.localVersions) ↔ KeepsVersionsOnError client current tick c := by
  unfold KeepsVersionsOnError
  simp only [syncRoutingState_eq_error_iff]
  cases tick.answers.versions with
  | error e' =>
    constructor
    · intro _ manifest hmanifest
      cases hmanifest
    · rintro - e c' ⟨-, rfl⟩
      rfl
  | ok manifest =>
    cases client.mode with
    | edge =>
      constructor
      · rintro h _ ⟨⟩ hchanged
        exact (failed_syncEdgeState_iff current manifest _ tick c).mp
          (fun e c' heq => h e c' ⟨hchanged, heq⟩)
      · rintro h e c' ⟨hchanged, heq⟩
        exact (failed_syncEdgeState_iff current manifest _ tick c).mpr (h manifest rfl hchanged)
          e c' heq
    | zone =>
      constructor
      · rintro h _ ⟨⟩ hchanged
        exact (failed_syncZoneState_iff client current manifest _ tick c).mp
          (fun e c' heq => h e c' ⟨hchanged, heq⟩)
      · rintro h e c' ⟨hchanged, heq⟩
        exact (failed_syncZoneState_iff client current manifest _ tick c).mpr
          (h manifest rfl hchanged) e c' heq

/-! ## A failing first sync

RzID knows zone `a` and its segment list, but its router list cannot be fetched. -/

/-- A manifest with the two keys of zone `a`, both at version 1. -/
def soleZoneManifest : VersionManifest :=
  ⟨((∅ : FiniteMap String UInt64).insert "zones/a/routers" 1).insert "zones/a/segments" 1⟩

def routersUnavailable : Tick where
  answers :=
    { versions := .ok soleZoneManifest
      zoneRouters := fun _ => .error (.http "zone routers: timeout")
      zoneSegments := fun _ => .ok (1, ["paris"])
      zoneShards := fun _ => .error (.http "zone shards: timeout")
      shardSegments := fun _ => .error (.http "shard segments: timeout") }
  zoneOrder := Iteration.ascending String
  topologyOrder := Iteration.ascending String
  shardOrder := Iteration.ascending String

/-- The first sync of an edge router fails and leaves the version of the segment list behind. -/
theorem failed_sync_records_version :
    (RzidClient.syncRoutingState ⟨.edge, ""⟩ (some (.edge EdgeState.new)) routersUnavailable
        ClientState.new).1.toOption.isNone = true ∧
      (RzidClient.syncRoutingState ⟨.edge, ""⟩ (some (.edge EdgeState.new)) routersUnavailable
        ClientState.new).2.localVersions.lookup "zones/a/segments" = some 1 ∧
      ClientState.new.localVersions.lookup "zones/a/segments" = none := by
  decide

end RzRouter
