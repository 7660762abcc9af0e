import RzRouter.Sync.Edge
import RzRouter.Sync.Zone
import Mathlib.Data.String.Basic

/-!
# Syncs that come to rest

A sync that publishes a table records versions.  If RzID then stays as it is, the next sync should
find nothing to do: every key that `detect_changes` watches should carry the version of the
manifest.  An edge sync gets there; a zone sync records fewer keys than it watches.
-/

namespace RzRouter

/-! ## The keys of a manifest -/

/-- The four kinds of resource keys, for ids without a slash. -/
inductive ResourceKey : String → Prop
  | zoneRouters (z : String) (hz : '/' ∉ z.toList) : ResourceKey (zoneRoutersKey z)
  | zoneSegments (z : String) (hz : '/' ∉ z.toList) : ResourceKey (zoneSegmentsKey z)
  | zoneShards (z : String) (hz : '/' ∉ z.toList) : ResourceKey (zoneShardsKey z)
  | shardSegments (x : String) (hx : '/' ∉ x.toList) : ResourceKey (shardSegmentsKey x)

/-- Every key of the manifest is a resource key. -/
def VersionManifest.WellFormed (manifest : VersionManifest) : Prop :=
  ∀ key ∈ manifest.versions, ResourceKey key

/-- RzID answers with `manifest`, and every request for a key of the manifest with the content at
the manifest's version. -/
structure RzidAnswers.Serves (answers : RzidAnswers) (manifest : VersionManifest) : Prop where
  versions : answers.versions = .ok manifest
  zoneRouters : ∀ z version, manifest.versions.lookup (zoneRoutersKey z) = some version →
    ∃ routers, answers.zoneRouters z = .ok (version, routers)
  zoneSegments : ∀ z version, manifest.versions.lookup (zoneSegmentsKey z) = some version →
    ∃ segments, answers.zoneSegments z = .ok (version, segments)
  zoneShards : ∀ z version, manifest.versions.lookup (zoneShardsKey z) = some version →
    ∃ shards, answers.zoneShards z = .ok (version, shards)
  shardSegments : ∀ x version, manifest.versions.lookup (shardSegmentsKey x) = some version →
    ∃ zone segments, answers.shardSegments x = .ok (version, zone, segments)

theorem zoneOfKey_of_format {z tail : String} {rest : List Char} (hz : '/' ∉ z.toList)
    (htail : tail.toList = '/' :: rest) : zoneOfKey ("zones/" ++ z ++ tail) = some z := by
  have hfirst : ("zones/" ++ z ++ tail).toList = "zones".toList ++ '/' :: (z ++ tail).toList := by
    simp [String.toList_append]
  have hsecond : (String.ofList (z ++ tail).toList).toList = z.toList ++ '/' :: rest := by
    rw [String.ofList_toList, String.toList_append, htail]
  unfold zoneOfKey
  rw [Text.split_of_toList hfirst (by decide), Text.split_of_toList hsecond hz,
    String.ofList_toList, String.ofList_toList]
  rfl

theorem zoneOfKey_zoneRoutersKey {z : String} (hz : '/' ∉ z.toList) :
    zoneOfKey (zoneRoutersKey z) = some z :=
  zoneOfKey_of_format hz (by decide : "/routers".toList = '/' :: "routers".toList)

theorem zoneOfKey_zoneSegmentsKey {z : String} (hz : '/' ∉ z.toList) :
    zoneOfKey (zoneSegmentsKey z) = some z :=
  zoneOfKey_of_format hz (by decide : "/segments".toList = '/' :: "segments".toList)

theorem mem_validZones_of_key {manifest : VersionManifest} {key z : String}
    (hkey : key ∈ manifest.versions) (hz : zoneOfKey key = some z) : z ∈ manifest.validZones := by
  unfold VersionManifest.validZones
  rw [Finset.mem_biUnion]
  refine ⟨key, Finmap.mem_keys.mpr hkey, ?_⟩
  rw [hz]
  exact Option.mem_toFinset.mpr rfl

theorem not_startsWith_shardSegmentsKey (x : String) :
    Text.startsWith (shardSegmentsKey x) "zones/" = false := by
  apply Bool.eq_false_iff.mpr
  intro h
  obtain ⟨t, ht⟩ := (Text.startsWith_iff _ _).mp h
  have hchars := congrArg String.toList ht
  unfold shardSegmentsKey at hchars
  simp [String.toList_append] at hchars

theorem not_endsWith_of_tails {s p q : String} (hpq : Text.endsWith p q = false)
    (hqp : Text.endsWith q p = false) : Text.endsWith (s ++ p) q = false := by
  apply Bool.eq_false_iff.mpr
  intro h
  obtain ⟨t, ht⟩ := (Text.endsWith_iff _ _).mp h
  exact Text.append_ne_of_tails s t p q hpq hqp ht

/-! ## What is left to do -/

theorem RzidClient.mem_detectChanges {client : RzidClient} {manifest : VersionManifest}
    {localVersions : FiniteMap String UInt64} {key : String} :
    key ∈ client.detectChanges manifest localVersions ↔
      (key ∈ manifest.versions ∧ client.watches key = true) ∧
        localVersions.lookup key ≠ manifest.versions.lookup key := by
  unfold RzidClient.detectChanges
  rw [Finset.mem_filter, Finset.mem_filter, Finmap.mem_keys]

theorem syncRoutingState_eq_none_iff {client : RzidClient} {current : Option RoutingSnapshot}
    {tick : Tick} {c : ClientState} {manifest : VersionManifest}
    (h : tick.answers.versions = .ok manifest) :
    (client.syncRoutingState current tick c).1 = .ok none ↔
      client.detectChanges manifest c.localVersions = ∅ := by
  unfold RzidClient.syncRoutingState
  rw [h]
  simp only
  by_cases hchanged : client.detectChanges manifest c.localVersions = ∅
  · rw [if_pos hchanged]
    exact iff_of_true rfl hchanged
  · rw [if_neg hchanged]
    apply iff_of_false _ hchanged
    -- a sync that runs never answers that nothing changed
    cases client.mode with
    | edge =>
      rw [syncEdgeState_eq]
      by_cases hempty : (edgeWork current manifest
          (client.detectChanges manifest c.localVersions) tick c).1.zoneToRouters = ∅ <;>
        simp [hempty]
    | zone =>
      rw [syncZoneState_eq]
      by_cases hempty : (topologyWork client current
          (client.detectChanges manifest c.localVersions) tick c).1.shardToBridges = ∅ <;>
        simp [hempty]

theorem localVersions_of_published {client : RzidClient} {current : Option RoutingSnapshot}
    {tick : Tick} {c c' : ClientState} {manifest : VersionManifest} {snapshot : RoutingSnapshot}
    (h : tick.answers.versions = .ok manifest)
    (hsync : client.syncRoutingState current tick c = (.ok (some snapshot), c')) :
    c'.localVersions =
      match client.mode with
      | .edge => (edgeWork current manifest
          (client.detectChanges manifest c.localVersions) tick c).2.localVersions
      | .zone => (zoneWork client current manifest
          (client.detectChanges manifest c.localVersions) tick c).2.localVersions := by
  unfold RzidClient.syncRoutingState at hsync
  rw [h] at hsync
  simp only at hsync
  by_cases hchanged : client.detectChanges manifest c.localVersions = ∅
  · rw [if_pos hchanged] at hsync
    cases hsync
  · rw [if_neg hchanged] at hsync
    cases hmode : client.mode with
    | edge =>
      rw [hmode, syncEdgeState_eq] at hsync
      by_cases hempty : (edgeWork current manifest
          (client.detectChanges manifest c.localVersions) tick c).1.zoneToRouters = ∅
      · simp [hempty] at hsync
      · simp only [hempty, if_false] at hsync
        cases hsync
        rfl
    | zone =>
      rw [hmode, syncZoneState_eq] at hsync
      by_cases hempty : (topologyWork client current
          (client.detectChanges manifest c.localVersions) tick c).1.shardToBridges = ∅
      · simp [hempty] at hsync
      · simp only [hempty, if_false] at hsync
        cases hsync
        rfl

theorem detectChanges_eq_empty_iff {client : RzidClient} {manifest : VersionManifest}
    {localVersions : FiniteMap String UInt64} :
    client.detectChanges manifest localVersions = ∅ ↔
      ∀ key version, client.watches key = true → manifest.versions.lookup key = some version →
        localVersions.lookup key = some version := by
  rw [Finset.eq_empty_iff_forall_notMem]
  constructor
  · intro h key version hwatched hversion
    have hnot := h key
    rw [RzidClient.mem_detectChanges, not_and, not_not, hversion] at hnot
    exact hnot ⟨Finmap.mem_of_lookup_eq_some hversion, hwatched⟩
  · intro h key hmem
    obtain ⟨⟨hkey, hwatched⟩, hne⟩ := RzidClient.mem_detectChanges.mp hmem
    obtain ⟨version, hversion⟩ := Finmap.mem_iff.mp hkey
    apply hne
    rw [hversion]
    exact h key version hwatched hversion

/-! ## Edge mode -/

section Edge

variable {zid : String} {current : Option RoutingSnapshot} {manifest : VersionManifest}
  {tick : Tick} {c : ClientState}

theorem edge_watches {key : String} (hkey : ResourceKey key)
    (hwatched : RzidClient.watches ⟨.edge, zid⟩ key = true) :
    ∃ z, '/' ∉ z.toList ∧ (key = zoneRoutersKey z ∨ key = zoneSegmentsKey z) := by
  unfold RzidClient.watches at hwatched
  rw [Bool.and_eq_true, Bool.or_eq_true] at hwatched
  obtain ⟨hstart, hend⟩ := hwatched
  cases hkey with
  | zoneRouters z hz => exact ⟨z, hz, Or.inl rfl⟩
  | zoneSegments z hz => exact ⟨z, hz, Or.inr rfl⟩
  | zoneShards z hz =>
    exfalso
    unfold zoneShardsKey at hend
    rw [not_endsWith_of_tails (by decide) (by decide),
      not_endsWith_of_tails (by decide) (by decide)] at hend
    exact hend.elim Bool.false_ne_true Bool.false_ne_true
  | shardSegments x hx =>
    exfalso
    rw [not_startsWith_shardSegmentsKey] at hstart
    exact Bool.false_ne_true hstart

theorem edgeWork_records (hwell : manifest.WellFormed) (hserves : tick.answers.Serves manifest)
    {key : String} {version : UInt64} (hwatched : RzidClient.watches ⟨.edge, zid⟩ key = true)
    (hversion : manifest.versions.lookup key = some version) :
    (edgeWork current manifest (RzidClient.detectChanges ⟨.edge, zid⟩ manifest c.localVersions)
      tick c).2.localVersions.lookup key = some version := by
  have hmem : key ∈ manifest.versions := Finmap.mem_of_lookup_eq_some hversion
  have hchanged : key ∉ RzidClient.detectChanges ⟨.edge, zid⟩ manifest c.localVersions →
      c.localVersions.lookup key = some version := by
    intro hnot
    rw [RzidClient.mem_detectChanges, not_and, not_not, hversion] at hnot
    exact hnot ⟨hmem, hwatched⟩
  obtain ⟨z, hz, rfl | rfl⟩ := edge_watches (hwell key hmem) hwatched
  · have hvalid : z ∈ manifest.validZones :=
      mem_validZones_of_key hmem (zoneOfKey_zoneRoutersKey hz)
    have hview := congrArg RzidClient.ZoneView.routersVersion
      (zoneView_edgeWork_of_mem current manifest
        (RzidClient.detectChanges ⟨.edge, zid⟩ manifest c.localVersions) tick c hvalid)
    simp only [RzidClient.zoneView, RzidClient.ZoneView.turn] at hview
    rw [hview]
    unfold fetchedRouters
    split
    · obtain ⟨routers, hanswer⟩ := hserves.zoneRouters z version hversion
      rw [hanswer]
      rfl
    · rename_i hnot
      exact hchanged hnot
  · have hvalid : z ∈ manifest.validZones :=
      mem_validZones_of_key hmem (zoneOfKey_zoneSegmentsKey hz)
    have hview := congrArg RzidClient.ZoneView.segmentsVersion
      (zoneView_edgeWork_of_mem current manifest
        (RzidClient.detectChanges ⟨.edge, zid⟩ manifest c.localVersions) tick c hvalid)
    simp only [RzidClient.zoneView, RzidClient.ZoneView.turn] at hview
    rw [hview]
    unfold fetchedSegments
    split
    · obtain ⟨segments, hanswer⟩ := hserves.zoneSegments z version hversion
      rw [hanswer]
      rfl
    · rename_i hnot
      exact hchanged hnot

end Edge

/-! ## Zone mode -/

/-- A zone sync can record a version for the key: it is the key of our zone's topology, or the
segments key of one of our shards. -/
def ZoneSyncRecords (client : RzidClient) (current : Option RoutingSnapshot)
    (answers : RzidAnswers) (changed : Finset String) (key : String) : Prop :=
  key = zoneShardsKey client.zoneId ∨
    ∃ x ∈ shardsToSync client current answers changed, key = shardSegmentsKey x ∧
      ∃ version segments, answers.shardSegments x = .ok (version, client.zoneId, segments)

section Zone

variable (client : RzidClient) (current : Option RoutingSnapshot) (manifest : VersionManifest)
  (changed : Finset String) (tick : Tick) (c : ClientState)

/-- A zone sync leaves the version that was there at every key it does not record. -/
theorem localVersions_zoneWork_of_ne {key : String} (hown : key ≠ zoneShardsKey client.zoneId)
    (hshards : ∀ x ∈ shardsToSync client current tick.answers changed, key ≠ shardSegmentsKey x) :
    (zoneWork client current manifest changed tick c).2.localVersions.lookup key =
      c.localVersions.lookup key := by
  unfold zoneWork
  rw [RzidClient.localVersions_syncShards_of_ne, localVersions_topologyWork _ _ _ _ _ hown]
  intro x hx
  rw [(tick.shardOrder.enumerates _).mem_iff, shardToBridges_topologyWork, Finmap.mem_keys] at hx
  exact hshards x hx

/-- At the key of the topology it leaves the version it has fetched, or the one that was there. -/
theorem localVersions_zoneWork_topology :
    (zoneWork client current manifest changed tick c).2.localVersions.lookup
        (zoneShardsKey client.zoneId) =
      match fetchedTopology client tick.answers changed (RzidClient.currentZone current) with
      | some (version, _) => some version
      | none => c.localVersions.lookup (zoneShardsKey client.zoneId) := by
  unfold zoneWork
  rw [RzidClient.localVersions_syncShards_of_ne _ _ _ _ _
    (fun x _ => zoneShardsKey_ne_shardSegmentsKey client.zoneId x)]
  cases hf : fetchedTopology client tick.answers changed (RzidClient.currentZone current) with
  | none => rw [topologyWork_of_none _ _ _ _ _ hf]
  | some r =>
    rw [topologyWork_of_some _ _ _ _ _ hf]
    exact Finmap.lookup_insert _

variable {client current manifest tick c} in
/-- After a zone sync a watched key carries the manifest's version exactly when it carried it
before or the sync records it. -/
theorem zoneWork_records_iff (hserves : tick.answers.Serves manifest) {key : String}
    {version : UInt64} (hwatched : client.watches key = true)
    (hversion : manifest.versions.lookup key = some version) :
    (zoneWork client current manifest (client.detectChanges manifest c.localVersions)
        tick c).2.localVersions.lookup key = some version ↔
      (key ∈ client.detectChanges manifest c.localVersions →
        ZoneSyncRecords client current tick.answers
          (client.detectChanges manifest c.localVersions) key) := by
  have hold : key ∉ client.detectChanges manifest c.localVersions ↔
      c.localVersions.lookup key = some version := by
    rw [RzidClient.mem_detectChanges, not_and, not_not, hversion]
    exact ⟨fun h => h ⟨Finmap.mem_of_lookup_eq_some hversion, hwatched⟩, fun h _ => h⟩
  by_cases hown : key = zoneShardsKey client.zoneId
  · -- a changed topology is fetched, and it comes with the manifest's version
    subst hown
    apply iff_of_true _ (fun _ => Or.inl rfl)
    rw [localVersions_zoneWork_topology]
    obtain ⟨shards, hanswer⟩ := hserves.zoneShards client.zoneId version hversion
    unfold fetchedTopology
    by_cases hfetch : zoneShardsKey client.zoneId ∈ client.detectChanges manifest c.localVersions ∨
        (RzidClient.currentZone current).shardToBridges = ∅
    · rw [if_pos hfetch, hanswer]
      rfl
    · rw [if_neg hfetch]
      exact hold.mp (fun hmem => hfetch (Or.inl hmem))
  by_cases hshard : ∃ x ∈ shardsToSync client current tick.answers
      (client.detectChanges manifest c.localVersions), key = shardSegmentsKey x
  · obtain ⟨x, hx, rfl⟩ := hshard
    have hloop : x ∈ tick.shardOrder.toList (topologyWork client current
        (client.detectChanges manifest c.localVersions) tick c).1.shardToBridges.keys := by
      rw [(tick.shardOrder.enumerates _).mem_iff, shardToBridges_topologyWork, Finmap.mem_keys]
      exact hx
    obtain ⟨zone, segments, hanswer⟩ := hserves.shardSegments x version hversion
    have hrecords : ZoneSyncRecords client current tick.answers
        (client.detectChanges manifest c.localVersions) (shardSegmentsKey x) ↔
        zone = client.zoneId := by
      unfold ZoneSyncRecords
      rw [or_iff_right hown]
      constructor
      · rintro ⟨y, -, hy, version', segments', hanswer'⟩
        rw [← (shardSegmentsKey_inj x y).mp hy, hanswer] at hanswer'
        cases hanswer'
        rfl
      · intro hzone
        exact ⟨x, hx, rfl, version, segments, hzone ▸ hanswer⟩
    unfold zoneWork
    rw [RzidClient.localVersions_syncShards_of_mem _ _ _ (tick.shardOrder.enumerates _).nodup _
        hloop,
      localVersions_topologyWork _ _ _ _ _ hown, hrecords]
    unfold fetchedShard
    rw [hversion, hanswer]
    simp only
    by_cases hrecorded : c.localVersions.lookup (shardSegmentsKey x) = some version
    · rw [if_pos hrecorded]
      exact iff_of_true hrecorded (fun hmem => absurd hmem (hold.mpr hrecorded))
    · rw [if_neg hrecorded]
      have hmem : shardSegmentsKey x ∈ client.detectChanges manifest c.localVersions := by
        by_contra hnot
        exact hrecorded (hold.mp hnot)
      by_cases hzone : zone = client.zoneId
      · simp [hzone]
      · simp [hzone, hrecorded, hmem]
  · -- any other key keeps its version
    have hnot : ¬ ZoneSyncRecords client current tick.answers
        (client.detectChanges manifest c.localVersions) key := by
      rintro (h | ⟨x, hx, hkey, -⟩)
      · exact hown h
      · exact hshard ⟨x, hx, hkey⟩
    rw [localVersions_zoneWork_of_ne _ _ _ _ _ _ hown
      (fun x hx hkey => hshard ⟨x, hx, hkey⟩), ← hold]
    exact ⟨fun h hmem => absurd hmem h, fun h hmem => hnot (h hmem)⟩

end Zone

/-! ## The second call -/

/-- The sync records every change it sees; in edge mode it always does. -/
def RecordsChanges (client : RzidClient) (current : Option RoutingSnapshot) (answers : RzidAnswers)
    (manifest : VersionManifest) (localVersions : FiniteMap String UInt64) : Prop :=
  match client.mode with
  | .edge => True
  | .zone => ∀ key ∈ client.detectChanges manifest localVersions,
      ZoneSyncRecords client current answers (client.detectChanges manifest localVersions) key

/-- After a sync that publishes a table, the next one against the same RzID finds nothing to do
exactly when the first one could record every change it saw. -/
theorem quiescent_iff (client : RzidClient) (current : Option RoutingSnapshot) (tick next : Tick)
    (c c' : ClientState) (manifest : VersionManifest) (snapshot : RoutingSnapshot)
    (hwell : manifest.WellFormed) (hserves : tick.answers.Serves manifest)
    (hnext : next.answers = tick.answers)
    (hsync : client.syncRoutingState current tick c = (.ok (some snapshot), c')) :
    (client.syncRoutingState (some snapshot) next c').1 = .ok none ↔
      RecordsChanges client current tick.answers manifest c.localVersions := by
  have hversions : next.answers.versions = .ok manifest := by rw [hnext, hserves.versions]
  have hleft := localVersions_of_published hserves.versions hsync
  rw [syncRoutingState_eq_none_iff hversions, detectChanges_eq_empty_iff]
  unfold RecordsChanges
  obtain ⟨mode, zid⟩ := client
  cases mode with
  | edge =>
    apply iff_of_true _ trivial
    intro key version hwatched hversion
    rw [hleft]
    exact edgeWork_records hwell hserves hwatched hversion
  | zone =>
    constructor
    · intro h key hmem
      obtain ⟨⟨hkey, hwatched⟩, -⟩ := RzidClient.mem_detectChanges.mp hmem
      obtain ⟨version, hversion⟩ := Finmap.mem_iff.mp hkey
      have hrecorded := h key version hwatched hversion
      rw [hleft] at hrecorded
      exact (zoneWork_records_iff hserves hwatched hversion).mp hrecorded hmem
    · intro h key version hwatched hversion
      rw [hleft]
      exact (zoneWork_records_iff hserves hwatched hversion).mpr (h key)

/-! ## A zone router that does not come to rest

RzID knows zone `z1` with one shard `s1`, whose keys carry version 1, and the router list of the
zone.  The router of zone `z1` watches the key of the router list and never asks for the list. -/

def zoneWithRouters : VersionManifest :=
  ⟨(((∅ : FiniteMap String UInt64).insert "zones/z1/shards" 1).insert
    "shards/s1/segments" 1).insert "zones/z1/routers" 1⟩

/-- RzID as it is during every call; shard `s1` is in zone `z1`. -/
def zoneWithRoutersTick : Tick where
  answers :=
    { versions := .ok zoneWithRouters
      zoneRouters := fun _ => .ok (1, ["router-1"])
      zoneSegments := fun _ => .ok (1, [])
      zoneShards := fun _ => .ok (1, (∅ : FiniteMap String (List String)).insert "s1" ["bridge-1"])
      shardSegments := fun _ => .ok (1, "z1", ["lyon"]) }
  zoneOrder := Iteration.ascending String
  topologyOrder := Iteration.ascending String
  shardOrder := Iteration.ascending String

theorem version_zoneWithRouters {key : String} {version : UInt64}
    (h : zoneWithRouters.versions.lookup key = some version) : version = 1 := by
  unfold zoneWithRouters at h
  simp only [FiniteMap.lookup_insert, Finmap.lookup_empty] at h
  repeat' split at h
  all_goals cases h
  all_goals rfl

theorem zoneWithRouters_wellFormed : zoneWithRouters.WellFormed := by
  intro key hkey
  unfold zoneWithRouters at hkey
  simp only [Finmap.mem_insert, Finmap.notMem_empty, or_false] at hkey
  rcases hkey with rfl | rfl | rfl
  · exact ResourceKey.zoneRouters "z1" (by decide)
  · exact ResourceKey.shardSegments "s1" (by decide)
  · exact ResourceKey.zoneShards "z1" (by decide)

theorem zoneWithRoutersTick_serves : zoneWithRoutersTick.answers.Serves zoneWithRouters where
  versions := rfl
  zoneRouters := fun _ _ h => version_zoneWithRouters h ▸ ⟨_, rfl⟩
  zoneSegments := fun _ _ h => version_zoneWithRouters h ▸ ⟨_, rfl⟩
  zoneShards := fun _ _ h => version_zoneWithRouters h ▸ ⟨_, rfl⟩
  shardSegments := fun _ _ h => version_zoneWithRouters h ▸ ⟨_, _, rfl⟩

theorem exists_of_published {r : Except RZError (Option RoutingSnapshot) × ClientState}
    (h : r.1.toOption.join.isSome = true) : ∃ snapshot c', r = (.ok (some snapshot), c') := by
  rcases r with ⟨_ | _ | snapshot, c'⟩
  · cases h
  · cases h
  · exact ⟨snapshot, c', rfl⟩

/-- An edge router of the same RzID is at rest after its first call. -/
theorem quiescent_iff_edge :
    ∃ snapshot c', RzidClient.syncRoutingState ⟨.edge, "z1"⟩ none zoneWithRoutersTick
        ClientState.new = (.ok (some snapshot), c') ∧
      (RzidClient.syncRoutingState ⟨.edge, "z1"⟩ (some snapshot) zoneWithRoutersTick c').1 =
        .ok none := by
  have hpublished : (RzidClient.syncRoutingState ⟨.edge, "z1"⟩ none zoneWithRoutersTick
      ClientState.new).1.toOption.join.isSome = true := by decide
  obtain ⟨snapshot, c', hsync⟩ := exists_of_published hpublished
  refine ⟨snapshot, c', hsync, ?_⟩
  exact (quiescent_iff ⟨.edge, "z1"⟩ none zoneWithRoutersTick zoneWithRoutersTick
    ClientState.new c' zoneWithRouters snapshot zoneWithRouters_wellFormed
    zoneWithRoutersTick_serves rfl hsync).mpr trivial

/-- The first call publishes a table, and the second one runs the whole sync again. -/
theorem zone_sync_repeats :
    zoneWithRouters.WellFormed ∧ zoneWithRoutersTick.answers.Serves zoneWithRouters ∧
      ∃ snapshot c', RzidClient.syncRoutingState ⟨.zone, "z1"⟩ none zoneWithRoutersTick
          ClientState.new = (.ok (some snapshot), c') ∧
        (RzidClient.syncRoutingState ⟨.zone, "z1"⟩ (some snapshot) zoneWithRoutersTick c').1 ≠
          .ok none := by
  refine ⟨zoneWithRouters_wellFormed, zoneWithRoutersTick_serves, ?_⟩
  have hleft : RzidClient.detectChanges ⟨.zone, "z1"⟩ zoneWithRouters
      (RzidClient.syncRoutingState ⟨.zone, "z1"⟩ none zoneWithRoutersTick
        ClientState.new).2.localVersions ≠ ∅ := by decide
  have hpublished : (RzidClient.syncRoutingState ⟨.zone, "z1"⟩ none zoneWithRoutersTick
      ClientState.new).1.toOption.join.isSome = true := by decide
  obtain ⟨snapshot, c', hsync⟩ := exists_of_published hpublished
  rw [hsync] at hleft
  refine ⟨snapshot, c', hsync, ?_⟩
  rw [Ne, syncRoutingState_eq_none_iff rfl]
  exact hleft

end RzRouter
