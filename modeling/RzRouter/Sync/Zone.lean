import RzRouter.Refresh

/-!
# What one zone sync does

The effect of the two phases of `sync_zone_state`, the shard topology and the loop over its
shards, on each shard's recorded version and segments, and how a call can end.
-/

namespace RzRouter

open Ownership

/-! ## Keys and log -/

theorem shardSegmentsKey_inj (x x' : String) :
    shardSegmentsKey x = shardSegmentsKey x' ↔ x = x' :=
  Text.format_inj "shards/" "/segments" x x'

theorem zoneShardsKey_ne_shardSegmentsKey (z x : String) : zoneShardsKey z ≠ shardSegmentsKey x :=
  Text.append_ne_of_tails ("zones/" ++ z) ("shards/" ++ x) "/shards" "/segments"
    (by decide) (by decide)

/-- The segment lists that were installed for shards, newest first. -/
def shardClaims (log : List Installed) : List (String × List String) :=
  log.filterMap (fun entry =>
    match entry with
    | .shardSegments shard _ segments => some (shard, segments)
    | _ => none)

/-- Version and content of the segment list last fetched for a shard. -/
def lastShardSegments (log : List Installed) (shardId : String) :
    Option (UInt64 × List String) :=
  log.findSome? (fun entry =>
    match entry with
    | .shardSegments shard version segments =>
        if shard = shardId then some (version, segments) else none
    | _ => none)

/-- A non-empty shard topology without the shard was installed after the shard's last segment
list. -/
def leftTopology : List Installed → String → Bool
  | [], _ => false
  | .shardSegments shard _ _ :: log, shardId =>
      if shard = shardId then false else leftTopology log shardId
  | .zoneShards _ shards :: log, shardId =>
      decide (shards ≠ ∅ ∧ shardId ∉ shards) || leftTopology log shardId
  | _ :: log, shardId => leftTopology log shardId

/-! ## The two phases -/

/-- The topology that a sync fetches. -/
def fetchedTopology (client : RzidClient) (answers : RzidAnswers) (changed : Finset String)
    (current : ZoneState) : Option (UInt64 × FiniteMap String (List String)) :=
  if zoneShardsKey client.zoneId ∈ changed ∨ current.shardToBridges = ∅ then
    (answers.zoneShards client.zoneId).toOption
  else none

/-- The segment list that a sync fetches and accepts for a shard. -/
def fetchedShard (client : RzidClient) (answers : RzidAnswers) (manifest : VersionManifest)
    (recorded : Option UInt64) (shardId : String) : Option (UInt64 × List String) :=
  match manifest.versions.lookup (shardSegmentsKey shardId) with
  | none => none
  | some manifestVersion =>
    if recorded = some manifestVersion then none
    else
      match answers.shardSegments shardId with
      | .ok (version, zone, segments) =>
          if zone ≠ client.zoneId then none else some (version, segments)
      | .error _ => none

/-- The shards whose segment lists a zone sync asks for: those of the topology it fetches, or else
those of the table. -/
def shardsToSync (client : RzidClient) (current : Option RoutingSnapshot) (answers : RzidAnswers)
    (changed : Finset String) : FiniteMap String (List String) :=
  ((fetchedTopology client answers changed (RzidClient.currentZone current)).map Prod.snd).getD
    (RzidClient.currentZone current).shardToBridges

namespace RzidClient

variable (client : RzidClient) (tick : Tick) (manifest : VersionManifest)
  (changed : Finset String)

/-- The iteration order of a topology's bridges. -/
def topologyHops (shards : FiniteMap String (List String)) : List String :=
  (tick.topologyOrder.toList shards.keys).flatMap (fun shard => (shards.lookup shard).getD [])

theorem syncShardTopology_eq (work : ZoneState × ClientState) :
    syncShardTopology client tick changed work =
      match fetchedTopology client tick.answers changed work.1 with
      | some (version, shards) =>
          (ZoneState.retainValidShards { work.1 with shardToBridges := shards } shards.keys,
            (work.2.createHops (topologyHops tick shards)).updateLocalVersion
              (zoneShardsKey client.zoneId) version (.zoneShards version shards))
      | none => work := by
  unfold syncShardTopology fetchedTopology
  split
  · cases tick.answers.zoneShards client.zoneId <;> rfl
  · rfl

theorem syncShardSegments_eq (answers : RzidAnswers) (work : ZoneState × ClientState)
    (x : String) :
    syncShardSegments client answers manifest work x =
      match fetchedShard client answers manifest
          (work.2.localVersions.lookup (shardSegmentsKey x)) x with
      | some (version, segments) =>
          (work.1.replaceShardSegments x segments,
            work.2.updateLocalVersion (shardSegmentsKey x) version
              (.shardSegments x version segments))
      | none => work := by
  unfold syncShardSegments fetchedShard
  -- the checks in the order of the source
  cases manifest.versions.lookup (shardSegmentsKey x) with
  | none => rfl
  | some manifestVersion =>
    simp only
    split
    · rfl
    · cases answers.shardSegments x with
      | error e => rfl
      | ok answer =>
        obtain ⟨version, zone, segments⟩ := answer
        simp only
        split <;> rfl

/-- The loop of `sync_zone_state` over the shards `xs`. -/
def syncShards (xs : List String) (work : ZoneState × ClientState) : ZoneState × ClientState :=
  xs.foldl (syncShardSegments client tick.answers manifest) work

theorem shardToBridges_syncShards (xs : List String) (work : ZoneState × ClientState) :
    (syncShards client tick manifest xs work).1.shardToBridges = work.1.shardToBridges := by
  unfold syncShards
  induction xs generalizing work with
  | nil => rfl
  | cons x xs ih =>
    rw [List.foldl_cons, ih, syncShardSegments_eq]
    cases fetchedShard client tick.answers manifest
      (work.2.localVersions.lookup (shardSegmentsKey x)) x <;> rfl

/-- What the client state says about one shard. -/
structure ShardView where
  recorded : Option UInt64
  last : Option (UInt64 × List String)
  left : Bool

def shardView (c : ClientState) (x : String) : ShardView where
  recorded := c.localVersions.lookup (shardSegmentsKey x)
  last := lastShardSegments c.log x
  left := leftTopology c.log x

/-- The shard's own turn, given the list that is fetched for it. -/
def ShardView.turn (segments : Option (UInt64 × List String)) (v : ShardView) : ShardView :=
  match segments with
  | some (version, segments) => ⟨some version, some (version, segments), false⟩
  | none => v

theorem shardView_syncShardSegments (answers : RzidAnswers) (work : ZoneState × ClientState)
    (y x : String) :
    shardView (syncShardSegments client answers manifest work y).2 x =
      if x = y then
        (shardView work.2 x).turn
          (fetchedShard client answers manifest (shardView work.2 x).recorded x)
      else shardView work.2 x := by
  rw [syncShardSegments_eq]
  by_cases hxy : x = y
  · subst hxy
    rw [if_pos rfl]
    change _ = (shardView work.2 x).turn (fetchedShard client answers manifest
      (work.2.localVersions.lookup (shardSegmentsKey x)) x)
    cases fetchedShard client answers manifest
      (work.2.localVersions.lookup (shardSegmentsKey x)) x with
    | none => rfl
    | some r =>
      simp [shardView, ShardView.turn, ClientState.updateLocalVersion, lastShardSegments,
        leftTopology]
  · rw [if_neg hxy]
    cases fetchedShard client answers manifest
      (work.2.localVersions.lookup (shardSegmentsKey y)) y with
    | none => rfl
    | some r =>
      simp [shardView, ClientState.updateLocalVersion, lastShardSegments, leftTopology,
        shardSegmentsKey_inj, hxy, Ne.symm hxy]

theorem shardView_syncShards {xs : List String} (hxs : xs.Nodup)
    (work : ZoneState × ClientState) (x : String) :
    shardView (syncShards client tick manifest xs work).2 x =
      if x ∈ xs then
        (shardView work.2 x).turn
          (fetchedShard client tick.answers manifest (shardView work.2 x).recorded x)
      else shardView work.2 x := by
  refine get_foldl_once (syncShardSegments client tick.answers manifest)
    (fun w => shardView w.2 x)
    (fun v => v.turn (fetchedShard client tick.answers manifest v.recorded x)) x ?_ ?_ hxs work
  · intro w y hy
    rw [shardView_syncShardSegments, if_neg (Ne.symm hy)]
  · intro w
    rw [shardView_syncShardSegments, if_pos rfl]

/-- The shard loop records segments keys of its shards only. -/
theorem localVersions_syncShards_of_ne (xs : List String) (work : ZoneState × ClientState)
    {key : String} (hkey : ∀ x ∈ xs, key ≠ shardSegmentsKey x) :
    (syncShards client tick manifest xs work).2.localVersions.lookup key =
      work.2.localVersions.lookup key := by
  unfold syncShards
  induction xs generalizing work with
  | nil => rfl
  | cons x xs ih =>
    rw [List.foldl_cons, ih _ (fun y hy => hkey y (List.mem_cons_of_mem x hy)),
      syncShardSegments_eq]
    cases fetchedShard client tick.answers manifest
        (work.2.localVersions.lookup (shardSegmentsKey x)) x with
    | none => rfl
    | some r => exact Finmap.lookup_insert_of_ne _ (hkey x List.mem_cons_self)

theorem localVersions_syncShards_of_mem {xs : List String} (hxs : xs.Nodup)
    (work : ZoneState × ClientState) {x : String} (hx : x ∈ xs) :
    (syncShards client tick manifest xs work).2.localVersions.lookup (shardSegmentsKey x) =
      match fetchedShard client tick.answers manifest
          (work.2.localVersions.lookup (shardSegmentsKey x)) x with
      | some (version, _) => some version
      | none => work.2.localVersions.lookup (shardSegmentsKey x) := by
  have hview := congrArg ShardView.recorded
    (shardView_syncShards client tick manifest hxs work x)
  rw [if_pos hx] at hview
  simp only [shardView] at hview
  rw [hview]
  cases fetchedShard client tick.answers manifest
    (work.2.localVersions.lookup (shardSegmentsKey x)) x <;> rfl

/-- The table under construction and the log agree on a shard that has not left the topology; a
shard that has left owns nothing. -/
structure ShardOwns (work : ZoneState × ClientState) (x : String) : Prop where
  exact : leftTopology work.2.log x = false →
    Exact work.1.segmentToShard (shardClaims work.2.log) x
  unmapped : leftTopology work.2.log x = true → ∀ seg, work.1.segmentToShard.lookup seg ≠ some x

theorem shardOwns_syncShardSegments (answers : RzidAnswers) (work : ZoneState × ClientState)
    (y x : String) (h : ShardOwns work x) :
    ShardOwns (syncShardSegments client answers manifest work y) x := by
  have hleft := congrArg ShardView.left
    (shardView_syncShardSegments client manifest answers work y x)
  rw [syncShardSegments_eq] at hleft ⊢
  cases hf : fetchedShard client answers manifest
      (work.2.localVersions.lookup (shardSegmentsKey y)) y with
  | none => exact h
  | some r =>
    simp only [hf] at hleft
    by_cases hxy : x = y
    · subst hxy
      refine ⟨fun _ => exact_replaceOwner_self _ _ x r.2, fun htrue => ?_⟩
      -- its answer is newer than its leaving
      simp [ClientState.updateLocalVersion, leftTopology] at htrue
    · rw [if_neg hxy] at hleft
      simp only [shardView] at hleft
      constructor
      · intro hfalse
        rw [hleft] at hfalse
        exact exact_replaceOwner _ _ x y r.2 (h.exact hfalse)
      · intro htrue seg hseg
        rw [hleft] at htrue
        change (replaceOwner work.1.segmentToShard y r.2).lookup seg = some x at hseg
        rw [lookup_replaceOwner] at hseg
        split at hseg
        · exact hxy (Option.some.inj hseg).symm
        · exact h.unmapped htrue seg (Option.filter_eq_some_iff.mp hseg).1

theorem shardOwns_syncShards (xs : List String) (work : ZoneState × ClientState) (x : String)
    (h : ShardOwns work x) : ShardOwns (syncShards client tick manifest xs work) x := by
  unfold syncShards
  induction xs generalizing work with
  | nil => exact h
  | cons y xs ih => exact ih _ (shardOwns_syncShardSegments client manifest tick.answers work y x h)

/-- Only shards of the loop get segments, and only those of a list that was fetched for them. -/
theorem claimed_syncShards (xs : List String) (work : ZoneState × ClientState) (seg x : String)
    (h : (syncShards client tick manifest xs work).1.segmentToShard.lookup seg = some x) :
    work.1.segmentToShard.lookup seg = some x ∨
      x ∈ xs ∧ ∃ recorded r, fetchedShard client tick.answers manifest recorded x = some r ∧
        seg ∈ r.2 := by
  unfold syncShards at h
  induction xs generalizing work with
  | nil => exact Or.inl h
  | cons y xs ih =>
    rw [List.foldl_cons] at h
    -- the owner is in the table after the turn of `y`, or has a later turn
    rcases ih _ h with hturn | ⟨hmem, hlater⟩
    · rw [syncShardSegments_eq] at hturn
      cases hf : fetchedShard client tick.answers manifest
          (work.2.localVersions.lookup (shardSegmentsKey y)) y with
      | none =>
        rw [hf] at hturn
        exact Or.inl hturn
      | some r =>
        rw [hf] at hturn
        change (replaceOwner work.1.segmentToShard y r.2).lookup seg = some x at hturn
        rw [lookup_replaceOwner] at hturn
        split at hturn
        · rename_i hseg
          cases hturn
          exact Or.inr ⟨List.mem_cons_self, _, r, hf, hseg⟩
        · exact Or.inl (Option.filter_eq_some_iff.mp hturn).1
    · exact Or.inr ⟨List.mem_cons_of_mem y hmem, hlater⟩

/-- A shard whose list is not fetched in the loop keeps what it holds, less the segments of the
lists that are. -/
theorem mem_held_syncShards {xs : List String} (hxs : xs.Nodup) (work : ZoneState × ClientState)
    {x : String} (hx : fetchedShard client tick.answers manifest
      (work.2.localVersions.lookup (shardSegmentsKey x)) x = none) (seg : String) :
    seg ∈ held (shardClaims (syncShards client tick manifest xs work).2.log) x ↔
      seg ∈ held (shardClaims work.2.log) x ∧
        ∀ y ∈ xs, ∀ version list, fetchedShard client tick.answers manifest
            (work.2.localVersions.lookup (shardSegmentsKey y)) y = some (version, list) →
          seg ∉ list := by
  unfold syncShards
  induction xs generalizing work with
  | nil => simp
  | cons y xs ih =>
    obtain ⟨hy, hrest⟩ := List.nodup_cons.mp hxs
    -- the turn of `y` records nothing for the shards that follow
    have hrecorded : ∀ a, a ≠ y →
        (syncShardSegments client tick.answers manifest work y).2.localVersions.lookup
          (shardSegmentsKey a) = work.2.localVersions.lookup (shardSegmentsKey a) := by
      intro a ha
      have hview := congrArg ShardView.recorded
        (shardView_syncShardSegments client manifest tick.answers work y a)
      rw [if_neg ha] at hview
      exact hview
    have htail : (∀ a ∈ xs, ∀ version list, fetchedShard client tick.answers manifest
          ((syncShardSegments client tick.answers manifest work y).2.localVersions.lookup
            (shardSegmentsKey a)) a = some (version, list) → seg ∉ list) ↔
        ∀ a ∈ xs, ∀ version list, fetchedShard client tick.answers manifest
          (work.2.localVersions.lookup (shardSegmentsKey a)) a = some (version, list) →
          seg ∉ list := by
      refine forall₂_congr (fun a ha => ?_)
      rw [hrecorded a (fun h => hy (h ▸ ha))]
    by_cases hxy : x = y
    · subst hxy
      have hstep : syncShardSegments client tick.answers manifest work x = work := by
        rw [syncShardSegments_eq, hx]
      rw [List.foldl_cons, hstep, ih hrest work hx, List.forall_mem_cons]
      refine and_congr_right (fun _ => (and_iff_right ?_).symm)
      intro version list hf
      rw [hx] at hf
      cases hf
    -- the turn of `y` takes from `x` what it claims
    · rw [List.foldl_cons, ih hrest _ (by rw [hrecorded x hxy]; exact hx), htail,
        List.forall_mem_cons, ← and_assoc]
      refine and_congr_left (fun _ => ?_)
      rw [syncShardSegments_eq]
      cases hf : fetchedShard client tick.answers manifest
          (work.2.localVersions.lookup (shardSegmentsKey y)) y with
      | none => simp
      | some r =>
        change seg ∈ held ((y, r.2) :: shardClaims work.2.log) x ↔ _
        rw [held_cons_of_ne _ x y r.2 (Ne.symm hxy), Finset.mem_sdiff, List.mem_toFinset]
        simp [Prod.ext_iff]

end RzidClient

/-! ## One call -/

section Call

variable (client : RzidClient) (current : Option RoutingSnapshot) (manifest : VersionManifest)
  (changed : Finset String) (tick : Tick) (c : ClientState)

/-- Working state after the topology phase of one call. -/
def topologyWork : ZoneState × ClientState :=
  client.syncShardTopology tick changed (RzidClient.currentZone current, c)

/-- Working state at the end of the shard loop of one call. -/
def zoneWork : ZoneState × ClientState :=
  client.syncShards tick manifest
    (tick.shardOrder.toList (topologyWork client current changed tick c).1.shardToBridges.keys)
    (topologyWork client current changed tick c)

theorem isEmpty_retainValidShards_keys (st : ZoneState) :
    (st.retainValidShards st.shardToBridges.keys).isEmpty = true ↔ st.shardToBridges = ∅ := by
  unfold ZoneState.isEmpty ZoneState.retainValidShards
  rw [Bool.and_eq_true, decide_eq_true_eq, decide_eq_true_eq]
  constructor
  · exact fun h => h.2
  · intro h
    refine ⟨?_, h⟩
    rw [FiniteMap.eq_empty_iff]
    intro seg hmem
    obtain ⟨shard, -, hkey⟩ := (FiniteMap.mem_retain _ _ _).mp hmem
    rw [decide_eq_true_eq, h, Finmap.keys_empty] at hkey
    exact Finset.notMem_empty _ hkey

theorem syncZoneState_eq :
    client.syncZoneState current manifest changed tick c =
      if (topologyWork client current changed tick c).1.shardToBridges = ∅ then
        (.error (.noRoute "empty zone state after sync"),
          (zoneWork client current manifest changed tick c).2)
      else
        (.ok (some (.zone ((zoneWork client current manifest changed tick c).1.retainValidShards
            (topologyWork client current changed tick c).1.shardToBridges.keys))),
          (zoneWork client current manifest changed tick c).2) := by
  have hkeep : (zoneWork client current manifest changed tick c).1.shardToBridges =
      (topologyWork client current changed tick c).1.shardToBridges :=
    RzidClient.shardToBridges_syncShards client tick manifest _ _
  have hfold : client.syncZoneState current manifest changed tick c =
      if ((zoneWork client current manifest changed tick c).1.retainValidShards
          (zoneWork client current manifest changed tick c).1.shardToBridges.keys).isEmpty then
        (.error (.noRoute "empty zone state after sync"),
          (zoneWork client current manifest changed tick c).2)
      else
        (.ok (some (.zone ((zoneWork client current manifest changed tick c).1.retainValidShards
            (zoneWork client current manifest changed tick c).1.shardToBridges.keys))),
          (zoneWork client current manifest changed tick c).2) := rfl
  rw [hfold]
  simp only [isEmpty_retainValidShards_keys]
  simp only [hkeep]

/-- Without shards after the topology phase, the call records what the topology phase recorded. -/
theorem zoneWork_of_no_shards
    (h : (topologyWork client current changed tick c).1.shardToBridges = ∅) :
    zoneWork client current manifest changed tick c = topologyWork client current changed tick c := by
  unfold zoneWork
  have hnil : tick.shardOrder.toList
      (topologyWork client current changed tick c).1.shardToBridges.keys = [] := by
    rw [h, Finmap.keys_empty]
    apply List.eq_nil_iff_forall_not_mem.mpr
    intro x hx
    exact Finset.notMem_empty x (((tick.shardOrder.enumerates _).mem_iff x).mp hx)
  rw [hnil]
  rfl

theorem topologyWork_of_some {version : UInt64} {shards : FiniteMap String (List String)}
    (h : fetchedTopology client tick.answers changed (RzidClient.currentZone current) =
      some (version, shards)) :
    topologyWork client current changed tick c =
      (ZoneState.retainValidShards
          { RzidClient.currentZone current with shardToBridges := shards } shards.keys,
        (c.createHops (RzidClient.topologyHops tick shards)).updateLocalVersion
          (zoneShardsKey client.zoneId) version (.zoneShards version shards)) := by
  unfold topologyWork
  rw [RzidClient.syncShardTopology_eq, h]

theorem topologyWork_of_none
    (h : fetchedTopology client tick.answers changed (RzidClient.currentZone current) = none) :
    topologyWork client current changed tick c = (RzidClient.currentZone current, c) := by
  unfold topologyWork
  rw [RzidClient.syncShardTopology_eq, h]

theorem shardToBridges_topologyWork :
    (topologyWork client current changed tick c).1.shardToBridges =
      shardsToSync client current tick.answers changed := by
  unfold shardsToSync
  cases hf : fetchedTopology client tick.answers changed (RzidClient.currentZone current) with
  | none =>
    rw [topologyWork_of_none _ _ _ _ _ hf]
    rfl
  | some r =>
    rw [topologyWork_of_some _ _ _ _ _ hf]
    rfl

theorem localVersions_topologyWork {key : String} (hkey : key ≠ zoneShardsKey client.zoneId) :
    (topologyWork client current changed tick c).2.localVersions.lookup key =
      c.localVersions.lookup key := by
  cases hf : fetchedTopology client tick.answers changed (RzidClient.currentZone current) with
  | none => rw [topologyWork_of_none _ _ _ _ _ hf]
  | some r =>
    rw [topologyWork_of_some _ _ _ _ _ hf]
    exact Finmap.lookup_insert_of_ne _ hkey

end Call

end RzRouter
