import RzRouter.Sync.Interleaving

/-!
# Where the published table comes from

Nothing gets into a table but what RzID has answered: a segment has the zone (shard) in whose list
RzID gave it, and a zone (shard) has a list of hops that RzID gave for it.  This is so for the table
in use and for the one that a tick is still building.
-/

namespace RzRouter

/-! ## Answers -/

/-- RzID gives segment `seg` to zone `owner`; to a router of a zone, to shard `owner` of its
zone. -/
def RzidAnswers.GivesSegment (client : RzidClient) (answers : RzidAnswers) (seg owner : String) :
    Prop :=
  match client.mode with
  | .edge => ∃ version segments, answers.zoneSegments owner = .ok (version, segments) ∧
      seg ∈ segments
  | .zone => ∃ version segments, answers.shardSegments owner = .ok (version, client.zoneId, segments) ∧
      seg ∈ segments

/-- RzID gives zone (shard) `owner` this list of hops. -/
def RzidAnswers.GivesHops (client : RzidClient) (answers : RzidAnswers) (owner : String)
    (hops : List String) : Prop :=
  match client.mode with
  | .edge => ∃ version, answers.zoneRouters owner = .ok (version, hops)
  | .zone => ∃ version shards, answers.zoneShards client.zoneId = .ok (version, shards) ∧
      shards.lookup owner = some hops

theorem eq_ok_of_toOption {ε α : Type} {r : Except ε α} {a : α} (h : r.toOption = some a) :
    r = .ok a := by
  cases r with
  | error e => cases h
  | ok b =>
    cases h
    rfl

theorem givesSegment_of_fetchedSegments {zid seg owner : String} {answers : RzidAnswers}
    {changed : Finset String} {r : UInt64 × List String}
    (h : fetchedSegments answers changed owner = some r) (hseg : seg ∈ r.2) :
    answers.GivesSegment (edgeClient zid) seg owner := by
  unfold fetchedSegments at h
  split at h
  · exact ⟨r.1, r.2, eq_ok_of_toOption h, hseg⟩
  · cases h

theorem givesHops_of_fetchedRouters {zid owner : String} {answers : RzidAnswers}
    {changed : Finset String} {r : UInt64 × List String}
    (h : fetchedRouters answers changed owner = some r) :
    answers.GivesHops (edgeClient zid) owner r.2 := by
  unfold fetchedRouters at h
  split at h
  · exact ⟨r.1, eq_ok_of_toOption h⟩
  · cases h

theorem givesSegment_of_fetchedShard {zid seg owner : String} {answers : RzidAnswers}
    {manifest : VersionManifest} {recorded : Option UInt64} {r : UInt64 × List String}
    (h : fetchedShard (zoneClient zid) answers manifest recorded owner = some r)
    (hseg : seg ∈ r.2) : answers.GivesSegment (zoneClient zid) seg owner := by
  unfold fetchedShard at h
  split at h
  · cases h
  · split at h
    · cases h
    · split at h
      · rename_i version zone segments hanswer
        split at h
        · cases h
        · rename_i hzone
          cases h
          rw [not_not.mp hzone] at hanswer
          exact ⟨version, segments, hanswer, hseg⟩
      · cases h

theorem givesHops_of_fetchedTopology {zid owner : String} {answers : RzidAnswers}
    {changed : Finset String} {current : ZoneState}
    {r : UInt64 × FiniteMap String (List String)} {hops : List String}
    (h : fetchedTopology (zoneClient zid) answers changed current = some r)
    (hhops : r.2.lookup owner = some hops) : answers.GivesHops (zoneClient zid) owner hops := by
  unfold fetchedTopology at h
  split at h
  · exact ⟨r.1, r.2, eq_ok_of_toOption h, hhops⟩
  · cases h

/-! ## Tables -/

/-- Every entry of the table was in an answer of one of the ticks. -/
structure RoutingSnapshot.Attested (client : RzidClient) (ticks : List Tick)
    (snapshot : RoutingSnapshot) : Prop where
  owners : ∀ seg owner, snapshot.owners.lookup seg = some owner →
    ∃ tick ∈ ticks, tick.answers.GivesSegment client seg owner
  lists : ∀ owner hops, snapshot.lists.lookup owner = some hops →
    ∃ tick ∈ ticks, tick.answers.GivesHops client owner hops

section Tables

variable {client : RzidClient} {ticks : List Tick} {snapshot : RoutingSnapshot}

theorem attested_init (client : RzidClient) (ticks : List Tick) (mode : RouterMode) :
    (RefreshState.init mode).routing.Attested client ticks := by
  constructor
  · intro seg owner h
    cases mode <;> cases h
  · intro owner hops h
    cases mode <;> cases h

theorem RoutingSnapshot.Attested.append (h : snapshot.Attested client ticks) (later : List Tick) :
    snapshot.Attested client (ticks ++ later) := by
  constructor
  · intro seg owner howner
    obtain ⟨tick, htick, hgives⟩ := h.owners seg owner howner
    exact ⟨tick, List.mem_append_left later htick, hgives⟩
  · intro owner hops hlist
    obtain ⟨tick, htick, hgives⟩ := h.lists owner hops hlist
    exact ⟨tick, List.mem_append_left later htick, hgives⟩

/-- A lookup in the table finds hops that RzID gave for the owner of the segment. -/
theorem RoutingSnapshot.Attested.of_lookup (h : snapshot.Attested client ticks) {seg id : String}
    (hid : id ∈ snapshot.lookup seg) :
    ∃ owner hops, (∃ tick ∈ ticks, tick.answers.GivesSegment client seg owner) ∧
      (∃ tick ∈ ticks, tick.answers.GivesHops client owner hops) ∧ id ∈ hops := by
  rw [RoutingSnapshot.lookup_eq] at hid
  unfold lookupTwoLevel at hid
  split at hid
  · rename_i owner howner
    cases hlist : snapshot.lists.lookup owner with
    | none =>
      rw [hlist] at hid
      cases hid
    | some hops =>
      rw [hlist] at hid
      exact ⟨owner, hops, h.owners seg owner howner, h.lists owner hops hlist, hid⟩
  · cases hid

/-! ## Syncs

A sync starts from the table in use if it has the router's mode, else from an empty one. -/

theorem owners_of_currentEdge {seg owner : String}
    (h : (RzidClient.currentEdge (some snapshot)).segmentToZone.lookup seg = some owner) :
    snapshot.owners.lookup seg = some owner := by
  cases snapshot with
  | edge state => exact h
  | zone state => cases h

theorem lists_of_currentEdge {owner : String} {hops : List String}
    (h : (RzidClient.currentEdge (some snapshot)).zoneToRouters.lookup owner = some hops) :
    snapshot.lists.lookup owner = some hops := by
  cases snapshot with
  | edge state => exact h
  | zone state => cases h

theorem owners_of_currentZone {seg owner : String}
    (h : (RzidClient.currentZone (some snapshot)).segmentToShard.lookup seg = some owner) :
    snapshot.owners.lookup seg = some owner := by
  cases snapshot with
  | edge state => cases h
  | zone state => exact h

theorem lists_of_currentZone {owner : String} {hops : List String}
    (h : (RzidClient.currentZone (some snapshot)).shardToBridges.lookup owner = some hops) :
    snapshot.lists.lookup owner = some hops := by
  cases snapshot with
  | edge state => cases h
  | zone state => exact h

variable {s : RefreshState} {tick : Tick} {manifest : VersionManifest}

/-- A list of the new table is an answer of the tick or in the table in use. -/
theorem given_or_current {owner : String} {hops : List String}
    (h : s.nextList client manifest tick owner = some hops) :
    tick.answers.GivesHops client owner hops ∨ s.routing.lists.lookup owner = some hops := by
  obtain ⟨mode, zid⟩ := client
  unfold RefreshState.nextList RzidClient.nextList at h
  cases mode with
  | edge =>
    simp only at h
    split at h
    · cases hfetched : fetchedRouters tick.answers (s.changed ⟨.edge, zid⟩ manifest) owner with
      | none =>
        rw [hfetched] at h
        exact Or.inr (lists_of_currentEdge h)
      | some r =>
        rw [hfetched] at h
        cases h
        exact Or.inl (givesHops_of_fetchedRouters hfetched)
    · cases h
  | zone =>
    simp only at h
    cases hfetched : fetchedTopology ⟨.zone, zid⟩ tick.answers (s.changed ⟨.zone, zid⟩ manifest)
        (RzidClient.currentZone (some s.routing)) with
    | none =>
      rw [hfetched] at h
      exact Or.inr (lists_of_currentZone h)
    | some r =>
      rw [hfetched] at h
      exact Or.inl (givesHops_of_fetchedTopology hfetched h)

/-- A segment of the new table is in an answer of the tick or in the table in use. -/
theorem claimed_or_current {c : ClientState}
    (h : s.sync client manifest tick = (.ok (some snapshot), c)) {seg owner : String}
    (howner : snapshot.owners.lookup seg = some owner) :
    tick.answers.GivesSegment client seg owner ∨ s.routing.owners.lookup seg = some owner := by
  obtain ⟨mode, zid⟩ := client
  cases mode with
  | edge =>
    change s.sync (edgeClient zid) manifest tick = _ at h
    rw [sync_edge_eq] at h
    split at h
    · cases h
    · cases h
      obtain ⟨hwork, -⟩ := (lookup_dropUnrouted _ seg owner).mp howner
      rcases claimed_edgeWork _ _ _ _ _ hwork with hold | ⟨r, hfetched, hseg⟩
      · exact Or.inr (owners_of_currentEdge hold)
      · exact Or.inl (givesSegment_of_fetchedSegments hfetched hseg)
  | zone =>
    change s.sync (zoneClient zid) manifest tick = _ at h
    rw [sync_zone_eq] at h
    split at h
    · cases h
    · cases h
      change ((tickZoneWork zid s tick manifest).1.retainValidShards
        (resultShards zid s tick manifest).keys).segmentToShard.lookup seg = some owner at howner
      unfold ZoneState.retainValidShards at howner
      rw [FiniteMap.lookup_retain_eq_some] at howner
      rcases RzidClient.claimed_syncShards _ _ _ _ _ _ _ howner.1 with
        hbefore | ⟨-, recorded, r, hfetched, hseg⟩
      · right
        obtain ⟨hold, -⟩ := (lookup_tickTopologyWork seg owner).mp hbefore
        exact owners_of_currentZone hold
      · exact Or.inl (givesSegment_of_fetchedShard hfetched hseg)

theorem attested_synced {c : ClientState} (h : s.routing.Attested client ticks)
    (hsynced : s.synced client tick = (.ok (some snapshot), c)) :
    snapshot.Attested client (ticks ++ [tick]) := by
  obtain ⟨manifest, hversions, hchanged, -, -, hlists⟩ := built_of_synced hsynced
  obtain ⟨c', hsync⟩ : ∃ c', s.sync client manifest tick = (.ok (some snapshot), c') := by
    unfold RefreshState.synced at hsynced
    rw [syncRoutingState_of_changed hversions hchanged] at hsynced
    generalize s.sync client manifest tick = outcome at hsynced
    obtain ⟨result, c'⟩ := outcome
    rcases result with e | _ | built
    · cases hsynced
    · cases hsynced
    · cases hsynced
      exact ⟨c', rfl⟩
  have hnow : tick ∈ ticks ++ [tick] := List.mem_append_right _ (List.mem_singleton_self tick)
  constructor
  · intro seg owner howner
    rcases claimed_or_current hsync howner with hgives | hold
    · exact ⟨tick, hnow, hgives⟩
    · exact (h.append [tick]).owners seg owner hold
  · intro owner hops hlist
    rw [hlists] at hlist
    rcases given_or_current hlist with hgives | hold
    · exact ⟨tick, hnow, hgives⟩
    · exact (h.append [tick]).lists owner hops hold

end Tables

/-! ## The refresh task -/

/-- The table that a tick is going to publish. -/
def RefreshPhase.built? : RefreshPhase → Option RoutingSnapshot
  | .idle => none
  | .syncing _ outcome => outcome.1.toOption.join
  | .publishing snapshot => some snapshot

def LiveEvent.tick? : LiveEvent → Option Tick
  | .tick t => some t
  | _ => none

structure LiveState.Attested (client : RzidClient) (ticks : List Tick) (s : LiveState) : Prop where
  routing : s.refresh.routing.Attested client ticks
  built : ∀ snapshot, s.phase.built? = some snapshot → snapshot.Attested client ticks

theorem LiveState.attested_step {client : RzidClient} {ticks : List Tick} {s s' : LiveState}
    {e : LiveEvent} (h : s.Attested client ticks) (hstep : s.step client e = some s') :
    s'.Attested client (ticks ++ e.tick?.toList) := by
  cases liveStep hstep with
  | lookup segment =>
    show LiveState.Attested client (ticks ++ []) _
    rw [List.append_nil]
    exact h
  | tick tick hphase =>
    refine ⟨h.routing.append _, fun snapshot hbuilt => ?_⟩
    change (RefreshPhase.syncing _ (s.refresh.synced client tick)).built? = some snapshot at hbuilt
    show snapshot.Attested client (ticks ++ [tick])
    cases hsynced : s.refresh.synced client tick with
    | mk result c =>
      rw [hsynced] at hbuilt
      rcases result with e | _ | built
      · cases hbuilt
      · cases hbuilt
      · cases hbuilt
        exact attested_synced h.routing hsynced
  | getOrCreate id requests outcome hphase =>
    show LiveState.Attested client (ticks ++ []) _
    rw [List.append_nil]
    refine ⟨h.routing, fun snapshot hbuilt => h.built snapshot ?_⟩
    rw [hphase]
    exact hbuilt
  | retire snapshot c hphase =>
    show LiveState.Attested client (ticks ++ []) _
    rw [List.append_nil]
    refine ⟨h.routing, fun snapshot' hbuilt => h.built snapshot' ?_⟩
    rw [hphase]
    exact hbuilt
  | keep c =>
    show LiveState.Attested client (ticks ++ []) _
    rw [List.append_nil]
    exact ⟨h.routing, fun snapshot hbuilt => by cases hbuilt⟩
  | store snapshot hphase =>
    show LiveState.Attested client (ticks ++ []) _
    rw [List.append_nil]
    refine ⟨h.built snapshot ?_, fun snapshot' hbuilt => by cases hbuilt⟩
    rw [hphase]
    rfl

end RzRouter
