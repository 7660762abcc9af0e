import RzRouter.Refresh

/-!
# What one edge sync does

The effect of the zone loop of `sync_edge_state` on each zone's router list, recorded versions and
segments, and the four ways a call can end.  The properties of edge ticks only use these.
-/

namespace RzRouter

open Ownership

/-! ## Keys -/

theorem zoneRoutersKey_inj (z z' : String) : zoneRoutersKey z = zoneRoutersKey z' ↔ z = z' :=
  Text.format_inj "zones/" "/routers" z z'

theorem zoneSegmentsKey_inj (z z' : String) : zoneSegmentsKey z = zoneSegmentsKey z' ↔ z = z' :=
  Text.format_inj "zones/" "/segments" z z'

theorem zoneRoutersKey_ne_zoneSegmentsKey (z z' : String) :
    zoneRoutersKey z ≠ zoneSegmentsKey z' :=
  Text.append_ne_of_tails ("zones/" ++ z) ("zones/" ++ z') "/routers" "/segments"
    (by decide) (by decide)

/-! ## The log -/

/-- The segment lists that were installed for zones, newest first. -/
def zoneClaims (log : List Installed) : List (String × List String) :=
  log.filterMap (fun entry =>
    match entry with
    | .zoneSegments zone _ segments => some (zone, segments)
    | _ => none)

/-- Version and content of the segment list last fetched for a zone. -/
def lastZoneSegments (log : List Installed) (zoneId : String) : Option (UInt64 × List String) :=
  log.findSome? (fun entry =>
    match entry with
    | .zoneSegments zone version segments =>
        if zone = zoneId then some (version, segments) else none
    | _ => none)

/-- Version and content of the router list last fetched for a zone. -/
def lastZoneRouters (log : List Installed) (zoneId : String) : Option (UInt64 × List String) :=
  log.findSome? (fun entry =>
    match entry with
    | .zoneRouters zone version routers =>
        if zone = zoneId then some (version, routers) else none
    | _ => none)

/-! ## One turn of the loop -/

/-- The router list that a sync fetches for a zone: the key changed and RzID answers. -/
def fetchedRouters (answers : RzidAnswers) (changed : Finset String) (zoneId : String) :
    Option (UInt64 × List String) :=
  if zoneRoutersKey zoneId ∈ changed then (answers.zoneRouters zoneId).toOption else none

/-- The segment list that a sync fetches for a zone. -/
def fetchedSegments (answers : RzidAnswers) (changed : Finset String) (zoneId : String) :
    Option (UInt64 × List String) :=
  if zoneSegmentsKey zoneId ∈ changed then (answers.zoneSegments zoneId).toOption else none

namespace RzidClient

variable (answers : RzidAnswers) (changed : Finset String)

theorem syncZoneRouters_eq (z : String) (work : EdgeState × ClientState) :
    syncZoneRouters answers changed z work =
      match fetchedRouters answers changed z with
      | some (version, routers) =>
          (work.1.setZoneRouters z routers,
            (work.2.createHops routers).updateLocalVersion (zoneRoutersKey z) version
              (.zoneRouters z version routers))
      | none => work := by
  unfold syncZoneRouters fetchedRouters
  split
  · cases answers.zoneRouters z <;> rfl
  · rfl

theorem syncZoneSegments_eq (z : String) (work : EdgeState × ClientState) :
    syncZoneSegments answers changed z work =
      match fetchedSegments answers changed z with
      | some (version, segments) =>
          (work.1.replaceZoneSegments z segments,
            work.2.updateLocalVersion (zoneSegmentsKey z) version
              (.zoneSegments z version segments))
      | none => work := by
  unfold syncZoneSegments fetchedSegments
  split
  · cases answers.zoneSegments z <;> rfl
  · rfl

/-! ## The whole loop -/

/-- The loop of `sync_edge_state` over the zones `zs`. -/
def syncZones (zs : List String) (work : EdgeState × ClientState) : EdgeState × ClientState :=
  zs.foldl (syncZone answers changed) work

/-- What the working state says about one zone, its segments apart. -/
structure ZoneView where
  routers : Option (List String)
  routersVersion : Option UInt64
  segmentsVersion : Option UInt64
  lastRouters : Option (UInt64 × List String)
  lastSegments : Option (UInt64 × List String)

def zoneView (work : EdgeState × ClientState) (a : String) : ZoneView where
  routers := work.1.zoneToRouters.lookup a
  routersVersion := work.2.localVersions.lookup (zoneRoutersKey a)
  segmentsVersion := work.2.localVersions.lookup (zoneSegmentsKey a)
  lastRouters := lastZoneRouters work.2.log a
  lastSegments := lastZoneSegments work.2.log a

/-- The zone's own turn, given the lists that are fetched for it. -/
def ZoneView.turn (routers segments : Option (UInt64 × List String)) (v : ZoneView) : ZoneView where
  routers := (routers.map (fun r => some r.2)).getD v.routers
  routersVersion := (routers.map (fun r => some r.1)).getD v.routersVersion
  segmentsVersion := (segments.map (fun r => some r.1)).getD v.segmentsVersion
  lastRouters := (routers.map some).getD v.lastRouters
  lastSegments := (segments.map some).getD v.lastSegments

theorem zoneView_syncZones {zs : List String} (hzs : zs.Nodup) (work : EdgeState × ClientState)
    (a : String) :
    zoneView (syncZones answers changed zs work) a =
      if a ∈ zs then
        (zoneView work a).turn (fetchedRouters answers changed a) (fetchedSegments answers changed a)
      else zoneView work a := by
  -- the turn of another zone leaves this one alone, its own turn happens once
  refine get_foldl_once (syncZone answers changed) (fun w => zoneView w a)
    (ZoneView.turn (fetchedRouters answers changed a) (fetchedSegments answers changed a)) a
    ?_ ?_ hzs work
  · intro w b hb
    simp only [syncZone, syncZoneSegments_eq, syncZoneRouters_eq]
    cases fetchedRouters answers changed b <;> cases fetchedSegments answers changed b <;>
      simp [zoneView, EdgeState.setZoneRouters, EdgeState.replaceZoneSegments,
        ClientState.updateLocalVersion, ClientState.createHops,
        zoneRoutersKey_inj, zoneSegmentsKey_inj, zoneRoutersKey_ne_zoneSegmentsKey,
        Ne.symm (zoneRoutersKey_ne_zoneSegmentsKey _ _), lastZoneRouters, lastZoneSegments,
        hb, Ne.symm hb]
  · intro w
    simp only [syncZone, syncZoneSegments_eq, syncZoneRouters_eq]
    cases fetchedRouters answers changed a <;> cases fetchedSegments answers changed a <;>
      simp [zoneView, ZoneView.turn, EdgeState.setZoneRouters, EdgeState.replaceZoneSegments,
        ClientState.updateLocalVersion, ClientState.createHops,
        zoneRoutersKey_ne_zoneSegmentsKey, Ne.symm (zoneRoutersKey_ne_zoneSegmentsKey _ _),
        lastZoneRouters, lastZoneSegments]

/-- The table under construction and the log agree on what zone `a` owns. -/
def EdgeExact (work : EdgeState × ClientState) (a : String) : Prop :=
  Exact work.1.segmentToZone (zoneClaims work.2.log) a

theorem edgeExact_syncZone_of_exact (work : EdgeState × ClientState) (z a : String)
    (h : EdgeExact work a) : EdgeExact (syncZone answers changed work z) a := by
  have hrouters : EdgeExact (syncZoneRouters answers changed z work) a := by
    rw [syncZoneRouters_eq]
    cases fetchedRouters answers changed z <;> exact h
  unfold syncZone
  rw [syncZoneSegments_eq]
  cases fetchedSegments answers changed z with
  | none => exact hrouters
  | some r => exact exact_replaceOwner _ _ a z r.2 hrouters

theorem edgeExact_syncZone_self (work : EdgeState × ClientState) (z : String)
    (r : UInt64 × List String) (h : fetchedSegments answers changed z = some r) :
    EdgeExact (syncZone answers changed work z) z := by
  unfold syncZone
  rw [syncZoneSegments_eq, h]
  exact exact_replaceOwner_self _ _ z r.2

/-- A zone is right after the loop if it was right before, or if its list was fetched. -/
theorem edgeExact_syncZones (zs : List String) (work : EdgeState × ClientState) (a : String)
    (h : EdgeExact work a ∨ a ∈ zs ∧ fetchedSegments answers changed a ≠ none) :
    EdgeExact (syncZones answers changed zs work) a := by
  unfold syncZones
  induction zs generalizing work with
  | nil => exact h.resolve_right (fun ha => absurd ha.1 List.not_mem_nil)
  | cons z zs ih =>
    rw [List.foldl_cons]
    apply ih
    rcases h with hexact | ⟨hmem, hfetched⟩
    · exact Or.inl (edgeExact_syncZone_of_exact answers changed work z a hexact)
    · rcases List.mem_cons.mp hmem with rfl | htail
      · obtain ⟨r, hr⟩ := Option.ne_none_iff_exists'.mp hfetched
        exact Or.inl (edgeExact_syncZone_self answers changed work a r hr)
      · exact Or.inr ⟨htail, hfetched⟩

/-- The segment lists fetched by the loop, newest first. -/
def fetchedClaims (zs : List String) : List (String × List String) :=
  (zs.filterMap (fun z => (fetchedSegments answers changed z).map (fun r => (z, r.2)))).reverse

theorem map_fst_fetchedClaims (zs : List String) :
    (fetchedClaims answers changed zs).map Prod.fst =
      (zs.filter (fun z => (fetchedSegments answers changed z).isSome)).reverse := by
  unfold fetchedClaims
  rw [List.map_reverse]
  congr 1
  induction zs with
  | nil => rfl
  | cons z zs ih =>
    rw [List.filterMap_cons, List.filter_cons]
    cases fetchedSegments answers changed z with
    | none => exact ih
    | some r => simp [ih]

theorem zoneClaims_syncZones (zs : List String) (work : EdgeState × ClientState) :
    zoneClaims (syncZones answers changed zs work).2.log =
      fetchedClaims answers changed zs ++ zoneClaims work.2.log := by
  unfold syncZones fetchedClaims
  induction zs generalizing work with
  | nil => rfl
  | cons z zs ih =>
    have hturn : zoneClaims (syncZone answers changed work z).2.log =
        ((fetchedSegments answers changed z).map (fun r => (z, r.2))).toList ++
          zoneClaims work.2.log := by
      unfold syncZone
      rw [syncZoneSegments_eq, syncZoneRouters_eq]
      cases fetchedRouters answers changed z <;> cases fetchedSegments answers changed z <;> rfl
    rw [List.foldl_cons, ih, hturn, List.filterMap_cons]
    cases fetchedSegments answers changed z with
    | none => rfl
    | some r => simp

/-- A segment points at a zone after the loop only if it did before or a list with it was fetched
for the zone. -/
theorem claimed_syncZones (zs : List String) (work : EdgeState × ClientState) (seg a : String)
    (h : (syncZones answers changed zs work).1.segmentToZone.lookup seg = some a) :
    work.1.segmentToZone.lookup seg = some a ∨
      ∃ r, fetchedSegments answers changed a = some r ∧ seg ∈ r.2 := by
  unfold syncZones at h
  induction zs generalizing work with
  | nil => exact Or.inl h
  | cons z zs ih =>
    rw [List.foldl_cons] at h
    -- the owner is in the table after the turn of `z`, or it answered in a later turn
    rcases ih _ h with hturn | hfetched
    · have hrouters : (syncZoneRouters answers changed z work).1.segmentToZone =
          work.1.segmentToZone := by
        rw [syncZoneRouters_eq]
        cases fetchedRouters answers changed z <;> rfl
      unfold syncZone at hturn
      rw [syncZoneSegments_eq] at hturn
      cases hf : fetchedSegments answers changed z with
      | none =>
        rw [hf] at hturn
        exact Or.inl (hrouters ▸ hturn)
      | some r =>
        rw [hf] at hturn
        have hlookup := lookup_replaceOwner (syncZoneRouters answers changed z work).1.segmentToZone
          z r.2 seg
        simp only [EdgeState.replaceZoneSegments] at hturn
        rw [hlookup, hrouters] at hturn
        split at hturn
        · rename_i hseg
          cases hturn
          exact Or.inr ⟨r, hf, hseg⟩
        · exact Or.inl (Option.filter_eq_some_iff.mp hturn).1
    · exact Or.inr hfetched

end RzidClient

/-! ## The filters before and after the loop -/

theorem lookup_dropUnrouted (st : EdgeState) (seg z : String) :
    (RzidClient.dropUnrouted st).segmentToZone.lookup seg = some z ↔
      st.segmentToZone.lookup seg = some z ∧ z ∈ st.zoneToRouters := by
  unfold RzidClient.dropUnrouted
  rw [FiniteMap.lookup_retain_eq_some, decide_eq_true_eq, Finmap.mem_keys]

theorem isEmpty_dropUnrouted (st : EdgeState) :
    (RzidClient.dropUnrouted st).isEmpty = true ↔ st.zoneToRouters = ∅ := by
  unfold EdgeState.isEmpty
  rw [Bool.and_eq_true, decide_eq_true_eq, decide_eq_true_eq]
  constructor
  · exact fun h => h.2
  · intro h
    refine ⟨Finmap.ext_lookup (fun seg => ?_), h⟩
    rw [Finmap.lookup_empty]
    apply Option.eq_none_iff_forall_ne_some.mpr
    intro z hz
    have hmem := ((lookup_dropUnrouted st seg z).mp hz).2
    rw [h] at hmem
    exact Finmap.notMem_empty hmem

theorem lookup_retainValidZones_routers (st : EdgeState) (valid : Finset String) (a : String) :
    (st.retainValidZones valid).zoneToRouters.lookup a =
      if a ∈ valid then st.zoneToRouters.lookup a else none := by
  unfold EdgeState.retainValidZones
  rw [FiniteMap.lookup_retain]
  cases st.zoneToRouters.lookup a <;> by_cases ha : a ∈ valid <;> simp [ha, Option.filter]

theorem exact_retainValidZones (st : EdgeState) (valid : Finset String)
    (claims : List (String × List String)) (a : String) (ha : a ∈ valid)
    (h : Exact st.segmentToZone claims a) :
    Exact (st.retainValidZones valid).segmentToZone claims a := by
  intro seg
  unfold EdgeState.retainValidZones
  rw [FiniteMap.lookup_retain_eq_some, ← h seg, decide_eq_true_eq, and_iff_left ha]

/-! ## One call -/

/-- Working state at the end of the zone loop of one call. -/
def edgeWork (current : Option RoutingSnapshot) (manifest : VersionManifest)
    (changed : Finset String) (tick : Tick) (c : ClientState) : EdgeState × ClientState :=
  RzidClient.syncZones tick.answers changed (tick.zoneOrder.toList manifest.validZones)
    ((RzidClient.currentEdge current).retainValidZones manifest.validZones, c)

section Call

variable (current : Option RoutingSnapshot) (manifest : VersionManifest)
  (changed : Finset String) (tick : Tick) (c : ClientState)

theorem syncEdgeState_eq :
    RzidClient.syncEdgeState current manifest changed tick c =
      if (edgeWork current manifest changed tick c).1.zoneToRouters = ∅ then
        (.error (.noRoute "empty edge state after sync"),
          (edgeWork current manifest changed tick c).2)
      else
        (.ok (some (.edge
            (RzidClient.dropUnrouted (edgeWork current manifest changed tick c).1))),
          (edgeWork current manifest changed tick c).2) := by
  unfold RzidClient.syncEdgeState
  simp only [isEmpty_dropUnrouted]
  rfl

theorem mem_zoneOrder (a : String) :
    a ∈ tick.zoneOrder.toList manifest.validZones ↔ a ∈ manifest.validZones :=
  (tick.zoneOrder.enumerates _).mem_iff a

/-- A zone of the manifest has its turn. -/
theorem zoneView_edgeWork_of_mem {a : String} (ha : a ∈ manifest.validZones) :
    RzidClient.zoneView (edgeWork current manifest changed tick c) a =
      (RzidClient.zoneView (RzidClient.currentEdge current, c) a).turn
        (fetchedRouters tick.answers changed a) (fetchedSegments tick.answers changed a) := by
  unfold edgeWork
  rw [RzidClient.zoneView_syncZones _ _ (tick.zoneOrder.enumerates _).nodup,
    if_pos ((mem_zoneOrder manifest tick a).mpr ha)]
  simp only [RzidClient.zoneView, lookup_retainValidZones_routers, if_pos ha]

/-- A zone that the manifest does not name loses its routers; its versions stay. -/
theorem zoneView_edgeWork_of_notMem {a : String} (ha : a ∉ manifest.validZones) :
    RzidClient.zoneView (edgeWork current manifest changed tick c) a =
      { RzidClient.zoneView (RzidClient.currentEdge current, c) a with routers := none } := by
  unfold edgeWork
  rw [RzidClient.zoneView_syncZones _ _ (tick.zoneOrder.enumerates _).nodup,
    if_neg (fun hmem => ha ((mem_zoneOrder manifest tick a).mp hmem))]
  simp only [RzidClient.zoneView, lookup_retainValidZones_routers, if_neg ha]

/-- A zone has routers at the end of the loop iff the manifest names it and it had routers before
or its list was fetched. -/
theorem mem_edgeWork_routers (a : String) :
    a ∈ (edgeWork current manifest changed tick c).1.zoneToRouters ↔
      a ∈ manifest.validZones ∧
        (a ∈ (RzidClient.currentEdge current).zoneToRouters ∨
          fetchedRouters tick.answers changed a ≠ none) := by
  rw [← Finmap.lookup_isSome, ← Finmap.lookup_isSome]
  by_cases ha : a ∈ manifest.validZones
  · have hview := congrArg RzidClient.ZoneView.routers
      (zoneView_edgeWork_of_mem current manifest changed tick c ha)
    simp only [RzidClient.zoneView, RzidClient.ZoneView.turn] at hview
    rw [hview]
    cases fetchedRouters tick.answers changed a <;> simp [ha]
  · have hview := congrArg RzidClient.ZoneView.routers
      (zoneView_edgeWork_of_notMem current manifest changed tick c ha)
    simp only [RzidClient.zoneView] at hview
    simp [hview, ha]

/-- A zone of the manifest is right at the end of the loop if it was right before, or if its list
was fetched. -/
theorem edgeExact_edgeWork {a : String} (ha : a ∈ manifest.validZones)
    (h : Exact (RzidClient.currentEdge current).segmentToZone (zoneClaims c.log) a ∨
      fetchedSegments tick.answers changed a ≠ none) :
    RzidClient.EdgeExact (edgeWork current manifest changed tick c) a := by
  apply RzidClient.edgeExact_syncZones
  rcases h with hexact | hfetched
  · exact Or.inl (exact_retainValidZones _ _ _ a ha hexact)
  · exact Or.inr ⟨(mem_zoneOrder manifest tick a).mpr ha, hfetched⟩

/-- The call fails exactly when no zone of the manifest has routers at the end. -/
theorem edgeWork_routers_eq_empty_iff :
    (edgeWork current manifest changed tick c).1.zoneToRouters = ∅ ↔
      ∀ a ∈ manifest.validZones, a ∉ (RzidClient.currentEdge current).zoneToRouters ∧
        fetchedRouters tick.answers changed a = none := by
  rw [FiniteMap.eq_empty_iff]
  constructor
  · intro h a ha
    have hnot := h a
    rw [mem_edgeWork_routers, not_and, not_or, not_not] at hnot
    exact hnot ha
  · intro h a hmem
    rw [mem_edgeWork_routers] at hmem
    obtain ⟨ha, hcase⟩ := hmem
    exact hcase.elim (h a ha).1 (fun hne => hne (h a ha).2)

theorem zoneClaims_edgeWork :
    zoneClaims (edgeWork current manifest changed tick c).2.log =
      RzidClient.fetchedClaims tick.answers changed (tick.zoneOrder.toList manifest.validZones) ++
        zoneClaims c.log :=
  RzidClient.zoneClaims_syncZones _ _ _ _

/-- A segment of the new table pointed at its zone before, or a list with it is fetched for the
zone. -/
theorem claimed_edgeWork {seg a : String}
    (h : (edgeWork current manifest changed tick c).1.segmentToZone.lookup seg = some a) :
    (RzidClient.currentEdge current).segmentToZone.lookup seg = some a ∨
      ∃ r, fetchedSegments tick.answers changed a = some r ∧ seg ∈ r.2 := by
  rcases RzidClient.claimed_syncZones _ _ _ _ _ _ h with hbefore | hfetched
  · exact Or.inl ((FiniteMap.lookup_retain_eq_some _ _ _ _).mp hbefore).1
  · exact Or.inr hfetched

/-- A zone that no segment pointed at stays so unless its list is fetched. -/
theorem mapped_edgeWork {seg a : String}
    (h : (edgeWork current manifest changed tick c).1.segmentToZone.lookup seg = some a) :
    (RzidClient.currentEdge current).segmentToZone.lookup seg = some a ∨
      fetchedSegments tick.answers changed a ≠ none := by
  rcases claimed_edgeWork current manifest changed tick c h with hbefore | ⟨r, hfetched, -⟩
  · exact Or.inl hbefore
  · exact Or.inr (by rw [hfetched]; exact Option.some_ne_none r)

end Call

end RzRouter
