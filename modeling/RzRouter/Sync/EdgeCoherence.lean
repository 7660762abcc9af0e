import RzRouter.Sync.EdgeTick
import Mathlib.Data.String.Basic

/-!
# Recorded versions and the published edge table

A recorded version keeps RzID from being asked again, so the table has to contain what was
fetched with it.  The versions outlive the table's content in two ways: a zone that loses its
routers loses its segments, and the result of a failing sync is thrown away.
-/

namespace RzRouter

open Ownership

/-- The published table has what the recorded versions of the zone stand for: the segments of the
list last fetched, less those of newer lists of other zones, and the routers last fetched. -/
structure ZoneCoherent (st : EdgeState) (c : ClientState) (z : String) : Prop where
  segments : ∀ version, c.localVersions.lookup (zoneSegmentsKey z) = some version →
    (∃ list, lastZoneSegments c.log z = some (version, list)) ∧
      Exact st.segmentToZone (zoneClaims c.log) z
  routers : ∀ version, c.localVersions.lookup (zoneRoutersKey z) = some version →
    ∃ list, lastZoneRouters c.log z = some (version, list) ∧
      st.zoneToRouters.lookup z = some list

/-- The published table is coherent for every zone of the latest manifest. -/
def EdgeCoherent (s : RefreshState) : Prop :=
  ∃ st, s.routing = .edge st ∧
    ∀ manifest, s.manifest = some manifest → ∀ z ∈ manifest.validZones, ZoneCoherent st s.client z

def CoherentAfter (zid : String) (s : RefreshState) (tick : Tick) : Prop :=
  EdgeCoherent (refreshTick (edgeClient zid) s tick)

/-! ## The condition -/

section Condition

variable (zid : String) (s : RefreshState) (tick : Tick) (manifest : VersionManifest)

/-- The router list and the segment list that the tick fetches for a zone. -/
def tickRouters (z : String) : Option (UInt64 × List String) :=
  fetchedRouters tick.answers (s.changed (edgeClient zid) manifest) z

def tickSegments (z : String) : Option (UInt64 × List String) :=
  fetchedSegments tick.answers (s.changed (edgeClient zid) manifest) z

/-- All segment lists that the tick fetches, newest first. -/
def tickClaims : List (String × List String) :=
  RzidClient.fetchedClaims tick.answers (s.changed (edgeClient zid) manifest)
    (tick.zoneOrder.toList manifest.validZones)

/-- The zone has routers before the tick, or both its lists are fetched in it. -/
def Served (z : String) : Prop :=
  z ∈ s.edgeTable.zoneToRouters ∨
    tickRouters zid s tick manifest z ≠ none ∧ tickSegments zid s tick manifest z ≠ none

/-- For every zone of the fetched manifest: a recorded router list is in the table or fetched
now, and a zone that holds segments has routers or is fetched as a whole now. -/
def KeepsContent : Prop :=
  ∀ manifest, tick.answers.versions = .ok manifest → ∀ z ∈ manifest.validZones,
    (s.client.localVersions.lookup (zoneRoutersKey z) ≠ none →
      z ∈ s.edgeTable.zoneToRouters ∨ tickRouters zid s tick manifest z ≠ none) ∧
    (held (tickClaims zid s tick manifest ++ zoneClaims s.client.log) z ≠ ∅ →
      Served zid s tick manifest z)

end Condition

/-! ## What holds along every run -/

namespace RzidClient.ZoneView

/-- Versions are recorded together with the list, and a zone's routers are the last list. -/
structure Recorded (v : ZoneView) : Prop where
  routersVersion : v.routersVersion = v.lastRouters.map Prod.fst
  segmentsVersion : v.segmentsVersion = v.lastSegments.map Prod.fst
  routersList : v.routers ≠ none → v.routers = v.lastRouters.map Prod.snd

theorem recorded_turn {v : ZoneView} (h : v.Recorded)
    (routers segments : Option (UInt64 × List String)) : (v.turn routers segments).Recorded where
  routersVersion := by
    cases routers with
    | none => exact h.routersVersion
    | some r => rfl
  segmentsVersion := by
    cases segments with
    | none => exact h.segmentsVersion
    | some r => rfl
  routersList := by
    cases routers with
    | none => exact h.routersList
    | some r => exact fun _ => rfl

theorem recorded_unrouted {v : ZoneView} (h : v.Recorded) : { v with routers := none }.Recorded :=
  ⟨h.routersVersion, h.segmentsVersion, fun hne => absurd rfl hne⟩

end RzidClient.ZoneView

/-- What the refresh state says about one zone. -/
def RefreshState.view (s : RefreshState) (z : String) : RzidClient.ZoneView :=
  RzidClient.zoneView (s.edgeTable, s.client) z

section Tick

variable {zid : String} {s : RefreshState} {tick : Tick} {manifest : VersionManifest}

theorem tickRouters_of_unchanged (h : s.changed (edgeClient zid) manifest = ∅) (z : String) :
    tickRouters zid s tick manifest z = none := by
  simp [tickRouters, fetchedRouters, h]

theorem tickSegments_of_unchanged (h : s.changed (edgeClient zid) manifest = ∅) (z : String) :
    tickSegments zid s tick manifest z = none := by
  simp [tickSegments, fetchedSegments, h]

theorem tickClaims_of_unchanged (h : s.changed (edgeClient zid) manifest = ∅) :
    tickClaims zid s tick manifest = [] := by
  simp [tickClaims, RzidClient.fetchedClaims, fetchedSegments, h]

/-- If the result is thrown away, no zone of the manifest has routers or gets them. -/
theorem unrouted_of_discarded (hempty : (tickWork zid s tick manifest).1.zoneToRouters = ∅)
    {z : String} (hz : z ∈ manifest.validZones) :
    z ∉ s.edgeTable.zoneToRouters ∧ tickRouters zid s tick manifest z = none :=
  (edgeWork_routers_eq_empty_iff (some s.routing) manifest _ tick s.client).mp hempty z hz

theorem not_served_of_discarded (hempty : (tickWork zid s tick manifest).1.zoneToRouters = ∅)
    {z : String} (hz : z ∈ manifest.validZones) : ¬ Served zid s tick manifest z := by
  obtain ⟨hnot, hnone⟩ := unrouted_of_discarded hempty hz
  rintro (hin | ⟨hfetched, -⟩)
  · exact hnot hin
  · exact hfetched hnone

/-- Of a table that is thrown away only the client's part is kept. -/
theorem view_of_discarded (hnext : refreshTick (edgeClient zid) s tick =
      { s with client := (tickWork zid s tick manifest).2, manifest := some manifest })
    (z : String) :
    (refreshTick (edgeClient zid) s tick).view z =
      { RzidClient.zoneView (tickWork zid s tick manifest) z with
        routers := s.edgeTable.zoneToRouters.lookup z } := by
  rw [hnext]
  rfl

theorem view_refreshTick_of_mem (hversions : tick.answers.versions = .ok manifest) {z : String}
    (hz : z ∈ manifest.validZones) :
    (refreshTick (edgeClient zid) s tick).view z =
      (s.view z).turn (tickRouters zid s tick manifest z) (tickSegments zid s tick manifest z) := by
  have hwork := zoneView_edgeWork_of_mem (some s.routing) manifest
    (s.changed (edgeClient zid) manifest) tick s.client hz
  rcases edgeOutcome zid s tick hversions with
    ⟨hchanged, hnext⟩ | ⟨hchanged, hempty, hnext⟩ | ⟨hchanged, hsome, hops, hnext⟩
  · rw [hnext, tickRouters_of_unchanged hchanged, tickSegments_of_unchanged hchanged]
    rfl
  · -- only the client's part of the work is kept, and it has no router list for the zone
    obtain ⟨hnot, hnone⟩ := unrouted_of_discarded hempty hz
    rw [view_of_discarded hnext z]
    unfold tickWork
    rw [hwork]
    unfold tickRouters at hnone ⊢
    rw [hnone]
    rfl
  · rw [hnext]
    exact hwork

variable (zid s) in
theorem view_refreshTick_of_notMem (hversions : tick.answers.versions = .ok manifest) {z : String}
    (hz : z ∉ manifest.validZones) :
    (refreshTick (edgeClient zid) s tick).view z = s.view z ∨
      (refreshTick (edgeClient zid) s tick).view z = { s.view z with routers := none } := by
  have hwork := zoneView_edgeWork_of_notMem (some s.routing) manifest
    (s.changed (edgeClient zid) manifest) tick s.client hz
  rcases edgeOutcome zid s tick hversions with
    ⟨hchanged, hnext⟩ | ⟨hchanged, hempty, hnext⟩ | ⟨hchanged, hsome, hops, hnext⟩
  · rw [hnext]
    exact Or.inl rfl
  -- the failed sync keeps its client state, and drops the tables it has built
  · rw [view_of_discarded hnext z]
    unfold tickWork
    rw [hwork]
    exact Or.inl rfl
  · rw [hnext]
    exact Or.inr hwork

theorem recorded_refreshTick (h : ∀ z, (s.view z).Recorded) (z : String) :
    ((refreshTick (edgeClient zid) s tick).view z).Recorded := by
  cases hversions : tick.answers.versions with
  | error e =>
    rw [refreshTick_of_error hversions]
    exact h z
  | ok manifest =>
    by_cases hz : z ∈ manifest.validZones
    · rw [view_refreshTick_of_mem hversions hz]
      exact RzidClient.ZoneView.recorded_turn (h z) _ _
    · rcases view_refreshTick_of_notMem zid s hversions hz with hview | hview
      · rw [hview]
        exact h z
      · rw [hview]
        exact RzidClient.ZoneView.recorded_unrouted (h z)

theorem zoneClaims_refreshTick (hversions : tick.answers.versions = .ok manifest) :
    zoneClaims (refreshTick (edgeClient zid) s tick).client.log =
      tickClaims zid s tick manifest ++ zoneClaims s.client.log := by
  have hwork := zoneClaims_edgeWork (some s.routing) manifest
    (s.changed (edgeClient zid) manifest) tick s.client
  rcases edgeOutcome zid s tick hversions with
    ⟨hchanged, hnext⟩ | ⟨hchanged, hempty, hnext⟩ | ⟨hchanged, hsome, hops, hnext⟩
  · rw [hnext, tickClaims_of_unchanged hchanged]
    rfl
  · rw [hnext]
    exact hwork
  · rw [hnext]
    exact hwork

/-! ## The segments of one zone after a tick -/

theorem exact_dropUnrouted {st : EdgeState} {claims : List (String × List String)} {z : String}
    (hz : z ∈ st.zoneToRouters) (h : Exact st.segmentToZone claims z) :
    Exact (RzidClient.dropUnrouted st).segmentToZone claims z := by
  intro seg
  rw [lookup_dropUnrouted, and_iff_left hz]
  exact h seg

theorem exact_refreshTick_of_served
    (hexact : ∀ z ∈ s.edgeTable.zoneToRouters,
      Exact s.edgeTable.segmentToZone (zoneClaims s.client.log) z)
    (hversions : tick.answers.versions = .ok manifest) {z : String}
    (hz : z ∈ manifest.validZones) (hserved : Served zid s tick manifest z) :
    Exact (refreshTick (edgeClient zid) s tick).edgeTable.segmentToZone
      (zoneClaims (refreshTick (edgeClient zid) s tick).client.log) z := by
  rcases edgeOutcome zid s tick hversions with
    ⟨hchanged, hnext⟩ | ⟨hchanged, hempty, hnext⟩ | ⟨hchanged, hsome, hops, hnext⟩
  -- nothing changed, so nothing was fetched
  · rcases hserved with hin | ⟨hfetched, -⟩
    · rw [hnext]
      exact hexact z hin
    · exact absurd (tickRouters_of_unchanged hchanged z) hfetched
  · exact absurd hserved (not_served_of_discarded hempty hz)
  · rw [hnext]
    apply exact_dropUnrouted
    · apply (mem_edgeWork_routers _ _ _ _ _ _).mpr
      exact ⟨hz, hserved.imp_right And.left⟩
    · apply edgeExact_edgeWork _ _ _ _ _ hz
      exact hserved.imp (hexact z) And.right

/-- No segment points at a zone of the manifest that is not served. -/
theorem unmapped_refreshTick_of_not_served (hshape : EdgeShape s)
    (hversions : tick.answers.versions = .ok manifest) {z : String}
    (hnot : ¬ Served zid s tick manifest z) (seg : String) :
    (refreshTick (edgeClient zid) s tick).edgeTable.segmentToZone.lookup seg ≠ some z := by
  intro hseg
  rcases edgeOutcome zid s tick hversions with
    ⟨hchanged, hnext⟩ | ⟨hchanged, hempty, hnext⟩ | ⟨hchanged, hsome, hops, hnext⟩
  · rw [hnext] at hseg
    exact hnot (Or.inl (hshape.routed seg z hseg))
  · rw [hnext] at hseg
    exact hnot (Or.inl (hshape.routed seg z hseg))
  · rw [hnext] at hseg
    obtain ⟨hmapped, hrouters⟩ := (lookup_dropUnrouted _ _ _).mp hseg
    obtain ⟨-, hbefore | hfetched⟩ := (mem_edgeWork_routers _ _ _ _ _ _).mp hrouters
    · exact hnot (Or.inl hbefore)
    -- mapped and routed in the new table means served
    · rcases mapped_edgeWork _ _ _ _ _ hmapped with hold | hsegments
      · exact hnot (Or.inl (hshape.routed seg z hold))
      · exact hnot (Or.inr ⟨hfetched, hsegments⟩)

/-! ## Coherence of one zone after a tick -/

theorem lastZoneSegments_ne_none_of_mem {log : List Installed} {z : String} {items : List String}
    (h : (z, items) ∈ zoneClaims log) : lastZoneSegments log z ≠ none := by
  unfold zoneClaims at h
  unfold lastZoneSegments
  obtain ⟨entry, hentry, hclaim⟩ := List.mem_filterMap.mp h
  rw [ne_eq, List.findSome?_eq_none_iff]
  intro hnone
  have hthis := hnone entry hentry
  cases entry with
  | zoneSegments zone version segments =>
    cases hclaim
    simp at hthis
  | zoneRouters zone version routers => cases hclaim
  | zoneShards version shards => cases hclaim
  | shardSegments shard version segments => cases hclaim

theorem held_eq_empty_of_last_none {log : List Installed} {z : String}
    (h : lastZoneSegments log z = none) : held (zoneClaims log) z = ∅ := by
  apply Finset.eq_empty_of_forall_notMem
  intro a ha
  obtain ⟨items, hmem, -⟩ := exists_list_of_mem_held ha
  exact lastZoneSegments_ne_none_of_mem hmem h

variable (zid) in
/-- The recorded router list is in the table iff it was there or is fetched. -/
theorem routers_coherent_iff {z : String} (hrecorded : (s.view z).Recorded)
    (hversions : tick.answers.versions = .ok manifest) (hz : z ∈ manifest.validZones) :
    (∀ version, ((refreshTick (edgeClient zid) s tick).view z).routersVersion = some version →
      ∃ list, ((refreshTick (edgeClient zid) s tick).view z).lastRouters = some (version, list) ∧
        ((refreshTick (edgeClient zid) s tick).view z).routers = some list) ↔
    ((s.view z).routersVersion ≠ none →
      z ∈ s.edgeTable.zoneToRouters ∨ tickRouters zid s tick manifest z ≠ none) := by
  rw [view_refreshTick_of_mem hversions hz]
  cases hf : tickRouters zid s tick manifest z with
  -- a fetched list is recorded and stored together
  | some r =>
    refine iff_of_true ?_ (fun _ => Or.inr (Option.some_ne_none r))
    intro version hversion
    cases hversion
    exact ⟨r.2, rfl, rfl⟩
  | none =>
    change (∀ version, (s.view z).routersVersion = some version →
      ∃ list, (s.view z).lastRouters = some (version, list) ∧ (s.view z).routers = some list) ↔ _
    -- nothing fetched: the recorded list has to be there from before
    have hmem : z ∈ s.edgeTable.zoneToRouters ↔ (s.view z).routers ≠ none := by
      rw [← Finmap.lookup_isSome, Option.isSome_iff_ne_none]
      rfl
    rw [hmem, hrecorded.routersVersion]
    have hlist := hrecorded.routersList
    cases hlast : (s.view z).lastRouters with
    | none => simp
    | some r =>
      rw [hlast] at hlist
      simp only [ne_eq, Option.map_some, Option.some.injEq, reduceCtorEq, not_false_eq_true,
        forall_const, not_true_eq_false, or_false] at hlist ⊢
      constructor
      · intro h hnone
        obtain ⟨list, -, hrouters⟩ := h r.1 rfl
        rw [hnone] at hrouters
        cases hrouters
      · rintro h version rfl
        exact ⟨r.2, rfl, hlist h⟩

/-- The segments of the recorded list are in the table iff the zone is served or has none. -/
theorem segments_coherent_iff {z : String} (hshape : EdgeShape s)
    (hexact : ∀ z ∈ s.edgeTable.zoneToRouters,
      Exact s.edgeTable.segmentToZone (zoneClaims s.client.log) z)
    (hrecorded : (s.view z).Recorded)
    (hversions : tick.answers.versions = .ok manifest) (hz : z ∈ manifest.validZones) :
    (∀ version, ((refreshTick (edgeClient zid) s tick).view z).segmentsVersion = some version →
      (∃ list, ((refreshTick (edgeClient zid) s tick).view z).lastSegments =
        some (version, list)) ∧
      Exact (refreshTick (edgeClient zid) s tick).edgeTable.segmentToZone
        (zoneClaims (refreshTick (edgeClient zid) s tick).client.log) z) ↔
    (held (tickClaims zid s tick manifest ++ zoneClaims s.client.log) z ≠ ∅ →
      Served zid s tick manifest z) := by
  have hview : ((refreshTick (edgeClient zid) s tick).view z).Recorded := by
    rw [view_refreshTick_of_mem hversions hz]
    exact RzidClient.ZoneView.recorded_turn hrecorded _ _
  rw [← zoneClaims_refreshTick hversions, hview.segmentsVersion]
  by_cases hserved : Served zid s tick manifest z
  · refine iff_of_true ?_ (fun _ => hserved)
    intro version hversion
    obtain ⟨r, hr, rfl⟩ := Option.map_eq_some_iff.mp hversion
    exact ⟨⟨r.2, hr⟩, exact_refreshTick_of_served hexact hversions hz hserved⟩
  · rw [exact_iff_of_unowned (unmapped_refreshTick_of_not_served hshape hversions hserved)]
    simp only [hserved, imp_false, not_not]
    constructor
    · intro h
      cases hlast : ((refreshTick (edgeClient zid) s tick).view z).lastSegments with
      | none => exact held_eq_empty_of_last_none hlast
      | some r => exact (h r.1 (by rw [hlast]; rfl)).2
    · intro hheld version hversion
      obtain ⟨r, hr, rfl⟩ := Option.map_eq_some_iff.mp hversion
      exact ⟨⟨r.2, hr⟩, hheld⟩

end Tick

/-! ## Runs -/

/-- What a coherent run keeps: a zone with routers always has exactly its segments. -/
structure EdgeInvariant (s : RefreshState) : Prop where
  shape : EdgeShape s
  recorded : ∀ z, (s.view z).Recorded
  exact : ∀ z ∈ s.edgeTable.zoneToRouters,
    Exact s.edgeTable.segmentToZone (zoneClaims s.client.log) z
  coherent : EdgeCoherent s

theorem edgeInvariant_init : EdgeInvariant (RefreshState.init .edge) where
  shape := edgeShape_init
  recorded _ := ⟨rfl, rfl, fun h => absurd rfl h⟩
  exact := fun _ hz => absurd hz Finmap.notMem_empty
  coherent := ⟨EdgeState.new, rfl, nofun⟩

section Run

variable {zid : String} {s : RefreshState} {tick : Tick}

theorem coherentAfter_iff (h : EdgeInvariant s) :
    CoherentAfter zid s tick ↔ KeepsContent zid s tick := by
  unfold CoherentAfter KeepsContent
  cases hversions : tick.answers.versions with
  | error e =>
    rw [refreshTick_of_error hversions]
    exact iff_of_true h.coherent (fun _ => nofun)
  | ok manifest =>
    have hshape := edgeShape_refreshTick zid s tick h.shape
    -- every tick that gets a manifest keeps it, whatever becomes of the sync
    have hlatest : (refreshTick (edgeClient zid) s tick).manifest = some manifest := by
      rcases edgeOutcome zid s tick hversions with ⟨-, hnext⟩ | ⟨-, -, hnext⟩ | ⟨-, -, hops, hnext⟩
        <;> rw [hnext]
    have hzones : EdgeCoherent (refreshTick (edgeClient zid) s tick) ↔
        ∀ z ∈ manifest.validZones,
          ZoneCoherent (refreshTick (edgeClient zid) s tick).edgeTable
            (refreshTick (edgeClient zid) s tick).client z := by
      unfold EdgeCoherent
      rw [hshape.edge, hlatest]
      simp
    rw [hzones]
    simp only [Except.ok.injEq, forall_eq']
    refine forall₂_congr (fun z hz => ?_)
    rw [← segments_coherent_iff h.shape h.exact (h.recorded z) hversions hz]
    have hrouters := routers_coherent_iff zid (h.recorded z) hversions hz
    constructor
    · exact fun hz => ⟨hrouters.mp hz.routers, hz.segments⟩
    · exact fun hz => ⟨hz.2, hrouters.mpr hz.1⟩

/-- A sync whose result is thrown away has not fetched a single segment, if the run stays
coherent. -/
theorem tickClaims_empty_of_discarded {manifest : VersionManifest}
    (hversions : tick.answers.versions = .ok manifest)
    (hempty : (tickWork zid s tick manifest).1.zoneToRouters = ∅)
    (hkeeps : KeepsContent zid s tick) {claim : String × List String}
    (hclaim : claim ∈ tickClaims zid s tick manifest) (seg : String) : seg ∉ claim.2 := by
  intro hseg
  have hzones := RzidClient.map_fst_fetchedClaims tick.answers (s.changed (edgeClient zid) manifest)
    (tick.zoneOrder.toList manifest.validZones)
  have hnodup : ((tickClaims zid s tick manifest).map Prod.fst).Nodup := by
    unfold tickClaims
    rw [hzones, List.nodup_reverse]
    exact (tick.zoneOrder.enumerates _).nodup.filter _
  -- the segment is held by one of the zones that claim it
  obtain ⟨z, hz, hheld⟩ : ∃ z ∈ (tickClaims zid s tick manifest).map Prod.fst,
      seg ∈ held (tickClaims zid s tick manifest ++ zoneClaims s.client.log) z :=
    exists_mem_held_append hnodup hclaim hseg
  have hvalid : z ∈ manifest.validZones := by
    unfold tickClaims at hz
    rw [hzones, List.mem_reverse, List.mem_filter, mem_zoneOrder] at hz
    exact hz.1
  apply not_served_of_discarded hempty hvalid
  exact (hkeeps manifest hversions z hvalid).2 (Finset.ne_empty_of_mem hheld)

theorem exact_refreshTick (h : EdgeInvariant s) (hkeeps : KeepsContent zid s tick) :
    ∀ z ∈ (refreshTick (edgeClient zid) s tick).edgeTable.zoneToRouters,
      Exact (refreshTick (edgeClient zid) s tick).edgeTable.segmentToZone
        (zoneClaims (refreshTick (edgeClient zid) s tick).client.log) z := by
  intro z hz
  cases hversions : tick.answers.versions with
  | error e =>
    rw [refreshTick_of_error hversions] at hz ⊢
    exact h.exact z hz
  | ok manifest =>
    rcases edgeOutcome zid s tick hversions with
      ⟨hchanged, hnext⟩ | ⟨hchanged, hempty, hnext⟩ | ⟨hchanged, hsome, hops, hnext⟩
    · rw [hnext] at hz ⊢
      exact h.exact z hz
    · -- the table stays, and nothing was claimed from it
      rw [zoneClaims_refreshTick hversions]
      rw [hnext] at hz ⊢
      have hnew : z ∉ (tickClaims zid s tick manifest).map Prod.fst := by
        intro hmem
        unfold tickClaims at hmem
        rw [RzidClient.map_fst_fetchedClaims, List.mem_reverse, List.mem_filter,
          mem_zoneOrder] at hmem
        exact (unrouted_of_discarded hempty hmem.1).1 hz
      intro seg
      rw [mem_held_append hnew, and_iff_left (fun claim hclaim =>
        tickClaims_empty_of_discarded hversions hempty hkeeps hclaim seg)]
      exact h.exact z hz seg
    · have hrouters : z ∈ (tickWork zid s tick manifest).1.zoneToRouters := by
        rw [hnext] at hz
        exact hz
      have hvalid := ((mem_edgeWork_routers _ _ _ _ _ _).mp hrouters).1
      by_cases hserved : Served zid s tick manifest z
      · exact exact_refreshTick_of_served h.exact hversions hvalid hserved
      · rw [exact_iff_of_unowned
          (unmapped_refreshTick_of_not_served h.shape hversions hserved),
          zoneClaims_refreshTick hversions]
        by_contra hheld
        exact hserved ((hkeeps manifest hversions z hvalid).2 hheld)

theorem edgeInvariant_refreshTick (h : EdgeInvariant s) (hafter : CoherentAfter zid s tick) :
    EdgeInvariant (refreshTick (edgeClient zid) s tick) where
  shape := edgeShape_refreshTick zid s tick h.shape
  recorded := recorded_refreshTick h.recorded
  exact := exact_refreshTick h ((coherentAfter_iff h).mp hafter)
  coherent := hafter

end Run

/-- A run of an edge router is coherent after every tick exactly when every tick keeps the content
behind the recorded versions. -/
theorem edge_coherence_iff (zid : String) (ticks : List Tick) :
    Transition.Meets (refreshStep (edgeClient zid)) (CoherentAfter zid)
        (RefreshState.init .edge) ticks ↔
      Transition.Meets (refreshStep (edgeClient zid)) (KeepsContent zid)
        (RefreshState.init .edge) ticks := by
  have hiff : ∀ s tick, EdgeInvariant s → (CoherentAfter zid s tick ↔ KeepsContent zid s tick) :=
    fun s tick h => coherentAfter_iff h
  refine Transition.meets_congr hiff ?_ edgeInvariant_init
  rintro s tick s' h hafter hstep
  cases hstep
  exact edgeInvariant_refreshTick h hafter

/-! ## A zone without segments

In the first tick zone `b` has its segment list fetched but not its router list; the second tick
fetches the routers, and does not ask for the segments again. -/

/-- RzID answers with version 1, and routers only for the zones in `routed`. -/
def firstAnswers (routed : List String) : Tick where
  answers :=
    { versions := .ok ⟨((((∅ : FiniteMap String UInt64).insert "zones/a/routers" 1).insert
        "zones/a/segments" 1).insert "zones/b/routers" 1).insert "zones/b/segments" 1⟩
      zoneRouters := fun zone =>
        if zone ∈ routed then .ok (1, ["router-" ++ zone])
        else .error (.http "zone routers: timeout")
      zoneSegments := fun zone => .ok (1, ["segment-" ++ zone])
      zoneShards := fun _ => .error (.http "zone shards: timeout")
      shardSegments := fun _ => .error (.http "shard segments: timeout") }
  zoneOrder := Iteration.ascending String
  topologyOrder := Iteration.ascending String
  shardOrder := Iteration.ascending String

theorem recorded_segments_missing :
    ¬ Transition.Meets (refreshStep (edgeClient "")) (CoherentAfter "")
        (RefreshState.init .edge) [firstAnswers ["a"], firstAnswers ["a", "b"]] := by
  rintro ⟨-, hrest⟩
  obtain ⟨st, hst, hcoherent⟩ := (hrest _ rfl).1
  have hzone := hcoherent _ rfl "b" (by decide)
  obtain ⟨-, hexact⟩ := hzone.segments 1 (by decide)
  have hmapped := (hexact "segment-b").mpr (by decide)
  have hunmapped : (refreshTick (edgeClient "")
      (refreshTick (edgeClient "") (RefreshState.init .edge) (firstAnswers ["a"]))
      (firstAnswers ["a", "b"])).edgeTable.segmentToZone.lookup "segment-b" = none := by decide
  unfold RefreshState.edgeTable at hunmapped
  rw [hst] at hunmapped
  change st.segmentToZone.lookup "segment-b" = none at hunmapped
  rw [hunmapped] at hmapped
  cases hmapped

end RzRouter
