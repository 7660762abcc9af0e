import RzRouter.Sync.EdgeTick
import Mathlib.Data.String.Basic

/-!
# Zones that leave the manifest

`sync_edge_state` drops the zones that the manifest no longer names, but it runs only if some
watched key changed and its result is published only if a zone with routers is left.  A left zone
disappears from the table exactly when both hold.
-/

namespace RzRouter

/-- The manifest has a key `zones/<zone>/...`. -/
def VersionManifest.Names (manifest : VersionManifest) (zone : String) : Prop :=
  ∃ key ∈ manifest.versions, Text.startsWith key ("zones/" ++ zone ++ "/") = true

/-- The zone is a key of `zone_to_routers` or a value of `segment_to_zone`. -/
def EdgeState.Mentions (st : EdgeState) (zone : String) : Prop :=
  zone ∈ st.zoneToRouters ∨ ∃ segment, st.segmentToZone.lookup segment = some zone

/-- After the tick, if it fetched a manifest, the table mentions only zones named in it. -/
def ForgetsLeftZones (zid : String) (s : RefreshState) (tick : Tick) : Prop :=
  ∀ manifest, tick.answers.versions = .ok manifest →
    ∃ st, (refreshTick (edgeClient zid) s tick).routing = .edge st ∧
      ∀ zone, st.Mentions zone → manifest.Names zone

/-- If the table mentions a zone without keys in the fetched manifest, then it has no bare key
`zones/<zone>` either, some watched key changed, and a zone of the manifest has routers or gets
them in this tick. -/
def RemovalPublished (zid : String) (s : RefreshState) (tick : Tick) : Prop :=
  ∀ manifest, tick.answers.versions = .ok manifest →
    ∀ zone, s.edgeTable.Mentions zone → ¬ manifest.Names zone →
      zone ∉ manifest.validZones ∧ s.changed (edgeClient zid) manifest ≠ ∅ ∧
        ∃ other ∈ manifest.validZones, other ∈ s.edgeTable.zoneToRouters ∨
          fetchedRouters tick.answers (s.changed (edgeClient zid) manifest) other ≠ none

theorem names_of_mem_changed (zid : String) (s : RefreshState) (manifest : VersionManifest)
    {zone tail : String}
    (h : "zones/" ++ zone ++ "/" ++ tail ∈ s.changed (edgeClient zid) manifest) :
    manifest.Names zone := by
  unfold RefreshState.changed RzidClient.detectChanges at h
  have hkey := (Finset.mem_filter.mp (Finset.mem_filter.mp h).1).1
  exact ⟨_, Finmap.mem_keys.mp hkey, (Text.startsWith_iff _ _).mpr ⟨tail, rfl⟩⟩

/-- Only a key of the manifest is ever fetched. -/
theorem names_of_fetchedRouters (zid : String) (s : RefreshState) (manifest : VersionManifest)
    (answers : RzidAnswers) {zone : String}
    (h : fetchedRouters answers (s.changed (edgeClient zid) manifest) zone ≠ none) :
    manifest.Names zone := by
  unfold fetchedRouters at h
  have hkey : zoneRoutersKey zone ∈ s.changed (edgeClient zid) manifest := by
    by_contra hnot
    exact h (if_neg hnot)
  have hsplit : "zones/" ++ zone ++ "/" ++ "routers" ∈ s.changed (edgeClient zid) manifest := by
    rw [String.append_assoc]
    exact hkey
  exact names_of_mem_changed zid s manifest hsplit

/-- The zones of a table without dangling segments are the ones with routers. -/
theorem mentions_dropUnrouted_iff (st : EdgeState) (zone : String) :
    (RzidClient.dropUnrouted st).Mentions zone ↔ zone ∈ st.zoneToRouters := by
  constructor
  · rintro (hrouters | ⟨segment, hsegment⟩)
    · exact hrouters
    · exact ((lookup_dropUnrouted st segment zone).mp hsegment).2
  · exact Or.inl

theorem mentions_iff {s : RefreshState} (h : EdgeShape s) (zone : String) :
    s.edgeTable.Mentions zone ↔ zone ∈ s.edgeTable.zoneToRouters := by
  constructor
  · rintro (hrouters | ⟨segment, hsegment⟩)
    · exact hrouters
    · exact h.routed segment zone hsegment
  · exact Or.inl

section Tick

variable {zid : String} {s : RefreshState} {tick : Tick} {manifest : VersionManifest}

/-- A tick that keeps the table is right only if the table is. -/
theorem forgetsLeftZones_iff_of_kept (h : EdgeShape s)
    (hversions : tick.answers.versions = .ok manifest)
    (hkept : (refreshTick (edgeClient zid) s tick).routing = s.routing) :
    ForgetsLeftZones zid s tick ↔ ∀ zone, s.edgeTable.Mentions zone → manifest.Names zone := by
  unfold ForgetsLeftZones
  rw [hkept, h.edge, hversions]
  constructor
  · intro hforgets
    obtain ⟨st, hst, hnames⟩ := hforgets manifest rfl
    cases hst
    exact hnames
  · rintro hnames _ ⟨⟩
    exact ⟨_, rfl, hnames⟩

/-- In a published table the zones are those of the manifest that had routers or got them. -/
theorem forgetsLeftZones_iff_of_published (hversions : tick.answers.versions = .ok manifest)
    (hpublished : (refreshTick (edgeClient zid) s tick).routing =
      .edge (RzidClient.dropUnrouted (tickWork zid s tick manifest).1)) :
    ForgetsLeftZones zid s tick ↔
      ∀ zone ∈ s.edgeTable.zoneToRouters, ¬ manifest.Names zone → zone ∉ manifest.validZones := by
  unfold ForgetsLeftZones
  rw [hpublished, hversions]
  constructor
  · intro hforgets zone hzone hnot hvalid
    obtain ⟨st, hst, hnames⟩ := hforgets manifest rfl
    cases hst
    apply hnot
    apply hnames zone
    rw [mentions_dropUnrouted_iff]
    exact (mem_edgeWork_routers _ manifest _ tick s.client zone).mpr ⟨hvalid, Or.inl hzone⟩
  · rintro hleft _ ⟨⟩
    refine ⟨_, rfl, fun zone hzone => ?_⟩
    rw [mentions_dropUnrouted_iff] at hzone
    obtain ⟨hvalid, hbefore | hfetched⟩ :=
      (mem_edgeWork_routers _ manifest _ tick s.client zone).mp hzone
    · by_contra hnot
      exact hleft zone hbefore hnot hvalid
    · exact names_of_fetchedRouters zid s manifest tick.answers hfetched

theorem forgetsLeftZones_iff (h : EdgeShape s) :
    ForgetsLeftZones zid s tick ↔ RemovalPublished zid s tick := by
  cases hversions : tick.answers.versions with
  | error e =>
    unfold ForgetsLeftZones RemovalPublished
    rw [hversions]
    exact iff_of_true (fun _ => nofun) (fun _ => nofun)
  | ok manifest =>
    have hcond : RemovalPublished zid s tick ↔
        ∀ zone ∈ s.edgeTable.zoneToRouters, ¬ manifest.Names zone →
          zone ∉ manifest.validZones ∧ s.changed (edgeClient zid) manifest ≠ ∅ ∧
            ∃ other ∈ manifest.validZones, other ∈ s.edgeTable.zoneToRouters ∨
              fetchedRouters tick.answers (s.changed (edgeClient zid) manifest) other ≠ none := by
      unfold RemovalPublished
      simp only [hversions, Except.ok.injEq, forall_eq', mentions_iff h]
    rw [hcond]
    rcases edgeOutcome zid s tick hversions with
      ⟨hchanged, hnext⟩ | ⟨hchanged, hempty, hnext⟩ | ⟨hchanged, hsome, hops, hnext⟩
    · -- the sync does not run
      rw [forgetsLeftZones_iff_of_kept h hversions (by rw [hnext])]
      simp only [mentions_iff h, hchanged, ne_eq, not_true_eq_false, false_and, and_false,
        imp_false, not_not]
    · -- its result is thrown away
      rw [forgetsLeftZones_iff_of_kept h hversions (by rw [hnext])]
      have hnone := (edgeWork_routers_eq_empty_iff (some s.routing) manifest _ tick s.client).mp
        hempty
      have hno : ¬ ∃ other ∈ manifest.validZones, other ∈ s.edgeTable.zoneToRouters ∨
          fetchedRouters tick.answers (s.changed (edgeClient zid) manifest) other ≠ none := by
        rintro ⟨other, hother, hbefore | hfetched⟩
        · exact (hnone other hother).1 hbefore
        · exact hfetched (hnone other hother).2
      simp only [mentions_iff h, hno, and_false, imp_false, not_not]
    · rw [forgetsLeftZones_iff_of_published hversions (by rw [hnext])]
      obtain ⟨other, hother⟩ : ∃ other, other ∈ (tickWork zid s tick manifest).1.zoneToRouters := by
        by_contra hno
        exact hsome ((FiniteMap.eq_empty_iff _).mpr (fun a ha => hno ⟨a, ha⟩))
      have hex := (mem_edgeWork_routers _ manifest _ tick s.client other).mp hother
      constructor
      · exact fun hleft zone hzone hnot =>
          ⟨hleft zone hzone hnot, hchanged, other, hex.1, hex.2⟩
      · exact fun hleft zone hzone hnot => (hleft zone hzone hnot).1

end Tick

/-- Left zones are forgotten in every tick of a run exactly when every tick that has one to forget
runs the sync and publishes its result. -/
theorem left_zones_forgotten_iff (zid : String) (ticks : List Tick) :
    Transition.Meets (refreshStep (edgeClient zid)) (ForgetsLeftZones zid)
        (RefreshState.init .edge) ticks ↔
      Transition.Meets (refreshStep (edgeClient zid)) (RemovalPublished zid)
        (RefreshState.init .edge) ticks := by
  have hiff : ∀ s tick, EdgeShape s →
      (ForgetsLeftZones zid s tick ↔ RemovalPublished zid s tick) :=
    fun s tick h => forgetsLeftZones_iff h
  refine Transition.meets_congr hiff ?_ edgeShape_init
  rintro s tick s' h - hstep
  cases hstep
  exact edgeShape_refreshTick zid s tick h

/-! ## A zone that stays

Both zones are published; then the keys of zone `b` leave the manifest and nothing else changes. -/

/-- RzID answers every router request, with version 1. -/
def routersOnly (versions : FiniteMap String UInt64) : Tick where
  answers :=
    { versions := .ok ⟨versions⟩
      zoneRouters := fun zone => .ok (1, ["router-" ++ zone])
      zoneSegments := fun _ => .error (.http "zone segments: timeout")
      zoneShards := fun _ => .error (.http "zone shards: timeout")
      shardSegments := fun _ => .error (.http "shard segments: timeout") }
  zoneOrder := Iteration.ascending String
  topologyOrder := Iteration.ascending String
  shardOrder := Iteration.ascending String

def onlyZoneA : FiniteMap String UInt64 := (∅ : FiniteMap String UInt64).insert "zones/a/routers" 1

def bothZones : FiniteMap String UInt64 := onlyZoneA.insert "zones/b/routers" 1

theorem removed_zone_stays :
    ¬ Transition.Meets (refreshStep (edgeClient "")) (ForgetsLeftZones "")
        (RefreshState.init .edge) [routersOnly bothZones, routersOnly onlyZoneA] := by
  rintro ⟨-, hrest⟩
  obtain ⟨st, hst, hnames⟩ := (hrest _ rfl).1 ⟨onlyZoneA⟩ rfl
  have hmentioned : "b" ∈ (refreshTick (edgeClient "")
      (refreshTick (edgeClient "") (RefreshState.init .edge) (routersOnly bothZones))
      (routersOnly onlyZoneA)).edgeTable.zoneToRouters := by decide
  unfold RefreshState.edgeTable at hmentioned
  rw [hst] at hmentioned
  obtain ⟨key, hkey, hstart⟩ := hnames "b" (Or.inl hmentioned)
  have hnone : ∀ key ∈ onlyZoneA.keys, Text.startsWith key ("zones/" ++ "b" ++ "/") = false := by
    decide
  rw [hnone key (Finmap.mem_keys.mpr hkey)] at hstart
  exact Bool.false_ne_true hstart

end RzRouter
