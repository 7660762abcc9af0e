import RzRouter.Sync.Edge
import RzRouter.Sync.Tick

/-!
# Ticks of an edge router

What a tick can do to the state of the refresh task, and the facts that hold along every run
whatever RzID answers.
-/

namespace RzRouter

open Ownership

/-- The client of an edge router; the zone id is not used in this mode. -/
def edgeClient (zoneId : String) : RzidClient := ⟨.edge, zoneId⟩

/-- The published edge table. -/
def RefreshState.edgeTable (s : RefreshState) : EdgeState := RzidClient.currentEdge (some s.routing)

section Tick

variable (zid : String) (s : RefreshState) (tick : Tick)

/-- Working state at the end of the zone loop of a tick. -/
def tickWork (manifest : VersionManifest) : EdgeState × ClientState :=
  edgeWork (some s.routing) manifest (s.changed (edgeClient zid) manifest) tick s.client

theorem sync_edge_eq (manifest : VersionManifest) :
    s.sync (edgeClient zid) manifest tick =
      if (tickWork zid s tick manifest).1.zoneToRouters = ∅ then
        (.error (.noRoute "empty edge state after sync"), (tickWork zid s tick manifest).2)
      else
        (.ok (some (.edge (RzidClient.dropUnrouted (tickWork zid s tick manifest).1))),
          (tickWork zid s tick manifest).2) :=
  syncEdgeState_eq (some s.routing) manifest (s.changed (edgeClient zid) manifest) tick s.client

/-- How a tick with a manifest can end. -/
inductive EdgeOutcome (manifest : VersionManifest) : Prop
  | unchanged (hchanged : s.changed (edgeClient zid) manifest = ∅)
      (hnext : refreshTick (edgeClient zid) s tick = { s with manifest := some manifest })
  | discarded (hchanged : s.changed (edgeClient zid) manifest ≠ ∅)
      (hempty : (tickWork zid s tick manifest).1.zoneToRouters = ∅)
      (hnext : refreshTick (edgeClient zid) s tick =
        { s with client := (tickWork zid s tick manifest).2, manifest := some manifest })
  | published (hchanged : s.changed (edgeClient zid) manifest ≠ ∅)
      (hsome : (tickWork zid s tick manifest).1.zoneToRouters ≠ ∅) (hops : HopManager)
      (hnext : refreshTick (edgeClient zid) s tick =
        { routing := .edge (RzidClient.dropUnrouted (tickWork zid s tick manifest).1)
          client := { (tickWork zid s tick manifest).2 with hops := hops }
          manifest := some manifest })

theorem edgeOutcome {manifest : VersionManifest} (h : tick.answers.versions = .ok manifest) :
    EdgeOutcome zid s tick manifest := by
  by_cases hchanged : s.changed (edgeClient zid) manifest = ∅
  · exact EdgeOutcome.unchanged hchanged (refreshTick_of_unchanged h hchanged)
  · have hsync := sync_edge_eq zid s tick manifest
    by_cases hempty : (tickWork zid s tick manifest).1.zoneToRouters = ∅
    · rw [if_pos hempty] at hsync
      exact EdgeOutcome.discarded hchanged hempty (refreshTick_of_failed h hchanged hsync)
    · rw [if_neg hempty] at hsync
      exact EdgeOutcome.published hchanged hempty _ (refreshTick_of_published h hchanged hsync)

end Tick

/-! ## Every table of an edge router is an edge table without dangling segments -/

/-- The published table is an edge table, and every segment in it points at a zone that has a
router list. -/
structure EdgeShape (s : RefreshState) : Prop where
  edge : s.routing = .edge s.edgeTable
  routed : ∀ seg z, s.edgeTable.segmentToZone.lookup seg = some z → z ∈ s.edgeTable.zoneToRouters

theorem edgeShape_init : EdgeShape (RefreshState.init .edge) where
  edge := rfl
  routed := by
    intro seg z h
    cases h

theorem edgeShape_refreshTick (zid : String) (s : RefreshState) (tick : Tick) (h : EdgeShape s) :
    EdgeShape (refreshTick (edgeClient zid) s tick) := by
  cases hversions : tick.answers.versions with
  | error e =>
    rw [refreshTick_of_error hversions]
    exact h
  | ok manifest =>
    rcases edgeOutcome zid s tick hversions with ⟨-, hnext⟩ | ⟨-, -, hnext⟩ | ⟨-, -, hops, hnext⟩
    · rw [hnext]
      exact ⟨h.edge, h.routed⟩
    · rw [hnext]
      exact ⟨h.edge, h.routed⟩
    · rw [hnext]
      refine ⟨rfl, fun seg z hz => ?_⟩
      exact ((lookup_dropUnrouted _ seg z).mp hz).2

end RzRouter
