import RzRouter.Refresh

/-!
# What a tick does with the result of a sync

In both modes a tick ends in one of four ways: no manifest, nothing changed, a failed sync whose
recorded versions stay, or a published table.
-/

namespace RzRouter

/-- The keys that a tick sees as changed, for a given manifest. -/
def RefreshState.changed (s : RefreshState) (client : RzidClient) (manifest : VersionManifest) :
    Finset String :=
  client.detectChanges manifest s.client.localVersions

/-- The sync of the client's mode, as a tick calls it. -/
def RefreshState.sync (s : RefreshState) (client : RzidClient) (manifest : VersionManifest)
    (tick : Tick) : Except RZError (Option RoutingSnapshot) × ClientState :=
  match client.mode with
  | .edge =>
      RzidClient.syncEdgeState (some s.routing) manifest (s.changed client manifest) tick s.client
  | .zone =>
      client.syncZoneState (some s.routing) manifest (s.changed client manifest) tick s.client

/-- The tick publishes a table. -/
def Publishes (client : RzidClient) (s : RefreshState) (tick : Tick) : Prop :=
  ∃ snapshot, (client.syncRoutingState (some s.routing) tick s.client).1 = .ok (some snapshot)

section

variable {client : RzidClient} {s : RefreshState} {tick : Tick} {manifest : VersionManifest}
  {c : ClientState}

theorem latestManifest_of_ok (h : tick.answers.versions = .ok manifest) :
    tick.latestManifest s.manifest = some manifest := by
  unfold Tick.latestManifest
  rw [h]

theorem refreshTick_of_error {e : RZError} (h : tick.answers.versions = .error e) :
    refreshTick client s tick = s := by
  unfold refreshTick RzidClient.syncRoutingState Tick.latestManifest
  simp only [h]

theorem not_publishes_of_error {e : RZError} (h : tick.answers.versions = .error e) :
    ¬ Publishes client s tick := by
  rintro ⟨snapshot, hsnapshot⟩
  unfold RzidClient.syncRoutingState at hsnapshot
  rw [h] at hsnapshot
  cases hsnapshot

theorem syncRoutingState_of_unchanged (h : tick.answers.versions = .ok manifest)
    (hchanged : s.changed client manifest = ∅) :
    client.syncRoutingState (some s.routing) tick s.client = (.ok none, s.client) := by
  unfold RefreshState.changed at hchanged
  unfold RzidClient.syncRoutingState
  simp only [h, hchanged, if_true]

theorem syncRoutingState_of_changed (h : tick.answers.versions = .ok manifest)
    (hchanged : s.changed client manifest ≠ ∅) :
    client.syncRoutingState (some s.routing) tick s.client =
      match s.sync client manifest tick with
      | (.ok (some snapshot), c) =>
          (.ok (some snapshot), { c with hops := c.hops.retireUnused snapshot.getAllHopIds })
      | (result, c) => (result, c) := by
  unfold RefreshState.changed at hchanged
  unfold RzidClient.syncRoutingState RefreshState.sync
  simp only [h, if_neg hchanged]
  cases client.mode with
  | edge =>
    simp only [RefreshState.changed]
    rcases RzidClient.syncEdgeState (some s.routing) manifest _ tick s.client with
      ⟨_ | _ | _, _⟩ <;> rfl
  | zone =>
    simp only [RefreshState.changed]
    rcases client.syncZoneState (some s.routing) manifest _ tick s.client with
      ⟨_ | _ | _, _⟩ <;> rfl

theorem refreshTick_of_unchanged (h : tick.answers.versions = .ok manifest)
    (hchanged : s.changed client manifest = ∅) :
    refreshTick client s tick = { s with manifest := some manifest } := by
  unfold refreshTick
  rw [syncRoutingState_of_unchanged h hchanged, latestManifest_of_ok h]

theorem refreshTick_of_failed (h : tick.answers.versions = .ok manifest)
    (hchanged : s.changed client manifest ≠ ∅) {e : RZError}
    (hsync : s.sync client manifest tick = (.error e, c)) :
    refreshTick client s tick = { s with client := c, manifest := some manifest } := by
  unfold refreshTick
  rw [syncRoutingState_of_changed h hchanged, hsync, latestManifest_of_ok h]

theorem refreshTick_of_published (h : tick.answers.versions = .ok manifest)
    (hchanged : s.changed client manifest ≠ ∅) {snapshot : RoutingSnapshot}
    (hsync : s.sync client manifest tick = (.ok (some snapshot), c)) :
    refreshTick client s tick =
      { routing := snapshot
        client := { c with hops := c.hops.retireUnused snapshot.getAllHopIds }
        manifest := some manifest } := by
  unfold refreshTick
  rw [syncRoutingState_of_changed h hchanged, hsync, latestManifest_of_ok h]

theorem not_publishes_of_unchanged (h : tick.answers.versions = .ok manifest)
    (hchanged : s.changed client manifest = ∅) : ¬ Publishes client s tick := by
  rintro ⟨snapshot, hsnapshot⟩
  rw [syncRoutingState_of_unchanged h hchanged] at hsnapshot
  cases hsnapshot

theorem not_publishes_of_failed (h : tick.answers.versions = .ok manifest)
    (hchanged : s.changed client manifest ≠ ∅) {e : RZError}
    (hsync : s.sync client manifest tick = (.error e, c)) : ¬ Publishes client s tick := by
  rintro ⟨snapshot, hsnapshot⟩
  rw [syncRoutingState_of_changed h hchanged, hsync] at hsnapshot
  cases hsnapshot

theorem publishes_of_published (h : tick.answers.versions = .ok manifest)
    (hchanged : s.changed client manifest ≠ ∅) {snapshot : RoutingSnapshot}
    (hsync : s.sync client manifest tick = (.ok (some snapshot), c)) :
    Publishes client s tick := by
  refine ⟨snapshot, ?_⟩
  rw [syncRoutingState_of_changed h hchanged, hsync]

end

end RzRouter
