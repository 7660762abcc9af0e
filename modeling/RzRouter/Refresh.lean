import RzRouter.Library.Transition
import RzRouter.Rzid

/-!
# The refresh task (`lib.rs`, `run_refresh_task`)

A tick loads the published table, calls `sync_routing_state` and publishes a new table if there is
one.  `manifest` is the last manifest that was fetched; nothing in the code reads it, it is what
the statements about a tick compare the published table with.
-/

namespace RzRouter

/-- The state of the refresh task between two ticks. -/
structure RefreshState where
  routing : RoutingSnapshot
  client : ClientState
  manifest : Option VersionManifest

namespace RefreshState

/-- The state at start-up: an empty table of the router's mode, no recorded versions. -/
def init (mode : RouterMode) : RefreshState where
  routing :=
    match mode with
    | .edge => .edge EdgeState.new
    | .zone => .zone ZoneState.new
  client := ClientState.new
  manifest := none

end RefreshState

/-- The manifest after a tick. -/
def Tick.latestManifest (tick : Tick) (previous : Option VersionManifest) :
    Option VersionManifest :=
  match tick.answers.versions with
  | .ok manifest => some manifest
  | .error _ => previous

/-- One turn of the loop of `run_refresh_task`. -/
def refreshTick (client : RzidClient) (s : RefreshState) (tick : Tick) : RefreshState :=
  match client.syncRoutingState (some s.routing) tick s.client with
  | (.ok (some newState), c) =>
      { routing := newState, client := c, manifest := tick.latestManifest s.manifest }
  | (_, c) => { s with client := c, manifest := tick.latestManifest s.manifest }

/-- The refresh task as a transition system; every tick is enabled. -/
def refreshStep (client : RzidClient) (s : RefreshState) (tick : Tick) : Option RefreshState :=
  some (refreshTick client s tick)

end RzRouter
