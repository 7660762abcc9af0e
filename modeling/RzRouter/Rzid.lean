import RzRouter.Config
import RzRouter.HopManager
import RzRouter.Library.Text
import RzRouter.RoutingState

/-!
# The RzID client (`rzid.rs`)

One call of `sync_routing_state` talks to RzID through five kinds of requests; `RzidAnswers` says
how RzID answers each of them during the call.  The client's own state is the map of versions it
has recorded; the calls also create and retire hops.  `log` records what the sync functions
install, in the order of their debug lines (newest first).
-/

namespace RzRouter

/-- `VersionManifest`: the version of every resource key. -/
structure VersionManifest where
  versions : FiniteMap String UInt64

/-- How RzID answers the requests of one sync; an error stands for any failed request. -/
structure RzidAnswers where
  versions : Except RZError VersionManifest
  zoneRouters : String → Except RZError (UInt64 × List String)
  zoneSegments : String → Except RZError (UInt64 × List String)
  zoneShards : String → Except RZError (UInt64 × FiniteMap String (List String))
  shardSegments : String → Except RZError (UInt64 × String × List String)

/-- `RzidClient`, the fields that do not change. -/
structure RzidClient where
  mode : RouterMode
  zoneId : String
  deriving DecidableEq, Repr

/-- An answer that a sync has installed in its working state. -/
inductive Installed
  | zoneRouters (zone : String) (version : UInt64) (routers : List String)
  | zoneSegments (zone : String) (version : UInt64) (segments : List String)
  | zoneShards (version : UInt64) (shards : FiniteMap String (List String))
  | shardSegments (shard : String) (version : UInt64) (segments : List String)

/-- What a sync reads and writes besides the table: the recorded versions and the hop registry. -/
structure ClientState where
  localVersions : FiniteMap String UInt64
  hops : HopManager
  log : List Installed

namespace ClientState

def new : ClientState := ⟨∅, HopManager.new, []⟩

/-- `update_local_version`, together with the answer that is installed under the key. -/
def updateLocalVersion (c : ClientState) (key : String) (version : UInt64) (entry : Installed) :
    ClientState :=
  { c with localVersions := c.localVersions.insert key version, log := entry :: c.log }

/-- `get_or_create` for each id of a list. -/
def createHops (c : ClientState) (ids : List String) : ClientState :=
  { c with hops := ids.foldl HopManager.getOrCreate c.hops }

end ClientState

/-- One call of the refresh task: RzID's answers and the iteration orders of the hash sets. -/
structure Tick where
  answers : RzidAnswers
  zoneOrder : Iteration String
  topologyOrder : Iteration String
  shardOrder : Iteration String

/-- The resource keys of the manifest. -/
def zoneRoutersKey (zoneId : String) : String := "zones/" ++ zoneId ++ "/routers"
def zoneSegmentsKey (zoneId : String) : String := "zones/" ++ zoneId ++ "/segments"
def zoneShardsKey (zoneId : String) : String := "zones/" ++ zoneId ++ "/shards"
def shardSegmentsKey (shardId : String) : String := "shards/" ++ shardId ++ "/segments"

namespace RzidClient

/-- The keys that `detect_changes` looks at. -/
def watches (client : RzidClient) (key : String) : Bool :=
  match client.mode with
  | .edge =>
      Text.startsWith key "zones/" &&
        (Text.endsWith key "/routers" || Text.endsWith key "/segments")
  | .zone =>
      Text.startsWith key "zones/" && Text.contains key client.zoneId ||
        Text.startsWith key "shards/" && Text.endsWith key "/segments"

/-- `detect_changes`: the watched keys whose manifest version is not the recorded one. -/
def detectChanges (client : RzidClient) (manifest : VersionManifest)
    (localVersions : FiniteMap String UInt64) : Finset String :=
  (manifest.versions.keys.filter (fun key => client.watches key)).filter
    (fun key => localVersions.lookup key ≠ manifest.versions.lookup key)

end RzidClient

/-- The zone a manifest key belongs to, if it is a zone key. -/
def zoneOfKey (key : String) : Option String :=
  match Text.split key '/' with
  | "zones" :: zoneId :: _ => some zoneId
  | _ => none

/-- The zones that have a resource key in the manifest. -/
def VersionManifest.validZones (manifest : VersionManifest) : Finset String :=
  manifest.versions.keys.biUnion (fun key => (zoneOfKey key).toFinset)

namespace RzidClient

/-! ## Edge sync -/

/-- The router list of one zone, if its key changed. -/
def syncZoneRouters (answers : RzidAnswers) (changed : Finset String) (zoneId : String)
    (work : EdgeState × ClientState) : EdgeState × ClientState :=
  if zoneRoutersKey zoneId ∈ changed then
    match answers.zoneRouters zoneId with
    | .ok (version, routers) =>
        (work.1.setZoneRouters zoneId routers,
          (work.2.createHops routers).updateLocalVersion (zoneRoutersKey zoneId) version
            (.zoneRouters zoneId version routers))
    -- a failed fetch keeps the old list
    | .error _ => work
  else work

/-- The segment list of one zone, if its key changed. -/
def syncZoneSegments (answers : RzidAnswers) (changed : Finset String) (zoneId : String)
    (work : EdgeState × ClientState) : EdgeState × ClientState :=
  if zoneSegmentsKey zoneId ∈ changed then
    match answers.zoneSegments zoneId with
    | .ok (version, segments) =>
        (work.1.replaceZoneSegments zoneId segments,
          work.2.updateLocalVersion (zoneSegmentsKey zoneId) version
            (.zoneSegments zoneId version segments))
    | .error _ => work
  else work

/-- The body of the loop over the valid zones. -/
def syncZone (answers : RzidAnswers) (changed : Finset String)
    (work : EdgeState × ClientState) (zoneId : String) : EdgeState × ClientState :=
  syncZoneSegments answers changed zoneId (syncZoneRouters answers changed zoneId work)

/-- The last pass of `sync_edge_state`: no segment may point at a zone without routers. -/
def dropUnrouted (state : EdgeState) : EdgeState :=
  { state with
    segmentToZone := state.segmentToZone.retain
      (fun _ zone => decide (zone ∈ state.zoneToRouters.keys)) }

/-- The edge table a sync starts from. -/
def currentEdge : Option RoutingSnapshot → EdgeState
  | some (.edge existing) => existing
  | _ => EdgeState.new

/-- `sync_edge_state`. -/
def syncEdgeState (current : Option RoutingSnapshot) (manifest : VersionManifest)
    (changed : Finset String) (tick : Tick) (c : ClientState) :
    Except RZError (Option RoutingSnapshot) × ClientState :=
  let validZones := manifest.validZones
  let state := (currentEdge current).retainValidZones validZones
  let work := (tick.zoneOrder.toList validZones).foldl (syncZone tick.answers changed) (state, c)
  let state := dropUnrouted work.1
  if state.isEmpty then (.error (.noRoute "empty edge state after sync"), work.2)
  else (.ok (some (.edge state)), work.2)

/-! ## Zone sync -/

/-- Fetch the shard topology of our zone, if its key changed or there is none yet. -/
def syncShardTopology (client : RzidClient) (tick : Tick) (changed : Finset String)
    (work : ZoneState × ClientState) : ZoneState × ClientState :=
  if zoneShardsKey client.zoneId ∈ changed ∨ work.1.shardToBridges = ∅ then
    match tick.answers.zoneShards client.zoneId with
    | .ok (version, shards) =>
        let hopIds := (tick.topologyOrder.toList shards.keys).flatMap
          (fun shard => (shards.lookup shard).getD [])
        let state : ZoneState := { work.1 with shardToBridges := shards }
        (state.retainValidShards state.shardToBridges.keys,
          (work.2.createHops hopIds).updateLocalVersion (zoneShardsKey client.zoneId) version
            (.zoneShards version shards))
    | .error _ => work
  else work

/-- The segment list of one shard of our zone, unless the recorded version is the manifest's. -/
def syncShardSegments (client : RzidClient) (answers : RzidAnswers) (manifest : VersionManifest)
    (work : ZoneState × ClientState) (shardId : String) : ZoneState × ClientState :=
  match manifest.versions.lookup (shardSegmentsKey shardId) with
  | none => work
  | some manifestVersion =>
    if work.2.localVersions.lookup (shardSegmentsKey shardId) = some manifestVersion then work
    else
      match answers.shardSegments shardId with
      | .ok (version, zone, segments) =>
          -- never install a shard that RzID puts into another zone
          if zone ≠ client.zoneId then work
          else
            (work.1.replaceShardSegments shardId segments,
              work.2.updateLocalVersion (shardSegmentsKey shardId) version
                (.shardSegments shardId version segments))
      | .error _ => work

/-- The zone table a sync starts from. -/
def currentZone : Option RoutingSnapshot → ZoneState
  | some (.zone existing) => existing
  | _ => ZoneState.new

/-- `sync_zone_state`. -/
def syncZoneState (client : RzidClient) (current : Option RoutingSnapshot)
    (manifest : VersionManifest) (changed : Finset String) (tick : Tick) (c : ClientState) :
    Except RZError (Option RoutingSnapshot) × ClientState :=
  let work := syncShardTopology client tick changed (currentZone current, c)
  let localShards := tick.shardOrder.toList work.1.shardToBridges.keys
  let work := localShards.foldl (syncShardSegments client tick.answers manifest) work
  let state := work.1.retainValidShards work.1.shardToBridges.keys
  if state.isEmpty then (.error (.noRoute "empty zone state after sync"), work.2)
  else (.ok (some (.zone state)), work.2)

/-! ## Full sync -/

/-- `sync_routing_state`: a new table, no change, or an error. -/
def syncRoutingState (client : RzidClient) (current : Option RoutingSnapshot) (tick : Tick)
    (c : ClientState) : Except RZError (Option RoutingSnapshot) × ClientState :=
  match tick.answers.versions with
  | .error e => (.error e, c)
  | .ok manifest =>
    let changed := client.detectChanges manifest c.localVersions
    if changed = ∅ then (.ok none, c)
    else
      let (result, c) :=
        match client.mode with
        | .edge => syncEdgeState current manifest changed tick c
        | .zone => client.syncZoneState current manifest changed tick c
      match result with
      | .ok (some snapshot) =>
          (.ok (some snapshot), { c with hops := c.hops.retireUnused snapshot.getAllHopIds })
      | _ => (result, c)

end RzidClient

end RzRouter
