import RzRouter.Protocol
import RzRouter.Library.Ownership

/-!
# Routing tables (`routing_state.rs`)

An edge router maps segments to zones and zones to router ids, a zone router maps segments to
shards and shards to bridge ids.  The published table is one of the two.
-/

namespace RzRouter

open Ownership

/-- `EdgeState`: segment to zone to router ids. -/
@[ext] structure EdgeState where
  segmentToZone : FiniteMap String String
  zoneToRouters : FiniteMap String (List String)

/-- `ZoneState`: segment to shard to bridge ids. -/
@[ext] structure ZoneState where
  segmentToShard : FiniteMap String String
  shardToBridges : FiniteMap String (List String)

/-- The ids behind a segment: the owner's list, or nothing when either lookup misses. -/
def lookupTwoLevel (owners : FiniteMap String String) (lists : FiniteMap String (List String))
    (segment : String) : List String :=
  match owners.lookup segment with
  | some owner => (lists.lookup owner).getD []
  | none => []

namespace EdgeState

def new : EdgeState := ⟨∅, ∅⟩

def setZoneRouters (st : EdgeState) (zoneId : String) (routers : List String) : EdgeState :=
  { st with zoneToRouters := st.zoneToRouters.insert zoneId routers }

/-- The supplied list is authoritative: it replaces what the zone had, and takes segments from
other zones. -/
def replaceZoneSegments (st : EdgeState) (zoneId : String) (segments : List String) : EdgeState :=
  { st with segmentToZone := replaceOwner st.segmentToZone zoneId segments }

/-- Remove all state of zones that no longer exist. -/
def retainValidZones (st : EdgeState) (validZones : Finset String) : EdgeState where
  zoneToRouters := st.zoneToRouters.retain (fun zone _ => decide (zone ∈ validZones))
  segmentToZone := st.segmentToZone.retain (fun _ zone => decide (zone ∈ validZones))

def lookup (st : EdgeState) (segment : String) : List String :=
  lookupTwoLevel st.segmentToZone st.zoneToRouters segment

def isEmpty (st : EdgeState) : Bool :=
  decide (st.segmentToZone = ∅) && decide (st.zoneToRouters = ∅)

end EdgeState

namespace ZoneState

def new : ZoneState := ⟨∅, ∅⟩

/-- The supplied list is authoritative for the shard. -/
def replaceShardSegments (st : ZoneState) (shardId : String) (segments : List String) :
    ZoneState :=
  { st with segmentToShard := replaceOwner st.segmentToShard shardId segments }

/-- Remove the segments whose shard no longer exists. -/
def retainValidShards (st : ZoneState) (validShards : Finset String) : ZoneState :=
  { st with
    segmentToShard := st.segmentToShard.retain (fun _ shard => decide (shard ∈ validShards)) }

def lookup (st : ZoneState) (segment : String) : List String :=
  lookupTwoLevel st.segmentToShard st.shardToBridges segment

def isEmpty (st : ZoneState) : Bool :=
  decide (st.segmentToShard = ∅) && decide (st.shardToBridges = ∅)

end ZoneState

/-- `RoutingSnapshot`: the table behind the `ArcSwap`. -/
inductive RoutingSnapshot
  | edge (state : EdgeState)
  | zone (state : ZoneState)

namespace RoutingSnapshot

def lookup : RoutingSnapshot → String → List String
  | .edge state, segment => state.lookup segment
  | .zone state, segment => state.lookup segment

/-- The segments the snapshot lists, a set: iteration order is up to the hash map. -/
def segments : RoutingSnapshot → Finset String
  | .edge state => state.segmentToZone.keys
  | .zone state => state.segmentToShard.keys

/-- `serialize_segments`, for the order in which the hash map yields its keys. -/
def serializeSegments (snapshot : RoutingSnapshot)
    (keys : {l : List String // Enumerates l snapshot.segments}) (clrid : UInt32) : List UInt8 :=
  serializeGetSegments keys.val clrid

/-- `get_all_hop_ids`: a vector in arbitrary order, repetitions included. -/
def getAllHopIds : RoutingSnapshot → Multiset String
  | .edge state => state.zoneToRouters.entries.bind (fun e => (e.2 : Multiset String))
  | .zone state => state.shardToBridges.entries.bind (fun e => (e.2 : Multiset String))

end RoutingSnapshot

end RzRouter
