import RzRouter.Library.FiniteMap

/-!
# The hop registry (`hop_manager.rs`)

Only the refresh task changes the registry, so its copy-and-swap updates are plain updates here.
A hop is an `Arc<Hop>`: its id and the identity of the allocation.
-/

namespace RzRouter

/-- One `Arc<Hop>`. -/
structure Hop where
  id : String
  handle : Nat
  deriving DecidableEq, Repr

/-- `HopManager`, with the number of hops allocated so far and the shutdown tasks spawned. -/
structure HopManager where
  hops : FiniteMap String Hop
  allocated : Nat
  shutdowns : Multiset Hop

namespace HopManager

def new : HopManager := ⟨∅, 0, 0⟩

/-- `get_or_create`: existing hops survive. -/
def getOrCreate (hm : HopManager) (hopId : String) : HopManager :=
  match hm.hops.lookup hopId with
  | some _ => hm
  | none =>
      { hm with
        hops := hm.hops.insert hopId ⟨hopId, hm.allocated⟩
        allocated := hm.allocated + 1 }

/-- `get`: the hot path lookup. -/
def get (hm : HopManager) (hopId : String) : Option Hop := hm.hops.lookup hopId

/-- `retire_unused`: drops the hops that are not active and spawns their shutdown. -/
def retireUnused (hm : HopManager) (activeHopIds : Multiset String) : HopManager :=
  { hm with
    hops := hm.hops.retain (fun id _ => decide (id ∈ activeHopIds))
    shutdowns := hm.shutdowns +
      (hm.hops.entries.filter (fun e => e.1 ∉ activeHopIds)).map (fun e => e.2) }

end HopManager

end RzRouter
