import RzRouter.Demux
import RzRouter.HopManager
import RzRouter.Library.Program
import RzRouter.RoutingState

/-!
# The atomic operations of a forward call

What `forward` and `send_and_wait` do to state that other tasks share, one operation at a time;
everything between two operations is local to the call.  `κ` names the connections, and a oneshot
channel is named by a number.
-/

namespace RzRouter

open Program

/-- What awaiting the receiver under the request time-out can give. -/
inductive WaitResult
  | received (response : List UInt8)
  | failed (e : DemuxError)
  /-- The sender was dropped. -/
  | dropped
  /-- The request time-out fired first. -/
  | elapsed
  deriving DecidableEq, Repr

inductive ForwardOp (κ : Type)
  /-- `routing.load()`. -/
  | loadRouting
  /-- The order in which the hash map of a snapshot yields its segments. -/
  | segmentOrder (snapshot : RoutingSnapshot)
  /-- `hops.get(hop_id)`. -/
  | getHop (hopId : String)
  /-- `hop.next_connection()`. -/
  | nextConnection (hop : Hop)
  /-- `tokio::spawn` of `hop.resolve_address()`. -/
  | resolveAddress (hop : Hop)
  | isClosed (conn : κ)
  | nextCorrId (conn : κ)
  /-- `oneshot::channel()` in `send_and_wait` of a connection, for a correlation id. -/
  | newChannel (conn : κ) (corrId : UInt32)
  /-- `Instant::now()`. -/
  | now
  /-- `demux.insert(..)`, under the lock of one shard. -/
  | insert (conn : κ) (corrId : UInt32) (tx : Nat) (sentAt : Nat)
  /-- `send_tx.try_send(..)`. -/
  | trySend (conn : κ) (frame : List UInt8)
  /-- `demux.remove(..)` with the result dropped. -/
  | remove (conn : κ) (corrId : UInt32)
  /-- `timeout(.., rx)`. -/
  | wait (tx : Nat)
  | close (conn : κ)
  /-- `tokio::time::sleep`, in milliseconds. -/
  | sleep (ms : Nat)

/-- The type of an operation's answer. -/
@[reducible] def ForwardOp.Ret {κ : Type} : ForwardOp κ → Type
  | loadRouting => RoutingSnapshot
  | segmentOrder snapshot => {l : List String // Enumerates l snapshot.segments}
  | getHop _ => Option Hop
  | nextConnection _ => Option κ
  | resolveAddress _ => Unit
  | isClosed _ => Bool
  | nextCorrId _ => UInt32
  | newChannel _ _ => Nat
  | now => Nat
  | insert _ _ _ _ => Bool
  | trySend _ _ => Bool
  | remove _ _ => Unit
  | wait _ => WaitResult
  | close _ => Unit
  | sleep _ => Unit

/-- Programs of a forward call. -/
abbrev ForwardM (κ : Type) (α : Type) : Type := Prog (ForwardOp κ) ForwardOp.Ret α

namespace ForwardM

variable {κ : Type}

abbrev loadRouting : ForwardM κ RoutingSnapshot := perform ForwardOp.loadRouting
abbrev segmentOrder (snapshot : RoutingSnapshot) :
    ForwardM κ {l : List String // Enumerates l snapshot.segments} :=
  perform (ForwardOp.segmentOrder snapshot)
abbrev getHop (hopId : String) : ForwardM κ (Option Hop) := perform (ForwardOp.getHop hopId)
abbrev nextConnection (hop : Hop) : ForwardM κ (Option κ) := perform (ForwardOp.nextConnection hop)
abbrev resolveAddress (hop : Hop) : ForwardM κ Unit := perform (ForwardOp.resolveAddress hop)
abbrev isClosed (conn : κ) : ForwardM κ Bool := perform (ForwardOp.isClosed conn)
abbrev nextCorrId (conn : κ) : ForwardM κ UInt32 := perform (ForwardOp.nextCorrId conn)
abbrev newChannel (conn : κ) (corrId : UInt32) : ForwardM κ Nat :=
  perform (ForwardOp.newChannel conn corrId)
abbrev now : ForwardM κ Nat := perform ForwardOp.now
abbrev insert (conn : κ) (corrId : UInt32) (tx sentAt : Nat) : ForwardM κ Bool :=
  perform (ForwardOp.insert conn corrId tx sentAt)
abbrev trySend (conn : κ) (frame : List UInt8) : ForwardM κ Bool := perform (ForwardOp.trySend conn frame)
abbrev remove (conn : κ) (corrId : UInt32) : ForwardM κ Unit := perform (ForwardOp.remove conn corrId)
abbrev wait (tx : Nat) : ForwardM κ WaitResult := perform (ForwardOp.wait tx)
abbrev close (conn : κ) : ForwardM κ Unit := perform (ForwardOp.close conn)
abbrev sleep (ms : Nat) : ForwardM κ Unit := perform (ForwardOp.sleep ms)

end ForwardM

end RzRouter
