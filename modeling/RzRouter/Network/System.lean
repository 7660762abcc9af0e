import RzRouter.Library.Transition
import RzRouter.Network.CallProtocol
import RzRouter.Network.Tasks

/-!
# Calls and connections as one system

Any number of forward calls (named by `ι`) run over any number of hop connections (named by `κ`).
An event is one atomic step of a call, of a task of a connection, of a hop, or of somebody who
closes a connection.  Routing tables, the hop registry, connection sets and clocks are outside: the
event carries what they answer, and any answer is possible that the source's own checks allow.
-/

namespace RzRouter

open Program

/-- The state of a oneshot channel between a waiter and whoever resolves it. -/
inductive ChannelState
  | waiting
  /-- A response was sent, the `index`-th frame that the reader of the connection extracted. -/
  | received (index : Nat) (response : List UInt8)
  | failed (e : DemuxError)
  | dropped
  deriving DecidableEq, Repr

/-- A channel is used once: only the first send (or drop) counts. -/
def ChannelState.resolve (new : ChannelState) : ChannelState → ChannelState
  | waiting => new
  | resolved => resolved

/-- A oneshot channel, with the call that created it and the connection and correlation id it was
created for. -/
structure Channel (ι κ : Type) where
  owner : ι
  conn : κ
  corrId : UInt32
  state : ChannelState

/-- What the calls share. -/
structure Shared (ι κ : Type) where
  conns : κ → Conn
  channels : List (Channel ι κ)

/-- A forward call: what is left of its program, and its phase. -/
structure Call (κ : Type) where
  prog : ForwardM κ (Except ForwardError (List UInt8))
  phase : CallPhase κ

structure Network (ι κ : Type) where
  shared : Shared ι κ
  calls : ι → Call κ

/-- What the surroundings answer to an operation. -/
inductive Answer (κ : Type)
  | routing (snapshot : RoutingSnapshot)
  | order (segments : List String)
  | hop (hop : Option Hop)
  | connection (conn : Option κ)
  | instant (now : Nat)
  /-- The shared state alone decides. -/
  | state

inductive Event (ι κ : Type)
  | call (t : ι) (answer : Answer κ)
  | keepalive (c : κ)
  | writer (c : κ) (choice : TaskChoice)
  | reader (c : κ) (choice : TaskChoice)
  | hop (c : κ) (message : Incoming)
  /-- The hop is shut down, or the last handle of the connection is dropped. -/
  | shutdown (c : κ)

variable {ι κ : Type} [DecidableEq κ]

namespace Shared

def setConn (sh : Shared ι κ) (c : κ) (conn : Conn) : Shared ι κ :=
  { sh with conns := Function.update sh.conns c conn }

omit [DecidableEq κ] in
/-- Sends into a channel, or drops its sender. -/
def resolve (sh : Shared ι κ) (tx : Nat) (state : ChannelState) : Shared ι κ :=
  { sh with
    channels := sh.channels.modify tx (fun ch => { ch with state := state.resolve ch.state }) }

omit [DecidableEq κ] in
def notify (sh : Shared ι κ) : Option Notice → Shared ι κ
  | some ⟨tx, .ok (index, response)⟩ => sh.resolve tx (.received index response)
  | some ⟨tx, .error e⟩ => sh.resolve tx (.failed e)
  | none => sh

omit [DecidableEq κ] in
def dropSender (sh : Shared ι κ) : Option Nat → Shared ι κ
  | some tx => sh.resolve tx .dropped
  | none => sh

/-- Performs one operation of call `t`, whose channel is `tx`.  No answer means that the operation
goes on: `next_corr_id` has drawn 0 and draws again. -/
def serve (sh : Shared ι κ) (t : ι) (tx : Option Nat) :
    (o : ForwardOp κ) → Answer κ → Option (Shared ι κ × Option o.Ret)
  | .loadRouting, .routing snapshot => some (sh, some snapshot)
  | .segmentOrder snapshot, .order segments =>
      if h : Enumerates segments snapshot.segments then some (sh, some ⟨segments, h⟩) else none
  | .getHop _, .hop hop => some (sh, some hop)
  | .nextConnection _, .connection none => some (sh, some none)
  -- a connection is picked because it is not closed
  | .nextConnection _, .connection (some c) =>
      if (sh.conns c).closed then none else some (sh, some (some c))
  | .resolveAddress _, .state => some (sh, some ())
  | .isClosed c, .state => some (sh, some (sh.conns c).closed)
  | .nextCorrId c, .state =>
      let (conn, id) := (sh.conns c).fetchCorrId
      some (sh.setConn c conn, if id ≠ 0 then some id else none)
  | .newChannel c corrId, .state =>
      some ({ sh with channels := sh.channels ++ [⟨t, c, corrId, .waiting⟩] }, some sh.channels.length)
  | .now, .instant now => some (sh, some now)
  | .insert c corrId tx sentAt, .state =>
      let (demux, inserted) := (sh.conns c).demux.insert corrId tx sentAt
      some (sh.setConn c { sh.conns c with demux := demux }, some inserted)
  | .trySend c frame, .state =>
      let (conn, accepted) := (sh.conns c).trySend ⟨tx, frame⟩
      some (sh.setConn c conn, some accepted)
  | .remove c corrId, .state =>
      let (demux, tx) := (sh.conns c).demux.remove corrId
      some ((sh.setConn c { sh.conns c with demux := demux }).dropSender tx, some ())
  | .wait tx, .state =>
      match sh.channels[tx]? with
      | some ch =>
        match ch.state with
        | .waiting => some (sh, some .elapsed)
        | .received _ response => some (sh, some (.received response))
        | .failed e => some (sh, some (.failed e))
        | .dropped => some (sh, some .dropped)
      | none => none
  | .close c, .state => some (sh.setConn c (sh.conns c).close, some ())
  | .sleep _, .state => some (sh, some ())
  | _, _ => none

/-- A step of a task of connection `c`, and the message it sends to a waiter. -/
def afterTask (sh : Shared ι κ) (c : κ) (result : Option (Conn × Option Notice)) :
    Option (Shared ι κ) :=
  result.map (fun r => (sh.setConn c r.1).notify r.2)

end Shared

omit [DecidableEq κ] in
/-- The channel that the frame of a call is sent for. -/
def CallPhase.channel? : CallPhase κ → Option Nat
  | registered _ _ tx => some tx
  | _ => none

namespace Network

/-- All calls are about to start, all connections are fresh. -/
def init (fw : Forwarder) (reqs : ι → Request) (capacity : κ → Nat) : Network ι κ where
  shared := { conns := fun c => Conn.new (capacity c), channels := [] }
  calls := fun t => ⟨fw.forward (reqs t), .free⟩

variable [DecidableEq ι]

/-- One atomic step. -/
def step (reqs : ι → Request) (net : Network ι κ) : Event ι κ → Option (Network ι κ)
  | .call t answer =>
    match (net.calls t).prog with
    | .ret _ => none
    | .op o k =>
      match net.shared.serve t (net.calls t).phase.channel? o answer with
      | none => none
      -- the id 0 was drawn, the call draws again
      | some (shared, none) => some { net with shared := shared }
      | some (shared, some r) =>
        some
          { shared := shared
            calls := Function.update net.calls t
              ⟨k r, callNext (reqs t) (net.calls t).phase o r⟩ }
  | .keepalive c =>
    (keepaliveStep (net.shared.conns c)).map (fun conn =>
      { net with shared := net.shared.setConn c conn })
  | .writer c choice =>
    (net.shared.afterTask c (writerStep (net.shared.conns c) choice)).map (fun shared =>
      { net with shared := shared })
  | .reader c choice =>
    (net.shared.afterTask c (readerStep (net.shared.conns c) choice)).map (fun shared =>
      { net with shared := shared })
  | .hop c message =>
    ((net.shared.conns c).hopSends message).map (fun conn =>
      { net with shared := net.shared.setConn c conn })
  | .shutdown c =>
    some { net with shared := net.shared.setConn c (net.shared.conns c).close }

end Network

end RzRouter
