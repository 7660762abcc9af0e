import RzRouter.Operations
import RzRouter.Protocol

/-!
# Hop connections (`connection.rs`)

A connection is shared by any number of `send_and_wait` calls, a writer task, a reader task and a
keepalive task.  `send_and_wait` is a program; the three tasks are step functions on the shared
state, one step for each operation another party can observe.
-/

namespace RzRouter

open LittleEndian Program

/-! ## Requests -/

section Requests

variable {κ : Type}

/-- `send_and_wait`: the frame has the new clrid set. -/
def sendAndWait (conn : κ) (frame : List UInt8) (newClrid : UInt32) :
    ForwardM κ (Except RZError (List UInt8)) := do
  if ← ForwardM.isClosed conn then
    return .error .connectionClosed
  -- the waiter is registered before the frame is sent
  let tx ← ForwardM.newChannel conn newClrid
  let sentAt ← ForwardM.now
  if ← ForwardM.insert conn newClrid tx sentAt then
    if ← ForwardM.trySend conn frame then
      match ← ForwardM.wait tx with
      | .received response => return .ok response
      | .failed .timeout => return .error .timeout
      | .failed .connectionClosed => return .error .connectionClosed
      | .dropped => return .error .connectionClosed
      | .elapsed =>
        ForwardM.remove conn newClrid
        return .error .timeout
    else
      ForwardM.remove conn newClrid
      return .error .connectionClosed
  else
    return .error (.validation
      ("correlation id " ++ toString newClrid.toNat ++ " already in use"))

end Requests

/-! ## The shared state -/

/-- A frame on its way to the socket; `tx` is the channel of the call that waits for the answer,
none for a keepalive. -/
structure Outgoing where
  tx : Option Nat
  bytes : List UInt8
  deriving DecidableEq, Repr

/-- A response frame the hop sends; `answers` is the position of the written frame it answers. -/
structure Incoming where
  answers : Option Nat
  bytes : List UInt8
  deriving DecidableEq, Repr

/-- Number of shards of a connection's demux. -/
def NUM_SHARDS : Nat := 64

instance : NeZero NUM_SHARDS := ⟨by decide⟩

abbrev ConnDemux : Type := Demux NUM_SHARDS Nat

/-- Where a task is inside `fail_all`: collecting the shards one by one, or notifying. -/
inductive FailAll
  | collect (shard : Nat) (entries : List (UInt32 × DemuxEntry Nat))
  | notify (entries : List (UInt32 × DemuxEntry Nat))

/-- Where the writer task is. -/
inductive Writer
  | recv
  | check (frame : Outgoing)
  | write (frame : Outgoing)
  | flush
  | storeClosed
  | failAll (pc : FailAll)
  | finalStore
  | dropReceiver
  | ended

/-- Where the reader task is; `index` counts the frames extracted so far. -/
inductive Reader
  | scan
  | remove (index : Nat) (clrId : UInt32) (frame : List UInt8)
  | deliver (index : Nat) (tx : Nat) (frame : List UInt8)
  | storeClosed
  | failAll (pc : FailAll)
  | ended

/-- Where the keepalive task is. -/
inductive Keepalive
  | tick
  /-- It has seen the connection open. -/
  | send
  | ended
  deriving DecidableEq

/-- `ConnectionInner` with the channel of the writer, the three tasks and the socket.  `drawn`
counts the steps of the id counter, `wire` is what was written, `sent` what the hop has sent. -/
structure Conn where
  closed : Bool
  corrId : UInt32
  drawn : Nat
  demux : ConnDemux
  queue : List Outgoing
  capacity : Nat
  receiverDropped : Bool
  writer : Writer
  wire : List Outgoing
  reader : Reader
  keepalive : Keepalive
  extracted : Nat
  buf : List UInt8
  incoming : List UInt8
  sent : List Incoming

/-- A connection that was just established. -/
def Conn.new (capacity : Nat) : Conn where
  closed := false
  corrId := 1
  drawn := 0
  demux := Demux.new
  queue := []
  capacity := capacity
  receiverDropped := false
  writer := .recv
  wire := []
  reader := .scan
  keepalive := .tick
  extracted := 0
  buf := []
  incoming := []
  sent := []

/-- `tx.send(..)` on the channel of a waiter; a delivered response comes with its index. -/
structure Notice where
  tx : Nat
  result : Except DemuxError (Nat × List UInt8)

/-- What the scheduler and the network decide at a step of a task. -/
inductive TaskChoice
  | proceed
  /-- The socket operation fails. -/
  | fail
  /-- `read` returns 0 bytes. -/
  | eof
  /-- `read` returns the next `n` bytes. -/
  | read (n : Nat)
  /-- The order in which a shard's map yields its ids. -/
  | drain (ids : List UInt32)
  deriving DecidableEq, Repr

namespace Conn

/-- `fetch_add` on the id counter. -/
def fetchCorrId (c : Conn) : Conn × UInt32 :=
  ({ c with corrId := c.corrId + 1, drawn := c.drawn + 1 }, c.corrId)

def close (c : Conn) : Conn := { c with closed := true }

/-- `try_send`, which fails when the channel is full or its receiver is gone. -/
def trySend (c : Conn) (frame : Outgoing) : Conn × Bool :=
  -- `closed` is not looked at here
  if c.receiverDropped ∨ c.queue.length ≥ c.capacity then (c, false)
  else ({ c with queue := c.queue ++ [frame] }, true)

/-- The hop sends bytes; an answer refers to a frame that it has received. -/
def hopSends (c : Conn) (message : Incoming) : Option Conn :=
  if message.answers.all (fun i => decide (i < c.wire.length)) then
    some { c with incoming := c.incoming ++ message.bytes, sent := c.sent ++ [message] }
  else none

end Conn

/-! ## The tasks -/

/-- One step of `fail_all`; it is done when no state is left. -/
def failAllStep (demux : ConnDemux) (choice : TaskChoice) :
    FailAll → Option (ConnDemux × Option FailAll × Option Notice)
  | .collect k entries =>
    if hk : k < NUM_SHARDS then
      match choice with
      | .drain ids =>
        -- one shard at a time is drained, under its lock
        if Enumerates ids (demux.shards ⟨k, hk⟩).keys then
          let (demux, drained) := demux.drainShard ⟨k, hk⟩ ids
          some (demux, some (.collect (k + 1) (entries ++ drained)), none)
        else none
      | _ => none
    else if choice = .proceed then some (demux, some (.notify entries), none)
    else none
  | .notify [] => if choice = .proceed then some (demux, none, none) else none
  | .notify ((_, entry) :: entries) =>
    if choice = .proceed then
      some (demux, some (.notify entries), some ⟨entry.tx, .error .connectionClosed⟩)
    else none

/-- One step of the writer task.  `recv` never ends the loop: the task itself holds a sender. -/
def writerStep (c : Conn) (choice : TaskChoice) : Option (Conn × Option Notice) :=
  match c.writer, choice with
  | .recv, .proceed =>
    match c.queue with
    | [] => none
    | frame :: queue => some ({ c with queue := queue, writer := .check frame }, none)
  | .check frame, .proceed =>
    if c.closed then some ({ c with writer := .failAll (.collect 0 []) }, none)
    else some ({ c with writer := .write frame }, none)
  | .write frame, .proceed => some ({ c with wire := c.wire ++ [frame], writer := .flush }, none)
  -- an incomplete frame on the wire is no request
  | .write _, .fail => some ({ c with writer := .storeClosed }, none)
  | .flush, .proceed => some ({ c with writer := .recv }, none)
  | .flush, .fail => some ({ c with writer := .storeClosed }, none)
  | .storeClosed, .proceed =>
    some ({ c with closed := true, writer := .failAll (.collect 0 []) }, none)
  | .failAll pc, choice =>
    match failAllStep c.demux choice pc with
    | some (demux, some pc, notice) =>
      some ({ c with demux := demux, writer := .failAll pc }, notice)
    | some (demux, none, notice) => some ({ c with demux := demux, writer := .finalStore }, notice)
    | none => none
  | .finalStore, .proceed => some ({ c with closed := true, writer := .dropReceiver }, none)
  | .dropReceiver, .proceed =>
    some ({ c with queue := [], receiverDropped := true, writer := .ended }, none)
  | _, _ => none

/-- What the reader's loop does with its buffer. -/
inductive ResponseScan
  /-- Read more bytes. -/
  | more
  /-- Advance one byte to recover. -/
  | skip
  | frame (clrId : UInt32) (frame rest : List UInt8)
  deriving DecidableEq, Repr

/-- The checks of the reader's loop: nine header bytes, the magic, the full frame. -/
def scanResponse (buf : List UInt8) : ResponseScan :=
  if hlen : buf.length < 9 then .more
  else if buf[0] ≠ 0xFF then .skip
  else
    let clrId := u32FromBytes (slice buf 1 5 (by decide) (by omega))
    let payloadLen := (u32FromBytes (slice buf 5 9 (by decide) (by omega))).toNat
    let frameLen := 9 + payloadLen
    if buf.length < frameLen then .more
    else .frame clrId (buf.take frameLen) (buf.drop frameLen)

/-- One step of the reader task. -/
def readerStep (c : Conn) (choice : TaskChoice) : Option (Conn × Option Notice) :=
  match c.reader with
  | .scan =>
    match scanResponse c.buf, choice with
    | .more, .read n =>
      -- a read returns any non-empty part of what has arrived
      if 0 < n ∧ n ≤ c.incoming.length then
        some ({ c with buf := c.buf ++ c.incoming.take n, incoming := c.incoming.drop n }, none)
      else none
    | .more, .eof =>
      -- the end of the stream comes after its last byte
      if c.incoming = [] then some ({ c with reader := .storeClosed }, none) else none
    | .more, .fail => some ({ c with reader := .storeClosed }, none)
    | .skip, .proceed => some ({ c with buf := c.buf.drop 1 }, none)
    | .frame clrId frame rest, .proceed =>
      some ({ c with
        buf := rest
        extracted := c.extracted + 1
        reader := .remove c.extracted clrId frame }, none)
    | _, _ => none
  | .remove index clrId frame =>
    if choice = .proceed then
      match c.demux.remove clrId with
      | (demux, some tx) =>
        some ({ c with demux := demux, reader := .deliver index tx frame }, none)
      -- unknown correlation id: the frame is dropped
      | (demux, none) => some ({ c with demux := demux, reader := .scan }, none)
    else none
  | .deliver index tx frame =>
    if choice = .proceed then
      some ({ c with reader := .scan }, some ⟨tx, .ok (index, frame)⟩)
    else none
  | .storeClosed =>
    if choice = .proceed then
      some ({ c with closed := true, reader := .failAll (.collect 0 []) }, none)
    else none
  | .failAll pc =>
    match failAllStep c.demux choice pc with
    | some (demux, some pc, notice) =>
      some ({ c with demux := demux, reader := .failAll pc }, notice)
    | some (demux, none, notice) => some ({ c with demux := demux, reader := .ended }, notice)
    | none => none
  | .ended => none

/-- One step of the keepalive task. -/
def keepaliveStep (c : Conn) : Option Conn :=
  match c.keepalive with
  | .tick => some { c with keepalive := if c.closed then .ended else .send }
  | .send =>
    if c.receiverDropped then some { c with keepalive := .ended }
    -- `send` waits for room in the channel
    else if c.queue.length ≥ c.capacity then none
    else some { c with queue := c.queue ++ [⟨none, buildKeepaliveFrame 0⟩], keepalive := .tick }
  | .ended => none

end RzRouter
