import RzRouter.Config
import RzRouter.Forwarder
import RzRouter.Library.Transition

/-!
# The client side (`tcp_server.rs`)

`handle_connection` alternates between waiting for a read and going through its buffer.  A step of
the model is one read, or one turn of the inner loop; a turn that forwards a frame is given what
`forward` and the socket do.  The clock moves while the server waits.
-/

namespace RzRouter

/-- Why `handle_connection` returns. -/
inductive CloseReason
  | cancelled
  | clientClosed
  | readError
  | idleTimeout
  | bufferExceeded
  | frameTimeout
  | frameTooLarge
  | writeError
  deriving DecidableEq, Repr

inductive SessionPhase
  | reading
  | processing
  | closed (reason : CloseReason)
  deriving DecidableEq, Repr

/-- The state of `handle_connection`, with what it has received (and when) and what it has done:
the frames it has taken from the buffer and the bytes it has written. -/
structure Session where
  phase : SessionPhase
  buf : List UInt8
  lastFrameTime : Nat
  now : Nat
  received : List UInt8
  arrivals : List Nat
  frames : List (RouterFrame × List UInt8)
  out : List UInt8
  deriving DecidableEq

/-- `write_all`: everything was written, or only the first bytes. -/
inductive WriteResult
  | done
  | failed (written : Nat)
  deriving DecidableEq, Repr

/-- What `forward` returns, how the socket takes the response, and how long both take. -/
structure Reply where
  result : Except ForwardError (List UInt8)
  duration : Nat
  write : WriteResult
  flushed : Bool

inductive ClientEvent
  | read (delay : Nat) (bytes : List UInt8)
  | eof (delay : Nat)
  | readError (delay : Nat)
  /-- No read completes in time. -/
  | idle (delay : Nat)
  | cancel (delay : Nat)
  /-- A turn of the inner loop. -/
  | turn (reply : Reply)

/-- The code of an error response. -/
def ForwardError.code : ForwardError → UInt8
  | unknownSegment _ => 1
  | networkError => 2
  | timeout => 3
  | internal _ => 4

/-- The call of `forward` for a frame. -/
def RouterFrame.request (frame : RouterFrame) (bytes : List UInt8) : Request where
  frame := bytes
  segment := frame.segment
  clridOffset := frame.clridOffset
  originalClrid := frame.originalClrid
  isWrite := frame.isWrite

namespace Session

/-- A connection that was just accepted. -/
def start (now : Nat) : Session where
  phase := .reading
  buf := []
  lastFrameTime := now
  now := now
  received := []
  arrivals := []
  frames := []
  out := []

def close (s : Session) (reason : CloseReason) : Session := { s with phase := .closed reason }

def write (s : Session) (response : List UInt8) : WriteResult → Session
  | .done => { s with out := s.out ++ response }
  | .failed written => { s with out := s.out ++ response.take written }

/-- A read has brought bytes. -/
def receive (s : Session) (delay : Nat) (bytes : List UInt8) : Session :=
  { s with
    phase := .processing
    buf := s.buf ++ bytes
    now := s.now + delay
    received := s.received ++ bytes
    arrivals := s.arrivals ++ List.replicate bytes.length (s.now + delay) }

/-- The end of a turn that has forwarded a frame with this clrid. -/
def respond (s : Session) (originalClrid : UInt32) (reply : Reply) : Session :=
  let s := { s with now := s.now + reply.duration }
  match reply.result with
  | .ok response =>
    let s := s.write response reply.write
    if reply.write = .done then
      if reply.flushed then s else s.close .writeError
    else s.close .writeError
  | .error e =>
    let s := s.write (buildErrorResponse originalClrid e.code) reply.write
    -- a failed flush is not noticed here
    if reply.write = .done then s else s.close .writeError

/-- A turn that takes a frame from the buffer. -/
def take (s : Session) (frame : RouterFrame) : Session :=
  { s with
    lastFrameTime := s.now
    buf := s.buf.drop frame.frameLen
    frames := s.frames ++ [(frame, s.buf.take frame.frameLen)] }

/-- A turn after a parse error: go to the next magic byte, or wait for one. -/
def resync (s : Session) : Session :=
  if s.buf = [] then { s with phase := .reading }
  else
    let buf := s.buf.drop 1
    match findNextRouterMagic buf 0 with
    | some pos => { s with buf := buf.drop pos }
    | none =>
      -- keep a small window
      if buf.length > 64 then
        { s with buf := buf.drop (buf.length - min 8 buf.length), phase := .reading }
      else { s with buf := buf, phase := .reading }

/-- One turn of the inner loop. -/
def turn (cfg : Config) (s : Session) (reply : Reply) : Session :=
  if s.buf.length > cfg.maxBufferSize then s.close .bufferExceeded
  else
    match tryDecodeRouter s.buf with
    | .ok none =>
      -- incomplete frame
      if s.now - s.lastFrameTime > cfg.frameTimeout then s.close .frameTimeout
      else { s with phase := .reading }
    | .ok (some frame) =>
      if frame.frameLen > cfg.maxFrameSize then s.close .frameTooLarge
      else if frame.segment = KEEPALIVE_SEGMENT then s.take frame
      else (s.take frame).respond frame.originalClrid reply
    | .error _ => s.resync

/-- One step of `handle_connection`. -/
def step (cfg : Config) (s : Session) (e : ClientEvent) : Option Session :=
  match s.phase, e with
  | .reading, .read delay bytes =>
    if bytes = [] then none else some (s.receive delay bytes)
  | .reading, .eof delay => some ({ s with now := s.now + delay }.close .clientClosed)
  | .reading, .readError delay => some ({ s with now := s.now + delay }.close .readError)
  | .reading, .idle delay =>
    if delay < cfg.idleTimeout then none
    else some ({ s with now := s.now + delay }.close .idleTimeout)
  | .reading, .cancel delay => some ({ s with now := s.now + delay }.close .cancelled)
  | .processing, .turn reply => some (s.turn cfg reply)
  | _, _ => none

end Session

end RzRouter
