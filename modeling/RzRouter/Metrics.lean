import RzRouter.TcpServer

/-!
# Counters (`metrics.rs`, `tcp_server.rs`)

The counters of the router, and what `handle_connection` adds to them at each of its steps.
-/

namespace RzRouter

/-- `RouterMetrics`; `keepalives_sent` is counted nowhere. -/
structure RouterMetrics where
  connectionsOpened : Nat := 0
  connectionsClosed : Nat := 0
  framesReceived : Nat := 0
  framesForwarded : Nat := 0
  bytesReceived : Nat := 0
  bytesSent : Nat := 0
  clientErrors : Nat := 0
  unknownSegment : Nat := 0
  networkErrors : Nat := 0
  timeouts : Nat := 0
  internalErrors : Nat := 0
  keepalivesReceived : Nat := 0
  resyncs : Nat := 0
  deriving DecidableEq, Repr

namespace RouterMetrics

/-- The counter of an error response. -/
def failed (m : RouterMetrics) : ForwardError → RouterMetrics
  | .unknownSegment _ => { m with unknownSegment := m.unknownSegment + 1 }
  | .networkError => { m with networkErrors := m.networkErrors + 1 }
  | .timeout => { m with timeouts := m.timeouts + 1 }
  | .internal _ => { m with internalErrors := m.internalErrors + 1 }

/-- A frame that has been forwarded; the bytes of a response are counted before they are written. -/
def respond (m : RouterMetrics) (originalClrid : UInt32) :
    Except ForwardError (List UInt8) → RouterMetrics
  | .ok response =>
    { m with
      framesForwarded := m.framesForwarded + 1
      bytesSent := m.bytesSent + response.length }
  | .error e =>
    { m.failed e with
      bytesSent := m.bytesSent + (buildErrorResponse originalClrid e.code).length }

/-- A turn of the inner loop. -/
def turn (cfg : Config) (s : Session) (result : Except ForwardError (List UInt8))
    (m : RouterMetrics) : RouterMetrics :=
  if s.buf.length > cfg.maxBufferSize then { m with clientErrors := m.clientErrors + 1 }
  else
    match tryDecodeRouter s.buf with
    | .ok none =>
      if s.now - s.lastFrameTime > cfg.frameTimeout then { m with timeouts := m.timeouts + 1 }
      else m
    | .ok (some frame) =>
      if frame.frameLen > cfg.maxFrameSize then { m with clientErrors := m.clientErrors + 1 }
      else
        let m := { m with framesReceived := m.framesReceived + 1 }
        if frame.segment = KEEPALIVE_SEGMENT then
          { m with keepalivesReceived := m.keepalivesReceived + 1 }
        else m.respond frame.originalClrid result
    | .error _ =>
      { m with clientErrors := m.clientErrors + 1, resyncs := m.resyncs + 1 }

/-- A step of `handle_connection`. -/
def step (cfg : Config) (s : Session) (m : RouterMetrics) : ClientEvent → RouterMetrics
  | .read _ bytes => { m with bytesReceived := m.bytesReceived + bytes.length }
  | .idle _ => { m with timeouts := m.timeouts + 1 }
  | .turn reply => m.turn cfg s reply.result
  | .eof _ | .readError _ | .cancel _ => m

end RouterMetrics

end RzRouter
