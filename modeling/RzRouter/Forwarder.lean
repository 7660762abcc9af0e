import RzRouter.Connection

/-!
# The forwarder (`forwarder.rs`)

Route, hop, connection, send, response.  The two loops of `forward` thread the frame, whose clrid
is overwritten in place for every try, and the flag `request_sent`.
-/

namespace RzRouter

open LittleEndian Program

def GETSEGMENTS : String := "GETSEGMENTS"
def GETCODECS : String := "__codecs__"

/-- The arguments of `forward`. -/
structure Request where
  frame : List UInt8
  segment : String
  clridOffset : Nat
  originalClrid : UInt32
  isWrite : Bool
  deriving DecidableEq, Repr

/-- `Forwarder`, the fields that are not shared state. -/
structure Forwarder where
  maxRetries : Nat := 3
  codecs : List String
  deriving DecidableEq, Repr

/-- The local variables of `forward` that its loops change. -/
structure ForwardState where
  frame : List UInt8
  requestSent : Bool
  deriving DecidableEq, Repr

/-- How a turn of a loop ends: with the next turn, or with `forward` returning. -/
inductive Turn
  | next (st : ForwardState)
  | done (result : Except ForwardError (List UInt8))
  deriving DecidableEq

/-- Puts the client's clrid back into a response. -/
def restoreClrid (response : List UInt8) (originalClrid : UInt32) : List UInt8 :=
  if response.length ≥ 9 then overwrite response 1 (u32Bytes originalClrid) else response

section Loops

variable {κ : Type}

/-- One turn of the loop over the hops of an attempt. -/
def tryHop (req : Request) (st : ForwardState) (hopId : String) : ForwardM κ Turn := do
  match ← ForwardM.getHop hopId with
  | none => return .next st
  | some hop =>
    match ← ForwardM.nextConnection hop with
    | none =>
      ForwardM.resolveAddress hop
      return .next st
    | some conn =>
      if ← ForwardM.isClosed conn then
        return .next st
      let newClrid ← ForwardM.nextCorrId conn
      if req.clridOffset + 4 > st.frame.length then
        return .done (.error (.internal "frame too short for CLRID"))
      let frame := overwrite st.frame req.clridOffset (u32Bytes newClrid)
      match ← sendAndWait conn frame newClrid with
      | .ok response => return .done (.ok (restoreClrid response req.originalClrid))
      | .error .connectionClosed =>
        -- connection closed before send, retry safe
        ForwardM.close conn
        return .next { st with frame := frame }
      | .error _ =>
        -- the request may have reached the hop
        if req.isWrite then
          return .done (.error .timeout)
        ForwardM.close conn
        return .next { frame := frame, requestSent := true }

/-- The loop over the hops of an attempt. -/
def tryHops (req : Request) : List String → ForwardState → ForwardM κ Turn
  | [], st => return .next st
  | hopId :: hopIds, st => do
    match ← tryHop req st hopId with
    | .done result => return .done result
    | .next st => tryHops req hopIds st

/-- The hop ids of an attempt, in the order in which it tries them. -/
def attemptOrder (hopIds : List String) (hne : hopIds ≠ []) (originalClrid : UInt32) :
    List String :=
  let startIdx := originalClrid.toNat % hopIds.length
  (List.range hopIds.length).map (fun i =>
    hopIds.get ⟨(startIdx + i) % hopIds.length, Nat.mod_lt _ (List.length_pos_iff.mpr hne)⟩)

/-- The loop over the attempts; `remaining` attempts are left from number `attempt` on. -/
def forwardAttempts (maxRetries : Nat) (req : Request) :
    Nat → Nat → ForwardState → ForwardM κ (Except ForwardError (List UInt8))
  | 0, _, _ => return .error .networkError
  | remaining + 1, attempt, st => do
    let snapshot ← ForwardM.loadRouting
    if hne : snapshot.lookup req.segment = [] then
      return .error (.unknownSegment req.segment)
    else
      let order := attemptOrder (snapshot.lookup req.segment) hne req.originalClrid
      match ← tryHops req order st with
      | .done result => return result
      | .next st =>
        -- no hop of this attempt has answered
        if req.isWrite && st.requestSent then
          return .error .timeout
        if attempt = maxRetries - 1 then
          return .error .networkError
        ForwardM.sleep (50 * (attempt + 1))
        forwardAttempts maxRetries req remaining (attempt + 1) st

/-- `forward`. -/
def Forwarder.forward (fw : Forwarder) (req : Request) :
    ForwardM κ (Except ForwardError (List UInt8)) := do
  if req.segment = GETSEGMENTS then
    let snapshot ← ForwardM.loadRouting
    let keys ← ForwardM.segmentOrder snapshot
    return .ok (snapshot.serializeSegments keys req.originalClrid)
  if req.segment = GETCODECS then
    let rateFeatures := ",".intercalate fw.codecs
    return .ok (serializeCodecs req.originalClrid (strBytes rateFeatures))
  forwardAttempts fw.maxRetries req fw.maxRetries 0 ⟨req.frame, false⟩

end Loops

end RzRouter
