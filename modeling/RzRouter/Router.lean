import RzRouter.Client.Replies
import RzRouter.Sync.Interleaving

/-!
# The router (`lib.rs`, `async_main`)

The parts of a running router as one system: the connections of its clients, the forward calls of
their requests, the connections to the hops, and the refresh task with the table and the registry
that it keeps.  An event is one step of one part.  A client's connection stands still at a request
until the call for it has returned; a call reads the published table and the registry as they are
at that moment, and it is given connections of the hop that it asks.
-/

namespace RzRouter

open Network Program

/-- What `async_main` sets up, and what the surroundings decide once: the requests that a client
will make, and the hop that opens a connection. -/
structure Setup (σ κ : Type) where
  config : Config
  rzid : RzidClient
  forwarder : Forwarder
  /-- The `n`-th request of a client. -/
  requests : σ × Nat → Request
  hopOf : κ → Hop
  capacity : κ → Nat
  accepted : σ → Nat

structure Router (σ κ : Type) where
  refresh : LiveState
  net : Network (σ × Nat) κ
  clients : σ → Session

inductive RouterEvent (σ κ : Type)
  | refresh (e : LiveEvent)
  | client (s : σ) (e : ClientEvent)
  /-- A step of a call, a task or a hop; what the router itself answers to a call replaces the
  answer of the event. -/
  | net (e : Event (σ × Nat) κ)

/-- The requests that a connection has taken so far. -/
def Session.requests (s : Session) : List (RouterFrame × List UInt8) := s.frames.filter isRequest

/-- The request that the next turn of a connection forwards. -/
def Session.pending (cfg : Config) (s : Session) : Option Request :=
  if s.phase = .processing ∧ s.buf.length ≤ cfg.maxBufferSize then
    match tryDecodeRouter s.buf with
    | .ok (some frame) =>
      if frame.frameLen ≤ cfg.maxFrameSize ∧ frame.segment ≠ KEEPALIVE_SEGMENT then
        some (frame.request (s.buf.take frame.frameLen))
      else none
    | _ => none
  else none

/-- What a call has returned. -/
def Call.result? {κ : Type} (call : Call κ) : Option (Except ForwardError (List UInt8)) :=
  match call.prog with
  | .ret result => some result
  | .op _ _ => none

variable {σ κ : Type} [DecidableEq σ] [DecidableEq κ]

namespace Router

/-- All connections are fresh, the table is empty. -/
def init (su : Setup σ κ) : Router σ κ where
  refresh := LiveState.init su.rzid.mode
  net := Network.init su.forwarder su.requests su.capacity
  clients := fun s => Session.start (su.accepted s)

omit [DecidableEq σ] [DecidableEq κ] in
/-- The call of the request at which a client's connection stands. -/
def current (r : Router σ κ) (s : σ) : σ × Nat := (s, (r.clients s).requests.length)

omit [DecidableEq σ] [DecidableEq κ] in
/-- The connection of a client stands at its request `t`. -/
def Serves (su : Setup σ κ) (r : Router σ κ) (t : σ × Nat) : Prop :=
  r.current t.1 = t ∧ (r.clients t.1).pending su.config = some (su.requests t)

instance (su : Setup σ κ) (r : Router σ κ) (t : σ × Nat) : Decidable (r.Serves su t) :=
  inferInstanceAs (Decidable (_ ∧ _))

omit [DecidableEq σ] [DecidableEq κ] in
/-- What a call gets to an operation: table, registry and connection sets are the router's own. -/
def answer (su : Setup σ κ) (r : Router σ κ) : ForwardOp κ → Answer κ → Option (Answer κ)
  | .loadRouting, _ => some (.routing r.refresh.refresh.routing)
  | .getHop hopId, _ => some (.hop (r.refresh.hops.get hopId))
  | .nextConnection hop, .connection (some c) =>
    if su.hopOf c = hop then some (.connection (some c)) else none
  | _, choice => some choice

omit [DecidableEq σ] [DecidableEq κ] in
/-- A turn at a request has to wait for its call. -/
def Ready (su : Setup σ κ) (r : Router σ κ) (s : σ) : ClientEvent → Prop
  | .turn reply => (r.clients s).pending su.config ≠ none →
      r.Serves su (r.current s) ∧ (r.net.calls (r.current s)).result? = some reply.result
  | _ => True

instance (su : Setup σ κ) (r : Router σ κ) (s : σ) (e : ClientEvent) :
    Decidable (r.Ready su s e) :=
  match e with
  | .turn _ => inferInstanceAs (Decidable (_ → _ ∧ _))
  | .read _ _ | .eof _ | .readError _ | .idle _ | .cancel _ => inferInstanceAs (Decidable True)

/-- A step of the calls and connections. -/
def stepNet (su : Setup σ κ) (r : Router σ κ) (e : Event (σ × Nat) κ) : Option (Router σ κ) :=
  (r.net.step su.requests e).map (fun net => { r with net := net })

/-- One step of the router. -/
def step (su : Setup σ κ) (r : Router σ κ) : RouterEvent σ κ → Option (Router σ κ)
  | .refresh e => (r.refresh.step su.rzid e).map (fun refresh => { r with refresh := refresh })
  | .client s e =>
    if r.Ready su s e then
      ((r.clients s).step su.config e).map (fun client =>
        { r with clients := Function.update r.clients s client })
    else none
  | .net (.call t choice) =>
    match (r.net.calls t).prog with
    | .ret _ => none
    | .op o _ =>
      if r.Serves su t then
        match r.answer su o choice with
        | some a => r.stepNet su (.call t a)
        | none => none
      else none
  | .net e => r.stepNet su e

end Router

end RzRouter
