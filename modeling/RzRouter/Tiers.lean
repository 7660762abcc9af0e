import RzRouter.Router.Sent

/-!
# Edge routers and zone routers

A request goes through two routers: the hops of an edge router are zone routers, and each of its
connections is a client of one of them.  A zone router has other clients, and hops of its own.  The
two routers of a connection share nothing but the two byte streams between them: a read brings what
the other side has written and not yet been read.  A frame or a response of which only a part could
be written is the end of its stream, and reaches nobody.
-/

namespace RzRouter

open Network Program

/-- An edge router, and zone routers named by `ζ`, with other clients `ω` and hop connections `μ`;
every connection of the edge router leads to one of them. -/
structure TierSetup (σ κ ω ζ μ : Type) where
  edge : Setup σ κ
  zone : ζ → Setup (κ ⊕ ω) μ
  zoneOf : κ → ζ

structure Tiers (σ κ ω ζ μ : Type) where
  edge : Router σ κ
  zone : ζ → Router (κ ⊕ ω) μ

inductive TierEvent (σ κ ω ζ μ : Type)
  | edge (e : RouterEvent σ κ)
  | zone (z : ζ) (e : RouterEvent (κ ⊕ ω) μ)

/-- The bytes that were written to a connection. -/
def Conn.written (c : Conn) : List UInt8 := (c.wire.map Outgoing.bytes).flatten

namespace Tiers

variable {σ κ ω ζ μ : Type} [DecidableEq σ] [DecidableEq κ] [DecidableEq ω] [DecidableEq ζ]
  [DecidableEq μ]

def init (su : TierSetup σ κ ω ζ μ) : Tiers σ κ ω ζ μ where
  edge := Router.init su.edge
  zone := fun z => Router.init (su.zone z)

omit [DecidableEq σ] [DecidableEq κ] [DecidableEq ω] [DecidableEq ζ] [DecidableEq μ] in
/-- The connection of the edge router, as its zone router sees it. -/
def session (su : TierSetup σ κ ω ζ μ) (r : Tiers σ κ ω ζ μ) (c : κ) : Session :=
  (r.zone (su.zoneOf c)).clients (.inl c)

omit [DecidableEq σ] [DecidableEq κ] [DecidableEq ω] [DecidableEq ζ] [DecidableEq μ] in
/-- A read of the zone router brings bytes that the edge router has written. -/
def Arrives (su : TierSetup σ κ ω ζ μ) (r : Tiers σ κ ω ζ μ) (c : κ) : ClientEvent → Prop
  | .read _ bytes =>
      (r.session su c).received ++ bytes <+: (r.edge.net.shared.conns c).written
  | _ => True

instance (su : TierSetup σ κ ω ζ μ) (r : Tiers σ κ ω ζ μ) (c : κ) (e : ClientEvent) :
    Decidable (r.Arrives su c e) :=
  match e with
  | .read _ _ => inferInstanceAs (Decidable (_ <+: _))
  | .turn _ | .eof _ | .readError _ | .idle _ | .cancel _ => inferInstanceAs (Decidable True)

omit [DecidableEq σ] [DecidableEq κ] [DecidableEq ω] [DecidableEq ζ] [DecidableEq μ] in
/-- The response that a step of the zone router writes to the edge router. -/
def response? (su : TierSetup σ κ ω ζ μ) (r : Tiers σ κ ω ζ μ) (c : κ) :
    ClientEvent → Option Incoming
  | .turn reply =>
    match (r.session su c).pending (su.zone (su.zoneOf c)).config with
    | some req =>
      if reply.write = .done then
        some ⟨some (r.session su c).frames.length, reply.response req.originalClrid⟩
      else none
    | none => none
  | _ => none

/-- A step of a zone router that does not concern the edge router. -/
def stepZone (su : TierSetup σ κ ω ζ μ) (r : Tiers σ κ ω ζ μ) (z : ζ)
    (e : RouterEvent (κ ⊕ ω) μ) : Option (Tiers σ κ ω ζ μ) :=
  ((r.zone z).step (su.zone z) e).map (fun zone =>
    { r with zone := Function.update r.zone z zone })

/-- One step of one of the routers.  What the edge router gets from its hops is what the zone
routers write. -/
def step (su : TierSetup σ κ ω ζ μ) (r : Tiers σ κ ω ζ μ) :
    TierEvent σ κ ω ζ μ → Option (Tiers σ κ ω ζ μ)
  | .edge (.net (.hop _ _)) => none
  | .edge e => (r.edge.step su.edge e).map (fun edge => { r with edge := edge })
  | .zone z (.client (.inl c) e) =>
    if su.zoneOf c = z ∧ r.Arrives su c e then
      match r.response? su c e with
      | none => r.stepZone su z (.client (.inl c) e)
      | some message =>
        (r.edge.step su.edge (.net (.hop c message))).bind (fun edge =>
          { r with edge := edge }.stepZone su z (.client (.inl c) e))
    else none
  | .zone z e => r.stepZone su z e

end Tiers

end RzRouter
