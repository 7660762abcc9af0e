import RzRouter.Library.Places
import RzRouter.Network.Writes
import RzRouter.Tiers.Answers

/-!
# A write through two routers

Each router writes a write at most once while its steps spare the writes.  Between them it is the
frame that the edge router has written which the zone router takes as a request, and as one request
only; so a write comes to one place of one connection at the far end.
-/

namespace RzRouter

open LittleEndian Network Places Program

/-! ## One router -/

section Network

variable {ι κ : Type} [DecidableEq ι] [DecidableEq κ] {fw : Forwarder} {reqs : ι → Request}
  {net net' : Network ι κ}

omit [DecidableEq ι] [DecidableEq κ] in
theorem Network.writeSafe_init (fw : Forwarder) (reqs : ι → Request) (capacity : κ → Nat) :
    WriteSafe fw reqs (Network.init fw reqs capacity : Network ι κ) :=
  ⟨following_init capacity, shape_init fw reqs capacity, writeInvariant_init fw reqs capacity⟩

theorem Network.writeSafe_step {e : Event ι κ} (h : WriteSafe fw reqs net)
    (hspares : SparesWrites reqs net e) (hstep : net.step reqs e = some net') :
    WriteSafe fw reqs net' :=
  ⟨following_step h.follows hstep, shape_step h.follows h.shape hstep,
    writeInvariant_step h.follows h.shape h.writes hspares hstep⟩

omit [DecidableEq ι] [DecidableEq κ] in
/-- The frames of a write that are written are one frame. -/
theorem Network.WriteSafe.place {t : ι} {c c' : κ} {i i' : Nat} (hsafe : WriteSafe fw reqs net)
    (hwrite : (reqs t).isWrite = true) (h : net.WrittenAt t c i) (h' : net.WrittenAt t c' i') :
    c = c' ∧ i = i' := by
  have hlive : ∀ {c : κ} {i : Nat} {out : Outgoing} {tx : Nat} {id : UInt32},
      (net.shared.conns c).wire[i]? = some out → out.tx = some tx →
      net.shared.ident tx = some (t, c, id) → (net.calls t).phase.Holds tx := by
    intro c i out tx id hwire htx hident
    obtain ⟨tx', bytes⟩ := out
    change tx' = some tx at htx
    subst htx
    exact hsafe.writes.live c tx t id (Or.inl (Or.inl ⟨bytes, List.mem_of_getElem? hwire⟩))
      hident hwrite
  obtain ⟨out, tx, id, hwire, htx, hident⟩ := h
  obtain ⟨out', tx', id', hwire', htx', hident'⟩ := h'
  -- a call holds one channel, so both frames belong to one try
  have heq := holds_unique (hlive hwire htx hident) (hlive hwire' htx' hident')
  subst heq
  rw [hident] at hident'
  cases hident'
  exact ⟨rfl, place_unique hsafe.shape hwire hwire' htx htx'⟩

end Network

namespace Router

variable {σ κ : Type} [DecidableEq σ] [DecidableEq κ] {su : Setup σ κ} {r r' : Router σ κ}

omit [DecidableEq σ] in
/-- The step, if it is one of the calls and connections, spares the writes. -/
def SparesWrites (su : Setup σ κ) (r : Router σ κ) : RouterEvent σ κ → Prop
  | .net e => Network.SparesWrites su.requests r.net e
  | _ => True

theorem writeSafe_step {e : RouterEvent σ κ} (h : WriteSafe su.forwarder su.requests r.net)
    (hspares : r.SparesWrites su e) (hstep : r.step su e = some r') :
    WriteSafe su.forwarder su.requests r'.net := by
  cases routerStep hstep with
  | refresh | client => exact h
  | call t choice a net hserves hanswer hnet =>
    -- what a call is answered has no part in the condition
    have hcall : Network.SparesWrites su.requests r.net (.call t a) := by
      constructor
      · intro tx t' c id hdrains
        exact hdrains.elim
      · intro t' answer heq
        cases heq
        exact Network.SparesWrites.cleanedUp hspares t choice rfl
    exact Network.writeSafe_step h hcall hnet
  | net e net hcall hnet => exact Network.writeSafe_step h hspares hnet

/-- A call that has begun belongs to a request that is taken, or to the one at which the connection
of the client stands. -/
def Begun (su : Setup σ κ) (r : Router σ κ) : Prop :=
  ∀ tx t c id, r.net.shared.ident tx = some (t, c, id) →
    t.2 < (r.clients t.1).requests.length ∨ r.Serves su t

omit [DecidableEq σ] [DecidableEq κ] in
theorem begun_of_same (h : Begun su r) (hclients : r'.clients = r.clients)
    (hident : r'.net.shared.ident = r.net.shared.ident) : Begun su r' := by
  intro tx t c id hx
  rw [hident] at hx
  have hold := h tx t c id hx
  unfold Serves current at hold ⊢
  rw [hclients]
  exact hold

theorem phase_of_pending {cfg : Config} {s : Session} {req : Request}
    (h : s.pending cfg = some req) : s.phase = .processing := by
  unfold Session.pending at h
  split at h
  · rename_i hready
    exact hready.1
  · cases h

theorem length_requests_of_step {cfg : Config} {s s' : Session} {e : ClientEvent}
    (hstep : s.step cfg e = some s') : s.requests.length ≤ s'.requests.length := by
  unfold Session.requests
  exact ((frames_prefix_of_step hstep).filter _).length_le

omit [DecidableEq κ] in
theorem begun_client {s : σ} {e : ClientEvent} {client : Session} (h : Begun su r)
    (hready : r.Ready su s e) (hstep : (r.clients s).step su.config e = some client) :
    Begun su { r with clients := Function.update r.clients s client } := by
  intro tx t c id hx
  by_cases hs : t.1 = s
  · subst hs
    left
    show t.2 < (Function.update r.clients t.1 client t.1).requests.length
    rw [Function.update_self]
    rcases h tx t c id hx with hlt | hserves
    · exact Nat.lt_of_lt_of_le hlt (length_requests_of_step hstep)
    · obtain ⟨hcurrent, hpending⟩ := hserves
      have hindex : (r.clients t.1).requests.length = t.2 := congrArg Prod.snd hcurrent
      have hphase := phase_of_pending hpending
      cases sessionStep hstep with
      | read delay bytes hreading =>
        rw [hphase] at hreading
        cases hreading
      | leave e delay reason hreading hread hturn hreason =>
        rw [hphase] at hreading
        cases hreading
      | turn reply hprocessing =>
        -- the turn at the request takes it
        obtain ⟨frame, hsegment, -, hturn⟩ := turn_of_pending hpending reply
        rw [hturn, requests_respond, requests_take hsegment, List.length_append, hindex]
        exact Nat.lt_succ_self _
  · rcases h tx t c id hx with hlt | hserves
    · left
      show t.2 < (Function.update r.clients s client t.1).requests.length
      rw [Function.update_of_ne hs]
      exact hlt
    · right
      unfold Serves current at hserves ⊢
      simp only [Function.update_of_ne hs]
      exact hserves

theorem begun_step {e : RouterEvent σ κ} (h : Begun su r) (hstep : r.step su e = some r') :
    Begun su r' := by
  cases routerStep hstep with
  | refresh => exact begun_of_same h rfl rfl
  | client s e client hready hclient => exact begun_client h hready hclient
  | call t choice a net hserves hanswer hnet =>
    intro tx t' c id hx
    obtain ⟨o, k, x, hprog, hserve, -, -⟩ := play_of_call hnet
    rcases ident_of_serve hserve hx with hold | ⟨c', id', -, heq⟩
    · exact h tx t' c id hold
    · cases heq
      exact Or.inr hserves
  | net e net hcall hnet => exact begun_of_same h rfl (calls_of_other hnet hcall).2

theorem begun_of_run {es : List (RouterEvent σ κ)}
    (hrun : Transition.run (step su) (init su) es = some r) : Begun su r := by
  refine Transition.invariant_of_run (I := Begun su) (fun r e r' h hstep => begun_step h hstep) ?_
    hrun
  intro tx t c id hident
  cases hident

end Router

section Checks

variable {ι κ : Type}

/-- The task of the event is not inside `fail_all`, the call of the event has nothing to clean
up. -/
def Network.outsideCleanUp (net : Network ι κ) : Event ι κ → Bool
  | .writer c _ => !(net.shared.conns c).writer.begunFailAll
  | .reader c _ => !(net.shared.conns c).reader.begunFailAll
  | .call t _ =>
    match (net.calls t).phase with
    | .aborted _ _ _ | .expired _ _ _ => false
    | _ => true
  | _ => true

theorem Network.sparesWrites_of_outsideCleanUp (reqs : ι → Request) (net : Network ι κ)
    (e : Event ι κ) (h : net.outsideCleanUp e = true) : SparesWrites reqs net e where
  drained := by
    intro tx t c id hdrains
    cases e with
    | writer c' choice =>
      obtain ⟨pc, hpc, -⟩ := hdrains
      simp [outsideCleanUp, hpc, Writer.begunFailAll] at h
    | reader c' choice =>
      obtain ⟨pc, hpc, -⟩ := hdrains
      simp [outsideCleanUp, hpc, Reader.begunFailAll] at h
    | call | keepalive | hop | shutdown => exact hdrains.elim
  cleanedUp := by
    intro t answer heq c id tx hphase
    subst heq
    rcases hphase with hphase | hphase
    · simp [outsideCleanUp, hphase] at h
    · simp [outsideCleanUp, hphase] at h

def Router.outsideCleanUp {σ κ : Type} (r : Router σ κ) : RouterEvent σ κ → Bool
  | .net e => r.net.outsideCleanUp e
  | _ => true

theorem Router.sparesWrites_of_outsideCleanUp {σ κ : Type} [DecidableEq κ] (su : Setup σ κ)
    (r : Router σ κ) (e : RouterEvent σ κ) (h : r.outsideCleanUp e = true) :
    r.SparesWrites su e := by
  cases e with
  | net e => exact Network.sparesWrites_of_outsideCleanUp _ _ e h
  | _ => trivial

end Checks

/-! ## Two routers -/

namespace Tiers

variable {σ κ ω ζ μ : Type} [DecidableEq σ] [DecidableEq κ] [DecidableEq ω] [DecidableEq ζ]
  [DecidableEq μ] {su : TierSetup σ κ ω ζ μ} {r r' : Tiers σ κ ω ζ μ}
  {es : List (TierEvent σ κ ω ζ μ)}

omit [DecidableEq σ] [DecidableEq ω] [DecidableEq ζ] in
/-- The step spares the writes of the router that makes it. -/
def SparesWrites (su : TierSetup σ κ ω ζ μ) (r : Tiers σ κ ω ζ μ) : TierEvent σ κ ω ζ μ → Prop
  | .edge e => r.edge.SparesWrites su.edge e
  | .zone z e => (r.zone z).SparesWrites (su.zone z) e

structure WriteSafe (su : TierSetup σ κ ω ζ μ) (r : Tiers σ κ ω ζ μ) : Prop where
  edge : Network.WriteSafe su.edge.forwarder su.edge.requests r.edge.net
  zone : ∀ z, Network.WriteSafe (su.zone z).forwarder (su.zone z).requests (r.zone z).net

theorem writeSafe_step {e : TierEvent σ κ ω ζ μ} (h : WriteSafe su r)
    (hspares : r.SparesWrites su e) (hstep : r.step su e = some r') : WriteSafe su r' := by
  have hzone : ∀ z e zone, (r.zone z).SparesWrites (su.zone z) e →
      (r.zone z).step (su.zone z) e = some zone →
      ∀ z', Network.WriteSafe (su.zone z').forwarder (su.zone z').requests
        (Function.update r.zone z zone z').net := by
    intro z e zone hspares hstep z'
    by_cases hz : z' = z
    · subst hz
      rw [Function.update_self]
      exact Router.writeSafe_step (h.zone z') hspares hstep
    · rw [Function.update_of_ne hz]
      exact h.zone z'
  cases tierStep hstep with
  | edge e edge hhop hedge => exact ⟨Router.writeSafe_step h.edge hspares hedge, h.zone⟩
  | zone z e zone hclient hzone' => exact ⟨h.edge, hzone z e zone hspares hzone'⟩
  | respond c e message edge zone hresponse hedge hzone' =>
    refine ⟨Router.writeSafe_step h.edge ?_ hedge,
      hzone (su.zoneOf c) (.client (.inl c) e) zone hspares hzone'⟩
    -- a message of the hop drains nothing
    constructor
    · intro tx t c id hdrains
      exact hdrains.elim
    · intro t answer heq
      cases heq

theorem writeSafe_of_run (hrun : Transition.run (step su) (init su) es = some r)
    (hspares : Transition.Meets (step su) (SparesWrites su) (init su) es) : WriteSafe su r :=
  Transition.invariant_of_meets (I := WriteSafe su) (fun _ _ _ h hcond hstep =>
      writeSafe_step h hcond hstep)
    ⟨Network.writeSafe_init _ _ _, fun _ => Network.writeSafe_init _ _ _⟩ hspares hrun

/-! ## The frame behind a request -/

/-- The frames of calls before the `k`-th that was written. -/
def requestsBefore (conn : Conn) (k : Nat) : Nat :=
  (conn.wire.take k).countP (fun out => out.tx.isSome)

omit [DecidableEq σ] [DecidableEq κ] in
theorem isSome_tx_of_sends {su : Setup σ κ} {r : Router σ κ} {c : κ} {out : Outgoing}
    {f : RouterFrame} (h : Router.Sends su r c out f) (bytes : List UInt8) :
    out.tx.isSome = isRequest (f, bytes) := by
  cases h with
  | keepalive _ htx hsegment =>
    rw [htx]
    exact (decide_eq_false (not_not.mpr hsegment)).symm
  | request tx t id f bytes htx hident hf hrequest hsegment hremote hsent =>
    rw [htx]
    exact (decide_eq_true hsegment).symm

/-- The zone router has taken as many requests as there were among the frames. -/
theorem requestsBefore_eq (hrun : Transition.run (step su) (init su) es = some r) {c : κ} {k : Nat}
    (hk : k ≤ (r.session su c).frames.length) :
    requestsBefore (r.edge.net.shared.conns c) k =
      ((r.session su c).frames.take k).countP isRequest := by
  refine count_of_agree (fun i hi => ?_)
  have hframe := List.getElem?_eq_getElem (Nat.lt_of_lt_of_le hi hk)
  obtain ⟨out, hout, -, hsends⟩ := frame_on_wire hrun hframe
  rw [hout, hframe, Option.map_some, Option.map_some, isSome_tx_of_sends hsends]

/-- A call of a zone router for a connection of the edge router belongs to a frame that the edge
router has written there. -/
theorem request_on_wire (hrun : Transition.run (step su) (init su) es = some r) {c : κ} {j tx : Nat}
    {b : μ} {id : UInt32}
    (hident : (r.zone (su.zoneOf c)).net.shared.ident tx = some ((.inl c, j), b, id)) :
    ∃ k out f, (r.edge.net.shared.conns c).wire[k]? = some out ∧
      requestsBefore (r.edge.net.shared.conns c) k = j ∧
      Router.Sends su.edge r.edge c out f ∧ f.segment ≠ KEEPALIVE_SEGMENT ∧
      (su.zone (su.zoneOf c)).requests (.inl c, j) = f.request out.bytes := by
  obtain ⟨zoneEvents, hzone⟩ := zone_of_run hrun (su.zoneOf c)
  rcases Router.begun_of_run hzone tx _ b id hident with htaken | ⟨hcurrent, hpending⟩
  · -- the zone router has taken the frame
    obtain ⟨f, hf⟩ : ∃ f, (r.session su c).requests[j]? = some f :=
      ⟨_, List.getElem?_eq_getElem htaken⟩
    obtain ⟨k, hk, hrequest, hcount⟩ := exists_place hf
    obtain ⟨out, hout, hbytes, hsends⟩ := frame_on_wire hrun hk
    refine ⟨k, out, f.1, hout, ?_, hsends, of_decide_eq_true hrequest, ?_⟩
    · rw [requestsBefore_eq hrun (Nat.le_of_lt (List.getElem?_eq_some_iff.mp hk).1)]
      exact hcount
    · rw [hbytes]
      exact (Router.served_of_run hzone).named (.inl c) j f hf
  · -- or stands at it
    obtain ⟨f, hdecode, hsegment, hrequest⟩ := pending_eq_some hpending
    change tryDecodeRouter (r.session su c).buf = _ at hdecode
    obtain ⟨rest, hrest, hfront⟩ := (joined_of_run hrun c).1.front (fun out hout => by
      obtain ⟨edgeEvents, hedge⟩ := edge_of_run hrun
      obtain ⟨f, hf, -⟩ := Router.sends_of_run hedge
        (List.mem_append_left _ (List.mem_append_left _ hout))
      exact ⟨f, hf⟩)
    cases hfront with
    | «open» hmore =>
      rw [hdecode] at hmore
      cases hmore
    | frame bytes others f' hcons hdecode' hlen hbuf hothers =>
      rw [hdecode] at hdecode'
      cases hdecode'
      have htake : (r.session su c).buf.take f.frameLen = bytes := by
        rw [hbuf, hlen, List.take_left]
      have hwire : ((r.edge.net.shared.conns c).wire.map Outgoing.bytes)[
          (r.session su c).frames.length]? = some bytes := by
        rw [hrest, hcons, List.getElem?_append_right (by rw [List.length_map]), List.length_map,
          Nat.sub_self, List.getElem?_cons_zero]
      rw [List.getElem?_map] at hwire
      obtain ⟨out, hout, hbytes⟩ := Option.map_eq_some_iff.mp hwire
      have hf : IsRouterFrame ((r.session su c).buf.take f.frameLen) f := isRouterFrame_take hdecode
      rw [htake, ← hbytes] at hf
      refine ⟨_, out, f, hout, ?_, sends_of_written hrun hout hf.tryDecodeRouter, hsegment, ?_⟩
      · rw [requestsBefore_eq hrun (Nat.le_refl _), List.take_length, List.countP_eq_length_filter]
        exact congrArg Prod.snd hcurrent
      · rw [hrequest, hbytes, ← htake]
        rfl

/-! ## A write at the far end -/

/-- A frame that is sent twice has the id of the second time. -/
theorem frameFor_again {f : RouterFrame} {bytes sent : List UInt8} {id : UInt32}
    (hf : IsRouterFrame bytes f) (hsent : sent = (f.request bytes).frameFor id) (id' : UInt32) :
    (({ f with originalClrid := id } : RouterFrame).request sent).frameFor id' =
      (f.request bytes).frameFor id' := by
  rw [hsent]
  apply overwrite_overwrite
  · rw [length_u32Bytes, length_u32Bytes]
  · rw [length_u32Bytes]
    exact hf.clrid_le

/-- Zone router `z` has written, as the `i`-th frame on connection `b`, a frame that came to it from
call `t` of the edge router. -/
def OnBridge (su : TierSetup σ κ ω ζ μ) (r : Tiers σ κ ω ζ μ) (t : σ × Nat) (z : ζ) (b : μ)
    (i : Nat) : Prop :=
  ∃ c k, su.zoneOf c = z ∧ r.edge.net.WrittenAt t c k ∧
    (r.zone z).net.WrittenAt (.inl c, requestsBefore (r.edge.net.shared.conns c) k) b i

/-- What a zone router writes for a connection of the edge router is what the edge router has
written there, under another id. -/
theorem onBridge_of_written (hrun : Transition.run (step su) (init su) es = some r) {c : κ}
    {j i : Nat} {b : μ} (h : (r.zone (su.zoneOf c)).net.WrittenAt (.inl c, j) b i) :
    ∃ t k out id, r.edge.net.WrittenAt t c k ∧
      requestsBefore (r.edge.net.shared.conns c) k = j ∧
      ((r.zone (su.zoneOf c)).net.shared.conns b).wire[i]? = some out ∧
      out.bytes = (su.edge.requests t).frameFor id ∧
      ((su.zone (su.zoneOf c)).requests (.inl c, j)).isWrite = (su.edge.requests t).isWrite := by
  obtain ⟨out, tx, id, hwire, htx, hident⟩ := h
  obtain ⟨k, sent, f, hsent, hbefore, hsends, hsegment, hrequest⟩ := request_on_wire hrun hident
  obtain ⟨zoneEvents, hzone⟩ := zone_of_run hrun (su.zoneOf c)
  obtain ⟨netEvents, hnet⟩ := Router.net_of_run hzone
  obtain ⟨t', id', hident', hlen, hbytes, -⟩ := (delivers_of_run hnet).shape.frame b out
    (List.mem_append_left _ (List.mem_append_left _ (List.mem_of_getElem? hwire))) tx htx
  rw [hident] at hident'
  cases hident'
  cases hsends with
  | keepalive _ htx hkeepalive => exact absurd hkeepalive hsegment
  | request tx' t id' f bytes htx' hident' hf hedge hsegment' hremote hframe =>
    refine ⟨t, k, out, id, ⟨sent, tx', id', hsent, htx', hident'⟩, hbefore, hwire, ?_, ?_⟩
    · rw [hrequest] at hlen hbytes
      rw [hbytes, hedge]
      exact (frameFor_again hf (hedge ▸ hframe) id)
    · rw [hrequest, hedge]
      rfl

section Network

variable {ι κ : Type} {net : Network ι κ} {t t' : ι} {c : κ} {k k' : Nat}

theorem call_of_place (h : net.WrittenAt t c k) (h' : net.WrittenAt t' c k) : t = t' := by
  obtain ⟨out, tx, id, hwire, htx, hident⟩ := h
  obtain ⟨out', tx', id', hwire', htx', hident'⟩ := h'
  rw [hwire] at hwire'
  cases hwire'
  rw [htx] at htx'
  cases htx'
  rw [hident] at hident'
  cases hident'
  rfl

theorem place_of_requestsBefore (h : net.WrittenAt t c k) (h' : net.WrittenAt t' c k')
    (hbefore : requestsBefore (net.shared.conns c) k = requestsBefore (net.shared.conns c) k') :
    k = k' := by
  obtain ⟨out, tx, id, hwire, htx, -⟩ := h
  obtain ⟨out', tx', id', hwire', htx', -⟩ := h'
  exact place_of_count hwire hwire' (by rw [htx]; rfl) (by rw [htx']; rfl) hbefore

end Network

/-- Every frame that a zone router writes for a request of the edge router is the frame of a call
of the edge router, which has written it to the zone router, under another id; and when both routers
spare their writes, a write is at one place of one connection of one zone router at most. -/
theorem writes_through_zones (su : TierSetup σ κ ω ζ μ) (es : List (TierEvent σ κ ω ζ μ))
    (r : Tiers σ κ ω ζ μ) (hrun : Transition.run (step su) (init su) es = some r) :
    (∀ c j b i, (r.zone (su.zoneOf c)).net.WrittenAt (.inl c, j) b i →
      ∃ t out id, OnBridge su r t (su.zoneOf c) b i ∧
        ((r.zone (su.zoneOf c)).net.shared.conns b).wire[i]? = some out ∧
        out.bytes = (su.edge.requests t).frameFor id) ∧
    (Transition.Meets (step su) (SparesWrites su) (init su) es →
      ∀ t, (su.edge.requests t).isWrite = true →
        ∀ z b i z' b' i', OnBridge su r t z b i → OnBridge su r t z' b' i' →
          z = z' ∧ b = b' ∧ i = i') := by
  constructor
  · intro c j b i h
    obtain ⟨t, k, out, id, hedge, rfl, hout, hbytes, -⟩ := onBridge_of_written hrun h
    exact ⟨t, out, id, ⟨c, k, rfl, hedge, h⟩, hout, hbytes⟩
  · intro hspares t hwrite z b i z' b' i' h h'
    have hsafe := writeSafe_of_run hrun hspares
    obtain ⟨c, k, rfl, hedge, hbridge⟩ := h
    obtain ⟨c', k', rfl, hedge', hbridge'⟩ := h'
    obtain ⟨rfl, rfl⟩ := hsafe.edge.place hwrite hedge hedge'
    -- the zone router knows the frame as a write too
    obtain ⟨t', k', out, id, hwritten, hbefore, -, -, hsame⟩ := onBridge_of_written hrun hbridge
    have hplace := place_of_requestsBefore hwritten hedge hbefore
    subst hplace
    rw [call_of_place hwritten hedge, hwrite] at hsame
    exact ⟨rfl, (hsafe.zone (su.zoneOf c)).place hsame hbridge hbridge'⟩

/-! ## A write for segment `lyon` -/

def lyonWrite : Request :=
  ⟨[0xFE, 15, 0, 0, 0, 4, 0x6C, 0x79, 0x6F, 0x6E, 1, 0xFF, 9, 0, 0, 0, 0, 0, 0, 0], "lyon", 12, 9,
    true⟩

/-- Zone `zone1` has one shard, with one bridge. -/
def zoneTick : Tick where
  answers :=
    { versions := .ok ⟨((∅ : FiniteMap String UInt64).insert "zones/zone1/shards" 1).insert
        "shards/s/segments" 1⟩
      zoneRouters := fun _ => .error (.http "zone routers: timeout")
      zoneSegments := fun _ => .error (.http "zone segments: timeout")
      zoneShards := fun _ => .ok (1, (∅ : FiniteMap String (List String)).insert "s" ["bridge1"])
      shardSegments := fun _ => .ok (1, "zone1", ["lyon"]) }
  zoneOrder := Iteration.ascending String
  topologyOrder := Iteration.ascending String
  shardOrder := Iteration.ascending String

def writingTiers : TierSetup Unit Unit Empty Unit Unit where
  edge := { Router.lyonSetup with requests := fun _ => lyonWrite }
  zone := fun z =>
    { lyonTiers.zone z with requests := fun _ => ⟨lyonWrite.frameFor 1, "lyon", 12, 1, true⟩ }
  zoneOf := fun _ => ()

/-- A router gets its table, its client asks, and the frame is written to the hop. -/
def forwards {σ : Type} (s : σ) (tick : Tick) (frame : List UInt8) : List (RouterEvent σ Unit) :=
  [.refresh (.tick tick), .refresh .getOrCreate, .refresh .retireUnused, .refresh .store,
    .client s (.read 1 frame)] ++
  List.replicate 2 (.net (.call (s, 0) .state)) ++
  [.net (.call (s, 0) (.connection (some ())))] ++
  List.replicate 4 (.net (.call (s, 0) .state)) ++
  [.net (.call (s, 0) (.instant 0))] ++
  List.replicate 2 (.net (.call (s, 0) .state)) ++
  List.replicate 4 (.net (.writer () .proceed))

def writtenThrough : List (TierEvent Unit Unit Empty Unit Unit) :=
  (forwards () Router.lyonTick lyonWrite.frame).map .edge ++
    (forwards (.inl ()) zoneTick (lyonWrite.frameFor 1)).map (.zone ())

/-- The router of the event is not inside `fail_all` or a clean-up. -/
def outsideCleanUp (r : Tiers Unit Unit Empty Unit Unit) :
    TierEvent Unit Unit Empty Unit Unit → Bool
  | .edge e => r.edge.outsideCleanUp e
  | .zone z e => (r.zone z).outsideCleanUp e

theorem sparesWrites_of_outsideCleanUp (su : TierSetup Unit Unit Empty Unit Unit)
    (r : Tiers Unit Unit Empty Unit Unit) (e : TierEvent Unit Unit Empty Unit Unit)
    (h : outsideCleanUp r e = true) : SparesWrites su r e := by
  cases e with
  | edge e => exact Router.sparesWrites_of_outsideCleanUp _ _ e h
  | zone z e => exact Router.sparesWrites_of_outsideCleanUp _ _ e h

theorem writes_through_zones_lyon :
    ∃ r, Transition.run (step writingTiers) (init writingTiers) writtenThrough = some r ∧
      OnBridge writingTiers r ((), 0) () () 0 ∧
      ∀ z b i, OnBridge writingTiers r ((), 0) z b i → i = 0 := by
  obtain ⟨r, hrun, hr⟩ := Option.map_eq_some_iff.mp (show
    (Transition.run (step writingTiers) (init writingTiers) writtenThrough).map
      (fun r => ((r.edge.net.shared.conns ()).wire[0]?, r.edge.net.shared.ident 0,
        ((r.zone ()).net.shared.conns ()).wire[0]?, (r.zone ()).net.shared.ident 0)) =
    some (some ⟨some 0, lyonWrite.frameFor 1⟩, some (((), 0), (), 1),
      some ⟨some 0, lyonWrite.frameFor 1⟩, some ((.inl (), 0), (), 1)) from rfl)
  simp only [Prod.mk.injEq] at hr
  obtain ⟨hedge, hedge', hzone, hzone'⟩ := hr
  have hbridge : OnBridge writingTiers r ((), 0) () () 0 :=
    ⟨(), 0, rfl, ⟨_, 0, 1, hedge, rfl, hedge'⟩, ⟨_, 0, 1, hzone, rfl, hzone'⟩⟩
  have hspares : Transition.Meets (step writingTiers) (SparesWrites writingTiers)
      (init writingTiers) writtenThrough :=
    Transition.meets_of_checks (sparesWrites_of_outsideCleanUp _) (by decide)
  refine ⟨r, hrun, hbridge, fun z b i h => ?_⟩
  obtain ⟨-, hunique⟩ := writes_through_zones writingTiers _ r hrun
  exact (hunique hspares ((), 0) rfl z b i () () 0 h hbridge).2.2

end Tiers

end RzRouter
