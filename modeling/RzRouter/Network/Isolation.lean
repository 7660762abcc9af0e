import RzRouter.Network.Responses
import RzRouter.Network.Writes

/-!
# Isolation of the calls on a connection

The result about responses: while the ids of a connection have not come round and its hop echoes
the clrids that it receives, every call gets the answer to its own frame, and no answer reaches two
calls, whatever the order of ids, waiters, time-outs, late and repeated answers.
-/

namespace RzRouter

open LittleEndian Program

variable {ι κ : Type}

namespace Network

/-- The clrid that a hop reads in a frame: in that of a call, the four bytes at the clrid offset of
its request; a keepalive carries 0. -/
def CarriesClrid (reqs : ι → Request) (net : Network ι κ) (out : Outgoing) (clrid : UInt32) :
    Prop :=
  match out.tx with
  | none => clrid = 0
  | some tx => ∃ t c id, net.shared.ident tx = some (t, c, id) ∧
      (out.bytes.drop (reqs t).clridOffset).take 4 = u32Bytes clrid

/-- The hop sends responses: answers with the clrid of a frame that it has received, and others
with the clrid 0 or one that was never issued. -/
def HopEchoes (reqs : ι → Request) (net : Network ι κ) (c : κ) : Prop :=
  ∀ message ∈ (net.shared.conns c).sent, ∃ clrid, IsResponse message.bytes clrid ∧
    match message.answers with
    | some i => ∃ out, (net.shared.conns c).wire[i]? = some out ∧ net.CarriesClrid reqs out clrid
    | none => clrid = 0 ∨ (net.shared.conns c).drawn < clrid.toNat

/-- The `index`-th response of connection `c` was delivered to call `t`. -/
def DeliveredTo (net : Network ι κ) (c : κ) (index : Nat) (t : ι) : Prop :=
  ∃ tx id response, net.shared.ident tx = some (t, c, id) ∧
    net.shared.state tx = some (.received index response)

/-- Message `message` of the hop answers the frame that call `t` sent for the channel `tx`. -/
def AnswersFrameOf (reqs : ι → Request) (net : Network ι κ) (c : κ) (message : Incoming) (t : ι)
    (id : UInt32) (tx : Nat) : Prop :=
  ∃ i out, message.answers = some i ∧ (net.shared.conns c).wire[i]? = some out ∧
    out.tx = some tx ∧ net.shared.ident tx = some (t, c, id) ∧ out.bytes = (reqs t).frameFor id

/-- The clrid in the frame of a try is the id of the try. -/
theorem clrid_of_frameFor {req : Request} (hlen : req.clridOffset + 4 ≤ req.frame.length)
    (id : UInt32) : ((req.frameFor id).drop req.clridOffset).take 4 = u32Bytes id := by
  have hlen' : req.clridOffset + (u32Bytes id).length ≤ req.frame.length := by
    rw [length_u32Bytes]
    exact hlen
  have hslice := slice_overwrite req.frame req.clridOffset (req.clridOffset + 4) (u32Bytes id)
    (by rw [length_u32Bytes]) (by omega) (by omega) (by rw [length_overwrite _ _ _ hlen']; exact hlen)
  unfold slice at hslice
  rw [Nat.add_sub_cancel_left] at hslice
  exact hslice

/-- A response of an echoing hop that carries the id of a channel answers the frame of this
channel. -/
theorem answersFrameOf_of_clrid {fw : Forwarder} {reqs : ι → Request} {net : Network ι κ} {c : κ}
    (h : Delivers fw reqs net) (hdrawn : (net.shared.conns c).drawn < 2 ^ 32)
    (hhop : net.HopEchoes reqs c) {message : Incoming}
    (hmessage : message ∈ (net.shared.conns c).sent) {t : ι} {id : UInt32} {tx : Nat}
    (hident : net.shared.ident tx = some (t, c, id)) (hresponse : IsResponse message.bytes id) :
    net.AnswersFrameOf reqs c message t id tx := by
  obtain ⟨hpos, hle⟩ := h.ids.channel c hdrawn tx t id hident
  have hne : id ≠ 0 := by
    rintro rfl
    exact Nat.lt_irrefl _ hpos
  obtain ⟨clrid, hclrid, hanswers⟩ := hhop message hmessage
  rw [hclrid.clrid_unique hresponse] at hanswers
  unfold AnswersFrameOf
  cases hi : message.answers with
  | none =>
    rw [hi] at hanswers
    rcases hanswers with hzero | hlarge
    · exact absurd hzero hne
    · omega
  | some i =>
    rw [hi] at hanswers
    obtain ⟨out, hwire, hcarries⟩ := hanswers
    unfold CarriesClrid at hcarries
    refine ⟨i, out, rfl, hwire, ?_⟩
    cases htx : out.tx with
    | none =>
      rw [htx] at hcarries
      exact absurd hcarries hne
    | some tx' =>
      rw [htx] at hcarries
      obtain ⟨t'', c'', id'', hident'', hbytes⟩ := hcarries
      have hframes : out ∈ (net.shared.conns c).frames :=
        List.mem_append_left _ (List.mem_append_left _ (List.mem_of_getElem? hwire))
      obtain ⟨t', id', hident', hlen, hframe, -⟩ := h.shape.frame c out hframes tx' htx
      rw [hident', Option.some.injEq, Prod.mk.injEq] at hident''
      rw [← hident''.1, hframe, clrid_of_frameFor hlen] at hbytes
      rw [u32Bytes_inj hbytes] at hident' hframe
      -- ids are unique, so the two channels are one
      have hsame := h.ids.unique c hdrawn tx' tx t' t id hident' hident
      rw [hsame, hident, Option.some.injEq, Prod.mk.injEq] at hident'
      rw [← hident'.1] at hframe
      exact ⟨by rw [hsame], hident, hframe⟩

theorem restoreClrid_of_isResponse {response : List UInt8} {id : UInt32}
    (h : IsResponse response id) (originalClrid : UInt32) :
    9 ≤ response.length ∧ restoreClrid response originalClrid =
      response.take 1 ++ u32Bytes originalClrid ++ response.drop 5 := by
  obtain ⟨payload, -, rfl⟩ := h
  have hlen : 9 ≤ (responseFrame id payload).length := by
    rw [length_responseFrame]
    exact Nat.le_add_right 9 _
  unfold restoreClrid
  rw [if_pos hlen]
  unfold overwrite
  rw [length_u32Bytes]
  exact ⟨hlen, rfl⟩

/-- What a call returns is an answer that it builds itself, or the response in the channel of one of
its tries, with the clrid put back. -/
theorem answer_of_returned {fw : Forwarder} {reqs : ι → Request} {net : Network ι κ}
    (h : Delivers fw reqs net) {t : ι} {b : List UInt8}
    (hprog : (net.calls t).prog = .ret (.ok b)) :
    LocalAnswer fw (reqs t) b ∨
      ∃ c id tx index response, net.shared.ident tx = some (t, c, id) ∧
        net.shared.state tx = some (.received index response) ∧ IsResponse response id ∧
        b = restoreClrid response (reqs t).originalClrid := by
  have hpost := h.follows t
  rw [hprog] at hpost
  cases hphase : (net.calls t).phase with
  | free =>
    rw [hphase] at hpost
    rcases hpost with ⟨e, he⟩ | ⟨response, hresponse, hlocal⟩
    · cases he
    · cases hresponse
      exact Or.inl hlocal
  | answered c id tx response =>
    rw [hphase] at hpost
    have hident := h.shape.current t c id tx (by rw [hphase]; rfl)
    obtain ⟨index, hstate⟩ := h.delivery.answered t c id tx response hphase
    have hresponse := (h.delivery.received tx index response hstate t c id hident).1
    exact Or.inr ⟨c, id, tx, index, response, hident, hstate, hresponse, Except.ok.inj hpost.2⟩
  | drawn c id =>
    rw [hphase] at hpost
    obtain ⟨e, he⟩ := hpost
    cases he
  | unsure tx =>
    rw [hphase] at hpost
    cases hpost
  | _ =>
    rw [hphase] at hpost
    exact hpost.elim

/-- The response in a channel is the message that an echoing hop has sent for the frame of this
channel. -/
theorem message_of_received {fw : Forwarder} {reqs : ι → Request} {net : Network ι κ} {c : κ}
    (h : Delivers fw reqs net) (hdrawn : (net.shared.conns c).drawn < 2 ^ 32)
    (hhop : net.HopEchoes reqs c) {t : ι} {id : UInt32} {tx index : Nat} {response : List UInt8}
    (hident : net.shared.ident tx = some (t, c, id))
    (hstate : net.shared.state tx = some (.received index response)) :
    ∃ message, (net.shared.conns c).sent[index]? = some message ∧ message.bytes = response ∧
      net.AnswersFrameOf reqs c message t id tx := by
  have hsends : (net.shared.conns c).SendsResponses := fun message hmessage =>
    let ⟨clrid, hclrid, _⟩ := hhop message hmessage
    ⟨clrid, hclrid⟩
  have hresponse := (h.delivery.received tx index response hstate t c id hident).1
  -- the response in the channel is the frame the hop sent at this index
  have hfaithful := h.delivery.faithful tx index response t c id hsends hident hstate
  rw [List.getElem?_map] at hfaithful
  obtain ⟨message, hmessage, rfl⟩ := Option.map_eq_some_iff.mp hfaithful
  -- its clrid is the call's own, and no other frame on the wire has it
  exact ⟨message, hmessage, rfl, answersFrameOf_of_clrid h hdrawn hhop
    (List.mem_of_getElem? hmessage) hident hresponse⟩

section Results

variable [DecidableEq ι] [DecidableEq κ]

/-- Every answer that a call returns is one that it builds itself or one that a connection has
delivered to it.  Before the ids of this connection come round, and if its hop echoes the clrids, it
is the answer of the hop to the call's own frame, with the call's own clrid.  No answer goes to two
calls. -/
theorem responses_isolated (fw : Forwarder) (reqs : ι → Request) (capacity : κ → Nat)
    (es : List (Event ι κ)) (net : Network ι κ)
    (hrun : Transition.run (step reqs) (init fw reqs capacity) es = some net) :
    (∀ t b, (net.calls t).prog = .ret (.ok b) → LocalAnswer fw (reqs t) b ∨
      ∃ c index, net.DeliveredTo c index t ∧
        ((net.shared.conns c).drawn < 2 ^ 32 → net.HopEchoes reqs c →
          ∃ id tx message, (net.shared.conns c).sent[index]? = some message ∧
            net.AnswersFrameOf reqs c message t id tx ∧ 9 ≤ message.bytes.length ∧
            b = message.bytes.take 1 ++ u32Bytes (reqs t).originalClrid ++
              message.bytes.drop 5)) ∧
    ∀ c index t t', net.DeliveredTo c index t → net.DeliveredTo c index t' → t = t' := by
  have h := delivers_of_run hrun
  constructor
  · intro t b hprog
    rcases answer_of_returned h hprog with
      hlocal | ⟨c, id, tx, index, response, hident, hstate, hresponse, hb⟩
    · exact Or.inl hlocal
    · refine Or.inr ⟨c, index, ⟨tx, id, response, hident, hstate⟩, fun hdrawn hhop => ?_⟩
      obtain ⟨message, hmessage, rfl, hanswers⟩ :=
        message_of_received h hdrawn hhop hident hstate
      obtain ⟨hlen, hrestore⟩ := restoreClrid_of_isResponse hresponse (reqs t).originalClrid
      exact ⟨id, tx, message, hmessage, hanswers, hlen, hb.trans hrestore⟩
  · rintro c index t t' ⟨tx, id, response, hident, hstate⟩ ⟨tx', id', response', hident', hstate'⟩
    -- two channels with the same index are the same channel
    obtain rfl := h.delivery.once c index tx tx' response response' t t' id id' hident hident'
      hstate hstate'
    rw [hident] at hident'
    cases hident'
    rfl

/-- A write is answered with the frame that the hop sent for it; the client's clrid is back in the
answer. -/
theorem responses_isolated_paris :
    ∃ net b, Transition.run (step fun _ => parisWrite) oneWrite
        (tries false ++ writes false ++ [.hop false ⟨some 0, responseFrame 1 [42]⟩,
          .reader false (.read 10)] ++ List.replicate 3 (.reader false .proceed) ++
          [.call () .state]) = some net ∧
      (net.calls ()).prog = .ret (.ok b) ∧ b = responseFrame 7 [42] ∧
      ∃ index message, net.DeliveredTo false index () ∧
        (net.shared.conns false).sent[index]? = some message ∧
        net.AnswersFrameOf (fun _ => parisWrite) false message () 1 0 := by
  obtain ⟨net, hrun, hnet⟩ := Option.map_eq_some_iff.mp (show
    (Transition.run (step fun _ => parisWrite) oneWrite
        (tries false ++ writes false ++ [.hop false ⟨some 0, responseFrame 1 [42]⟩,
          .reader false (.read 10)] ++ List.replicate 3 (.reader false .proceed) ++
          [.call () .state])).map
      (fun net => ((net.calls ()).prog, (net.shared.conns false).sent,
        (net.shared.conns false).wire[0]?, (net.shared.conns false).drawn,
        net.shared.channels.map (fun ch => (ch.owner, ch.conn, ch.corrId)))) =
    some (.ret (.ok (responseFrame 7 [42])), [⟨some 0, responseFrame 1 [42]⟩],
      some ⟨some 0, parisWrite.frameFor 1⟩, 1, [((), false, 1)]) from rfl)
  simp only [Prod.mk.injEq] at hnet
  obtain ⟨hprog, hsent, hwire, hdrawn, hchannels⟩ := hnet
  -- the call has made one try
  have hident : ∀ tx, net.shared.ident tx = if tx = 0 then some ((), false, 1) else none := by
    intro tx
    have hmap := congrArg (fun channels => channels[tx]?) hchannels
    rw [List.getElem?_map] at hmap
    unfold Shared.ident
    rw [hmap]
    cases tx with
    | zero => rfl
    | succ tx => rfl
  have hhop : net.HopEchoes (fun _ => parisWrite) false := by
    intro message hmessage
    rw [hsent, List.mem_singleton] at hmessage
    subst hmessage
    refine ⟨1, ⟨[42], by decide, rfl⟩, _, hwire, (), false, 1, hident 0, ?_⟩
    exact clrid_of_frameFor (by decide) 1
  rcases (responses_isolated ⟨3, []⟩ _ _ _ net hrun).1 () _ hprog with
    hlocal | ⟨c, index, hdelivered, hforwarded⟩
  · rcases hlocal with ⟨hsegment, -⟩ | ⟨hsegment, -⟩
    · exact absurd hsegment (by decide)
    · exact absurd hsegment (by decide)
  · obtain ⟨tx, id, response, hident', hstate⟩ := hdelivered
    rw [hident] at hident'
    split at hident'
    · cases hident'
      obtain ⟨id', tx', message, hmessage, hanswers, -⟩ :=
        hforwarded (by rw [hdrawn]; decide) hhop
      have htry := hanswers
      obtain ⟨i, out, -, -, -, hident'', -⟩ := htry
      rw [hident] at hident''
      split at hident''
      · rename_i htx
        subst htx
        cases hident''
        exact ⟨net, _, hrun, hprog, rfl, index, message,
          ⟨tx, 1, response, by rw [hident, if_pos ‹tx = 0›], hstate⟩, hmessage, hanswers⟩
      · cases hident''
    · cases hident'

end Results

end Network

end RzRouter
