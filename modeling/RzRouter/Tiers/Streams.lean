import RzRouter.Client.SizeLimits
import RzRouter.Tiers

/-!
# The streams between two routers

A zone router takes the frames off a connection exactly as the edge router has written them, since
all of them are valid; and what the edge router gets back are the answers of the zone router's
calls, each with the place of the frame that it answers.
-/

namespace RzRouter

open Network Program

/-! ## One way: frames -/

/-- The session has taken frames that were written to the connection, in order, and holds what
follows them. -/
structure Fed (s : Session) (conn : Conn) : Prop where
  cut : s.received = (s.frames.map Prod.snd).flatten ++ s.buf
  taken : s.frames.map Prod.snd <+: conn.wire.map Outgoing.bytes
  stream : s.received <+: conn.written

section Fed

variable {cfg : Config} {s s' : Session} {conn conn' : Conn}

theorem fed_start (now capacity : Nat) : Fed (Session.start now) (Conn.new capacity) :=
  ⟨rfl, List.prefix_rfl, List.prefix_rfl⟩

theorem Fed.of_wire (h : Fed s conn) (hwire : conn.wire <+: conn'.wire) : Fed s conn' := by
  obtain ⟨later, hlater⟩ := hwire
  refine ⟨h.cut, h.taken.trans ?_, h.stream.trans ?_⟩
  · rw [← hlater, List.map_append]
    exact List.prefix_append _ _
  · unfold Conn.written
    rw [← hlater, List.map_append, List.flatten_append]
    exact List.prefix_append _ _

theorem Fed.of_same (h : Fed s conn) (hreceived : s'.received = s.received)
    (hframes : s'.frames = s.frames) (hbuf : s'.buf = s.buf) : Fed s' conn := by
  refine ⟨?_, ?_, ?_⟩
  · rw [hreceived, hframes, hbuf]
    exact h.cut
  · rw [hframes]
    exact h.taken
  · rw [hreceived]
    exact h.stream

/-- The buffer begins with the next frame that was written. -/
theorem Fed.front (h : Fed s conn) (hvalid : ∀ out ∈ conn.wire, ∃ f, IsRouterFrame out.bytes f) :
    ∃ rest, conn.wire.map Outgoing.bytes = s.frames.map Prod.snd ++ rest ∧ FrontOf rest s.buf := by
  obtain ⟨rest, hrest⟩ := h.taken
  refine ⟨rest, hrest.symm, frontOf_prefix (fun bytes hbytes => ?_) ?_⟩
  · have hmem : bytes ∈ conn.wire.map Outgoing.bytes := by
      rw [← hrest]
      exact List.mem_append_right _ hbytes
    obtain ⟨out, hout, rfl⟩ := List.mem_map.mp hmem
    exact hvalid out hout
  · have hstream := h.stream
    unfold Conn.written at hstream
    rw [h.cut, ← hrest, List.flatten_append] at hstream
    exact (List.prefix_append_right_inj _).mp hstream

theorem fed_take (h : Fed s conn) (hvalid : ∀ out ∈ conn.wire, ∃ f, IsRouterFrame out.bytes f)
    {frame : RouterFrame} (hdecode : tryDecodeRouter s.buf = .ok (some frame)) :
    Fed (s.take frame) conn := by
  obtain ⟨rest, hrest, hfront⟩ := h.front hvalid
  cases hfront with
  | «open» hmore =>
    rw [hdecode] at hmore
    cases hmore
  | frame bytes others f hcons hdecode' hlen hbuf hothers =>
    rw [hdecode] at hdecode'
    cases hdecode'
    have htake : s.buf.take frame.frameLen = bytes := by
      rw [hbuf, hlen, List.take_left]
    refine ⟨?_, ?_, h.stream⟩
    · show s.received = ((s.frames ++ [(frame, s.buf.take frame.frameLen)]).map Prod.snd).flatten ++
        s.buf.drop frame.frameLen
      rw [List.map_append, List.flatten_append, List.append_assoc, List.map_singleton,
        List.flatten_singleton, List.take_append_drop]
      exact h.cut
    · show (s.frames ++ [(frame, s.buf.take frame.frameLen)]).map Prod.snd <+: _
      rw [List.map_append, List.map_singleton, htake, hrest, hcons, List.append_cons _ bytes others]
      exact List.prefix_append _ _

/-- Frames that are valid are never given up: every step of the session keeps the place. -/
theorem fed_step {e : ClientEvent} (h : Fed s conn)
    (hvalid : ∀ out ∈ conn.wire, ∃ f, IsRouterFrame out.bytes f)
    (harrives : ∀ delay bytes, e = .read delay bytes → s.received ++ bytes <+: conn.written)
    (hstep : s.step cfg e = some s') : Fed s' conn := by
  cases sessionStep hstep with
  | read delay bytes hphase =>
    refine ⟨?_, h.taken, harrives delay bytes rfl⟩
    show s.received ++ bytes = (s.frames.map Prod.snd).flatten ++ (s.buf ++ bytes)
    rw [h.cut, List.append_assoc]
  | leave e delay reason hphase => exact h.of_same rfl rfl rfl
  | turn reply hphase =>
    have hturn := turnStep cfg s reply
    generalize s.turn cfg reply = s' at hturn
    obtain ⟨rest, -, hfront⟩ := h.front hvalid
    cases hturn with
    | keepalive frame hdecode => exact fed_take h hvalid hdecode
    | forward frame hdecode =>
      have hsame := sameInput_respond (s.take frame) frame.originalClrid reply
      exact (fed_take h hvalid hdecode).of_same hsame.received hsame.frames hsame.buf
    | resync e hdecode => exact absurd hdecode hfront.ne_error
    | discard e hdecode => exact absurd hdecode hfront.ne_error
    | _ => exact h.of_same rfl rfl rfl

end Fed

/-! ## The other way: answers -/

namespace Router

variable {σ κ : Type} [DecidableEq σ] [DecidableEq κ] {su : Setup σ κ} {r r' : Router σ κ}

theorem frames_prefix_of_step {cfg : Config} {s s' : Session} {e : ClientEvent}
    (hstep : s.step cfg e = some s') : s.frames <+: s'.frames := by
  cases sessionStep hstep with
  | read | leave => exact List.prefix_rfl
  | turn reply hphase =>
    have hturn := turnStep cfg s reply
    generalize s.turn cfg reply = s' at hturn
    cases hturn with
    | keepalive frame hdecode => exact List.prefix_append _ _
    | forward frame hdecode =>
      rw [(sameInput_respond _ _ _).frames]
      exact List.prefix_append _ _
    | _ => exact List.prefix_rfl

/-- A step only adds to the frames of a client, and the reply to a request that was taken is
settled. -/
theorem settled_of_step (h : Served su r) {e : RouterEvent σ κ} (hstep : r.step su e = some r')
    (s : σ) : (r.clients s).frames <+: (r'.clients s).frames ∧
      ∀ i < (r.clients s).requests.length, r'.replyTo su (s, i) = r.replyTo su (s, i) := by
  have hsettled : ∀ net' : Network (σ × Nat) κ,
      (∀ t, (r.net.calls t).result? ≠ none → net'.calls t = r.net.calls t) →
      ∀ i < (r.clients s).requests.length,
        replyTo su { r with net := net' } (s, i) = r.replyTo su (s, i) := by
    intro net' hcalls i hi
    unfold replyTo
    rw [hcalls (s, i) (h.returned s i hi)]
  cases routerStep hstep with
  | refresh e refresh hrefresh => exact ⟨List.prefix_rfl, fun _ _ => rfl⟩
  | client s' e client hready hclient =>
    refine ⟨?_, fun _ _ => rfl⟩
    show _ <+: (Function.update r.clients s' client s).frames
    by_cases hs : s = s'
    · subst hs
      rw [Function.update_self]
      exact frames_prefix_of_step hclient
    · rw [Function.update_of_ne hs]
  | call t choice a net hserves hanswer hnet =>
    exact ⟨List.prefix_rfl, hsettled net (fun t ht => calls_of_step hnet ht)⟩
  | net e net hcall hnet =>
    exact ⟨List.prefix_rfl, hsettled net (fun t ht => calls_of_step hnet ht)⟩

/-- The place of a frame of a client among the requests. -/
def requestIndex (r : Router σ κ) (s : σ) (k : Nat) : Nat :=
  (((r.clients s).frames.take k).filter isRequest).length

omit [DecidableEq σ] [DecidableEq κ] in
theorem getElem?_requestIndex {s : σ} {k : Nat} {f : RouterFrame × List UInt8}
    (hk : (r.clients s).frames[k]? = some f) (hf : isRequest f = true) :
    (r.clients s).requests[r.requestIndex s k]? = some f := by
  obtain ⟨hlt, hget⟩ := List.getElem?_eq_some_iff.mp hk
  have hsplit : (r.clients s).requests = ((r.clients s).frames.take k).filter isRequest ++
      f :: ((r.clients s).frames.drop (k + 1)).filter isRequest := by
    unfold Session.requests
    rw [← List.filter_cons_of_pos hf, ← List.filter_append, ← hget, List.getElem_cons_drop,
      List.take_append_drop]
  rw [hsplit, requestIndex, List.getElem?_append_right (Nat.le_refl _), Nat.sub_self,
    List.getElem?_cons_zero]

/-- What the hop of a connection has sent are the replies of the router to client `s`, each for a
request that it has taken. -/
def RepliesOn (su : Setup σ κ) (r : Router σ κ) (s : σ) (conn : Conn) : Prop :=
  ∀ message ∈ conn.sent, ∃ k f, message.answers = some k ∧ (r.clients s).frames[k]? = some f ∧
    isRequest f = true ∧ message.bytes = r.replyTo su (s, r.requestIndex s k)

theorem repliesOn_of_step (hserved : Served su r) {e : RouterEvent σ κ}
    (hstep : r.step su e = some r') {s : σ} {conn conn' : Conn} (h : RepliesOn su r s conn)
    (hsent : conn'.sent = conn.sent) : RepliesOn su r' s conn' := by
  intro message hmessage
  rw [hsent] at hmessage
  obtain ⟨k, f, hanswers, hk, hf, hbytes⟩ := h message hmessage
  obtain ⟨⟨later, hlater⟩, hsettled⟩ := settled_of_step hserved hstep s
  have hlt := (List.getElem?_eq_some_iff.mp hk).1
  have hindex : r'.requestIndex s k = r.requestIndex s k := by
    unfold requestIndex
    rw [← hlater, List.take_append_of_le_length (Nat.le_of_lt hlt)]
  have hrequest := (List.getElem?_eq_some_iff.mp (getElem?_requestIndex hk hf)).1
  refine ⟨k, f, hanswers, ?_, hf, ?_⟩
  · rw [← hlater, List.getElem?_append_left hlt]
    exact hk
  · rw [hindex, hsettled _ hrequest]
    exact hbytes

theorem fed_of_step {e : RouterEvent σ κ} (hstep : r.step su e = some r') {s : σ} {conn : Conn}
    (hvalid : ∀ out ∈ conn.wire, ∃ f, IsRouterFrame out.bytes f)
    (harrives : ∀ delay bytes, e = .client s (.read delay bytes) →
      (r.clients s).received ++ bytes <+: conn.written)
    (h : Fed (r.clients s) conn) : Fed (r'.clients s) conn := by
  cases routerStep hstep with
  | client s' ce client hready hclient =>
    show Fed (Function.update r.clients s' client s) conn
    by_cases hs : s = s'
    · subst hs
      rw [Function.update_self]
      exact fed_step h hvalid (fun delay bytes heq => harrives delay bytes (by rw [heq])) hclient
    · rw [Function.update_of_ne hs]
      exact h
  | _ => exact h

/-- A turn at a request takes it, and what it writes is the reply to it. -/
theorem take_of_pending {s : σ} {reply : Reply} {req : Request}
    (hpending : (r.clients s).pending su.config = some req)
    (hstep : r.step su (.client s (.turn reply)) = some r') :
    ∃ f, (r'.clients s).frames = (r.clients s).frames ++ [f] ∧ isRequest f = true ∧
      r'.replyTo su (s, (r.clients s).requests.length) = reply.response req.originalClrid := by
  cases routerStep hstep with
  | client s' e client hready hclient =>
    obtain ⟨-, -, hreply⟩ := replyTo_of_ready hready hpending
    show ∃ f, (Function.update r.clients s client s).frames = _ ∧ _ ∧ _
    rw [Function.update_self]
    cases sessionStep hclient with
    | leave e delay reason hphase hread hturn => exact absurd rfl (hturn reply)
    | turn reply hphase =>
      obtain ⟨frame, hsegment, -, hturn⟩ := turn_of_pending hpending reply
      rw [hturn, (sameInput_respond _ _ _).frames]
      exact ⟨(frame, _), rfl, decide_eq_true hsegment, hreply⟩

end Router

end RzRouter
