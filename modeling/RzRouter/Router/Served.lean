import RzRouter.Network.Isolation
import RzRouter.Router

/-!
# Every client gets the answers to its own requests

The parts of the router run as they do on their own, so what holds of them holds here.  What ties
them together is the invariant `Served`: the requests that a connection has taken are those whose
calls have returned, and what it has written is what these calls have returned, in order.
-/

namespace RzRouter

open Network Program

variable {σ κ : Type} [DecidableEq σ] [DecidableEq κ] {su : Setup σ κ} {r r' : Router σ κ}

/-! ## The parts of a router -/

namespace Router

/-- A step is a step of one part. -/
inductive RouterStep (su : Setup σ κ) (r : Router σ κ) : RouterEvent σ κ → Router σ κ → Prop
  | refresh (e : LiveEvent) (refresh : LiveState) (hstep : r.refresh.step su.rzid e = some refresh) :
      RouterStep su r (.refresh e) { r with refresh := refresh }
  | client (s : σ) (e : ClientEvent) (client : Session) (hready : r.Ready su s e)
      (hstep : (r.clients s).step su.config e = some client) :
      RouterStep su r (.client s e) { r with clients := Function.update r.clients s client }
  | call (t : σ × Nat) (choice a : Answer κ) (net : Network (σ × Nat) κ) (hserves : r.Serves su t)
      (hanswer : ∀ o k, (r.net.calls t).prog = .op o k → r.answer su o choice = some a)
      (hstep : r.net.step su.requests (.call t a) = some net) :
      RouterStep su r (.net (.call t choice)) { r with net := net }
  | net (e : Event (σ × Nat) κ) (net : Network (σ × Nat) κ) (hcall : ∀ t choice, e ≠ .call t choice)
      (hstep : r.net.step su.requests e = some net) : RouterStep su r (.net e) { r with net := net }

theorem routerStep {e : RouterEvent σ κ} (h : r.step su e = some r') : RouterStep su r e r' := by
  cases e with
  | refresh e =>
    obtain ⟨refresh, hstep, rfl⟩ := Option.map_eq_some_iff.mp h
    exact .refresh e refresh hstep
  | client s e =>
    simp only [step] at h
    split at h
    · rename_i hready
      obtain ⟨client, hstep, rfl⟩ := Option.map_eq_some_iff.mp h
      exact .client s e client hready hstep
    · cases h
  | net e =>
    cases e with
    | call t choice =>
      simp only [step] at h
      split at h
      · cases h
      · rename_i o k hprog
        split at h
        · rename_i hserves
          split at h
          · rename_i a hanswer
            obtain ⟨net, hstep, rfl⟩ := Option.map_eq_some_iff.mp h
            refine .call t choice a net hserves (fun o' k' hprog' => ?_) hstep
            rw [hprog] at hprog'
            cases hprog'
            exact hanswer
          · cases h
        · cases h
    | _ =>
      change r.stepNet su _ = some r' at h
      unfold stepNet at h
      obtain ⟨net, hstep, rfl⟩ := Option.map_eq_some_iff.mp h
      refine .net _ net ?_ hstep
      intro t choice heq
      cases heq

section Run

variable {es : List (RouterEvent σ κ)}

/-- The calls and connections of a router run like any others. -/
theorem net_of_run (hrun : Transition.run (step su) (init su) es = some r) :
    ∃ es', Transition.run (Network.step su.requests)
      (Network.init su.forwarder su.requests su.capacity) es' = some r.net := by
  refine Transition.exists_run_of_component (Router.net) (fun r e r' h => ?_) hrun
  cases routerStep h with
  | refresh | client => exact Or.inl rfl
  | call t choice a net hserves hanswer hstep => exact Or.inr ⟨_, hstep⟩
  | net e net hcall hstep => exact Or.inr ⟨_, hstep⟩

theorem client_of_run (hrun : Transition.run (step su) (init su) es = some r) (s : σ) :
    ∃ es', Transition.run (Session.step su.config) (Session.start (su.accepted s)) es' =
      some (r.clients s) := by
  refine Transition.exists_run_of_component (fun r : Router σ κ => r.clients s)
    (fun r e r' h => ?_) hrun
  cases routerStep h with
  | client s' e client hready hstep =>
    by_cases hs : s = s'
    · subst hs
      simp only [Function.update_self]
      exact Or.inr ⟨_, hstep⟩
    · exact Or.inl (Function.update_of_ne hs _ _)
  | _ => exact Or.inl rfl

end Run

end Router

/-! ## Turns at a request -/

theorem pending_of_forward {cfg : Config} {s : Session} {frame : RouterFrame}
    (hphase : s.phase = .processing) (hlen : s.buf.length ≤ cfg.maxBufferSize)
    (hdecode : tryDecodeRouter s.buf = .ok (some frame)) (hsmall : frame.frameLen ≤ cfg.maxFrameSize)
    (hsegment : frame.segment ≠ KEEPALIVE_SEGMENT) :
    s.pending cfg = some (frame.request (s.buf.take frame.frameLen)) := by
  unfold Session.pending
  rw [if_pos ⟨hphase, hlen⟩, hdecode]
  exact if_pos ⟨hsmall, hsegment⟩

theorem pending_eq_some {cfg : Config} {s : Session} {req : Request}
    (h : s.pending cfg = some req) :
    ∃ frame, tryDecodeRouter s.buf = .ok (some frame) ∧ frame.segment ≠ KEEPALIVE_SEGMENT ∧
      req = frame.request (s.buf.take frame.frameLen) := by
  unfold Session.pending at h
  split at h
  · split at h
    · rename_i frame hdecode
      split at h
      · rename_i hframe
        cases h
        exact ⟨frame, hdecode, hframe.2, rfl⟩
      · cases h
    · cases h
  · cases h

/-- A turn at a request takes it and responds. -/
theorem turn_of_pending {cfg : Config} {s : Session} {req : Request} (h : s.pending cfg = some req)
    (reply : Reply) : ∃ frame, frame.segment ≠ KEEPALIVE_SEGMENT ∧
      req = frame.request (s.buf.take frame.frameLen) ∧
      s.turn cfg reply = (s.take frame).respond frame.originalClrid reply := by
  unfold Session.pending at h
  split at h
  · rename_i hbuf
    split at h
    · rename_i frame hdecode
      split at h
      · rename_i hframe
        cases h
        refine ⟨frame, hframe.2, rfl, ?_⟩
        unfold Session.turn
        rw [if_neg (Nat.not_lt.mpr hbuf.2), hdecode]
        simp only
        rw [if_neg (Nat.not_lt.mpr hframe.1), if_neg hframe.2]
      · cases h
    · cases h
  · cases h

/-- The response is written, or a part of it and the connection is closed. -/
theorem respond_cases (s : Session) (clrid : UInt32) (reply : Reply) :
    ((s.respond clrid reply).out = s.out ++ reply.response clrid ∧
      (s.respond clrid reply).phase = s.phase) ∨
    ∃ written, (s.respond clrid reply).out = s.out ++ (reply.response clrid).take written ∧
      (s.respond clrid reply).phase = .closed .writeError := by
  unfold Session.respond Reply.response
  simp only
  cases hwrite : reply.write with
  | failed written =>
    refine Or.inr ⟨written, ?_⟩
    cases reply.result <;> exact ⟨rfl, rfl⟩
  | done =>
    cases reply.result with
    | error e => exact Or.inl ⟨rfl, rfl⟩
    | ok response =>
      cases hflush : reply.flushed with
      | true => exact Or.inl ⟨rfl, rfl⟩
      | false =>
        refine Or.inr ⟨response.length, ?_, rfl⟩
        show s.out ++ response = s.out ++ response.take response.length
        rw [List.take_length]

theorem requests_take_keepalive {s : Session} {frame : RouterFrame}
    (h : frame.segment = KEEPALIVE_SEGMENT) : (s.take frame).requests = s.requests := by
  unfold Session.requests Session.take
  rw [List.filter_append, List.filter_singleton, isRequest, decide_eq_false (not_not.mpr h)]
  exact List.append_nil _

theorem requests_take {s : Session} {frame : RouterFrame} (h : frame.segment ≠ KEEPALIVE_SEGMENT) :
    (s.take frame).requests = s.requests ++ [(frame, s.buf.take frame.frameLen)] := by
  unfold Session.requests Session.take
  rw [List.filter_append, List.filter_singleton, isRequest, decide_eq_true h]
  rfl

@[simp] theorem requests_respond (s : Session) (clrid : UInt32) (reply : Reply) :
    (s.respond clrid reply).requests = s.requests := by
  unfold Session.requests
  rw [(sameInput_respond s clrid reply).frames]

/-! ## The invariant -/

namespace Router

omit [DecidableEq σ] [DecidableEq κ] in
/-- The bytes with which a returned call is answered. -/
def replyTo (su : Setup σ κ) (r : Router σ κ) (t : σ × Nat) : List UInt8 :=
  match (r.net.calls t).result? with
  | some (.ok response) => response
  | some (.error e) => buildErrorResponse (su.requests t).originalClrid e.code
  | none => []

omit [DecidableEq σ] [DecidableEq κ] in
/-- The answers to the requests that a client's connection has taken. -/
def replies (su : Setup σ κ) (r : Router σ κ) (s : σ) : List (List UInt8) :=
  (List.range (r.clients s).requests.length).map (fun i => r.replyTo su (s, i))

structure Served (su : Setup σ κ) (r : Router σ κ) : Prop where
  named : ∀ s i f, (r.clients s).requests[i]? = some f →
    su.requests (s, i) = f.1.request f.2
  returned : ∀ s i, i < (r.clients s).requests.length →
    (r.net.calls (s, i)).result? ≠ none
  out : ∀ s, (r.clients s).out <+: (r.replies su s).flatten
  written : ∀ s, (r.clients s).phase ≠ .closed .writeError →
    (r.clients s).out = (r.replies su s).flatten

omit [DecidableEq σ] [DecidableEq κ] in
theorem served_init (su : Setup σ κ) : Served su (init su) where
  named := fun _ _ _ h => absurd h (by simp [init, Session.requests, Session.start])
  returned := fun _ _ h => absurd h (by simp [init, Session.requests, Session.start])
  out := fun _ => List.nil_prefix
  written := fun _ _ => rfl

omit [DecidableEq σ] [DecidableEq κ] in
/-- A step that leaves the returned calls of a connection's requests alone. -/
theorem served_of_calls (h : Served su r) (hclients : r'.clients = r.clients)
    (hcalls : ∀ t, (r.net.calls t).result? ≠ none → r'.net.calls t = r.net.calls t) :
    Served su r' := by
  have hreplies : ∀ s, r'.replies su s = r.replies su s := by
    intro s
    unfold replies
    rw [hclients]
    apply List.map_congr_left
    intro i hi
    unfold replyTo
    rw [hcalls (s, i) (h.returned s i (List.mem_range.mp hi))]
  refine ⟨?_, ?_, ?_, ?_⟩
  · rw [hclients]
    exact h.named
  · intro s i hi
    rw [hclients] at hi
    rw [hcalls (s, i) (h.returned s i hi)]
    exact h.returned s i hi
  · intro s
    rw [hclients, hreplies]
    exact h.out s
  · intro s
    rw [hclients, hreplies]
    exact h.written s

/-- A step of the network leaves a returned call alone. -/
theorem calls_of_step {reqs : σ × Nat → Request} {net net' : Network (σ × Nat) κ}
    {e : Event (σ × Nat) κ} (h : net.step reqs e = some net') {t : σ × Nat}
    (ht : (net.calls t).result? ≠ none) : net'.calls t = net.calls t := by
  cases e with
  | call t' answer =>
    simp only [Network.step] at h
    split at h
    · cases h
    · rename_i o k hprog
      split at h
      · cases h
      · cases h
        rfl
      · cases h
        have hne : t ≠ t' := by
          rintro rfl
          unfold Call.result? at ht
          rw [hprog] at ht
          exact ht rfl
        exact Function.update_of_ne hne _ _
  | shutdown c =>
    cases h
    rfl
  | _ =>
    obtain ⟨x, -, rfl⟩ := Option.map_eq_some_iff.mp h
    rfl

omit [DecidableEq κ] in
/-- A connection that neither takes a request nor writes. -/
theorem served_of_client {s : σ} {client : Session} (h : Served su r)
    (hrequests : client.requests = (r.clients s).requests)
    (hout : client.out = (r.clients s).out) (hphase : (r.clients s).phase ≠ .closed .writeError) :
    Served su { r with clients := Function.update r.clients s client } := by
  have hsame : ∀ s', (Function.update r.clients s client s').requests = (r.clients s').requests ∧
      (Function.update r.clients s client s').out = (r.clients s').out := by
    intro s'
    by_cases hs : s' = s
    · subst hs
      rw [Function.update_self]
      exact ⟨hrequests, hout⟩
    · rw [Function.update_of_ne hs]
      exact ⟨rfl, rfl⟩
  have hreplies : ∀ s', replies su { r with clients := Function.update r.clients s client } s' =
      r.replies su s' := by
    intro s'
    unfold replies
    rw [(hsame s').1]
    rfl
  refine ⟨fun s' => ?_, fun s' => ?_, fun s' => ?_, fun s' hs' => ?_⟩
  · rw [(hsame s').1]
    exact h.named s'
  · rw [(hsame s').1]
    exact h.returned s'
  · rw [(hsame s').2, hreplies]
    exact h.out s'
  · rw [(hsame s').2, hreplies]
    apply h.written s'
    by_cases hs : s' = s
    · rw [hs]
      exact hphase
    · simp only [Function.update_of_ne hs] at hs'
      exact hs'

omit [DecidableEq κ] in
theorem replies_of_ne {s s' : σ} (client : Session) (hs : s' ≠ s) :
    replies su { r with clients := Function.update r.clients s client } s' = r.replies su s' := by
  unfold replies
  simp only [Function.update_of_ne hs]
  rfl

omit [DecidableEq κ] in
theorem replies_concat (su : Setup σ κ) {s : σ} {client : Session}
    {f : RouterFrame × List UInt8} (hrequests : client.requests = (r.clients s).requests ++ [f]) :
    replies su { r with clients := Function.update r.clients s client } s =
      r.replies su s ++ [r.replyTo su (r.current s)] := by
  unfold replies
  simp only [Function.update_self]
  rw [hrequests, List.length_append, List.length_singleton, List.range_succ, List.map_append]
  rfl

omit [DecidableEq σ] [DecidableEq κ] in
/-- The reply of a turn at a request is what the call of the request has returned. -/
theorem replyTo_of_ready {s : σ} {reply : Reply} {req : Request}
    (hready : r.Ready su s (.turn reply)) (hpending : (r.clients s).pending su.config = some req) :
    su.requests (r.current s) = req ∧
      (r.net.calls (r.current s)).result? = some reply.result ∧
      r.replyTo su (r.current s) = reply.response req.originalClrid := by
  obtain ⟨⟨-, hserves⟩, hresult⟩ := hready (by rw [hpending]; exact Option.some_ne_none _)
  rw [show (r.current s).1 = s from rfl, hpending] at hserves
  have hnamed : su.requests (r.current s) = req := (Option.some.inj hserves).symm
  refine ⟨hnamed, hresult, ?_⟩
  unfold replyTo Reply.response
  rw [hresult, hnamed]
  cases reply.result <;> rfl

omit [DecidableEq κ] in
/-- A turn that forwards a request writes what its call has returned. -/
theorem served_forward {s : σ} {frame : RouterFrame} {reply : Reply} (h : Served su r)
    (hphase : (r.clients s).phase = .processing)
    (hready : r.Ready su s (.turn reply))
    (hpending : (r.clients s).pending su.config =
      some (frame.request ((r.clients s).buf.take frame.frameLen)))
    (hsegment : frame.segment ≠ KEEPALIVE_SEGMENT) :
    Served su { r with
      clients := Function.update r.clients s
        (((r.clients s).take frame).respond frame.originalClrid reply) } := by
  obtain ⟨hnamed, hresult, hreply⟩ := replyTo_of_ready hready hpending
  rw [show (frame.request ((r.clients s).buf.take frame.frameLen)).originalClrid =
    frame.originalClrid from rfl] at hreply
  have hrequests : (((r.clients s).take frame).respond frame.originalClrid reply).requests =
      (r.clients s).requests ++ [(frame, (r.clients s).buf.take frame.frameLen)] := by
    rw [requests_respond, requests_take hsegment]
  have hreplies := replies_concat su hrequests
  rw [hreply] at hreplies
  -- the connection was open, so it has written all answers before this one
  have hwritten := h.written s (by rw [hphase]; exact SessionPhase.noConfusion)
  have hcases := respond_cases ((r.clients s).take frame) frame.originalClrid reply
  rw [show ((r.clients s).take frame).out = (r.clients s).out from rfl, hwritten,
    show ((r.clients s).take frame).phase = (r.clients s).phase from rfl, hphase] at hcases
  generalize ((r.clients s).take frame).respond frame.originalClrid reply = client
    at hcases hrequests hreplies ⊢
  refine ⟨fun s' i f hi => ?_, fun s' i hi => ?_, fun s' => ?_, fun s' hs' => ?_⟩
  · by_cases hs : s' = s
    · subst hs
      simp only [Function.update_self, hrequests] at hi
      rw [List.getElem?_append] at hi
      split at hi
      · exact h.named s' i f hi
      · rename_i hlen
        rw [List.getElem?_singleton] at hi
        split at hi
        · rename_i hzero
          cases hi
          rw [show i = (r.clients s').requests.length by omega]
          exact hnamed
        · cases hi
    · simp only [Function.update_of_ne hs] at hi
      exact h.named s' i f hi
  · by_cases hs : s' = s
    · subst hs
      simp only [Function.update_self, hrequests, List.length_append, List.length_singleton] at hi
      rcases Nat.lt_succ_iff_lt_or_eq.mp hi with hlt | heq
      · exact h.returned s' i hlt
      · rw [heq]
        show (r.net.calls (r.current s')).result? ≠ none
        rw [hresult]
        exact Option.some_ne_none _
    · simp only [Function.update_of_ne hs] at hi
      exact h.returned s' i hi
  · by_cases hs : s' = s
    · subst hs
      simp only [Function.update_self, hreplies]
      rw [List.flatten_append, List.flatten_singleton]
      rcases hcases with ⟨hout, -⟩ | ⟨written, hout, -⟩
      · rw [hout]
      · rw [hout]
        exact (List.prefix_append_right_inj _).mpr (List.take_prefix _ _)
    · simp only [Function.update_of_ne hs, replies_of_ne client hs]
      exact h.out s'
  · by_cases hs : s' = s
    · subst hs
      simp only [Function.update_self, hreplies] at hs' ⊢
      rcases hcases with ⟨hout, -⟩ | ⟨written, -, hclosed⟩
      · rw [hout, List.flatten_append, List.flatten_singleton]
      · exact absurd hclosed hs'
    · simp only [Function.update_of_ne hs, replies_of_ne client hs] at hs' ⊢
      exact h.written s' hs'

omit [DecidableEq κ] in
theorem served_client {s : σ} {e : ClientEvent} {client : Session} (h : Served su r)
    (hready : r.Ready su s e) (hstep : (r.clients s).step su.config e = some client) :
    Served su { r with clients := Function.update r.clients s client } := by
  cases sessionStep hstep with
  | read delay bytes hphase =>
    exact served_of_client h rfl rfl (by rw [hphase]; exact SessionPhase.noConfusion)
  | leave e delay reason hphase =>
    exact served_of_client h rfl rfl (by rw [hphase]; exact SessionPhase.noConfusion)
  | turn reply hphase =>
    have hopen : (r.clients s).phase ≠ .closed .writeError := by
      rw [hphase]
      exact SessionPhase.noConfusion
    have hturn := turnStep su.config (r.clients s) reply
    generalize (r.clients s).turn su.config reply = client at hturn
    cases hturn with
    | keepalive frame hdecode hsmall hsegment =>
      exact served_of_client h (requests_take_keepalive hsegment) rfl hopen
    | forward frame hdecode hsmall hsegment hlen =>
      exact served_forward h hphase hready
        (pending_of_forward hphase hlen hdecode hsmall hsegment) hsegment
    | _ => exact served_of_client h rfl rfl hopen

theorem served_step {e : RouterEvent σ κ} (h : Served su r) (hstep : r.step su e = some r') :
    Served su r' := by
  cases routerStep hstep with
  | refresh e refresh hrefresh => exact served_of_calls h rfl (fun _ _ => rfl)
  | client s e client hready hclient => exact served_client h hready hclient
  | call t choice a net hserves hanswer hnet =>
    exact served_of_calls h rfl (fun _ ht => calls_of_step hnet ht)
  | net e net hcall hnet => exact served_of_calls h rfl (fun _ ht => calls_of_step hnet ht)

theorem served_of_run {es : List (RouterEvent σ κ)}
    (hrun : Transition.run (step su) (init su) es = some r) : Served su r :=
  Transition.invariant_of_run (I := Served su) (fun _ _ _ h hstep => served_step h hstep)
    (served_init su) hrun

/-! ## What a client gets -/

omit [DecidableEq σ] [DecidableEq κ] in
/-- What a client can get for the request of call `t`: the error response of the call, an answer
that the router builds itself, or the response that a connection has delivered to the call, under
the client's clrid.  While the ids of that connection have not come round and its hop echoes the
clrids, this is the answer of the hop to the frame of this very request. -/
inductive AnswerTo (su : Setup σ κ) (r : Router σ κ) (t : σ × Nat) : List UInt8 → Prop
  | failed (e : ForwardError) (h : (r.net.calls t).result? = some (.error e)) :
      AnswerTo su r t (buildErrorResponse (su.requests t).originalClrid e.code)
  | built (response : List UInt8) (h : LocalAnswer su.forwarder (su.requests t) response) :
      AnswerTo su r t response
  | forwarded (c : κ) (id : UInt32) (tx index : Nat) (response : List UInt8)
      (hresponse : IsResponse response id)
      (hident : r.net.shared.ident tx = some (t, c, id))
      (hstate : r.net.shared.state tx = some (.received index response))
      (hown : (r.net.shared.conns c).drawn < 2 ^ 32 → r.net.HopEchoes su.requests c →
        ∃ message, (r.net.shared.conns c).sent[index]? = some message ∧
          message.bytes = response ∧ r.net.AnswersFrameOf su.requests c message t id tx) :
      AnswerTo su r t (restoreClrid response (su.requests t).originalClrid)

omit [DecidableEq σ] [DecidableEq κ] in
theorem answerTo_of_delivers (h : Delivers su.forwarder su.requests r.net) {t : σ × Nat}
    (ht : (r.net.calls t).result? ≠ none) : AnswerTo su r t (r.replyTo su t) := by
  obtain ⟨result, hresult⟩ := Option.ne_none_iff_exists'.mp ht
  unfold replyTo
  rw [hresult]
  cases result with
  | error e => exact .failed e hresult
  | ok b =>
    have hprog : (r.net.calls t).prog = .ret (.ok b) := by
      unfold Call.result? at hresult
      split at hresult
      · rename_i result hprog
        cases hresult
        exact hprog
      · cases hresult
    rcases answer_of_returned h hprog with
      hlocal | ⟨c, id, tx, index, response, hident, hstate, hresponse, rfl⟩
    · exact .built b hlocal
    · exact .forwarded c id tx index response hresponse hident hstate
        (fun hdrawn hhop => message_of_received h hdrawn hhop hident hstate)

/-- The reply to a request that was taken. -/
theorem reply_of_run {es : List (RouterEvent σ κ)}
    (hrun : Transition.run (step su) (init su) es = some r) {s : σ} {i : Nat}
    {f : RouterFrame × List UInt8} (hi : (r.clients s).requests[i]? = some f) :
    su.requests (s, i) = f.1.request f.2 ∧ (r.replies su s)[i]? = some (r.replyTo su (s, i)) ∧
      AnswerTo su r (s, i) (r.replyTo su (s, i)) := by
  obtain ⟨es', hnet⟩ := net_of_run hrun
  have hserved := served_of_run hrun
  have hlen := (List.getElem?_eq_some_iff.mp hi).1
  refine ⟨hserved.named s i f hi, ?_, ?_⟩
  · rw [replies, List.getElem?_map, List.getElem?_range hlen]
    rfl
  · exact answerTo_of_delivers (delivers_of_run hnet) (hserved.returned s i hlen)

/-- In every run of a router: a client's connection takes the requests of the client's own byte
stream, in their order; each of them is answered with what came back for this very request; the
client gets these answers in the order of its requests and nothing else; and no response of a hop
goes to two requests, of whatever clients. -/
theorem clients_served (su : Setup σ κ) (es : List (RouterEvent σ κ)) (r : Router σ κ)
    (hrun : Transition.run (step su) (init su) es = some r) :
    (∀ s, (r.clients s).requests <+:
        (referenceFrames (r.clients s).received).filter isRequest ∧
      ∃ replies : List (List UInt8), replies.length = (r.clients s).requests.length ∧
        (∀ i frame bytes, (r.clients s).requests[i]? = some (frame, bytes) →
          su.requests (s, i) = frame.request bytes ∧
            ∃ reply, replies[i]? = some reply ∧ AnswerTo su r (s, i) reply) ∧
        (r.clients s).out <+: replies.flatten ∧
        ((r.clients s).phase ≠ .closed .writeError → (r.clients s).out = replies.flatten)) ∧
    ∀ c index t t', r.net.DeliveredTo c index t → r.net.DeliveredTo c index t' → t = t' := by
  have hserved := served_of_run hrun
  obtain ⟨es', hnet⟩ := net_of_run hrun
  have hdelivers := delivers_of_run hnet
  refine ⟨fun s => ⟨?_, r.replies su s, ?_, fun i frame bytes hi => ?_, hserved.out s,
    hserved.written s⟩, ?_⟩
  · obtain ⟨es', hclient⟩ := client_of_run hrun s
    have htracks := (dispatches_of_run hclient).1.tracks.found_prefix []
    rw [List.append_nil, List.append_nil] at htracks
    unfold Session.requests referenceFrames
    rw [htracks, List.filter_append]
    exact List.prefix_append _ _
  · rw [replies, List.length_map, List.length_range]
  · obtain ⟨hnamed, hreply, hanswer⟩ := reply_of_run hrun hi
    exact ⟨hnamed, _, hreply, hanswer⟩
  · rintro c index t t' ⟨tx, id, response, hident, hstate⟩ ⟨tx', id', response', hident', hstate'⟩
    -- two channels with the same index are the same channel
    obtain rfl := hdelivers.delivery.once c index tx tx' response response' t t' id id' hident
      hident' hstate hstate'
    rw [hident] at hident'
    cases hident'
    rfl

/-- One client and one connection; the client asks for segment `lyon`. -/
def lyonSetup : Setup Unit Unit where
  config := {}
  rzid := ⟨.edge, "zone1"⟩
  forwarder := ⟨3, []⟩
  requests := fun _ => lyonRequest
  hopOf := fun _ => ⟨"hop1", 0⟩
  capacity := fun _ => 1024
  accepted := fun _ => 0

/-- RzID places segment `lyon` in zone `a`, with one router. -/
def lyonTick : Tick where
  answers :=
    { versions := .ok ⟨((∅ : FiniteMap String UInt64).insert "zones/a/routers" 1).insert
        "zones/a/segments" 1⟩
      zoneRouters := fun _ => .ok (1, ["hop1"])
      zoneSegments := fun _ => .ok (1, ["lyon"])
      zoneShards := fun _ => .error (.http "zone shards: timeout")
      shardSegments := fun _ => .error (.http "shard segments: timeout") }
  zoneOrder := Iteration.ascending String
  topologyOrder := Iteration.ascending String
  shardOrder := Iteration.ascending String

/-- The table is published, the client asks, and its call sends the frame. -/
def lyonForwarded : List (RouterEvent Unit Unit) :=
  [.refresh (.tick lyonTick), .refresh .getOrCreate, .refresh .retireUnused, .refresh .store,
    .client () (.read 1 lyonFrame)] ++
  List.replicate 2 (.net (.call ((), 0) .state)) ++
  [.net (.call ((), 0) (.connection (some ())))] ++
  List.replicate 4 (.net (.call ((), 0) .state)) ++
  [.net (.call ((), 0) (.instant 0))] ++
  List.replicate 2 (.net (.call ((), 0) .state))

/-- The hop answers, and the client's connection goes on with the answer. -/
def lyonAnswered : List (RouterEvent Unit Unit) :=
  lyonForwarded ++ List.replicate 3 (.net (.writer () .proceed)) ++
  [.net (.hop () ⟨some 0, responseFrame 1 [42]⟩), .net (.reader () (.read 10))] ++
  List.replicate 3 (.net (.reader () .proceed)) ++
  [.net (.call ((), 0) .state), .client () (.turn ⟨.ok (responseFrame 9 [42]), 1, .done, true⟩)]

/-- The response of the hop goes to the client, with the client's clrid. -/
theorem clients_served_lyon :
    ∃ r, Transition.run (step lyonSetup) (init lyonSetup) lyonAnswered = some r ∧
      (r.clients ()).out = responseFrame 9 [42] ∧
      ∃ reply, AnswerTo lyonSetup r ((), 0) reply ∧ (r.clients ()).out = reply := by
  obtain ⟨r, hrun, hr⟩ := Option.map_eq_some_iff.mp (show
    (Transition.run (step lyonSetup) (init lyonSetup) lyonAnswered).map
      (fun r => ((r.clients ()).out, (r.clients ()).requests.length, (r.clients ()).phase)) =
    some (responseFrame 9 [42], 1, .processing) by decide)
  simp only [Prod.mk.injEq] at hr
  obtain ⟨hout, hrequests, hphase⟩ := hr
  obtain ⟨-, replies, hlen, hanswers, -, hwritten⟩ := (clients_served lyonSetup _ r hrun).1 ()
  obtain ⟨request, hrequest⟩ := List.length_eq_one_iff.mp hrequests
  obtain ⟨-, reply, hreply, hanswer⟩ :=
    hanswers 0 request.1 request.2 (by rw [hrequest]; rfl)
  rw [hrequests] at hlen
  obtain ⟨only, rfl⟩ := List.length_eq_one_iff.mp hlen
  cases hreply
  refine ⟨r, hrun, hout, reply, hanswer, ?_⟩
  rw [hwritten (by rw [hphase]; exact SessionPhase.noConfusion), List.flatten_singleton]

end Router

end RzRouter
