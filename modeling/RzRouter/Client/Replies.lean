import RzRouter.Client.Dispatch
import RzRouter.Network.Responses

/-!
# The replies to a client

Whatever `forward` returns in a run of the system, the client gets one response frame with its own
clrid for each request, in the order of the requests, and nothing else.
-/

namespace RzRouter

open Scanner Network

/-! ## What `forward` returns -/

/-- `forward` can return `result` for the request, in some run of the calls and connections. -/
def Forwarder.CanReturn (fw : Forwarder) (req : Request)
    (result : Except ForwardError (List UInt8)) : Prop :=
  ∃ (ι κ : Type) (_ : DecidableEq ι) (_ : DecidableEq κ) (reqs : ι → Request) (capacity : κ → Nat)
    (es : List (Event ι κ)) (net : Network ι κ) (t : ι),
    Transition.run (Network.step reqs) (Network.init fw reqs capacity) es = some net ∧
      reqs t = req ∧ (net.calls t).prog = .ret result

/-- A successful call returns a local answer, or the response of a hop under the client's
clrid. -/
theorem response_of_canReturn {fw : Forwarder} {req : Request} {response : List UInt8}
    (h : fw.CanReturn req (.ok response)) :
    LocalAnswer fw req response ∨ IsResponse response req.originalClrid := by
  obtain ⟨ι, κ, _, _, reqs, capacity, es, net, t, hrun, rfl, hprog⟩ := h
  have hnet := delivers_of_run hrun
  have hpost := hnet.follows t
  rw [hprog] at hpost
  -- only a call that is free or answered can have returned a response
  cases hphase : (net.calls t).phase with
  | free =>
    rw [hphase] at hpost
    rcases hpost with ⟨e, he⟩ | ⟨response', hresponse, hlocal⟩
    · cases he
    · cases hresponse
      exact Or.inl hlocal
  | answered c id tx response' =>
    rw [hphase] at hpost
    obtain ⟨index, hstate⟩ := hnet.delivery.answered t c id tx response' hphase
    have hident := hnet.shape.current t c id tx (by rw [hphase]; rfl)
    have hresponse := (hnet.delivery.received tx index response' hstate t c id hident).1
    rw [Except.ok.inj hpost.2]
    exact Or.inr (hresponse.restoreClrid _)
  | drawn c id =>
    rw [hphase] at hpost
    obtain ⟨e, he⟩ := hpost
    cases he
  | unsure tx =>
    rw [hphase] at hpost
    cases hpost
  | _ =>
    rw [hphase] at hpost
    exact hpost.elim

/-- A local answer is a response as long as its length field can hold its length. -/
theorem isResponse_of_localAnswer {fw : Forwarder} {req : Request} {response : List UInt8}
    (h : LocalAnswer fw req response) (hlen : response.length < 9 + 2 ^ 32) :
    IsResponse response req.originalClrid := by
  rcases h with ⟨-, snapshot, keys, rfl⟩ | ⟨-, rfl⟩
  · exact isResponse_serializeGetSegments hlen
  · exact isResponse_serializeCodecs hlen

/-! ## What the client gets -/

/-- The response to a request, forwarded or built from the error. -/
def Reply.response (reply : Reply) (originalClrid : UInt32) : List UInt8 :=
  match reply.result with
  | .ok response => response
  | .error e => buildErrorResponse originalClrid e.code

/-- A turn that forwards a frame gets what `forward` can return for it, a local answer fits its
length field, and the socket takes the response. -/
def Replies (fw : Forwarder) (s : Session) (e : ClientEvent) : Prop :=
  ∀ reply frame, e = .turn reply → tryDecodeRouter s.buf = .ok (some frame) →
    frame.segment ≠ KEEPALIVE_SEGMENT →
    fw.CanReturn (frame.request (s.buf.take frame.frameLen)) reply.result ∧
      (∀ response, reply.result = .ok response →
        LocalAnswer fw (frame.request (s.buf.take frame.frameLen)) response →
        response.length < 9 + 2 ^ 32) ∧
      reply.write = .done ∧ reply.flushed = true

/-- The frame is a request. -/
def isRequest (f : RouterFrame × List UInt8) : Bool := decide (f.1.segment ≠ KEEPALIVE_SEGMENT)

/-- The output is one response for each request, in order. -/
def Replied (s : Session) : Prop :=
  ∃ responses : List (List UInt8), s.out = responses.flatten ∧
    List.Forall₂ (fun f response => IsResponse response f.1.originalClrid)
      (s.frames.filter isRequest) responses

theorem out_respond {s : Session} {clrid : UInt32} {reply : Reply} (hwrite : reply.write = .done)
    (hflush : reply.flushed = true) :
    (s.respond clrid reply).out = s.out ++ reply.response clrid := by
  unfold Session.respond Reply.response
  simp only [hwrite, hflush, if_true]
  cases reply.result <;> rfl

theorem isResponse_of_replies {fw : Forwarder} {s : Session} {reply : Reply} {frame : RouterFrame}
    (h : Replies fw s (.turn reply)) (hdecode : tryDecodeRouter s.buf = .ok (some frame))
    (hsegment : frame.segment ≠ KEEPALIVE_SEGMENT) :
    IsResponse (reply.response frame.originalClrid) frame.originalClrid := by
  obtain ⟨hreturn, hfits, -, -⟩ := h reply frame rfl hdecode hsegment
  unfold Reply.response
  cases hresult : reply.result with
  | error e => exact isResponse_buildErrorResponse _ _
  | ok response =>
    rw [hresult] at hreturn
    rcases response_of_canReturn hreturn with hlocal | hresponse
    · exact isResponse_of_localAnswer hlocal (hfits response hresult hlocal)
    · exact hresponse

theorem replied_of_same {s s' : Session} (h : Replied s) (hout : s'.out = s.out)
    (hframes : s'.frames.filter isRequest = s.frames.filter isRequest) : Replied s' := by
  unfold Replied at h ⊢
  rw [hout, hframes]
  exact h

theorem replied_turn {fw : Forwarder} {cfg : Config} {s s' : Session} {reply : Reply}
    (h : Replied s) (hreplies : Replies fw s (.turn reply)) (hturn : TurnStep cfg s reply s') :
    Replied s' := by
  cases hturn with
  -- a keepalive is no request and gets no reply
  | keepalive frame hdecode hsmall hsegment =>
    refine replied_of_same h rfl ?_
    unfold Session.take
    rw [List.filter_append, List.filter_singleton, isRequest, decide_eq_false (not_not.mpr hsegment)]
    exact List.append_nil _
  -- one request more, and one response more
  | forward frame hdecode hsmall hsegment =>
    obtain ⟨responses, hout, hmatch⟩ := h
    obtain ⟨-, -, hwrite, hflush⟩ := hreplies reply frame rfl hdecode hsegment
    refine ⟨responses ++ [reply.response frame.originalClrid], ?_, ?_⟩
    · rw [out_respond hwrite hflush, List.flatten_append, ← hout]
      simp [Session.take]
    · rw [(sameInput_respond _ _ _).frames]
      unfold Session.take
      rw [List.filter_append, List.filter_singleton, isRequest, decide_eq_true hsegment]
      exact List.rel_append hmatch
        (List.Forall₂.cons (isResponse_of_replies hreplies hdecode hsegment) List.Forall₂.nil)
  | _ => exact replied_of_same h rfl rfl

theorem replied_step {fw : Forwarder} {cfg : Config} {s s' : Session} {e : ClientEvent}
    (h : Replied s) (hreplies : Replies fw s e) (hstep : s.step cfg e = some s') : Replied s' := by
  cases sessionStep hstep with
  | read delay bytes hphase => exact replied_of_same h rfl rfl
  | leave e delay reason hphase hread hturn hreason => exact replied_of_same h rfl rfl
  | turn reply hphase => exact replied_turn h hreplies (turnStep cfg s reply)

/-- In every run in which the socket takes the responses, the output is a sequence of response
frames: one for each frame that is no keepalive, in order, with the clrid of that frame. -/
theorem one_reply_per_request (fw : Forwarder) (cfg : Config) (t₀ : Nat) (es : List ClientEvent)
    (s : Session) (hrun : Transition.run (Session.step cfg) (Session.start t₀) es = some s)
    (hreplies : Transition.Meets (Session.step cfg) (Replies fw) (Session.start t₀) es) :
    ∃ responses : List (List UInt8), s.out = responses.flatten ∧
      List.Forall₂ (fun f response => IsResponse response f.1.originalClrid)
        (s.frames.filter isRequest) responses :=
  Transition.invariant_of_meets (I := Replied)
    (fun _ _ _ h hcond hstep => replied_step h hcond hstep)
    ⟨[], rfl, List.Forall₂.nil⟩ hreplies hrun

def lyonRequest : Request := ⟨lyonFrame, "lyon", 12, 9, false⟩

def unknownLyon : Reply := ⟨.error (.unknownSegment "lyon"), 1, .done, true⟩

/-- The turn finds a keepalive, or a request for `lyon`, for which there is no route. -/
def findsLyon (s : Session) : ClientEvent → Bool
  | .turn ⟨.error (.unknownSegment segment), _, .done, true⟩ =>
    match tryDecodeRouter s.buf with
    | .ok (some frame) =>
      decide (segment = "lyon" ∧ (frame.segment = KEEPALIVE_SEGMENT ∨
        frame.request (s.buf.take frame.frameLen) =
          ⟨lyonRequest.frameFor frame.originalClrid, "lyon", 12, frame.originalClrid, false⟩))
    | _ => true
  | .turn _ => false
  | _ => true

/-- Two requests for a segment that is not in the routing table, with a keepalive between them. -/
theorem one_reply_per_request_lyon :
    ∃ s, Transition.run (Session.step {}) (Session.start 0)
        (.read 1 (lyonFrame ++ buildKeepaliveFrame 5 ++ lyonRequest.frameFor 4) ::
          List.replicate 3 (.turn unknownLyon)) = some s ∧
      s.frames.length = 3 ∧
      ∃ first second, s.out = first ++ second ∧ IsResponse first 9 ∧ IsResponse second 4 := by
  have hreturn : ∀ clrid, Forwarder.CanReturn ⟨3, []⟩
      ⟨lyonRequest.frameFor clrid, "lyon", 12, clrid, false⟩ (.error (.unknownSegment "lyon")) := by
    intro clrid
    obtain ⟨net, hrun, hnet⟩ := Option.map_eq_some_iff.mp (show
      (Transition.run
          (Network.step fun _ : Unit => ⟨lyonRequest.frameFor clrid, "lyon", 12, clrid, false⟩)
          (Network.init ⟨3, []⟩ (fun _ => ⟨lyonRequest.frameFor clrid, "lyon", 12, clrid, false⟩)
            (fun _ : Unit => 1024))
          [.call () (.routing (.edge EdgeState.new))]).map (fun net => (net.calls ()).prog) =
        some (.ret (.error (.unknownSegment "lyon"))) from rfl)
    exact ⟨Unit, Unit, inferInstance, inferInstance, _, _, _, net, (), hrun, rfl, hnet⟩
  have htest : ∀ s e, findsLyon s e = true → Replies ⟨3, []⟩ s e := by
    intro s e hfinds reply frame he hdecode hsegment
    subst he
    obtain ⟨result, duration, write, flushed⟩ := reply
    unfold findsLyon at hfinds
    split at hfinds
    · rename_i segment _ heq
      cases heq
      rw [hdecode] at hfinds
      obtain ⟨rfl, hkeepalive | hrequest⟩ := of_decide_eq_true hfinds
      · exact absurd hkeepalive hsegment
      · rw [hrequest]
        exact ⟨hreturn _, fun _ hok => (by cases hok), rfl, rfl⟩
    · cases hfinds
    · rename_i hnot
      exact absurd rfl (hnot _)
  obtain ⟨s, hrun, hs⟩ := Option.map_eq_some_iff.mp (show
    (Transition.run (Session.step {}) (Session.start 0)
        (.read 1 (lyonFrame ++ buildKeepaliveFrame 5 ++ lyonRequest.frameFor 4) ::
          List.replicate 3 (.turn unknownLyon))).map
      (fun s => (s.frames.length, (s.frames.filter isRequest).map (fun f => f.1.originalClrid))) =
    some (3, [9, 4]) from rfl)
  simp only [Prod.mk.injEq] at hs
  obtain ⟨hcount, hclrids⟩ := hs
  obtain ⟨responses, hout, hmatch⟩ := one_reply_per_request ⟨3, []⟩ {} 0 _ s hrun
    (Transition.meets_of_checks htest rfl)
  have hmatch' : List.Forall₂ (fun clrid response => IsResponse response clrid) [9, 4]
      responses := by
    rw [← hclrids, List.forall₂_map_left_iff]
    exact hmatch
  cases hmatch' with
  | cons hfirst hrest =>
    cases hrest with
    | cons hsecond hnil =>
      cases hnil
      exact ⟨s, hrun, hcount, _, _, by simpa using hout, hfirst, hsecond⟩

end RzRouter
