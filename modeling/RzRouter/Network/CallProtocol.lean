import RzRouter.Network.Loops

/-!
# The protocol of a forward call

The phase of a call says what it has outstanding on which connection.  `forward` goes through the
phases in order, whatever it is answered, and what it returns is determined by its last phase.
-/

namespace RzRouter

open LittleEndian Program

/-- What a call has outstanding. -/
inductive CallPhase (κ : Type)
  /-- Nothing; in particular a call is free again after a try that it takes as not sent. -/
  | free
  /-- A correlation id was drawn. -/
  | drawn (conn : κ) (id : UInt32)
  /-- The channel exists. -/
  | opened (conn : κ) (id : UInt32) (tx : Nat)
  /-- The waiter is registered. -/
  | registered (conn : κ) (id : UInt32) (tx : Nat)
  /-- The frame was not accepted, the waiter is to be removed. -/
  | aborted (conn : κ) (id : UInt32) (tx : Nat)
  /-- The frame was accepted and the call waits. -/
  | queued (conn : κ) (id : UInt32) (tx : Nat)
  /-- The time-out fired, the waiter is to be removed. -/
  | expired (conn : κ) (id : UInt32) (tx : Nat)
  /-- A write that may have been sent. -/
  | unsure (tx : Nat)
  /-- A response has come. -/
  | answered (conn : κ) (id : UInt32) (tx : Nat) (response : List UInt8)

section Protocol

variable {κ : Type}

/-- The frame that a request sends under the correlation id `id`. -/
def Request.frameFor (req : Request) (id : UInt32) : List UInt8 :=
  overwrite req.frame req.clridOffset (u32Bytes id)

/-- The operations a call performs in a phase. -/
def callAllowed (req : Request) : CallPhase κ → ForwardOp κ → Prop
  | .free, .loadRouting | .free, .segmentOrder _ | .free, .getHop _ | .free, .nextConnection _
  | .free, .resolveAddress _ | .free, .isClosed _ | .free, .nextCorrId _ | .free, .close _
  | .free, .sleep _ => True
  | .drawn conn _, .isClosed conn' => conn' = conn
  | .drawn conn id, .newChannel conn' id' => conn' = conn ∧ id' = id
  | .opened _ _ _, .now => True
  | .opened conn id tx, .insert conn' id' tx' _ => conn' = conn ∧ id' = id ∧ tx' = tx
  | .registered conn id _, .trySend conn' frame =>
      conn' = conn ∧ req.clridOffset + 4 ≤ req.frame.length ∧ frame = req.frameFor id
  | .aborted conn id _, .remove conn' id' => conn' = conn ∧ id' = id
  | .queued _ _ tx, .wait tx' => tx' = tx
  | .expired conn id _, .remove conn' id' => conn' = conn ∧ id' = id
  | _, _ => False

/-- After a try that may have been sent, a write is unsure, a read goes on. -/
def CallPhase.afterSend (req : Request) (tx : Nat) : CallPhase κ :=
  if req.isWrite then .unsure tx else .free

/-- The phase after an answered operation. -/
def callNext (req : Request) : CallPhase κ → (o : ForwardOp κ) → o.Ret → CallPhase κ
  | .free, .nextCorrId conn, id => .drawn conn id
  | .drawn conn id, .isClosed _, closed => if closed = true then .free else .drawn conn id
  | .drawn conn id, .newChannel _ _, tx => .opened conn id tx
  | .opened conn id tx, .insert _ _ _ _, inserted =>
      if inserted = true then .registered conn id tx else .afterSend req tx
  | .registered conn id tx, .trySend _ _, accepted =>
      if accepted = true then .queued conn id tx else .aborted conn id tx
  | .aborted _ _ _, .remove _ _, _ => .free
  | .queued conn id tx, .wait _, result =>
      match (result : WaitResult) with
      | .received response => .answered conn id tx response
      | .failed .timeout => .afterSend req tx
      | .failed .connectionClosed => .free
      | .dropped => .free
      | .elapsed => .expired conn id tx
  | .expired _ _ tx, .remove _ _, _ => .afterSend req tx
  | ph, _, _ => ph

/-- The protocol of a forward call whose connections deliver frames with property `good`. -/
def callProtocol (req : Request) (good : List UInt8 → Prop) :
    Protocol (ForwardOp κ) ForwardOp.Ret (CallPhase κ) where
  allowed := callAllowed req
  answers := fun _ o r =>
    match o, r with
    | .wait _, result => ∀ response, (result : WaitResult) = .received response → good response
    | _, _ => True
  next := callNext req

/-- The answers that a call builds itself. -/
def LocalAnswer (fw : Forwarder) (req : Request) (response : List UInt8) : Prop :=
  (req.segment = GETSEGMENTS ∧ ∃ (snapshot : RoutingSnapshot)
      (keys : {l : List String // Enumerates l snapshot.segments}),
      response = snapshot.serializeSegments keys req.originalClrid) ∨
    (req.segment = GETCODECS ∧
      response = serializeCodecs req.originalClrid (strBytes (",".intercalate fw.codecs)))

/-- What a call returns in its last phase. -/
def callPost (fw : Forwarder) (req : Request) (good : List UInt8 → Prop) (ph : CallPhase κ)
    (result : Except ForwardError (List UInt8)) : Prop :=
  match ph with
  | .free => (∃ e, result = .error e) ∨ ∃ response, result = .ok response ∧
      LocalAnswer fw req response
  | .drawn _ _ => ∃ e, result = .error e
  | .unsure _ => result = .error .timeout
  | .answered _ _ _ response => good response ∧
      result = .ok (restoreClrid response req.originalClrid)
  | _ => False

end Protocol

/-! ## The frame -/

/-- The frame of a call between two tries: the client's, or with the clrid of the last try. -/
def FrameOf (req : Request) (frame : List UInt8) : Prop :=
  frame = req.frame ∨ req.clridOffset + 4 ≤ req.frame.length ∧ ∃ id, frame = req.frameFor id

theorem length_of_frameOf {req : Request} {frame : List UInt8} (h : FrameOf req frame) :
    frame.length = req.frame.length := by
  rcases h with rfl | ⟨hlen, id, rfl⟩
  · rfl
  · exact length_overwrite _ _ _ (by rw [length_u32Bytes]; exact hlen)

/-- Every try overwrites the clrid of the one before. -/
theorem overwrite_of_frameOf {req : Request} {frame : List UInt8} (h : FrameOf req frame)
    (id : UInt32) : overwrite frame req.clridOffset (u32Bytes id) = req.frameFor id := by
  rcases h with rfl | ⟨hlen, id', rfl⟩
  · rfl
  · unfold Request.frameFor
    rw [overwrite_overwrite _ _ _ _ (by rw [length_u32Bytes, length_u32Bytes])
      (by rw [length_u32Bytes]; exact hlen)]

/-! ## The program follows the protocol -/

section Follows

variable {κ : Type} (fw : Forwarder) (req : Request) (good : List UInt8 → Prop)

/-- How `send_and_wait` ends. -/
def SendPost (ph : CallPhase κ) (result : Except RZError (List UInt8)) : Prop :=
  match result with
  | .ok response => good response ∧ ∃ conn id tx, ph = .answered conn id tx response
  | .error .connectionClosed => ph = .free
  | .error _ => ∃ tx, ph = .afterSend req tx

theorem follows_sendAndWait (conn : κ) (id : UInt32)
    (hlen : req.clridOffset + 4 ≤ req.frame.length) :
    Follows (callProtocol req good) (SendPost req good) (.drawn conn id)
      (sendAndWait conn (req.frameFor id) id) := by
  unfold sendAndWait
  -- each operation moves the phase on, and the phase at the end is the postcondition
  refine follows_perform_bind rfl (fun closed _ => ?_)
  cases closed with
  | true => exact rfl
  | false =>
    refine follows_perform_bind ⟨rfl, rfl⟩ (fun tx _ => ?_)
    refine follows_perform_bind trivial (fun sentAt _ => ?_)
    refine follows_perform_bind ⟨rfl, rfl, rfl⟩ (fun inserted _ => ?_)
    cases inserted with
    | false => exact ⟨tx, rfl⟩
    | true =>
      refine follows_perform_bind ⟨rfl, hlen, rfl⟩ (fun accepted _ => ?_)
      cases accepted with
      | false =>
        refine follows_perform_bind ⟨rfl, rfl⟩ (fun _ _ => ?_)
        exact rfl
      | true =>
        refine follows_perform_bind rfl (fun result hgood => ?_)
        cases result with
        | received response => exact ⟨hgood response rfl, conn, id, tx, rfl⟩
        | failed e =>
          cases e with
          | timeout => exact ⟨tx, rfl⟩
          | connectionClosed => exact rfl
        | dropped => exact rfl
        | elapsed =>
          refine follows_perform_bind ⟨rfl, rfl⟩ (fun _ _ => ?_)
          exact ⟨tx, rfl⟩

/-- How a turn over the hops ends: free for the next one, or in the last phase of the call. -/
def TurnPost (ph : CallPhase κ) : Turn → Prop
  | .next st => ph = .free ∧ FrameOf req st.frame ∧ (req.isWrite = true → st.requestSent = false)
  | .done result => callPost fw req good ph result

/-- What `forward` makes of the result of `send_and_wait`. -/
theorem sentPost_of_sendPost (st : ForwardState) {frame : List UInt8} (hframe : FrameOf req frame)
    (hsent : req.isWrite = true → st.requestSent = false) {ph : CallPhase κ}
    {result : Except RZError (List UInt8)} (h : SendPost req good ph result) :
    SentPost req (TurnPost fw req good) st frame ph result := by
  -- after a lost request a write is unsure and stops, a read goes on
  have hlost : (∃ tx, ph = .afterSend req tx) →
      if req.isWrite = true then TurnPost fw req good ph (.done (.error .timeout))
      else TurnPost fw req good ph (.next { frame := frame, requestSent := true }) := by
    rintro ⟨tx, rfl⟩
    unfold CallPhase.afterSend
    cases hwrite : req.isWrite with
    | true => exact rfl
    | false => exact ⟨rfl, hframe, fun htrue => by rw [hwrite] at htrue; cases htrue⟩
  cases result with
  | ok response =>
    obtain ⟨hgood, conn, id, tx, rfl⟩ := h
    exact ⟨hgood, rfl⟩
  | error e =>
    cases e with
    | connectionClosed =>
      cases h
      exact ⟨rfl, hframe, hsent⟩
    | _ => exact hlost h

/-- A call is free between two tries. -/
theorem loopRules_call : LoopRules (callProtocol (κ := κ) req good) req (TurnPost fw req good) where
  quiet := by
    rintro ph st o ho ⟨rfl, hst⟩
    cases o with
    | getHop _ | nextConnection _ | resolveAddress _ | isClosed _ | close _ | sleep _ =>
      exact ⟨trivial, fun _ _ => ⟨rfl, hst⟩⟩
    | _ => cases ho
  load := by
    rintro ph st ⟨rfl, hst⟩
    exact ⟨trivial, fun _ _ => ⟨⟨rfl, hst⟩, fun _ => Or.inl ⟨_, rfl⟩⟩⟩
  send := by
    rintro ph st conn ⟨rfl, hframe, hsent⟩
    refine ⟨trivial, fun id _ => ?_⟩
    simp only
    rw [length_of_frameOf hframe, overwrite_of_frameOf hframe]
    split
    · exact ⟨_, rfl⟩
    · rename_i hlen
      rw [not_lt] at hlen
      have hframe' : FrameOf req (req.frameFor id) := Or.inr ⟨hlen, id, rfl⟩
      exact follows_mono (fun ph result h => sentPost_of_sendPost fw req good st hframe' hsent h)
        (follows_sendAndWait req good conn id hlen)
  exhausted := by
    rintro ph st ⟨rfl, -⟩
    exact ⟨Or.inl ⟨_, rfl⟩, Or.inl ⟨_, rfl⟩⟩

theorem follows_forward :
    Follows (callProtocol (κ := κ) req good) (callPost fw req good) .free (fw.forward req) := by
  unfold Forwarder.forward
  split
  · rename_i hsegment
    refine follows_perform_bind trivial (fun snapshot _ => ?_)
    refine follows_perform_bind trivial (fun keys _ => ?_)
    exact Or.inr ⟨_, rfl, Or.inl ⟨hsegment, snapshot, keys, rfl⟩⟩
  · simp only
    split
    · rename_i hsegment
      exact Or.inr ⟨_, rfl, Or.inr ⟨hsegment, rfl⟩⟩
    · exact (loopRules_call fw req good).follows_forwardAttempts _ _ _
        ⟨rfl, Or.inl rfl, fun _ => rfl⟩

end Follows

end RzRouter
