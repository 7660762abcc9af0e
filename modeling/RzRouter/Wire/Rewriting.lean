import RzRouter.Client.Dispatch
import RzRouter.Network.Loops
import RzRouter.Wire.RouterGrammar

/-!
# Rewriting the clrid

`forward` overwrites the clrid of a frame in place, once for every try.  The next router decodes
what it is sent to the frame of the client, but for the clrid.
-/

namespace RzRouter

open LittleEndian Program

/-- The frame after a try for every id: each try overwrites the clrid of the one before. -/
def rewriteClrid (frame : List UInt8) (clridOffset : Nat) (ids : List UInt32) : List UInt8 :=
  ids.foldl (fun frame id => overwrite frame clridOffset (u32Bytes id)) frame

theorem rewriteClrid_concat (frame : List UInt8) (clridOffset : Nat) (ids : List UInt32)
    (id : UInt32) : rewriteClrid frame clridOffset (ids ++ [id]) =
      overwrite (rewriteClrid frame clridOffset ids) clridOffset (u32Bytes id) := by
  unfold rewriteClrid
  rw [List.foldl_append, List.foldl_cons, List.foldl_nil]

theorem length_rewriteClrid {frame : List UInt8} {clridOffset : Nat}
    (h : clridOffset + 4 ≤ frame.length) (ids : List UInt32) :
    (rewriteClrid frame clridOffset ids).length = frame.length := by
  induction ids using List.reverseRecOn with
  | nil => rfl
  | append_singleton ids id ih =>
    rw [rewriteClrid_concat, length_overwrite _ _ _ (by rw [length_u32Bytes, ih]; exact h), ih]

/-- Only the four bytes of the clrid change. -/
theorem getElem?_rewriteClrid {frame : List UInt8} {clridOffset i : Nat}
    (h : clridOffset + 4 ≤ frame.length) (hi : i < clridOffset ∨ clridOffset + 4 ≤ i)
    (ids : List UInt32) : (rewriteClrid frame clridOffset ids)[i]? = frame[i]? := by
  induction ids using List.reverseRecOn with
  | nil => rfl
  | append_singleton ids id ih =>
    rw [rewriteClrid_concat, getElem?_overwrite _ _ _ _
      (by rw [length_u32Bytes, length_rewriteClrid h]; exact h) (by rwa [length_u32Bytes]), ih]

/-! ## The frame that the next router decodes -/

theorem IsRouterFrame.clrid_le {bytes : List UInt8} {f : RouterFrame} (h : IsRouterFrame bytes f) :
    f.clridOffset + 4 ≤ bytes.length := by
  have hlen := h.length_eq
  cases h with
  | frame _ _ _ _ _ _ _ _ _ => omega

theorem IsRouterFrame.overwrite {bytes : List UInt8} {f : RouterFrame} (h : IsRouterFrame bytes f)
    (id : UInt32) :
    IsRouterFrame (overwrite bytes f.clridOffset (u32Bytes id)) { f with originalClrid := id } := by
  obtain @⟨total, segLen, segment, flag, clrid, tail, _, hseg, hutf8, htail, htotal, hmax, hwrite,
    hoffset, hclrid, hframeLen⟩ := h
  have hframe : ∀ clrid', routerFrameBytes total segLen segment flag clrid' tail =
      (ROUTER_MAGIC :: (u32Bytes total ++ (segLen :: (segment ++ [flag, SHARD_MAGIC])))) ++
        u32Bytes clrid' ++ tail := by
    intro clrid'
    unfold routerFrameBytes
    simp only [List.cons_append, List.append_assoc, List.nil_append]
  -- the clrid begins where the fields before it end
  have hlead : f.clridOffset =
      (ROUTER_MAGIC :: (u32Bytes total ++ (segLen :: (segment ++ [flag, SHARD_MAGIC])))).length := by
    simp only [List.length_cons, List.length_append, length_u32Bytes, List.length_nil]
    omega
  have hover : LittleEndian.overwrite (routerFrameBytes total segLen segment flag clrid tail)
      f.clridOffset (u32Bytes id) = routerFrameBytes total segLen segment flag id tail := by
    rw [hframe, hlead, overwrite_append _ _ _ _ (by rw [length_u32Bytes, length_u32Bytes]), hframe]
  rw [hover]
  exact .frame hseg hutf8 htail htotal hmax hwrite hoffset rfl hframeLen

/-- Rewriting keeps the frame; its clrid is the last id. -/
theorem IsRouterFrame.rewriteClrid {bytes : List UInt8} {f : RouterFrame}
    (h : IsRouterFrame bytes f) (ids : List UInt32) : IsRouterFrame (rewriteClrid bytes f.clridOffset ids)
      { f with originalClrid := ids.getLastD f.originalClrid } := by
  induction ids using List.reverseRecOn with
  | nil => exact h
  | append_singleton ids id ih =>
    rw [rewriteClrid_concat, List.getLastD_concat]
    exact ih.overwrite id

/-! ## What `forward` sends -/

section Forward

variable {κ : Type}

/-- Where a call is with its rewriting: the ids that it has drawn, and the connection on which the
last one is still to be sent, with whether its waiter is registered. -/
structure Rewriting (κ : Type) where
  ids : List UInt32
  owed : Option (κ × Bool)

/-- Every frame that is sent is the client's, rewritten with the ids drawn so far.  From the draw of
an id on nothing is done but what leads to its frame, unless the connection is closed or the id
taken. -/
def rewriteProtocol (req : Request) : Protocol (ForwardOp κ) ForwardOp.Ret (Rewriting κ) where
  allowed := fun ph o =>
    match o with
    | .isClosed conn => ph.owed = none ∨ ph.owed = some (conn, false)
    | .newChannel conn id | .insert conn id _ _ =>
        ph.owed = some (conn, false) ∧ ph.ids.getLast? = some id
    | .now => ∃ conn, ph.owed = some (conn, false)
    | .trySend conn frame => ph.owed = some (conn, true) ∧
        frame = rewriteClrid req.frame req.clridOffset ph.ids
    | _ => ph.owed = none
  answers _ _ _ := True
  next := fun ph o r =>
    match o, r with
    | .nextCorrId conn, id => ⟨ph.ids ++ [id], some (conn, false)⟩
    | .isClosed _, closed => if closed = true then ⟨ph.ids, none⟩ else ph
    | .insert conn _ _ _, inserted => ⟨ph.ids, if inserted = true then some (conn, true) else none⟩
    | .trySend _ _, _ => ⟨ph.ids, none⟩
    | _, _ => ph

/-- The call owes no frame, and does not fail with an internal error. -/
def NotInternal (ph : Rewriting κ) (result : Except ForwardError (List UInt8)) : Prop :=
  ph.owed = none ∧ ∀ msg, result ≠ .error (.internal msg)

/-- Between two turns no frame is owed, and the frame at hand carries the last id drawn. -/
def RewriteTurn (req : Request) (ph : Rewriting κ) : Turn → Prop
  | .next st => ph.owed = none ∧ st.frame = rewriteClrid req.frame req.clridOffset ph.ids
  | .done result => NotInternal ph result

variable {req : Request}

/-- `send_and_wait` sends the frame that it is given, and draws no id. -/
theorem follows_sendAndWait_rewrite {ids : List UInt32} (conn : κ) (id : UInt32)
    {frame : List UInt8} (hframe : frame = rewriteClrid req.frame req.clridOffset (ids ++ [id])) :
    Follows (rewriteProtocol req) (fun ph _ => ph = ⟨ids ++ [id], none⟩)
      ⟨ids ++ [id], some (conn, false)⟩ (sendAndWait conn frame id) := by
  have hlast : (ids ++ [id]).getLast? = some id := List.getLast?_concat
  unfold sendAndWait
  refine follows_perform_bind (Or.inr rfl) (fun closed _ => ?_)
  cases closed with
  | true => exact rfl
  | false =>
    refine follows_perform_bind ⟨rfl, hlast⟩ (fun tx _ => ?_)
    refine follows_perform_bind ⟨conn, rfl⟩ (fun sentAt _ => ?_)
    refine follows_perform_bind ⟨rfl, hlast⟩ (fun inserted _ => ?_)
    cases inserted with
    | false => exact rfl
    | true =>
      -- the only operation that shows the frame
      refine follows_perform_bind ⟨rfl, hframe⟩ (fun accepted _ => ?_)
      cases accepted with
      | false => exact follows_perform_bind rfl (fun _ _ => rfl)
      | true =>
        refine follows_perform_bind rfl (fun result _ => ?_)
        cases result with
        | received response => exact rfl
        | failed e =>
          cases e with
          | timeout => exact rfl
          | connectionClosed => exact rfl
        | dropped => exact rfl
        | elapsed => exact follows_perform_bind rfl (fun _ _ => rfl)

theorem loopRules_rewrite (h : req.clridOffset + 4 ≤ req.frame.length) :
    LoopRules (rewriteProtocol (κ := κ) req) req (RewriteTurn req) where
  quiet := by
    intro ph st o ho hst
    obtain ⟨howed, hframe⟩ := hst
    cases o with
    | isClosed conn =>
      refine ⟨Or.inl howed, fun closed _ => ?_⟩
      cases closed with
      | false => exact ⟨howed, hframe⟩
      | true => exact ⟨rfl, hframe⟩
    | getHop _ | nextConnection _ | resolveAddress _ | close _ | sleep _ =>
      exact ⟨howed, fun _ _ => ⟨howed, hframe⟩⟩
    | _ => cases ho
  load hst := ⟨hst.1, fun _ _ => ⟨hst, fun _ => ⟨hst.1, fun _ hsame => by cases hsame⟩⟩⟩
  send := by
    intro ph st conn hst
    obtain ⟨ids, owed⟩ := ph
    obtain ⟨howed, hst⟩ := hst
    refine ⟨howed, fun id _ => ?_⟩
    rw [if_neg (by rw [hst, length_rewriteClrid h]; omega)]
    -- the frame at hand is overwritten once more
    have hframe : overwrite st.frame req.clridOffset (u32Bytes id) =
        rewriteClrid req.frame req.clridOffset (ids ++ [id]) := by
      rw [rewriteClrid_concat, hst]
    refine follows_mono (fun ph' result hph => ?_) (follows_sendAndWait_rewrite conn id hframe)
    subst hph
    unfold SentPost
    split
    · exact ⟨rfl, fun _ hsame => by cases hsame⟩
    · exact ⟨rfl, hframe⟩
    · split
      · exact ⟨rfl, fun _ hsame => by cases hsame⟩
      · exact ⟨rfl, hframe⟩
  exhausted hst :=
    ⟨⟨hst.1, fun _ hsame => by cases hsame⟩, ⟨hst.1, fun _ hsame => by cases hsame⟩⟩

/-- A call whose frame holds a clrid sends a rewritten frame for every id, and has no internal
error. -/
theorem follows_forward_rewrite (fw : Forwarder) (h : req.clridOffset + 4 ≤ req.frame.length) :
    Follows (rewriteProtocol (κ := κ) req) NotInternal ⟨[], none⟩ (fw.forward req) := by
  unfold Forwarder.forward
  split
  · refine follows_perform_bind rfl (fun snapshot _ => ?_)
    exact follows_perform_bind rfl (fun keys _ => ⟨rfl, fun _ hsame => by cases hsame⟩)
  · simp only
    split
    · exact ⟨rfl, fun _ hsame => by cases hsame⟩
    · exact (loopRules_rewrite h).follows_forwardAttempts _ _ _ ⟨rfl, rfl⟩

end Forward

/-- The frames that a connection has taken are what the decoder said. -/
def TakenWhole (s : Session) : Prop := ∀ p ∈ s.frames, IsRouterFrame p.2 p.1

theorem takenWhole_take {s : Session} (h : TakenWhole s) {frame : RouterFrame}
    (hdecode : tryDecodeRouter s.buf = .ok (some frame)) : TakenWhole (s.take frame) := by
  intro p hp
  rcases List.mem_append.mp hp with hold | hnew
  · exact h p hold
  · rw [List.mem_singleton.mp hnew]
    exact isRouterFrame_take hdecode

theorem takenWhole_step {cfg : Config} {s s' : Session} {e : ClientEvent} (h : TakenWhole s)
    (hstep : s.step cfg e = some s') : TakenWhole s' := by
  cases sessionStep hstep with
  | read delay bytes => exact h
  | leave => exact h
  | turn reply =>
    have hturn := turnStep cfg s reply
    generalize s.turn cfg reply = s' at hturn
    cases hturn with
    | keepalive frame hdecode => exact takenWhole_take h hdecode
    | forward frame hdecode =>
      unfold TakenWhole
      rw [(sameInput_respond _ _ _).frames]
      exact takenWhole_take h hdecode
    | _ => exact h

/-- Overwriting the clrid of a decoded frame, for any ids in any number, keeps its length and all
other bytes, and the next router decodes it to the same frame with the last id.  These are the
frames that `forward` sends for what a connection has taken, one for every id that it draws, unless
the connection to the hop is closed or the id taken; and its error for a short frame does not
occur. -/
theorem clrid_rewriting_transparent (κ : Type) :
    (∀ buf f ids, tryDecodeRouter buf = .ok (some f) →
      (rewriteClrid (buf.take f.frameLen) f.clridOffset ids).length = f.frameLen ∧
      (buf.take f.frameLen).length = f.frameLen ∧
      (∀ i, i < f.clridOffset ∨ f.clridOffset + 4 ≤ i →
        (rewriteClrid (buf.take f.frameLen) f.clridOffset ids)[i]? = (buf.take f.frameLen)[i]?) ∧
      ∀ rest, tryDecodeRouter (rewriteClrid (buf.take f.frameLen) f.clridOffset ids ++ rest) =
        .ok (some { f with originalClrid := ids.getLastD f.originalClrid })) ∧
    ∀ cfg now es s, Transition.run (Session.step cfg) (Session.start now) es = some s →
      ∀ p ∈ s.frames, ∀ fw : Forwarder, Follows (rewriteProtocol (κ := κ) (p.1.request p.2))
        NotInternal ⟨[], none⟩ (fw.forward (p.1.request p.2)) := by
  constructor
  · intro buf f ids hdecode
    have hframe := isRouterFrame_take hdecode
    have hlen := hframe.length_eq
    refine ⟨?_, hlen, ?_, ?_⟩
    · rw [length_rewriteClrid hframe.clrid_le, hlen]
    · intro i hi
      exact getElem?_rewriteClrid hframe.clrid_le hi ids
    · intro rest
      exact (hframe.rewriteClrid ids).tryDecodeRouter_append rest
  · intro cfg now es s hrun p hp fw
    have hstart : TakenWhole (Session.start now) := fun _ => nofun
    have htaken := Transition.invariant_of_run (fun s e s' h hstep => takenWhole_step h hstep)
      hstart hrun
    exact follows_forward_rewrite fw (htaken p hp).clrid_le

/-- The request of a client, sent twice: the next router decodes it with the second id. -/
theorem clrid_rewriting_transparent_lyon :
    ∃ s f, Transition.run (Session.step {}) (Session.start 0)
        [.read 1 (lyonFrame ++ [1, 2]), .turn failsAtOnce] = some s ∧ s.frames = [(f, lyonFrame)] ∧
      f.originalClrid = 9 ∧
      (∀ rest, tryDecodeRouter (rewriteClrid lyonFrame f.clridOffset [1, 2] ++ rest) =
        .ok (some { f with originalClrid := 2 })) ∧
      Follows (rewriteProtocol (κ := Unit) (f.request lyonFrame)) NotInternal ⟨[], none⟩
        (Forwarder.forward ⟨3, []⟩ (f.request lyonFrame)) := by
  obtain ⟨hsame, hsent⟩ := clrid_rewriting_transparent Unit
  obtain ⟨-, -, -, hdecodes⟩ := hsame (lyonFrame ++ [1, 2]) ⟨"lyon", false, 12, 9, 20⟩ [1, 2] rfl
  obtain ⟨s, hrun, hs⟩ := Option.map_eq_some_iff.mp (show
    (Transition.run (Session.step {}) (Session.start 0)
        [.read 1 (lyonFrame ++ [1, 2]), .turn failsAtOnce]).map Session.frames =
      some [(⟨"lyon", false, 12, 9, 20⟩, lyonFrame)] from rfl)
  refine ⟨s, _, hrun, hs, rfl, hdecodes, ?_⟩
  exact hsent {} 0 _ s hrun (_, lyonFrame) (by rw [hs]; exact List.mem_singleton_self _) ⟨3, []⟩

end RzRouter
