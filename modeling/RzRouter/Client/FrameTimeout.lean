import RzRouter.Client.Dispatch
import RzRouter.Client.Resync

/-!
# The frame time-out

The check compares the time of the last complete frame with the clock whenever the inner loop
waits.  That time is set before the frame is forwarded, and it does not move when a new frame
begins, so a client can be closed that owes nothing or has only begun a frame.  In every run in
which this is ruled out at the reads and at the forward calls, only a slow client is closed.
-/

namespace RzRouter

open Scanner

/-- The bytes of the incomplete frame in a buffer that waits: those from the first magic byte on. -/
def pendingFrame (buf : List UInt8) : List UInt8 := routerDecoder.skip buf

namespace Session

/-- The time at which the `n`-th byte from the end of the stream was read. -/
def readAt (s : Session) (n : Nat) : Option Nat := s.arrivals[s.received.length - n]?

/-- The buffer holds bytes of an incomplete frame, the first of which was read more than
`frame_timeout` ago. -/
def OwesFrame (cfg : Config) (s : Session) : Prop :=
  pendingFrame s.buf ≠ [] ∧
    ∃ first, s.readAt (pendingFrame s.buf).length = some first ∧ s.now - first > cfg.frameTimeout

end Session

/-! ## The condition -/

/-- A read that comes more than `frame_timeout` after the last frame does not leave the server
waiting, or leaves it waiting for a frame whose first byte was read more than `frame_timeout`
before. -/
def ReadInTime (cfg : Config) (s : Session) (delay : Nat) (bytes : List UInt8) : Prop :=
  (s.buf ++ bytes).length ≤ cfg.maxBufferSize →
    s.now + delay - s.lastFrameTime > cfg.frameTimeout →
    ∀ rest, Stalls (s.buf ++ bytes) rest → pendingFrame rest ≠ [] ∧
      ∃ first, s.arrivals[s.received.length + bytes.length - (pendingFrame rest).length]? =
        some first ∧ s.now + delay - first > cfg.frameTimeout

/-- The response goes out in full, so that the connection stays open. -/
def Reply.Delivered (reply : Reply) : Prop :=
  reply.write = .done ∧ ∀ response, reply.result = .ok response → reply.flushed = true

/-- A forward call that takes longer than `frame_timeout` is made only when what is behind its
frame in the buffer does not leave the server waiting, or leaves it waiting for a frame that has
begun. -/
def ForwardInTime (cfg : Config) (s : Session) (reply : Reply) : Prop :=
  s.buf.length ≤ cfg.maxBufferSize →
    ∀ frame, tryDecodeRouter s.buf = .ok (some frame) → frame.frameLen ≤ cfg.maxFrameSize →
      frame.segment ≠ KEEPALIVE_SEGMENT → reply.Delivered → reply.duration > cfg.frameTimeout →
      ∀ rest, Stalls (s.buf.drop frame.frameLen) rest → pendingFrame rest ≠ []

def InTime (cfg : Config) (s : Session) (e : ClientEvent) : Prop :=
  match e with
  | .read delay bytes => ReadInTime cfg s delay bytes
  | .turn reply => ForwardInTime cfg s reply
  | _ => True

/-! ## The clock -/

/-- Every byte that was received has its time, and the buffer holds some of them. -/
structure Clocked (s : Session) : Prop where
  times : s.arrivals.length = s.received.length
  past : ∀ t ∈ s.arrivals, t ≤ s.now
  buffered : s.buf.length ≤ s.received.length

theorem clocked_start (t₀ : Nat) : Clocked (Session.start t₀) := ⟨rfl, nofun, Nat.le_refl 0⟩

/-- A turn reads nothing, drops from the buffer and does not turn back the clock. -/
theorem clocked_of_shrinks {s s' : Session} (h : Clocked s) (hreceived : s'.received = s.received)
    (harrivals : s'.arrivals = s.arrivals) (hnow : s.now ≤ s'.now)
    (hbuf : s'.buf.length ≤ s.buf.length) : Clocked s' where
  times := by
    rw [hreceived, harrivals]
    exact h.times
  past := by
    rw [harrivals]
    exact fun t ht => Nat.le_trans (h.past t ht) hnow
  buffered := by
    rw [hreceived]
    exact Nat.le_trans hbuf h.buffered

theorem clocked_read {s : Session} (h : Clocked s) (delay : Nat) (bytes : List UInt8) :
    Clocked (s.receive delay bytes) where
  times := by
    simp only [Session.receive, List.length_append, List.length_replicate, h.times]
  past := by
    intro t ht
    rcases List.mem_append.mp ht with hold | hnew
    · exact Nat.le_add_right_of_le (h.past t hold)
    · rw [List.eq_of_mem_replicate hnew]
      exact Nat.le_refl _
  buffered := by
    have hle := h.buffered
    simp only [Session.receive, List.length_append]
    omega

theorem clocked_turn {cfg : Config} {s s' : Session} {reply : Reply} (h : Clocked s)
    (hturn : TurnStep cfg s reply s') : Clocked s' := by
  -- a turn reads nothing, lets the clock run on and keeps a suffix of the buffer
  cases hturn with
  | keepalive frame =>
    exact clocked_of_shrinks h rfl rfl (Nat.le_refl _) (List.drop_suffix _ _).length_le
  | forward frame =>
    have hsame := sameInput_respond (s.take frame) frame.originalClrid reply
    refine clocked_of_shrinks h hsame.received hsame.arrivals ?_ ?_
    · rw [now_respond]
      exact Nat.le_add_right _ _
    · rw [hsame.buf]
      exact (List.drop_suffix _ _).length_le
  | resync e hdecode pos hmagic =>
    refine clocked_of_shrinks h rfl rfl (Nat.le_refl _) ?_
    exact (Resyncs.next hdecode hmagic (.here _)).length_le
  | discard e hdecode hmagic n =>
    refine clocked_of_shrinks h rfl rfl (Nat.le_refl _) ?_
    exact Nat.le_trans (List.drop_suffix _ _).length_le (List.drop_suffix _ _).length_le
  | _ => exact clocked_of_shrinks h rfl rfl (Nat.le_refl _) (Nat.le_refl _)

theorem clocked_step {cfg : Config} {s s' : Session} {e : ClientEvent} (h : Clocked s)
    (hstep : s.step cfg e = some s') : Clocked s' := by
  cases sessionStep hstep with
  | read delay bytes hphase => exact clocked_read h delay bytes
  | leave e delay reason hphase hread hturn hreason =>
    exact clocked_of_shrinks h rfl rfl (Nat.le_add_right _ _) (Nat.le_refl _)
  | turn reply hphase => exact clocked_turn h (turnStep cfg s reply)

/-! ## The invariant -/

/-- Whenever the server is going to wait with a late clock, it waits for an old frame. -/
structure Timely (cfg : Config) (s : Session) : Prop where
  clocked : Clocked s
  pending : s.phase = .processing → s.buf.length ≤ cfg.maxBufferSize →
    s.now - s.lastFrameTime > cfg.frameTimeout → ∀ rest, Stalls s.buf rest →
    ({ s with buf := rest } : Session).OwesFrame cfg
  closed : s.phase = .closed .frameTimeout → s.OwesFrame cfg

theorem timely_start (cfg : Config) (t₀ : Nat) : Timely cfg (Session.start t₀) :=
  ⟨clocked_start t₀, nofun, nofun⟩

theorem delivered_of_respond {s : Session} {clrid : UInt32} {reply : Reply}
    (h : (s.respond clrid reply).phase = .processing) : reply.Delivered := by
  unfold Session.respond at h
  simp only at h
  split at h
  · rename_i response hresult
    -- a write or flush that fails closes the session
    split at h
    · rename_i hdone
      split at h
      · rename_i hflushed
        exact ⟨hdone, fun _ _ => hflushed⟩
      · cases h
    · cases h
  · rename_i e hresult
    split at h
    · rename_i hdone
      refine ⟨hdone, fun response hresponse => ?_⟩
      rw [hresult] at hresponse
      cases hresponse
    · cases h

theorem timely_read {cfg : Config} {s : Session} {delay : Nat} {bytes : List UInt8}
    (h : Timely cfg s) (hcond : ReadInTime cfg s delay bytes) :
    Timely cfg (s.receive delay bytes) where
  clocked := clocked_read h.clocked delay bytes
  pending := by
    intro _ hlen hlate rest hstalls
    obtain ⟨hne, first, hfirst, hold⟩ := hcond hlen hlate rest hstalls
    refine ⟨hne, first, ?_, hold⟩
    unfold Session.readAt Session.receive
    simp only [List.length_append]
    rw [List.getElem?_append_left (List.getElem?_eq_some_iff.mp hfirst).1]
    exact hfirst
  closed := nofun

/-- While a frame is forwarded, what is behind it in the buffer grows old. -/
theorem owesFrame_of_forward {cfg : Config} {s : Session} {frame : RouterFrame} {reply : Reply}
    (h : Clocked s) (hdecode : tryDecodeRouter s.buf = .ok (some frame))
    (hlate : reply.duration > cfg.frameTimeout) {rest : List UInt8} (hne : pendingFrame rest ≠ []) :
    ({ (s.take frame).respond frame.originalClrid reply with buf := rest } : Session).OwesFrame
      cfg := by
  obtain ⟨-, hlen, hle⟩ := head_of_frame hdecode
  have hbuffered := h.buffered
  have hpos := List.length_pos_iff.mpr hne
  have hsame := sameInput_respond (s.take frame) frame.originalClrid reply
  -- the first byte of the pending frame has an arrival time
  have hindex : s.received.length - (pendingFrame rest).length < s.arrivals.length := by
    rw [h.times]
    omega
  refine ⟨hne, s.arrivals[s.received.length - (pendingFrame rest).length], ?_, ?_⟩
  · unfold Session.readAt
    simp only [hsame.arrivals, hsame.received]
    exact List.getElem?_eq_getElem hindex
  -- it arrived before the frame was forwarded, so it has waited for the whole forward
  · have hpast := h.past _ (List.getElem_mem hindex)
    simp only [now_respond]
    change s.now + reply.duration - _ > _
    omega

theorem timely_turn {cfg : Config} {s s' : Session} {reply : Reply} (h : Timely cfg s)
    (hphase : s.phase = .processing) (hcond : ForwardInTime cfg s reply)
    (hturn : TurnStep cfg s reply s') : Timely cfg s' := by
  have hclocked := clocked_turn h.clocked hturn
  cases hturn with
  | exceeded hlen => exact ⟨hclocked, nofun, nofun⟩
  | timedOut hdecode hlate hlen =>
    exact ⟨hclocked, nofun, fun _ => h.pending hphase hlen hlate s.buf ⟨.here _, hdecode⟩⟩
  | wait hdecode hearly => exact ⟨hclocked, nofun, nofun⟩
  | tooLarge frame hdecode hlarge => exact ⟨hclocked, nofun, nofun⟩
  | keepalive frame hdecode hsmall hsegment =>
    refine ⟨hclocked, fun _ _ hlate => ?_, fun hclosed => ?_⟩
    · -- the clock was just reset
      change s.now - s.now > _ at hlate
      omega
    · rw [show (s.take frame).phase = .processing from hphase] at hclosed
      cases hclosed
  | forward frame hdecode hsmall hsegment hlen =>
    have hsame := sameInput_respond (s.take frame) frame.originalClrid reply
    refine ⟨hclocked, fun hprocessing _ hlate rest hstalls => ?_, fun hclosed => ?_⟩
    · rw [now_respond, hsame.lastFrameTime] at hlate
      change s.now + reply.duration - s.now > _ at hlate
      rw [Nat.add_sub_cancel_left] at hlate
      rw [hsame.buf] at hstalls
      have hdelivered := delivered_of_respond hprocessing
      exact owesFrame_of_forward h.clocked hdecode hlate
        (hcond hlen frame hdecode hsmall hsegment hdelivered hlate rest hstalls)
    · rcases phase_respond (s.take frame) frame.originalClrid reply with heq | heq
      · rw [heq, show (s.take frame).phase = .processing from hphase] at hclosed
        cases hclosed
      · rw [heq] at hclosed
        cases hclosed
  | resync e hdecode pos hmagic hlen =>
    refine ⟨hclocked, fun _ _ hlate rest hstalls => ?_, fun hclosed => ?_⟩
    · exact h.pending hphase hlen hlate rest (stalls_of_resync hdecode hmagic hstalls)
    · rw [hphase] at hclosed
      cases hclosed
  | discard e hdecode hmagic n => exact ⟨hclocked, nofun, nofun⟩

theorem timely_step {cfg : Config} {s s' : Session} {e : ClientEvent} (h : Timely cfg s)
    (hcond : InTime cfg s e) (hstep : s.step cfg e = some s') : Timely cfg s' := by
  have hclocked := clocked_step h.clocked hstep
  cases sessionStep hstep with
  | read delay bytes hphase => exact timely_read h hcond
  | leave e delay reason hphase hread hturn hreason =>
    refine ⟨hclocked, nofun, fun hclosed => ?_⟩
    cases hclosed
    exact absurd hreason (by decide)
  | turn reply hphase => exact timely_turn h hphase hcond (turnStep cfg s reply)

/-! ## When the condition fails -/

/-- A server that is going to wait with a late clock closes the connection. -/
theorem closes_of_stalls {cfg : Config} {s s' : Session} {rest : List UInt8} {replies : List Reply}
    (hstalls : Stalls s.buf rest) (hphase : s.phase = .processing)
    (hlen : s.buf.length ≤ cfg.maxBufferSize) (hlate : s.now - s.lastFrameTime > cfg.frameTimeout)
    (hrun : Transition.run (Session.step cfg) s (turns replies) = some s')
    (hended : s'.phase ≠ .processing) : s' = { s with buf := rest }.close .frameTimeout := by
  obtain ⟨hresyncs, hdecode⟩ := hstalls
  obtain ⟨replies', hrest⟩ := run_of_resyncs hresyncs rfl hphase hlen hended hrun
  obtain ⟨reply, replies'', hlast⟩ := first_turn (s := { s with buf := rest }) hphase hended hrest
  have hturn : Session.turn cfg { s with buf := rest } reply =
      { s with buf := rest }.close .frameTimeout := by
    unfold Session.turn
    rw [if_neg (Nat.not_lt.mpr (Nat.le_trans hresyncs.length_le hlen)), hdecode]
    exact if_pos hlate
  rw [hturn] at hlast
  exact turns_of_ended nofun hlast

/-- After a read that fails the condition, the connection is closed although no old frame is
owed. -/
theorem false_close_of_read {cfg : Config} {s s' : Session} {delay : Nat} {bytes : List UInt8}
    {replies : List Reply} (hcond : ¬ ReadInTime cfg s delay bytes)
    (hrun : Transition.run (Session.step cfg) (s.receive delay bytes) (turns replies) = some s')
    (hended : s'.phase ≠ .processing) :
    s'.phase = .closed .frameTimeout ∧ ¬ s'.OwesFrame cfg := by
  unfold ReadInTime at hcond
  push Not at hcond
  obtain ⟨hlen, hlate, rest, hstalls, hnone⟩ := hcond
  rw [closes_of_stalls (s := s.receive delay bytes) hstalls rfl hlen hlate hrun hended]
  refine ⟨rfl, ?_⟩
  rintro ⟨hne, first, hfirst, hold⟩
  unfold Session.readAt at hfirst
  simp only [Session.close, Session.receive, List.length_append] at hne hfirst hold
  rw [List.getElem?_append] at hfirst
  split at hfirst
  · exact absurd hold (Nat.not_lt.mpr (hnone hne first hfirst))
  · -- the first byte has just been read
    rw [List.eq_of_mem_replicate (List.mem_of_getElem? hfirst)] at hold
    omega

theorem turn_of_forward {cfg : Config} {s : Session} {frame : RouterFrame} (reply : Reply)
    (hlen : s.buf.length ≤ cfg.maxBufferSize) (hdecode : tryDecodeRouter s.buf = .ok (some frame))
    (hsmall : frame.frameLen ≤ cfg.maxFrameSize) (hsegment : frame.segment ≠ KEEPALIVE_SEGMENT) :
    s.turn cfg reply = (s.take frame).respond frame.originalClrid reply := by
  unfold Session.turn
  rw [if_neg (Nat.not_lt.mpr hlen), hdecode]
  simp only [if_neg (Nat.not_lt.mpr hsmall), if_neg hsegment]

theorem phase_of_delivered {s : Session} {clrid : UInt32} {reply : Reply} (h : reply.Delivered) :
    (s.respond clrid reply).phase = s.phase := by
  unfold Session.respond
  simp only [h.1, if_true]
  split
  · rename_i response hresult
    rw [h.2 response hresult]
    rfl
  · rfl

/-- After a forward call that fails the condition, the connection is closed although nothing is
owed. -/
theorem false_close_of_forward {cfg : Config} {s s' : Session} {reply : Reply}
    {replies : List Reply} (hphase : s.phase = .processing) (hcond : ¬ ForwardInTime cfg s reply)
    (hrun : Transition.run (Session.step cfg) (s.turn cfg reply) (turns replies) = some s')
    (hended : s'.phase ≠ .processing) :
    s'.phase = .closed .frameTimeout ∧ ¬ s'.OwesFrame cfg := by
  unfold ForwardInTime at hcond
  push Not at hcond
  obtain ⟨hlen, frame, hdecode, hsmall, hsegment, hdelivered, hlate, rest, hstalls, hnil⟩ := hcond
  have hsame := sameInput_respond (s.take frame) frame.originalClrid reply
  rw [turn_of_forward reply hlen hdecode hsmall hsegment] at hrun
  -- the time-out counts from the start of the forward, which took too long
  have hclock : ((s.take frame).respond frame.originalClrid reply).now -
      ((s.take frame).respond frame.originalClrid reply).lastFrameTime > cfg.frameTimeout := by
    rw [now_respond, hsame.lastFrameTime]
    change s.now + reply.duration - s.now > _
    omega
  have hfits : ((s.take frame).respond frame.originalClrid reply).buf.length ≤
      cfg.maxBufferSize := by
    rw [hsame.buf]
    exact Nat.le_trans (List.drop_suffix _ _).length_le hlen
  -- what is left of the buffer holds no complete frame
  have hwaits : Stalls ((s.take frame).respond frame.originalClrid reply).buf rest := by
    rw [hsame.buf]
    exact hstalls
  rw [closes_of_stalls hwaits ((phase_of_delivered hdelivered).trans hphase) hfits hclock hrun
    hended]
  exact ⟨rfl, fun howes => howes.1 hnil⟩

theorem false_close_of_step {cfg : Config} {s s₁ s' : Session} {e : ClientEvent}
    {replies : List Reply} (hcond : ¬ InTime cfg s e) (hstep : s.step cfg e = some s₁)
    (hrun : Transition.run (Session.step cfg) s₁ (turns replies) = some s')
    (hended : s'.phase ≠ .processing) :
    s'.phase = .closed .frameTimeout ∧ ¬ s'.OwesFrame cfg := by
  cases sessionStep hstep with
  | read delay bytes hphase => exact false_close_of_read hcond hrun hended
  | leave e delay reason hphase hread hturn hreason =>
    cases e with
    | read d bytes => exact absurd rfl (hread d bytes)
    | turn reply => exact absurd rfl (hturn reply)
    | _ => exact absurd trivial hcond
  | turn reply hphase => exact false_close_of_forward hphase hcond hrun hended

/-! ## Results -/

/-- In a run that meets the condition only a client that owes an old frame is closed by the check,
and after a step that does not meet it the check closes a client that does not. -/
theorem closed_for_owed_frame (cfg : Config) (t₀ : Nat) (es : List ClientEvent) (s : Session)
    (hrun : Transition.run (Session.step cfg) (Session.start t₀) es = some s) :
    (Transition.Meets (Session.step cfg) (InTime cfg) (Session.start t₀) es →
      s.phase = .closed .frameTimeout → s.OwesFrame cfg) ∧
    (∀ e s₁, s.step cfg e = some s₁ → ¬ InTime cfg s e → ∀ replies s',
      Transition.run (Session.step cfg) s₁ (turns replies) = some s' → s'.phase ≠ .processing →
      s'.phase = .closed .frameTimeout ∧ ¬ s'.OwesFrame cfg) := by
  refine ⟨fun hmeets => ?_, fun e s₁ hstep hcond replies s' hrest hended => ?_⟩
  · have htimely : Timely cfg s := Transition.invariant_of_meets (I := Timely cfg)
      (fun _ _ _ h hcond hstep => timely_step h hcond hstep) (timely_start cfg t₀) hmeets hrun
    exact htimely.closed
  · exact false_close_of_step hcond hstep hrest hended

/-- Three bytes of a frame at 1, two more at 22. -/
def slowClient : List ClientEvent :=
  [.read 1 (lyonFrame.take 3), .turn failsAtOnce, .read 21 ((lyonFrame.drop 3).take 2),
    .turn failsAtOnce]

theorem closed_for_owed_frame_slow :
    ∃ s, Transition.run (Session.step {}) (Session.start 0) slowClient = some s ∧
      s.phase = .closed .frameTimeout ∧ s.OwesFrame {} := by
  obtain ⟨s, hrun, hclosed⟩ := Option.map_eq_some_iff.mp (show
    (Transition.run (Session.step {}) (Session.start 0) slowClient).map Session.phase =
      some (.closed .frameTimeout) from rfl)
  have hmeets : Transition.Meets (Session.step {}) (InTime {}) (Session.start 0) slowClient := by
    refine ⟨fun _ hlate => ?_, fun s₁ hs₁ => ?_⟩
    · exact absurd hlate (by decide)
    cases hs₁
    refine ⟨fun _ frame hdecode => ?_, fun s₂ hs₂ => ?_⟩
    · cases hdecode
    cases hs₂
    refine ⟨fun _ _ rest hstalls => ?_, fun s₃ hs₃ => ?_⟩
    · rw [hstalls.1.eq_of_ok rfl]
      exact ⟨by decide, 1, rfl, by decide⟩
    cases hs₃
    refine ⟨fun _ frame hdecode => ?_, fun s₄ hs₄ => trivial⟩
    cases hdecode
  exact ⟨s, hrun, hclosed, (closed_for_owed_frame {} 0 slowClient s hrun).1 hmeets hclosed⟩

/-- A request whose forward call takes 25 seconds, and nothing behind it. -/
def slowUpstream : List ClientEvent :=
  [.read 1 lyonFrame, .turn ⟨.error .networkError, 25, .done, true⟩, .turn failsAtOnce]

/-- A client that owes nothing is closed after a slow forward call. -/
theorem closed_for_slow_upstream :
    ¬ ∀ (cfg : Config) (t₀ : Nat) (es : List ClientEvent) (s : Session),
      Transition.run (Session.step cfg) (Session.start t₀) es = some s →
        s.phase = .closed .frameTimeout → s.OwesFrame cfg := by
  intro h
  obtain ⟨s, hrun, hs⟩ := Option.map_eq_some_iff.mp (show
    (Transition.run (Session.step {}) (Session.start 0) slowUpstream).map
      (fun s => (s.phase, s.buf)) = some (.closed .frameTimeout, []) from rfl)
  rw [Prod.mk.injEq] at hs
  have howes := (h {} 0 slowUpstream s hrun hs.1).1
  rw [hs.2] at howes
  exact howes rfl

end RzRouter
