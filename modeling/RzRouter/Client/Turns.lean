import RzRouter.Client.Decoding

/-!
# The steps of a client connection

A turn of the inner loop is one of the cases of `TurnStep`, a step of the connection one of those of
`SessionStep`; the results about the client side are proved from these.  Every turn consumes
something or ends the loop, so a read is always processed to its end.
-/

namespace RzRouter

open Scanner

/-- A turn of the inner loop, by what the decoder says about the buffer. -/
inductive TurnStep (cfg : Config) (s : Session) (reply : Reply) : Session → Prop
  | exceeded (hlen : s.buf.length > cfg.maxBufferSize) :
      TurnStep cfg s reply (s.close .bufferExceeded)
  | timedOut (hdecode : tryDecodeRouter s.buf = .ok none)
      (hlate : s.now - s.lastFrameTime > cfg.frameTimeout)
      (hlen : s.buf.length ≤ cfg.maxBufferSize) :
      TurnStep cfg s reply (s.close .frameTimeout)
  | wait (hdecode : tryDecodeRouter s.buf = .ok none)
      (hearly : s.now - s.lastFrameTime ≤ cfg.frameTimeout) :
      TurnStep cfg s reply { s with phase := .reading }
  | tooLarge (frame : RouterFrame) (hdecode : tryDecodeRouter s.buf = .ok (some frame))
      (hlarge : frame.frameLen > cfg.maxFrameSize) :
      TurnStep cfg s reply (s.close .frameTooLarge)
  | keepalive (frame : RouterFrame) (hdecode : tryDecodeRouter s.buf = .ok (some frame))
      (hsmall : frame.frameLen ≤ cfg.maxFrameSize) (hsegment : frame.segment = KEEPALIVE_SEGMENT) :
      TurnStep cfg s reply (s.take frame)
  | forward (frame : RouterFrame) (hdecode : tryDecodeRouter s.buf = .ok (some frame))
      (hsmall : frame.frameLen ≤ cfg.maxFrameSize) (hsegment : frame.segment ≠ KEEPALIVE_SEGMENT)
      (hlen : s.buf.length ≤ cfg.maxBufferSize) :
      TurnStep cfg s reply ((s.take frame).respond frame.originalClrid reply)
  | resync (e : RZError) (hdecode : tryDecodeRouter s.buf = .error e) (pos : Nat)
      (hmagic : findNextRouterMagic (s.buf.drop 1) 0 = some pos)
      (hlen : s.buf.length ≤ cfg.maxBufferSize) :
      TurnStep cfg s reply { s with buf := (s.buf.drop 1).drop pos }
  | discard (e : RZError) (hdecode : tryDecodeRouter s.buf = .error e)
      (hmagic : findNextRouterMagic (s.buf.drop 1) 0 = none) (n : Nat)
      (hlen : s.buf.length ≤ cfg.maxBufferSize) :
      TurnStep cfg s reply { s with buf := (s.buf.drop 1).drop n, phase := .reading }

theorem turnStep (cfg : Config) (s : Session) (reply : Reply) :
    TurnStep cfg s reply (s.turn cfg reply) := by
  unfold Session.turn
  split
  · rename_i hlen
    exact .exceeded hlen
  · rename_i hlen
    rw [Nat.not_lt] at hlen
    split
    · rename_i hdecode
      split
      · rename_i hlate
        exact .timedOut hdecode hlate hlen
      · rename_i hearly
        exact .wait hdecode (Nat.not_lt.mp hearly)
    · rename_i frame hdecode
      split
      · rename_i hlarge
        exact .tooLarge frame hdecode hlarge
      · rename_i hsmall
        split
        · rename_i hsegment
          exact .keepalive frame hdecode (Nat.not_lt.mp hsmall) hsegment
        · rename_i hsegment
          exact .forward frame hdecode (Nat.not_lt.mp hsmall) hsegment hlen
    · rename_i e hdecode
      unfold Session.resync
      split
      · rename_i hnil
        -- a parse error needs five bytes
        have hfive := length_of_error hdecode
        rw [hnil] at hfive
        exact absurd hfive (by decide)
      · simp only
        split
        · rename_i pos hmagic
          exact .resync e hdecode pos hmagic hlen
        · rename_i hmagic
          split
          · exact .discard e hdecode hmagic _ hlen
          -- a short buffer is kept whole
          · have hstep : TurnStep cfg s reply _ := .discard e hdecode hmagic 0 hlen
            rw [List.drop_zero] at hstep
            exact hstep

/-- A step of the connection; `leave` is every way out of the wait for a read. -/
inductive SessionStep (cfg : Config) (s : Session) : ClientEvent → Session → Prop
  | read (delay : Nat) (bytes : List UInt8) (hphase : s.phase = .reading) :
      SessionStep cfg s (.read delay bytes) (s.receive delay bytes)
  | leave (e : ClientEvent) (delay : Nat) (reason : CloseReason) (hphase : s.phase = .reading)
      (hread : ∀ d bytes, e ≠ .read d bytes) (hturn : ∀ reply, e ≠ .turn reply)
      (hreason : reason ∈ [.cancelled, .clientClosed, .readError, .idleTimeout]) :
      SessionStep cfg s e ({ s with now := s.now + delay }.close reason)
  | turn (reply : Reply) (hphase : s.phase = .processing) :
      SessionStep cfg s (.turn reply) (s.turn cfg reply)

theorem sessionStep {cfg : Config} {s s' : Session} {e : ClientEvent}
    (hstep : s.step cfg e = some s') : SessionStep cfg s e s' := by
  unfold Session.step at hstep
  split at hstep
  · rename_i delay bytes hphase
    split at hstep
    · cases hstep
    · cases hstep
      exact .read delay bytes hphase
  · rename_i delay hphase
    cases hstep
    exact .leave _ delay .clientClosed hphase nofun nofun (by decide)
  · rename_i delay hphase
    cases hstep
    exact .leave _ delay .readError hphase nofun nofun (by decide)
  · rename_i delay hphase
    split at hstep
    · cases hstep
    · cases hstep
      exact .leave _ delay .idleTimeout hphase nofun nofun (by decide)
  · rename_i delay hphase
    cases hstep
    exact .leave _ delay .cancelled hphase nofun nofun (by decide)
  · rename_i reply hphase
    cases hstep
    exact .turn reply hphase
  · cases hstep

theorem step_turn {cfg : Config} {s : Session} (h : s.phase = .processing) (reply : Reply) :
    s.step cfg (.turn reply) = some (s.turn cfg reply) := by
  unfold Session.step
  rw [h]

/-! ## Responding -/

/-- What `respond` leaves alone. -/
structure SameInput (s s' : Session) : Prop where
  buf : s'.buf = s.buf
  lastFrameTime : s'.lastFrameTime = s.lastFrameTime
  received : s'.received = s.received
  arrivals : s'.arrivals = s.arrivals
  frames : s'.frames = s.frames

theorem sameInput_write (s : Session) (response : List UInt8) (write : WriteResult) :
    SameInput s (s.write response write) := by
  cases write <;> exact ⟨rfl, rfl, rfl, rfl, rfl⟩

theorem sameInput_respond (s : Session) (clrid : UInt32) (reply : Reply) :
    SameInput s (s.respond clrid reply) := by
  have hclose : ∀ s' : Session, SameInput s s' → SameInput s (s'.close .writeError) :=
    fun s' h => ⟨h.buf, h.lastFrameTime, h.received, h.arrivals, h.frames⟩
  have hwrite : ∀ response, SameInput s
      (({ s with now := s.now + reply.duration } : Session).write response reply.write) := by
    intro response
    obtain ⟨hbuf, hlast, hreceived, harrivals, hframes⟩ :=
      sameInput_write { s with now := s.now + reply.duration } response reply.write
    exact ⟨hbuf, hlast, hreceived, harrivals, hframes⟩
  unfold Session.respond
  simp only
  split
  · split
    · split
      · exact hwrite _
      · exact hclose _ (hwrite _)
    · exact hclose _ (hwrite _)
  · split
    · exact hwrite _
    · exact hclose _ (hwrite _)

theorem now_respond (s : Session) (clrid : UInt32) (reply : Reply) :
    (s.respond clrid reply).now = s.now + reply.duration := by
  unfold Session.respond
  simp only
  split
  · split
    · split <;> (unfold Session.write; split <;> rfl)
    · unfold Session.write
      split <;> rfl
  · split <;> (unfold Session.write; split <;> rfl)

/-- A response is written to its end, or the connection is closed. -/
theorem phase_respond (s : Session) (clrid : UInt32) (reply : Reply) :
    (s.respond clrid reply).phase = s.phase ∨
      (s.respond clrid reply).phase = .closed .writeError := by
  unfold Session.respond
  simp only
  split
  · split
    · split
      · rename_i hdone _
        rw [hdone]
        exact Or.inl rfl
      · exact Or.inr rfl
    · exact Or.inr rfl
  · split
    · rename_i hdone
      rw [hdone]
      exact Or.inl rfl
    · exact Or.inr rfl

theorem input_turn (cfg : Config) (s : Session) (reply : Reply) :
    (s.turn cfg reply).received = s.received ∧ (s.turn cfg reply).arrivals = s.arrivals := by
  have hturn := turnStep cfg s reply
  generalize s.turn cfg reply = s' at hturn
  cases hturn with
  | forward frame =>
    have hsame := sameInput_respond (s.take frame) frame.originalClrid reply
    exact ⟨hsame.received, hsame.arrivals⟩
  | _ => exact ⟨rfl, rfl⟩

/-! ## A read is processed to its end -/

/-- A turn ends the loop or takes something from the buffer. -/
theorem length_turn (cfg : Config) (s : Session) (reply : Reply)
    (h : (s.turn cfg reply).phase = .processing) :
    (s.turn cfg reply).buf.length < s.buf.length := by
  -- a frame has at least its header
  have hframe : ∀ frame, tryDecodeRouter s.buf = .ok (some frame) →
      (s.buf.drop frame.frameLen).length < s.buf.length := by
    intro frame hdecode
    obtain ⟨-, hpos, hle⟩ := head_of_frame hdecode
    rw [List.length_drop]
    omega
  revert h
  generalize hs' : s.turn cfg reply = s'
  have hturn := turnStep cfg s reply
  rw [hs'] at hturn
  intro h
  cases hturn with
  | keepalive frame hdecode => exact hframe frame hdecode
  | forward frame hdecode =>
    rw [(sameInput_respond _ _ _).buf]
    exact hframe frame hdecode
  | resync e hdecode pos =>
    have hlen := length_of_error hdecode
    simp only [List.length_drop]
    omega
  | _ => cases h

/-- Whatever `forward` and the socket do, the inner loop ends. -/
theorem processing_ends (cfg : Config) (s : Session) (h : s.phase = .processing)
    (replies : Nat → Reply) :
    ∃ n ≤ s.buf.length + 1, ∃ s', Transition.run (Session.step cfg) s
      ((List.range n).map (fun i => .turn (replies i))) = some s' ∧ s'.phase ≠ .processing := by
  induction hlen : s.buf.length using Nat.strongRecOn generalizing s replies with
  | ind k ih =>
    have hstep : Session.step cfg s (.turn (replies 0)) = some (s.turn cfg (replies 0)) :=
      step_turn h (replies 0)
    by_cases hphase : (s.turn cfg (replies 0)).phase = .processing
    · have hless := length_turn cfg s (replies 0) hphase
      obtain ⟨n, hn, s', hrun, hs'⟩ :=
        ih _ (hlen ▸ hless) _ hphase (fun i => replies (i + 1)) rfl
      refine ⟨n + 1, by omega, s', ?_, hs'⟩
      rw [List.range_succ_eq_map, List.map_cons, List.map_map]
      exact (Transition.run_cons_eq_some _ _ _ _).mpr ⟨_, hstep, hrun⟩
    · exact ⟨1, by omega, _, (Transition.run_cons_eq_some _ _ _ _).mpr ⟨_, hstep, rfl⟩, hphase⟩

end RzRouter
