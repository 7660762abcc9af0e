import RzRouter.Client.Turns

/-!
# The frames of a client stream

What the server takes from its buffer does not depend on how the stream is cut into reads: it is
what the parser of the whole stream finds.  The buffer itself does depend on the cuts, since
garbage is dropped where a read ends; the invariant compares buffers up to garbage.
-/

namespace RzRouter

open Scanner

/-- The frames of a whole stream: from each magic byte on, a valid frame is taken, an incomplete
one ends the stream, and the magic byte of anything else is dropped. -/
def referenceFrames (stream : List UInt8) : List (RouterFrame × List UInt8) :=
  (routerDecoder.parse stream).1

/-- The bytes that the reads bring. -/
def readBytes (es : List ClientEvent) : List UInt8 :=
  es.flatMap (fun e =>
    match e with
    | .read _ bytes => bytes
    | _ => [])

theorem readBytes_cons (e : ClientEvent) (es : List ClientEvent) :
    readBytes (e :: es) = readBytes [e] ++ readBytes es := by
  unfold readBytes
  rw [← List.flatMap_append]
  rfl

/-- The frame is not longer than `max_frame_size`. -/
def Config.admits (cfg : Config) (f : RouterFrame × List UInt8) : Bool :=
  decide (f.1.frameLen ≤ cfg.maxFrameSize)

/-- Everything that was read has been processed. -/
def SessionPhase.waits : SessionPhase → Bool
  | processing => false
  | closed .bufferExceeded | closed .frameTooLarge | closed .writeError => false
  | _ => true

/-- The server has taken the frames of what it has received, as far as it has come. -/
structure Dispatches (cfg : Config) (s : Session) : Prop where
  tracks : routerDecoder.Tracks s.received s.frames s.buf
  admitted : ∀ f ∈ s.frames, cfg.admits f = true
  waits : s.phase.waits = true → routerDecoder.decode (routerDecoder.skip s.buf) = .more
  tooLarge : s.phase = .closed .frameTooLarge → ∃ frame,
    tryDecodeRouter s.buf = .ok (some frame) ∧ frame.frameLen > cfg.maxFrameSize

theorem dispatches_start (cfg : Config) (t₀ : Nat) : Dispatches cfg (Session.start t₀) where
  tracks := routerDecoder.tracks_nil
  admitted := nofun
  waits := fun _ => rfl
  tooLarge := nofun

theorem tracks_take {s : Session} {frame : RouterFrame}
    (h : routerDecoder.Tracks s.received s.frames s.buf)
    (hdecode : tryDecodeRouter s.buf = .ok (some frame)) :
    routerDecoder.Tracks (s.take frame).received (s.take frame).frames (s.take frame).buf := by
  obtain ⟨⟨rest, hbuf⟩, -, -⟩ := head_of_frame hdecode
  unfold Session.take
  simp only
  rw [hbuf] at h hdecode ⊢
  exact h.frame rfl (decode_of_frame hdecode)

theorem tracks_drop_one {stream : List UInt8} {found : List (RouterFrame × List UInt8)}
    {buf : List UInt8} {e : RZError} (h : routerDecoder.Tracks stream found buf)
    (hdecode : tryDecodeRouter buf = .error e) :
    routerDecoder.Tracks stream found (buf.drop 1) := by
  cases buf with
  | nil => exact h
  | cons b rest =>
    by_cases hmarks : routerDecoder.marks b = true
    · exact h.bad hmarks (decode_of_error hdecode)
    · exact h.drop (routerDecoder.skip_cons_of_not_marks (Bool.eq_false_iff.mpr hmarks)).symm

theorem dispatches_turn {cfg : Config} {s s' : Session} {reply : Reply} (h : Dispatches cfg s)
    (hphase : s.phase = .processing) (hturn : TurnStep cfg s reply s') : Dispatches cfg s' := by
  -- a frame that is taken has passed the check of its size
  have hadmits : ∀ frame : RouterFrame, frame.frameLen ≤ cfg.maxFrameSize →
      ∀ f ∈ (s.take frame).frames, cfg.admits f = true := by
    intro frame hsmall f hf
    rcases List.mem_append.mp hf with hold | hnew
    · exact h.admitted f hold
    · rw [List.mem_singleton.mp hnew]
      exact decide_eq_true hsmall
  cases hturn with
  | exceeded hlen => exact ⟨h.tracks, h.admitted, nofun, nofun⟩
  | timedOut hdecode hlate =>
    exact ⟨h.tracks, h.admitted, fun _ => decode_skip_of_more hdecode, nofun⟩
  | wait hdecode hearly =>
    exact ⟨h.tracks, h.admitted, fun _ => decode_skip_of_more hdecode, nofun⟩
  | tooLarge frame hdecode hlarge =>
    exact ⟨h.tracks, h.admitted, nofun, fun _ => ⟨frame, hdecode, hlarge⟩⟩
  | keepalive frame hdecode hsmall hsegment =>
    refine ⟨tracks_take h.tracks hdecode, hadmits frame hsmall, fun hwaits => ?_, fun hlarge => ?_⟩
    · rw [show (s.take frame).phase = .processing from hphase] at hwaits
      cases hwaits
    · rw [show (s.take frame).phase = .processing from hphase] at hlarge
      cases hlarge
  | forward frame hdecode hsmall hsegment =>
    have hsame := sameInput_respond (s.take frame) frame.originalClrid reply
    -- forwarding leaves the session processing, or closes it for a write error
    have hended : ∀ p, ((s.take frame).respond frame.originalClrid reply).phase = p →
        p = .processing ∨ p = .closed .writeError := by
      rintro p rfl
      exact (phase_respond (s.take frame) frame.originalClrid reply).imp_left
        (fun heq => heq.trans hphase)
    refine ⟨?_, ?_, fun hwaits => ?_, fun hlarge => ?_⟩
    · rw [hsame.received, hsame.frames, hsame.buf]
      exact tracks_take h.tracks hdecode
    · rw [hsame.frames]
      exact hadmits frame hsmall
    · rcases hended _ rfl with heq | heq <;> rw [heq] at hwaits <;> cases hwaits
    · rcases hended _ hlarge with heq | heq <;> cases heq
  | resync e hdecode pos hmagic =>
    refine ⟨(tracks_drop_one h.tracks hdecode).drop ?_, h.admitted, fun hwaits => ?_,
      fun hlarge => ?_⟩
    · rw [← skip_of_findNextRouterMagic hmagic, routerDecoder.skip_skip]
    · rw [hphase] at hwaits
      cases hwaits
    · rw [hphase] at hlarge
      cases hlarge
  | discard e hdecode hmagic n =>
    -- whatever is kept of a buffer without magic, the scanner skips it
    have hnone := skip_of_no_magic hmagic
    refine ⟨(tracks_drop_one h.tracks hdecode).drop ?_, h.admitted,
      fun _ => decode_skip_of_eq_nil (hnone n), nofun⟩
    have hzero := hnone 0
    rw [List.drop_zero] at hzero
    rw [hnone n, hzero]

theorem dispatches_step {cfg : Config} {s s' : Session} {e : ClientEvent} (h : Dispatches cfg s)
    (hstep : s.step cfg e = some s') : Dispatches cfg s' := by
  cases sessionStep hstep with
  | read delay bytes hphase => exact ⟨h.tracks.read bytes, h.admitted, nofun, nofun⟩
  | leave e delay reason hphase hread hturn hreason =>
    refine ⟨h.tracks, h.admitted, fun _ => h.waits (by rw [hphase]; rfl), fun hlarge => ?_⟩
    cases hlarge
    exact absurd hreason (by decide)
  | turn reply hphase => exact dispatches_turn h hphase (turnStep cfg s reply)

theorem received_of_step {cfg : Config} {s s' : Session} {e : ClientEvent}
    (hstep : s.step cfg e = some s') : s'.received = s.received ++ readBytes [e] := by
  cases sessionStep hstep with
  | read delay bytes hphase => simp [readBytes, Session.receive]
  | leave e delay reason hphase hread hturn hreason =>
    cases e with
    | read d bytes => exact absurd rfl (hread d bytes)
    | _ => exact (List.append_nil _).symm
  | turn reply hphase =>
    rw [(input_turn cfg s reply).1]
    exact (List.append_nil _).symm

theorem received_of_run {cfg : Config} {s s' : Session} {es : List ClientEvent}
    (hrun : Transition.run (Session.step cfg) s es = some s') :
    s'.received = s.received ++ readBytes es := by
  induction es generalizing s with
  | nil =>
    cases hrun
    exact (List.append_nil _).symm
  | cons e es ih =>
    obtain ⟨t, ht, hrest⟩ := (Transition.run_cons_eq_some _ _ _ _).mp hrun
    rw [ih hrest, received_of_step ht, readBytes_cons e es, List.append_assoc]

theorem dispatches_of_run {cfg : Config} {t₀ : Nat} {es : List ClientEvent} {s : Session}
    (hrun : Transition.run (Session.step cfg) (Session.start t₀) es = some s) :
    Dispatches cfg s ∧ s.received = readBytes es := by
  refine ⟨?_, received_of_run hrun⟩
  exact Transition.invariant_of_run (I := Dispatches cfg) (fun s e s' h hstep => dispatches_step h hstep)
    (dispatches_start cfg t₀) hrun

theorem takeWhile_append_of_neg {α : Type} {p : α → Bool} {l rest : List α} {a : α}
    (hl : ∀ x ∈ l, p x = true) (ha : p a = false) : (l ++ a :: rest).takeWhile p = l := by
  rw [List.takeWhile_append_of_pos hl, List.takeWhile_cons_of_neg (by rw [ha]; decide),
    List.append_nil]

/-! ## Results -/

/-- A read request for segment `lyon`, with clrid 9. -/
def lyonFrame : List UInt8 :=
  [0xFE, 15, 0, 0, 0, 4, 0x6C, 0x79, 0x6F, 0x6E, 0, 0xFF, 9, 0, 0, 0, 0, 0, 0, 0]

/-- `forward` fails at once, and the error response is written. -/
def failsAtOnce : Reply := ⟨.error .networkError, 0, .done, true⟩

/-- However the stream is cut into reads, the server dispatches the frames of the whole stream, up
to the first one that is too large, and it gets to the end of every read. -/
theorem frames_dispatched (cfg : Config) (t₀ : Nat) (es : List ClientEvent) (s : Session)
    (hrun : Transition.run (Session.step cfg) (Session.start t₀) es = some s) :
    (s.phase.waits = true →
      s.frames = (referenceFrames (readBytes es)).takeWhile cfg.admits) ∧
    (s.phase = .closed .frameTooLarge → ∀ unread,
      s.frames = (referenceFrames (readBytes es ++ unread)).takeWhile cfg.admits) ∧
    (s.phase = .processing → ∀ replies : Nat → Reply,
      ∃ n ≤ s.buf.length + 1, ∃ s', Transition.run (Session.step cfg) s
        ((List.range n).map (fun i => .turn (replies i))) = some s' ∧ s'.phase ≠ .processing) := by
  obtain ⟨h, hreceived⟩ := dispatches_of_run hrun
  refine ⟨fun hwaits => ?_, fun hlarge unread => ?_, fun hphase => processing_ends cfg s hphase⟩
  · have hdone := h.tracks.done (h.waits hwaits)
    rw [hreceived] at hdone
    unfold referenceFrames
    rw [hdone, List.takeWhile_eq_self_iff.mpr h.admitted]
  · obtain ⟨frame, hdecode, hframe⟩ := h.tooLarge hlarge
    obtain ⟨⟨rest, hbuf⟩, -, -⟩ := head_of_frame hdecode
    have hfound := h.tracks.found_prefix unread
    rw [hreceived, hbuf] at hfound
    -- the decision about the large frame does not depend on what follows it
    have hstable : tryDecodeRouter (ROUTER_MAGIC :: (rest ++ unread)) = .ok (some frame) := by
      rw [← List.cons_append, tryDecodeRouter_append unread (by rw [← hbuf, hdecode]; exact nofun),
        ← hbuf, hdecode]
    have hskip : routerDecoder.skip (ROUTER_MAGIC :: (rest ++ unread)) =
        ROUTER_MAGIC :: (rest ++ unread) := routerDecoder.skip_cons_of_marks rfl
    rw [List.cons_append, routerDecoder.parse_of_frame hskip (decode_of_frame hstable)] at hfound
    unfold referenceFrames
    rw [hfound, takeWhile_append_of_neg h.admitted (decide_eq_false (by simp only; omega))]

/-- Garbage and a frame, cut inside the header of the frame. -/
theorem frames_dispatched_lyon :
    ∃ s, Transition.run (Session.step {}) (Session.start 0)
        ([.read 1 ([1, 2, 3] ++ lyonFrame.take 3)] ++ List.replicate 2 (.turn failsAtOnce) ++
          [.read 1 (lyonFrame.drop 3)] ++ List.replicate 2 (.turn failsAtOnce)) = some s ∧
      s.frames.map Prod.snd = [lyonFrame] ∧
      s.frames = (referenceFrames ([1, 2, 3] ++ lyonFrame)).takeWhile (Config.admits {}) := by
  obtain ⟨s, hrun, hs⟩ := Option.map_eq_some_iff.mp (show
    (Transition.run (Session.step {}) (Session.start 0)
        ([.read 1 ([1, 2, 3] ++ lyonFrame.take 3)] ++ List.replicate 2 (.turn failsAtOnce) ++
          [.read 1 (lyonFrame.drop 3)] ++ List.replicate 2 (.turn failsAtOnce))).map
      (fun s => (s.phase, s.frames.map Prod.snd)) = some (.reading, [lyonFrame]) from rfl)
  rw [Prod.mk.injEq] at hs
  exact ⟨s, hrun, hs.2, (frames_dispatched {} 0 _ s hrun).1 (by rw [hs.1]; rfl)⟩

end RzRouter
