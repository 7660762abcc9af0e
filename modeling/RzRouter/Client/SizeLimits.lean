import RzRouter.Client.Dispatch
import RzRouter.Wire.RouterGrammar

/-!
# Size limits and conforming clients

A client that sends valid frames of at most `max_frame_size` bytes.  The buffer holds the bytes of
the frame that a read has left open, and what the next read brings behind them, before any of it is
decoded: this sum is what `max_buffer_size` bounds.
-/

namespace RzRouter

open LittleEndian

/-- Valid frames, none of them longer than `max_frame_size`. -/
structure Conforming (cfg : Config) (frames : List (List UInt8)) : Prop where
  valid : ∀ bytes ∈ frames, ∃ f, IsRouterFrame bytes f
  small : ∀ bytes ∈ frames, bytes.length ≤ cfg.maxFrameSize

/-- How many of the first `n` bytes of the stream belong to a frame that they do not complete. -/
def openBytes : List (List UInt8) → Nat → Nat
  | [], n => n
  | bytes :: frames, n => if bytes.length ≤ n then openBytes frames (n - bytes.length) else n

/-- No read ends more than `limit` bytes behind the beginning of the frame that was open before
it; `n` bytes were read before. -/
def ReadsFit (limit : Nat) (frames : List (List UInt8)) : Nat → List Nat → Prop
  | _, [] => True
  | n, read :: reads => openBytes frames n + read ≤ limit ∧ ReadsFit limit frames (n + read) reads

/-- How the stream is cut into reads. -/
def readLengths (es : List ClientEvent) : List Nat :=
  es.filterMap (fun e =>
    match e with
    | .read _ bytes => some bytes.length
    | _ => none)

/-- The capacity that the buffer begins with, and the most that a read brings. -/
def READ_CAPACITY : Nat := 16 * 1024

/-- `handle_connection` has returned because of a size. -/
def Session.DroppedForSize (s : Session) : Prop :=
  s.phase = .closed .bufferExceeded ∨ s.phase = .closed .frameTooLarge

/-- No conforming client is dropped for a size, however its stream is cut into reads of at most
`READ_CAPACITY` bytes. -/
def NeverDropsConforming (cfg : Config) : Prop :=
  ∀ t₀ frames es s, Conforming cfg frames → readBytes es <+: frames.flatten →
    (∀ read ∈ readLengths es, read ≤ READ_CAPACITY) →
    Transition.run (Session.step cfg) (Session.start t₀) es = some s → ¬ s.DroppedForSize

/-- Behind the longest frame that is not complete there is room for a read. -/
def Config.HasRoom (cfg : Config) : Prop :=
  cfg.maxFrameSize < 16 ∨
    min cfg.maxFrameSize (5 + MAX_TOTAL_LEN) - 1 + READ_CAPACITY ≤ cfg.maxBufferSize

/-! ## The open frame -/

theorem openBytes_append (taken rest : List (List UInt8)) (n : Nat) :
    openBytes (taken ++ rest) (taken.flatten.length + n) = openBytes rest n := by
  induction taken with
  | nil => simp
  | cons bytes taken ih =>
    rw [List.cons_append, openBytes, List.flatten_cons, List.length_append, if_pos (by omega),
      ← ih]
    congr 1
    omega

theorem openBytes_zero (frames : List (List UInt8)) : openBytes frames 0 = 0 := by
  induction frames with
  | nil => rfl
  | cons bytes frames ih =>
    rw [openBytes, Nat.zero_sub, ih, ite_self]

/-- Before the end of the stream a frame is open, or is about to begin. -/
theorem openBytes_lt {frames : List (List UInt8)} {n : Nat} (h : n < frames.flatten.length) :
    ∃ bytes ∈ frames, openBytes frames n < bytes.length := by
  induction frames generalizing n with
  | nil => exact absurd h (Nat.not_lt_zero n)
  | cons bytes frames ih =>
    rw [List.flatten_cons, List.length_append] at h
    rw [openBytes]
    split
    · rename_i hle
      obtain ⟨bytes', hmem, hlt⟩ := ih (n := n - bytes.length) (by omega)
      exact ⟨bytes', List.mem_cons_of_mem _ hmem, hlt⟩
    · rename_i hlt
      exact ⟨bytes, List.mem_cons_self, Nat.not_le.mp hlt⟩

/-- A valid frame has at least sixteen bytes, and at most what its length field can say. -/
theorem IsRouterFrame.length_bounds {bytes : List UInt8} {f : RouterFrame}
    (h : IsRouterFrame bytes f) : 16 ≤ bytes.length ∧ bytes.length ≤ 5 + MAX_TOTAL_LEN := by
  rw [h.length_eq]
  cases h with
  | frame hlen _ htail htotal hmax _ _ _ hframeLen => omega

theorem IsRouterFrame.decode_take {bytes : List UInt8} {f : RouterFrame}
    (h : IsRouterFrame bytes f) {n : Nat} (hn : n < bytes.length) :
    RzRouter.tryDecodeRouter (bytes.take n) = .ok none := by
  rw [incomplete_iff]
  have hbytes := h.length_eq
  have hlen : (bytes.take n).length = n := List.length_take_of_le (Nat.le_of_lt hn)
  by_cases h5 : n < 5
  · exact Or.inl (hlen.trans_lt h5)
  · cases h with
    | @frame total segLen segment flag clrid tail f _ _ _ _ hmax _ _ _ hframeLen =>
      refine Or.inr ⟨total, (segLen :: (segment ++ (flag :: (SHARD_MAGIC ::
        (u32Bytes clrid ++ tail))))).take (n - 5), ?_, hmax, ?_⟩
      · have hn4 : n = (u32Bytes total).length + (n - 5) + 1 := by
          rw [length_u32Bytes]
          omega
        conv_lhs => rw [hn4]
        rw [routerFrameBytes, List.take_succ_cons, List.take_length_add_append]
      · omega

/-- What the decoder says about a buffer that the stream `rest` begins with. -/
inductive FrontOf (rest : List (List UInt8)) (buf : List UInt8) : Prop
  | open (hdecode : tryDecodeRouter buf = .ok none)
      (hopen : openBytes rest buf.length = buf.length)
  | frame (bytes : List UInt8) (others : List (List UInt8)) (f : RouterFrame)
      (hrest : rest = bytes :: others) (hdecode : tryDecodeRouter buf = .ok (some f))
      (hlen : f.frameLen = bytes.length) (hbuf : buf = bytes ++ buf.drop f.frameLen)
      (hothers : buf.drop f.frameLen <+: others.flatten)

theorem frontOf_prefix {rest : List (List UInt8)} {buf : List UInt8}
    (hvalid : ∀ bytes ∈ rest, ∃ f, IsRouterFrame bytes f) (h : buf <+: rest.flatten) :
    FrontOf rest buf := by
  cases rest with
  | nil =>
    rw [List.flatten_nil, List.prefix_nil] at h
    rw [h]
    exact .open rfl rfl
  | cons bytes others =>
    obtain ⟨f, hframe⟩ := hvalid bytes List.mem_cons_self
    rw [List.flatten_cons] at h
    by_cases hlt : buf.length < bytes.length
    · -- the buffer is the beginning of the first frame
      have htake : buf = bytes.take buf.length := by
        have hprefix :=
          List.prefix_of_prefix_length_le h (List.prefix_append _ _) (Nat.le_of_lt hlt)
        exact List.prefix_iff_eq_take.mp hprefix
      refine .open ?_ ?_
      · rw [htake]
        exact hframe.decode_take hlt
      · rw [openBytes, if_neg (Nat.not_le.mpr hlt)]
    · -- the first frame is complete
      rw [Nat.not_lt] at hlt
      obtain ⟨buf', rfl⟩ := List.prefix_of_prefix_length_le (List.prefix_append _ _) h hlt
      have hdrop : (bytes ++ buf').drop f.frameLen = buf' := by
        rw [← hframe.length_eq, List.drop_left]
      refine .frame bytes others f rfl (hframe.tryDecodeRouter_append buf')
        hframe.length_eq.symm ?_ ?_
      · rw [hdrop]
      · rw [hdrop]
        exact (List.prefix_append_right_inj bytes).mp h

variable {rest : List (List UInt8)} {buf : List UInt8}

theorem FrontOf.openBytes_eq (h : FrontOf rest buf) (hdecode : tryDecodeRouter buf = .ok none) :
    openBytes rest buf.length = buf.length := by
  cases h with
  | «open» _ hopen => exact hopen
  | frame bytes others f _ hdecode' =>
    rw [hdecode] at hdecode'
    cases hdecode'

theorem FrontOf.exists_mem {f : RouterFrame} (h : FrontOf rest buf)
    (hdecode : tryDecodeRouter buf = .ok (some f)) : ∃ bytes ∈ rest, bytes.length = f.frameLen := by
  cases h with
  | «open» hdecode' _ =>
    rw [hdecode] at hdecode'
    cases hdecode'
  | frame bytes others f' hrest hdecode' hlen _ _ =>
    rw [hdecode] at hdecode'
    cases hdecode'
    exact ⟨bytes, hrest ▸ List.mem_cons_self, hlen.symm⟩

theorem FrontOf.ne_error {e : RZError} (h : FrontOf rest buf) : tryDecodeRouter buf ≠ .error e := by
  intro herror
  cases h with
  | «open» hdecode _ =>
    rw [herror] at hdecode
    cases hdecode
  | frame bytes others f _ hdecode =>
    rw [herror] at hdecode
    cases hdecode

/-! ## A session on a conforming stream -/

/-- The session has taken the first frames of the stream and holds what follows them; when it
waits for a read, that is the open frame. -/
structure OnStream (frames : List (List UInt8)) (s : Session) : Prop where
  cut : ∃ taken rest, frames = taken ++ rest ∧ s.received = taken.flatten ++ s.buf ∧
    s.buf <+: rest.flatten
  waits : s.phase = .reading → openBytes frames s.received.length = s.buf.length

theorem onStream_start (frames : List (List UInt8)) (t₀ : Nat) :
    OnStream frames (Session.start t₀) where
  cut := ⟨[], frames, rfl, rfl, List.nil_prefix⟩
  waits := fun _ => openBytes_zero frames

section Steps

variable {cfg : Config} {frames : List (List UInt8)} {s : Session}

/-- Nothing is taken and no read follows at once. -/
theorem OnStream.of_same (h : OnStream frames s) {s' : Session} (hbuf : s'.buf = s.buf)
    (hreceived : s'.received = s.received) (hphase : s'.phase ≠ .reading) : OnStream frames s' := by
  constructor
  · rw [hbuf, hreceived]
    exact h.cut
  · intro hreading
    exact absurd hreading hphase

theorem onStream_receive (h : OnStream frames s) (delay : Nat) (bytes : List UInt8)
    (hstream : s.received ++ bytes <+: frames.flatten) :
    OnStream frames (s.receive delay bytes) := by
  obtain ⟨taken, rest, rfl, hreceived, -⟩ := h.cut
  constructor
  · refine ⟨taken, rest, rfl, ?_, ?_⟩
    · show s.received ++ bytes = taken.flatten ++ (s.buf ++ bytes)
      rw [hreceived, List.append_assoc]
    · rw [hreceived, List.flatten_append, List.append_assoc] at hstream
      exact (List.prefix_append_right_inj taken.flatten).mp hstream
  · intro hreading
    cases hreading

/-- The frame at the front of the buffer is the next one of the stream. -/
theorem onStream_take {f : RouterFrame} {taken rest : List (List UInt8)}
    (hreceived : s.received = taken.flatten ++ s.buf) (hfront : FrontOf rest s.buf)
    (hdecode : tryDecodeRouter s.buf = .ok (some f)) (hphase : s.phase ≠ .reading) :
    OnStream (taken ++ rest) (s.take f) := by
  cases hfront with
  | «open» hdecode' _ =>
    rw [hdecode] at hdecode'
    cases hdecode'
  | frame bytes others f' hrest hdecode' _ hbuf hothers =>
    rw [hdecode] at hdecode'
    cases hdecode'
    subst hrest
    constructor
    · refine ⟨taken ++ [bytes], others, ?_, ?_, hothers⟩
      · rw [List.append_assoc, List.singleton_append]
      · show s.received = (taken ++ [bytes]).flatten ++ s.buf.drop f.frameLen
        rw [List.flatten_append, List.append_assoc, List.flatten_singleton, ← hbuf]
        exact hreceived
    · intro hreading
      exact absurd hreading hphase

theorem length_take_buf (s : Session) (f : RouterFrame) :
    (s.take f).buf.length ≤ s.buf.length := by
  show (s.buf.drop f.frameLen).length ≤ s.buf.length
  rw [List.length_drop]
  exact Nat.sub_le _ _

/-- A turn closes the connection for its size only if the buffer is too long. -/
theorem onStream_turn (hconforming : Conforming cfg frames) (h : OnStream frames s)
    (hphase : s.phase = .processing) (reply : Reply) :
    s.buf.length > cfg.maxBufferSize ∧ s.turn cfg reply = s.close .bufferExceeded ∨
    OnStream frames (s.turn cfg reply) ∧ (s.turn cfg reply).buf.length ≤ s.buf.length ∧
      ¬ (s.turn cfg reply).DroppedForSize := by
  obtain ⟨taken, rest, rfl, hreceived, hprefix⟩ := h.cut
  have hfront := frontOf_prefix
    (fun bytes hbytes => hconforming.valid bytes (List.mem_append_right taken hbytes)) hprefix
  have hturn := turnStep cfg s reply
  generalize s.turn cfg reply = s' at hturn ⊢
  have hreading : s.phase ≠ .reading := by
    rw [hphase]
    simp
  cases hturn with
  | exceeded hlen => exact Or.inl ⟨hlen, rfl⟩
  | timedOut hdecode hlate hlen =>
    refine Or.inr ⟨h.of_same rfl rfl (by simp [Session.close]), Nat.le_refl _, ?_⟩
    simp [Session.DroppedForSize, Session.close]
  | wait hdecode hearly =>
    refine Or.inr ⟨⟨⟨taken, rest, rfl, hreceived, hprefix⟩, fun _ => ?_⟩, Nat.le_refl _, ?_⟩
    · show openBytes (taken ++ rest) s.received.length = s.buf.length
      rw [hreceived, List.length_append, openBytes_append]
      exact hfront.openBytes_eq hdecode
    · simp [Session.DroppedForSize]
  | tooLarge frame hdecode hlarge =>
    -- a frame of the stream is not too large
    obtain ⟨bytes, hmem, hlen⟩ := hfront.exists_mem hdecode
    have hsmall := hconforming.small bytes (List.mem_append_right taken hmem)
    omega
  | keepalive frame hdecode hsmall hsegment =>
    refine Or.inr ⟨onStream_take hreceived hfront hdecode hreading, length_take_buf s frame, ?_⟩
    simp [Session.DroppedForSize, Session.take, hphase]
  | forward frame hdecode hsmall hsegment hlen =>
    have hsame := sameInput_respond (s.take frame) frame.originalClrid reply
    have hended := phase_respond (s.take frame) frame.originalClrid reply
    rw [show (s.take frame).phase = .processing from hphase] at hended
    have htake := onStream_take hreceived hfront hdecode hreading
    refine Or.inr ⟨htake.of_same hsame.buf hsame.received ?_, ?_, ?_⟩
    · rcases hended with heq | heq <;> simp [heq]
    · rw [hsame.buf]
      exact length_take_buf s frame
    · rcases hended with heq | heq <;> simp [Session.DroppedForSize, heq]
  | resync e hdecode pos hmagic hlen | discard e hdecode hmagic n hlen =>
    exact absurd hdecode hfront.ne_error

/-- A step of a session on a conforming stream. -/
inductive ConformingStep (cfg : Config) (frames : List (List UInt8)) (s : Session) (e : ClientEvent)
    (s' : Session) : Prop
  | read (n : Nat) (hreads : ∀ es, readLengths (e :: es) = n :: readLengths es)
      (hphase : s.phase = .reading) (hphase' : s'.phase = .processing)
      (hlen : s'.buf.length = s.buf.length + n)
      (hreceived : s'.received.length = s.received.length + n) (honStream : OnStream frames s')
  | exceeded (hreads : ∀ es, readLengths (e :: es) = readLengths es)
      (hphase' : s'.phase = .closed .bufferExceeded)
      (hlen : s.buf.length > cfg.maxBufferSize)
  | other (hreads : ∀ es, readLengths (e :: es) = readLengths es)
      (hnot : ¬ s'.DroppedForSize) (hlen : s'.buf.length ≤ s.buf.length)
      (hfits : s.phase = .processing → s.buf.length ≤ cfg.maxBufferSize)
      (hreceived : s'.received = s.received) (honStream : OnStream frames s')

theorem conformingStep (hconforming : Conforming cfg frames) (h : OnStream frames s)
    {s' : Session} {e : ClientEvent} (hstep : s.step cfg e = some s')
    (hstream : s'.received <+: frames.flatten) : ConformingStep cfg frames s e s' := by
  cases sessionStep hstep with
  | read delay bytes hphase =>
    refine .read bytes.length (fun es => rfl) hphase rfl (List.length_append)
      (List.length_append) (onStream_receive h delay bytes hstream)
  | leave e delay reason hphase hread hturn hreason =>
    refine .other (fun es => ?_) ?_ (Nat.le_refl _) (fun hprocessing => ?_) rfl
      (h.of_same rfl rfl (by simp [Session.close]))
    · cases e with
      | read d bytes => exact absurd rfl (hread d bytes)
      | _ => rfl
    · intro hdropped
      rcases hdropped with heq | heq
      · cases heq
        exact absurd hreason (by decide)
      · cases heq
        exact absurd hreason (by decide)
    · rw [hphase] at hprocessing
      cases hprocessing
  | turn reply hphase =>
    rcases onStream_turn hconforming h hphase reply with ⟨hlen, heq⟩ | ⟨hon, hlen, hnot⟩
    · rw [heq]
      exact .exceeded (fun _ => rfl) rfl hlen
    · by_cases hfits : s.buf.length ≤ cfg.maxBufferSize
      · exact .other (fun _ => rfl) hnot hlen (fun _ => hfits) (input_turn cfg s reply).1 hon
      · -- the check comes first
        refine absurd (Or.inl ?_) hnot
        unfold Session.turn
        rw [if_pos (Nat.not_le.mp hfits)]
        rfl

end Steps

/-! ## Runs -/

theorem run_of_closed {cfg : Config} {s s' : Session} {es : List ClientEvent} {reason : CloseReason}
    (h : s.phase = .closed reason) (hrun : Transition.run (Session.step cfg) s es = some s') :
    s' = s ∧ es = [] := by
  cases es with
  | nil =>
    cases hrun
    exact ⟨rfl, rfl⟩
  | cons e es =>
    obtain ⟨t, ht, -⟩ := (Transition.run_cons_eq_some _ _ _ _).mp hrun
    unfold Session.step at ht
    rw [h] at ht
    cases ht

section Runs

variable {cfg : Config} {frames : List (List UInt8)} {s s' : Session} {es : List ClientEvent}

/-- Whatever is read: either the buffer became too long, or the connection is not closed for a
size. -/
theorem onStream_of_run (hconforming : Conforming cfg frames) (h : OnStream frames s)
    (hnot : ¬ s.DroppedForSize) (hstream : s.received ++ readBytes es <+: frames.flatten)
    (hrun : Transition.run (Session.step cfg) s es = some s') :
    s'.phase = .closed .bufferExceeded ∨ ¬ s'.DroppedForSize := by
  induction es generalizing s with
  | nil =>
    cases hrun
    exact Or.inr hnot
  | cons e es ih =>
    obtain ⟨t, ht, hrest⟩ := (Transition.run_cons_eq_some _ _ _ _).mp hrun
    rw [readBytes_cons, ← List.append_assoc, ← received_of_step ht] at hstream
    cases conformingStep hconforming h ht ((List.prefix_append _ _).trans hstream) with
    | read n hreads hphase hphase' hlen hreceived honStream =>
      apply ih honStream _ hstream hrest
      simp [Session.DroppedForSize, hphase']
    | exceeded hreads hphase' hlen =>
      rw [(run_of_closed hphase' hrest).1]
      exact Or.inl hphase'
    | other hreads hnot' hlen hfits hreceived honStream =>
      exact ih honStream hnot' hstream hrest

theorem not_dropped_of_readsFit (hconforming : Conforming cfg frames) (h : OnStream frames s)
    (hnot : ¬ s.DroppedForSize) (hbuf : s.buf.length ≤ cfg.maxBufferSize)
    (hstream : s.received ++ readBytes es <+: frames.flatten)
    (hfit : ReadsFit cfg.maxBufferSize frames s.received.length (readLengths es))
    (hrun : Transition.run (Session.step cfg) s es = some s') : ¬ s'.DroppedForSize := by
  induction es generalizing s with
  | nil =>
    cases hrun
    exact hnot
  | cons e es ih =>
    obtain ⟨t, ht, hrest⟩ := (Transition.run_cons_eq_some _ _ _ _).mp hrun
    rw [readBytes_cons, ← List.append_assoc, ← received_of_step ht] at hstream
    cases conformingStep hconforming h ht ((List.prefix_append _ _).trans hstream) with
    | read n hreads hphase hphase' hlen hreceived honStream =>
      rw [hreads] at hfit
      obtain ⟨hread, hreads'⟩ := hfit
      rw [h.waits hphase] at hread
      rw [← hreceived] at hreads'
      apply ih honStream _ (by omega) hstream hreads' hrest
      simp [Session.DroppedForSize, hphase']
    | exceeded hreads hphase' hlen => exact absurd hbuf (Nat.not_le.mpr hlen)
    | other hreads hnot' hlen hfits hreceived honStream =>
      rw [hreads, ← hreceived] at hfit
      exact ih honStream hnot' (hlen.trans hbuf) hstream hfit hrest

theorem readsFit_of_not_dropped (hconforming : Conforming cfg frames) (h : OnStream frames s)
    (hstream : s.received ++ readBytes es <+: frames.flatten)
    (hrun : Transition.run (Session.step cfg) s es = some s') (hsettled : s'.phase ≠ .processing)
    (hnot : s'.phase ≠ .closed .bufferExceeded) :
    (s.phase = .processing → s.buf.length ≤ cfg.maxBufferSize) ∧
      ReadsFit cfg.maxBufferSize frames s.received.length (readLengths es) := by
  induction es generalizing s with
  | nil =>
    cases hrun
    exact ⟨fun hprocessing => absurd hprocessing hsettled, trivial⟩
  | cons e es ih =>
    obtain ⟨t, ht, hrest⟩ := (Transition.run_cons_eq_some _ _ _ _).mp hrun
    rw [readBytes_cons, ← List.append_assoc, ← received_of_step ht] at hstream
    cases conformingStep hconforming h ht ((List.prefix_append _ _).trans hstream) with
    | read n hreads hphase hphase' hlen hreceived honStream =>
      obtain ⟨hfits, hreads'⟩ := ih honStream hstream hrest
      have hthis := hfits hphase'
      refine ⟨fun hprocessing => ?_, ?_⟩
      · rw [hphase] at hprocessing
        cases hprocessing
      · rw [hreads, ReadsFit, h.waits hphase, ← hreceived]
        exact ⟨by omega, hreads'⟩
    | exceeded hreads hphase' hlen =>
      rw [(run_of_closed hphase' hrest).1] at hnot
      exact absurd hphase' hnot
    | other hreads hnot' hlen hfits hreceived honStream =>
      obtain ⟨-, hreads'⟩ := ih honStream hstream hrest
      rw [hreads, ← hreceived]
      exact ⟨hfits, hreads'⟩

end Runs

/-! ## Configurations -/

theorem sum_readLengths (es : List ClientEvent) : (readLengths es).sum = (readBytes es).length := by
  induction es with
  | nil => rfl
  | cons e es ih =>
    rw [readBytes_cons, List.length_append, ← ih]
    cases e with
    | read delay bytes =>
      show bytes.length + (readLengths es).sum = _
      rw [readBytes, List.flatMap_singleton]
    | _ => exact (Nat.zero_add _).symm

/-- Reads of at most `cap` bytes fit if there is room for them behind the longest open frame. -/
theorem readsFit_of_room {limit cap : Nat} {frames : List (List UInt8)} (bound : Nat)
    (hbound : ∀ bytes ∈ frames, bytes.length ≤ bound)
    (hroom : frames ≠ [] → bound + cap ≤ limit + 1) {n : Nat} {reads : List Nat}
    (hreads : ∀ read ∈ reads, read ≤ cap) (hsum : n + reads.sum ≤ frames.flatten.length) :
    ReadsFit limit frames n reads := by
  induction reads generalizing n with
  | nil => trivial
  | cons read reads ih =>
    rw [List.sum_cons] at hsum
    refine ⟨?_, ih (fun r hr => hreads r (List.mem_cons_of_mem _ hr)) (by omega)⟩
    have hread := hreads read List.mem_cons_self
    by_cases hn : n < frames.flatten.length
    · obtain ⟨bytes, hmem, hlt⟩ := openBytes_lt hn
      have hlen := hbound bytes hmem
      have hlimit := hroom (List.ne_nil_of_mem hmem)
      omega
    · -- nothing is left to be read
      have hend : openBytes frames n = 0 := by
        have happend := openBytes_append frames [] 0
        rw [List.append_nil] at happend
        rw [show n = frames.flatten.length + 0 by omega, happend]
        rfl
      omega

/-- A valid frame of `n` bytes. -/
def longFrame (n : Nat) : List UInt8 :=
  routerFrameBytes (UInt32.ofNat (n - 5)) 0 [] 0 0 (List.replicate (n - 12) 0)

theorem isRouterFrame_longFrame {n : Nat} (hmin : 16 ≤ n) (hmax : n ≤ 5 + MAX_TOTAL_LEN) :
    IsRouterFrame (longFrame n) ⟨"", false, 8, 0, n⟩ := by
  have hlimit : MAX_TOTAL_LEN = 16777216 := rfl
  have htotal : (UInt32.ofNat (n - 5)).toNat = n - 5 :=
    UInt32.toNat_ofNat_of_lt' (show n - 5 < 2 ^ 32 by omega)
  refine .frame rfl rfl ?_ ?_ ?_ rfl rfl rfl ?_
  · rw [List.length_replicate]
    omega
  · rw [htotal, List.length_replicate, UInt8.toNat_zero]
    omega
  · rw [htotal]
    omega
  · rw [htotal]
    simp only
    omega

/-- One byte is read at a time. -/
def drip (bytes : List UInt8) : List ClientEvent :=
  bytes.flatMap (fun b => [.read 0 [b], .turn failsAtOnce])

theorem readBytes_drip (bytes : List UInt8) : readBytes (drip bytes) = bytes := by
  induction bytes with
  | nil => rfl
  | cons b bytes ih =>
    show b :: readBytes (drip bytes) = b :: bytes
    rw [ih]

theorem readLengths_drip (bytes : List UInt8) :
    readLengths (drip bytes) = List.replicate bytes.length 1 := by
  induction bytes with
  | nil => rfl
  | cons b bytes ih =>
    show 1 :: readLengths (drip bytes) = 1 :: List.replicate bytes.length 1
    rw [ih]

theorem turn_of_incomplete (cfg : Config) {s : Session} (reply : Reply)
    (hlen : s.buf.length ≤ cfg.maxBufferSize) (hdecode : tryDecodeRouter s.buf = .ok none)
    (htime : s.lastFrameTime = s.now) : s.turn cfg reply = { s with phase := .reading } := by
  unfold Session.turn
  rw [if_neg (Nat.not_lt.mpr hlen), hdecode]
  simp only
  rw [if_neg (by omega)]

theorem run_drip (cfg : Config) {bytes : List UInt8} {f : RouterFrame}
    (hframe : IsRouterFrame bytes f) (hbuffer : bytes.length ≤ cfg.maxBufferSize) (n : Nat)
    (hn : n < bytes.length) : ∃ s,
    Transition.run (Session.step cfg) (Session.start 0) (drip (bytes.take n)) = some s ∧
      s.phase = .reading ∧ s.buf = bytes.take n ∧ s.lastFrameTime = s.now := by
  induction n with
  | zero => exact ⟨Session.start 0, rfl, rfl, rfl, rfl⟩
  | succ n ih =>
    obtain ⟨s, hrun, hphase, hbuf, htime⟩ := ih (by omega)
    have htake : bytes.take (n + 1) = bytes.take n ++ [bytes[n]] :=
      (List.take_append_getElem (by omega)).symm
    have hdrip : drip (bytes.take (n + 1)) =
        drip (bytes.take n) ++ [.read 0 [bytes[n]], .turn failsAtOnce] := by
      rw [htake]
      unfold drip
      rw [List.flatMap_append, List.flatMap_singleton]
    have hread : s.step cfg (.read 0 [bytes[n]]) = some (s.receive 0 [bytes[n]]) := by
      unfold Session.step
      rw [hphase]
      rfl
    have hbuf' : (s.receive 0 [bytes[n]]).buf = bytes.take (n + 1) := by
      rw [htake, ← hbuf]
      rfl
    have hfits : (s.receive 0 [bytes[n]]).buf.length ≤ cfg.maxBufferSize := by
      rw [hbuf', List.length_take]
      omega
    have hdecode : tryDecodeRouter (s.receive 0 [bytes[n]]).buf = .ok none := by
      rw [hbuf']
      exact hframe.decode_take hn
    have hturn := turn_of_incomplete cfg failsAtOnce hfits hdecode htime
    refine ⟨{ s.receive 0 [bytes[n]] with phase := .reading }, ?_, rfl, hbuf', htime⟩
    rw [hdrip, Transition.run_append, hrun]
    refine (Transition.run_cons_eq_some _ _ _ _).mpr ⟨_, hread, ?_⟩
    refine (Transition.run_cons_eq_some _ _ _ _).mpr ⟨_, step_turn rfl failsAtOnce, ?_⟩
    rw [hturn]
    rfl

theorem neverDrops_of_hasRoom {cfg : Config} (h : cfg.HasRoom) : NeverDropsConforming cfg := by
  intro t₀ frames es s hconforming hstream hreads hrun
  have hstream' : (Session.start t₀).received ++ readBytes es <+: frames.flatten := hstream
  refine not_dropped_of_readsFit hconforming (onStream_start frames t₀) (by simp
    [Session.DroppedForSize, Session.start]) (Nat.zero_le _) hstream' ?_ hrun
  refine readsFit_of_room (min cfg.maxFrameSize (5 + MAX_TOTAL_LEN)) ?_ ?_ hreads ?_
  · intro bytes hbytes
    obtain ⟨f, hframe⟩ := hconforming.valid bytes hbytes
    exact Nat.le_min.mpr ⟨hconforming.small bytes hbytes, hframe.length_bounds.2⟩
  · intro hne
    -- a frame has sixteen bytes, so the limit on frames is not below that
    obtain ⟨bytes, hbytes⟩ := List.exists_mem_of_ne_nil frames hne
    obtain ⟨f, hframe⟩ := hconforming.valid bytes hbytes
    have hmin := hframe.length_bounds.1
    have hsmall := hconforming.small bytes hbytes
    rcases h with hlt | hroom
    · omega
    · have hpos : 0 < min cfg.maxFrameSize (5 + MAX_TOTAL_LEN) := by omega
      omega
  · have hlen := hstream.length_le
    rw [← sum_readLengths] at hlen
    exact (Nat.zero_add _).trans_le hlen

/-- The first `n` bytes of the stream drip in, then a full read follows. -/
def burst (stream : List UInt8) (n : Nat) : List ClientEvent :=
  drip (stream.take n) ++ [.read 0 ((stream.drop n).take READ_CAPACITY), .turn failsAtOnce]

theorem readBytes_burst (stream : List UInt8) (n : Nat) :
    readBytes (burst stream n) = stream.take (n + READ_CAPACITY) := by
  unfold burst
  rw [List.take_add, readBytes, List.flatMap_append]
  show readBytes (drip _) ++ (_ ++ []) = _
  rw [readBytes_drip, List.append_nil]

theorem readLengths_burst_le {stream : List UInt8} {n read : Nat}
    (hmem : read ∈ readLengths (burst stream n)) : read ≤ READ_CAPACITY := by
  unfold readLengths burst at hmem
  rw [List.filterMap_append] at hmem
  rcases List.mem_append.mp hmem with hdrip | hlast
  · rw [show List.filterMap _ (drip _) = _ from readLengths_drip _] at hdrip
    rw [List.eq_of_mem_replicate hdrip]
    decide
  · rw [List.mem_singleton.mp hlast]
    exact List.length_take_le _ _

/-- A full read behind an incomplete frame overfills the buffer. -/
theorem run_burst (cfg : Config) {bytes stream : List UInt8} {f : RouterFrame}
    (hframe : IsRouterFrame bytes f) (hbuffer : bytes.length ≤ cfg.maxBufferSize)
    (hfront : bytes <+: stream) {n : Nat} (hn : n < bytes.length)
    (hlong : n + READ_CAPACITY ≤ stream.length)
    (hover : cfg.maxBufferSize < n + READ_CAPACITY) : ∃ s,
    Transition.run (Session.step cfg) (Session.start 0) (burst stream n) = some s ∧
      s.phase = .closed .bufferExceeded := by
  obtain ⟨s, hrun, hphase, hbuf, -⟩ := run_drip cfg hframe hbuffer n hn
  have htake : bytes.take n = stream.take n := by
    obtain ⟨rest, rfl⟩ := hfront
    exact (List.take_append_of_le_length (Nat.le_of_lt hn)).symm
  rw [htake] at hrun hbuf
  generalize hchunk : (stream.drop n).take READ_CAPACITY = chunk
  have hlength : chunk.length = READ_CAPACITY := by
    rw [← hchunk, List.length_take, List.length_drop]
    omega
  have hread : s.step cfg (.read 0 chunk) = some (s.receive 0 chunk) := by
    unfold Session.step
    rw [hphase]
    exact if_neg (List.ne_nil_of_length_pos (by rw [hlength]; decide))
  have hturn : (s.receive 0 chunk).turn cfg failsAtOnce =
      (s.receive 0 chunk).close .bufferExceeded := by
    unfold Session.turn
    apply if_pos
    show (s.buf ++ chunk).length > _
    rw [hbuf, List.length_append, List.length_take, hlength]
    omega
  refine ⟨(s.receive 0 chunk).close .bufferExceeded, ?_, rfl⟩
  unfold burst
  rw [Transition.run_append, hrun, hchunk]
  refine (Transition.run_cons_eq_some _ _ _ _).mpr ⟨_, hread, ?_⟩
  refine (Transition.run_cons_eq_some _ _ _ _).mpr ⟨_, step_turn rfl failsAtOnce, ?_⟩
  rw [hturn]
  rfl

theorem hasRoom_of_neverDrops {cfg : Config} (hsize : cfg.maxFrameSize ≤ cfg.maxBufferSize)
    (h : NeverDropsConforming cfg) : cfg.HasRoom := by
  by_contra hroom
  unfold Config.HasRoom at hroom
  rw [not_or, Nat.not_lt, Nat.not_le] at hroom
  obtain ⟨hmin, hnone⟩ := hroom
  have hlimit : MAX_TOTAL_LEN = 16777216 := rfl
  -- the longest frames, and a read that begins at the last byte of the first one
  generalize hn : min cfg.maxFrameSize (5 + MAX_TOTAL_LEN) = n at hnone
  have hlen16 : 16 ≤ n := by omega
  have hframe := isRouterFrame_longFrame hlen16 (by omega)
  have hlength : (longFrame n).length = n := hframe.length_eq
  generalize longFrame n = bytes at hframe hlength
  have hfront : bytes <+: (List.replicate (READ_CAPACITY + 1) bytes).flatten := by
    rw [List.replicate_succ, List.flatten_cons]
    exact List.prefix_append _ _
  have hlong : n - 1 + READ_CAPACITY ≤
      (List.replicate (READ_CAPACITY + 1) bytes).flatten.length := by
    have hmul := Nat.le_mul_of_pos_right READ_CAPACITY (show 0 < n by omega)
    rw [List.length_flatten, List.map_replicate, List.sum_replicate_nat, hlength,
      Nat.add_one_mul]
    omega
  have hconforming : Conforming cfg (List.replicate (READ_CAPACITY + 1) bytes) := by
    constructor
    · intro b hb
      rw [List.eq_of_mem_replicate hb]
      exact ⟨_, hframe⟩
    · intro b hb
      rw [List.eq_of_mem_replicate hb]
      omega
  obtain ⟨s, hrun, hclosed⟩ :=
    run_burst cfg hframe (by omega) hfront (show n - 1 < bytes.length by omega) hlong (by omega)
  refine h 0 _ _ s hconforming ?_ (fun read hmem => readLengths_burst_le hmem) hrun
    (Or.inl hclosed)
  rw [readBytes_burst]
  exact List.take_prefix _ _

theorem conforming_lyon {cfg : Config} (h : 20 ≤ cfg.maxFrameSize) (n : Nat) :
    Conforming cfg (List.replicate n lyonFrame) := by
  constructor
  · intro bytes hbytes
    rw [List.eq_of_mem_replicate hbytes]
    refine ⟨⟨"lyon", false, 12, 9, 20⟩, ?_⟩
    show IsRouterFrame (routerFrameBytes 15 4 [0x6C, 0x79, 0x6F, 0x6E] 0 9 [0, 0, 0, 0]) _
    exact .frame rfl rfl (by decide) rfl (by decide) rfl rfl rfl rfl
  · intro bytes hbytes
    rw [List.eq_of_mem_replicate hbytes]
    exact h

/-! ## Results -/

/-- On an accepted configuration a conforming client is never dropped for a frame.  It is dropped
for the buffer if and only if a read does not fit behind the open frame; that this cannot happen is
the same as room for the longest open frame and a read, which `parse` does not check. -/
theorem conforming_dropped_iff (args cfg : CommandLine) (hparse : Config.parse args = .ok cfg) :
    (∀ t₀ frames es s, Conforming cfg.toConfig frames → readBytes es <+: frames.flatten →
      Transition.run (Session.step cfg.toConfig) (Session.start t₀) es = some s →
      s.phase ≠ .closed .frameTooLarge ∧
      (s.phase ≠ .processing → (s.phase ≠ .closed .bufferExceeded ↔
        ReadsFit cfg.maxBufferSize frames 0 (readLengths es)))) ∧
    (NeverDropsConforming cfg.toConfig ↔ cfg.HasRoom) := by
  obtain ⟨-, hsize, -⟩ := Config.of_parse hparse
  constructor
  · intro t₀ frames es s hconforming hstream hrun
    have hstart : ¬ (Session.start t₀).DroppedForSize := by
      simp [Session.DroppedForSize, Session.start]
    have hon := onStream_start frames t₀
    have hstream' : (Session.start t₀).received ++ readBytes es <+: frames.flatten := hstream
    refine ⟨fun hlarge => ?_, fun hsettled => ⟨fun hnot => ?_, fun hfit hexceeded => ?_⟩⟩
    · rcases onStream_of_run hconforming hon hstart hstream' hrun with hexceeded | hnot
      · rw [hlarge] at hexceeded
        cases hexceeded
      · exact hnot (Or.inr hlarge)
    · exact (readsFit_of_not_dropped hconforming hon hstream' hrun hsettled hnot).2
    · exact not_dropped_of_readsFit hconforming hon hstart (Nat.zero_le _) hstream' hfit hrun
        (Or.inl hexceeded)
  · exact ⟨hasRoom_of_neverDrops hsize, neverDrops_of_hasRoom⟩

/-- The default configuration has room, also for four frames at once. -/
theorem conforming_dropped_iff_default :
    NeverDropsConforming {} ∧ ReadsFit 262144 (List.replicate 4 lyonFrame) 0 [80] := by
  obtain ⟨hruns, hconfig⟩ := conforming_dropped_iff {} {} rfl
  refine ⟨hconfig.mpr (Or.inr (by decide)), ?_⟩
  obtain ⟨s, hrun, hphase⟩ := Option.map_eq_some_iff.mp (show
    (Transition.run (Session.step {}) (Session.start 0)
        (.read 1 (List.replicate 4 lyonFrame).flatten :: List.replicate 5 (.turn failsAtOnce))).map
      Session.phase = some .reading from rfl)
  exact ((hruns 0 _ _ s (conforming_lyon (by decide) 4) (List.prefix_refl _) hrun).2
    (by simp [hphase])).mp (by simp [hphase])

/-- A client that sends four frames at once, on a configuration whose limits are equal. -/
theorem conforming_client_dropped : ∃ cfg s,
    Config.parse { maxFrameSize := 64, maxBufferSize := 64 } = .ok cfg ∧
    Conforming cfg.toConfig (List.replicate 4 lyonFrame) ∧
    Transition.run (Session.step cfg.toConfig) (Session.start 0)
      [.read 1 (List.replicate 4 lyonFrame).flatten, .turn failsAtOnce] = some s ∧
    s.phase = .closed .bufferExceeded := by
  exact ⟨{ maxFrameSize := 64, maxBufferSize := 64 }, _, rfl, conforming_lyon (by decide) 4, rfl,
    rfl⟩

end RzRouter
