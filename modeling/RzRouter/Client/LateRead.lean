import RzRouter.Client.Dispatch
import RzRouter.Client.Resync

/-!
# Late reads

A read that comes late and completes no frame is looked at by the time-out check only where the
decoder waits.  A buffer in which the resynchronisation runs out of magic bytes is kept, or cut,
without that check, and the connection stays open.
-/

namespace RzRouter

/-- The times at which frames were completed in the run of `es` from `s`. -/
def completions (cfg : Config) : Session → List ClientEvent → List Nat
  | _, [] => []
  | s, e :: es =>
    match s.step cfg e with
    | none => []
    | some s' =>
      (if s'.frames.length = s.frames.length then [] else [s.now]) ++ completions cfg s' es

/-- A step completes no frame, or one, and notes the time. -/
theorem lastFrameTime_step {cfg : Config} {s s' : Session} {e : ClientEvent}
    (hstep : s.step cfg e = some s') :
    (s'.frames.length = s.frames.length ∧ s'.lastFrameTime = s.lastFrameTime) ∨
      (s'.frames.length = s.frames.length + 1 ∧ s'.lastFrameTime = s.now) := by
  have htake : ∀ frame, (s.take frame).frames.length = s.frames.length + 1 := by
    intro frame
    unfold Session.take
    rw [List.length_append, List.length_singleton]
  -- only a turn that takes a frame sets the time, and it sets it to now
  cases sessionStep hstep with
  | read delay bytes hphase => exact Or.inl ⟨rfl, rfl⟩
  | leave e delay reason hphase hread hturn hreason => exact Or.inl ⟨rfl, rfl⟩
  | turn reply hphase =>
    have hturn := turnStep cfg s reply
    generalize s.turn cfg reply = s' at hturn
    cases hturn with
    | keepalive frame => exact Or.inr ⟨htake frame, rfl⟩
    | forward frame =>
      have hsame := sameInput_respond (s.take frame) frame.originalClrid reply
      rw [hsame.frames, hsame.lastFrameTime]
      exact Or.inr ⟨htake frame, rfl⟩
    | _ => exact Or.inl ⟨rfl, rfl⟩

/-- `last_frame_time` is the time of the start or of a completed frame. -/
theorem lastFrameTime_of_run {cfg : Config} {s s' : Session} {es : List ClientEvent}
    (hrun : Transition.run (Session.step cfg) s es = some s') :
    s'.lastFrameTime ∈ s.lastFrameTime :: completions cfg s es := by
  induction es generalizing s with
  | nil =>
    cases hrun
    exact List.mem_cons_self
  | cons e es ih =>
    obtain ⟨t, ht, hrest⟩ := (Transition.run_cons_eq_some _ _ _ _).mp hrun
    have hmem := ih hrest
    unfold completions
    simp only [ht]
    rcases lastFrameTime_step ht with ⟨hframes, htime⟩ | ⟨hframes, htime⟩
    · rw [if_pos hframes, List.nil_append, ← htime]
      exact hmem
    · rw [if_neg (by omega), List.singleton_append, ← htime]
      exact List.mem_cons_of_mem _ hmem

theorem frames_of_run {cfg : Config} {s s' : Session} {es : List ClientEvent}
    (hrun : Transition.run (Session.step cfg) s es = some s') :
    s.frames.length ≤ s'.frames.length := by
  induction es generalizing s with
  | nil =>
    cases hrun
    exact Nat.le_refl _
  | cons e es ih =>
    obtain ⟨t, ht, hrest⟩ := (Transition.run_cons_eq_some _ _ _ _).mp hrun
    have hle := ih hrest
    rcases lastFrameTime_step ht with ⟨hframes, -⟩ | ⟨hframes, -⟩ <;> omega

/-- The bytes of a late read that completes no frame are discarded, or the connection is
closed. -/
theorem closed_or_discards {cfg : Config} {s s' : Session} {replies : List Reply}
    (hphase : s.phase = .processing) (hlate : s.now - s.lastFrameTime > cfg.frameTimeout)
    (hrun : Transition.run (Session.step cfg) s (turns replies) = some s')
    (hended : s'.phase ≠ .processing) (hframes : s'.frames.length = s.frames.length) :
    (∃ reason, s'.phase = .closed reason) ∨
      s.buf.length ≤ cfg.maxBufferSize ∧ Discards s.buf := by
  -- turn by turn, as long as the buffer resynchronises
  induction replies generalizing s with
  | nil =>
    cases hrun
    exact absurd hphase hended
  | cons reply replies ih =>
    obtain ⟨t, ht, hrest⟩ := (Transition.run_cons_eq_some _ _ _ _).mp hrun
    rw [step_turn hphase reply] at ht
    cases ht
    have hclosed : ∀ reason, Transition.run (Session.step cfg) (s.close reason) (turns replies) =
        some s' → ∃ reason, s'.phase = .closed reason := by
      intro reason hclose
      have hne : (s.close reason).phase ≠ .processing := nofun
      rw [turns_of_ended hne hclose]
      exact ⟨reason, rfl⟩
    -- a frame that is taken is never given back
    have htaken : ∀ frame, ¬ (s.take frame).frames.length ≤ s'.frames.length := by
      intro frame hle
      unfold Session.take at hle
      rw [List.length_append, List.length_singleton] at hle
      omega
    have hturn := turnStep cfg s reply
    generalize s.turn cfg reply = t at hturn hrest
    cases hturn with
    | exceeded hlen => exact Or.inl (hclosed _ hrest)
    | timedOut hdecode hlate hlen => exact Or.inl (hclosed _ hrest)
    -- the read came too late for this turn to wait on
    | wait hdecode hearly => omega
    | tooLarge frame hdecode hlarge => exact Or.inl (hclosed _ hrest)
    | keepalive frame hdecode hsmall hsegment => exact absurd (frames_of_run hrest) (htaken frame)
    | forward frame hdecode hsmall hsegment hlen =>
      have hle := frames_of_run hrest
      rw [(sameInput_respond _ _ _).frames] at hle
      exact absurd hle (htaken frame)
    | resync e hdecode pos hmagic hlen =>
      have hend := ih (s := { s with buf := (s.buf.drop 1).drop pos }) hphase hlate hrest hframes
      exact hend.imp_right fun h => ⟨hlen, discards_of_resync hdecode hmagic h.2⟩
    | discard e hdecode hmagic n hlen =>
      exact Or.inr ⟨hlen, s.buf, e, .here _, hdecode, hmagic⟩

/-- A read whose bytes are discarded leaves the connection open. -/
theorem reading_of_discards {cfg : Config} {s s' : Session} {replies : List Reply}
    (hphase : s.phase = .processing) (hlen : s.buf.length ≤ cfg.maxBufferSize)
    (hdiscards : Discards s.buf)
    (hrun : Transition.run (Session.step cfg) s (turns replies) = some s')
    (hended : s'.phase ≠ .processing) : s'.phase = .reading := by
  obtain ⟨rest, e, hresyncs, hdecode, hmagic⟩ := hdiscards
  obtain ⟨replies', hrest⟩ := run_of_resyncs hresyncs rfl hphase hlen hended hrun
  obtain ⟨reply, replies'', hlast⟩ := first_turn (s := { s with buf := rest }) hphase hended hrest
  have hfits := Nat.le_trans hresyncs.length_le hlen
  rw [turn_of_error (s := { s with buf := rest }) reply hfits hdecode] at hlast
  have hreading := resync_of_no_magic (s := { s with buf := rest }) hdecode hmagic
  have hne : ({ s with buf := rest } : Session).resync.phase ≠ .processing := by
    rw [hreading]
    exact nofun
  rw [turns_of_ended hne hlast]
  exact hreading

/-! ## Results -/

/-- A read that comes more than `frame_timeout` after the start and after every completed frame,
and completes none, closes the connection exactly if its bytes are not discarded. -/
theorem closed_iff_not_discards (cfg : Config) (t₀ : Nat) (es : List ClientEvent) (s s₁ : Session)
    (delay : Nat) (bytes : List UInt8)
    (hrun : Transition.run (Session.step cfg) (Session.start t₀) es = some s)
    (hread : s.step cfg (.read delay bytes) = some s₁)
    (hlate : ∀ t ∈ t₀ :: completions cfg (Session.start t₀) es,
      s.now + delay - t > cfg.frameTimeout) (replies : Nat → Reply) :
    ∃ n s', Transition.run (Session.step cfg) s₁ ((List.range n).map fun i => .turn (replies i)) =
        some s' ∧ s'.phase ≠ .processing ∧
      (s'.frames = s.frames → ((∃ reason, s'.phase = .closed reason) ↔
        ¬ ((s.buf ++ bytes).length ≤ cfg.maxBufferSize ∧ Discards (s.buf ++ bytes)))) := by
  cases sessionStep hread with
  | leave e delay' reason hphase hnot hturn hreason => exact absurd rfl (hnot delay bytes)
  | read delay bytes hphase =>
    -- the processing of what was read ends
    obtain ⟨n, -, s', hturns, hended⟩ := processing_ends cfg (s.receive delay bytes) rfl replies
    have hrest : Transition.run (Session.step cfg) (s.receive delay bytes)
        (turns ((List.range n).map replies)) = some s' := by
      unfold turns
      rw [List.map_map]
      exact hturns
    refine ⟨n, s', hturns, hended, fun hframes => ⟨?_, fun hnot => ?_⟩⟩
    · rintro ⟨reason, hclosed⟩ ⟨hlen, hdiscards⟩
      rw [reading_of_discards (s := s.receive delay bytes) rfl hlen hdiscards hrest hended]
        at hclosed
      cases hclosed
    · refine (closed_or_discards rfl ?_ hrest hended (congrArg List.length hframes)).resolve_right
        hnot
      exact hlate _ (lastFrameTime_of_run hrun)

/-- Five bytes of a frame come after 21 seconds. -/
theorem closed_iff_not_discards_lyon :
    ∃ n s', Transition.run (Session.step {})
        ((Session.start 0).receive 21 (lyonFrame.take 5))
        ((List.range n).map fun _ => .turn failsAtOnce) = some s' ∧ s'.phase ≠ .processing ∧
      (s'.frames = [] → ∃ reason, s'.phase = .closed reason) := by
  have hkept : ¬ Discards (lyonFrame.take 5) := by
    rintro ⟨rest, e, hresyncs, hdecode, -⟩
    rw [hresyncs.eq_of_ok rfl] at hdecode
    cases hdecode
  obtain ⟨n, s', hrun, hended, hclosed⟩ := closed_iff_not_discards {} 0 [] _ _ 21
    (lyonFrame.take 5) rfl rfl (by decide) fun _ => failsAtOnce
  exact ⟨n, s', hrun, hended, fun hframes => (hclosed hframes).mpr fun h => hkept h.2⟩

/-- Five bytes of garbage after 21 seconds, and nothing is closed. -/
theorem open_after_late_garbage :
    ¬ ∀ (cfg : Config) (t₀ : Nat) (es : List ClientEvent) (s s₁ s' : Session) (delay : Nat)
        (bytes : List UInt8) (replies : List Reply),
      Transition.run (Session.step cfg) (Session.start t₀) es = some s →
      s.step cfg (.read delay bytes) = some s₁ →
      (∀ t ∈ t₀ :: completions cfg (Session.start t₀) es,
        s.now + delay - t > cfg.frameTimeout) →
      Transition.run (Session.step cfg) s₁ (turns replies) = some s' → s'.phase ≠ .processing →
      s'.frames = s.frames → ∃ reason, s'.phase = .closed reason := by
  intro h
  obtain ⟨s', hrun, hs⟩ := Option.map_eq_some_iff.mp (show
    (Transition.run (Session.step {}) ((Session.start 0).receive 21 [1, 2, 3, 4, 5])
      (turns [failsAtOnce])).map (fun s => (s.phase, s.frames)) = some (.reading, []) from rfl)
  rw [Prod.mk.injEq] at hs
  obtain ⟨reason, hclosed⟩ := h {} 0 [] _ _ s' 21 [1, 2, 3, 4, 5] [failsAtOnce] rfl rfl (by decide)
    hrun (by rw [hs.1]; exact nofun) hs.2
  rw [hs.1] at hclosed
  cases hclosed

end RzRouter
