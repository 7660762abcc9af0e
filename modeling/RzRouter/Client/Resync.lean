import RzRouter.Client.Turns

/-!
# Resynchronisation

Up to the next frame the inner loop only drops bytes, and what it comes to depends on the buffer
alone: it waits for more bytes, discards what it has, or finds a frame.
-/

namespace RzRouter

/-- The inner loop gets from `buf` to `rest` by dropping bytes up to a magic byte, again and
again. -/
inductive Resyncs : List UInt8 → List UInt8 → Prop
  | here (buf : List UInt8) : Resyncs buf buf
  | next {buf rest : List UInt8} {e : RZError} {pos : Nat}
      (hdecode : tryDecodeRouter buf = .error e)
      (hmagic : findNextRouterMagic (buf.drop 1) 0 = some pos)
      (hrest : Resyncs ((buf.drop 1).drop pos) rest) : Resyncs buf rest

/-- The inner loop finds no frame in `buf` and waits with `rest`. -/
def Stalls (buf rest : List UInt8) : Prop :=
  Resyncs buf rest ∧ tryDecodeRouter rest = .ok none

/-- The inner loop finds no frame in `buf` and runs out of magic bytes. -/
def Discards (buf : List UInt8) : Prop :=
  ∃ rest e, Resyncs buf rest ∧ tryDecodeRouter rest = .error e ∧
    findNextRouterMagic (rest.drop 1) 0 = none

theorem stalls_of_resync {buf rest : List UInt8} {e : RZError} {pos : Nat}
    (hdecode : tryDecodeRouter buf = .error e)
    (hmagic : findNextRouterMagic (buf.drop 1) 0 = some pos)
    (h : Stalls ((buf.drop 1).drop pos) rest) : Stalls buf rest :=
  ⟨.next hdecode hmagic h.1, h.2⟩

theorem discards_of_resync {buf : List UInt8} {e : RZError} {pos : Nat}
    (hdecode : tryDecodeRouter buf = .error e)
    (hmagic : findNextRouterMagic (buf.drop 1) 0 = some pos)
    (h : Discards ((buf.drop 1).drop pos)) : Discards buf := by
  obtain ⟨rest, e', hresyncs, herror, hnone⟩ := h
  exact ⟨rest, e', .next hdecode hmagic hresyncs, herror, hnone⟩

theorem Resyncs.eq_of_ok {buf rest : List UInt8} {result : Option RouterFrame}
    (h : Resyncs buf rest) (hdecode : tryDecodeRouter buf = .ok result) : rest = buf := by
  cases h with
  | here => rfl
  | next herror =>
    rw [hdecode] at herror
    cases herror

theorem Resyncs.length_le {buf rest : List UInt8} (h : Resyncs buf rest) :
    rest.length ≤ buf.length := by
  induction h with
  | here => exact Nat.le_refl _
  | next hdecode hmagic hrest ih =>
    rw [List.drop_drop] at ih
    exact Nat.le_trans ih (List.drop_suffix _ _).length_le

/-- The turn of a buffer that does not begin with a frame. -/
theorem turn_of_error {cfg : Config} {s : Session} {e : RZError} (reply : Reply)
    (hlen : s.buf.length ≤ cfg.maxBufferSize) (hdecode : tryDecodeRouter s.buf = .error e) :
    s.turn cfg reply = s.resync := by
  unfold Session.turn
  rw [if_neg (Nat.not_lt.mpr hlen), hdecode]

theorem resync_of_magic {s : Session} {e : RZError} {pos : Nat}
    (hdecode : tryDecodeRouter s.buf = .error e)
    (hmagic : findNextRouterMagic (s.buf.drop 1) 0 = some pos) :
    s.resync = { s with buf := (s.buf.drop 1).drop pos } := by
  have hfive := length_of_error hdecode
  have hne : s.buf ≠ [] := List.ne_nil_of_length_pos (by omega)
  unfold Session.resync
  simp only [if_neg hne, hmagic]

theorem resync_of_no_magic {s : Session} {e : RZError}
    (hdecode : tryDecodeRouter s.buf = .error e)
    (hmagic : findNextRouterMagic (s.buf.drop 1) 0 = none) : s.resync.phase = .reading := by
  have hfive := length_of_error hdecode
  have hne : s.buf ≠ [] := List.ne_nil_of_length_pos (by omega)
  unfold Session.resync
  simp only [if_neg hne, hmagic]
  split <;> rfl

/-- The turns of the inner loop. -/
def turns (replies : List Reply) : List ClientEvent := replies.map .turn

/-- Nothing is done in a turn once the inner loop has ended. -/
theorem turns_of_ended {cfg : Config} {s s' : Session} {replies : List Reply}
    (hphase : s.phase ≠ .processing)
    (hrun : Transition.run (Session.step cfg) s (turns replies) = some s') : s' = s := by
  cases replies with
  | nil => exact (Option.some.inj hrun).symm
  | cons reply replies =>
    obtain ⟨t, ht, -⟩ := (Transition.run_cons_eq_some _ _ _ _).mp hrun
    cases sessionStep ht with
    | leave e delay reason hreading hread hturn hreason => exact absurd rfl (hturn reply)
    | turn reply hprocessing => exact absurd hprocessing hphase

/-- The first turn of a read that is processed to its end. -/
theorem first_turn {cfg : Config} {s s' : Session} {replies : List Reply}
    (hphase : s.phase = .processing) (hended : s'.phase ≠ .processing)
    (hrun : Transition.run (Session.step cfg) s (turns replies) = some s') :
    ∃ reply rest,
      Transition.run (Session.step cfg) (s.turn cfg reply) (turns rest) = some s' := by
  cases replies with
  | nil =>
    cases hrun
    exact absurd hphase hended
  | cons reply replies =>
    obtain ⟨t, ht, hrest⟩ := (Transition.run_cons_eq_some _ _ _ _).mp hrun
    rw [step_turn hphase reply] at ht
    cases ht
    exact ⟨reply, replies, hrest⟩

/-- The processing of a read goes through every resynchronisation of its buffer. -/
theorem run_of_resyncs {cfg : Config} {buf rest : List UInt8} (h : Resyncs buf rest)
    {s s' : Session} {replies : List Reply} (hbuf : s.buf = buf) (hphase : s.phase = .processing)
    (hlen : s.buf.length ≤ cfg.maxBufferSize) (hended : s'.phase ≠ .processing)
    (hrun : Transition.run (Session.step cfg) s (turns replies) = some s') :
    ∃ replies, Transition.run (Session.step cfg) { s with buf := rest } (turns replies) =
      some s' := by
  induction h generalizing s replies with
  | here buf =>
    subst hbuf
    exact ⟨replies, hrun⟩
  | @next buf rest e pos hdecode hmagic hrest ih =>
    subst hbuf
    obtain ⟨reply, replies', hrest'⟩ := first_turn hphase hended hrun
    rw [turn_of_error reply hlen hdecode, resync_of_magic hdecode hmagic] at hrest'
    have hle := (Resyncs.next hdecode hmagic (.here _)).length_le
    exact ih (s := { s with buf := (s.buf.drop 1).drop pos }) rfl hphase (Nat.le_trans hle hlen)
      hrest'

end RzRouter
