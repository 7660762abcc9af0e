import RzRouter.Library.Scanner
import RzRouter.TcpServer

/-!
# Decoding the client stream

`try_decode_router` is a decoder in the sense of `Scanner`: what it says about a buffer stays true
when more bytes arrive behind.
-/

namespace RzRouter

open LittleEndian Scanner

/-- The total length in the header of a buffer. -/
def headerTotal (buf : List UInt8) : Nat := (u32FromBytes ((buf.drop 1).take 4)).toNat

theorem headerTotal_eq (buf : List UInt8) (h1 : 1 ≤ 5) (h5 : 5 ≤ buf.length) :
    headerTotal buf = (u32FromBytes (slice buf 1 5 h1 h5)).toNat := rfl

/-- How the decoder can decide, with the checks that it has made. -/
inductive RouterDecision (buf : List UInt8) : Except RZError (Option RouterFrame) → Prop
  | short (h5 : buf.length < 5) : RouterDecision buf (.ok none)
  | incomplete (h5 : 5 ≤ buf.length) (hmagic : buf[0] = ROUTER_MAGIC)
      (hmax : headerTotal buf ≤ MAX_TOTAL_LEN) (hlen : buf.length < 5 + headerTotal buf) :
      RouterDecision buf (.ok none)
  | rejected (e : RZError) (h5 : 5 ≤ buf.length) : RouterDecision buf (.error e)
  | frame (segLen : Nat) (segment : String) (h5 : 5 < buf.length) (hmagic : buf[0] = ROUTER_MAGIC)
      (hmax : headerTotal buf ≤ MAX_TOTAL_LEN) (hlen : 5 + headerTotal buf ≤ buf.length)
      (hsegLen : segLen = buf[5].toNat) (hstop : 6 + segLen ≤ buf.length)
      (hutf8 : strFromBytes (slice buf 6 (6 + segLen) (Nat.le_add_right 6 segLen) hstop) =
        some segment)
      (hshard : 6 + segLen + 1 + 9 ≤ 5 + headerTotal buf)
      (hclrid : 6 + segLen + 6 ≤ buf.length) (hshardMagic : buf[6 + segLen + 1] = SHARD_MAGIC) :
      RouterDecision buf (.ok (some
        { segment := segment
          isWrite := buf[6 + segLen] = 0x01
          clridOffset := 6 + segLen + 1 + 1
          originalClrid := u32FromBytes (slice buf (6 + segLen + 2) (6 + segLen + 6)
            (Nat.add_le_add_left (by decide) _) hclrid)
          frameLen := 5 + headerTotal buf }))

theorem routerDecision (buf : List UInt8) : RouterDecision buf (tryDecodeRouter buf) := by
  unfold tryDecodeRouter
  split
  · rename_i h5
    exact .short h5
  rename_i h5
  rw [not_lt] at h5
  split
  · exact .rejected _ h5
  rename_i hmagic
  simp only
  split
  · exact .rejected _ h5
  rename_i hmax
  split
  · rename_i hlen
    exact .incomplete h5 (not_not.mp hmagic) (not_lt.mp hmax) hlen
  rename_i hlen
  -- from here on the buffer holds the whole frame
  split
  · exact .rejected _ h5
  split
  · exact .rejected _ h5
  split
  · exact .rejected _ h5
  rename_i segment hutf8
  split
  · exact .rejected _ h5
  rename_i hshard
  split
  · exact .rejected _ h5
  rename_i hshardMagic
  exact .frame _ segment (by omega) (not_not.mp hmagic) (not_lt.mp hmax) (not_lt.mp hlen) rfl
    (by omega) hutf8 (not_lt.mp hshard) (by omega) (not_not.mp hshardMagic)

theorem tryDecodeRouter_append {buf : List UInt8} (rest : List UInt8)
    (h : tryDecodeRouter buf ≠ .ok none) : tryDecodeRouter (buf ++ rest) = tryDecodeRouter buf := by
  have hget : ∀ i (hi : i < buf.length) (hi' : i < (buf ++ rest).length),
      (buf ++ rest)[i] = buf[i] := fun i hi _ => List.getElem_append_left hi
  unfold tryDecodeRouter at h ⊢
  by_cases h5 : buf.length < 5
  · rw [dif_pos h5] at h
    exact absurd rfl h
  · have h5' : ¬ (buf ++ rest).length < 5 := by
      rw [List.length_append]
      omega
    rw [dif_neg h5] at h ⊢
    rw [dif_neg h5']
    simp only [hget 0 (by omega), slice_append buf rest 1 5 (by omega) (by omega) (by omega)] at h ⊢
    by_cases hmagic : buf[0] ≠ ROUTER_MAGIC
    · rw [if_pos hmagic, if_pos hmagic]
    rw [if_neg hmagic] at h
    rw [if_neg hmagic, if_neg hmagic]
    by_cases hlarge : (u32FromBytes (slice buf 1 5 (by omega) (by omega))).toNat > MAX_TOTAL_LEN
    · rw [if_pos hlarge, if_pos hlarge]
    rw [if_neg hlarge] at h
    rw [if_neg hlarge, if_neg hlarge]
    by_cases hlen : buf.length < 5 + (u32FromBytes (slice buf 1 5 (by omega) (by omega))).toNat
    · rw [dif_pos hlen] at h
      exact absurd rfl h
    have hlen' : ¬ (buf ++ rest).length <
        5 + (u32FromBytes (slice buf 1 5 (by omega) (by omega))).toNat := by
      rw [List.length_append]
      omega
    rw [dif_neg hlen, dif_neg hlen']
    -- the rest of the decoder stays inside the frame
    split
    · rfl
    simp only [hget 5 (by omega)]
    split
    · rfl
    simp only [slice_append buf rest 6 (6 + buf[5].toNat) (by omega) (by omega) (by omega)]
    cases strFromBytes (slice buf 6 (6 + buf[5].toNat) (by omega) (by omega)) with
    | none => rfl
    | some segment =>
    simp only [hget (6 + buf[5].toNat) (by omega)]
    split
    · rfl
    simp only [hget (6 + buf[5].toNat + 1) (by omega)]
    split
    · rfl
    simp only [slice_append buf rest (6 + buf[5].toNat + 1 + 1) (6 + buf[5].toNat + 1 + 5)
      (by omega) (by omega) (by omega)]

theorem cons_of_magic {buf : List UInt8} (hlen : 0 < buf.length) (h : buf[0] = ROUTER_MAGIC) :
    ∃ rest, buf = ROUTER_MAGIC :: rest := by
  cases buf with
  | nil => exact absurd hlen (Nat.lt_irrefl 0)
  | cons b rest => exact ⟨rest, congrArg (· :: rest) h⟩

/-- A decoded frame begins with the magic byte and lies in the buffer. -/
theorem head_of_frame {buf : List UInt8} {frame : RouterFrame}
    (h : tryDecodeRouter buf = .ok (some frame)) :
    (∃ rest, buf = ROUTER_MAGIC :: rest) ∧ 16 ≤ frame.frameLen ∧ frame.frameLen ≤ buf.length := by
  have hdecision := routerDecision buf
  rw [h] at hdecision
  cases hdecision with
  | frame segLen segment h5 hmagic hmax hlen hsegLen hstop hutf8 hshard =>
    refine ⟨cons_of_magic (by omega) hmagic, ?_, hlen⟩
    simp only
    omega

/-- What a result of the decoder says about the front of the buffer. -/
def routerVerdict : Except RZError (Option RouterFrame) → Verdict RouterFrame
  | .ok none => .more
  | .ok (some frame) => .frame frame frame.frameLen
  | .error _ => .bad

theorem routerVerdict_append (buf rest : List UInt8)
    (h : routerVerdict (tryDecodeRouter buf) ≠ .more) :
    routerVerdict (tryDecodeRouter (buf ++ rest)) = routerVerdict (tryDecodeRouter buf) := by
  have hne : tryDecodeRouter buf ≠ .ok none := by
    intro hnone
    rw [hnone] at h
    exact h rfl
  rw [tryDecodeRouter_append rest hne]

theorem routerVerdict_fits (buf : List UInt8) (frame : RouterFrame) (n : Nat)
    (h : routerVerdict (tryDecodeRouter buf) = .frame frame n) : 0 < n ∧ n ≤ buf.length := by
  cases hdecode : tryDecodeRouter buf with
  | error e =>
    rw [hdecode] at h
    cases h
  | ok result =>
    cases result with
    | none =>
      rw [hdecode] at h
      cases h
    | some frame' =>
      rw [hdecode] at h
      cases h
      obtain ⟨-, hpos, hle⟩ := head_of_frame hdecode
      exact ⟨by omega, hle⟩

/-- The decoder of a client stream. -/
def routerDecoder : Decoder UInt8 RouterFrame where
  marks := fun b => b == ROUTER_MAGIC
  decode := fun buf => routerVerdict (tryDecodeRouter buf)
  stable := routerVerdict_append
  fits := routerVerdict_fits

theorem decode_of_more {buf : List UInt8} (h : tryDecodeRouter buf = .ok none) :
    routerDecoder.decode buf = .more := by
  simp only [routerDecoder, routerVerdict, h]

theorem decode_of_frame {buf : List UInt8} {frame : RouterFrame}
    (h : tryDecodeRouter buf = .ok (some frame)) :
    routerDecoder.decode buf = .frame frame frame.frameLen := by
  simp only [routerDecoder, routerVerdict, h]

theorem decode_of_error {buf : List UInt8} {e : RZError} (h : tryDecodeRouter buf = .error e) :
    routerDecoder.decode buf = .bad := by
  simp only [routerDecoder, routerVerdict, h]

/-- A buffer that waits for more bytes is short or begins with the magic byte. -/
theorem head_of_more {buf : List UInt8} (h : tryDecodeRouter buf = .ok none) :
    buf.length < 5 ∨ ∃ rest, buf = ROUTER_MAGIC :: rest := by
  have hdecision := routerDecision buf
  rw [h] at hdecision
  cases hdecision with
  | short h5 => exact Or.inl h5
  | incomplete h5 hmagic => exact Or.inr (cons_of_magic (by omega) hmagic)

theorem tryDecodeRouter_of_short {buf : List UInt8} (h : buf.length < 5) :
    tryDecodeRouter buf = .ok none := by
  unfold tryDecodeRouter
  rw [dif_pos h]

theorem length_of_error {buf : List UInt8} {e : RZError} (h : tryDecodeRouter buf = .error e) :
    5 ≤ buf.length := by
  have hdecision := routerDecision buf
  rw [h] at hdecision
  cases hdecision with
  | rejected e h5 => exact h5

/-- A buffer that waits has no frame from its first magic byte on. -/
theorem decode_skip_of_more {buf : List UInt8} (h : tryDecodeRouter buf = .ok none) :
    routerDecoder.decode (routerDecoder.skip buf) = .more := by
  rcases head_of_more h with hshort | ⟨rest, rfl⟩
  · exact decode_of_more (tryDecodeRouter_of_short
      (Nat.lt_of_le_of_lt (routerDecoder.length_skip_le buf) hshort))
  · rw [routerDecoder.skip_cons_of_marks rfl]
    exact decode_of_more h

/-- A buffer without magic byte has no frame. -/
theorem decode_skip_of_eq_nil {buf : List UInt8} (h : routerDecoder.skip buf = []) :
    routerDecoder.decode (routerDecoder.skip buf) = .more := by
  rw [h]
  exact decode_of_more (tryDecodeRouter_of_short (Nat.zero_lt_succ 4))

theorem skip_eq_drop (buf : List UInt8) :
    routerDecoder.skip buf = buf.drop (buf.findIdx (fun b => b == ROUTER_MAGIC)) := by
  unfold Decoder.skip
  rw [List.dropWhile_eq_drop_findIdx_not]
  simp only [routerDecoder, Bool.not_not]

theorem skip_of_findNextRouterMagic {buf : List UInt8} {pos : Nat}
    (h : findNextRouterMagic buf 0 = some pos) : routerDecoder.skip buf = buf.drop pos := by
  obtain ⟨pos', hpos', rfl⟩ := Option.map_eq_some_iff.mp h
  rw [List.drop_zero] at hpos'
  rw [skip_eq_drop, (List.findIdx?_eq_some_iff_findIdx_eq.mp hpos').2, Nat.zero_add]

theorem skip_of_no_magic {buf : List UInt8} (h : findNextRouterMagic buf 0 = none) (n : Nat) :
    routerDecoder.skip (buf.drop n) = [] := by
  have hnone : ∀ b ∈ buf, (b == ROUTER_MAGIC) = false := by
    have hidx := Option.map_eq_none_iff.mp h
    rw [List.drop_zero, List.findIdx?_eq_none_iff] at hidx
    exact hidx
  unfold Decoder.skip
  rw [List.dropWhile_eq_nil_iff]
  intro b hb
  simp only [routerDecoder, hnone b (List.mem_of_mem_drop hb), Bool.not_false]

end RzRouter
