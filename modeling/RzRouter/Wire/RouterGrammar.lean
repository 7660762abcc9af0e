import RzRouter.Client.Decoding

/-!
# The router frame grammar

What `try_decode_router` accepts, in terms of the bytes of a frame: magic, total length, segment
length, segment, write flag, and the header and payload of the shard frame.
-/

namespace RzRouter

open LittleEndian

/-- The bytes of a router frame; `tail` is what follows the clrid. -/
def routerFrameBytes (total : UInt32) (segLen : UInt8) (segment : List UInt8) (flag : UInt8)
    (clrid : UInt32) (tail : List UInt8) : List UInt8 :=
  ROUTER_MAGIC :: (u32Bytes total ++ (segLen :: (segment ++ (flag :: (SHARD_MAGIC ::
    (u32Bytes clrid ++ tail))))))

/-- `bytes` is a router frame, and `f` says what it holds. -/
inductive IsRouterFrame : (bytes : List UInt8) → (f : RouterFrame) → Prop
  | frame {total : UInt32} {segLen : UInt8} {segment : List UInt8} {flag : UInt8}
      {clrid : UInt32} {tail : List UInt8} {f : RouterFrame}
      (hlen : segment.length = segLen.toNat) (hutf8 : strFromBytes segment = some f.segment)
      (htail : 4 ≤ tail.length) (htotal : total.toNat = segLen.toNat + 7 + tail.length)
      (hmax : total.toNat ≤ MAX_TOTAL_LEN) (hwrite : f.isWrite = decide (flag = 1))
      (hoffset : f.clridOffset = 8 + segLen.toNat) (hclrid : f.originalClrid = clrid)
      (hframeLen : f.frameLen = 5 + total.toNat) :
      IsRouterFrame (routerFrameBytes total segLen segment flag clrid tail) f

/-- More bytes are needed: there are fewer than five, or fewer than a total length in bounds
says. -/
def IsIncomplete (buf : List UInt8) : Prop :=
  buf.length < 5 ∨ ∃ (total : UInt32) (rest : List UInt8),
    buf = ROUTER_MAGIC :: (u32Bytes total ++ rest) ∧ total.toNat ≤ MAX_TOTAL_LEN ∧
      buf.length < 5 + total.toNat

theorem IsRouterFrame.length_eq {bytes : List UInt8} {f : RouterFrame} (h : IsRouterFrame bytes f) :
    bytes.length = f.frameLen := by
  cases h with
  | frame hlen _ _ htotal _ _ _ _ hframeLen =>
    simp only [routerFrameBytes, List.length_cons, List.length_append, length_u32Bytes]
    omega

theorem IsRouterFrame.tryDecodeRouter {bytes : List UInt8} {f : RouterFrame}
    (h : IsRouterFrame bytes f) : tryDecodeRouter bytes = .ok (some f) := by
  have hbytes := h.length_eq
  obtain @⟨total, segLen, segment, flag, clrid, tail, _, hseg, hutf8, htail, htotal, hmax, hwrite,
    hoffset, hclrid, hframeLen⟩ := h
  generalize hframe : routerFrameBytes total segLen segment flag clrid tail = bytes at hbytes ⊢
  replace hframe := hframe.symm
  rw [hframeLen] at hbytes
  have h5 : 5 ≤ bytes.length := by omega
  have hmagic : bytes[0] = ROUTER_MAGIC :=
    getElem_eq_of_append (show bytes = [] ++ (ROUTER_MAGIC :: _) from hframe) rfl (i := 0) (by omega)
  have hL : slice bytes 1 5 (by omega) h5 = u32Bytes total :=
    slice_eq_of_append (show bytes = [ROUTER_MAGIC] ++ (u32Bytes total ++ _) from hframe) rfl
      (length_u32Bytes total) _ _
  have hsegLen : bytes[5] = segLen :=
    getElem_eq_of_append (show bytes = (ROUTER_MAGIC :: u32Bytes total) ++ (segLen :: _) from hframe)
      (congrArg (· + 1) (length_u32Bytes total)) _
  -- the fields behind the segment length, each behind a prefix of known length
  have hbody : bytes = (ROUTER_MAGIC :: (u32Bytes total ++ [segLen])) ++ (segment ++ (flag ::
      (SHARD_MAGIC :: (u32Bytes clrid ++ tail)))) := by
    rw [hframe, routerFrameBytes, List.cons_append, List.append_assoc, List.singleton_append]
  have hhead : (ROUTER_MAGIC :: (u32Bytes total ++ [segLen])).length = 6 := by
    rw [List.length_cons, List.length_append, length_u32Bytes, List.length_singleton]
  generalize ROUTER_MAGIC :: (u32Bytes total ++ [segLen]) = head at hbody hhead
  have hsegment : slice bytes 6 (6 + segLen.toNat) (by omega) (by omega) = segment :=
    slice_eq_of_append hbody hhead (by omega) _ _
  rw [← List.append_assoc] at hbody
  have hflag : bytes[6 + segLen.toNat] = flag :=
    getElem_eq_of_append hbody (by rw [List.length_append]; omega) _
  rw [List.append_cons] at hbody
  have hshard : bytes[6 + segLen.toNat + 1] = SHARD_MAGIC :=
    getElem_eq_of_append hbody (by simp only [List.length_append, List.length_singleton]; omega) _
  rw [List.append_cons] at hbody
  have hclr : slice bytes (6 + segLen.toNat + 1 + 1) (6 + segLen.toNat + 1 + 5) (by omega)
      (by omega) = u32Bytes clrid :=
    slice_eq_of_append hbody (by simp only [List.length_append, List.length_singleton]; omega)
      (by rw [length_u32Bytes]; omega) _ _
  unfold RzRouter.tryDecodeRouter
  rw [dif_neg (by omega), if_neg (not_not.mpr hmagic)]
  simp only [hL, u32FromBytes_u32Bytes, hsegLen]
  rw [if_neg (by omega), dif_neg (by omega), dif_neg (by omega), dif_neg (by omega)]
  simp only [hsegment, hutf8, hflag, hshard, hclr]
  rw [dif_neg (by omega), if_neg (not_not.mpr rfl)]
  simp only [u32FromBytes_u32Bytes]
  obtain ⟨fsegment, fwrite, foffset, fclrid, flen⟩ := f
  simp only at hwrite hoffset hclrid hframeLen
  rw [hwrite, hoffset, hclrid, hframeLen, show 6 + segLen.toNat + 1 + 1 = 8 + segLen.toNat by omega]

/-- Whatever stands behind it, the decoder takes a frame at the front. -/
theorem IsRouterFrame.tryDecodeRouter_append {bytes : List UInt8} {f : RouterFrame}
    (h : IsRouterFrame bytes f) (rest : List UInt8) :
    RzRouter.tryDecodeRouter (bytes ++ rest) = .ok (some f) := by
  have hne : RzRouter.tryDecodeRouter bytes ≠ .ok none := by
    rw [h.tryDecodeRouter]
    nofun
  rw [RzRouter.tryDecodeRouter_append rest hne, h.tryDecodeRouter]

theorem cons_drop (buf : List UInt8) (i : Nat) (h : i < buf.length) :
    buf[i] :: buf.drop (i + 1) = buf.drop i := (List.drop_eq_getElem_cons h).symm

/-- A buffer with the two magic bytes is a frame up to `stop`, and what stands behind it. -/
theorem split_routerFrame {buf : List UInt8} {i stop : Nat} (hi : 6 ≤ i) (hi5 : i + 6 ≤ stop)
    (hstop : stop ≤ buf.length) (hmagic : buf[0] = ROUTER_MAGIC)
    (hshard : buf[i + 1] = SHARD_MAGIC) :
    buf = routerFrameBytes (u32FromBytes (slice buf 1 5 (by omega) (by omega))) buf[5]
      (slice buf 6 i hi (by omega)) buf[i]
      (u32FromBytes (slice buf (i + 2) (i + 6) (by omega) (by omega)))
      (slice buf (i + 6) stop hi5 hstop) ++ buf.drop stop := by
  have htotal := u32Bytes_u32FromBytes (length_slice buf 1 5 (by omega) (by omega))
  have hlen : (slice buf (i + 2) (i + 6) (by omega) (by omega)).length = 4 := by
    rw [length_slice]
    omega
  have hclrid := u32Bytes_u32FromBytes hlen
  unfold routerFrameBytes
  rw [htotal, hclrid, ← hmagic, ← hshard]
  simp only [List.cons_append, List.append_assoc]
  rw [slice_append_drop, slice_append_drop, cons_drop, cons_drop, slice_append_drop, cons_drop,
    slice_append_drop, cons_drop, List.drop_zero]

theorem isRouterFrame_of_decoded {buf : List UInt8} {f : RouterFrame}
    (h : tryDecodeRouter buf = .ok (some f)) :
    ∃ bytes rest, buf = bytes ++ rest ∧ IsRouterFrame bytes f := by
  have hdecision := routerDecision buf
  rw [h] at hdecision
  cases hdecision with
  | frame segLen segment h5 hmagic hmax hlen hsegLen hstop hutf8 hshard hclrid hshardMagic =>
    subst hsegLen
    rw [headerTotal_eq buf (by omega) (by omega)] at hmax hlen hshard
    -- all checks have passed: the buffer is the frame and what follows it
    refine ⟨_, _, split_routerFrame (i := 6 + buf[5].toNat) (by omega) (by omega) hlen hmagic
      hshardMagic, ?_⟩
    refine .frame ?_ hutf8 ?_ ?_ hmax rfl ?_ rfl rfl
    · rw [length_slice]
      omega
    · rw [length_slice]
      omega
    · rw [length_slice]
      omega
    · simp only
      omega

theorem decoded_iff (buf : List UInt8) (f : RouterFrame) :
    tryDecodeRouter buf = .ok (some f) ↔
      ∃ bytes rest, buf = bytes ++ rest ∧ IsRouterFrame bytes f := by
  constructor
  · exact isRouterFrame_of_decoded
  · rintro ⟨bytes, rest, rfl, hframe⟩
    exact hframe.tryDecodeRouter_append rest

theorem isRouterFrame_take {buf : List UInt8} {f : RouterFrame}
    (h : tryDecodeRouter buf = .ok (some f)) : IsRouterFrame (buf.take f.frameLen) f := by
  obtain ⟨bytes, rest, rfl, hframe⟩ := isRouterFrame_of_decoded h
  rwa [← hframe.length_eq, List.take_left]

/-- The decoder asks for more bytes exactly when a frame can still come of them. -/
theorem incomplete_iff (buf : List UInt8) :
    tryDecodeRouter buf = .ok none ↔ IsIncomplete buf := by
  constructor
  · intro h
    have hdecision := routerDecision buf
    rw [h] at hdecision
    cases hdecision with
    | short h5 => exact Or.inl h5
    | incomplete h5 hmagic hmax hlen =>
      rw [headerTotal_eq buf (by omega) h5] at hmax hlen
      refine Or.inr ⟨_, buf.drop 5, ?_, hmax, hlen⟩
      rw [u32Bytes_u32FromBytes (length_slice _ _ _ _ _), slice_append_drop, ← hmagic, cons_drop,
        List.drop_zero]
  · rintro (h5 | ⟨total, rest, hbuf, hmax, hlen⟩)
    · exact tryDecodeRouter_of_short h5
    · by_cases h5 : buf.length < 5
      · exact tryDecodeRouter_of_short h5
      have hmagic : buf[0] = ROUTER_MAGIC :=
        getElem_eq_of_append (show buf = [] ++ (ROUTER_MAGIC :: _) from hbuf) rfl (i := 0)
          (by omega)
      have htotal : slice buf 1 5 (by omega) (by omega) = u32Bytes total :=
        slice_eq_of_append (show buf = [ROUTER_MAGIC] ++ (u32Bytes total ++ _) from hbuf) rfl
          (length_u32Bytes total) _ _
      unfold tryDecodeRouter
      rw [dif_neg h5, if_neg (not_not.mpr hmagic)]
      simp only [htotal, u32FromBytes_u32Bytes]
      rw [if_neg (by omega), dif_pos hlen]

theorem rejected_iff (buf : List UInt8) :
    (∃ e, tryDecodeRouter buf = .error e) ↔ ¬ IsIncomplete buf ∧
      ¬ ∃ f bytes rest, buf = bytes ++ rest ∧ IsRouterFrame bytes f := by
  rw [← incomplete_iff]
  simp only [← decoded_iff]
  constructor
  · rintro ⟨e, h⟩
    rw [h]
    exact ⟨nofun, nofun⟩
  · rintro ⟨hnone, hsome⟩
    cases h : tryDecodeRouter buf with
    | error e => exact ⟨e, rfl⟩
    | ok result =>
      cases result with
      | none => exact absurd h hnone
      | some f => exact absurd ⟨f, h⟩ hsome

/-! ## The frames that clients and the router build -/

/-- `prepend_router_header`: how a client wraps its payload. -/
def prependRouterHeader (segment : String) (isWrite : Bool) (clrid : UInt32)
    (payload : List UInt8) : List UInt8 :=
  let shardTotalLen := UInt32.ofNat payload.length
  let shardFrameLen := 9 + shardTotalLen
  let segmentLen := UInt32.ofNat (strBytes segment).length
  let routerHeaderLen := 1 + segmentLen + 1
  [ROUTER_MAGIC] ++ u32Bytes (routerHeaderLen + shardFrameLen) ++ [segmentLen.toUInt8] ++
    strBytes segment ++ [if isWrite then 0x01 else 0x00] ++ [SHARD_MAGIC] ++ u32Bytes clrid ++
    u32Bytes shardTotalLen ++ payload

theorem strFromBytes_strBytes (s : String) : strFromBytes (strBytes s) = some s := by
  unfold strFromBytes strBytes String.fromUTF8?
  exact dif_pos s.isValidUTF8

theorem isRouterFrame_prependRouterHeader (segment : String) (isWrite : Bool) (clrid : UInt32)
    (payload : List UInt8) (hsegment : (strBytes segment).length ≤ 255)
    (hlen : 11 + (strBytes segment).length + payload.length ≤ MAX_TOTAL_LEN) :
    IsRouterFrame (prependRouterHeader segment isWrite clrid payload)
      { segment := segment
        isWrite := isWrite
        clridOffset := 8 + (strBytes segment).length
        originalClrid := clrid
        frameLen := 16 + (strBytes segment).length + payload.length } := by
  have hmax : MAX_TOTAL_LEN = 16777216 := rfl
  -- a segment of at most 255 bytes fits the length byte, and the total does not wrap
  have hn : (UInt32.ofNat (strBytes segment).length).toUInt8.toNat = (strBytes segment).length := by
    rw [UInt32.toNat_toUInt8, UInt32.toNat_ofNat_of_lt' (show _ < 2 ^ 32 by omega)]
    omega
  have htotal : (1 + UInt32.ofNat (strBytes segment).length + 1 +
      (9 + UInt32.ofNat payload.length)).toNat = 11 + (strBytes segment).length + payload.length := by
    simp only [UInt32.toNat_add, UInt32.toNat_ofNat_of_lt' (show (strBytes segment).length < 2 ^ 32 by
      omega), UInt32.toNat_ofNat_of_lt' (show payload.length < 2 ^ 32 by omega), UInt32.reduceToNat]
    omega
  have htail : (u32Bytes (UInt32.ofNat payload.length) ++ payload).length = 4 + payload.length := by
    rw [List.length_append, length_u32Bytes]
  have hbytes : prependRouterHeader segment isWrite clrid payload = routerFrameBytes
      (1 + UInt32.ofNat (strBytes segment).length + 1 + (9 + UInt32.ofNat payload.length))
      (UInt32.ofNat (strBytes segment).length).toUInt8 (strBytes segment)
      (if isWrite then 0x01 else 0x00) clrid (u32Bytes (UInt32.ofNat payload.length) ++ payload) := by
    unfold prependRouterHeader routerFrameBytes
    simp only [List.append_assoc, List.nil_append, List.cons_append]
  rw [hbytes]
  refine .frame hn.symm (strFromBytes_strBytes segment) ?_ ?_ (htotal.trans_le hlen) ?_ ?_ rfl ?_
  · omega
  · omega
  · cases isWrite with
    | false => rfl
    | true => rfl
  · rw [hn]
  · rw [htotal]
    simp only
    omega

theorem isRouterFrame_buildKeepaliveFrame (clrid : UInt32) :
    IsRouterFrame (buildKeepaliveFrame clrid)
      { segment := KEEPALIVE_SEGMENT
        isWrite := false
        clridOffset := 21
        originalClrid := clrid
        frameLen := 29 } := by
  show IsRouterFrame (routerFrameBytes 24 13 (strBytes KEEPALIVE_SEGMENT) 0 clrid [0, 0, 0, 0]) _
  exact .frame (by decide) (strFromBytes_strBytes KEEPALIVE_SEGMENT) (by decide) (by decide)
    (by decide) rfl rfl rfl rfl

/-- `try_decode_router` accepts the router frame grammar: which buffers hold a frame, which wait
for more bytes, and which are rejected; the frames of clients and of the router decode to their
own fields, whatever follows. -/
theorem router_frame_grammar :
    (∀ buf f, tryDecodeRouter buf = .ok (some f) ↔
      ∃ bytes rest, buf = bytes ++ rest ∧ IsRouterFrame bytes f) ∧
    (∀ buf, tryDecodeRouter buf = .ok none ↔ IsIncomplete buf) ∧
    (∀ buf, (∃ e, tryDecodeRouter buf = .error e) ↔ ¬ IsIncomplete buf ∧
      ¬ ∃ f bytes rest, buf = bytes ++ rest ∧ IsRouterFrame bytes f) ∧
    (∀ segment isWrite clrid payload rest, (strBytes segment).length ≤ 255 →
      11 + (strBytes segment).length + payload.length ≤ MAX_TOTAL_LEN →
      tryDecodeRouter (prependRouterHeader segment isWrite clrid payload ++ rest) =
        .ok (some
          { segment := segment
            isWrite := isWrite
            clridOffset := 8 + (strBytes segment).length
            originalClrid := clrid
            frameLen := 16 + (strBytes segment).length + payload.length })) ∧
    (∀ clrid rest, tryDecodeRouter (buildKeepaliveFrame clrid ++ rest) =
      .ok (some
        { segment := KEEPALIVE_SEGMENT
          isWrite := false
          clridOffset := 21
          originalClrid := clrid
          frameLen := 29 })) := by
  refine ⟨decoded_iff, incomplete_iff, rejected_iff, ?_, ?_⟩
  · intro segment isWrite clrid payload rest hsegment hlen
    exact (isRouterFrame_prependRouterHeader segment isWrite clrid payload hsegment
      hlen).tryDecodeRouter_append rest
  · intro clrid rest
    exact (isRouterFrame_buildKeepaliveFrame clrid).tryDecodeRouter_append rest

end RzRouter
