import RzRouter.Library.Framing
import RzRouter.Forwarder

/-!
# Response frames

What the hops send, what the router writes to its clients: magic, clrid, payload length, and
exactly so many payload bytes.
-/

namespace RzRouter

open LittleEndian Framing

/-- A response frame: magic, clrid, payload length, payload. -/
def responseFrame (clrid : UInt32) (payload : List UInt8) : List UInt8 :=
  SHARD_MAGIC :: (u32Bytes clrid ++ (u32Bytes (UInt32.ofNat payload.length) ++ payload))

/-- `bytes` is a response frame with this clrid. -/
def IsResponse (bytes : List UInt8) (clrid : UInt32) : Prop :=
  ∃ payload, payload.length < 2 ^ 32 ∧ bytes = responseFrame clrid payload

/-! ## Frames -/

theorem length_responseFrame (clrid : UInt32) (payload : List UInt8) :
    (responseFrame clrid payload).length = 9 + payload.length := by
  unfold responseFrame
  rw [List.length_cons, List.length_append, List.length_append, length_u32Bytes, length_u32Bytes]
  omega

/-- Two response frames at the front of one stream are the same frame. -/
theorem responseFrame_unique {x y : UInt32} {p q r s : List UInt8} (hp : p.length < 2 ^ 32)
    (hq : q.length < 2 ^ 32) (h : responseFrame x p ++ r = responseFrame y q ++ s) :
    x = y ∧ p = q := by
  unfold responseFrame at h
  rw [List.cons_append, List.cons_append, List.append_assoc, List.append_assoc, List.append_assoc,
    List.append_assoc] at h
  have hbody := List.tail_eq_of_cons_eq h
  obtain ⟨hclrid, hrest⟩ :=
    List.append_inj hbody (by rw [length_u32Bytes, length_u32Bytes])
  obtain ⟨hlen, hpayload⟩ :=
    List.append_inj hrest (by rw [length_u32Bytes, length_u32Bytes])
  have hlength : p.length = q.length := by
    have hnat := congrArg UInt32.toNat (u32Bytes_inj hlen)
    rw [UInt32.toNat_ofNat_of_lt' hp, UInt32.toNat_ofNat_of_lt' hq] at hnat
    exact hnat
  exact ⟨u32Bytes_inj hclrid, (List.append_inj hpayload hlength).1⟩

theorem IsResponse.clrid_unique {bytes : List UInt8} {x y : UInt32} (hx : IsResponse bytes x)
    (hy : IsResponse bytes y) : x = y := by
  obtain ⟨p, hp, rfl⟩ := hx
  obtain ⟨q, hq, heq⟩ := hy
  exact (responseFrame_unique hp hq (congrArg (· ++ []) heq)).1

theorem selfDelimiting_isResponse : SelfDelimiting (fun bytes => ∃ clrid, IsResponse bytes clrid) where
  nonempty := by
    rintro a ⟨clrid, payload, -, rfl⟩
    exact List.cons_ne_nil _ _
  unique := by
    rintro a b r s ⟨x, p, hp, rfl⟩ ⟨y, q, hq, rfl⟩ h
    obtain ⟨rfl, rfl⟩ := responseFrame_unique hp hq h
    rfl

/-- A frame with the magic and a length field that fits is a response. -/
theorem isResponse_of_header {bytes : List UInt8} (h9 : 9 ≤ bytes.length)
    (hmagic : bytes[0] = SHARD_MAGIC)
    (hlen : bytes.length = 9 + (u32FromBytes (slice bytes 5 9 (by omega) h9)).toNat) :
    IsResponse bytes (u32FromBytes (slice bytes 1 5 (by omega) (by omega))) := by
  have hlen4 : (slice bytes 5 9 (by omega) h9).length = 4 := length_slice _ _ _ _ _
  have hpayload : (bytes.drop 9).length = (u32FromBytes (slice bytes 5 9 (by omega) h9)).toNat := by
    rw [List.length_drop]
    omega
  refine ⟨bytes.drop 9, ?_, ?_⟩
  · rw [hpayload]
    exact UInt32.toNat_lt _
  · unfold responseFrame
    rw [hpayload, UInt32.ofNat_toNat, u32Bytes_u32FromBytes hlen4,
      u32Bytes_u32FromBytes (length_slice _ _ _ _ _), ← hmagic]
    unfold slice
    have hsplit : ∀ k, k + 4 ≤ bytes.length →
        (bytes.drop k).take 4 ++ bytes.drop (k + 4) = bytes.drop k := by
      intro k _
      rw [← List.drop_drop, List.take_append_drop]
    rw [hsplit 5 (by omega), hsplit 1 (by omega)]
    exact (List.drop_eq_getElem_cons (by omega : 0 < bytes.length)).symm ▸ (List.drop_zero).symm

/-- The client's clrid in place of the router's. -/
theorem restoreClrid_responseFrame (id originalClrid : UInt32) (payload : List UInt8) :
    restoreClrid (responseFrame id payload) originalClrid = responseFrame originalClrid payload := by
  have hlen : (responseFrame id payload).length ≥ 9 := by
    rw [length_responseFrame]
    exact Nat.le_add_right 9 _
  unfold restoreClrid
  rw [if_pos hlen]
  exact overwrite_append [SHARD_MAGIC] (u32Bytes id) (u32Bytes originalClrid) _
    (by rw [length_u32Bytes, length_u32Bytes])

theorem IsResponse.restoreClrid {bytes : List UInt8} {id : UInt32} (h : IsResponse bytes id)
    (originalClrid : UInt32) : IsResponse (restoreClrid bytes originalClrid) originalClrid := by
  obtain ⟨payload, hlen, rfl⟩ := h
  exact ⟨payload, hlen, restoreClrid_responseFrame id originalClrid payload⟩

/-! ## The responses that the router builds -/

/-- The length field of a response is patched in when the payload is there. -/
theorem patched_responseFrame (clrid : UInt32) (payload : List UInt8) :
    overwrite ([0xFF] ++ u32Bytes clrid ++ u32Bytes 0 ++ payload) ([0xFF] ++ u32Bytes clrid).length
        (u32Bytes (UInt32.ofNat payload.length)) = responseFrame clrid payload := by
  rw [overwrite_append _ _ _ _ (by rw [length_u32Bytes, length_u32Bytes]), List.append_assoc]
  rfl

theorem length_errorMessage (errorCode : UInt8) : (errorMessage errorCode).length = 3 := by
  unfold errorMessage
  split <;> rfl

/-- The payload of an error response. -/
theorem buildErrorResponse_eq (clrid : UInt32) (errorCode : UInt8) :
    buildErrorResponse clrid errorCode =
      responseFrame clrid (ERROR_PAYLOAD ++ u32Bytes 3 ++ errorMessage errorCode) := by
  have hlen : (errorMessage errorCode).length = 3 := length_errorMessage errorCode
  unfold buildErrorResponse responseFrame
  simp only [List.length_append, length_u32Bytes, List.append_assoc, Nat.add_assoc, hlen]
  rfl

theorem isResponse_buildErrorResponse (clrid : UInt32) (errorCode : UInt8) :
    IsResponse (buildErrorResponse clrid errorCode) clrid := by
  refine ⟨_, ?_, buildErrorResponse_eq clrid errorCode⟩
  rw [List.length_append, List.length_append, length_u32Bytes, length_errorMessage]
  decide

theorem segmentFields_append (keys : List String) (buf : List UInt8) (totalFields : UInt16) :
    segmentFields keys (buf, totalFields) =
      (buf ++ (segmentFields keys ([], totalFields)).1,
        (segmentFields keys ([], totalFields)).2) := by
  induction keys generalizing buf totalFields with
  | nil => rw [segmentFields, segmentFields, List.append_nil]
  | cons key keys ih =>
    rw [segmentFields, ih, segmentFields, ih ([] ++ _ ++ _ ++ _ ++ _ ++ _ ++ _ ++ _ ++ _)]
    simp only [List.append_assoc, List.nil_append]

/-- An empty length field and an empty field count, both patched in. -/
theorem patched_twice (clrid : UInt32) (lead placeholder count fields : List UInt8)
    (hcount : placeholder.length = count.length) :
    let header := [0xFF] ++ u32Bytes clrid ++ u32Bytes 0
    let buf := overwrite (header ++ lead ++ placeholder ++ fields) (header ++ lead).length count
    overwrite buf ([0xFF] ++ u32Bytes clrid).length
        (u32Bytes (UInt32.ofNat (buf.length - header.length))) =
      responseFrame clrid (lead ++ count ++ fields) := by
  intro header buf
  have hbuf : buf = header ++ (lead ++ count ++ fields) := by
    unfold buf
    rw [overwrite_append _ _ _ _ hcount]
    simp only [List.append_assoc]
  have hpayload : buf.length - header.length = (lead ++ count ++ fields).length := by
    rw [hbuf, List.length_append, Nat.add_sub_cancel_left]
  rw [hpayload, hbuf]
  exact patched_responseFrame clrid (lead ++ count ++ fields)

theorem serializeGetSegments_eq (segments : List String) (clrid : UInt32) :
    serializeGetSegments segments clrid =
      responseFrame clrid (SUCCESS_STATUS ++ u16Bytes (segmentFields segments ([], 0)).2 ++
        (segmentFields segments ([], 0)).1) := by
  unfold serializeGetSegments
  simp only [segmentFields_append segments ([0xFF] ++ _ ++ _ ++ _ ++ _)]
  exact patched_twice clrid SUCCESS_STATUS (u16Bytes 0) _ _
    ((length_leBytes 2 _).trans (length_leBytes 2 _).symm)

theorem serializeCodecs_eq (clrid : UInt32) (codecBytes : List UInt8) :
    serializeCodecs clrid codecBytes =
      responseFrame clrid (SUCCESS_STATUS ++ u16Bytes 1 ++ (u16Bytes 1 ++ [0x09] ++
        u32Bytes (UInt32.ofNat codecBytes.length) ++ codecBytes)) := by
  have h := patched_twice clrid SUCCESS_STATUS (u16Bytes 0) (u16Bytes 1)
    (u16Bytes 1 ++ [0x09] ++ u32Bytes (UInt32.ofNat codecBytes.length) ++ codecBytes) rfl
  rw [← h]
  unfold serializeCodecs
  simp only [List.append_assoc]

/-- A frame that was built around a payload is a response when its length fits. -/
theorem isResponse_of_eq {clrid : UInt32} {payload frame : List UInt8}
    (hlen : frame.length < 9 + 2 ^ 32) (hframe : frame = responseFrame clrid payload) :
    IsResponse frame clrid := by
  rw [hframe, length_responseFrame] at hlen
  exact ⟨payload, by omega, hframe⟩

theorem isResponse_serializeGetSegments {segments : List String} {clrid : UInt32}
    (h : (serializeGetSegments segments clrid).length < 9 + 2 ^ 32) :
    IsResponse (serializeGetSegments segments clrid) clrid :=
  isResponse_of_eq h (serializeGetSegments_eq segments clrid)

theorem isResponse_serializeCodecs {clrid : UInt32} {codecBytes : List UInt8}
    (h : (serializeCodecs clrid codecBytes).length < 9 + 2 ^ 32) :
    IsResponse (serializeCodecs clrid codecBytes) clrid :=
  isResponse_of_eq h (serializeCodecs_eq clrid codecBytes)

end RzRouter
