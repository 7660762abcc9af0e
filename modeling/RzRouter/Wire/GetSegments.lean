import RzRouter.Wire.ResponseGrammar

/-!
# The list of segments under the response grammar

`serialize_get_segments` counts its fields in a `u16`, two for each segment.  Up to 32767 segments
the response is read back whole; from 32768 on the count wraps, or, where overflow is checked, the
encoder stops.
-/

namespace RzRouter

open LittleEndian Grammar

/-! ## The encoder with checked arithmetic -/

/-- `x + y` in `u16` where overflow is checked. -/
def checkedAdd (x y : UInt16) : Option UInt16 :=
  if x.toNat + y.toNat < 2 ^ 16 then some (x + y) else none

/-- The loop of `serialize_get_segments`, every addition checked. -/
def checkedSegmentFields : List String → List UInt8 × UInt16 → Option (List UInt8 × UInt16)
  | [], acc => some acc
  | key :: keys, (buf, totalFields) => do
      let id ← checkedAdd totalFields 1
      let buf := buf ++ u16Bytes id ++ [0x01] ++
        u32Bytes (UInt32.ofNat (strBytes key).length) ++ strBytes key
      let totalFields ← checkedAdd totalFields 1
      let id ← checkedAdd totalFields 1
      let buf := buf ++ u16Bytes id ++ [0x03] ++ u32Bytes 4 ++ u32Bytes 0
      let totalFields ← checkedAdd totalFields 1
      checkedSegmentFields keys (buf, totalFields)

/-- `serialize_get_segments`, every addition checked. -/
def checkedSerializeGetSegments (segments : List String) (clrid : UInt32) :
    Option (List UInt8) := do
  let buf := [0xFF] ++ u32Bytes clrid
  let payloadLenPos := buf.length
  let buf := buf ++ u32Bytes 0
  let payloadStart := buf.length
  let buf := buf ++ SUCCESS_STATUS
  let fieldsPos := buf.length
  let buf := buf ++ u16Bytes 0
  let (buf, totalFields) ← checkedSegmentFields segments (buf, 0)
  let buf := overwrite buf fieldsPos (u16Bytes totalFields)
  let payloadLen := UInt32.ofNat (buf.length - payloadStart)
  return overwrite buf payloadLenPos (u32Bytes payloadLen)

theorem toNat_succ {x : UInt16} (h : x.toNat + 1 < 2 ^ 16) : (x + 1).toNat = x.toNat + 1 := by
  rw [UInt16.toNat_add]
  exact Nat.mod_eq_of_lt h

theorem checkedAdd_eq_some {x : UInt16} (h : x.toNat + 1 < 2 ^ 16) :
    checkedAdd x 1 = some (x + 1) := if_pos h

theorem checkedAdd_eq_none {x : UInt16} (h : ¬ x.toNat + 1 < 2 ^ 16) : checkedAdd x 1 = none :=
  if_neg h

/-- The checked loop stops exactly when the count of all fields exceeds a `u16`. -/
theorem checkedSegmentFields_eq (keys : List String) (buf : List UInt8) (totalFields : UInt16) :
    checkedSegmentFields keys (buf, totalFields) =
      if totalFields.toNat + 2 * keys.length < 2 ^ 16 then
        some (segmentFields keys (buf, totalFields)) else none := by
  induction keys generalizing buf totalFields with
  | nil =>
    have hlt := totalFields.toNat_lt
    rw [List.length_nil, if_pos (by omega)]
    rfl
  | cons key keys ih =>
    rw [checkedSegmentFields, List.length_cons]
    -- each name takes two field ids, and either addition can overflow
    by_cases h1 : totalFields.toNat + 1 < 2 ^ 16
    · rw [checkedAdd_eq_some h1]
      simp only [Option.bind_eq_bind, Option.bind_some]
      have hsucc := toNat_succ h1
      by_cases h2 : (totalFields + 1).toNat + 1 < 2 ^ 16
      · rw [checkedAdd_eq_some h2]
        simp only [Option.bind_some]
        rw [ih, toNat_succ h2, hsucc, segmentFields,
          show totalFields.toNat + 1 + 1 + 2 * keys.length =
            totalFields.toNat + 2 * (keys.length + 1) by omega]
      · rw [checkedAdd_eq_none h2, if_neg (by omega)]
        rfl
    · rw [checkedAdd_eq_none h1, if_neg (by omega)]
      rfl

theorem checkedSerializeGetSegments_eq (segments : List String) (clrid : UInt32) :
    checkedSerializeGetSegments segments clrid =
      if segments.length ≤ 32767 then some (serializeGetSegments segments clrid) else none := by
  unfold checkedSerializeGetSegments
  simp only [checkedSegmentFields_eq]
  by_cases h : segments.length ≤ 32767
  · have hlt : (0 : UInt16).toNat + 2 * segments.length < 2 ^ 16 := by
      rw [UInt16.toNat_zero]
      omega
    rw [if_pos h, if_pos hlt]
    rfl
  · have hlt : ¬ (0 : UInt16).toNat + 2 * segments.length < 2 ^ 16 := by
      rw [UInt16.toNat_zero]
      omega
    rw [if_neg h, if_neg hlt]
    rfl

/-! ## The fields that its reader sees -/

/-- The name and the count of a segment, listed as number `k` from 0 on. -/
def listedFields (segment : String) (k : Nat) : List ResponseField :=
  [⟨2 * k + 1, 0x01, strBytes segment⟩, ⟨2 * k + 2, 0x03, [0, 0, 0, 0]⟩]

/-- Two fields for each segment, in the order of the list. -/
def getSegmentsResponse (segments : List String) (clrid : UInt32) : ParsedResponse where
  clrid := clrid
  status := strBytes "SUCCESS"
  fields := segments.zipIdx.flatMap (fun p => listedFields p.1 p.2)

theorem length_listed (segments : List String) (k : Nat) :
    ((segments.zipIdx k).flatMap (fun p => listedFields p.1 p.2)).length =
      2 * segments.length := by
  induction segments generalizing k with
  | nil => rfl
  | cons segment segments ih =>
    rw [List.zipIdx_cons, List.flatMap_cons, List.length_append, ih, List.length_cons]
    change 2 + _ = _
    omega

/-- Ids that do not wrap are those of the list. -/
theorem segmentFields_eq {keys : List String} {totalFields : UInt16} {k : Nat}
    (hk : totalFields.toNat = 2 * k) (h : totalFields.toNat + 2 * keys.length < 2 ^ 16) :
    (segmentFields keys ([], totalFields)).1 =
        ((keys.zipIdx k).flatMap (fun p => listedFields p.1 p.2)).flatMap ResponseField.bytes ∧
      (segmentFields keys ([], totalFields)).2.toNat = totalFields.toNat + 2 * keys.length := by
  induction keys generalizing totalFields k with
  | nil => exact ⟨rfl, rfl⟩
  | cons key keys ih =>
    rw [List.length_cons] at h ⊢
    -- below 2 ^ 16 the counter does not wrap
    have h1 : (totalFields + 1).toNat = 2 * k + 1 := by rw [toNat_succ (by omega), hk]
    have h2 : (totalFields + 1 + 1).toNat = 2 * (k + 1) := by rw [toNat_succ (by omega), h1]; rfl
    obtain ⟨hbytes, hcount⟩ := ih h2 (by omega)
    rw [segmentFields, segmentFields_append]
    refine ⟨?_, ?_⟩
    · rw [hbytes, List.zipIdx_cons, List.flatMap_cons, List.flatMap_append]
      unfold listedFields
      simp only [List.flatMap_cons, List.flatMap_nil, ResponseField.bytes, u16Bytes, h1, h2,
        List.append_assoc, List.append_nil, List.nil_append]
      rfl
    · rw [hcount, h2, hk]
      omega

/-- Every listed field fits when the bytes of all of them do. -/
theorem fits_of_listed {segments : List String} (hcount : segments.length ≤ 32767)
    (hlen : ((segments.zipIdx.flatMap (fun p => listedFields p.1 p.2)).flatMap
      ResponseField.bytes).length < 2 ^ 32) {f : ResponseField}
    (hf : f ∈ segments.zipIdx.flatMap (fun p => listedFields p.1 p.2)) : f.Fits := by
  refine ⟨?_, ?_⟩
  · obtain ⟨⟨segment, k⟩, hmem, hlisted⟩ := List.mem_flatMap.mp hf
    have hk : k < segments.length := by
      have hlt := (List.mem_zipIdx hmem).2.1
      omega
    simp only [listedFields, List.mem_cons, List.not_mem_nil, or_false] at hlisted
    rcases hlisted with rfl | rfl
    · simp only
      omega
    · simp only
      omega
  -- the value of a field is a part of the whole payload
  · have hsub : f.bytes.Sublist ((segments.zipIdx.flatMap (fun p =>
        listedFields p.1 p.2)).flatMap ResponseField.bytes) := by
      rw [List.flatMap_def (f := ResponseField.bytes)]
      exact List.sublist_flatten_of_mem (List.mem_map_of_mem hf)
    have hle := hsub.length_le
    have hvalue : f.value.length ≤ f.bytes.length := by
      unfold ResponseField.bytes
      simp only [List.length_append]
      omega
    omega

theorem parseResponse_getSegments {segments : List String} {clrid : UInt32}
    (h : (serializeGetSegments segments clrid).length < 9 + 2 ^ 32)
    (hcount : segments.length ≤ 32767) :
    parseResponse (serializeGetSegments segments clrid) =
      some (getSegmentsResponse segments clrid) := by
  obtain ⟨hbytes, htotal⟩ := @segmentFields_eq segments 0 0 rfl
    (by rw [UInt16.toNat_zero]; omega)
  rw [UInt16.toNat_zero, Nat.zero_add] at htotal
  -- the payload that is written is the payload the grammar describes
  have hpayload : SUCCESS_STATUS ++ u16Bytes (segmentFields segments ([], 0)).2 ++
      (segmentFields segments ([], 0)).1 =
      payloadBytes (strBytes "SUCCESS") (getSegmentsResponse segments clrid).fields := by
    unfold payloadBytes getSegmentsResponse u16Bytes
    simp only
    rw [hbytes, htotal, length_listed, List.append_assoc]
    rfl
  rw [serializeGetSegments_eq, hpayload] at h ⊢
  rw [length_responseFrame] at h
  have hlt : (payloadBytes (strBytes "SUCCESS")
      (getSegmentsResponse segments clrid).fields).length < 2 ^ 32 := by omega
  have hread : Reads responsePayload
      (strBytes "SUCCESS", (getSegmentsResponse segments clrid).fields)
      (payloadBytes (strBytes "SUCCESS") (getSegmentsResponse segments clrid).fields) := by
    refine reads_responsePayload (by decide) ?_ (fun f hf => fits_of_listed hcount ?_ hf)
    · unfold getSegmentsResponse
      simp only
      rw [length_listed]
      omega
    · refine Nat.lt_of_le_of_lt ?_ hlt
      unfold payloadBytes getSegmentsResponse
      simp only [List.length_append]
      omega
  rw [parseResponse_responseFrame hlt, hread.whole_eq]
  rfl

/-- A response with more fields than a `u16` counts is not read back. -/
theorem length_of_parseResponse_getSegments {segments : List String} {clrid : UInt32}
    (h : (serializeGetSegments segments clrid).length < 9 + 2 ^ 32)
    (hparse : parseResponse (serializeGetSegments segments clrid) =
      some (getSegmentsResponse segments clrid)) : segments.length ≤ 32767 := by
  rw [serializeGetSegments_eq, length_responseFrame] at h
  rw [serializeGetSegments_eq, parseResponse_responseFrame (by omega)] at hparse
  obtain ⟨⟨status, fields⟩, hwhole, heq⟩ := Option.map_eq_some_iff.mp hparse
  have hlt := fields_lt_of_responsePayload (whole_eq_some hwhole)
  obtain rfl : fields = (getSegmentsResponse segments clrid).fields :=
    congrArg ParsedResponse.fields heq
  unfold getSegmentsResponse at hlt
  simp only at hlt
  rw [length_listed] at hlt
  omega

/-- The list of segments is encoded without overflow and read back whole exactly when it has at
most 32767 segments. -/
theorem getSegments_round_trip_iff (segments : List String) (clrid : UInt32)
    (h : (serializeGetSegments segments clrid).length < 9 + 2 ^ 32) :
    (parseResponse (serializeGetSegments segments clrid) =
        some (getSegmentsResponse segments clrid) ∧
      checkedSerializeGetSegments segments clrid =
        some (serializeGetSegments segments clrid)) ↔ segments.length ≤ 32767 := by
  constructor
  · rintro ⟨hparse, -⟩
    exact length_of_parseResponse_getSegments h hparse
  · intro hcount
    exact ⟨parseResponse_getSegments h hcount,
      (checkedSerializeGetSegments_eq segments clrid).trans (if_pos hcount)⟩

theorem getSegments_round_trip_iff_two :
    (serializeGetSegments ["lyon", "paris"] 7).length < 9 + 2 ^ 32 ∧
      ((parseResponse (serializeGetSegments ["lyon", "paris"] 7) =
          some (getSegmentsResponse ["lyon", "paris"] 7) ∧
        checkedSerializeGetSegments ["lyon", "paris"] 7 =
          some (serializeGetSegments ["lyon", "paris"] 7)) ↔ ["lyon", "paris"].length ≤ 32767) := by
  have h : (serializeGetSegments ["lyon", "paris"] 7).length < 9 + 2 ^ 32 := by decide
  exact ⟨h, getSegments_round_trip_iff _ 7 h⟩

theorem length_segmentFields_le {keys : List String} {n : Nat}
    (h : ∀ key ∈ keys, (strBytes key).length ≤ n) (totalFields : UInt16) :
    (segmentFields keys ([], totalFields)).1.length ≤ (18 + n) * keys.length := by
  induction keys generalizing totalFields with
  | nil => exact Nat.zero_le _
  | cons key keys ih =>
    have hkey := h key List.mem_cons_self
    have htail := ih (fun key' hkey' => h key' (List.mem_cons_of_mem key hkey'))
      (totalFields + 1 + 1)
    rw [segmentFields, segmentFields_append, List.length_cons, Nat.mul_succ]
    simp only [List.length_append, length_u32Bytes, u16Bytes, length_leBytes, List.length_cons,
      List.length_nil]
    omega

/-- Segments named by one character each, from U+0000 on. -/
def oneCharNames (n : Nat) : List String :=
  (List.range n).map (fun i => String.singleton (Char.ofNat i))

theorem length_oneCharNames (n : Nat) : (oneCharNames n).length = n := by
  unfold oneCharNames
  rw [List.length_map, List.length_range]

theorem oneCharNames_nodup {n : Nat} (hn : n ≤ 0xD800) : (oneCharNames n).Nodup := by
  have hcode : ∀ i, i < n → (Char.ofNat i).toNat = i := by
    intro i hi
    have hvalid : i.isValidChar := Or.inl (by omega)
    unfold Char.ofNat
    rw [dif_pos hvalid]
    rfl
  refine List.Nodup.map_on ?_ List.nodup_range
  intro i hi j hj heq
  have hchar : [Char.ofNat i] = [Char.ofNat j] := by
    rw [← String.toList_singleton, heq, String.toList_singleton]
  rw [← hcode i (List.mem_range.mp hi), List.head_eq_of_cons_eq hchar,
    hcode j (List.mem_range.mp hj)]

theorem length_name_le {n : Nat} {name : String} (h : name ∈ oneCharNames n) :
    (strBytes name).length ≤ 4 := by
  obtain ⟨i, -, rfl⟩ := List.mem_map.mp h
  unfold strBytes
  rw [String.toByteArray_singleton, List.utf8Encode_singleton, List.data_toByteArray]
  change (String.utf8EncodeChar (Char.ofNat i)).length ≤ 4
  rw [String.length_utf8EncodeChar]
  exact Char.utf8Size_le_four _

/-- A list of 32768 short names overflows the encoder, and what it writes is not read back. -/
theorem not_read_back {segments : List String} (clrid : UInt32)
    (hshort : ∀ segment ∈ segments, (strBytes segment).length ≤ 4)
    (hcount : segments.length = 32768) :
    (serializeGetSegments segments clrid).length < 9 + 2 ^ 32 ∧
      checkedSerializeGetSegments segments clrid = none ∧
      parseResponse (serializeGetSegments segments clrid) ≠
        some (getSegmentsResponse segments clrid) := by
  have hlen : (serializeGetSegments segments clrid).length < 9 + 2 ^ 32 := by
    have hle := length_segmentFields_le hshort 0
    rw [hcount] at hle
    rw [serializeGetSegments_eq, length_responseFrame, List.length_append, List.length_append,
      u16Bytes, length_leBytes]
    change 9 + (8 + 2 + _) < _
    omega
  refine ⟨hlen, ?_, ?_⟩
  · rw [checkedSerializeGetSegments_eq, if_neg (by omega)]
  -- what is read back has at most 65535 fields
  · intro hparse
    have hle := length_of_parseResponse_getSegments hlen hparse
    omega

/-- With 32768 segments the encoder overflows, and what it writes is not read back. -/
theorem oneCharNames_not_read_back :
    (oneCharNames 32768).Nodup ∧
      (serializeGetSegments (oneCharNames 32768) 7).length < 9 + 2 ^ 32 ∧
      checkedSerializeGetSegments (oneCharNames 32768) 7 = none ∧
      parseResponse (serializeGetSegments (oneCharNames 32768) 7) ≠
        some (getSegmentsResponse (oneCharNames 32768) 7) :=
  ⟨oneCharNames_nodup (by decide),
    not_read_back 7 (fun _ h => length_name_le h) (length_oneCharNames 32768)⟩

end RzRouter
