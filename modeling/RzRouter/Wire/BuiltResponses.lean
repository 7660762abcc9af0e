import RzRouter.TcpServer
import RzRouter.Wire.ResponseGrammar

/-!
# Error and codec responses under the response grammar

A codec response is read back whole.  The constant part of an error payload declares a field value
of four bytes, but the message comes with a length of its own: a reader takes the length for the
value, and three bytes are left over.
-/

namespace RzRouter

open LittleEndian Grammar

/-- A response that the router builds for an error, or from its rate features. -/
inductive BuiltResponse
  | error (e : ForwardError)
  | codecs (rateFeatures : List String)
  deriving DecidableEq, Repr

/-- The three digits that stand for an error. -/
def ForwardError.digits : ForwardError → String
  | unknownSegment _ => "404"
  | networkError => "503"
  | timeout => "408"
  | internal _ => "500"

/-- The value of a codec response. -/
def joined (rateFeatures : List String) : List UInt8 := strBytes (",".intercalate rateFeatures)

namespace BuiltResponse

/-- The frame that the router writes. -/
def frame (clrid : UInt32) : BuiltResponse → List UInt8
  | error e => buildErrorResponse clrid e.code
  | codecs rateFeatures => serializeCodecs clrid (joined rateFeatures)

/-- The response that its reader should see. -/
def expected (clrid : UInt32) : BuiltResponse → ParsedResponse
  | error e => ⟨clrid, strBytes "ERROR", [⟨1, 0x01, strBytes e.digits⟩]⟩
  | codecs rateFeatures => ⟨clrid, strBytes "SUCCESS", [⟨1, 0x09, joined rateFeatures⟩]⟩

/-- The payload length fits its field. -/
def Fits : BuiltResponse → Prop
  | error _ => True
  | codecs rateFeatures => (joined rateFeatures).length < 2 ^ 32 - 17

end BuiltResponse

theorem reads_oneField {status : List UInt8} {f : ResponseField} (hstatus : status.length < 2 ^ 8)
    (h : f.Fits) : Reads responsePayload (status, [f]) (payloadBytes status [f]) := by
  refine reads_responsePayload hstatus (by decide : 1 < 2 ^ 16) ?_
  intro f' hf'
  rw [List.mem_singleton.mp hf']
  exact h

/-- The value of the field is the message length, and the message is left over. -/
theorem whole_errorPayload (errorCode : UInt8) :
    whole responsePayload (ERROR_PAYLOAD ++ u32Bytes 3 ++ errorMessage errorCode) = none := by
  have hread : Reads responsePayload (strBytes "ERROR", [⟨1, 0x01, u32Bytes 3⟩])
      (ERROR_PAYLOAD ++ u32Bytes 3) :=
    reads_oneField (by decide) ⟨by decide, by decide⟩
  apply hread.whole_eq_none
  intro hnil
  have hlen := length_errorMessage errorCode
  rw [hnil] at hlen
  cases hlen

theorem parseResponse_error (clrid : UInt32) (errorCode : UInt8) :
    parseResponse (buildErrorResponse clrid errorCode) = none := by
  rw [buildErrorResponse_eq, parseResponse_responseFrame, whole_errorPayload]
  · rfl
  · rw [List.length_append, length_errorMessage]
    decide

theorem parseResponse_codecs (clrid : UInt32) {codecBytes : List UInt8}
    (h : codecBytes.length < 2 ^ 32 - 17) :
    parseResponse (serializeCodecs clrid codecBytes) =
      some ⟨clrid, strBytes "SUCCESS", [⟨1, 0x09, codecBytes⟩]⟩ := by
  have hbytes : SUCCESS_STATUS ++ u16Bytes 1 ++ (u16Bytes 1 ++ [0x09] ++
      u32Bytes (UInt32.ofNat codecBytes.length) ++ codecBytes) =
      payloadBytes (strBytes "SUCCESS") [⟨1, 0x09, codecBytes⟩] := by
    unfold payloadBytes ResponseField.bytes
    simp only [List.flatMap_cons, List.flatMap_nil, List.append_nil, List.append_assoc]
    rfl
  have hread : Reads responsePayload (strBytes "SUCCESS", [⟨1, 0x09, codecBytes⟩])
      (payloadBytes (strBytes "SUCCESS") [⟨1, 0x09, codecBytes⟩]) :=
    reads_oneField (by decide) ⟨(by decide : 1 < 2 ^ 16), h.trans (by decide)⟩
  rw [serializeCodecs_eq, parseResponse_responseFrame, hbytes, hread.whole_eq]
  · rfl
  · simp only [List.length_append, length_u32Bytes]
    change 8 + 2 + (2 + 1 + 4 + codecBytes.length) < 2 ^ 32
    omega

/-- A built response is read back as it should be exactly when it is a codec response. -/
theorem built_response_parsed_iff (clrid : UInt32) (r : BuiltResponse) (h : r.Fits) :
    parseResponse (r.frame clrid) = some (r.expected clrid) ↔
      ∃ rateFeatures, r = .codecs rateFeatures := by
  cases r with
  | error e =>
    have hnone : parseResponse ((BuiltResponse.error e).frame clrid) = none :=
      parseResponse_error clrid e.code
    rw [hnone]
    exact ⟨nofun, fun ⟨_, hcodecs⟩ => nomatch hcodecs⟩
  | codecs rateFeatures =>
    exact ⟨fun _ => ⟨rateFeatures, rfl⟩, fun _ => parseResponse_codecs clrid h⟩

theorem built_response_parsed_iff_codecs :
    (BuiltResponse.codecs ["breakfast", "late-checkout"]).Fits ∧
      (parseResponse ((BuiltResponse.codecs ["breakfast", "late-checkout"]).frame 7) =
          some ((BuiltResponse.codecs ["breakfast", "late-checkout"]).expected 7) ↔
        ∃ rateFeatures, BuiltResponse.codecs ["breakfast", "late-checkout"] =
          .codecs rateFeatures) := by
  have h : (BuiltResponse.codecs ["breakfast", "late-checkout"]).Fits := by
    change (joined ["breakfast", "late-checkout"]).length < 2 ^ 32 - 17
    decide
  exact ⟨h, built_response_parsed_iff 7 _ h⟩

/-- The response to a call that timed out is no response. -/
theorem timeout_response_rejected :
    parseResponse ((BuiltResponse.error .timeout).frame 7) = none ∧
      ¬ ∀ (clrid : UInt32) (e : ForwardError),
        parseResponse (buildErrorResponse clrid e.code) =
          some ((BuiltResponse.error e).expected clrid) := by
  have hnone : parseResponse ((BuiltResponse.error .timeout).frame 7) = none := by decide
  refine ⟨hnone, fun h => ?_⟩
  have hsome : parseResponse ((BuiltResponse.error .timeout).frame 7) = some _ := h 7 .timeout
  rw [hnone] at hsome
  cases hsome

end RzRouter
