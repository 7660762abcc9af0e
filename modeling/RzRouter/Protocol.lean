import RzRouter.Error
import RzRouter.Library.LittleEndian

/-!
# The wire protocol (`protocol.rs`)

Router frames as clients and edge routers send them, and the responses that the router builds
itself.  Buffers are byte lists; a length or offset is a natural number (`usize` is 64 bits wide,
and every sum below is bounded by a 32-bit field).  Byte reads carry their bounds, so an index out
of range cannot be written.
-/

namespace RzRouter

open LittleEndian

def ROUTER_MAGIC : UInt8 := 0xFE
def SHARD_MAGIC : UInt8 := 0xFF

/-- Special control segment used for application-level keepalives. -/
def KEEPALIVE_SEGMENT : String := "__keepalive__"

/-- `u32::to_le_bytes`. -/
def u32Bytes (x : UInt32) : List UInt8 := leBytes 4 x.toNat

/-- `u16::to_le_bytes`. -/
def u16Bytes (x : UInt16) : List UInt8 := leBytes 2 x.toNat

/-- `u32::from_le_bytes`. -/
def u32FromBytes (bs : List UInt8) : UInt32 := UInt32.ofNat (leNat bs)

theorem length_u32Bytes (x : UInt32) : (u32Bytes x).length = 4 := length_leBytes 4 x.toNat

theorem u32FromBytes_u32Bytes (x : UInt32) : u32FromBytes (u32Bytes x) = x := by
  have hlt : x.toNat < 256 ^ 4 := x.toNat_lt
  unfold u32FromBytes u32Bytes
  rw [leNat_leBytes, Nat.mod_eq_of_lt hlt, UInt32.ofNat_toNat]

theorem toNat_u32FromBytes {bs : List UInt8} (h : bs.length = 4) :
    (u32FromBytes bs).toNat = leNat bs := by
  have hlt := leNat_lt bs
  rw [h] at hlt
  exact UInt32.toNat_ofNat_of_lt' hlt

theorem u32Bytes_u32FromBytes {bs : List UInt8} (h : bs.length = 4) :
    u32Bytes (u32FromBytes bs) = bs := by
  unfold u32Bytes
  rw [toNat_u32FromBytes h, ← h, leBytes_leNat]

theorem u32Bytes_inj {x y : UInt32} (h : u32Bytes x = u32Bytes y) : x = y := by
  rw [← u32FromBytes_u32Bytes x, h, u32FromBytes_u32Bytes]

/-- `str::as_bytes`. -/
def strBytes (s : String) : List UInt8 := s.toByteArray.data.toList

/-- `std::str::from_utf8`. -/
def strFromBytes (bs : List UInt8) : Option String := String.fromUTF8? ⟨bs.toArray⟩

/-- `RouterFrame`: one decoded router frame. -/
structure RouterFrame where
  segment : String
  isWrite : Bool
  /-- Offset of the 4-byte clrid from the start of the frame. -/
  clridOffset : Nat
  originalClrid : UInt32
  frameLen : Nat
  deriving DecidableEq, Repr

/-- The largest `total_len` the decoder waits for. -/
def MAX_TOTAL_LEN : Nat := 16 * 1024 * 1024

/-- `try_decode_router`: one complete router frame at the front of `buf`; `none` asks for more
bytes, an error tells the caller to resynchronise. -/
def tryDecodeRouter (buf : List UInt8) : Except RZError (Option RouterFrame) :=
  if hlen5 : buf.length < 5 then .ok none
  else if buf[0] ≠ ROUTER_MAGIC then .error (.parseError "bad router magic")
  else
    let total := (u32FromBytes (slice buf 1 5 (by omega) (by omega))).toNat
    if total > MAX_TOTAL_LEN then .error (.parseError "frame too large")
    else if hlen : buf.length < 5 + total then .ok none
    else if hsmall : total < 2 then .error (.parseError "router total_len too small")
    else
      let segLen := buf[5].toNat
      if hpos : 6 + segLen ≥ 5 + total then
        .error (.parseError "segment length out of range")
      else
        match strFromBytes (slice buf 6 (6 + segLen) (by omega) (by omega)) with
        | none => .error (.parseError "segment not utf-8")
        | some segment =>
          let isWrite := buf[6 + segLen] = 0x01
          let shardStart := 6 + segLen + 1
          if hshard : shardStart + 9 > 5 + total then
            .error (.parseError "missing shard magic")
          else if buf[shardStart] ≠ SHARD_MAGIC then
            .error (.parseError "missing shard magic")
          else
            .ok (some
              { segment := segment
                isWrite := isWrite
                clridOffset := shardStart + 1
                originalClrid := u32FromBytes
                  (slice buf (shardStart + 1) (shardStart + 5) (by omega) (by omega))
                frameLen := 5 + total })

/-- `find_next_router_magic`: the first position of the magic byte from `start` on. -/
def findNextRouterMagic (buf : List UInt8) (start : Nat) : Option Nat :=
  ((buf.drop start).findIdx? (fun b => b == ROUTER_MAGIC)).map (fun p => start + p)

/-- The constant part of an error payload: status `ERROR`, one field with id 1 and type 1, and a
field length. -/
def ERROR_PAYLOAD : List UInt8 :=
  [5, 0x45, 0x52, 0x52, 0x4F, 0x52, 1, 0, 1, 0, 1, 4, 0, 0, 0]

/-- The three-digit message of an error code. -/
def errorMessage (errorCode : UInt8) : List UInt8 :=
  match errorCode with
  | 1 => [0x34, 0x30, 0x34]
  | 2 => [0x35, 0x30, 0x33]
  | 3 => [0x34, 0x30, 0x38]
  | 4 => [0x35, 0x30, 0x30]
  | _ => [0x35, 0x30, 0x30]

/-- `build_error_response`. -/
def buildErrorResponse (clrid : UInt32) (errorCode : UInt8) : List UInt8 :=
  let msgBytes := errorMessage errorCode
  let msgLen := msgBytes.length
  let payloadLen := ERROR_PAYLOAD.length + 4 + msgLen
  [0xFF] ++ u32Bytes clrid ++ u32Bytes (UInt32.ofNat payloadLen) ++ ERROR_PAYLOAD ++
    u32Bytes (UInt32.ofNat msgLen) ++ msgBytes

/-- `build_keepalive_frame`: a ping with the keepalive segment and an empty shard payload. -/
def buildKeepaliveFrame (clrid : UInt32) : List UInt8 :=
  let segment := strBytes KEEPALIVE_SEGMENT
  let segLen := UInt8.ofNat segment.length
  let totalLen := 1 + segLen.toNat + 1 + 9
  [ROUTER_MAGIC] ++ u32Bytes (UInt32.ofNat totalLen) ++ [segLen] ++ segment ++ [0x00] ++
    [SHARD_MAGIC] ++ u32Bytes clrid ++ [0, 0, 0, 0]

/-- The loop of `serialize_get_segments`: a key field and a count field for each segment.  The
field counter is a `u16` that wraps, as in the release profile. -/
def segmentFields : List String → List UInt8 × UInt16 → List UInt8 × UInt16
  | [], acc => acc
  | key :: keys, (buf, totalFields) =>
      let buf := buf ++ u16Bytes (totalFields + 1) ++ [0x01] ++
        u32Bytes (UInt32.ofNat (strBytes key).length) ++ strBytes key
      let totalFields := totalFields + 1
      let buf := buf ++ u16Bytes (totalFields + 1) ++ [0x03] ++ u32Bytes 4 ++ u32Bytes 0
      let totalFields := totalFields + 1
      segmentFields keys (buf, totalFields)

/-- Status `SUCCESS` with its length byte. -/
def SUCCESS_STATUS : List UInt8 := [7, 0x53, 0x55, 0x43, 0x43, 0x45, 0x53, 0x53]

/-- `serialize_get_segments`: all segments with count 0; the field count and the payload length
are patched in at the end. -/
def serializeGetSegments (segments : List String) (clrid : UInt32) : List UInt8 :=
  let buf := [0xFF] ++ u32Bytes clrid
  let payloadLenPos := buf.length
  let buf := buf ++ u32Bytes 0
  let payloadStart := buf.length
  let buf := buf ++ SUCCESS_STATUS
  let fieldsPos := buf.length
  let buf := buf ++ u16Bytes 0
  let (buf, totalFields) := segmentFields segments (buf, 0)
  let buf := overwrite buf fieldsPos (u16Bytes totalFields)
  let payloadLen := UInt32.ofNat (buf.length - payloadStart)
  overwrite buf payloadLenPos (u32Bytes payloadLen)

/-- `serialize_codecs`: one raw field with the joined codec names. -/
def serializeCodecs (clrid : UInt32) (codecBytes : List UInt8) : List UInt8 :=
  let buf := [0xFF] ++ u32Bytes clrid
  let payloadLenPos := buf.length
  let buf := buf ++ u32Bytes 0
  let payloadStart := buf.length
  let buf := buf ++ SUCCESS_STATUS
  let fieldCntPos := buf.length
  let buf := buf ++ u16Bytes 0
  let buf := buf ++ u16Bytes 1 ++ [0x09] ++ u32Bytes (UInt32.ofNat codecBytes.length) ++ codecBytes
  let buf := overwrite buf fieldCntPos (u16Bytes 1)
  let payloadLen := UInt32.ofNat (buf.length - payloadStart)
  overwrite buf payloadLenPos (u32Bytes payloadLen)

end RzRouter
