import RzRouter.Library.Grammar
import RzRouter.Response

/-!
# The response grammar

How a client reads a response: the frame, its payload of a status and fields, and every field.
The router only writes responses, so this is the grammar of its readers.
-/

namespace RzRouter

open LittleEndian Grammar

/-- One field of a response payload. -/
structure ResponseField where
  id : Nat
  type : UInt8
  value : List UInt8
  deriving DecidableEq, Repr

structure ParsedResponse where
  clrid : UInt32
  status : List UInt8
  fields : List ResponseField
  deriving DecidableEq, Repr

def u16 : Parser UInt8 Nat := do
  let bytes ← take 2
  pure (leNat bytes)

def u32 : Parser UInt8 UInt32 := do
  let bytes ← take 4
  pure (u32FromBytes bytes)

/-- Field id, field type, value length, value. -/
def responseField : Parser UInt8 ResponseField := do
  let id ← u16
  let type ← item
  let len ← u32
  let value ← take len.toNat
  pure ⟨id, type, value⟩

/-- Status length, status, field count, and so many fields. -/
def responsePayload : Parser UInt8 (List UInt8 × List ResponseField) := do
  let statusLen ← item
  let status ← take statusLen.toNat
  let fieldCount ← u16
  let fields ← count responseField fieldCount
  pure (status, fields)

/-- Magic, clrid, payload length, and a payload that its fields fill. -/
def response : Parser UInt8 ParsedResponse := do
  expect SHARD_MAGIC
  let clrid ← u32
  let payloadLen ← u32
  let payload ← exactly payloadLen.toNat responsePayload
  pure ⟨clrid, payload.1, payload.2⟩

def parseResponse (frame : List UInt8) : Option ParsedResponse := whole response frame

/-! ## What the parts of the grammar read -/

theorem reads_u16 {n : Nat} (h : n < 2 ^ 16) : Reads u16 n (leBytes 2 n) := by
  have hread : leNat (leBytes 2 n) = n := by
    rw [leNat_leBytes]
    exact Nat.mod_eq_of_lt h
  have hmap := (reads_take (length_leBytes 2 n)).map leNat
  rwa [hread] at hmap

theorem reads_u32 (x : UInt32) : Reads u32 x (u32Bytes x) := by
  have hmap := (reads_take (length_u32Bytes x)).map u32FromBytes
  rwa [u32FromBytes_u32Bytes] at hmap

/-- The bytes of a field. -/
def ResponseField.bytes (f : ResponseField) : List UInt8 :=
  leBytes 2 f.id ++ ([f.type] ++ (u32Bytes (UInt32.ofNat f.value.length) ++ f.value))

/-- The id and the value length fit their fields. -/
structure ResponseField.Fits (f : ResponseField) : Prop where
  id_lt : f.id < 2 ^ 16
  value_lt : f.value.length < 2 ^ 32

theorem reads_responseField {f : ResponseField} (h : f.Fits) :
    Reads responseField f f.bytes := by
  have hlen : f.value.length = (UInt32.ofNat f.value.length).toNat :=
    (UInt32.toNat_ofNat_of_lt' h.value_lt).symm
  have hvalue := (reads_take hlen).map (fun value => (⟨f.id, f.type, value⟩ : ResponseField))
  exact (reads_u16 h.id_lt).bind ((reads_item f.type).bind ((reads_u32 _).bind hvalue))

/-- The bytes of a payload. -/
def payloadBytes (status : List UInt8) (fields : List ResponseField) : List UInt8 :=
  [UInt8.ofNat status.length] ++ (status ++ (leBytes 2 fields.length ++
    fields.flatMap ResponseField.bytes))

theorem reads_responsePayload {status : List UInt8} {fields : List ResponseField}
    (hstatus : status.length < 2 ^ 8) (hcount : fields.length < 2 ^ 16)
    (hfields : ∀ f ∈ fields, f.Fits) :
    Reads responsePayload (status, fields) (payloadBytes status fields) := by
  have hlen : status.length = (UInt8.ofNat status.length).toNat :=
    (UInt8.toNat_ofNat_of_lt' hstatus).symm
  have hread := (reads_count (fun f hf => reads_responseField (hfields f hf))).map
    (fun fields => (status, fields))
  exact (reads_item _).bind ((reads_take hlen).bind ((reads_u16 hcount).bind hread))

theorem parseResponse_responseFrame {clrid : UInt32} {payload : List UInt8}
    (h : payload.length < 2 ^ 32) : parseResponse (responseFrame clrid payload) =
      (whole responsePayload payload).map (fun p => ⟨clrid, p.1, p.2⟩) := by
  have hlen : payload.length = (UInt32.ofNat payload.length).toNat :=
    (UInt32.toNat_ofNat_of_lt' h).symm
  have hframe : responseFrame clrid payload = [SHARD_MAGIC] ++ (u32Bytes clrid ++
      (u32Bytes (UInt32.ofNat payload.length) ++ payload)) := rfl
  -- the length field delimits the payload, so it is read whole or not at all
  cases hwhole : whole responsePayload payload with
  | some p =>
    have hpayload := (reads_exactly hlen hwhole).map
      (fun p => (⟨clrid, p.1, p.2⟩ : ParsedResponse))
    rw [hframe]
    exact ((reads_expect SHARD_MAGIC).bind ((reads_u32 clrid).bind
      ((reads_u32 _).bind hpayload))).whole_eq
  | none =>
    have hrun : response.run (responseFrame clrid payload) = none := by
      have hpayload := run_exactly_eq_none hlen hwhole []
      rw [List.append_nil] at hpayload
      unfold response
      rw [hframe, (reads_expect SHARD_MAGIC).run_bind, (reads_u32 clrid).run_bind,
        (reads_u32 _).run_bind, StateT.run_bind, hpayload]
      rfl
    unfold parseResponse whole
    rw [hrun]
    rfl

/-- The field count of a payload is a `u16`. -/
theorem fields_lt_of_responsePayload {payload rest status : List UInt8}
    {fields : List ResponseField}
    (h : responsePayload.run payload = some ((status, fields), rest)) :
    fields.length < 2 ^ 16 := by
  obtain ⟨statusLen, s, -, h⟩ := run_bind_eq_some h
  obtain ⟨status', s, -, h⟩ := run_bind_eq_some h
  obtain ⟨fieldCount, s', hcount, h⟩ := run_bind_eq_some h
  obtain ⟨fields', s, hfields, h⟩ := run_bind_eq_some h
  obtain ⟨-, rfl⟩ : status' = status ∧ fields' = fields :=
    Prod.ext_iff.mp (congrArg Prod.fst (Option.some.inj h))
  obtain ⟨bytes, s'', htake, hnat⟩ := run_bind_eq_some hcount
  obtain rfl : leNat bytes = fieldCount := congrArg Prod.fst (Option.some.inj hnat)
  have hlt := leNat_lt bytes
  rw [length_of_take htake] at hlt
  rw [length_of_count hfields]
  exact hlt

end RzRouter
