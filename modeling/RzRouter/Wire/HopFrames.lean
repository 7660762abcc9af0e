import RzRouter.Library.Scanner
import RzRouter.Library.Transition
import RzRouter.Network.Stream

/-!
# The frames of a hop's stream

The reader task refills its buffer in two loops and resynchronises one byte at a time.  What it
extracts does not depend on where the reads fall: it is what the parser of the whole stream finds.
-/

namespace RzRouter

open LittleEndian Scanner

/-- The frames of a whole stream, with their clrids: while nine bytes are left, one that is not the
magic is dropped, and a frame is taken if it is there. -/
def referenceResponses (stream : List UInt8) : List (UInt32 × List UInt8) :=
  if h9 : stream.length < 9 then []
  else if stream[0]? ≠ some 0xFF then referenceResponses (stream.drop 1)
  else
    let clrId := u32FromBytes ((stream.drop 1).take 4)
    let payloadLen := (u32FromBytes ((stream.drop 5).take 4)).toNat
    if stream.length < 9 + payloadLen then []
    else (clrId, stream.take (9 + payloadLen)) :: referenceResponses (stream.drop (9 + payloadLen))
termination_by stream.length
decreasing_by all_goals (rw [List.length_drop]; omega)

/-! ## The reader's checks as a decoder -/

theorem scanResponse_append {buf : List UInt8} (rest : List UInt8) (h : scanResponse buf ≠ .more) :
    scanResponse (buf ++ rest) =
      match scanResponse buf with
      | .frame clrId frame behind => .frame clrId frame (behind ++ rest)
      | scan => scan := by
  unfold scanResponse at h ⊢
  by_cases h9 : buf.length < 9
  · rw [dif_pos h9] at h
    exact absurd rfl h
  have h9' : ¬ (buf ++ rest).length < 9 := by
    rw [List.length_append]
    omega
  have hlen : 0 < (buf ++ rest).length := by omega
  -- the header lies inside the first nine bytes, which the longer buffer shares
  have hget : (buf ++ rest)[0] = buf[0] := List.getElem_append_left (by omega)
  rw [dif_neg h9] at h
  rw [dif_neg h9', dif_neg h9]
  simp only [hget, slice_append buf rest 1 5 (by omega) (by omega) (by omega),
    slice_append buf rest 5 9 (by omega) (by omega) (by omega)] at h ⊢
  by_cases hmagic : buf[0] ≠ 0xFF
  · rw [if_pos hmagic, if_pos hmagic]
  rw [if_neg hmagic] at h ⊢
  rw [if_neg hmagic]
  by_cases hfull : buf.length < 9 + (u32FromBytes (slice buf 5 9 (by omega) (by omega))).toNat
  · rw [if_pos hfull] at h
    exact absurd rfl h
  have hfull' : ¬ (buf ++ rest).length <
      9 + (u32FromBytes (slice buf 5 9 (by omega) (by omega))).toNat := by
    rw [List.length_append]
    omega
  rw [if_neg hfull', if_neg hfull]
  simp only
  rw [List.take_append_of_le_length (by omega), List.drop_append_of_le_length (by omega)]

/-- What the checks say about the front of the buffer. -/
def ResponseScan.verdict : ResponseScan → Verdict UInt32
  | more => .more
  | skip => .bad
  | frame clrId bytes _ => .frame clrId bytes.length

theorem verdict_append (buf rest : List UInt8) (h : (scanResponse buf).verdict ≠ .more) :
    (scanResponse (buf ++ rest)).verdict = (scanResponse buf).verdict := by
  have hne : scanResponse buf ≠ .more := by
    intro hmore
    rw [hmore] at h
    exact h rfl
  rw [scanResponse_append rest hne]
  cases scanResponse buf <;> rfl

theorem verdict_fits (buf : List UInt8) (clrId : UInt32) (n : Nat)
    (h : (scanResponse buf).verdict = .frame clrId n) : 0 < n ∧ n ≤ buf.length := by
  cases hscan : scanResponse buf with
  | more =>
    rw [hscan] at h
    cases h
  | skip =>
    rw [hscan] at h
    cases h
  | frame clrId' frame rest =>
    rw [hscan] at h
    cases h
    obtain ⟨rfl, payload, -, rfl⟩ := frame_of_scanResponse hscan
    rw [List.length_append, length_responseFrame]
    omega

/-- The decoder of a hop's stream. -/
def responseDecoder : Decoder UInt8 UInt32 where
  marks := fun b => b == SHARD_MAGIC
  decode := fun buf => (scanResponse buf).verdict
  stable := verdict_append
  fits := verdict_fits

theorem referenceResponses_eq (stream : List UInt8) :
    referenceResponses stream =
      match scanResponse stream with
      | .more => []
      | .skip => referenceResponses (stream.drop 1)
      | .frame clrId frame rest => (clrId, frame) :: referenceResponses rest := by
  rw [referenceResponses]
  unfold scanResponse
  by_cases h9 : stream.length < 9
  · rw [dif_pos h9, dif_pos h9]
  rw [dif_neg h9, dif_neg h9]
  have hhead : stream[0]? ≠ some 0xFF ↔ stream[0] ≠ 0xFF := by
    rw [List.getElem?_eq_getElem (by omega), ne_eq, Option.some.injEq]
  by_cases hmagic : stream[0] ≠ 0xFF
  · rw [if_pos (hhead.mpr hmagic), if_pos hmagic]
  rw [if_neg (fun h => hmagic (hhead.mp h)), if_neg hmagic]
  -- the fields are the slices of the reader's checks
  change (if stream.length < 9 + (u32FromBytes (slice stream 5 9 (by omega) (by omega))).toNat
    then _ else _) = _
  by_cases hfull : stream.length < 9 + (u32FromBytes (slice stream 5 9 (by omega) (by omega))).toNat
  · rw [if_pos hfull, if_pos hfull]
  · rw [if_neg hfull, if_neg hfull]
    rfl

theorem decode_of_scanResponse (buf : List UInt8) :
    responseDecoder.decode buf = (scanResponse buf).verdict := rfl

theorem scanResponse_of_short {buf : List UInt8} (h : buf.length < 9) :
    scanResponse buf = .more := by
  unfold scanResponse
  rw [dif_pos h]

/-- A buffer of nine bytes that is not skipped begins with the magic. -/
theorem marks_of_scanResponse {b : UInt8} {rest : List UInt8} (h9 : 9 ≤ (b :: rest).length)
    (h : scanResponse (b :: rest) ≠ .skip) : responseDecoder.marks b = true := by
  by_contra hb
  apply h
  have hmagic : (b :: rest)[0] ≠ 0xFF := by
    simpa [responseDecoder, SHARD_MAGIC] using hb
  unfold scanResponse
  rw [dif_neg (by omega), if_pos hmagic]

/-- A buffer that waits for more bytes has no frame behind garbage either. -/
theorem decode_skip_of_scanResponse {buf : List UInt8} (h : scanResponse buf = .more) :
    responseDecoder.decode (responseDecoder.skip buf) = .more := by
  by_cases h9 : buf.length < 9
  · have hshort := Nat.lt_of_le_of_lt (responseDecoder.length_skip_le buf) h9
    rw [decode_of_scanResponse, scanResponse_of_short hshort]
    rfl
  · cases buf with
    | nil => exact absurd (Nat.zero_lt_succ 8) h9
    | cons b rest =>
      have hmarks := marks_of_scanResponse (not_lt.mp h9) (by rw [h]; nofun)
      rw [responseDecoder.skip_cons_of_marks hmarks, decode_of_scanResponse, h]
      rfl

theorem parse_eq_referenceResponses (stream : List UInt8) :
    (responseDecoder.parse stream).1 = referenceResponses stream := by
  -- both drop a byte or a frame from the front, so the length goes down
  induction hlen : stream.length using Nat.strongRecOn generalizing stream with
  | ind k ih =>
    rw [referenceResponses_eq]
    cases hscan : scanResponse stream with
    | more => rw [responseDecoder.parse_of_more (decode_skip_of_scanResponse hscan)]
    | skip =>
      obtain ⟨b, rest, rfl, hb⟩ := magic_of_scanResponse hscan
      have hmarks : responseDecoder.marks b = false := beq_eq_false_iff_ne.mpr hb
      rw [responseDecoder.parse_congr (responseDecoder.skip_cons_of_not_marks hmarks)]
      exact ih rest.length (by rw [← hlen, List.length_cons]; omega) rest rfl
    | frame clrId frame rest =>
      obtain ⟨rfl, payload, -, rfl⟩ := frame_of_scanResponse hscan
      have hdecode : responseDecoder.decode (responseFrame clrId payload ++ rest) =
          .frame clrId (responseFrame clrId payload).length := by
        rw [decode_of_scanResponse, hscan]
        rfl
      have hlen' : rest.length < k := by
        rw [← hlen, List.length_append, length_responseFrame]
        omega
      have hskip : responseDecoder.skip (responseFrame clrId payload ++ rest) =
          SHARD_MAGIC :: _ := responseDecoder.skip_cons_of_marks rfl
      rw [responseDecoder.parse_of_frame hskip hdecode]
      change (clrId, (responseFrame clrId payload ++ rest).take _) ::
        (responseDecoder.parse ((responseFrame clrId payload ++ rest).drop _)).1 = _
      rw [List.take_left, List.drop_left, ih rest.length hlen' rest rfl]

/-! ## The reader's run -/

/-- What happens to a connection, as its reader sees it. -/
inductive HopEvent
  /-- Bytes of the hop reach the socket. -/
  | arrive (bytes : List UInt8)
  /-- The other tasks change the registered waiters and the closed flag. -/
  | others (demux : ConnDemux) (closed : Bool)
  | reader (choice : TaskChoice)

/-- A connection, with the bytes that its reader has read and the frames that it has extracted: the
pairs that its task has taken up, to find the waiter of the id and to deliver the frame to it. -/
structure ReaderRun where
  conn : Conn
  received : List UInt8
  pairs : List (UInt32 × List UInt8)

/-- The id and the frame that the task has just taken up; it removes the waiter next. -/
def Reader.takenUp : Reader → List (UInt32 × List UInt8)
  | remove _ clrId frame => [(clrId, frame)]
  | _ => []

@[simp] theorem Reader.takenUp_scan : Reader.scan.takenUp = [] := rfl
@[simp] theorem Reader.takenUp_remove (index : Nat) (clrId : UInt32) (frame : List UInt8) :
    (Reader.remove index clrId frame).takenUp = [(clrId, frame)] := rfl

namespace ReaderRun

def start (capacity : Nat) : ReaderRun := ⟨Conn.new capacity, [], []⟩

/-- The bytes that a step of the reader takes from the socket. -/
def bytesRead (c : Conn) (choice : TaskChoice) : List UInt8 :=
  match c.reader, choice with
  | .scan, .read n => c.incoming.take n
  | _, _ => []

def step (r : ReaderRun) : HopEvent → Option ReaderRun
  | .arrive bytes => some { r with conn := { r.conn with incoming := r.conn.incoming ++ bytes } }
  | .others demux closed => some { r with conn := { r.conn with demux := demux, closed := closed } }
  | .reader choice => (readerStep r.conn choice).map (fun result =>
      { conn := result.1
        received := r.received ++ bytesRead r.conn choice
        pairs := r.pairs ++ result.1.reader.takenUp })

end ReaderRun

/-- The bytes that the hop has sent. -/
def arrived (es : List HopEvent) : List UInt8 :=
  es.flatMap (fun e =>
    match e with
    | .arrive bytes => bytes
    | _ => [])

/-- The reader has left its loop. -/
def Reader.stopped : Reader → Bool
  | storeClosed | failAll _ | ended => true
  | _ => false

/-- The reader waits for more bytes, or has stopped. -/
def Conn.Drained (c : Conn) : Prop :=
  (c.reader = .scan ∧ scanResponse c.buf = .more) ∨ c.reader.stopped = true

/-- What a step of the reader does to its buffer. -/
inductive BufferStep (c c' : Conn) (choice : TaskChoice) : Prop
  | read (n : Nat) (hread : ReaderRun.bytesRead c choice = c.incoming.take n)
      (hreader : c'.reader = .scan)
      (hbuf : c'.buf = c.buf ++ c.incoming.take n) (hincoming : c'.incoming = c.incoming.drop n)
  | skip (hscan : scanResponse c.buf = .skip) (hread : ReaderRun.bytesRead c choice = [])
      (hreader : c'.reader = .scan) (hbuf : c'.buf = c.buf.drop 1)
      (hincoming : c'.incoming = c.incoming)
  | extract (clrId : UInt32) (frame : List UInt8)
      (hscan : scanResponse c.buf = .frame clrId frame c'.buf)
      (hread : ReaderRun.bytesRead c choice = [])
      (hreader : c'.reader = .remove c.extracted clrId frame) (hincoming : c'.incoming = c.incoming)
  | still (hbuf : c'.buf = c.buf) (hincoming : c'.incoming = c.incoming)
      (hread : ReaderRun.bytesRead c choice = []) (hpairs : c'.reader.takenUp = [])
      (hstopped : c'.reader.stopped = true →
        c.reader.stopped = true ∨ scanResponse c.buf = .more)

theorem nothing_of_not_scan {c : Conn} (choice : TaskChoice) (h : c.reader ≠ .scan) :
    ReaderRun.bytesRead c choice = [] := by
  unfold ReaderRun.bytesRead
  cases hr : c.reader with
  | scan => exact absurd hr h
  | _ => rfl

theorem bufferStep {c c' : Conn} {choice : TaskChoice} {notice : Option Notice}
    (h : readerStep c choice = some (c', notice)) : BufferStep c c' choice := by
  cases readerStep_cases h with
  | read n hreader hscan hn =>
    refine .read n ?_ hreader rfl rfl
    simp only [ReaderRun.bytesRead, hreader]
  | stop choice hchoice hreader hscan =>
    refine .still rfl rfl ?_ rfl (fun _ => Or.inr hscan)
    rcases hchoice with ⟨rfl, -⟩ | rfl <;> simp only [ReaderRun.bytesRead, hreader]
  | skip hreader hscan =>
    refine .skip hscan ?_ hreader rfl rfl
    simp only [ReaderRun.bytesRead, hreader]
  | extract clrId frame rest hreader hscan =>
    refine .extract clrId frame hscan ?_ rfl rfl
    simp only [ReaderRun.bytesRead, hreader]
  | find index clrId frame tx hreader hremove | unknown index clrId frame hreader hremove
  | deliver index tx frame hreader =>
    -- the frame goes to its waiter or is dropped, and the buffer stays
    have hread := nothing_of_not_scan .proceed (c := c) (by rw [hreader]; exact Reader.noConfusion)
    exact .still rfl rfl hread rfl (fun hstop => absurd hstop Bool.false_ne_true)
  | storeClosed hreader =>
    have hread := nothing_of_not_scan .proceed (c := c) (by rw [hreader]; exact Reader.noConfusion)
    exact .still rfl rfl hread rfl (fun _ => Or.inl (by rw [hreader]; rfl))
  | failAll choice pc demux pc' notice hreader hstep =>
    have hread := nothing_of_not_scan choice (c := c) (by rw [hreader]; exact Reader.noConfusion)
    refine .still rfl rfl hread ?_ (fun _ => Or.inl (by rw [hreader]; rfl))
    cases pc' <;> rfl

/-- The reader has extracted the frames of what it has read, as far as it has come. -/
structure ReaderRun.Extracts (r : ReaderRun) : Prop where
  tracks : responseDecoder.Tracks r.received r.pairs r.conn.buf
  stopped : r.conn.reader.stopped = true → scanResponse r.conn.buf = .more

theorem ReaderRun.extracts_start (capacity : Nat) : (ReaderRun.start capacity).Extracts where
  tracks := responseDecoder.tracks_nil
  stopped := nofun

theorem ReaderRun.extracts_step {r r' : ReaderRun} {e : HopEvent} (h : r.Extracts)
    (hstep : r.step e = some r') : r'.Extracts := by
  cases e with
  | arrive bytes =>
    cases hstep
    exact ⟨h.tracks, h.stopped⟩
  | others demux closed =>
    cases hstep
    exact ⟨h.tracks, h.stopped⟩
  | reader choice =>
    obtain ⟨⟨c', notice⟩, hreader, rfl⟩ := Option.map_eq_some_iff.mp hstep
    obtain ⟨htracks, hstopped⟩ := h
    cases bufferStep hreader with
    | read n hread hscan hbuf =>
      refine ⟨?_, fun h => ?_⟩
      · simp only
        rw [hread, hscan, hbuf, Reader.takenUp_scan, List.append_nil]
        exact htracks.read _
      · simp only at h
        rw [hscan] at h
        cases h
    -- one byte that is not the magic: the scanner would skip it
    | skip hskip hread hscan hbuf =>
      refine ⟨?_, fun h => ?_⟩
      · obtain ⟨b, rest, hcons, hb⟩ := magic_of_scanResponse hskip
        simp only
        rw [hread, hscan, hbuf, Reader.takenUp_scan, List.append_nil, List.append_nil]
        apply htracks.drop
        rw [hcons, responseDecoder.skip_cons_of_not_marks (beq_eq_false_iff_ne.mpr hb)]
        rfl
      · simp only at h
        rw [hscan] at h
        cases h
    | extract clrId frame hscan hread hreader =>
      refine ⟨?_, fun h => ?_⟩
      · obtain ⟨hbuf, payload, -, hframe⟩ := frame_of_scanResponse hscan
        have hdecode : responseDecoder.decode r.conn.buf = .frame clrId frame.length := by
          rw [decode_of_scanResponse, hscan]
          rfl
        simp only
        rw [hread, hreader, Reader.takenUp_remove, List.append_nil]
        generalize c'.buf = rest at hbuf
        rw [hbuf, hframe] at htracks hdecode
        -- the frame cut out is the next one the parser finds
        have htracks' := htracks.frame rfl hdecode
        change responseDecoder.Tracks _ (_ ++ [(clrId, (responseFrame clrId payload ++ rest).take _)])
          ((responseFrame clrId payload ++ rest).drop _) at htracks'
        rw [List.take_left, List.drop_left] at htracks'
        rw [hframe]
        exact htracks'
      · simp only at h
        rw [hreader] at h
        cases h
    | still hbuf hincoming hread hpairs hstill =>
      refine ⟨?_, fun h => ?_⟩
      · simp only
        rw [hread, hpairs, hbuf, List.append_nil, List.append_nil]
        exact htracks
      · simp only at h ⊢
        rw [hbuf]
        exact (hstill h).elim hstopped id

/-- What the hop has sent is what was read and what is still on its way. -/
theorem ReaderRun.arrived_step {r r' : ReaderRun} {e : HopEvent} (hstep : r.step e = some r') :
    r'.received ++ r'.conn.incoming = r.received ++ r.conn.incoming ++ arrived [e] := by
  cases e with
  | arrive bytes =>
    cases hstep
    simp [arrived]
  | others demux closed =>
    cases hstep
    simp [arrived]
  | reader choice =>
    obtain ⟨⟨c', notice⟩, hreader, rfl⟩ := Option.map_eq_some_iff.mp hstep
    have hnone : arrived [.reader choice] = [] := rfl
    rw [hnone, List.append_nil]
    simp only
    cases bufferStep hreader with
    | read n hread hscan hbuf hincoming =>
      rw [hread, hincoming, List.append_assoc, List.take_append_drop]
    | skip _ hread _ _ hincoming => rw [hread, hincoming, List.append_nil]
    | extract _ _ _ hread _ hincoming => rw [hread, hincoming, List.append_nil]
    | still _ hincoming hread => rw [hread, hincoming, List.append_nil]

theorem ReaderRun.arrived_run {r r' : ReaderRun} {es : List HopEvent}
    (hrun : Transition.run ReaderRun.step r es = some r') :
    r'.received ++ r'.conn.incoming = r.received ++ r.conn.incoming ++ arrived es := by
  induction es generalizing r with
  | nil =>
    cases hrun
    exact (List.append_nil _).symm
  | cons e es ih =>
    obtain ⟨t, ht, hrest⟩ := (Transition.run_cons_eq_some _ _ _ _).mp hrun
    rw [ih hrest, arrived_step ht, List.append_assoc]
    simp [arrived]

/-! ## The reader processes what it has read -/

/-- Where the reader is between two turns of its loop. -/
def Reader.rank : Reader → Nat
  | remove _ _ _ => 2
  | deliver _ _ _ => 1
  | _ => 0

/-- A reader with something to do does it, without another read. -/
theorem reader_proceeds {c : Conn} (h : ¬ c.Drained) :
    ∃ c' notice, readerStep c .proceed = some (c', notice) ∧
      3 * c'.buf.length + c'.reader.rank < 3 * c.buf.length + c.reader.rank := by
  unfold readerStep
  cases hr : c.reader with
  | scan =>
    simp only
    cases hscan : scanResponse c.buf with
    | more => exact absurd (Or.inl ⟨hr, hscan⟩) h
    | skip =>
      obtain ⟨b, rest, hbuf, -⟩ := magic_of_scanResponse hscan
      refine ⟨_, _, rfl, ?_⟩
      simp only [hbuf, Reader.rank, List.drop_succ_cons, List.drop_zero, List.length_cons]
      omega
    | frame clrId frame rest =>
      obtain ⟨hbuf, payload, -, hframe⟩ := frame_of_scanResponse hscan
      refine ⟨_, _, rfl, ?_⟩
      rw [hbuf, hframe, List.length_append, length_responseFrame]
      simp only [Reader.rank]
      omega
  | remove index clrId frame =>
    simp only [if_true]
    split
    · refine ⟨_, _, rfl, ?_⟩
      simp only [Reader.rank]
      omega
    · refine ⟨_, _, rfl, ?_⟩
      simp only [Reader.rank]
      omega
  | deliver index tx frame =>
    refine ⟨_, _, rfl, ?_⟩
    simp only [Reader.rank]
    omega
  | _ => exact absurd (Or.inr (by rw [hr]; rfl)) h

/-- Whatever a read has brought, the reader processes it to the end. -/
theorem reader_drains (r : ReaderRun) :
    ∃ n r', Transition.run ReaderRun.step r (List.replicate n (.reader .proceed)) = some r' ∧
      r'.conn.Drained ∧ r'.received = r.received := by
  -- the buffer shrinks, or the reader comes closer to its loop head
  induction hrank : 3 * r.conn.buf.length + r.conn.reader.rank using Nat.strongRecOn
    generalizing r with
  | ind k ih =>
    by_cases hdrained : r.conn.Drained
    · exact ⟨0, r, rfl, hdrained, rfl⟩
    · obtain ⟨c', notice, hstep, hlt⟩ := reader_proceeds hdrained
      have hread : ReaderRun.bytesRead r.conn .proceed = [] := by
        unfold ReaderRun.bytesRead
        cases r.conn.reader <;> rfl
      obtain ⟨n, r', hrun, hdrained', hreceived⟩ := ih _ (hrank ▸ hlt)
        ⟨c', r.received ++ ReaderRun.bytesRead r.conn .proceed, r.pairs ++ c'.reader.takenUp⟩ rfl
      refine ⟨n + 1, r', ?_, hdrained', ?_⟩
      · refine (Transition.run_cons_eq_some _ _ _ _).mpr ⟨_, ?_, hrun⟩
        change (readerStep r.conn .proceed).map _ = _
        rw [hstep]
        rfl
      · rw [hreceived]
        simp only
        rw [hread, List.append_nil]

/-! ## Streams of well-formed frames -/

/-- The frame at the front of a stream is taken as it is. -/
theorem scanResponse_responseFrame (clrid : UInt32) {payload : List UInt8}
    (h : payload.length < 2 ^ 32) (rest : List UInt8) :
    scanResponse (responseFrame clrid payload ++ rest) =
      .frame clrid (responseFrame clrid payload) rest := by
  generalize hbuf : responseFrame clrid payload ++ rest = buf
  replace hbuf := hbuf.symm
  have hlen : buf.length = 9 + payload.length + rest.length := by
    rw [hbuf, List.length_append, length_responseFrame]
  -- the fields at their places in the buffer
  have hfields : buf = SHARD_MAGIC :: (u32Bytes clrid ++
      (u32Bytes (UInt32.ofNat payload.length) ++ (payload ++ rest))) := by
    rw [hbuf, responseFrame, List.cons_append, List.append_assoc, List.append_assoc]
  have hmagic : buf[0] = 0xFF :=
    getElem_eq_of_append (show buf = [] ++ (SHARD_MAGIC :: _) from hfields) rfl (i := 0) (by omega)
  have hclrid : slice buf 1 5 (by omega) (by omega) = u32Bytes clrid :=
    slice_eq_of_append (show buf = [SHARD_MAGIC] ++ (u32Bytes clrid ++ _) from hfields) rfl
      (length_u32Bytes clrid) _ _
  have hpayload : slice buf 5 9 (by omega) (by omega) = u32Bytes (UInt32.ofNat payload.length) :=
    slice_eq_of_append (show buf = (SHARD_MAGIC :: u32Bytes clrid) ++
      (u32Bytes (UInt32.ofNat payload.length) ++ _) from hfields)
      (congrArg (· + 1) (length_u32Bytes clrid)) (length_u32Bytes _) _ _
  have htake : 9 + payload.length = (responseFrame clrid payload).length :=
    (length_responseFrame clrid payload).symm
  unfold scanResponse
  rw [dif_neg (by omega), if_neg (not_not.mpr hmagic)]
  simp only [hclrid, hpayload, u32FromBytes_u32Bytes, UInt32.toNat_ofNat_of_lt' h]
  rw [if_neg (by omega), htake, hbuf, List.take_left, List.drop_left]

/-- A stream of well-formed frames is cut back into these frames. -/
theorem referenceResponses_frames {frames : List (UInt32 × List UInt8)}
    (h : ∀ f ∈ frames, f.2.length < 2 ^ 32) :
    referenceResponses (frames.map (fun f => responseFrame f.1 f.2)).flatten =
      frames.map (fun f => (f.1, responseFrame f.1 f.2)) := by
  induction frames with
  | nil =>
    rw [referenceResponses_eq, scanResponse_of_short (by decide)]
    rfl
  | cons f frames ih =>
    rw [List.map_cons, List.flatten_cons, referenceResponses_eq,
      scanResponse_responseFrame f.1 (h f List.mem_cons_self)]
    simp only
    rw [ih (fun g hg => h g (List.mem_cons_of_mem f hg)), List.map_cons]

/-- However the stream of a hop is cut into reads, and whatever the other tasks do meanwhile: the
reader extracts the frames that the whole-stream parser finds, in order, and has extracted all of
them when it waits for the next read or has stopped.  Between two reads it always gets there. -/
theorem hop_frames_extracted (capacity : Nat) (es : List HopEvent) (r : ReaderRun)
    (hrun : Transition.run ReaderRun.step (ReaderRun.start capacity) es = some r) :
    r.received ++ r.conn.incoming = arrived es ∧
    r.pairs <+: referenceResponses (arrived es) ∧
    (r.conn.Drained → r.pairs = referenceResponses r.received) ∧
    (∀ frames : List (UInt32 × List UInt8), (∀ f ∈ frames, f.2.length < 2 ^ 32) →
      r.conn.Drained → r.received = (frames.map (fun f => responseFrame f.1 f.2)).flatten →
      r.pairs = frames.map (fun f => (f.1, responseFrame f.1 f.2))) ∧
    ∃ n r', Transition.run ReaderRun.step r (List.replicate n (.reader .proceed)) = some r' ∧
      r'.conn.Drained ∧ r'.received = r.received := by
  have hextracts := Transition.invariant_of_run
    (fun _ _ _ h hstep => ReaderRun.extracts_step h hstep)
    (ReaderRun.extracts_start capacity) hrun
  have harrived : r.received ++ r.conn.incoming = arrived es := ReaderRun.arrived_run hrun
  have hdrained : r.conn.Drained → r.pairs = referenceResponses r.received := by
    intro h
    -- a reader that waits cannot decide on what is in its buffer
    have hmore : scanResponse r.conn.buf = .more := h.elim (fun hscan => hscan.2) hextracts.stopped
    rw [← parse_eq_referenceResponses,
      hextracts.tracks.done (decode_skip_of_scanResponse hmore)]
  refine ⟨harrived, ?_, hdrained, ?_, reader_drains r⟩
  · rw [← harrived, ← parse_eq_referenceResponses, hextracts.tracks.found_prefix]
    exact List.prefix_append _ _
  · intro frames hframes h hreceived
    rw [hdrained h, hreceived, referenceResponses_frames hframes]

/-- A byte of garbage and a frame with a magic byte in its payload, in two reads. -/
theorem hop_frames_extracted_two_reads :
    ∃ r, Transition.run ReaderRun.step (ReaderRun.start 8)
      [.arrive ([1] ++ responseFrame 5 [0xFF, 7]), .reader (.read 4), .reader (.read 8),
        .reader .proceed, .reader .proceed, .reader .proceed] = some r ∧
      r.pairs = [(5, responseFrame 5 [0xFF, 7])] ∧
      r.pairs = referenceResponses ([1] ++ responseFrame 5 [0xFF, 7]) := by
  obtain ⟨r, hrun, hr⟩ := Option.map_eq_some_iff.mp (show
    (Transition.run ReaderRun.step (ReaderRun.start 8)
      [.arrive ([1] ++ responseFrame 5 [0xFF, 7]), .reader (.read 4), .reader (.read 8),
        .reader .proceed, .reader .proceed, .reader .proceed]).map
      (fun r => (r.received, r.pairs, r.conn.reader, r.conn.buf)) =
      some ([1] ++ responseFrame 5 [0xFF, 7], [(5, responseFrame 5 [0xFF, 7])], .scan, []) from rfl)
  simp only [Prod.mk.injEq] at hr
  obtain ⟨hreceived, hpairs, hreader, hbuf⟩ := hr
  have hdrained : r.conn.Drained := Or.inl ⟨hreader, by rw [hbuf]; rfl⟩
  have hextracted := (hop_frames_extracted 8 _ r hrun).2.2.1 hdrained
  rw [hreceived] at hextracted
  exact ⟨r, hrun, hpairs, hextracted⟩

end RzRouter
