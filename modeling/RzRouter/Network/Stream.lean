import RzRouter.Network.Tasks
import RzRouter.Response

/-!
# The responses on a connection

How the bytes of a hop become responses: the reader cuts well-formed response frames out of its
buffer one by one, in the order in which the hop sent them, and hands each to the waiter
registered under the frame's clrid.
-/

namespace RzRouter

open LittleEndian Framing

/-! ## Scanning -/

/-- What the reader cuts out is a response frame at the front of its buffer. -/
theorem frame_of_scanResponse {buf frame rest : List UInt8} {clrid : UInt32}
    (h : scanResponse buf = .frame clrid frame rest) :
    buf = frame ++ rest ∧ IsResponse frame clrid := by
  unfold scanResponse at h
  split at h
  · cases h
  · rename_i hlen
    split at h
    · cases h
    · rename_i hmagic
      simp only at h
      split at h
      · cases h
      · rename_i hfull
        cases h
        -- the header reads the same in the buffer and in the frame cut out of it
        have htake : ∀ a b (hab : a ≤ b) (hb : b ≤ buf.length) (hb' : b ≤ (buf.take (9 +
            (u32FromBytes (slice buf 5 9 (by omega) (by omega))).toNat)).length),
            slice (buf.take (9 + (u32FromBytes (slice buf 5 9 (by omega) (by omega))).toNat)) a b
              hab hb' = slice buf a b hab hb := by
          intro a b hab hb hb'
          rw [← slice_append _ (buf.drop _) a b hab hb' (by rw [List.take_append_drop]; exact hb)]
          congr 1
          exact List.take_append_drop _ _
        refine ⟨(List.take_append_drop _ _).symm, ?_⟩
        have h9 : 9 ≤ (buf.take (9 +
            (u32FromBytes (slice buf 5 9 (by omega) (by omega))).toNat)).length := by
          rw [List.length_take]
          omega
        have hresponse := isResponse_of_header h9
          (by rw [List.getElem_take]; exact not_not.mp hmagic)
          (by
            rw [htake 5 9 (by omega) (by omega) h9, List.length_take]
            omega)
        rw [htake 1 5 (by omega) (by omega) (by omega)] at hresponse
        exact hresponse

theorem magic_of_scanResponse {buf : List UInt8} (h : scanResponse buf = .skip) :
    ∃ b rest, buf = b :: rest ∧ b ≠ SHARD_MAGIC := by
  unfold scanResponse at h
  split at h
  · cases h
  · split at h
    · rename_i hlen hmagic
      cases buf with
      | nil => exact absurd (Nat.zero_lt_succ 8) hlen
      | cons b rest => exact ⟨b, rest, rfl, hmagic⟩
    · simp only at h
      split at h <;> cases h

/-! ## Steps -/

/-- The frame in the reader's hands, with its index. -/
def Reader.held : Reader → Option (Nat × List UInt8)
  | remove index _ frame => some (index, frame)
  | deliver index _ frame => some (index, frame)
  | _ => none

/-- What a step does to the incoming bytes of a connection and to the frame in the reader's
hands. -/
inductive StreamStep (c c' : Conn) : Option Notice → Prop
  /-- No frame is cut out or handed on; at most bytes were read. -/
  | still (notice : Option Notice)
      (hreader : c'.reader = c.reader ∨ c'.reader.held = none ∧ c.reader.held = none)
      (hextracted : c'.extracted = c.extracted)
      (hstream : c'.buf ++ c'.incoming = c.buf ++ c.incoming) (hsent : c'.sent = c.sent)
      (hnotice : ∀ tx response, notice ≠ some ⟨tx, .ok response⟩) : StreamStep c c' notice
  | hop (message : Incoming) (hreader : c'.reader = c.reader)
      (hextracted : c'.extracted = c.extracted) (hbuf : c'.buf = c.buf)
      (hincoming : c'.incoming = c.incoming ++ message.bytes)
      (hsent : c'.sent = c.sent ++ [message]) : StreamStep c c' none
  | skip (hscan : scanResponse c.buf = .skip) (hreader : c'.reader = c.reader)
      (hextracted : c'.extracted = c.extracted) (hsent : c'.sent = c.sent) : StreamStep c c' none
  | extract (clrid : UInt32) (frame : List UInt8)
      (hscan : scanResponse c.buf = .frame clrid frame c'.buf)
      (hreader : c'.reader = .remove c.extracted clrid frame)
      (hextracted : c'.extracted = c.extracted + 1) (hincoming : c'.incoming = c.incoming)
      (hsent : c'.sent = c.sent) : StreamStep c c' none
  /-- The waiter of the frame is found. -/
  | find (index : Nat) (clrid : UInt32) (frame : List UInt8) (e : DemuxEntry Nat)
      (hreader : c.reader = .remove index clrid frame) (hwaiter : c.demux.Has clrid e)
      (hreader' : c'.reader = .deliver index e.tx frame) (hextracted : c'.extracted = c.extracted)
      (hstream : c'.buf ++ c'.incoming = c.buf ++ c.incoming) (hsent : c'.sent = c.sent) :
      StreamStep c c' none
  /-- The frame is dropped. -/
  | unknown (hreader' : c'.reader.held = none) (hextracted : c'.extracted = c.extracted)
      (hstream : c'.buf ++ c'.incoming = c.buf ++ c.incoming) (hsent : c'.sent = c.sent) :
      StreamStep c c' none
  | deliver (index : Nat) (tx : Nat) (frame : List UInt8)
      (hreader : c.reader = .deliver index tx frame) (hreader' : c'.reader.held = none)
      (hextracted : c'.extracted = c.extracted)
      (hstream : c'.buf ++ c'.incoming = c.buf ++ c.incoming) (hsent : c'.sent = c.sent) :
      StreamStep c c' (some ⟨tx, .ok (index, frame)⟩)

namespace StreamStep

theorem refl (c : Conn) : StreamStep c c none :=
  .still none (Or.inl rfl) rfl rfl rfl nofun

/-- A step that has nothing to do with the incoming bytes. -/
theorem of_eq {c c' : Conn} {notice : Option Notice} (hreader : c'.reader = c.reader)
    (hextracted : c'.extracted = c.extracted) (hbuf : c'.buf = c.buf)
    (hincoming : c'.incoming = c.incoming) (hsent : c'.sent = c.sent)
    (hnotice : ∀ tx response, notice ≠ some ⟨tx, .ok response⟩) : StreamStep c c' notice :=
  .still notice (Or.inl hreader) hextracted (by rw [hbuf, hincoming]) hsent hnotice

end StreamStep

theorem notice_of_failAllStep {demux demux' : ConnDemux} {pc : FailAll} {pc' : Option FailAll}
    {notice : Option Notice} (h : FailAllStep demux pc demux' pc' notice) (tx : Nat)
    (response : Nat × List UInt8) : notice ≠ some ⟨tx, .ok response⟩ := by
  intro heq
  obtain ⟨hresult, -⟩ := (failAllStep_effect h).2.2 _ heq
  cases hresult

theorem writerStep_stream {c c' : Conn} {notice : Option Notice} (h : WriterStep c c' notice) :
    StreamStep c c' notice := by
  cases h with
  | failAll pc demux pc' notice hwriter hstep =>
    exact .of_eq rfl rfl rfl rfl rfl (notice_of_failAllStep hstep)
  | _ => exact .of_eq rfl rfl rfl rfl rfl nofun

theorem readerStep_stream {c c' : Conn} {choice : TaskChoice} {notice : Option Notice}
    (h : ReaderStep c choice c' notice) : StreamStep c c' notice := by
  have hnone : ∀ tx response, (none : Option Notice) ≠ some ⟨tx, .ok response⟩ := nofun
  cases h with
  | read n hreader hscan hn =>
    -- bytes move from the socket to the end of the buffer
    refine .still none (Or.inl rfl) rfl ?_ rfl hnone
    simp only
    rw [List.append_assoc, List.take_append_drop]
  | stop choice hchoice hreader hscan =>
    exact .still none (Or.inr ⟨rfl, by rw [hreader]; rfl⟩) rfl rfl rfl hnone
  | skip hreader hscan => exact .skip hscan rfl rfl rfl
  | extract clrId frame rest hreader hscan => exact .extract clrId frame hscan rfl rfl rfl rfl
  | find index clrId frame tx hreader hremove =>
    obtain ⟨e, he, rfl⟩ := Demux.has_of_remove hremove
    exact .find index clrId frame e hreader he rfl rfl rfl rfl
  | unknown index clrId frame hreader hremove => exact .unknown rfl rfl rfl rfl
  | deliver index tx frame hreader => exact .deliver index tx frame hreader rfl rfl rfl rfl
  | storeClosed hreader =>
    exact .still none (Or.inr ⟨rfl, by rw [hreader]; rfl⟩) rfl rfl rfl hnone
  | failAll choice pc demux pc' notice hreader hstep =>
    have hheld : (Reader.afterFailAll pc').held = none := by cases pc' <;> rfl
    exact .still _ (Or.inr ⟨hheld, by rw [hreader]; rfl⟩) rfl rfl rfl (notice_of_failAllStep hstep)

theorem keepalive_stream {c c' : Conn} (h : KeepaliveStep c c') : StreamStep c c' none := by
  cases h <;> exact .of_eq rfl rfl rfl rfl rfl nofun

theorem hopSends_stream {c c' : Conn} {message : Incoming} (h : c.hopSends message = some c') :
    StreamStep c c' none := by
  rw [eq_of_hopSends h]
  exact .hop message rfl rfl rfl rfl rfl

/-! ## The order of the responses -/

namespace Conn

/-- Everything the hop has sent is a response frame. -/
def SendsResponses (c : Conn) : Prop := ∀ message ∈ c.sent, ∃ clrid, IsResponse message.bytes clrid

/-- The frame in the reader's hands is the last one it has cut out. -/
def Numbered (c : Conn) : Prop :=
  ∀ index frame, c.reader.held = some (index, frame) → index + 1 = c.extracted

/-- The frames are cut out in the order in which they were sent, and the other ones are still on
their way. -/
structure InOrder (c : Conn) : Prop where
  extracted : c.extracted ≤ c.sent.length
  stream : c.buf ++ c.incoming = ((c.sent.map Incoming.bytes).drop c.extracted).flatten
  held : ∀ index frame, c.reader.held = some (index, frame) →
    (c.sent.map Incoming.bytes)[index]? = some frame

theorem inOrder_new (capacity : Nat) : (Conn.new capacity).InOrder := ⟨Nat.le_refl _, rfl, nofun⟩

end Conn

section Order

variable {c c' : Conn} {notice : Option Notice}

theorem numbered_of_streamStep (h : c.Numbered) (hstep : StreamStep c c' notice) :
    c'.Numbered := by
  intro index frame hheld
  cases hstep with
  | still _ hreader hextracted =>
    rcases hreader with hsame | ⟨hnone, -⟩
    · rw [hsame] at hheld
      rw [hextracted]
      exact h index frame hheld
    · rw [hnone] at hheld
      cases hheld
  | hop message hreader hextracted =>
    rw [hreader] at hheld
    rw [hextracted]
    exact h index frame hheld
  | skip hscan hreader hextracted =>
    rw [hreader] at hheld
    rw [hextracted]
    exact h index frame hheld
  -- the frame in hand is the one just counted
  | extract clrid frame hscan hreader hextracted =>
    rw [hreader] at hheld
    cases hheld
    exact hextracted.symm
  -- finding the waiter changes what is done with the frame, not the frame
  | find index' clrid frame' e hreader hwaiter hreader' hextracted =>
    rw [hreader'] at hheld
    cases hheld
    rw [hextracted]
    exact h index frame (by rw [hreader]; rfl)
  | unknown hreader' =>
    rw [hreader'] at hheld
    cases hheld
  | deliver index' tx frame' hreader hreader' =>
    rw [hreader'] at hheld
    cases hheld

/-- The number of extracted frames only grows. -/
theorem extracted_of_streamStep (hstep : StreamStep c c' notice) : c.extracted ≤ c'.extracted := by
  cases hstep with
  | extract clrid frame hscan hreader hextracted =>
    rw [hextracted]
    exact Nat.le_succ _
  | _ => exact Nat.le_of_eq (Eq.symm ‹_›)

/-- What was sent stays sent, at its place. -/
theorem sent_of_streamStep (hstep : StreamStep c c' notice) : c.sent <+: c'.sent := by
  cases hstep with
  | hop message hreader hextracted hbuf hincoming hsent =>
    rw [hsent]
    exact List.prefix_append _ _
  | still _ _ _ _ hsent => rw [hsent]
  | skip _ _ _ hsent => rw [hsent]
  | extract _ _ _ _ _ _ hsent => rw [hsent]
  | find _ _ _ _ _ _ _ _ _ hsent => rw [hsent]
  | unknown _ _ _ hsent => rw [hsent]
  | deliver _ _ _ _ _ _ _ hsent => rw [hsent]

theorem Conn.SendsResponses.of_step (h : c'.SendsResponses) (hstep : StreamStep c c' notice) :
    c.SendsResponses :=
  fun message hmessage => h message ((sent_of_streamStep hstep).subset hmessage)

theorem inOrder_of_streamStep (hsends : c'.SendsResponses) (h : c.InOrder)
    (hstep : StreamStep c c' notice) : c'.InOrder := by
  have hframes : ∀ bytes ∈ c.sent.map Incoming.bytes, ∃ clrid, IsResponse bytes clrid := by
    intro bytes hbytes
    obtain ⟨message, hmessage, rfl⟩ := List.mem_map.mp hbytes
    exact hsends.of_step hstep message hmessage
  cases hstep with
  | still _ hreader hextracted hstream hsent =>
    refine ⟨by rw [hextracted, hsent]; exact h.extracted,
      by rw [hextracted, hsent, hstream]; exact h.stream, fun index frame hheld => ?_⟩
    rw [hsent]
    rcases hreader with hsame | ⟨hnone, -⟩
    · rw [hsame] at hheld
      exact h.held index frame hheld
    · rw [hnone] at hheld
      cases hheld
  -- the new message goes to the end of what is still on its way
  | hop message hreader hextracted hbuf hincoming hsent =>
    have hle : c.extracted ≤ (c.sent.map Incoming.bytes).length := by
      rw [List.length_map]
      exact h.extracted
    refine ⟨?_, ?_, fun index frame hheld => ?_⟩
    · rw [hextracted, hsent, List.length_append]
      exact Nat.le_add_right_of_le h.extracted
    · rw [hextracted, hsent, hbuf, hincoming, ← List.append_assoc, h.stream, List.map_append,
        List.drop_append_of_le_length hle, List.flatten_append]
      simp
    · rw [hreader] at hheld
      rw [hsent, List.map_append]
      have hget := h.held index frame hheld
      rw [List.getElem?_append_left (List.getElem?_eq_some_iff.mp hget).1]
      exact hget
  | skip hscan hreader hextracted hsent =>
    -- on a stream of responses the reader never has to resynchronise
    obtain ⟨b, rest, hbuf, hb⟩ := magic_of_scanResponse hscan
    have hstream := h.stream
    rw [hbuf] at hstream
    cases hdrop : (c.sent.map Incoming.bytes).drop c.extracted with
    | nil =>
      rw [hdrop] at hstream
      cases hstream
    | cons bytes others =>
      obtain ⟨clrid, payload, -, rfl⟩ := hframes bytes
        (List.mem_of_mem_drop (by rw [hdrop]; exact List.mem_cons_self))
      rw [hdrop] at hstream
      exact absurd (List.head_eq_of_cons_eq hstream) hb
  -- the stream begins with a frame, and a self-delimiting frame is the first one sent
  | extract clrid frame hscan hreader hextracted hincoming hsent =>
    obtain ⟨hbuf, hresponse⟩ := frame_of_scanResponse hscan
    have hstream : frame ++ (c'.buf ++ c'.incoming) =
        ((c.sent.map Incoming.bytes).drop c.extracted).flatten := by
      rw [hincoming, ← List.append_assoc, ← hbuf]
      exact h.stream
    obtain ⟨hget, hrest⟩ :=
      selfDelimiting_isResponse.take_next hframes ⟨clrid, hresponse⟩ hstream
    refine ⟨?_, by rw [hextracted, hsent]; exact hrest, fun index frame' hheld => ?_⟩
    · rw [hextracted, hsent, ← List.length_map Incoming.bytes]
      exact (List.getElem?_eq_some_iff.mp hget).1
    · rw [hreader] at hheld
      cases hheld
      rw [hsent]
      exact hget
  | find index clrid frame e hreader hwaiter hreader' hextracted hstream hsent =>
    refine ⟨by rw [hextracted, hsent]; exact h.extracted,
      by rw [hextracted, hsent, hstream]; exact h.stream, fun index' frame' hheld => ?_⟩
    rw [hreader'] at hheld
    cases hheld
    rw [hsent]
    exact h.held index frame (by rw [hreader]; rfl)
  | unknown hreader' hextracted hstream hsent =>
    refine ⟨by rw [hextracted, hsent]; exact h.extracted,
      by rw [hextracted, hsent, hstream]; exact h.stream, fun index frame hheld => ?_⟩
    rw [hreader'] at hheld
    cases hheld
  | deliver index tx frame hreader hreader' hextracted hstream hsent =>
    refine ⟨by rw [hextracted, hsent]; exact h.extracted,
      by rw [hextracted, hsent, hstream]; exact h.stream, fun index frame hheld => ?_⟩
    rw [hreader'] at hheld
    cases hheld

end Order

end RzRouter
