import RzRouter.Connection

/-!
# The steps of the tasks, case by case

Everything a step of the writer task, of the reader task or of `fail_all` can do, with its guards.
What the steps keep is proved from these cases, without looking into the step functions again.
-/

namespace RzRouter

/-- Where the writer is after a step of its `fail_all`. -/
def Writer.afterFailAll : Option FailAll → Writer
  | some pc => failAll pc
  | none => finalStore

/-- Where the reader is after a step of its `fail_all`. -/
def Reader.afterFailAll : Option FailAll → Reader
  | some pc => failAll pc
  | none => ended

inductive FailAllStep (demux : ConnDemux) :
    FailAll → ConnDemux → Option FailAll → Option Notice → Prop
  /-- Shard `k` is drained under its lock. -/
  | drain (k : Fin NUM_SHARDS) (entries : List (UInt32 × DemuxEntry Nat)) (ids : List UInt32)
      (hids : Enumerates ids (demux.shards k).keys) :
      FailAllStep demux (.collect k entries) (demux.drainShard k ids).1
        (some (.collect (k + 1) (entries ++ (demux.drainShard k ids).2))) none
  /-- The last shard is behind. -/
  | collected (k : Nat) (entries : List (UInt32 × DemuxEntry Nat)) (hk : NUM_SHARDS ≤ k) :
      FailAllStep demux (.collect k entries) demux (some (.notify entries)) none
  | notify (entry : UInt32 × DemuxEntry Nat) (entries : List (UInt32 × DemuxEntry Nat)) :
      FailAllStep demux (.notify (entry :: entries)) demux (some (.notify entries))
        (some ⟨entry.2.tx, .error .connectionClosed⟩)
  | done : FailAllStep demux (.notify []) demux none none

theorem failAllStep_cases {demux demux' : ConnDemux} {choice : TaskChoice} {pc : FailAll}
    {pc' : Option FailAll} {notice : Option Notice}
    (h : failAllStep demux choice pc = some (demux', pc', notice)) :
    FailAllStep demux pc demux' pc' notice := by
  cases pc with
  -- either shard `k` is drained or all shards are behind
  | collect k entries =>
    simp only [failAllStep] at h
    split at h
    · rename_i hk
      split at h
      · split at h
        · rename_i ids hids
          cases h
          exact .drain ⟨k, hk⟩ entries ids hids
        · cases h
      · cases h
    · rename_i hk
      split at h
      · cases h
        exact .collected k entries (not_lt.mp hk)
      · cases h
  | notify entries =>
    cases entries with
    | nil =>
      simp only [failAllStep] at h
      split at h
      · cases h
        exact .done
      · cases h
    | cons entry entries =>
      simp only [failAllStep] at h
      split at h
      · cases h
        exact .notify entry entries
      · cases h

inductive WriterStep (c : Conn) : Conn → Option Notice → Prop
  | recv (frame : Outgoing) (queue : List Outgoing) (hwriter : c.writer = .recv)
      (hqueue : c.queue = frame :: queue) :
      WriterStep c { c with queue := queue, writer := .check frame } none
  /-- The closed check ends the loop; the frame in hand is dropped. -/
  | seesClosed (frame : Outgoing) (hwriter : c.writer = .check frame) (hclosed : c.closed = true) :
      WriterStep c { c with writer := .failAll (.collect 0 []) } none
  | seesOpen (frame : Outgoing) (hwriter : c.writer = .check frame) (hopen : c.closed = false) :
      WriterStep c { c with writer := .write frame } none
  | written (frame : Outgoing) (hwriter : c.writer = .write frame) :
      WriterStep c { c with wire := c.wire ++ [frame], writer := .flush } none
  | flushed (hwriter : c.writer = .flush) : WriterStep c { c with writer := .recv } none
  | writeFails (frame : Outgoing) (hwriter : c.writer = .write frame) :
      WriterStep c { c with writer := .storeClosed } none
  | flushFails (hwriter : c.writer = .flush) : WriterStep c { c with writer := .storeClosed } none
  | storeClosed (hwriter : c.writer = .storeClosed) :
      WriterStep c { c with closed := true, writer := .failAll (.collect 0 []) } none
  | failAll (pc : FailAll) (demux : ConnDemux) (pc' : Option FailAll) (notice : Option Notice)
      (hwriter : c.writer = .failAll pc) (hstep : FailAllStep c.demux pc demux pc' notice) :
      WriterStep c { c with demux := demux, writer := .afterFailAll pc' } notice
  | finalStore (hwriter : c.writer = .finalStore) :
      WriterStep c { c with closed := true, writer := .dropReceiver } none
  /-- What is still queued is dropped with the receiver. -/
  | dropReceiver (hwriter : c.writer = .dropReceiver) :
      WriterStep c { c with queue := [], receiverDropped := true, writer := .ended } none

theorem writerStep_cases {c c' : Conn} {choice : TaskChoice} {notice : Option Notice}
    (h : writerStep c choice = some (c', notice)) : WriterStep c c' notice := by
  unfold writerStep at h
  split at h
  · rename_i hwriter
    split at h
    · cases h
    · rename_i frame queue hqueue
      cases h
      exact .recv frame queue hwriter hqueue
  · rename_i frame hwriter
    split at h
    · rename_i hclosed
      cases h
      exact .seesClosed frame hwriter hclosed
    · rename_i hopen
      cases h
      exact .seesOpen frame hwriter (Bool.eq_false_iff.mpr hopen)
  · rename_i frame hwriter
    cases h
    exact .written frame hwriter
  · rename_i frame hwriter
    cases h
    exact .writeFails frame hwriter
  · rename_i hwriter
    cases h
    exact .flushed hwriter
  · rename_i hwriter
    cases h
    exact .flushFails hwriter
  · rename_i hwriter
    cases h
    exact .storeClosed hwriter
  -- the last step of `fail_all` leads to the final store
  · rename_i pc hwriter
    split at h
    · rename_i demux pc' _ hstep
      cases h
      exact .failAll pc demux (some pc') notice hwriter (failAllStep_cases hstep)
    · rename_i demux _ hstep
      cases h
      exact .failAll pc demux none notice hwriter (failAllStep_cases hstep)
    · cases h
  · rename_i hwriter
    cases h
    exact .finalStore hwriter
  · rename_i hwriter
    cases h
    exact .dropReceiver hwriter
  · cases h

inductive ReaderStep (c : Conn) : TaskChoice → Conn → Option Notice → Prop
  | read (n : Nat) (hreader : c.reader = .scan) (hscan : scanResponse c.buf = .more)
      (hn : 0 < n ∧ n ≤ c.incoming.length) :
      ReaderStep c (.read n)
        { c with buf := c.buf ++ c.incoming.take n, incoming := c.incoming.drop n } none
  /-- The end of the stream, when everything was read, or a read error. -/
  | stop (choice : TaskChoice) (hchoice : choice = .eof ∧ c.incoming = [] ∨ choice = .fail)
      (hreader : c.reader = .scan) (hscan : scanResponse c.buf = .more) :
      ReaderStep c choice { c with reader := .storeClosed } none
  | skip (hreader : c.reader = .scan) (hscan : scanResponse c.buf = .skip) :
      ReaderStep c .proceed { c with buf := c.buf.drop 1 } none
  | extract (clrId : UInt32) (frame rest : List UInt8) (hreader : c.reader = .scan)
      (hscan : scanResponse c.buf = .frame clrId frame rest) :
      ReaderStep c .proceed
        { c with
          buf := rest
          extracted := c.extracted + 1
          reader := .remove c.extracted clrId frame } none
  /-- The waiter of the frame is taken out. -/
  | find (index : Nat) (clrId : UInt32) (frame : List UInt8) (tx : Nat)
      (hreader : c.reader = .remove index clrId frame)
      (hremove : (c.demux.remove clrId).2 = some tx) :
      ReaderStep c .proceed
        { c with demux := (c.demux.remove clrId).1, reader := .deliver index tx frame } none
  /-- No waiter has this id: the frame is dropped. -/
  | unknown (index : Nat) (clrId : UInt32) (frame : List UInt8)
      (hreader : c.reader = .remove index clrId frame)
      (hremove : (c.demux.remove clrId).2 = none) :
      ReaderStep c .proceed { c with demux := (c.demux.remove clrId).1, reader := .scan } none
  | deliver (index tx : Nat) (frame : List UInt8) (hreader : c.reader = .deliver index tx frame) :
      ReaderStep c .proceed { c with reader := .scan } (some ⟨tx, .ok (index, frame)⟩)
  | storeClosed (hreader : c.reader = .storeClosed) :
      ReaderStep c .proceed
        { c with closed := true, reader := .failAll (.collect 0 []) } none
  | failAll (choice : TaskChoice) (pc : FailAll) (demux : ConnDemux) (pc' : Option FailAll)
      (notice : Option Notice) (hreader : c.reader = .failAll pc)
      (hstep : FailAllStep c.demux pc demux pc' notice) :
      ReaderStep c choice { c with demux := demux, reader := .afterFailAll pc' } notice

theorem readerStep_cases {c c' : Conn} {choice : TaskChoice} {notice : Option Notice}
    (h : readerStep c choice = some (c', notice)) : ReaderStep c choice c' notice := by
  unfold readerStep at h
  split at h
  · rename_i hreader
    split at h
    · rename_i n hscan
      split at h
      · rename_i hn
        cases h
        exact .read n hreader hscan hn
      · cases h
    · rename_i hscan
      split at h
      · rename_i hend
        cases h
        exact .stop .eof (Or.inl ⟨rfl, hend⟩) hreader hscan
      · cases h
    · rename_i hscan
      cases h
      exact .stop .fail (Or.inr rfl) hreader hscan
    · rename_i hscan
      cases h
      exact .skip hreader hscan
    · rename_i clrId frame rest hscan
      cases h
      exact .extract clrId frame rest hreader hscan
    · cases h
  · rename_i index clrId frame hreader
    split at h
    · rename_i hchoice
      subst hchoice
      split at h
      · rename_i demux tx hremove
        cases h
        -- `remove` is one step on the demux: name both of its results
        have hdemux : demux = (c.demux.remove clrId).1 := by rw [hremove]
        rw [hdemux]
        exact .find index clrId frame tx hreader (by rw [hremove])
      · rename_i demux hremove
        cases h
        have hdemux : demux = (c.demux.remove clrId).1 := by rw [hremove]
        rw [hdemux]
        exact .unknown index clrId frame hreader (by rw [hremove])
    · cases h
  · rename_i index tx frame hreader
    split at h
    · rename_i hchoice
      cases h
      subst hchoice
      exact .deliver index tx frame hreader
    · cases h
  · rename_i hreader
    split at h
    · rename_i hchoice
      cases h
      subst hchoice
      exact .storeClosed hreader
    · cases h
  · rename_i pc hreader
    split at h
    · rename_i demux pc' _ hstep
      cases h
      exact .failAll choice pc demux (some pc') notice hreader (failAllStep_cases hstep)
    · rename_i demux _ hstep
      cases h
      exact .failAll choice pc demux none notice hreader (failAllStep_cases hstep)
    · cases h
  · cases h

/-- A step of the keepalive task. -/
inductive KeepaliveStep (c : Conn) : Conn → Prop
  | moves (pc : Keepalive) (hopen : pc = .send → c.closed = false) :
      KeepaliveStep c { c with keepalive := pc }
  | sends (hkeepalive : c.keepalive = .send) :
      KeepaliveStep c
        { c with queue := c.queue ++ [⟨none, buildKeepaliveFrame 0⟩], keepalive := .tick }

theorem keepaliveStep_cases {c c' : Conn} (h : keepaliveStep c = some c') :
    KeepaliveStep c c' := by
  unfold keepaliveStep at h
  split at h
  · cases h
    refine .moves _ (fun hsend => ?_)
    cases hclosed : c.closed with
    | false => rfl
    | true =>
      rw [hclosed] at hsend
      cases hsend
  · rename_i hkeepalive
    split at h
    · cases h
      exact .moves .ended (fun hsend => by cases hsend)
    · split at h
      · cases h
      · cases h
        exact .sends hkeepalive
  · cases h

theorem eq_of_hopSends {c c' : Conn} {message : Incoming} (h : c.hopSends message = some c') :
    c' = { c with incoming := c.incoming ++ message.bytes, sent := c.sent ++ [message] } := by
  unfold Conn.hopSends at h
  split at h <;> cases h
  rfl

end RzRouter
