import RzRouter.Network.TaskSteps

/-!
# What the tasks of a connection do

Seen from the calls, a step of the writer, the reader, the keepalive task or the hop takes frames
and waiters away but never adds any, and it never opens a closed connection.
-/

namespace RzRouter

/-- The frame in the writer's hands. -/
def Writer.frame : Writer → List Outgoing
  | check frame => [frame]
  | write frame => [frame]
  | _ => []

namespace Conn

/-- The frames that were accepted and not lost: written, in the writer's hands, or queued. -/
def frames (c : Conn) : List Outgoing := c.wire ++ c.writer.frame ++ c.queue

/-- The channels of the calls behind these frames. -/
def txs (c : Conn) : List Nat := c.frames.filterMap Outgoing.tx

/-- The id counter, and the number of ids it has given out. -/
def counter (c : Conn) : UInt32 × Nat := (c.corrId, c.drawn)

/-- The frame of `tx` is written, or the writer has passed its closed check with it. -/
def Committed (c : Conn) (tx : Nat) : Prop :=
  (∃ bytes, (⟨some tx, bytes⟩ : Outgoing) ∈ c.wire) ∨ ∃ bytes, c.writer = .write ⟨some tx, bytes⟩

/-- The frame of `tx` is written or can still be. -/
def Live (c : Conn) (tx : Nat) : Prop := c.Committed tx ∨ c.closed = false ∧ tx ∈ c.txs

end Conn

/-- The waiters that a `fail_all` has taken and not notified yet. -/
def FailAll.entries : FailAll → List (UInt32 × DemuxEntry Nat)
  | collect _ entries => entries
  | notify entries => entries

/-- The task has begun its `fail_all`. -/
def Writer.begunFailAll : Writer → Bool
  | failAll _ | finalStore | dropReceiver | ended => true
  | _ => false

def Reader.begunFailAll : Reader → Bool
  | failAll _ | ended => true
  | _ => false

def Writer.failing : Writer → List (UInt32 × DemuxEntry Nat)
  | failAll pc => pc.entries
  | _ => []

def Reader.failing : Reader → List (UInt32 × DemuxEntry Nat)
  | failAll pc => pc.entries
  | _ => []

namespace Conn

/-- The channels of the waiters in the hands of the two `fail_all`s. -/
def failing (c : Conn) : List Nat :=
  (c.writer.failing ++ c.reader.failing).map (fun entry => entry.2.tx)

/-- The reader is about to send a response to `tx`. -/
def Delivers (c : Conn) (tx : Nat) : Prop := ∃ index frame, c.reader = .deliver index tx frame

/-- The shard that a `fail_all` collects next has a waiter with channel `tx`. -/
def Drains (c : Conn) (pc : FailAll) (tx : Nat) : Prop :=
  ∃ (k : Fin NUM_SHARDS) (entries : List (UInt32 × DemuxEntry Nat)), pc = .collect k entries ∧
    ∃ id e, (c.demux.shards k).lookup id = some e ∧ e.tx = tx

theorem Drains.has {c : Conn} {pc : FailAll} {tx : Nat} (h : c.Drains pc tx) :
    ∃ id e, c.demux.Has id e ∧ e.tx = tx := by
  obtain ⟨k, entries, -, id, e, he, htx⟩ := h
  exact ⟨id, e, ⟨k, he⟩, htx⟩

/-- The next step of the writer (reader) takes the waiter with channel `tx`. -/
def WriterDrains (c : Conn) (tx : Nat) : Prop := ∃ pc, c.writer = .failAll pc ∧ c.Drains pc tx
def ReaderDrains (c : Conn) (tx : Nat) : Prop := ∃ pc, c.reader = .failAll pc ∧ c.Drains pc tx

/-- A task that has begun `fail_all` has found the connection closed or has closed it. -/
structure ClosedFirst (c : Conn) : Prop where
  writer : c.writer.begunFailAll = true → c.closed = true
  reader : c.reader.begunFailAll = true → c.closed = true

/-- What a step that no call makes does to a connection. -/
structure TaskEffect (c c' : Conn) (notice : Option Notice) (drains : Nat → Prop) : Prop where
  closed : c.closed = true → c'.closed = true
  frames : ∀ out ∈ c'.frames, out ∈ c.frames ∨ out.tx = none
  txs : c'.txs.Sublist c.txs
  committed : ∀ tx, c'.Committed tx → c.Live tx
  waits : ∀ id e, c'.demux.Has id e → c.demux.Has id e
  failing : ∀ tx ∈ c'.failing, tx ∈ c.failing ∨ drains tx
  delivers : ∀ tx, c'.Delivers tx → c.Delivers tx ∨ ∃ id e, c.demux.Has id e ∧ e.tx = tx
  failed : ∀ tx e, notice = some ⟨tx, .error e⟩ → tx ∈ c.failing
  answered : ∀ tx response, notice = some ⟨tx, .ok response⟩ → c.Delivers tx
  closedFirst : c.ClosedFirst → c'.ClosedFirst

theorem mem_txs_of_committed {c : Conn} {tx : Nat} (h : c.Committed tx) : tx ∈ c.txs := by
  rcases h with ⟨bytes, hwire⟩ | ⟨bytes, hwriter⟩
  · refine List.mem_filterMap.mpr ⟨⟨some tx, bytes⟩, ?_, rfl⟩
    exact List.mem_append_left _ (List.mem_append_left _ hwire)
  · refine List.mem_filterMap.mpr ⟨⟨some tx, bytes⟩, ?_, rfl⟩
    refine List.mem_append_left _ (List.mem_append_right _ ?_)
    rw [hwriter]
    exact List.mem_singleton_self _

theorem mem_txs_of_live {c : Conn} {tx : Nat} (h : c.Live tx) : tx ∈ c.txs :=
  h.elim mem_txs_of_committed And.right

/-- On a closed connection only what is committed is live. -/
theorem committed_of_live {c : Conn} {tx : Nat} (hclosed : c.closed = true) (h : c.Live tx) :
    c.Committed tx := by
  rcases h with hcommitted | ⟨hopen, -⟩
  · exact hcommitted
  · rw [hclosed] at hopen
    cases hopen

section Effect

variable {c c' : Conn} {notice : Option Notice} {drains : Nat → Prop}

theorem TaskEffect.live (h : TaskEffect c c' notice drains) {tx : Nat} (hlive : c'.Live tx) :
    c.Live tx := by
  rcases hlive with hcommitted | ⟨hopen, htxs⟩
  · exact h.committed tx hcommitted
  · refine Or.inr ⟨?_, h.txs.subset htxs⟩
    cases hclosed : c.closed with
    | false => rfl
    | true =>
      rw [h.closed hclosed] at hopen
      cases hopen

/-- A step that leaves the demux and the reader alone and is not inside `fail_all`. -/
theorem taskEffect_of_writer (hdemux : c'.demux = c.demux) (hreader : c'.reader = c.reader)
    (hclosed : c.closed = true → c'.closed = true) (hframes : c'.frames.Sublist c.frames)
    (hcommitted : ∀ tx, c'.Committed tx → c.Live tx) (hfailing : c'.writer.failing = [])
    (hfirst : c'.writer.begunFailAll = true →
      c'.closed = true ∨ c.writer.begunFailAll = true) :
    TaskEffect c c' none drains where
  closed := hclosed
  frames := fun out hout => Or.inl (hframes.subset hout)
  txs := hframes.filterMap Outgoing.tx
  committed := hcommitted
  waits := by
    rw [hdemux]
    exact fun _ _ h => h
  failing := by
    intro tx htx
    -- what the reader has collected it still has
    unfold failing at htx ⊢
    rw [hfailing, hreader, List.nil_append] at htx
    rw [List.map_append]
    exact Or.inl (List.mem_append_right _ htx)
  delivers := by
    intro tx htx
    unfold Delivers at htx ⊢
    rw [hreader] at htx
    exact Or.inl htx
  failed := nofun
  answered := nofun
  closedFirst := by
    intro h
    refine ⟨fun hbegun => (hfirst hbegun).elim (fun h => h) (fun hw => hclosed (h.writer hw)),
      fun hbegun => ?_⟩
    rw [hreader] at hbegun
    exact hclosed (h.reader hbegun)

end Effect

end Conn

/-! ## `fail_all` -/

/-- A step of `fail_all` collects from the shard or notifies what it has collected. -/
theorem failAllStep_effect {demux demux' : ConnDemux} {pc : FailAll} {pc' : Option FailAll}
    {notice : Option Notice} (h : FailAllStep demux pc demux' pc' notice) :
    (∀ id e, demux'.Has id e → demux.Has id e) ∧
      (∀ entry ∈ (pc'.map FailAll.entries).getD [], entry ∈ pc.entries ∨
        ∃ (k : Fin NUM_SHARDS) (entries : List (UInt32 × DemuxEntry Nat)),
          pc = .collect k entries ∧ (demux.shards k).lookup entry.1 = some entry.2) ∧
      ∀ n, notice = some n → n.result = .error .connectionClosed ∧
        ∃ entry ∈ pc.entries, entry.2.tx = n.tx := by
  cases h with
  | drain k entries ids hids =>
    refine ⟨fun id e => Demux.has_drainShard, fun entry hentry => ?_, nofun⟩
    -- an entry was collected before or is drained from shard `k` now
    rcases List.mem_append.mp hentry with hold | hnew
    · exact Or.inl hold
    · exact Or.inr ⟨k, entries, rfl, Demux.lookup_of_mem_drainShard hnew⟩
  | collected k entries hk => exact ⟨fun _ _ h => h, fun _ => Or.inl, nofun⟩
  | notify entry entries =>
    refine ⟨fun _ _ h => h, fun e he => Or.inl (List.mem_cons_of_mem _ he), fun n hn => ?_⟩
    cases hn
    exact ⟨rfl, entry, List.mem_cons_self, rfl⟩
  | done => exact ⟨fun _ _ h => h, nofun, nofun⟩

/-! ## The writer -/

/-- A writer that is not writing has committed what is on the wire. -/
theorem Conn.live_of_wire {c c' : Conn} (hwire : c'.wire = c.wire)
    (hwriter : ∀ frame, c'.writer ≠ .write frame) (tx : Nat) (h : c'.Committed tx) : c.Live tx := by
  rcases h with ⟨bytes, hmem⟩ | ⟨bytes, hwrite⟩
  · rw [hwire] at hmem
    exact Or.inl (Or.inl ⟨bytes, hmem⟩)
  · exact absurd hwrite (hwriter _)

theorem Conn.taskEffect_of_writerFailAll {c : Conn} {pc : FailAll} {demux : ConnDemux}
    {pc' : Option FailAll} {notice : Option Notice} (hwriter : c.writer = .failAll pc)
    (hstep : FailAllStep c.demux pc demux pc' notice) :
    c.TaskEffect { c with demux := demux, writer := .afterFailAll pc' } notice c.WriterDrains := by
  obtain ⟨hhas, hentries, hnotice⟩ := failAllStep_effect hstep
  have hmine : ∀ entry ∈ pc.entries, entry.2.tx ∈ c.failing := by
    intro entry hentry
    unfold failing
    rw [hwriter]
    exact List.mem_map_of_mem (List.mem_append_left _ hentry)
  -- inside `fail_all` the writer holds no frame
  have hframes : ({ c with demux := demux, writer := .afterFailAll pc' } : Conn).frames =
      c.frames := by
    unfold Conn.frames
    rw [hwriter]
    cases pc' <;> rfl
  have hfailing : (Writer.afterFailAll pc').failing = (pc'.map FailAll.entries).getD [] := by
    cases pc' <;> rfl
  refine
    { closed := fun h => h
      frames := fun out hout => Or.inl (hframes ▸ hout)
      txs := ?_
      committed := Conn.live_of_wire rfl (fun frame hwrite => ?_)
      waits := hhas
      failing := ?_
      delivers := fun _ => Or.inl
      failed := ?_
      answered := ?_
      closedFirst := fun h => ⟨fun _ => h.writer (by rw [hwriter]; rfl), h.reader⟩ }
  · unfold Conn.txs
    rw [hframes]
  · cases pc' <;> cases hwrite
  · intro tx htx
    obtain ⟨entry, hentry, rfl⟩ := List.mem_map.mp htx
    rcases List.mem_append.mp hentry with hwriter' | hreader
    · rw [hfailing] at hwriter'
      -- collected now from the shard, or in its hands before
      rcases hentries entry hwriter' with hold | ⟨k, entries, hpc, hlookup⟩
      · exact Or.inl (hmine entry hold)
      · exact Or.inr ⟨pc, hwriter, k, entries, hpc, entry.1, entry.2, hlookup, rfl⟩
    · exact Or.inl (List.mem_map_of_mem (List.mem_append_right _ hreader))
  · intro tx e hn
    obtain ⟨-, entry, hentry, rfl⟩ := hnotice _ hn
    exact hmine entry hentry
  · intro tx response hn
    obtain ⟨hresult, -⟩ := hnotice _ hn
    cases hresult

theorem writerStep_effect {c c' : Conn} {notice : Option Notice} (h : WriterStep c c' notice) :
    c.TaskEffect c' notice c.WriterDrains := by
  cases h with
  | recv frame queue hwriter hqueue =>
    refine Conn.taskEffect_of_writer rfl rfl (fun h => h) ?_ (Conn.live_of_wire rfl nofun) rfl nofun
    simp [Conn.frames, hwriter, hqueue, Writer.frame]
  | seesClosed frame hwriter hclosed =>
    refine Conn.taskEffect_of_writer rfl rfl (fun h => h) ?_ (Conn.live_of_wire rfl nofun) rfl
      (fun _ => Or.inl hclosed)
    simp [Conn.frames, hwriter, Writer.frame]
  | seesOpen frame hwriter hopen =>
    -- the frame becomes committed here, and it was live before
    have hframes : ({ c with writer := .write frame } : Conn).frames = c.frames := by
      simp [Conn.frames, hwriter, Writer.frame]
    refine Conn.taskEffect_of_writer rfl rfl (fun h => h) (by rw [hframes]) ?_ rfl nofun
    intro tx hcommitted
    have hmem := Conn.mem_txs_of_committed hcommitted
    unfold Conn.txs at hmem
    rw [hframes] at hmem
    exact Or.inr ⟨hopen, hmem⟩
  | written frame hwriter =>
    refine Conn.taskEffect_of_writer rfl rfl (fun h => h) ?_ ?_ rfl nofun
    · simp [Conn.frames, hwriter, Writer.frame]
    · rintro tx (⟨bytes, hwire⟩ | ⟨bytes, hwrite⟩)
      · rcases List.mem_append.mp hwire with hold | hnew
        · exact Or.inl (Or.inl ⟨bytes, hold⟩)
        · refine Or.inl (Or.inr ⟨bytes, ?_⟩)
          rw [hwriter, List.mem_singleton.mp hnew]
      · cases hwrite
  | flushed hwriter | writeFails frame hwriter | flushFails hwriter =>
    refine Conn.taskEffect_of_writer rfl rfl (fun h => h) ?_ (Conn.live_of_wire rfl nofun) rfl nofun
    simp [Conn.frames, hwriter, Writer.frame]
  | storeClosed hwriter | finalStore hwriter =>
    refine Conn.taskEffect_of_writer rfl rfl (fun _ => rfl) ?_ (Conn.live_of_wire rfl nofun) rfl
      (fun _ => Or.inl rfl)
    simp [Conn.frames, hwriter, Writer.frame]
  | failAll pc demux pc' notice hwriter hstep => exact Conn.taskEffect_of_writerFailAll hwriter hstep
  | dropReceiver hwriter =>
    refine Conn.taskEffect_of_writer rfl rfl (fun h => h) ?_ (Conn.live_of_wire rfl nofun) rfl
      (fun _ => Or.inr (by rw [hwriter]; rfl))
    simp [Conn.frames, hwriter, Writer.frame]

/-! ## The reader -/

theorem Conn.taskEffect_of_reader {c c' : Conn} {notice : Option Notice} {drains : Nat → Prop}
    (hwriter : c'.writer = c.writer) (hwire : c'.wire = c.wire) (hqueue : c'.queue = c.queue)
    (hclosed : c.closed = true → c'.closed = true)
    (hwaits : ∀ id e, c'.demux.Has id e → c.demux.Has id e) (hfailing : c'.reader.failing = [])
    (hfirst : c'.reader.begunFailAll = true → c'.closed = true)
    (hdelivers : ∀ tx, c'.Delivers tx → c.Delivers tx ∨ ∃ id e, c.demux.Has id e ∧ e.tx = tx)
    (hnotice : ∀ n, notice = some n → c.Delivers n.tx ∧ ∃ response, n.result = .ok response) :
    c.TaskEffect c' notice drains where
  closed := hclosed
  frames := by
    unfold frames
    rw [hwriter, hwire, hqueue]
    exact fun _ => Or.inl
  txs := by
    unfold txs frames
    rw [hwriter, hwire, hqueue]
  committed := by
    intro tx h
    unfold Committed at h
    rw [hwire, hwriter] at h
    exact Or.inl h
  waits := hwaits
  failing := by
    intro tx htx
    unfold Conn.failing at htx ⊢
    rw [hfailing, hwriter, List.append_nil] at htx
    rw [List.map_append]
    exact Or.inl (List.mem_append_left _ htx)
  delivers := hdelivers
  failed := by
    intro tx e hn
    obtain ⟨-, response, hresponse⟩ := hnotice _ hn
    cases hresponse
  answered := fun tx response hn => (hnotice _ hn).1
  closedFirst := by
    intro h
    refine ⟨fun hbegun => ?_, hfirst⟩
    rw [hwriter] at hbegun
    exact hclosed (h.writer hbegun)

theorem Conn.taskEffect_of_readerFailAll {c : Conn} {pc : FailAll} {demux : ConnDemux}
    {pc' : Option FailAll} {notice : Option Notice} (hreader : c.reader = .failAll pc)
    (hstep : FailAllStep c.demux pc demux pc' notice) :
    c.TaskEffect { c with demux := demux, reader := .afterFailAll pc' } notice c.ReaderDrains := by
  obtain ⟨hhas, hentries, hnotice⟩ := failAllStep_effect hstep
  have hmine : ∀ entry ∈ pc.entries, entry.2.tx ∈ c.failing := by
    intro entry hentry
    unfold failing
    rw [hreader]
    exact List.mem_map_of_mem (List.mem_append_right _ hentry)
  have hfailing : (Reader.afterFailAll pc').failing = (pc'.map FailAll.entries).getD [] := by
    cases pc' <;> rfl
  refine
    { closed := fun h => h
      frames := fun _ => Or.inl
      txs := List.Sublist.refl _
      committed := fun _ => Or.inl
      waits := hhas
      failing := ?_
      delivers := ?_
      failed := ?_
      answered := ?_
      closedFirst := fun h => ⟨h.writer, fun _ => h.reader (by rw [hreader]; rfl)⟩ }
  · intro tx htx
    obtain ⟨entry, hentry, rfl⟩ := List.mem_map.mp htx
    -- the entries of the writer stay, those of the reader come from the shard
    rcases List.mem_append.mp hentry with hwriter | hreader'
    · exact Or.inl (List.mem_map_of_mem (List.mem_append_left _ hwriter))
    · rw [hfailing] at hreader'
      rcases hentries entry hreader' with hold | ⟨k, entries, hpc, hlookup⟩
      · exact Or.inl (hmine entry hold)
      · exact Or.inr ⟨pc, hreader, k, entries, hpc, entry.1, entry.2, hlookup, rfl⟩
  · rintro tx ⟨index, frame, hdel⟩
    cases pc' <;> cases hdel
  · intro tx e hn
    obtain ⟨-, entry, hentry, rfl⟩ := hnotice _ hn
    exact hmine entry hentry
  · intro tx response hn
    obtain ⟨hresult, -⟩ := hnotice _ hn
    cases hresult

theorem readerStep_effect {c c' : Conn} {choice : TaskChoice} {notice : Option Notice}
    (h : ReaderStep c choice c' notice) : c.TaskEffect c' notice c.ReaderDrains := by
  cases h with
  | read n hreader hscan hn =>
    exact Conn.taskEffect_of_reader rfl rfl rfl (fun h => h) (fun _ _ h => h) (by rw [hreader]; rfl)
      (by rw [hreader]; exact nofun) (fun _ => Or.inl) nofun
  | skip hreader hscan =>
    exact Conn.taskEffect_of_reader rfl rfl rfl (fun h => h) (fun _ _ h => h) (by rw [hreader]; rfl)
      (by rw [hreader]; exact nofun) (fun _ => Or.inl) nofun
  | stop choice hchoice hreader hscan =>
    exact Conn.taskEffect_of_reader rfl rfl rfl (fun h => h) (fun _ _ h => h) rfl nofun
      (fun _ ⟨_, _, hdel⟩ => nomatch hdel) nofun
  | extract clrId frame rest hreader hscan =>
    exact Conn.taskEffect_of_reader rfl rfl rfl (fun h => h) (fun _ _ h => h) rfl nofun
      (fun _ ⟨_, _, hdel⟩ => nomatch hdel) nofun
  | find index clrId frame tx hreader hremove =>
    -- the reader delivers only to a waiter that was registered
    refine Conn.taskEffect_of_reader rfl rfl rfl (fun h => h) (fun _ _ => Demux.has_remove) rfl nofun
      ?_ nofun
    rintro tx' ⟨index', frame', hdel⟩
    cases hdel
    obtain ⟨e, he, htx⟩ := Demux.has_of_remove hremove
    exact Or.inr ⟨clrId, e, he, htx⟩
  | unknown index clrId frame hreader hremove =>
    exact Conn.taskEffect_of_reader rfl rfl rfl (fun h => h) (fun _ _ => Demux.has_remove) rfl nofun
      (fun _ ⟨_, _, hdel⟩ => nomatch hdel) nofun
  | deliver index tx frame hreader =>
    refine Conn.taskEffect_of_reader rfl rfl rfl (fun h => h) (fun _ _ h => h) rfl nofun
      (fun _ ⟨_, _, hdel⟩ => nomatch hdel) ?_
    rintro n hn
    cases hn
    exact ⟨⟨index, frame, hreader⟩, _, rfl⟩
  | storeClosed hreader =>
    exact Conn.taskEffect_of_reader rfl rfl rfl (fun _ => rfl) (fun _ _ h => h) rfl (fun _ => rfl)
      (fun _ ⟨_, _, hdel⟩ => nomatch hdel) nofun
  | failAll choice pc demux pc' notice hreader hstep =>
    exact Conn.taskEffect_of_readerFailAll hreader hstep

/-! ## The keepalive task, the hop, and `close` -/

theorem keepalive_effect {c c' : Conn} (h : KeepaliveStep c c') :
    c.TaskEffect c' none (fun _ => False) := by
  cases h with
  | moves pc hopen =>
    exact ⟨fun h => h, fun _ => Or.inl, List.Sublist.refl _, fun _ => Or.inl, fun _ _ h => h,
      fun _ => Or.inl, fun _ => Or.inl, nofun, nofun, fun h => ⟨h.writer, h.reader⟩⟩
  | sends hkeepalive =>
    have hframes : ({ c with
        queue := c.queue ++ [⟨none, buildKeepaliveFrame 0⟩]
        keepalive := .tick } : Conn).frames = c.frames ++ [⟨none, buildKeepaliveFrame 0⟩] := by
      simp [Conn.frames]
    refine ⟨fun h => h, ?_, ?_, fun _ => Or.inl, fun _ _ h => h, fun _ => Or.inl, fun _ => Or.inl,
      nofun, nofun, fun h => ⟨h.writer, h.reader⟩⟩
    · intro out hout
      rw [hframes] at hout
      refine (List.mem_append.mp hout).imp_right (fun hnew => ?_)
      rw [List.mem_singleton.mp hnew]
    · unfold Conn.txs
      rw [hframes, List.filterMap_append]
      simp

theorem hopSends_effect {c c' : Conn} {message : Incoming} (h : c.hopSends message = some c') :
    c.TaskEffect c' none (fun _ => False) := by
  rw [eq_of_hopSends h]
  exact ⟨fun h => h, fun _ => Or.inl, List.Sublist.refl _, fun _ => Or.inl, fun _ _ h => h,
    fun _ => Or.inl, fun _ => Or.inl, nofun, nofun, fun h => ⟨h.writer, h.reader⟩⟩

theorem close_effect (c : Conn) : c.TaskEffect c.close none (fun _ => False) :=
  ⟨fun _ => rfl, fun _ => Or.inl, List.Sublist.refl _, fun _ => Or.inl, fun _ _ h => h, fun _ => Or.inl,
    fun _ => Or.inl, nofun, nofun, fun _ => ⟨fun _ => rfl, fun _ => rfl⟩⟩

theorem fetchCorrId_effect (c : Conn) : c.TaskEffect c.fetchCorrId.1 none (fun _ => False) :=
  ⟨fun h => h, fun _ => Or.inl, List.Sublist.refl _, fun _ => Or.inl, fun _ _ h => h,
    fun _ => Or.inl, fun _ => Or.inl, nofun, nofun, fun h => ⟨h.writer, h.reader⟩⟩

/-! ## The id counter -/

/-- Only calls draw ids. -/
theorem counter_of_writerStep {c c' : Conn} {notice : Option Notice} (h : WriterStep c c' notice) :
    c'.counter = c.counter := by
  cases h <;> rfl

theorem counter_of_readerStep {c c' : Conn} {choice : TaskChoice} {notice : Option Notice}
    (h : ReaderStep c choice c' notice) : c'.counter = c.counter := by
  cases h <;> rfl

theorem counter_of_keepalive {c c' : Conn} (h : KeepaliveStep c c') : c'.counter = c.counter := by
  cases h <;> rfl

theorem counter_of_hopSends {c c' : Conn} {message : Incoming}
    (h : c.hopSends message = some c') : c'.counter = c.counter := by
  rw [eq_of_hopSends h]
  rfl

end RzRouter
