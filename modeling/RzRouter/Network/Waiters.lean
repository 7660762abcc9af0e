import RzRouter.Network.Shape

/-!
# Where the waiters of a connection are

A registered waiter leaves the demux for the hands of a task, which then resolves its channel, or
because a call removes it.  A `fail_all` goes through the shards once, so a waiter in a shard that
both tasks have drained stays there.
-/

namespace RzRouter

/-- The `fail_all` has drained shard `k`. -/
def FailAll.passed (k : Fin NUM_SHARDS) : FailAll → Bool
  | collect next _ => decide (k.val < next)
  | notify _ => true

theorem FailAll.passed_zero (k : Fin NUM_SHARDS) (entries : List (UInt32 × DemuxEntry Nat)) :
    (collect 0 entries).passed k = false :=
  decide_eq_false (Nat.not_lt_zero k.val)

/-- The task has drained shard `k`. -/
def Writer.passed (k : Fin NUM_SHARDS) : Writer → Bool
  | failAll pc => pc.passed k
  | finalStore | dropReceiver | ended => true
  | _ => false

def Reader.passed (k : Fin NUM_SHARDS) : Reader → Bool
  | failAll pc => pc.passed k
  | ended => true
  | _ => false

namespace Conn

/-- The waiter with channel `tx` is registered. -/
def Registered (c : Conn) (tx : Nat) : Prop := ∃ id e, c.demux.Has id e ∧ e.tx = tx

/-- The sender of channel `tx` is with the demux or in the hands of a task. -/
def HasSender (c : Conn) (tx : Nat) : Prop :=
  c.Registered tx ∨ tx ∈ c.failing ∨ c.Delivers tx

/-- The waiter with channel `tx` is registered in a shard that both tasks have drained. -/
def PastDraining (c : Conn) (tx : Nat) : Prop :=
  ∃ k id e, (c.demux.shards k).lookup id = some e ∧ e.tx = tx ∧
    c.writer.passed k = true ∧ c.reader.passed k = true

/-- The channel of the writer takes a frame. -/
def Accepts (c : Conn) : Prop := c.receiverDropped = false ∧ c.queue.length < c.capacity

instance (c : Conn) : Decidable c.Accepts := inferInstanceAs (Decidable (_ ∧ _))

theorem trySend_accepted {c : Conn} {frame : Outgoing} (h : (c.trySend frame).2 = true) :
    c.Accepts := by
  unfold trySend at h
  split at h
  · cases h
  · rename_i hroom
    rw [not_or, Bool.not_eq_true, not_le] at hroom
    exact hroom

/-- When both tasks have ended, nobody has a sender but the demux. -/
theorem registered_of_ended {c : Conn} {tx : Nat} (hwriter : c.writer = .ended)
    (hreader : c.reader = .ended) (h : c.HasSender tx) : c.Registered tx := by
  rcases h with hregistered | hfailing | ⟨index, frame, hdelivers⟩
  · exact hregistered
  · unfold failing at hfailing
    rw [hwriter, hreader] at hfailing
    exact absurd hfailing List.not_mem_nil
  · rw [hreader] at hdelivers
    cases hdelivers

theorem pastDraining_of_ended {c : Conn} {tx : Nat} (hwriter : c.writer = .ended)
    (hreader : c.reader = .ended) (h : c.Registered tx) : c.PastDraining tx := by
  obtain ⟨id, e, ⟨k, hk⟩, htx⟩ := h
  exact ⟨k, id, e, hk, htx, by rw [hwriter]; rfl, by rw [hreader]; rfl⟩

/-- What a step that no call makes does to the waiters of a connection. -/
structure WaiterEffect (c c' : Conn) (notice : Option Notice) : Prop where
  /-- A sender is used when it is let go. -/
  sender : ∀ tx, c.HasSender tx → c'.HasSender tx ∨ ∃ result, notice = some ⟨tx, result⟩
  /-- The step that drains a shard leaves nothing in it. -/
  past : ∀ tx, c'.PastDraining tx → c.PastDraining tx
  failed : ∀ tx e, notice = some ⟨tx, .error e⟩ → e = .connectionClosed

/-- A step that neither takes a waiter nor drains a shard. -/
theorem waiterEffect_of_eq {c c' : Conn} (hdemux : c'.demux = c.demux)
    (hfailing : c'.failing = c.failing) (hdelivers : ∀ tx, c.Delivers tx → c'.Delivers tx)
    (hwriter : ∀ k, c'.writer.passed k = true → c.writer.passed k = true)
    (hreader : ∀ k, c'.reader.passed k = true → c.reader.passed k = true) :
    c.WaiterEffect c' none where
  sender := by
    intro tx h
    refine Or.inl (h.imp (fun hregistered => ?_) (Or.imp (fun hmem => ?_) (hdelivers tx)))
    · unfold Registered
      rw [hdemux]
      exact hregistered
    · rw [hfailing]
      exact hmem
  past := by
    -- the same shards, and no task has passed more of them
    rintro tx ⟨k, id, e, hlookup, htx, hw, hr⟩
    rw [hdemux] at hlookup
    exact ⟨k, id, e, hlookup, htx, hwriter k hw, hreader k hr⟩
  failed := nofun

end Conn

/-! ## `fail_all` -/

/-- A step of `fail_all` keeps every waiter, registered or in its hands, or notifies it, and after
it has drained a shard that shard is empty. -/
theorem failAllStep_waiters {demux demux' : ConnDemux} {pc : FailAll} {pc' : Option FailAll}
    {notice : Option Notice} (h : FailAllStep demux pc demux' pc' notice) :
    (∀ id e, demux.Has id e →
      demux'.Has id e ∨ (id, e) ∈ (pc'.map FailAll.entries).getD []) ∧
    (∀ entry ∈ pc.entries, entry ∈ (pc'.map FailAll.entries).getD [] ∨
      notice = some ⟨entry.2.tx, .error .connectionClosed⟩) ∧
    ∀ k id e, (demux'.shards k).lookup id = some e → (demux.shards k).lookup id = some e ∧
      ((pc'.map (FailAll.passed k)).getD true = true → pc.passed k = true) := by
  cases h with
  | drain next entries ids hids =>
    refine ⟨fun id e hhas => ?_, fun entry hentry => Or.inl (List.mem_append_left _ hentry),
      fun k id e hlookup => ?_⟩
    · exact (Demux.has_drainShard_of_has hids hhas).imp_right
        (fun hmem => List.mem_append_right _ hmem)
    · -- nothing is left in shard `next`, so `k` was passed before
      obtain ⟨hk, hold⟩ := Demux.lookup_drainShard hlookup
      refine ⟨hold, fun hpassed => decide_eq_true ?_⟩
      have hlt : k.val < next.val + 1 := of_decide_eq_true hpassed
      have hne : k.val ≠ next.val := fun heq => hk (Fin.ext heq)
      omega
  | collected next entries hlast =>
    refine ⟨fun _ _ => Or.inl, fun _ => Or.inl, fun k _ _ hlookup => ⟨hlookup, fun _ => ?_⟩⟩
    exact decide_eq_true (Nat.lt_of_lt_of_le k.isLt hlast)
  | notify entry entries =>
    refine ⟨fun _ _ => Or.inl, fun entry' hentry' => ?_,
      fun _ _ _ hlookup => ⟨hlookup, fun _ => rfl⟩⟩
    rcases List.mem_cons.mp hentry' with rfl | hrest
    · exact Or.inr rfl
    · exact Or.inl hrest
  | done =>
    exact ⟨fun _ _ => Or.inl, fun _ hentry => absurd hentry List.not_mem_nil,
      fun _ _ _ hlookup => ⟨hlookup, fun _ => rfl⟩⟩

theorem Conn.waiterEffect_of_failAll {c c' : Conn} {pc : FailAll} {pc' : Option FailAll}
    {notice : Option Notice} (hstep : FailAllStep c.demux pc c'.demux pc' notice)
    (hmine : ∀ entry ∈ (pc'.map FailAll.entries).getD [], entry.2.tx ∈ c'.failing)
    (hfailing : ∀ tx ∈ c.failing, tx ∈ c'.failing ∨ ∃ entry ∈ pc.entries, entry.2.tx = tx)
    (hdelivers : ∀ tx, c.Delivers tx → c'.Delivers tx)
    (hpassed : ∀ k, c'.writer.passed k = true → c'.reader.passed k = true →
      ((pc'.map (FailAll.passed k)).getD true = true → pc.passed k = true) →
      c.writer.passed k = true ∧ c.reader.passed k = true) : c.WaiterEffect c' notice := by
  obtain ⟨hhas, hentries, hshards⟩ := failAllStep_waiters hstep
  refine ⟨fun tx h => ?_, ?_, ?_⟩
  · rcases h with ⟨id, e, he, rfl⟩ | hmem | hdel
    · rcases hhas id e he with hstays | hdrained
      · exact Or.inl (Or.inl ⟨id, e, hstays, rfl⟩)
      · exact Or.inl (Or.inr (Or.inl (hmine _ hdrained)))
    · rcases hfailing tx hmem with hstays | ⟨entry, hentry, rfl⟩
      · exact Or.inl (Or.inr (Or.inl hstays))
      · rcases hentries entry hentry with hkept | hnotice
        · exact Or.inl (Or.inr (Or.inl (hmine entry hkept)))
        · exact Or.inr ⟨_, hnotice⟩
    · exact Or.inl (Or.inr (Or.inr (hdelivers tx hdel)))
  · rintro tx ⟨k, id, e, hlookup, htx, hw, hr⟩
    obtain ⟨hold, hback⟩ := hshards k id e hlookup
    obtain ⟨hw', hr'⟩ := hpassed k hw hr hback
    exact ⟨k, id, e, hold, htx, hw', hr'⟩
  · intro tx e hnotice
    obtain ⟨hresult, -⟩ := (failAllStep_effect hstep).2.2 _ hnotice
    cases hresult
    rfl

theorem Conn.waiterEffect_of_writerFailAll {c : Conn} {pc : FailAll} {demux : ConnDemux}
    {pc' : Option FailAll} {notice : Option Notice} (hwriter : c.writer = .failAll pc)
    (hstep : FailAllStep c.demux pc demux pc' notice) :
    c.WaiterEffect { c with demux := demux, writer := .afterFailAll pc' } notice := by
  have hentries : (Writer.afterFailAll pc').failing = (pc'.map FailAll.entries).getD [] := by
    cases pc' <;> rfl
  have hpassed : ∀ k, (Writer.afterFailAll pc').passed k =
      (pc'.map (FailAll.passed k)).getD true := by
    cases pc' <;> exact fun _ => rfl
  refine waiterEffect_of_failAll hstep (fun entry hentry => ?_) (fun tx htx => ?_) (fun _ h => h)
    (fun k hw hr hback => ⟨?_, hr⟩)
  · rw [← hentries] at hentry
    exact List.mem_map_of_mem (List.mem_append_left _ hentry)
  · obtain ⟨entry, hentry, rfl⟩ := List.mem_map.mp htx
    rw [hwriter] at hentry
    rcases List.mem_append.mp hentry with hmine | hreader
    · exact Or.inr ⟨entry, hmine, rfl⟩
    · exact Or.inl (List.mem_map_of_mem (List.mem_append_right _ hreader))
  · rw [hwriter]
    exact hback (by rw [← hpassed]; exact hw)

theorem Conn.waiterEffect_of_readerFailAll {c : Conn} {pc : FailAll} {demux : ConnDemux}
    {pc' : Option FailAll} {notice : Option Notice} (hreader : c.reader = .failAll pc)
    (hstep : FailAllStep c.demux pc demux pc' notice) :
    c.WaiterEffect { c with demux := demux, reader := .afterFailAll pc' } notice := by
  have hentries : (Reader.afterFailAll pc').failing = (pc'.map FailAll.entries).getD [] := by
    cases pc' <;> rfl
  have hpassed : ∀ k, (Reader.afterFailAll pc').passed k =
      (pc'.map (FailAll.passed k)).getD true := by
    cases pc' <;> exact fun _ => rfl
  refine waiterEffect_of_failAll hstep (fun entry hentry => ?_) (fun tx htx => ?_) ?_
    (fun k hw hr hback => ⟨hw, ?_⟩)
  · rw [← hentries] at hentry
    exact List.mem_map_of_mem (List.mem_append_right _ hentry)
  · obtain ⟨entry, hentry, rfl⟩ := List.mem_map.mp htx
    rw [hreader] at hentry
    rcases List.mem_append.mp hentry with hwriter | hmine
    · exact Or.inl (List.mem_map_of_mem (List.mem_append_left _ hwriter))
    · exact Or.inr ⟨entry, hmine, rfl⟩
  · rintro tx ⟨index, frame, hdel⟩
    rw [hreader] at hdel
    cases hdel
  · rw [hreader]
    exact hback (by rw [← hpassed]; exact hr)

/-! ## The steps of the tasks -/

/-- A step of the writer outside `fail_all`. -/
theorem Conn.waiterEffect_of_writer {c c' : Conn} (hdemux : c'.demux = c.demux)
    (hreader : c'.reader = c.reader) (hfailing : c'.writer.failing = c.writer.failing)
    (hpassed : ∀ k, c'.writer.passed k = true → c.writer.passed k = true) :
    c.WaiterEffect c' none := by
  refine waiterEffect_of_eq hdemux ?_ (fun tx h => ?_) hpassed (fun k h => ?_)
  · unfold failing
    rw [hfailing, hreader]
  · unfold Delivers
    rw [hreader]
    exact h
  · rw [hreader] at h
    exact h

theorem writerStep_waiters {c c' : Conn} {notice : Option Notice} (h : WriterStep c c' notice) :
    c.WaiterEffect c' notice := by
  cases h with
  | recv frame queue hwriter hqueue | written frame hwriter | flushed hwriter
  | writeFails frame hwriter | flushFails hwriter | seesOpen frame hwriter hopen =>
    exact Conn.waiterEffect_of_writer rfl rfl (by rw [hwriter]; rfl) nofun
  | seesClosed frame hwriter hclosed | storeClosed hwriter =>
    -- `fail_all` begins and has drained nothing yet
    refine Conn.waiterEffect_of_writer rfl rfl (by rw [hwriter]; rfl) (fun k hpassed => ?_)
    exact absurd hpassed (ne_true_of_eq_false (FailAll.passed_zero k []))
  | failAll pc demux pc' notice hwriter hstep =>
    exact Conn.waiterEffect_of_writerFailAll hwriter hstep
  | finalStore hwriter | dropReceiver hwriter =>
    exact Conn.waiterEffect_of_writer rfl rfl (by rw [hwriter]; rfl) (fun _ _ => by rw [hwriter]; rfl)

/-- A step of the reader outside `fail_all` that takes no waiter and has none. -/
theorem Conn.waiterEffect_of_reader {c c' : Conn} (hdemux : c'.demux = c.demux)
    (hwriter : c'.writer = c.writer) (hfailing : c.reader.failing = [])
    (hfailing' : c'.reader.failing = [])
    (hdelivers : ∀ index tx frame, c.reader ≠ .deliver index tx frame)
    (hpassed : ∀ k, c'.reader.passed k = false) : c.WaiterEffect c' none := by
  refine waiterEffect_of_eq hdemux ?_ ?_ (fun k h => ?_) (fun k h => ?_)
  · unfold failing
    rw [hwriter, hfailing, hfailing']
  · rintro tx ⟨index, frame, h⟩
    exact absurd h (hdelivers index tx frame)
  · rw [hwriter] at h
    exact h
  · rw [hpassed] at h
    cases h

theorem Conn.waiterEffect_of_scan {c c' : Conn} (hscan : c.reader = .scan)
    (hdemux : c'.demux = c.demux) (hwriter : c'.writer = c.writer)
    (hfailing : c'.reader.failing = []) (hpassed : ∀ k, c'.reader.passed k = false) :
    c.WaiterEffect c' none := by
  refine waiterEffect_of_reader hdemux hwriter (by rw [hscan]; rfl) hfailing ?_ hpassed
  intro index tx frame hdel
  cases hscan.symm.trans hdel

/-- The reader looks for the waiter of a frame: it takes it out of the demux and holds it. -/
theorem Conn.waiterEffect_of_remove {c : Conn} {index : Nat} {clrId : UInt32}
    {frame : List UInt8} {reader : Reader} (hreader : c.reader = .remove index clrId frame)
    (hfailing : reader.failing = []) (hpassed : ∀ k, reader.passed k = false)
    (htaken : ∀ tx, (c.demux.remove clrId).2 = some tx →
      ∃ index frame, reader = .deliver index tx frame) :
    c.WaiterEffect { c with demux := (c.demux.remove clrId).1, reader := reader } none where
  sender := by
    intro tx hsender
    apply Or.inl
    rcases hsender with ⟨id, e, he, rfl⟩ | hmem | ⟨index', frame', hdel⟩
    · rcases Demux.has_remove_of_has clrId he with hstays | hfound
      · exact Or.inl ⟨id, e, hstays, rfl⟩
      · exact Or.inr (Or.inr (htaken _ hfound))
    · unfold failing at hmem
      rw [hreader] at hmem
      unfold HasSender failing
      rw [hfailing]
      exact Or.inr (Or.inl hmem)
    · rw [hreader] at hdel
      cases hdel
  past := by
    rintro tx ⟨k, id, e, -, -, -, hpassed'⟩
    rw [hpassed] at hpassed'
    cases hpassed'
  failed := nofun

theorem readerStep_waiters {c c' : Conn} {choice : TaskChoice} {notice : Option Notice}
    (h : ReaderStep c choice c' notice) : c.WaiterEffect c' notice := by
  cases h with
  | read n hreader hscan hn | skip hreader hscan =>
    exact Conn.waiterEffect_of_scan hreader rfl rfl (by rw [hreader]; rfl)
      (by rw [hreader]; exact fun _ => rfl)
  | stop choice hchoice hreader hscan | extract clrId frame rest hreader hscan =>
    exact Conn.waiterEffect_of_scan hreader rfl rfl rfl (fun _ => rfl)
  | find index clrId frame tx hreader hremove =>
    refine Conn.waiterEffect_of_remove hreader rfl (fun _ => rfl) (fun tx' htx' => ?_)
    rw [hremove] at htx'
    cases htx'
    exact ⟨index, frame, rfl⟩
  | unknown index clrId frame hreader hremove =>
    refine Conn.waiterEffect_of_remove hreader rfl (fun _ => rfl) (fun tx' htx' => ?_)
    rw [hremove] at htx'
    cases htx'
  | deliver index tx frame hreader =>
    -- the reader lets go of the sender it holds by using it
    refine ⟨fun tx' hhas => ?_, ?_, fun _ _ hnotice => by cases hnotice⟩
    · rcases hhas with hregistered | hmem | ⟨index', frame', hdel⟩
      · exact Or.inl (Or.inl hregistered)
      · refine Or.inl (Or.inr (Or.inl ?_))
        unfold Conn.failing at hmem ⊢
        rw [hreader] at hmem
        exact hmem
      · rw [hreader] at hdel
        cases hdel
        exact Or.inr ⟨_, rfl⟩
    · rintro tx' ⟨k, id, e, -, -, -, hpassed⟩
      cases hpassed
  | storeClosed hreader =>
    refine Conn.waiterEffect_of_reader rfl rfl (by rw [hreader]; rfl) rfl ?_
      (fun k => FailAll.passed_zero k [])
    intro index tx frame hdel
    cases hreader.symm.trans hdel
  | failAll choice pc demux pc' notice hreader hstep =>
    exact Conn.waiterEffect_of_readerFailAll hreader hstep

theorem keepalive_waiters {c c' : Conn} (h : KeepaliveStep c c') : c.WaiterEffect c' none := by
  cases h <;> exact Conn.waiterEffect_of_writer rfl rfl rfl (fun _ h => h)

theorem hopSends_waiters {c c' : Conn} {message : Incoming} (h : c.hopSends message = some c') :
    c.WaiterEffect c' none := by
  rw [eq_of_hopSends h]
  exact Conn.waiterEffect_of_writer rfl rfl rfl (fun _ h => h)

end RzRouter
