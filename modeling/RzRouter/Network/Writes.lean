import RzRouter.Network.AtMostOnce

/-!
# Writes are written once, and fail truthfully

The results about writes: in every run that spares the writes, a write goes to at most one socket
once, and a call that reports a definite failure has not been written.  In the run at the end the
peer closes a connection after a write was sent, and the write is sent again.
-/

namespace RzRouter

open Program

variable {ι κ : Type}

namespace Network

/-- The `i`-th frame on the socket of connection `c` is one that call `t` sent. -/
def WrittenAt (net : Network ι κ) (t : ι) (c : κ) (i : Nat) : Prop :=
  ∃ out tx id, (net.shared.conns c).wire[i]? = some out ∧ out.tx = some tx ∧
    net.shared.ident tx = some (t, c, id)

/-- A frame of call `t` is on the socket of connection `c` or can still get there. -/
def MayBeWritten (net : Network ι κ) (t : ι) (c : κ) : Prop :=
  ∃ tx id, (net.shared.conns c).Live tx ∧ net.shared.ident tx = some (t, c, id)

/-- A response has come back to call `t`. -/
def Answered (net : Network ι κ) (t : ι) : Prop :=
  ∃ c id tx response, (net.calls t).phase = .answered c id tx response

theorem mayBeWritten_of_writtenAt {net : Network ι κ} {t : ι} {c : κ} {i : Nat}
    (h : net.WrittenAt t c i) : net.MayBeWritten t c := by
  obtain ⟨⟨tx, bytes⟩, tx', id, hwire, htx, hident⟩ := h
  cases htx
  exact ⟨tx', id, Or.inl (Or.inl ⟨bytes, List.mem_of_getElem? hwire⟩), hident⟩

theorem holds_unique {ph : CallPhase κ} {tx tx' : Nat} (h : ph.Holds tx) (h' : ph.Holds tx') :
    tx = tx' := by
  cases ph <;> simp only [CallPhase.Holds] at h h' <;> omega

theorem index_unique {α β : Type} {f : α → Option β} {l : List α} (hl : (l.filterMap f).Nodup)
    {i j : Nat} {a b : α} {x : β} (hi : l[i]? = some a) (hj : l[j]? = some b)
    (ha : f a = some x) (hb : f b = some x) : i = j := by
  induction l generalizing i j with
  | nil => cases hi
  | cons y l ih =>
    -- a later element with the same value would make the list of values repeat
    have htail : ∀ {k : Nat} {z : α}, l[k]? = some z → f z = some x → f y = some x → False := by
      intro k z hk hz hy
      rw [List.filterMap_cons_some hy] at hl
      exact (List.nodup_cons.mp hl).1 (List.mem_filterMap.mpr ⟨z, List.mem_of_getElem? hk, hz⟩)
    have hnodup : (l.filterMap f).Nodup := by
      cases hy : f y with
      | none =>
        rw [List.filterMap_cons_none hy] at hl
        exact hl
      | some z =>
        rw [List.filterMap_cons_some hy] at hl
        exact (List.nodup_cons.mp hl).2
    cases i with
    | zero =>
      cases j with
      | zero => rfl
      | succ j =>
        cases hi
        exact (htail hj hb ha).elim
    | succ i =>
      cases j with
      | zero =>
        cases hj
        exact (htail hi ha hb).elim
      | succ j => rw [ih hnodup hi hj]

theorem place_unique {reqs : ι → Request} {net : Network ι κ} (hshape : Shape reqs net) {c : κ}
    {i i' : Nat} {out out' : Outgoing} {tx : Nat} (hi : (net.shared.conns c).wire[i]? = some out)
    (hi' : (net.shared.conns c).wire[i']? = some out') (htx : out.tx = some tx)
    (htx' : out'.tx = some tx) : i = i' := by
  have hnodup : ((net.shared.conns c).wire.filterMap Outgoing.tx).Nodup := by
    have h := hshape.nodup c
    unfold Conn.txs Conn.frames at h
    rw [List.filterMap_append, List.filterMap_append] at h
    exact (List.nodup_append.mp (List.nodup_append.mp h).1).1
  exact index_unique hnodup hi hi' htx htx'

/-- What a write that may be written has returned, if it has returned. -/
theorem result_of_mayBeWritten {fw : Forwarder} {reqs : ι → Request} {net : Network ι κ}
    (h : WriteSafe fw reqs net) {t : ι} {c : κ} {result : Except ForwardError (List UInt8)}
    (hwrite : (reqs t).isWrite = true) (hreturned : (net.calls t).prog = .ret result)
    (hmay : net.MayBeWritten t c) :
    result = .error .timeout ∨ net.Answered t ∧ ∃ response, result = .ok response := by
  obtain ⟨tx, id, hlive, hident⟩ := hmay
  have hholds := h.writes.live c tx t id hlive hident hwrite
  have hpost := h.follows t
  rw [hreturned] at hpost
  unfold Answered
  -- the call holds its frame: it is unsure, answered, or still waiting
  cases hphase : (net.calls t).phase with
  | unsure tx' =>
    rw [hphase] at hpost
    exact Or.inl hpost
  | answered c' id' tx' response =>
    rw [hphase] at hpost
    exact Or.inr ⟨⟨c', id', tx', response, rfl⟩, _, hpost.2⟩
  | queued c' id' tx' =>
    rw [hphase] at hpost
    exact hpost.elim
  | expired c' id' tx' =>
    rw [hphase] at hpost
    exact hpost.elim
  | _ =>
    rw [hphase] at hholds
    exact hholds.elim

/-! ## Runs of one write

A write for segment `paris` on a hop with two connections. -/

def parisWrite : Request where
  frame := [0xFE, 16, 0, 0, 0, 5, 0x70, 0x61, 0x72, 0x69, 0x73, 1, 0xFF, 7, 0, 0, 0, 0, 0, 0, 0]
  segment := "paris"
  clridOffset := 13
  originalClrid := 7
  isWrite := true

example : (tryDecodeRouter parisWrite.frame).toOption = some (some
    { segment := "paris", isWrite := true, clridOffset := 13, originalClrid := 7,
      frameLen := 21 }) := by decide

def parisTable : RoutingSnapshot :=
  .edge
    { segmentToZone := (∅ : FiniteMap String String).insert "paris" "a"
      zoneToRouters := (∅ : FiniteMap String (List String)).insert "a" ["router-a"] }

def oneWrite : Network Unit Bool := init ⟨3, []⟩ (fun _ => parisWrite) (fun _ => 1024)

/-- The call tries connection `c`, up to the accepted frame. -/
def tries (c : Bool) : List (Event Unit Bool) :=
  [.call () (.routing parisTable), .call () (.hop (some ⟨"router-a", 0⟩)),
    .call () (.connection (some c))] ++
  List.replicate 4 (.call () .state) ++ [.call () (.instant 0)] ++
  List.replicate 2 (.call () .state)

/-- The writer takes a frame, checks, writes and flushes. -/
def writes (c : Bool) : List (Event Unit Bool) := List.replicate 4 (.writer c .proceed)

/-- The peer closes the connection and the reader fails the waiter of id 1. -/
def peerCloses (c : Bool) : List (Event Unit Bool) :=
  [.reader c .eof, .reader c .proceed] ++
  (List.range NUM_SHARDS).map (fun k => .reader c (.drain (if k = 1 then [1] else []))) ++
  List.replicate 3 (.reader c .proceed)

/-- The task of the event is not inside `fail_all`. -/
def outsideFailAll (net : Network Unit Bool) : Event Unit Bool → Bool
  | .writer c _ => !(net.shared.conns c).writer.begunFailAll
  | .reader c _ => !(net.shared.conns c).reader.begunFailAll
  | _ => true

theorem sparesWrites_of_outsideFailAll (reqs : Unit → Request) (net : Network Unit Bool)
    (e : Event Unit Bool) (h : outsideFailAll net e = true) : SparesWrites reqs net e where
  drained := by
    intro tx t c id hdrains
    cases e with
    | writer c' choice =>
      obtain ⟨pc, hpc, -⟩ := hdrains
      simp [outsideFailAll, hpc, Writer.begunFailAll] at h
    | reader c' choice =>
      obtain ⟨pc, hpc, -⟩ := hdrains
      simp [outsideFailAll, hpc, Reader.begunFailAll] at h
    | call | keepalive | hop | shutdown => exact hdrains.elim
  cleanedUp := fun _ _ _ _ _ _ _ _ _ _ _ _ _ _ => rfl

section Results

variable [DecidableEq ι] [DecidableEq κ]

/-- In every run that spares the writes, the frame of a write is on one socket, at one place. -/
theorem write_sent_at_most_once (fw : Forwarder) (reqs : ι → Request) (capacity : κ → Nat)
    (es : List (Event ι κ)) (net : Network ι κ)
    (hrun : Transition.run (step reqs) (init fw reqs capacity) es = some net)
    (hspares : Transition.Meets (step reqs) (SparesWrites reqs) (init fw reqs capacity) es)
    (t : ι) (hwrite : (reqs t).isWrite = true) (c c' : κ) (i i' : Nat)
    (h : net.WrittenAt t c i) (h' : net.WrittenAt t c' i') : c = c' ∧ i = i' := by
  have hsafe := writeSafe_of_run hrun hspares
  obtain ⟨⟨tx₁, bytes⟩, tx, id, hwire, htx, hident⟩ := h
  obtain ⟨⟨tx₁', bytes'⟩, tx', id', hwire', htx', hident'⟩ := h'
  cases htx
  cases htx'
  have hholds := hsafe.writes.live c tx t id
    (Or.inl (Or.inl ⟨bytes, List.mem_of_getElem? hwire⟩)) hident hwrite
  have hholds' := hsafe.writes.live c' tx' t id'
    (Or.inl (Or.inl ⟨bytes', List.mem_of_getElem? hwire'⟩)) hident' hwrite
  -- a call holds one channel, so both frames belong to one try
  have heq := holds_unique hholds hholds'
  subst heq
  rw [hident] at hident'
  cases hident'
  exact ⟨rfl, place_unique hsafe.shape hwire hwire' rfl rfl⟩

theorem write_sent_at_most_once_paris :
    ∃ net, Transition.run (step fun _ => parisWrite) oneWrite (tries false ++ writes false) =
        some net ∧
      ∀ c i, net.WrittenAt () c i → c = false ∧ i = 0 := by
  obtain ⟨net, hrun, hnet⟩ := Option.map_eq_some_iff.mp (show
    (Transition.run (step fun _ => parisWrite) oneWrite (tries false ++ writes false)).map
      (fun net => ((net.shared.conns false).wire[0]?, net.shared.ident 0)) =
    some (some ⟨some 0, parisWrite.frameFor 1⟩, some ((), false, 1)) from rfl)
  rw [Prod.mk.injEq] at hnet
  refine ⟨net, hrun, fun c i h => ?_⟩
  exact write_sent_at_most_once ⟨3, []⟩ _ _ _ net hrun
    (Transition.meets_of_checks (sparesWrites_of_outsideFailAll _) rfl) () rfl c false i 0 h
    ⟨_, 0, 1, hnet.1, rfl, hnet.2⟩

/-- A hop that closes the connection after the frame was written: the call takes the write as not
sent and writes it to the other connection. -/
theorem write_sent_twice :
    ∃ net, Transition.run (step fun _ => parisWrite) oneWrite
        (tries false ++ writes false ++ peerCloses false ++ List.replicate 3 (.call () .state) ++
          tries true ++ writes true) = some net ∧
      net.WrittenAt () false 0 ∧ net.WrittenAt () true 0 := by
  obtain ⟨net, hrun, hnet⟩ := Option.map_eq_some_iff.mp (show
    (Transition.run (step fun _ => parisWrite) oneWrite
        (tries false ++ writes false ++ peerCloses false ++ List.replicate 3 (.call () .state) ++
          tries true ++ writes true)).map
      (fun net => ((net.shared.conns false).wire[0]?, net.shared.ident 0,
        (net.shared.conns true).wire[0]?, net.shared.ident 1)) =
    some (some ⟨some 0, parisWrite.frameFor 1⟩, some ((), false, 1),
      some ⟨some 1, parisWrite.frameFor 1⟩, some ((), true, 1)) from rfl)
  simp only [Prod.mk.injEq] at hnet
  obtain ⟨hfirst, hfirst', hsecond, hsecond'⟩ := hnet
  exact ⟨net, hrun, ⟨_, 0, 1, hfirst, rfl, hfirst'⟩, ⟨_, 1, 1, hsecond, rfl, hsecond'⟩⟩

/-- In every run that spares the writes, a write that returns a definite failure is on no socket,
and one that may be written without a response has returned `Timeout`. -/
theorem write_fails_truthfully (fw : Forwarder) (reqs : ι → Request) (capacity : κ → Nat)
    (es : List (Event ι κ)) (net : Network ι κ)
    (hrun : Transition.run (step reqs) (init fw reqs capacity) es = some net)
    (hspares : Transition.Meets (step reqs) (SparesWrites reqs) (init fw reqs capacity) es)
    (t : ι) (hwrite : (reqs t).isWrite = true) (result : Except ForwardError (List UInt8))
    (hreturned : (net.calls t).prog = .ret result) :
    (result = .error .networkError ∨ (∃ segment, result = .error (.unknownSegment segment)) →
      ∀ c i, ¬ net.WrittenAt t c i) ∧
    ∀ c, net.MayBeWritten t c → ¬ net.Answered t → result = .error .timeout := by
  have hsafe := writeSafe_of_run hrun hspares
  constructor
  · intro hfailure c i hwritten
    rcases result_of_mayBeWritten hsafe hwrite hreturned (mayBeWritten_of_writtenAt hwritten) with
      rfl | ⟨-, response, rfl⟩
    · rcases hfailure with hnetwork | ⟨segment, hunknown⟩
      · cases hnetwork
      · cases hunknown
    · rcases hfailure with hnetwork | ⟨segment, hunknown⟩
      · cases hnetwork
      · cases hunknown
  · intro c hmay hnone
    rcases result_of_mayBeWritten hsafe hwrite hreturned hmay with htimeout | ⟨hanswered, -⟩
    · exact htimeout
    · exact absurd hanswered hnone

/-- A write that is sent and not answered in time returns `Timeout`. -/
theorem write_fails_truthfully_paris :
    ∃ net result, Transition.run (step fun _ => parisWrite) oneWrite
        (tries false ++ writes false ++ List.replicate 2 (.call () .state)) = some net ∧
      (net.calls ()).prog = .ret result ∧ net.MayBeWritten () false ∧ result = .error .timeout := by
  obtain ⟨net, hrun, hnet⟩ := Option.map_eq_some_iff.mp (show
    (Transition.run (step fun _ => parisWrite) oneWrite
        (tries false ++ writes false ++ List.replicate 2 (.call () .state))).map
      (fun net => (net.calls (), (net.shared.conns false).wire[0]?, net.shared.ident 0)) =
    some (⟨.ret (.error .timeout), .unsure 0⟩, some ⟨some 0, parisWrite.frameFor 1⟩,
      some ((), false, 1)) from rfl)
  simp only [Prod.mk.injEq] at hnet
  obtain ⟨hcall, hwire, hident⟩ := hnet
  have hprog : (net.calls ()).prog = .ret (.error .timeout) := by rw [hcall]
  have hmay : net.MayBeWritten () false :=
    mayBeWritten_of_writtenAt ⟨_, 0, 1, hwire, rfl, hident⟩
  have hnone : ¬ net.Answered () := by
    rintro ⟨c, id, tx, response, hphase⟩
    rw [hcall] at hphase
    cases hphase
  exact ⟨net, _, hrun, hprog, hmay, (write_fails_truthfully ⟨3, []⟩ _ _ _ net hrun
    (Transition.meets_of_checks (sparesWrites_of_outsideFailAll _) rfl) () rfl _ hprog).2 false hmay
    hnone⟩

/-- The hop closes the connection after the frame was written, and the segment leaves the routing
table: the call answers that the segment is unknown. -/
theorem written_write_unknown_segment :
    ∃ net, Transition.run (step fun _ => parisWrite) oneWrite
        (tries false ++ writes false ++ peerCloses false ++ List.replicate 3 (.call () .state) ++
          [.call () (.routing (.edge EdgeState.new))]) = some net ∧
      (net.calls ()).prog = .ret (.error (.unknownSegment "paris")) ∧
      net.WrittenAt () false 0 := by
  obtain ⟨net, hrun, hnet⟩ := Option.map_eq_some_iff.mp (show
    (Transition.run (step fun _ => parisWrite) oneWrite
        (tries false ++ writes false ++ peerCloses false ++ List.replicate 3 (.call () .state) ++
          [.call () (.routing (.edge EdgeState.new))])).map
      (fun net => ((net.calls ()).prog, (net.shared.conns false).wire[0]?, net.shared.ident 0)) =
    some (.ret (.error (.unknownSegment "paris")), some ⟨some 0, parisWrite.frameFor 1⟩,
      some ((), false, 1)) from rfl)
  simp only [Prod.mk.injEq] at hnet
  obtain ⟨hprog, hwire, hident⟩ := hnet
  exact ⟨net, hrun, hprog, ⟨_, 0, 1, hwire, rfl, hident⟩⟩

end Results

end Network

end RzRouter
