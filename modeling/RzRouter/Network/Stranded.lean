import RzRouter.Network.Waiters
import RzRouter.Network.Writes

/-!
# No stranded waiter

When both tasks of a connection have ended, nobody resolves its channels any more.  A waiter whose
frame is accepted while one of the tasks has still to drain its shard is resolved before that.
`send_and_wait` does not see to it: between its closed check and its insertion both tasks can go
through all shards, and the channel of the writer still takes the frame.
-/

namespace RzRouter

variable {ι κ : Type}

namespace CallPhase

/-- The connection and the channel of a call whose waiter was inserted and that has not seen the
channel resolved. -/
def waiting? : CallPhase κ → Option (κ × Nat)
  | registered c _ tx | queued c _ tx => some (c, tx)
  | _ => none

/-- The connection and the channel of a call whose frame was accepted, until its wait or its
clean-up ends. -/
def accepted? : CallPhase κ → Option (κ × Nat)
  | queued c _ tx | expired c _ tx => some (c, tx)
  | _ => none

theorem current_of_waiting {ph : CallPhase κ} {c : κ} {tx : Nat} (h : ph.waiting? = some (c, tx)) :
    ∃ id, ph.current? = some (c, id, tx) := by
  cases ph with
  | registered c' id tx' | queued c' id tx' =>
    cases h
    exact ⟨id, rfl⟩
  | _ => cases h

theorem current_of_accepted {ph : CallPhase κ} {c : κ} {tx : Nat}
    (h : ph.accepted? = some (c, tx)) : ∃ id, ph.current? = some (c, id, tx) := by
  cases ph with
  | queued c' id tx' | expired c' id tx' =>
    cases h
    exact ⟨id, rfl⟩
  | _ => cases h

end CallPhase

/-! ## The moves of the calls -/

section Moves

variable [DecidableEq κ] {req : Request} {t : ι} {sh sh' : Shared ι κ} {ph ph' : CallPhase κ}

/-- A waiter stays registered until somebody removes it and drops its sender. -/
theorem registered_of_callStep (h : CallStep req t sh ph sh' ph') {c : κ} {tx : Nat}
    (hregistered : (sh.conns c).Registered tx) :
    (sh'.conns c).Registered tx ∨ sh'.state tx ≠ some .waiting := by
  obtain ⟨id, e, he, rfl⟩ := hregistered
  have hmove := connMove_of_callStep h c
  generalize sh'.conns c = conn' at hmove ⊢
  cases hmove with
  | register id' tx' sentAt hph hph' hinserted =>
    exact Or.inl ⟨id, e, Demux.has_insert_of_has he, rfl⟩
  -- the clean-up takes the waiter itself or another one
  | remove id' hdropped =>
    rcases Demux.has_remove_of_has id' he with hstays | htaken
    · exact Or.inl ⟨id, e, hstays, rfl⟩
    · exact Or.inr (hdropped _ htaken)
  | _ => exact Or.inl ⟨id, e, he, rfl⟩

/-- The sender of a channel that is still waiting is where it was, or in the demux. -/
theorem hasSender_of_callStep (h : CallStep req t sh ph sh' ph') {c : κ} {tx : Nat}
    (hsender : (sh.conns c).HasSender tx) (hwaiting : sh'.state tx = some .waiting) :
    (sh'.conns c).HasSender tx := by
  have hconn := conn_of_callStep h c
  rcases hsender with hregistered | hmem | hdelivers
  · rcases registered_of_callStep h hregistered with hstays | hresolved
    · exact Or.inl hstays
    · exact absurd hwaiting hresolved
  · exact Or.inr (Or.inl (Network.failing_of_callEffect hconn ▸ hmem))
  · unfold Conn.Delivers at hdelivers
    rw [← hconn.reader] at hdelivers
    exact Or.inr (Or.inr hdelivers)

theorem waiting_of_callStep (h : CallStep req t sh ph sh' ph') {c : κ} {tx : Nat}
    (hwaiting : ph'.waiting? = some (c, tx)) :
    ph.waiting? = some (c, tx) ∨ (sh'.conns c).Registered tx := by
  have hafter : ∀ tx', (CallPhase.afterSend req tx' : CallPhase κ).waiting? ≠ some (c, tx) := by
    intro tx'
    unfold CallPhase.afterSend
    split <;> exact nofun
  cases h with
  | register c' id tx' sentAt hinserted =>
    cases hwaiting
    refine Or.inr ⟨id, ⟨tx, sentAt⟩, ?_, rfl⟩
    rw [Shared.conns_setConn, if_pos rfl]
    exact Demux.has_of_insert hinserted
  | refuse c' id tx' | cleanUpExpired c' id tx' | timedOut c' id tx' =>
    exact absurd hwaiting (hafter tx')
  | skip | send => exact Or.inl hwaiting
  | _ => cases hwaiting

/-- Only an insertion puts a waiter into a shard. -/
theorem pastDraining_of_callStep (h : CallStep req t sh ph sh' ph') {c : κ} {tx : Nat}
    (hpast : (sh'.conns c).PastDraining tx) :
    (sh.conns c).PastDraining tx ∨ ∃ id, ph = .opened c id tx := by
  have hconn := conn_of_callStep h c
  obtain ⟨k, id, e, hlookup, rfl, hw, hr⟩ := hpast
  -- a move of a call leaves the tasks alone, so the shards they have passed are the same
  rw [hconn.writer] at hw
  rw [hconn.reader] at hr
  have hold : ((sh.conns c).demux.shards k).lookup id = some e →
      (sh.conns c).PastDraining e.tx := fun h => ⟨k, id, e, h, rfl, hw, hr⟩
  have hmove := connMove_of_callStep h c
  generalize sh'.conns c = conn' at hmove hlookup
  cases hmove with
  | register id' tx' sentAt hph hph' hinserted =>
    rcases Demux.lookup_insert hlookup with hsame | rfl
    · exact Or.inl (hold hsame)
    · exact Or.inr ⟨id', hph⟩
  | remove id' hdropped => exact Or.inl (hold (Demux.lookup_remove hlookup))
  | _ => exact Or.inl (hold hlookup)

theorem accepted_of_callStep (h : CallStep req t sh ph sh' ph') {c : κ} {tx : Nat}
    (haccepted : ph'.accepted? = some (c, tx)) :
    ph.accepted? = some (c, tx) ∨ ∃ id, ph = .registered c id tx ∧ ph' = .queued c id tx := by
  have hafter : ∀ tx', (CallPhase.afterSend req tx' : CallPhase κ).accepted? ≠ some (c, tx) := by
    intro tx'
    unfold CallPhase.afterSend
    split <;> exact nofun
  cases h with
  | send c' id tx' hlen hopen =>
    cases haccepted
    exact Or.inr ⟨id, rfl, rfl⟩
  | refuse c' id tx' | cleanUpExpired c' id tx' | timedOut c' id tx' =>
    exact absurd haccepted (hafter tx')
  | skip | elapse => exact Or.inl haccepted
  | _ => cases haccepted

end Moves

namespace Network

/-- Where a frame is accepted, one of the tasks has still to drain the shard of its waiter. -/
def SendsInTime (net : Network ι κ) (e : Event ι κ) : Prop :=
  ∀ t answer c id tx, e = .call t answer → (net.calls t).phase = .registered c id tx →
    (net.shared.conns c).Accepts → ¬ (net.shared.conns c).PastDraining tx

/-- What a call can rely on while its channel is waiting. -/
structure Waiting (net : Network ι κ) : Prop where
  sender : ∀ t c tx, (net.calls t).phase.waiting? = some (c, tx) →
    net.shared.state tx = some .waiting → (net.shared.conns c).HasSender tx
  inTime : ∀ t c tx, (net.calls t).phase.accepted? = some (c, tx) →
    ¬ (net.shared.conns c).PastDraining tx
  noTimeout : ∀ tx, net.shared.state tx ≠ some (.failed .timeout)

theorem waiting_init (fw : Forwarder) (reqs : ι → Request) (capacity : κ → Nat) :
    Waiting (init fw reqs capacity : Network ι κ) :=
  ⟨nofun, nofun, nofun⟩

section

variable [DecidableEq ι] [DecidableEq κ] {fw : Forwarder} {reqs : ι → Request}
  {net net' : Network ι κ}

/-- The writer's channel takes the frame of a call that goes on to wait. -/
theorem accepts_of_step (hfollows : Following fw reqs net) {t : ι} {answer : Answer κ} {c : κ}
    {id : UInt32} {tx : Nat} (h : net.step reqs (.call t answer) = some net')
    (hph : (net.calls t).phase = .registered c id tx)
    (hph' : (net'.calls t).phase = .queued c id tx) : (net.shared.conns c).Accepts := by
  simp only [step] at h
  split at h
  · cases h
  · rename_i o k hprog
    have hallowed : callAllowed (reqs t) (.registered c id tx) o := by
      have hthis := hfollows t
      rw [hprog, hph] at hthis
      exact hthis.1
    split at h
    · cases h
    · cases h
      rw [hph] at hph'
      cases hph'
    · rename_i shared r hserve
      cases h
      simp only [Function.update_self, hph] at hph'
      -- the only operation that leads on to the wait is an accepted `try_send`
      cases o with
      | trySend c' frame =>
        obtain ⟨rfl, -, -⟩ := hallowed
        cases answer with
        | state =>
          simp only [Shared.serve, Option.some.injEq, Prod.mk.injEq] at hserve
          obtain ⟨-, rfl⟩ := hserve
          simp only [callNext] at hph'
          split at hph'
          · rename_i haccepted
            exact Conn.trySend_accepted haccepted
          · cases hph'
        | _ => cases hserve
      | _ => cases hallowed

theorem waiting_of_callStep {t : ι} (hshape : Shape reqs net) (h : Waiting net)
    (hstep : CallStep (reqs t) t net.shared (net.calls t).phase net'.shared (net'.calls t).phase)
    (hothers : ∀ t', t' ≠ t → net'.calls t' = net.calls t')
    (hsend : ∀ c id tx, (net.calls t).phase = .registered c id tx →
      (net'.calls t).phase = .queued c id tx → ¬ (net.shared.conns c).PastDraining tx) :
    Waiting net' := by
  refine ⟨fun t' c tx hwaiting hstate => ?_, fun t' c tx haccepted hpast => ?_, fun tx hstate => ?_⟩
  · have hkeeps : (net.calls t').phase.waiting? = some (c, tx) →
        (net'.shared.conns c).HasSender tx := by
      intro hold
      obtain ⟨id, hcurrent⟩ := CallPhase.current_of_waiting hold
      refine hasSender_of_callStep hstep (h.sender t' c tx hold ?_) hstate
      rcases state_of_callStep hstep hstate with hsame | ⟨rfl, -⟩ | ⟨-, -, -, -, hdropped, -⟩
      · exact hsame
      · exact absurd (Shared.lt_of_ident (hshape.current t' c id _ hcurrent)) (Nat.lt_irrefl _)
      · cases hdropped
    by_cases ht : t' = t
    · subst ht
      exact (RzRouter.waiting_of_callStep hstep hwaiting).elim hkeeps Or.inl
    · rw [hothers t' ht] at hwaiting
      exact hkeeps hwaiting
  · rcases pastDraining_of_callStep hstep hpast with hold | ⟨id, hopened⟩
    · by_cases ht : t' = t
      · subst ht
        rcases accepted_of_callStep hstep haccepted with hbefore | ⟨id, hph, hph'⟩
        · exact h.inTime t' c tx hbefore hold
        · exact hsend c id tx hph hph' hold
      · rw [hothers t' ht] at haccepted
        exact h.inTime t' c tx haccepted hold
    · -- the inserted waiter is that of call `t`, which has not sent its frame
      have hmine := hshape.current t c id tx (by rw [hopened]; rfl)
      by_cases ht : t' = t
      · subst ht
        rcases accepted_of_callStep hstep haccepted with hbefore | ⟨id', hph, -⟩
        · rw [hopened] at hbefore
          cases hbefore
        · rw [hopened] at hph
          cases hph
      · rw [hothers t' ht] at haccepted
        obtain ⟨id', hcurrent⟩ := CallPhase.current_of_accepted haccepted
        rw [hshape.current t' c id' tx hcurrent] at hmine
        cases hmine
        exact ht rfl
  · rcases state_of_callStep hstep hstate with hold | ⟨-, hnew⟩ | ⟨-, -, -, -, hdropped, -⟩
    · exact h.noTimeout tx hold
    · cases hnew
    · cases hdropped

omit [DecidableEq ι] [DecidableEq κ] in
theorem waiting_notify {sh : Shared ι κ} {notice : Option Notice} {tx : Nat}
    (h : (sh.notify notice).state tx = some .waiting) :
    sh.state tx = some .waiting ∧ ∀ result, notice ≠ some ⟨tx, result⟩ := by
  -- a channel that is resolved is not waiting
  have hresolved : ∀ new, new ≠ .waiting → (sh.resolve tx new).state tx ≠ some .waiting := by
    intro new hnew hstate
    rw [Shared.state_resolve, if_pos rfl] at hstate
    obtain ⟨old, -, hold⟩ := Option.map_eq_some_iff.mp hstate
    cases old with
    | waiting => exact hnew hold
    | _ => cases hold
  refine ⟨?_, ?_⟩
  · rcases notice with _ | ⟨tx', e | ⟨index, response⟩⟩
    · exact h
    · exact (Shared.state_resolve_cases h).elim id (fun ⟨_, hnew, _⟩ => nomatch hnew)
    · exact (Shared.state_resolve_cases h).elim id (fun ⟨_, hnew, _⟩ => nomatch hnew)
  · rintro (e | ⟨index, response⟩) rfl
    · exact hresolved (.failed e) nofun h
    · exact hresolved (.received index response) nofun h

omit [DecidableEq ι] in
theorem waiting_of_task {c : κ} {conn : Conn} {notice : Option Notice} (h : Waiting net)
    (hshared : net'.shared = (net.shared.setConn c conn).notify notice)
    (hcalls : net'.calls = net.calls)
    (heffect : (net.shared.conns c).WaiterEffect conn notice) : Waiting net' := by
  have hconns : ∀ c', net'.shared.conns c' = if c' = c then conn else net.shared.conns c' := by
    intro c'
    rw [hshared, Shared.conns_notify, Shared.conns_setConn]
  refine ⟨fun t c' tx hwaiting hstate => ?_, fun t c' tx haccepted hpast => ?_, fun tx hstate => ?_⟩
  · rw [hcalls] at hwaiting
    rw [hshared] at hstate
    obtain ⟨hold, hnotice⟩ := waiting_notify hstate
    have hsender := h.sender t c' tx hwaiting hold
    rw [hconns]
    split
    · rename_i hc
      subst hc
      -- the step keeps the sender or uses it, and a used sender resolves the channel
      rcases heffect.sender tx hsender with hstays | ⟨result, hused⟩
      · exact hstays
      · exact absurd hused (hnotice result)
    · exact hsender
  · rw [hcalls] at haccepted
    rw [hconns] at hpast
    split at hpast
    · rename_i hc
      subst hc
      exact h.inTime t c' tx haccepted (heffect.past tx hpast)
    · exact h.inTime t c' tx haccepted hpast
  · rw [hshared] at hstate
    -- `fail_all` only ever sends `ConnectionClosed`
    rcases notice with _ | ⟨tx', e | ⟨index, response⟩⟩
    · exact h.noTimeout tx hstate
    · rcases Shared.state_resolve_cases hstate with hold | ⟨rfl, hfailed, -⟩
      · exact h.noTimeout tx hold
      · cases hfailed
        cases heffect.failed tx .timeout rfl
    · rcases Shared.state_resolve_cases hstate with hold | ⟨-, hreceived, -⟩
      · exact h.noTimeout tx hold
      · cases hreceived

theorem waiting_step {e : Event ι κ} (hfollows : Following fw reqs net) (hshape : Shape reqs net)
    (h : Waiting net) (hsend : SendsInTime net e) (hstep : net.step reqs e = some net') :
    Waiting net' := by
  cases e with
  | call t answer =>
    rcases call_cases hfollows hstep with ⟨hmove, hothers⟩ | ⟨c, hshared, -, hcalls⟩
    · exact waiting_of_callStep hshape h hmove hothers (fun c id tx hph hph' =>
        hsend t answer c id tx rfl hph (accepts_of_step hfollows hstep hph hph'))
    · exact waiting_of_task h (show net'.shared = (net.shared.setConn c _).notify none from hshared)
        hcalls (Conn.waiterEffect_of_writer rfl rfl rfl (fun _ h => h))
  | keepalive c =>
    obtain ⟨conn, hconn, rfl⟩ := Option.map_eq_some_iff.mp hstep
    exact waiting_of_task h rfl rfl (keepalive_waiters (keepaliveStep_cases hconn))
  | writer c choice =>
    obtain ⟨shared, hshared, rfl⟩ := Option.map_eq_some_iff.mp hstep
    obtain ⟨⟨conn, notice⟩, hstep', rfl⟩ := Option.map_eq_some_iff.mp hshared
    exact waiting_of_task h rfl rfl (writerStep_waiters (writerStep_cases hstep'))
  | reader c choice =>
    obtain ⟨shared, hshared, rfl⟩ := Option.map_eq_some_iff.mp hstep
    obtain ⟨⟨conn, notice⟩, hstep', rfl⟩ := Option.map_eq_some_iff.mp hshared
    exact waiting_of_task h rfl rfl (readerStep_waiters (readerStep_cases hstep'))
  | hop c message =>
    obtain ⟨conn, hconn, rfl⟩ := Option.map_eq_some_iff.mp hstep
    exact waiting_of_task h rfl rfl (hopSends_waiters hconn)
  | shutdown c =>
    cases hstep
    exact waiting_of_task h
      (show _ = (net.shared.setConn c (net.shared.conns c).close).notify none from rfl) rfl
      (Conn.waiterEffect_of_writer rfl rfl rfl (fun _ h => h))

theorem waiting_of_run {capacity : κ → Nat} {es : List (Event ι κ)}
    (hrun : Transition.run (step reqs) (init fw reqs capacity) es = some net)
    (hsend : Transition.Meets (step reqs) SendsInTime (init fw reqs capacity) es) :
    Following fw reqs net ∧ Shape reqs net ∧ Waiting net :=
  Transition.invariant_of_meets
    (I := fun net => Following fw reqs net ∧ Shape reqs net ∧ Waiting net)
    (fun _ _ _ ⟨hfollows, hshape, hwaiting⟩ hcond hstep =>
      ⟨following_step hfollows hstep, shape_step hfollows hshape hstep,
        waiting_step hfollows hshape hwaiting hcond hstep⟩)
    ⟨following_init capacity, shape_init fw reqs capacity, waiting_init fw reqs capacity⟩ hsend hrun

omit [DecidableEq ι] [DecidableEq κ] in
/-- The channel of a waiting call is resolved once both tasks have ended. -/
theorem resolved_of_ended {t : ι} {c : κ} {id : UInt32} {tx : Nat} (hshape : Shape reqs net)
    (hwaiting : Waiting net) (hwriter : (net.shared.conns c).writer = .ended)
    (hreader : (net.shared.conns c).reader = .ended)
    (hqueued : (net.calls t).phase = .queued c id tx) :
    (∃ index response, net.shared.state tx = some (.received index response)) ∨
      net.shared.state tx = some (.failed .connectionClosed) ∨
        net.shared.state tx = some .dropped := by
  obtain ⟨st, hst⟩ := Shared.state_ne_none_of_ident
    (hshape.current t c id tx (by rw [hqueued]; rfl))
  cases st with
  | waiting =>
    -- its sender would be in a shard that both tasks have drained
    have hsender := hwaiting.sender t c tx (by rw [hqueued]; rfl) hst
    have hregistered := Conn.registered_of_ended hwriter hreader hsender
    exact absurd (Conn.pastDraining_of_ended hwriter hreader hregistered)
      (hwaiting.inTime t c tx (by rw [hqueued]; rfl))
  | received index response => exact Or.inl ⟨index, response, hst⟩
  | failed e =>
    cases e with
    | timeout => exact absurd hst (hwaiting.noTimeout tx)
    | connectionClosed => exact Or.inr (Or.inl hst)
  | dropped => exact Or.inr (Or.inr hst)

/-- The time-out of a wait fires only while the channel is waiting. -/
theorem waiting_of_expired {t : ι} {answer : Answer κ} {c : κ} {id : UInt32} {tx : Nat}
    (hfollows : Following fw reqs net) (hstep : net.step reqs (.call t answer) = some net')
    (hqueued : (net.calls t).phase = .queued c id tx)
    (hexpired : (net'.calls t).phase = .expired c id tx) :
    net.shared.state tx = some .waiting := by
  rcases call_cases hfollows hstep with ⟨hmove, -⟩ | ⟨-, -, -, hcalls⟩
  · rw [hqueued] at hmove
    generalize (net'.calls t).phase = ph', net'.shared = sh' at hmove hexpired
    cases hmove with
    | elapse c' id' tx' ch hch hstate =>
      unfold Shared.state
      rw [hch, ← hstate]
      rfl
    | timedOut c' id' tx' ch hch hstate =>
      unfold CallPhase.afterSend at hexpired
      split at hexpired <;> cases hexpired
    | _ => cases hexpired
  · rw [hcalls, hqueued] at hexpired
    cases hexpired

end

/-! ## Runs of one call -/

/-- The call tries connection `c`, up to the closed check of `send_and_wait`. -/
def passesCheck (c : Bool) : List (Event Unit Bool) :=
  [.call () (.routing parisTable), .call () (.hop (some ⟨"router-a", 0⟩)),
    .call () (.connection (some c))] ++ List.replicate 3 (.call () .state)

/-- The call registers its waiter and hands over its frame. -/
def registersAndSends : List (Event Unit Bool) :=
  [.call () .state, .call () (.instant 0), .call () .state, .call () .state]

/-- The peer closes the connection, and the reader finds no waiter. -/
def readerEnds (c : Bool) : List (Event Unit Bool) :=
  [.reader c .eof, .reader c .proceed] ++ List.replicate NUM_SHARDS (.reader c (.drain [])) ++
    List.replicate 2 (.reader c .proceed)

/-- The writer takes a frame, sees that the connection is closed, and finds no waiter. -/
def writerFailsAll (c : Bool) : List (Event Unit Bool) :=
  List.replicate 2 (.writer c .proceed) ++ List.replicate NUM_SHARDS (.writer c (.drain [])) ++
    List.replicate 2 (.writer c .proceed)

/-- The writer stores `closed` again and drops the receiver. -/
def writerEnds (c : Bool) : List (Event Unit Bool) := List.replicate 2 (.writer c .proceed)

/-- No call moves once a reader has begun its `fail_all`. -/
def beforeReader (net : Network Unit Bool) : Event Unit Bool → Bool
  | .call _ _ => !(net.shared.conns false).reader.begunFailAll &&
      !(net.shared.conns true).reader.begunFailAll
  | _ => true

theorem begunFailAll_of_passed {r : Reader} {k : Fin NUM_SHARDS} (h : r.passed k = true) :
    r.begunFailAll = true := by
  cases r with
  | failAll | ended => rfl
  | _ => cases h

theorem sendsInTime_of_beforeReader (net : Network Unit Bool) (e : Event Unit Bool)
    (h : beforeReader net e = true) : SendsInTime net e := by
  rintro t answer c id tx rfl - - ⟨k, -, -, -, -, -, hpassed⟩
  have hbegun := begunFailAll_of_passed hpassed
  cases c <;> simp [beforeReader, hbegun] at h

section Results

variable [DecidableEq ι] [DecidableEq κ]

/-- In every run in which frames are accepted in time: once both tasks of a connection have ended,
no waiter whose frame was accepted is registered, and a call that waits for it gets a response or
`ConnectionClosed`, which is also what a dropped sender means, and not its time-out. -/
theorem no_stranded_waiter (fw : Forwarder) (reqs : ι → Request) (capacity : κ → Nat)
    (es : List (Event ι κ)) (net : Network ι κ)
    (hrun : Transition.run (step reqs) (init fw reqs capacity) es = some net)
    (hsend : Transition.Meets (step reqs) SendsInTime (init fw reqs capacity) es) (c : κ)
    (hwriter : (net.shared.conns c).writer = .ended)
    (hreader : (net.shared.conns c).reader = .ended) (t : ι) (id : UInt32) (tx : Nat) :
    ((net.calls t).phase.accepted? = some (c, tx) → ¬ (net.shared.conns c).Registered tx) ∧
    ((net.calls t).phase = .queued c id tx →
      ((∃ index response, net.shared.state tx = some (.received index response)) ∨
        net.shared.state tx = some (.failed .connectionClosed) ∨
          net.shared.state tx = some .dropped) ∧
      ∀ answer net', net.step reqs (.call t answer) = some net' →
        (net'.calls t).phase ≠ .expired c id tx) := by
  obtain ⟨hfollows, hshape, hwaiting⟩ := waiting_of_run hrun hsend
  refine ⟨fun haccepted hregistered => ?_, fun hqueued => ?_⟩
  · exact hwaiting.inTime t c tx haccepted
      (Conn.pastDraining_of_ended hwriter hreader hregistered)
  · have hresolved := resolved_of_ended hshape hwaiting hwriter hreader hqueued
    refine ⟨hresolved, fun answer net' hstep hexpired => ?_⟩
    have hstate := waiting_of_expired hfollows hstep hqueued hexpired
    rw [hstate] at hresolved
    rcases hresolved with ⟨index, response, hreceived⟩ | hfailed | hdropped
    · cases hreceived
    · cases hfailed
    · cases hdropped

set_option maxRecDepth 2000 in
/-- The peer closes the connection while the frame is queued: the reader fails the waiter. -/
theorem no_stranded_waiter_paris :
    ∃ net, Transition.run (step fun _ => parisWrite) oneWrite
        (tries false ++ peerCloses false ++ writerFailsAll false ++ writerEnds false) = some net ∧
      (net.calls ()).phase = .queued false 1 0 ∧ ¬ (net.shared.conns false).Registered 0 ∧
      net.shared.state 0 = some (.failed .connectionClosed) := by
  obtain ⟨net, hrun, hnet⟩ := Option.map_eq_some_iff.mp (show
    (Transition.run (step fun _ => parisWrite) oneWrite
        (tries false ++ peerCloses false ++ writerFailsAll false ++ writerEnds false)).map
      (fun net => ((net.shared.conns false).writer, (net.shared.conns false).reader,
        (net.calls ()).phase, net.shared.state 0)) =
    some (.ended, .ended, .queued false 1 0, some (.failed .connectionClosed)) from rfl)
  simp only [Prod.mk.injEq] at hnet
  obtain ⟨hwriter, hreader, hphase, hstate⟩ := hnet
  have hresult := no_stranded_waiter ⟨3, []⟩ _ _ _ net hrun
    (Transition.meets_of_checks sendsInTime_of_beforeReader rfl) false hwriter hreader () 1 0
  exact ⟨net, hrun, hphase, hresult.1 (by rw [hphase]; rfl), hstate⟩

set_option maxRecDepth 2000 in
/-- After the closed check of the call, both tasks go through all shards.  The channel of the writer
still takes the frame, and the waiter is left registered: the wait runs into its time-out. -/
theorem waiter_stranded :
    ∃ net, Transition.run (step fun _ => parisWrite) oneWrite
        (passesCheck false ++ [.keepalive false, .keepalive false] ++ readerEnds false ++
          writerFailsAll false ++ registersAndSends ++ writerEnds false) = some net ∧
      (net.shared.conns false).writer = .ended ∧ (net.shared.conns false).reader = .ended ∧
      (net.calls ()).phase = .queued false 1 0 ∧ (net.shared.conns false).Registered 0 ∧
      net.shared.state 0 = some .waiting ∧
      ∃ net', net.step (fun _ => parisWrite) (.call () .state) = some net' ∧
        (net'.calls ()).phase = .expired false 1 0 := by
  obtain ⟨net, hrun, hnet⟩ := Option.map_eq_some_iff.mp (show
    (Transition.run (step fun _ => parisWrite) oneWrite
        (passesCheck false ++ [.keepalive false, .keepalive false] ++ readerEnds false ++
          writerFailsAll false ++ registersAndSends ++ writerEnds false)).map
      (fun net => ((net.shared.conns false).writer, (net.shared.conns false).reader,
        (net.calls ()).phase, ((net.shared.conns false).demux.shards 1).lookup 1,
        net.shared.state 0,
        (net.step (fun _ => parisWrite) (.call () .state)).map (fun net' =>
          (net'.calls ()).phase))) =
    some (.ended, .ended, .queued false 1 0, some ⟨0, 0⟩, some .waiting,
      some (.expired false 1 0)) from rfl)
  simp only [Prod.mk.injEq] at hnet
  obtain ⟨hwriter, hreader, hphase, hentry, hstate, hexpires⟩ := hnet
  obtain ⟨net', hstep, hexpired⟩ := Option.map_eq_some_iff.mp hexpires
  exact ⟨net, hrun, hwriter, hreader, hphase, ⟨1, ⟨0, 0⟩, ⟨1, hentry⟩, rfl⟩, hstate, net', hstep,
    hexpired⟩

end Results

end Network

end RzRouter
