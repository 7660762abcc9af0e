import RzRouter.Network.Stream
import RzRouter.Network.System

/-!
# What one event does

A step of a call is one of the moves of `CallStep`, which its phase determines; any other event
changes one connection as `TaskEffect` says.  Invariants are proved from these two facts only.
-/

namespace RzRouter

open Program

variable {ι κ : Type} [DecidableEq κ]

/-- A move of call `t`, from one phase and shared state to the next. -/
inductive CallStep (req : Request) (t : ι) (sh : Shared ι κ) :
    CallPhase κ → Shared ι κ → CallPhase κ → Prop
  /-- Nothing the call holds or shares changes. -/
  | skip (ph : CallPhase κ) : CallStep req t sh ph sh ph
  /-- The connection is closed before anything was registered. -/
  | giveUp (c : κ) (id : UInt32) : CallStep req t sh (.drawn c id) sh .free
  | close (c : κ) : CallStep req t sh .free (sh.setConn c (sh.conns c).close) .free
  | draw (c : κ) (hid : (sh.conns c).corrId ≠ 0) :
      CallStep req t sh .free (sh.setConn c (sh.conns c).fetchCorrId.1)
        (.drawn c (sh.conns c).corrId)
  | openChannel (c : κ) (id : UInt32) :
      CallStep req t sh (.drawn c id)
        { sh with channels := sh.channels ++ [⟨t, c, id, .waiting⟩] }
        (.opened c id sh.channels.length)
  | register (c : κ) (id : UInt32) (tx sentAt : Nat)
      (hinserted : ((sh.conns c).demux.insert id tx sentAt).2 = true) :
      CallStep req t sh (.opened c id tx)
        (sh.setConn c { sh.conns c with demux := ((sh.conns c).demux.insert id tx sentAt).1 })
        (.registered c id tx)
  | refuse (c : κ) (id : UInt32) (tx sentAt : Nat)
      (hinserted : ((sh.conns c).demux.insert id tx sentAt).2 = false) :
      CallStep req t sh (.opened c id tx) sh (.afterSend req tx)
  | send (c : κ) (id : UInt32) (tx : Nat) (hlen : req.clridOffset + 4 ≤ req.frame.length)
      (hopen : (sh.conns c).receiverDropped = false) :
      CallStep req t sh (.registered c id tx)
        (sh.setConn c
          { sh.conns c with queue := (sh.conns c).queue ++ [⟨some tx, req.frameFor id⟩] })
        (.queued c id tx)
  | notAccepted (c : κ) (id : UInt32) (tx : Nat) :
      CallStep req t sh (.registered c id tx) sh (.aborted c id tx)
  | cleanUpAborted (c : κ) (id : UInt32) (tx : Nat) :
      CallStep req t sh (.aborted c id tx)
        ((sh.setConn c { sh.conns c with demux := ((sh.conns c).demux.remove id).1 }).dropSender
          ((sh.conns c).demux.remove id).2) .free
  | cleanUpExpired (c : κ) (id : UInt32) (tx : Nat) :
      CallStep req t sh (.expired c id tx)
        ((sh.setConn c { sh.conns c with demux := ((sh.conns c).demux.remove id).1 }).dropSender
          ((sh.conns c).demux.remove id).2) (.afterSend req tx)
  | elapse (c : κ) (id : UInt32) (tx : Nat) (ch : Channel ι κ) (hch : sh.channels[tx]? = some ch)
      (hstate : ch.state = .waiting) :
      CallStep req t sh (.queued c id tx) sh (.expired c id tx)
  | receive (c : κ) (id : UInt32) (tx : Nat) (ch : Channel ι κ) (hch : sh.channels[tx]? = some ch)
      (index : Nat) (response : List UInt8) (hstate : ch.state = .received index response) :
      CallStep req t sh (.queued c id tx) sh (.answered c id tx response)
  | timedOut (c : κ) (id : UInt32) (tx : Nat) (ch : Channel ι κ) (hch : sh.channels[tx]? = some ch)
      (hstate : ch.state = .failed .timeout) :
      CallStep req t sh (.queued c id tx) sh (.afterSend req tx)
  /-- `send_and_wait` returns `ConnectionClosed`. -/
  | lose (c : κ) (id : UInt32) (tx : Nat) (ch : Channel ι κ) (hch : sh.channels[tx]? = some ch)
      (hstate : ch.state = .failed .connectionClosed ∨ ch.state = .dropped) :
      CallStep req t sh (.queued c id tx) sh .free

theorem Shared.setConn_self (sh : Shared ι κ) (c : κ) : sh.setConn c (sh.conns c) = sh := by
  unfold Shared.setConn
  rw [Function.update_eq_self]

omit [DecidableEq κ] in
theorem insert_of_refused {d : ConnDemux} {id : UInt32} {tx sentAt : Nat}
    (h : (d.insert id tx sentAt).2 = false) : (d.insert id tx sentAt).1 = d := by
  unfold Demux.insert at h ⊢
  split at h
  · rename_i hmem
    rw [if_pos hmem]
  · cases h

theorem serve_nextCorrId (sh : Shared ι κ) (t : ι) (tx : Option Nat) (c : κ) :
    sh.serve t tx (.nextCorrId c) .state =
      some (sh.setConn c (sh.conns c).fetchCorrId.1,
        if (sh.conns c).corrId ≠ 0 then some (sh.conns c).corrId else none) := rfl

/-- Every answered operation that the phase allows is a move. -/
theorem callStep_of_serve {req : Request} {t : ι} {sh sh' : Shared ι κ} {ph : CallPhase κ}
    {o : ForwardOp κ} {answer : Answer κ} {r : o.Ret} (hallowed : callAllowed req ph o)
    (h : sh.serve t ph.channel? o answer = some (sh', some r)) :
    CallStep req t sh ph sh' (callNext req ph o r) := by
  -- the phase bounds the operation: an operation it does not allow is excluded by `hallowed`,
  -- and an answer of another kind by `h`
  cases ph with
  | free =>
    cases o with
    | loadRouting =>
      cases answer <;> cases h
      exact .skip _
    | segmentOrder snapshot =>
      cases answer with
      | order segments =>
        simp only [Shared.serve] at h
        split at h
        · cases h
          exact .skip _
        · cases h
      | _ => cases h
    | getHop hopId =>
      cases answer <;> cases h
      exact .skip _
    | nextConnection hop =>
      cases answer with
      | connection conn =>
        cases conn with
        | none =>
          cases h
          exact .skip _
        | some c =>
          simp only [Shared.serve] at h
          split at h
          · cases h
          · cases h
            exact .skip _
      | _ => cases h
    | resolveAddress hop =>
      cases answer <;> cases h
      exact .skip _
    | isClosed c =>
      cases answer <;> cases h
      exact .skip _
    | nextCorrId c =>
      cases answer with
      | state =>
        rw [serve_nextCorrId] at h
        by_cases hid : (sh.conns c).corrId ≠ 0
        · rw [if_pos hid] at h
          cases h
          exact .draw c hid
        · rw [if_neg hid] at h
          cases h
      | _ => cases h
    | close c =>
      cases answer <;> cases h
      exact .close c
    | sleep ms =>
      cases answer <;> cases h
      exact .skip _
    | newChannel | now | insert | trySend | remove | wait => cases hallowed
  | drawn c id =>
    cases o with
    | isClosed c' =>
      cases hallowed
      cases answer <;> cases h
      simp only [callNext]
      split
      · exact .giveUp c id
      · exact .skip _
    | newChannel c' id' =>
      obtain ⟨rfl, rfl⟩ := hallowed
      cases answer <;> cases h
      exact .openChannel c' id'
    | _ => cases hallowed
  | opened c id tx =>
    cases o with
    | now =>
      cases answer <;> cases h
      exact .skip _
    | insert c' id' tx' sentAt =>
      obtain ⟨rfl, rfl, rfl⟩ := hallowed
      cases answer with
      | state =>
        simp only [Shared.serve, Option.some.injEq, Prod.mk.injEq] at h
        obtain ⟨rfl, rfl⟩ := h
        simp only [callNext]
        split
        · rename_i hinserted
          exact .register c' id' tx' sentAt hinserted
        · rename_i hrefused
          rw [Bool.not_eq_true] at hrefused
          rw [insert_of_refused hrefused, Shared.setConn_self]
          exact .refuse c' id' tx' sentAt hrefused
      | _ => cases h
    | _ => cases hallowed
  | registered c id tx =>
    cases o with
    | trySend c' frame =>
      obtain ⟨rfl, hlen, rfl⟩ := hallowed
      cases answer with
      | state =>
        simp only [Shared.serve, CallPhase.channel?, Conn.trySend, Option.some.injEq,
          Prod.mk.injEq] at h
        obtain ⟨rfl, rfl⟩ := h
        split
        · rw [Shared.setConn_self]
          exact .notAccepted c' id tx
        · rename_i hroom
          rw [not_or, Bool.not_eq_true] at hroom
          exact .send c' id tx hlen hroom.1
      | _ => cases h
    | _ => cases hallowed
  | aborted c id tx =>
    cases o with
    | remove c' id' =>
      obtain ⟨rfl, rfl⟩ := hallowed
      cases answer <;> cases h
      exact .cleanUpAborted c' id' tx
    | _ => cases hallowed
  | queued c id tx =>
    cases o with
    | wait tx' =>
      cases hallowed
      cases answer with
      | state =>
        simp only [Shared.serve] at h
        split at h
        · rename_i ch hch
          split at h
          · rename_i hstate
            cases h
            exact .elapse c id tx ch hch hstate
          · rename_i index response hstate
            cases h
            exact .receive c id tx ch hch index response hstate
          · rename_i e hstate
            cases h
            cases e with
            | timeout => exact .timedOut c id tx ch hch hstate
            | connectionClosed => exact .lose c id tx ch hch (Or.inl hstate)
          · rename_i hstate
            cases h
            exact .lose c id tx ch hch (Or.inr hstate)
        · cases h
      | _ => cases h
    | _ => cases hallowed
  | expired c id tx =>
    cases o with
    | remove c' id' =>
      obtain ⟨rfl, rfl⟩ := hallowed
      cases answer <;> cases h
      exact .cleanUpExpired c' id' tx
    | _ => cases hallowed
  | unsure tx => cases o <;> cases hallowed
  | answered c id tx response => cases o <;> cases hallowed

/-- An operation that goes on has drawn the id 0. -/
theorem redraw_of_serve {t : ι} {sh sh' : Shared ι κ} {tx : Option Nat} {o : ForwardOp κ}
    {answer : Answer κ} (h : sh.serve t tx o answer = some (sh', none)) :
    ∃ c, sh' = sh.setConn c (sh.conns c).fetchCorrId.1 ∧ (sh.conns c).corrId = 0 := by
  cases o with
  | nextCorrId c =>
    cases answer with
    | state =>
      rw [serve_nextCorrId] at h
      by_cases hid : (sh.conns c).corrId ≠ 0
      · rw [if_pos hid] at h
        cases h
      · rw [if_neg hid] at h
        cases h
        exact ⟨c, rfl, not_not.mp hid⟩
    | _ => cases h
  | segmentOrder snapshot =>
    cases answer with
    | order segments =>
      simp only [Shared.serve] at h
      split at h <;> cases h
    | _ => cases h
  | nextConnection hop =>
    cases answer with
    | connection conn =>
      cases conn with
      | none => cases h
      | some c =>
        simp only [Shared.serve] at h
        split at h <;> cases h
    | _ => cases h
  | wait tx' =>
    cases answer with
    | state =>
      simp only [Shared.serve] at h
      split at h
      · split at h <;> cases h
      · cases h
    | _ => cases h
  | _ => cases answer <;> cases h

/-! ## Events -/

/-- The step takes the waiter with channel `tx` out of the demux, for `fail_all`. -/
def Event.Drains (e : Event ι κ) (net : Network ι κ) (tx : Nat) : Prop :=
  match e with
  | .writer c _ => (net.shared.conns c).WriterDrains tx
  | .reader c _ => (net.shared.conns c).ReaderDrains tx
  | _ => False

namespace Network

variable [DecidableEq ι] {fw : Forwarder} {reqs : ι → Request} {net net' : Network ι κ}
  {e : Event ι κ}

/-- Every call is at a point of its program that its phase allows. -/
def Following (fw : Forwarder) (reqs : ι → Request) (net : Network ι κ) : Prop :=
  ∀ t, Follows (callProtocol (reqs t) (fun _ => True)) (callPost fw (reqs t) (fun _ => True))
    (net.calls t).phase (net.calls t).prog

omit [DecidableEq ι] [DecidableEq κ] in
theorem following_init (capacity : κ → Nat) :
    Following fw reqs (init fw reqs capacity : Network ι κ) :=
  fun t => follows_forward fw (reqs t) (fun _ => True)

omit [DecidableEq κ] in
/-- Nothing is assumed of the answers here. -/
theorem answers_any (req : Request) (ph : CallPhase κ) (o : ForwardOp κ) (r : o.Ret) :
    (callProtocol req (fun _ => True)).answers ph o r := by
  cases o <;> simp [callProtocol]

/-- A step is a move of one call, a draw of the id 0, or an effect on one connection. -/
inductive StepCases (reqs : ι → Request) (net : Network ι κ) (e : Event ι κ)
    (net' : Network ι κ) : Prop
  | call (t : ι) (answer : Answer κ) (he : e = .call t answer)
      (hstep : CallStep (reqs t) t net.shared (net.calls t).phase net'.shared (net'.calls t).phase)
      (hothers : ∀ t', t' ≠ t → net'.calls t' = net.calls t')
  | redraw (t : ι) (answer : Answer κ) (he : e = .call t answer) (c : κ)
      (hshared : net'.shared = net.shared.setConn c (net.shared.conns c).fetchCorrId.1)
      (hid : (net.shared.conns c).corrId = 0) (hcalls : net'.calls = net.calls)
  | task (c : κ) (conn : Conn) (notice : Option Notice)
      (hdrains : ∀ tx, e.Drains net tx → ∃ id e, (net.shared.conns c).demux.Has id e ∧ e.tx = tx)
      (hshared : net'.shared = (net.shared.setConn c conn).notify notice)
      (hcalls : net'.calls = net.calls)
      (heffect : (net.shared.conns c).TaskEffect conn notice (e.Drains net))
      (hstream : StreamStep (net.shared.conns c) conn notice)
      (hcounter : conn.counter = (net.shared.conns c).counter)

theorem following_step (hfollows : Following fw reqs net) (h : net.step reqs e = some net') :
    Following fw reqs net' := by
  intro t
  cases e with
  | call t' answer =>
    simp only [step] at h
    split at h
    · cases h
    · rename_i o k hprog
      split at h
      · cases h
      · cases h
        exact hfollows t
      · rename_i shared r hserve
        cases h
        by_cases ht : t = t'
        · subst ht
          -- the rest of the program follows from the phase after the operation
          have hthis := hfollows t
          rw [hprog] at hthis
          simp only [Function.update_self]
          exact hthis.2 r (answers_any _ _ o r)
        · simp only [Function.update_of_ne ht]
          exact hfollows t
  | keepalive c =>
    obtain ⟨conn, -, rfl⟩ := Option.map_eq_some_iff.mp h
    exact hfollows t
  | writer c choice =>
    obtain ⟨shared, -, rfl⟩ := Option.map_eq_some_iff.mp h
    exact hfollows t
  | reader c choice =>
    obtain ⟨shared, -, rfl⟩ := Option.map_eq_some_iff.mp h
    exact hfollows t
  | hop c message =>
    obtain ⟨conn, -, rfl⟩ := Option.map_eq_some_iff.mp h
    exact hfollows t
  | shutdown c =>
    cases h
    exact hfollows t

theorem call_cases (hfollows : Following fw reqs net) {t : ι} {answer : Answer κ}
    (h : net.step reqs (.call t answer) = some net') :
    (CallStep (reqs t) t net.shared (net.calls t).phase net'.shared (net'.calls t).phase ∧
      ∀ t', t' ≠ t → net'.calls t' = net.calls t') ∨
    ∃ c, net'.shared = net.shared.setConn c (net.shared.conns c).fetchCorrId.1 ∧
      (net.shared.conns c).corrId = 0 ∧ net'.calls = net.calls := by
  simp only [step] at h
  split at h
  · cases h
  · rename_i o k hprog
    -- a call performs only what its phase allows
    have hallowed : callAllowed (reqs t) (net.calls t).phase o := by
      have hthis := hfollows t
      rw [hprog] at hthis
      exact hthis.1
    split at h
    · cases h
    · rename_i shared hserve
      cases h
      obtain ⟨c, hshared, hid⟩ := redraw_of_serve hserve
      exact Or.inr ⟨c, hshared, hid, rfl⟩
    · rename_i shared r hserve
      cases h
      refine Or.inl ⟨?_, fun t' ht' => Function.update_of_ne ht' _ _⟩
      simp only [Function.update_self]
      exact callStep_of_serve hallowed hserve

theorem step_cases (hfollows : Following fw reqs net) (h : net.step reqs e = some net') :
    StepCases reqs net e net' := by
  cases e with
  | call t answer =>
    rcases call_cases hfollows h with ⟨hmove, hothers⟩ | ⟨c, hshared, hid, hcalls⟩
    · exact .call t answer rfl hmove hothers
    · exact .redraw t answer rfl c hshared hid hcalls
  | keepalive c =>
    obtain ⟨conn, hconn, rfl⟩ := Option.map_eq_some_iff.mp h
    have hmove := keepaliveStep_cases hconn
    exact .task c conn none (fun _ => False.elim) rfl rfl (keepalive_effect hmove)
      (keepalive_stream hmove) (counter_of_keepalive hmove)
  | writer c choice =>
    obtain ⟨shared, hshared, rfl⟩ := Option.map_eq_some_iff.mp h
    obtain ⟨⟨conn, notice⟩, hstep, rfl⟩ := Option.map_eq_some_iff.mp hshared
    have hmove := writerStep_cases hstep
    exact .task c conn notice (fun _ ⟨_, _, hdrains⟩ => hdrains.has) rfl rfl
      (writerStep_effect hmove) (writerStep_stream hmove) (counter_of_writerStep hmove)
  | reader c choice =>
    obtain ⟨shared, hshared, rfl⟩ := Option.map_eq_some_iff.mp h
    obtain ⟨⟨conn, notice⟩, hstep, rfl⟩ := Option.map_eq_some_iff.mp hshared
    have hmove := readerStep_cases hstep
    exact .task c conn notice (fun _ ⟨_, _, hdrains⟩ => hdrains.has) rfl rfl
      (readerStep_effect hmove) (readerStep_stream hmove) (counter_of_readerStep hmove)
  | hop c message =>
    obtain ⟨conn, hconn, rfl⟩ := Option.map_eq_some_iff.mp h
    exact .task c conn none (fun _ => False.elim) rfl rfl (hopSends_effect hconn)
      (hopSends_stream hconn) (counter_of_hopSends hconn)
  | shutdown c =>
    cases h
    exact .task c _ none (fun _ => False.elim) rfl rfl (close_effect _)
      (.of_eq rfl rfl rfl rfl rfl nofun) rfl

end Network

end RzRouter
