import RzRouter.Network.Stranded

/-!
# Closed connections

Closing a connection sets a flag.  The writer task looks at it once it has taken a frame from its
channel, a call before it opens its channel, and the keepalive task at its next tick; nobody wakes
the writer.  Here is what is still written on a closed connection, and when its writer task ends.
-/

namespace RzRouter

open Program Transition

variable {ι κ : Type}

/-! ## Calls look before they send -/

/-- What a call has done since it last drew a correlation id. -/
inductive Check (κ : Type)
  | idle
  | drawn (conn : κ)
  /-- It has seen the connection open. -/
  | passed (conn : κ)

/-- A call opens its channel and sends on a connection that it has seen open. -/
def checkProtocol : Protocol (ForwardOp κ) ForwardOp.Ret (Check κ) where
  allowed
    | .drawn conn, .isClosed conn' => conn' = conn
    | .passed _, .isClosed _ => False
    | st, .newChannel conn _ | st, .trySend conn _ => st = .passed conn
    | _, _ => True
  answers _ _ _ := True
  next
    | _, .nextCorrId conn, _ => .drawn conn
    | .drawn conn, .isClosed _, closed => if closed = true then .idle else .passed conn
    | .passed conn, .insert _ _ _ _, inserted => if inserted = true then .passed conn else .idle
    | .passed _, .trySend _ _, _ => .idle
    | st, _, _ => st

/-- As long as `c` is closed a call sends nothing on it. -/
def shutProtocol (c : κ) : Protocol (ForwardOp κ) ForwardOp.Ret Unit where
  allowed _
    | .trySend conn _ => conn ≠ c
    | _ => True
  answers _
    | .isClosed conn, closed => conn = c → closed = true
    | _, _ => True
  next _ _ _ := ()

theorem follows_check_sendAndWait (conn : κ) (frame : List UInt8) (id : UInt32) :
    Follows checkProtocol (fun st _ => st = .idle) (.drawn conn) (sendAndWait conn frame id) := by
  unfold sendAndWait
  refine follows_perform_bind rfl (fun closed _ => ?_)
  cases closed with
  | true => exact rfl
  | false =>
    refine follows_perform_bind rfl (fun tx _ => ?_)
    refine follows_perform_bind trivial (fun sentAt _ => ?_)
    refine follows_perform_bind trivial (fun inserted _ => ?_)
    cases inserted with
    | false => exact rfl
    | true =>
      refine follows_perform_bind rfl (fun accepted _ => ?_)
      cases accepted with
      | false => exact follows_perform_bind trivial (fun _ _ => rfl)
      | true =>
        refine follows_perform_bind trivial (fun result _ => ?_)
        cases result with
        | failed e => cases e <;> exact rfl
        | elapsed => exact follows_perform_bind trivial (fun _ _ => rfl)
        | _ => exact rfl

/-- Between two tries a call has passed no check that counts. -/
theorem loopRules_check (req : Request) :
    LoopRules (checkProtocol (κ := κ)) req
      (fun st turn => ∀ next, turn = .next next → st = .idle) where
  quiet := by
    intro st _ o ho hst
    cases hst _ rfl
    cases o with
    | getHop _ | nextConnection _ | resolveAddress _ | isClosed _ | close _ | sleep _ =>
      exact ⟨trivial, fun _ _ _ _ => rfl⟩
    | _ => cases ho
  load := by
    intro st _ hst
    cases hst _ rfl
    exact ⟨trivial, fun _ _ => ⟨fun _ _ => rfl, fun _ _ _ => rfl⟩⟩
  send := by
    intro st _ conn hst
    cases hst _ rfl
    refine ⟨trivial, fun id _ => ?_⟩
    split
    · exact fun _ h => by cases h
    · refine follows_mono (fun st result hidle => ?_) (follows_check_sendAndWait conn _ id)
      subst hidle
      have hall : ∀ turn : Turn, ∀ next, turn = .next next → (.idle : Check κ) = .idle :=
        fun _ _ _ => rfl
      cases result with
      | ok response => exact hall _
      | error e =>
        cases e with
        | connectionClosed => exact hall _
        | _ =>
          show ite _ _ _
          split
          · exact hall _
          · exact hall _
  exhausted := by
    intro st next _
    constructor
    · intro next h
      cases h
    · intro next h
      cases h

theorem follows_check_forward (fw : Forwarder) (req : Request) :
    Follows (checkProtocol (κ := κ)) (fun _ _ => True) .idle (fw.forward req) := by
  unfold Forwarder.forward
  split
  · exact follows_perform_bind trivial
      (fun _ _ => follows_perform_bind trivial (fun _ _ => trivial))
  · simp only
    split
    · trivial
    · exact follows_mono (fun _ _ _ => trivial)
        ((loopRules_check req).follows_forwardAttempts _ _ _ (fun _ _ => rfl))

/-- Until a call has seen `c` open, it sends nothing on it while `c` is closed. -/
theorem follows_shut_of_check {c : κ} {α : Type} {p : ForwardM κ α} {st : Check κ}
    (hst : st ≠ .passed c) (h : Follows checkProtocol (fun _ _ => True) st p) :
    Follows (shutProtocol c) (fun _ _ => True) () p := by
  have hidle : (.idle : Check κ) ≠ .passed c := by
    intro h
    cases h
  have hdrawn : ∀ conn, (.drawn conn : Check κ) ≠ .passed c := by
    intro conn h
    cases h
  induction p generalizing st with
  | ret a => trivial
  | op o k ih =>
    obtain ⟨hallowed, hnext⟩ := h
    refine ⟨?_, fun r hr => ih r ?_ (hnext r trivial)⟩
    · cases o with
      | trySend conn frame =>
        rintro rfl
        have hpassed : st = .passed conn := by
          cases st <;> exact hallowed
        exact hst hpassed
      | _ => trivial
    · cases st with
      | idle =>
        cases o with
        | nextCorrId conn => exact hdrawn conn
        | _ => exact hidle
      | drawn conn =>
        cases o with
        | isClosed conn' =>
          have hsame : conn' = conn := hallowed
          subst hsame
          cases r with
          | true => exact hidle
          | false =>
            intro hpassed
            cases hpassed
            exact Bool.false_ne_true (hr rfl)
        | nextCorrId conn' => exact hdrawn conn'
        | _ => exact hdrawn conn
      | passed conn =>
        cases o with
        | insert conn' id tx sentAt =>
          cases r with
          | true => exact hst
          | false => exact hidle
        | isClosed conn' => exact hallowed.elim
        | nextCorrId conn' => exact hdrawn conn'
        | trySend conn' frame => exact hidle
        | _ => exact hst

/-- A call that may send on `c`: it has drawn an id there and has not handed its frame over. -/
def CallPhase.MaySend (c : κ) : CallPhase κ → Prop
  | drawn conn _ | opened conn _ _ | registered conn _ _ => conn = c
  | _ => False

/-- What the phase of a call says about its check. -/
def Check.Fits (ph : CallPhase κ) : Check κ → Prop
  | idle => True
  | drawn conn => ∃ id, ph = .drawn conn id
  | passed conn => ph.MaySend conn

theorem idle_of_fits {ph : CallPhase κ} {st : Check κ} (hfits : st.Fits ph)
    (hph : ∀ c, ¬ ph.MaySend c) : st = .idle := by
  cases st with
  | idle => rfl
  | drawn conn =>
    obtain ⟨id, rfl⟩ := hfits
    exact absurd rfl (hph conn)
  | passed conn => exact absurd hfits (hph conn)

theorem fits_next {req : Request} {ph : CallPhase κ} {st : Check κ} {o : ForwardOp κ}
    (hallowed : callAllowed req ph o) (hcheck : checkProtocol.allowed st o) (hfits : st.Fits ph)
    (r : o.Ret) : (checkProtocol.next st o r).Fits (callNext req ph o r) := by
  cases ph with
  | free =>
    cases idle_of_fits hfits (fun _ h => h)
    cases o with
    | nextCorrId conn => exact ⟨r, rfl⟩
    | _ => trivial
  | drawn conn id =>
    cases o with
    | isClosed conn' =>
      cases st with
      | idle => trivial
      | drawn conn'' =>
        obtain ⟨id', hph⟩ := hfits
        cases hph
        cases r with
        | true => trivial
        | false => exact rfl
      | passed conn'' => exact hcheck.elim
    | newChannel conn' id' =>
      obtain ⟨rfl, rfl⟩ := hallowed
      have hpassed : st = .passed conn' := by
        cases st <;> exact hcheck
      subst hpassed
      exact rfl
    | _ => exact hallowed.elim
  | opened conn id tx =>
    cases st with
    | idle =>
      cases o with
      | now | insert _ _ _ _ => trivial
      | _ => exact hallowed.elim
    | drawn conn' =>
      obtain ⟨id', hph⟩ := hfits
      cases hph
    | passed conn' =>
      cases o with
      | now => exact hfits
      | insert conn'' id' tx' sentAt =>
        cases r with
        | true => exact hfits
        | false => trivial
      | _ => exact hallowed.elim
  | registered conn id tx =>
    cases o with
    | trySend conn' frame =>
      have hpassed : st = .passed conn' := by
        cases st <;> exact hcheck
      subst hpassed
      trivial
    | _ => exact hallowed.elim
  | _ =>
    cases idle_of_fits hfits (fun _ h => h)
    cases o with
    | remove _ _ | wait _ => trivial
    | _ => exact hallowed.elim

/-- The writer of a closed connection waits, and the keepalive task has not passed its check. -/
structure Conn.Idle (c : Conn) : Prop where
  closed : c.closed = true
  writer : c.writer = .recv
  queue : c.queue = []
  keepalive : c.keepalive ≠ .send

/-! ## Every reachable call looks before it sends -/

namespace Network

variable [DecidableEq ι] [DecidableEq κ] {fw : Forwarder} {reqs : ι → Request}
  {net net' : Network ι κ}

/-- Every call follows the rules for checks. -/
def Checking (net : Network ι κ) : Prop :=
  ∀ t, ∃ st : Check κ, Follows checkProtocol (fun _ _ => True) st (net.calls t).prog ∧
    st.Fits (net.calls t).phase

omit [DecidableEq ι] [DecidableEq κ] in
theorem checking_init (fw : Forwarder) (reqs : ι → Request) (capacity : κ → Nat) :
    Checking (init fw reqs capacity : Network ι κ) :=
  fun t => ⟨.idle, follows_check_forward fw (reqs t), trivial⟩

theorem checking_step {e : Event ι κ} (hfollows : Following fw reqs net) (h : Checking net)
    (hstep : net.step reqs e = some net') : Checking net' := by
  intro t
  cases e with
  | call t' answer =>
    simp only [step] at hstep
    split at hstep
    · cases hstep
    · rename_i o k hprog
      split at hstep
      · cases hstep
      · cases hstep
        exact h t
      · rename_i shared r hserve
        cases hstep
        by_cases ht : t = t'
        · subst ht
          obtain ⟨st, hst, hfits⟩ := h t
          have hthis := hfollows t
          rw [hprog] at hst hthis
          simp only [Function.update_self]
          exact ⟨_, hst.2 r trivial, fits_next hthis.1 hst.1 hfits r⟩
        · simp only [Function.update_of_ne ht]
          exact h t
  | keepalive c | hop c message =>
    obtain ⟨conn, -, rfl⟩ := Option.map_eq_some_iff.mp hstep
    exact h t
  | writer c choice | reader c choice =>
    obtain ⟨shared, -, rfl⟩ := Option.map_eq_some_iff.mp hstep
    exact h t
  | shutdown c =>
    cases hstep
    exact h t

theorem checking_of_run {capacity : κ → Nat} {es : List (Event ι κ)}
    (hrun : run (step reqs) (init fw reqs capacity) es = some net) :
    Following fw reqs net ∧ Checking net :=
  invariant_of_run (I := fun net => Following fw reqs net ∧ Checking net)
    (fun _ _ _ ⟨hfollows, hchecking⟩ hstep =>
      ⟨following_step hfollows hstep, checking_step hfollows hchecking hstep⟩)
    ⟨following_init capacity, checking_init fw reqs capacity⟩ hrun

/-! ## A writer that waits -/

/-- The writer of `c` waits, and nobody is going to send it a frame. -/
structure Parked (net : Network ι κ) (c : κ) : Prop where
  conn : (net.shared.conns c).Idle
  calls : ∀ t, Follows (shutProtocol c) (fun _ _ => True) () (net.calls t).prog

omit [DecidableEq ι] in
/-- A closed connection answers that it is closed. -/
theorem answers_of_serve {t : ι} {sh sh' : Shared ι κ} {tx : Option Nat} {o : ForwardOp κ}
    {answer : Answer κ} {r : o.Ret} {c : κ} (hclosed : (sh.conns c).closed = true)
    (h : sh.serve t tx o answer = some (sh', some r)) : (shutProtocol c).answers () o r := by
  cases o with
  | isClosed conn =>
    rintro rfl
    cases answer <;> cases h
    exact hclosed
  | _ => trivial

omit [DecidableEq ι] in
/-- A call that may not send leaves the queue alone. -/
theorem queue_of_callStep {t : ι} {c : κ} {o : ForwardOp κ} {sh sh' : Shared ι κ}
    {ph ph' : CallPhase κ} (hmove : CallStep (reqs t) t sh ph sh' ph')
    (hallowed : callAllowed (reqs t) ph o) (hshut : (shutProtocol c).allowed () o) :
    (sh'.conns c).queue = (sh.conns c).queue := by
  have hconn := connMove_of_callStep hmove c
  generalize sh'.conns c = conn' at hconn
  cases hconn with
  | send id tx hph hph' hlen =>
    subst hph
    cases o with
    | trySend conn frame => exact absurd hallowed.1 hshut
    | _ => exact hallowed.elim
  | _ => rfl

omit [DecidableEq ι] in
/-- One connection changes. -/
theorem parked_setConn {c c' : κ} {conn : Conn} (h : Parked net c)
    (hcalls : ∀ t, Follows (shutProtocol c) (fun _ _ => True) () (net'.calls t).prog)
    (hconns : net'.shared.conns = (net.shared.setConn c' conn).conns)
    (hconn : c' = c → conn.Idle) : Parked net' c := by
  refine ⟨?_, hcalls⟩
  rw [hconns, Shared.conns_setConn]
  split
  · rename_i hc
    exact hconn hc.symm
  · exact h.conn

theorem parked_call {t : ι} {answer : Answer κ} {c : κ} (hfollows : Following fw reqs net)
    (h : Parked net c) (hstep : net.step reqs (.call t answer) = some net') : Parked net' c := by
  simp only [step] at hstep
  split at hstep
  · cases hstep
  · rename_i o k hprog
    have hshut := h.calls t
    have hthis := hfollows t
    rw [hprog] at hshut hthis
    split at hstep
    · cases hstep
    · rename_i shared hserve
      cases hstep
      obtain ⟨c', rfl, -⟩ := redraw_of_serve hserve
      refine parked_setConn h h.calls rfl (fun hc => ?_)
      rw [hc]
      exact ⟨h.conn.closed, h.conn.writer, h.conn.queue, h.conn.keepalive⟩
    · rename_i shared r hserve
      cases hstep
      have hmove := callStep_of_serve hthis.1 hserve
      have heffect := conn_of_callStep hmove c
      have hidle : (shared.conns c).Idle :=
        { closed := heffect.closed h.conn.closed
          writer := heffect.writer.trans h.conn.writer
          queue := (queue_of_callStep hmove hthis.1 hshut.1).trans h.conn.queue
          keepalive := heffect.keepalive ▸ h.conn.keepalive }
      refine ⟨hidle, fun t' => ?_⟩
      by_cases ht : t' = t
      · subst ht
        simp only [Function.update_self]
        exact hshut.2 r (answers_of_serve h.conn.closed hserve)
      · simp only [Function.update_of_ne ht]
        exact h.calls t'

/-- No task, no hop and no shutdown wakes a writer that waits on a closed connection. -/
theorem parked_step {e : Event ι κ} {c : κ} (hfollows : Following fw reqs net)
    (h : Parked net c) (hstep : net.step reqs e = some net') : Parked net' c := by
  cases e with
  | call t answer => exact parked_call hfollows h hstep
  | keepalive c' =>
    obtain ⟨conn, hconn, rfl⟩ := Option.map_eq_some_iff.mp hstep
    refine parked_setConn h h.calls rfl (fun hc => ?_)
    rw [hc] at hconn
    cases keepaliveStep_cases hconn with
    | moves pc hopen =>
      refine ⟨h.conn.closed, h.conn.writer, h.conn.queue, fun hsend => ?_⟩
      -- the task passes its check only while the connection is open
      have hclosed := h.conn.closed
      rw [hopen hsend] at hclosed
      cases hclosed
    | sends hkeepalive => exact absurd hkeepalive h.conn.keepalive
  | writer c' choice =>
    obtain ⟨shared, hshared, rfl⟩ := Option.map_eq_some_iff.mp hstep
    obtain ⟨⟨conn, notice⟩, hstep', rfl⟩ := Option.map_eq_some_iff.mp hshared
    refine parked_setConn h h.calls (Shared.conns_notify _ _) (fun hc => ?_)
    -- there is no frame to take
    have hwaits : writerStep (net.shared.conns c) choice = none := by
      unfold writerStep
      rw [h.conn.writer, h.conn.queue]
      cases choice <;> rfl
    rw [hc, hwaits] at hstep'
    cases hstep'
  | reader c' choice =>
    obtain ⟨shared, hshared, rfl⟩ := Option.map_eq_some_iff.mp hstep
    obtain ⟨⟨conn, notice⟩, hstep', rfl⟩ := Option.map_eq_some_iff.mp hshared
    refine parked_setConn h h.calls (Shared.conns_notify _ _) (fun hc => ?_)
    rw [hc] at hstep'
    cases readerStep_cases hstep' with
    | storeClosed hreader => exact ⟨rfl, h.conn.writer, h.conn.queue, h.conn.keepalive⟩
    | _ => exact ⟨h.conn.closed, h.conn.writer, h.conn.queue, h.conn.keepalive⟩
  | hop c' message =>
    obtain ⟨conn, hconn, rfl⟩ := Option.map_eq_some_iff.mp hstep
    refine parked_setConn h h.calls rfl (fun hc => ?_)
    rw [eq_of_hopSends hconn, hc]
    exact ⟨h.conn.closed, h.conn.writer, h.conn.queue, h.conn.keepalive⟩
  | shutdown c' =>
    cases hstep
    refine parked_setConn h h.calls rfl (fun hc => ?_)
    rw [hc]
    exact ⟨rfl, h.conn.writer, h.conn.queue, h.conn.keepalive⟩

theorem parked_of_run {es : List (Event ι κ)} {c : κ} (hfollows : Following fw reqs net)
    (h : Parked net c) (hrun : run (step reqs) net es = some net') : Parked net' c := by
  have hboth : Following fw reqs net' ∧ Parked net' c :=
    invariant_of_run (I := fun net => Following fw reqs net ∧ Parked net c)
      (fun _ _ _ ⟨hfollows, hparked⟩ hstep =>
        ⟨following_step hfollows hstep, parked_step hfollows hparked hstep⟩)
      ⟨hfollows, h⟩ hrun
  exact hboth.2

/-! ## What is still written -/

/-- What a step does to the writer's side of a connection. -/
inductive WriterSide (c c' : Conn) : Prop
  | task (notice : Option Notice) (h : WriterStep c c' notice)
  | other (hclosed : c.closed = true → c'.closed = true) (hwriter : c'.writer = c.writer)
      (hwire : c'.wire = c.wire)

theorem writerSide_of_step {e : Event ι κ} (hfollows : Following fw reqs net)
    (hstep : net.step reqs e = some net') (c : κ) :
    WriterSide (net.shared.conns c) (net'.shared.conns c) := by
  have hset : ∀ {c' : κ} {conn : Conn}, net'.shared.conns = (net.shared.setConn c' conn).conns →
      WriterSide (net.shared.conns c') conn →
      WriterSide (net.shared.conns c) (net'.shared.conns c) := by
    intro c' conn hconns hside
    rw [hconns, Shared.conns_setConn]
    split
    · rename_i hc
      rw [hc]
      exact hside
    · exact .other id rfl rfl
  cases e with
  | call t answer =>
    rcases call_cases hfollows hstep with ⟨hmove, -⟩ | ⟨c', hshared, -, -⟩
    · have heffect := conn_of_callStep hmove c
      exact .other heffect.closed heffect.writer heffect.wire
    · exact hset (congrArg Shared.conns hshared) (.other id rfl rfl)
  | keepalive c' =>
    obtain ⟨conn, hconn, rfl⟩ := Option.map_eq_some_iff.mp hstep
    have hside : WriterSide (net.shared.conns c') conn := by
      cases keepaliveStep_cases hconn with
      | moves pc hopen => exact .other id rfl rfl
      | sends hkeepalive => exact .other id rfl rfl
    exact hset rfl hside
  | writer c' choice =>
    obtain ⟨shared, hshared, rfl⟩ := Option.map_eq_some_iff.mp hstep
    obtain ⟨⟨conn, notice⟩, hstep', rfl⟩ := Option.map_eq_some_iff.mp hshared
    exact hset (Shared.conns_notify _ _) (.task notice (writerStep_cases hstep'))
  | reader c' choice =>
    obtain ⟨shared, hshared, rfl⟩ := Option.map_eq_some_iff.mp hstep
    obtain ⟨⟨conn, notice⟩, hstep', rfl⟩ := Option.map_eq_some_iff.mp hshared
    apply hset (Shared.conns_notify _ _)
    cases readerStep_cases hstep' with
    | storeClosed hreader => exact .other (fun _ => rfl) rfl rfl
    | _ => exact .other id rfl rfl
  | hop c' message =>
    obtain ⟨conn, hconn, rfl⟩ := Option.map_eq_some_iff.mp hstep
    have hside : WriterSide (net.shared.conns c') conn := by
      rw [eq_of_hopSends hconn]
      exact .other id rfl rfl
    exact hset rfl hside
  | shutdown c' =>
    cases hstep
    exact hset rfl (.other (fun _ => rfl) rfl rfl)

/-- Since connection `c₀` was closed, at most the frame that its writer had in hand was written. -/
structure WritesInHand (c₀ c : Conn) : Prop where
  closed : c.closed = true
  wire : (c.wire = c₀.wire ∧ ∀ frame, c.writer = .write frame → c₀.writer = .write frame) ∨
    (∃ frame, c₀.writer = .write frame ∧ c.wire = c₀.wire ++ [frame]) ∧
      ∀ frame, c.writer ≠ .write frame

omit [DecidableEq ι] [DecidableEq κ] in
theorem writesInHand_step {c₀ c c' : Conn} (h : WritesInHand c₀ c) (hstep : WriterSide c c') :
    WritesInHand c₀ c' := by
  cases hstep with
  | other hclosed hwriter hwire =>
    refine ⟨hclosed h.closed, ?_⟩
    rw [hwriter, hwire]
    exact h.wire
  | task notice hstep =>
    have hquiet : ∀ c' : Conn, c'.closed = true → c'.wire = c.wire →
        (∀ frame, c'.writer ≠ .write frame) → WritesInHand c₀ c' := by
      intro c' hclosed hwire hwriter
      refine ⟨hclosed, ?_⟩
      rw [hwire]
      rcases h.wire with ⟨hsame, -⟩ | ⟨hmore, -⟩
      · exact Or.inl ⟨hsame, fun frame hwrite => absurd hwrite (hwriter frame)⟩
      · exact Or.inr ⟨hmore, hwriter⟩
    cases hstep with
    | seesOpen frame hwriter hopen =>
      rw [h.closed] at hopen
      cases hopen
    | written frame hwriter =>
      rcases h.wire with ⟨hsame, hinHand⟩ | ⟨-, hnone⟩
      · refine ⟨h.closed, Or.inr ⟨⟨frame, hinHand frame hwriter, ?_⟩, fun _ => Writer.noConfusion⟩⟩
        show c.wire ++ [frame] = _
        rw [hsame]
      · exact absurd hwriter (hnone frame)
    | storeClosed hwriter | finalStore hwriter =>
      exact hquiet _ rfl rfl (fun _ => Writer.noConfusion)
    | failAll pc demux pc' notice hwriter hstep' =>
      refine hquiet _ h.closed rfl (fun frame => ?_)
      cases pc' <;> exact Writer.noConfusion
    | _ => exact hquiet _ h.closed rfl (fun _ => Writer.noConfusion)

end Network

/-! ## How a writer ends -/

namespace Conn

/-- A step of the writer alone. -/
def stepWriter (c : Conn) (choice : TaskChoice) : Option Conn :=
  (writerStep c choice).map Prod.fst

/-- Some steps of the writer alone lead to its end. -/
def CanEnd (c : Conn) : Prop :=
  ∃ choices c', run stepWriter c choices = some c' ∧ c'.writer = .ended

theorem canEnd_of_step {c c' : Conn} (choice : TaskChoice)
    (hstep : c.stepWriter choice = some c') (h : CanEnd c') : CanEnd c := by
  obtain ⟨choices, c'', hrun, hended⟩ := h
  exact ⟨choice :: choices, c'', (run_cons_eq_some _ _ _ _).mpr ⟨c', hstep, hrun⟩, hended⟩

theorem canEnd_dropReceiver {c : Conn} (hwriter : c.writer = .dropReceiver) : CanEnd c := by
  refine ⟨[.proceed], { c with queue := [], receiverDropped := true, writer := .ended }, ?_, rfl⟩
  unfold run stepWriter writerStep
  rw [hwriter]
  rfl

theorem canEnd_finalStore {c : Conn} (hwriter : c.writer = .finalStore) : CanEnd c := by
  refine canEnd_of_step .proceed ?_ (canEnd_dropReceiver
    (show { c with closed := true, writer := .dropReceiver }.writer = _ from rfl))
  unfold stepWriter writerStep
  rw [hwriter]
  rfl

theorem canEnd_notify {c : Conn} {entries : List (UInt32 × DemuxEntry Nat)}
    (hwriter : c.writer = .failAll (.notify entries)) : CanEnd c := by
  induction entries generalizing c with
  | nil =>
    refine canEnd_of_step .proceed ?_
      (canEnd_finalStore (show { c with writer := .finalStore }.writer = _ from rfl))
    unfold stepWriter writerStep
    rw [hwriter]
    rfl
  | cons entry entries ih =>
    refine canEnd_of_step .proceed ?_
      (ih (show { c with writer := .failAll (.notify entries) }.writer = _ from rfl))
    unfold stepWriter writerStep
    rw [hwriter]
    rfl

/-- The shards that are left are drained one by one. -/
theorem canEnd_collect {c : Conn} {k : Nat} {entries : List (UInt32 × DemuxEntry Nat)}
    (hwriter : c.writer = .failAll (.collect k entries)) : CanEnd c := by
  induction hleft : NUM_SHARDS - k generalizing c k entries with
  | zero =>
    have hk : ¬ k < NUM_SHARDS := by omega
    refine canEnd_of_step .proceed ?_
      (canEnd_notify (show { c with writer := .failAll (.notify entries) }.writer = _ from rfl))
    unfold stepWriter writerStep failAllStep
    rw [hwriter]
    simp only [dif_neg hk]
    rfl
  | succ left ih =>
    have hk : k < NUM_SHARDS := by omega
    let ids := (c.demux.shards ⟨k, hk⟩).keys.toList
    have hids : Enumerates ids (c.demux.shards ⟨k, hk⟩).keys := Finset.coe_toList _
    refine canEnd_of_step (.drain ids) ?_ (ih (show { c with
      demux := (c.demux.drainShard ⟨k, hk⟩ ids).1
      writer := .failAll (.collect (k + 1) (entries ++ (c.demux.drainShard ⟨k, hk⟩ ids).2))
      }.writer = _ from rfl) (by omega))
    unfold stepWriter writerStep failAllStep
    rw [hwriter]
    simp only [dif_pos hk, if_pos hids]
    rfl

theorem canEnd_storeClosed {c : Conn} (hwriter : c.writer = .storeClosed) : CanEnd c := by
  refine canEnd_of_step .proceed ?_ (canEnd_collect
    (show { c with closed := true, writer := .failAll (.collect 0 []) }.writer = _ from rfl))
  unfold stepWriter writerStep
  rw [hwriter]
  rfl

theorem canEnd_write {c : Conn} {frame : Outgoing} (hwriter : c.writer = .write frame) :
    CanEnd c := by
  refine canEnd_of_step .fail ?_
    (canEnd_storeClosed (show { c with writer := .storeClosed }.writer = _ from rfl))
  unfold stepWriter writerStep
  rw [hwriter]
  rfl

theorem canEnd_check {c : Conn} {frame : Outgoing} (hwriter : c.writer = .check frame) :
    CanEnd c := by
  by_cases hclosed : c.closed = true
  · refine canEnd_of_step .proceed ?_ (canEnd_collect
      (show { c with writer := .failAll (.collect 0 []) }.writer = _ from rfl))
    unfold stepWriter writerStep
    rw [hwriter]
    simp only [if_pos hclosed]
    rfl
  · refine canEnd_of_step .proceed ?_
      (canEnd_write (show { c with writer := .write frame }.writer = _ from rfl))
    unfold stepWriter writerStep
    rw [hwriter]
    simp only [if_neg hclosed]
    rfl

/-- Only a writer that waits for a frame cannot end by itself. -/
theorem canEnd_of_busy {c : Conn} (h : ¬ (c.writer = .recv ∧ c.queue = [])) : CanEnd c := by
  cases hwriter : c.writer with
  | recv =>
    cases hqueue : c.queue with
    | nil => exact absurd ⟨hwriter, hqueue⟩ h
    | cons frame queue =>
      refine canEnd_of_step .proceed ?_
        (canEnd_check (show { c with queue := queue, writer := .check frame }.writer = _ from rfl))
      unfold stepWriter writerStep
      rw [hwriter, hqueue]
      rfl
  | check frame => exact canEnd_check hwriter
  | write frame => exact canEnd_write hwriter
  | flush =>
    refine canEnd_of_step .fail ?_
      (canEnd_storeClosed (show { c with writer := .storeClosed }.writer = _ from rfl))
    unfold stepWriter writerStep
    rw [hwriter]
    rfl
  | storeClosed => exact canEnd_storeClosed hwriter
  | failAll pc =>
    cases pc with
    | collect k entries => exact canEnd_collect hwriter
    | notify entries => exact canEnd_notify hwriter
  | finalStore => exact canEnd_finalStore hwriter
  | dropReceiver => exact canEnd_dropReceiver hwriter
  | ended => exact ⟨[], c, rfl, hwriter⟩

end Conn

namespace Network

variable [DecidableEq ι] [DecidableEq κ] {fw : Forwarder} {reqs : ι → Request}
  {net net' : Network ι κ}

/-- The steps of one writer are steps of the system. -/
theorem exists_run_of_canEnd {c : κ} (h : (net.shared.conns c).CanEnd) :
    ∃ es net', run (step reqs) net es = some net' ∧ (net'.shared.conns c).writer = .ended := by
  obtain ⟨choices, conn, hrun, hended⟩ := h
  induction choices generalizing net with
  | nil =>
    cases hrun
    exact ⟨[], net, rfl, hended⟩
  | cons choice choices ih =>
    obtain ⟨conn', hstep, hrest⟩ := (run_cons_eq_some _ _ _ _).mp hrun
    obtain ⟨⟨after, notice⟩, hwriter, rfl⟩ := Option.map_eq_some_iff.mp hstep
    have hconn : ((net.shared.setConn c after).notify notice).conns c = after := by
      rw [Shared.conns_notify, Shared.conns_setConn, if_pos rfl]
    have hnet : net.step reqs (.writer c choice) =
        some { net with shared := (net.shared.setConn c after).notify notice } := by
      simp only [step, Shared.afterTask, hwriter, Option.map_some]
    rw [← hconn] at hrest
    obtain ⟨es, net', hrun', hend⟩ := ih (show run Conn.stepWriter (({ net with
      shared := (net.shared.setConn c after).notify notice } : Network ι κ).shared.conns c)
        choices = _ from hrest)
    exact ⟨.writer c choice :: es, net', (run_cons_eq_some _ _ _ _).mpr ⟨_, hnet, hrun'⟩, hend⟩

/-- What a connection does once it is closed, by whomever: whatever happens afterwards, nothing is
written on it but the frame that its writer had in hand; and if neither a call nor the keepalive
task has passed its check and not sent, then its writer task can end exactly if there is something
for it to do.  A writer that waits for a frame then waits for good. -/
theorem closed_connection (fw : Forwarder) (reqs : ι → Request) (capacity : κ → Nat)
    (es : List (Event ι κ)) (net : Network ι κ)
    (hrun : run (step reqs) (init fw reqs capacity) es = some net) (c : κ)
    (hclosed : (net.shared.conns c).closed = true) :
    (∀ es' net', run (step reqs) net es' = some net' →
      (net'.shared.conns c).closed = true ∧
      ((net'.shared.conns c).wire = (net.shared.conns c).wire ∨
        ∃ frame, (net.shared.conns c).writer = .write frame ∧
          (net'.shared.conns c).wire = (net.shared.conns c).wire ++ [frame])) ∧
    ((∀ t, ¬ (net.calls t).phase.MaySend c) → (net.shared.conns c).keepalive ≠ .send →
      ((∃ es' net', run (step reqs) net es' = some net' ∧
          (net'.shared.conns c).writer = .ended) ↔
        ¬ ((net.shared.conns c).writer = .recv ∧ (net.shared.conns c).queue = []))) := by
  obtain ⟨hfollows, hchecking⟩ := checking_of_run hrun
  refine ⟨fun es' net' hrun' => ?_, fun hsends hkeepalive => ?_⟩
  · have hboth : Following fw reqs net' ∧
        WritesInHand (net.shared.conns c) (net'.shared.conns c) :=
      invariant_of_run
        (I := fun net' => Following fw reqs net' ∧
          WritesInHand (net.shared.conns c) (net'.shared.conns c))
        (fun _ _ _ ⟨hfollows, hwrites⟩ hstep =>
          ⟨following_step hfollows hstep,
            writesInHand_step hwrites (writerSide_of_step hfollows hstep c)⟩)
        ⟨hfollows, hclosed, Or.inl ⟨rfl, fun _ h => h⟩⟩ hrun'
    refine ⟨hboth.2.closed, ?_⟩
    rcases hboth.2.wire with ⟨hsame, -⟩ | ⟨hmore, -⟩
    · exact Or.inl hsame
    · exact Or.inr hmore
  · constructor
    · rintro ⟨es', net', hrun', hended⟩ ⟨hwriter, hqueue⟩
      have hparked : Parked net c := by
        refine ⟨⟨hclosed, hwriter, hqueue, hkeepalive⟩, fun t => ?_⟩
        obtain ⟨st, hst, hfits⟩ := hchecking t
        refine follows_shut_of_check ?_ hst
        rintro rfl
        exact hsends t hfits
      rw [(parked_of_run hfollows hparked hrun').conn.writer] at hended
      cases hended
    · exact fun hbusy => exists_run_of_canEnd (Conn.canEnd_of_busy hbusy)

set_option maxRecDepth 2000 in
/-- The peer closes an idle connection: its reader ends, its writer never does. -/
theorem closed_connection_idle :
    ∃ net, run (step fun _ => parisWrite) oneWrite (readerEnds false) = some net ∧
      (net.shared.conns false).reader = .ended ∧
      ∀ es' net', run (step fun _ => parisWrite) net es' = some net' →
        (net'.shared.conns false).writer ≠ .ended := by
  obtain ⟨net, hrun, hnet⟩ := Option.map_eq_some_iff.mp (show
    (run (step fun _ => parisWrite) oneWrite (readerEnds false)).map
      (fun net => ((net.shared.conns false).reader, (net.shared.conns false).closed,
        (net.shared.conns false).writer, (net.shared.conns false).queue,
        (net.shared.conns false).keepalive, (net.calls ()).phase)) =
      some (.ended, true, .recv, [], .tick, .free) from rfl)
  simp only [Prod.mk.injEq] at hnet
  obtain ⟨hreader, hclosed, hwriter, hqueue, hkeepalive, hphase⟩ := hnet
  obtain ⟨-, hends⟩ := closed_connection ⟨3, []⟩ _ _ _ net hrun false hclosed
  refine ⟨net, hrun, hreader, fun es' net' hrun' hended => ?_⟩
  refine (hends (fun t => ?_) (fun hsend => ?_)).mp ⟨es', net', hrun', hended⟩ ⟨hwriter, hqueue⟩
  · rw [show t = () from rfl, hphase]
    exact id
  · rw [hkeepalive] at hsend
    cases hsend

end Network

end RzRouter
