import RzRouter.Router.Routes
import RzRouter.Wire.Rewriting

/-!
# What a router sends to its hops

Keepalives, and the frames that its clients have sent, whole and with another clrid.  So what a
router sends is a stream of valid router frames, which the next router can take apart again.
-/

namespace RzRouter

open LittleEndian Network Program

/-! ## The frames of a connection -/

/-- What a step that is none of the hop does to a connection: frames are written behind the others,
and a frame that is no call's is a keepalive. -/
structure Conn.Grows (c c' : Conn) : Prop where
  wire : c.wire <+: c'.wire
  frames : ∀ out ∈ c'.frames, out.tx = none → out ∈ c.frames ∨ out.bytes = buildKeepaliveFrame 0
  sent : c'.sent = c.sent

theorem Conn.grows_of_same {c c' : Conn} (hwire : c'.wire = c.wire) (hframes : c'.frames = c.frames)
    (hsent : c'.sent = c.sent) : c.Grows c' :=
  ⟨hwire ▸ List.prefix_rfl, fun _ hout _ => Or.inl (hframes ▸ hout), hsent⟩

theorem frames_sublist_of_writerStep {c c' : Conn} {notice : Option Notice}
    (h : WriterStep c c' notice) : c'.frames.Sublist c.frames := by
  unfold Conn.frames
  cases h with
  | recv frame queue hwriter hqueue => simp [hwriter, hqueue, Writer.frame]
  | failAll pc demux pc' notice hwriter hstep =>
    cases pc' <;> simp [hwriter, Writer.frame, Writer.afterFailAll]
  | seesClosed frame hwriter | seesOpen frame hwriter | written frame hwriter
  | writeFails frame hwriter => simp [hwriter, Writer.frame]
  | flushed hwriter | flushFails hwriter | storeClosed hwriter | finalStore hwriter
  | dropReceiver hwriter => simp [hwriter, Writer.frame]

theorem grows_of_writerStep {c c' : Conn} {notice : Option Notice} (h : WriterStep c c' notice) :
    c.Grows c' := by
  refine ⟨?_, fun out hout _ => Or.inl ((frames_sublist_of_writerStep h).subset hout), ?_⟩
  · cases h with
    | written frame hwriter => exact List.prefix_append _ _
    | _ => exact List.prefix_rfl
  · cases h <;> rfl

theorem grows_of_readerStep {c c' : Conn} {choice : TaskChoice} {notice : Option Notice}
    (h : ReaderStep c choice c' notice) : c.Grows c' := by
  cases h <;> exact Conn.grows_of_same rfl rfl rfl

section Steps

variable {ι κ : Type} [DecidableEq ι] [DecidableEq κ] {fw : Forwarder} {reqs : ι → Request}
  {net net' : Network ι κ} {e : Event ι κ}

theorem grows_of_step (hfollows : Following fw reqs net) (h : net.step reqs e = some net')
    (hhop : ∀ c message, e ≠ .hop c message) (c : κ) :
    (net.shared.conns c).Grows (net'.shared.conns c) := by
  -- a step of a task changes its own connection only
  have hset : ∀ c' conn, (net.shared.conns c').Grows conn →
      (net.shared.conns c).Grows ((net.shared.setConn c' conn).conns c) := by
    intro c' conn hgrows
    rw [Shared.conns_setConn]
    split
    · rename_i hc
      rw [hc]
      exact hgrows
    · exact Conn.grows_of_same rfl rfl rfl
  cases e with
  | call t answer =>
    rcases call_cases hfollows h with ⟨hstep, -⟩ | ⟨c', hshared, -, -⟩
    · have heffect := conn_of_callStep hstep c
      refine ⟨heffect.wire ▸ List.prefix_rfl, fun out hout htx => ?_, heffect.sent⟩
      rcases frames_of_callStep hstep c with heq | ⟨id, tx, -, -, -, heq⟩
      · exact Or.inl (heq ▸ hout)
      · rw [heq] at hout
        rcases List.mem_append.mp hout with hold | hnew
        · exact Or.inl hold
        · rw [List.mem_singleton.mp hnew] at htx
          cases htx
    · rw [hshared]
      exact hset c' _ (Conn.grows_of_same rfl rfl rfl)
  | keepalive c' =>
    obtain ⟨conn, hconn, rfl⟩ := Option.map_eq_some_iff.mp h
    apply hset c' conn
    cases keepaliveStep_cases hconn with
    | moves pc hopen => exact Conn.grows_of_same rfl rfl rfl
    | sends hkeepalive =>
      refine ⟨List.prefix_rfl, fun out hout _ => ?_, rfl⟩
      unfold Conn.frames at hout
      rw [← List.append_assoc] at hout
      rcases List.mem_append.mp hout with hold | hnew
      · exact Or.inl hold
      · rw [List.mem_singleton.mp hnew]
        exact Or.inr rfl
  | writer c' choice =>
    obtain ⟨shared, htask, rfl⟩ := Option.map_eq_some_iff.mp h
    obtain ⟨⟨conn, notice⟩, hwriter, rfl⟩ := Option.map_eq_some_iff.mp htask
    show (net.shared.conns c).Grows (((net.shared.setConn c' conn).notify notice).conns c)
    rw [Shared.conns_notify]
    exact hset c' conn (grows_of_writerStep (writerStep_cases hwriter))
  | reader c' choice =>
    obtain ⟨shared, htask, rfl⟩ := Option.map_eq_some_iff.mp h
    obtain ⟨⟨conn, notice⟩, hreader, rfl⟩ := Option.map_eq_some_iff.mp htask
    show (net.shared.conns c).Grows (((net.shared.setConn c' conn).notify notice).conns c)
    rw [Shared.conns_notify]
    exact hset c' conn (grows_of_readerStep (readerStep_cases hreader))
  | hop c' message => exact absurd rfl (hhop c' message)
  | shutdown c' =>
    cases h
    exact hset c' _ (Conn.grows_of_same rfl rfl rfl)

/-- Only the message of the step is sent by the hop. -/
theorem hop_step {c : κ} {message : Incoming} (h : net.step reqs (.hop c message) = some net') :
    net'.calls = net.calls ∧ net'.shared.ident = net.shared.ident ∧
      (net'.shared.conns c).wire = (net.shared.conns c).wire ∧
      (net'.shared.conns c).frames = (net.shared.conns c).frames ∧
      (net'.shared.conns c).sent = (net.shared.conns c).sent ++ [message] ∧
      ∀ c', c' ≠ c → net'.shared.conns c' = net.shared.conns c' := by
  obtain ⟨conn, hconn, rfl⟩ := Option.map_eq_some_iff.mp h
  rw [eq_of_hopSends hconn]
  refine ⟨rfl, Shared.ident_setConn _ _ _, ?_, ?_, ?_, fun c' hc => ?_⟩
  · rw [Shared.conns_setConn, if_pos rfl]
  · rw [Shared.conns_setConn, if_pos rfl]
    rfl
  · rw [Shared.conns_setConn, if_pos rfl]
  · rw [Shared.conns_setConn, if_neg hc]

/-- A frame that is no call's is a keepalive. -/
def KeepalivesOnly (net : Network ι κ) : Prop :=
  ∀ c, ∀ out ∈ (net.shared.conns c).frames, out.tx = none → out.bytes = buildKeepaliveFrame 0

theorem keepalivesOnly_of_run {capacity : κ → Nat} {es : List (Event ι κ)}
    (hrun : Transition.run (Network.step reqs) (Network.init fw reqs capacity) es = some net) :
    KeepalivesOnly net := by
  have hboth : Following fw reqs net ∧ KeepalivesOnly net := by
    refine Transition.invariant_of_run
      (I := fun net : Network ι κ => Following fw reqs net ∧ KeepalivesOnly net) ?_ ?_ hrun
    · rintro net e net' ⟨hfollows, h⟩ hstep
      refine ⟨following_step hfollows hstep, fun c out hout htx => ?_⟩
      by_cases hhop : ∃ c' message, e = .hop c' message
      · obtain ⟨c', message, rfl⟩ := hhop
        obtain ⟨-, -, -, hframes, -, hothers⟩ := hop_step hstep
        by_cases hc : c = c'
        · subst hc
          rw [hframes] at hout
          exact h c out hout htx
        · rw [hothers c hc] at hout
          exact h c out hout htx
      · push Not at hhop
        exact ((grows_of_step hfollows hstep hhop c).frames out hout htx).elim
          (fun hold => h c out hold htx) id
    · exact ⟨following_init capacity, fun c out hout => absurd hout List.not_mem_nil⟩
  exact hboth.2

end Steps

/-! ## The frames of a router -/

namespace Router

variable {σ κ : Type} [DecidableEq σ] [DecidableEq κ] {su : Setup σ κ} {r : Router σ κ}
  {es : List (RouterEvent σ κ)}

/-- A frame that a router sends: a keepalive, or the frame of a request under the id of a try. -/
inductive Sends (su : Setup σ κ) (r : Router σ κ) (c : κ) (out : Outgoing) : RouterFrame → Prop
  | keepalive (f : RouterFrame) (htx : out.tx = none) (hsegment : f.segment = KEEPALIVE_SEGMENT) :
      Sends su r c out f
  | request (tx : Nat) (t : σ × Nat) (id : UInt32) (f : RouterFrame) (bytes : List UInt8)
      (htx : out.tx = some tx) (hident : r.net.shared.ident tx = some (t, c, id))
      (hframe : IsRouterFrame bytes f) (hrequest : su.requests t = f.request bytes)
      (hsegment : f.segment ≠ KEEPALIVE_SEGMENT) (hremote : (su.requests t).Remote)
      (hbytes : out.bytes = (su.requests t).frameFor id) :
      Sends su r c out { f with originalClrid := id }

theorem sends_of_run (hrun : Transition.run (step su) (init su) es = some r) {c : κ}
    {out : Outgoing} (hout : out ∈ (r.net.shared.conns c).frames) :
    ∃ f, IsRouterFrame out.bytes f ∧ Sends su r c out f := by
  obtain ⟨es', hnet⟩ := net_of_run hrun
  cases htx : out.tx with
  | none =>
    have hbytes := keepalivesOnly_of_run hnet c out hout htx
    exact ⟨_, hbytes ▸ isRouterFrame_buildKeepaliveFrame 0, .keepalive _ htx rfl⟩
  | some tx =>
    obtain ⟨t, id, hident, -, hbytes, -⟩ := (delivers_of_run hnet).shape.frame c out hout tx htx
    obtain ⟨⟨es₁, r₁, -, -, -, -, -, ⟨-, hpending⟩, -⟩, hremote⟩ :=
      (onRoute_of_run hrun).channels tx t c id hident
    obtain ⟨f, hdecode, hsegment, hrequest⟩ := pending_eq_some hpending
    have hframe := isRouterFrame_take hdecode
    refine ⟨{ f with originalClrid := id }, ?_, ?_⟩
    · rw [hbytes, hrequest]
      exact hframe.overwrite id
    · exact .request tx t id f _ htx hident hframe hrequest hsegment hremote hbytes

end Router

end RzRouter
