import RzRouter.Network.Shape

/-!
# Writes

A write may be tried again only while its frame has not been written.  The forwarder decides this
on the result `ConnectionClosed`, which a waiter also gets when `fail_all` drains it after its
frame went out.  Along every run in which no such waiter of a write is drained, a write is written
at most once, and a definite failure means that it was not written.
-/

namespace RzRouter

open Program

variable {ι κ : Type} [DecidableEq ι] [DecidableEq κ]

namespace CallPhase

omit [DecidableEq ι] [DecidableEq κ]

/-- The call has handed the frame of `tx` over and does not try again. -/
def Holds : CallPhase κ → Nat → Prop
  | queued _ _ tx', tx | expired _ _ tx', tx | unsure tx', tx | answered _ _ tx' _, tx => tx' = tx
  | _, _ => False

/-- The try is on its way to wait, or waits. -/
def awaits? : CallPhase κ → Option (κ × UInt32 × Nat)
  | opened c id tx | registered c id tx | queued c id tx => some (c, id, tx)
  | _ => none

theorem current_of_awaits {ph : CallPhase κ} {x : κ × UInt32 × Nat} (h : ph.awaits? = some x) :
    ph.current? = some x := by
  cases ph <;> simp_all [awaits?, current?]

end CallPhase

namespace Network

/-! ## The condition -/

/-- The step does not take the waiter of a write away in a way that makes the write look unsent:
`fail_all` drains no write whose frame is written or past the writer's closed check, and no
clean-up of one call removes the waiter of another call's write. -/
structure SparesWrites (reqs : ι → Request) (net : Network ι κ) (e : Event ι κ) : Prop where
  drained : ∀ tx t c id, e.Drains net tx → net.shared.ident tx = some (t, c, id) →
    (reqs t).isWrite = true → ¬ (net.shared.conns c).Committed tx
  cleanedUp : ∀ t answer, e = .call t answer → ∀ c id tx,
    ((net.calls t).phase = .aborted c id tx ∨ (net.calls t).phase = .expired c id tx) →
    ∀ tx' t' c' id', ((net.shared.conns c).demux.remove id).2 = some tx' →
      net.shared.ident tx' = some (t', c', id') → (reqs t').isWrite = true → t' = t

/-! ## The invariant -/

/-- The waiter of `tx` has been told, or will be told, that the connection is closed. -/
def Doomed (net : Network ι κ) (c : κ) (tx : Nat) : Prop :=
  (∃ e, net.shared.state tx = some (.failed e)) ∨ net.shared.state tx = some .dropped ∨
    tx ∈ (net.shared.conns c).failing

/-- A write that is written, or can still be, does not try again, and a write that is about to be
told that its connection is closed will not be written. -/
structure WriteInvariant (reqs : ι → Request) (net : Network ι κ) : Prop where
  live : ∀ c tx t id, (net.shared.conns c).Live tx → net.shared.ident tx = some (t, c, id) →
    (reqs t).isWrite = true → (net.calls t).phase.Holds tx
  spared : ∀ t c id tx, (reqs t).isWrite = true →
    (net.calls t).phase.awaits? = some (c, id, tx) → net.Doomed c tx →
    (net.shared.conns c).closed = true ∧ ¬ (net.shared.conns c).Committed tx

section Moves

variable {req : Request} {t : ι} {sh sh' : Shared ι κ} {ph ph' : CallPhase κ}

omit [DecidableEq ι]

theorem committed_of_callEffect {c c' : Conn} (h : CallEffect c c') (tx : Nat) :
    c'.Committed tx ↔ c.Committed tx := by
  unfold Conn.Committed
  rw [h.wire, h.writer]

/-- A move makes a frame live only by sending it. -/
theorem live_of_callStep (h : CallStep req t sh ph sh' ph') {c : κ} {tx : Nat}
    (hlive : (sh'.conns c).Live tx) :
    (sh.conns c).Live tx ∨ ∃ id, ph = .registered c id tx ∧ ph' = .queued c id tx := by
  have heffect := conn_of_callStep h c
  rcases hlive with hcommitted | ⟨hopen, htxs⟩
  · exact Or.inl (Or.inl ((committed_of_callEffect heffect tx).mp hcommitted))
  · have hopen' : (sh.conns c).closed = false := by
      cases hclosed : (sh.conns c).closed with
      | false => rfl
      | true =>
        rw [heffect.closed hclosed] at hopen
        cases hopen
    -- a frame that is not committed is live because it is among the accepted ones
    obtain ⟨out, hout, htx⟩ := mem_txs.mp htxs
    rcases frames_of_callStep h c with heq | ⟨id, tx', hph, hph', -, heq⟩
    · rw [heq] at hout
      exact Or.inl (Or.inr ⟨hopen', mem_txs.mpr ⟨out, hout, htx⟩⟩)
    · rw [heq] at hout
      rcases List.mem_append.mp hout with hold | hnew
      · exact Or.inl (Or.inr ⟨hopen', mem_txs.mpr ⟨out, hold, htx⟩⟩)
      · rw [List.mem_singleton.mp hnew] at htx
        cases htx
        exact Or.inr ⟨id, hph, hph'⟩

/-- A write goes on holding its frame, unless it is told that the connection is closed. -/
theorem holds_of_callStep (h : CallStep req t sh ph sh' ph') (hwrite : req.isWrite = true)
    {tx : Nat} (hholds : ph.Holds tx) :
    ph'.Holds tx ∨ (∃ c id, ph = .queued c id tx) ∧
      (sh.state tx = some (.failed .connectionClosed) ∨ sh.state tx = some .dropped) := by
  -- a write that ends in an error is unsure, and holds its frame
  have hafter : ∀ tx', tx' = tx → (CallPhase.afterSend req tx' : CallPhase κ).Holds tx := by
    rintro tx' rfl
    unfold CallPhase.afterSend
    rw [if_pos hwrite]
    exact rfl
  cases h with
  | skip => exact Or.inl hholds
  | cleanUpExpired c id tx' => exact Or.inl (hafter tx' hholds)
  | elapse c id tx' ch hch hstate => exact Or.inl hholds
  | receive c id tx' ch hch index response hstate => exact Or.inl hholds
  | timedOut c id tx' ch hch hstate => exact Or.inl (hafter tx' hholds)
  | lose c id tx' ch hch hstate =>
    cases hholds
    refine Or.inr ⟨⟨c, id, rfl⟩, ?_⟩
    unfold Shared.state
    rw [hch, Option.map_some, Option.some.injEq, Option.some.injEq]
    exact hstate
  | _ => exact hholds.elim

/-- A call comes to wait only through a new channel. -/
theorem awaits_of_callStep (h : CallStep req t sh ph sh' ph') {x : κ × UInt32 × Nat}
    (hx : ph'.awaits? = some x) :
    ph.awaits? = some x ∨ ∃ c id, ph = .drawn c id ∧ x = (c, id, sh.channels.length) := by
  have hafter : ∀ tx, (CallPhase.afterSend req tx : CallPhase κ).awaits? = none := by
    intro tx
    unfold CallPhase.afterSend
    split <;> rfl
  cases h with
  | openChannel c id =>
    cases hx
    exact Or.inr ⟨c, id, rfl, rfl⟩
  | refuse c id tx sentAt hinserted =>
    rw [hafter] at hx
    cases hx
  | cleanUpExpired c id tx =>
    rw [hafter] at hx
    cases hx
  | timedOut c id tx ch hch hstate =>
    rw [hafter] at hx
    cases hx
  | giveUp | close | draw | notAccepted | cleanUpAborted | elapse | receive | lose => cases hx
  | _ => exact Or.inl hx

end Moves

section Steps

variable {reqs : ι → Request} {net net' : Network ι κ}

omit [DecidableEq ι] [DecidableEq κ] in
theorem writeInvariant_init (fw : Forwarder) (reqs : ι → Request) (capacity : κ → Nat) :
    WriteInvariant reqs (init fw reqs capacity : Network ι κ) where
  live := by
    intro c tx t id hlive
    exact absurd (Conn.mem_txs_of_live hlive) List.not_mem_nil
  spared := nofun

omit [DecidableEq ι] [DecidableEq κ] in
/-- A doomed waiter of a write makes its frame dead. -/
theorem WriteInvariant.not_live (h : WriteInvariant reqs net) (hshape : Shape reqs net) {t : ι}
    {c c' : κ} {id id' : UInt32} {tx : Nat} (hwrite : (reqs t).isWrite = true)
    (hawaits : (net.calls t).phase.awaits? = some (c, id, tx)) (hdoomed : net.Doomed c tx)
    (hident : net.shared.ident tx = some (t, c', id')) : ¬ (net.shared.conns c').Live tx := by
  rw [hshape.current t c id tx (CallPhase.current_of_awaits hawaits)] at hident
  cases hident
  obtain ⟨hclosed, hnot⟩ := h.spared t c id tx hwrite hawaits hdoomed
  exact fun hlive => hnot (Conn.committed_of_live hclosed hlive)

theorem writeInvariant_of_callStep {t : ι} {answer : Answer κ} (h : WriteInvariant reqs net)
    (hshape : Shape reqs net) (hspares : SparesWrites reqs net (.call t answer))
    (hstep : CallStep (reqs t) t net.shared (net.calls t).phase net'.shared (net'.calls t).phase)
    (hothers : ∀ t', t' ≠ t → net'.calls t' = net.calls t') : WriteInvariant reqs net' := by
  have hconn := conn_of_callStep hstep
  have hkept : ∀ c tx, (net.shared.conns c).closed = true ∧ ¬ (net.shared.conns c).Committed tx →
      (net'.shared.conns c).closed = true ∧ ¬ (net'.shared.conns c).Committed tx := by
    rintro c tx ⟨hclosed, hnot⟩
    exact ⟨(hconn c).closed hclosed, fun hc => hnot ((committed_of_callEffect (hconn c) tx).mp hc)⟩
  constructor
  · intro c tx t' id hlive hident hwrite
    rcases live_of_callStep hstep hlive with hold | ⟨id', hph, hph'⟩
    · -- the frame was live before
      have hident' : net.shared.ident tx = some (t', c, id) := by
        obtain ⟨out, hout, htx⟩ := mem_txs.mp (Conn.mem_txs_of_live hold)
        obtain ⟨t'', id'', hident'', -, -, -⟩ := hshape.frame c out hout tx htx
        rw [ident_mono_of_callStep hstep hident''] at hident
        cases hident
        exact hident''
      have hholds := h.live c tx t' id hold hident' hwrite
      by_cases ht : t' = t
      · subst ht
        rcases holds_of_callStep hstep hwrite hholds with hkeeps | ⟨⟨c', id', hph⟩, hstate⟩
        · exact hkeeps
        · have hdoomed : net.Doomed c' tx := by
            rcases hstate with hfailed | hdropped
            · exact Or.inl ⟨_, hfailed⟩
            · exact Or.inr (Or.inl hdropped)
          exact absurd hold
            (h.not_live hshape hwrite (by rw [hph]; rfl) hdoomed hident')
      · rw [hothers t' ht]
        exact hholds
    · -- the move hands it over
      have hcurrent := hshape.current t c id' tx (by rw [hph]; rfl)
      rw [ident_mono_of_callStep hstep hcurrent] at hident
      cases hident
      rw [hph']
      exact rfl
  · intro t' c id tx hwrite hawaits hdoomed
    by_cases ht : t' = t
    · subst ht
      rcases awaits_of_callStep hstep hawaits with hold | ⟨c', id', hph, hx⟩
      · refine hkept c tx (h.spared t' c id tx hwrite hold ?_)
        have hstate : ∀ st, net'.shared.state tx = some st → st ≠ .waiting →
            net.shared.state tx = some st := by
          intro st hst hne
          rcases state_of_callStep hstep hst with hsame | ⟨-, hw⟩ | ⟨c', id', tx', hph, -⟩
          · exact hsame
          · exact absurd hw hne
          · rcases hph with hph | hph <;> rw [hph] at hold <;> cases hold
        rcases hdoomed with ⟨e, he⟩ | hdropped | hfailing
        · exact Or.inl ⟨e, hstate _ he nofun⟩
        · exact Or.inr (Or.inl (hstate _ hdropped nofun))
        · rw [failing_of_callEffect (hconn c)] at hfailing
          exact Or.inr (Or.inr hfailing)
      · -- a new channel is not doomed
        cases hx
        have hstate : ∀ st, net'.shared.state net.shared.channels.length = some st →
            st = .waiting := by
          intro st hst
          rcases state_of_callStep hstep hst with hsame | ⟨-, hw⟩ | ⟨c'', id'', tx', hph', -⟩
          · exact absurd (Shared.lt_of_state hsame) (Nat.lt_irrefl _)
          · exact hw
          · rcases hph' with hph' | hph' <;> rw [hph] at hph' <;> cases hph'
        rcases hdoomed with ⟨e, he⟩ | hdropped | hfailing
        · cases hstate _ he
        · cases hstate _ hdropped
        · rw [failing_of_callEffect (hconn c)] at hfailing
          obtain ⟨t'', id'', hident⟩ := hshape.failing c _ hfailing
          exact absurd (Shared.lt_of_ident hident) (Nat.lt_irrefl _)
    · rw [hothers t' ht] at hawaits
      have hident := hshape.current t' c id tx (CallPhase.current_of_awaits hawaits)
      refine hkept c tx (h.spared t' c id tx hwrite hawaits ?_)
      have hstate : ∀ st, net'.shared.state tx = some st → net.shared.state tx = some st := by
        intro st hst
        rcases state_of_callStep hstep hst with
          hsame | ⟨hlen, -⟩ | ⟨c', id', tx', hph, -, hremove⟩
        · exact hsame
        · exact absurd (Shared.lt_of_ident hident) (by omega)
        · exact absurd (hspares.cleanedUp t answer rfl c' id' tx' hph tx t' c id hremove hident
            hwrite) ht
      rcases hdoomed with ⟨e, he⟩ | hdropped | hfailing
      · exact Or.inl ⟨e, hstate _ he⟩
      · exact Or.inr (Or.inl (hstate _ hdropped))
      · rw [failing_of_callEffect (hconn c)] at hfailing
        exact Or.inr (Or.inr hfailing)

omit [DecidableEq ι] in
theorem writeInvariant_of_task {e : Event ι κ} {c : κ} {conn : Conn} {notice : Option Notice}
    (h : WriteInvariant reqs net) (hshape : Shape reqs net)
    (hspares : ∀ tx t c id, e.Drains net tx → net.shared.ident tx = some (t, c, id) →
      (reqs t).isWrite = true →
      (net.shared.conns c).closed = true ∧ ¬ (net.shared.conns c).Committed tx)
    (hshared : net'.shared = (net.shared.setConn c conn).notify notice)
    (hcalls : net'.calls = net.calls)
    (heffect : (net.shared.conns c).TaskEffect conn notice (e.Drains net)) :
    WriteInvariant reqs net' := by
  have hident : net'.shared.ident = net.shared.ident := by
    rw [hshared, Shared.ident_notify, Shared.ident_setConn]
  have hconns : ∀ c', net'.shared.conns c' = if c' = c then conn else net.shared.conns c' := by
    intro c'
    rw [hshared, Shared.conns_notify, Shared.conns_setConn]
  have hlive : ∀ c' tx, (net'.shared.conns c').Live tx → (net.shared.conns c').Live tx := by
    intro c' tx hl
    rw [hconns] at hl
    split at hl
    · rename_i hc
      rw [hc]
      exact heffect.live hl
    · exact hl
  constructor
  · intro c' tx t id hl hid hwrite
    rw [hident] at hid
    rw [hcalls]
    exact h.live c' tx t id (hlive c' tx hl) hid hwrite
  · intro t c' id tx hwrite hawaits hdoomed
    rw [hcalls] at hawaits
    have hcurrent := hshape.current t c' id tx (CallPhase.current_of_awaits hawaits)
    -- who is doomed now was doomed before, or is drained by this step
    have hbefore : net.Doomed c' tx ∨ e.Drains net tx := by
      have hresolved : ∀ st, net'.shared.state tx = some st → st = .dropped ∨ (∃ e, st = .failed e) →
          net.Doomed c' tx := by
        intro st hst hbad
        have hsame : net.shared.state tx = some st → net.Doomed c' tx := by
          rintro hold
          rcases hbad with rfl | ⟨e, rfl⟩
          · exact Or.inr (Or.inl hold)
          · exact Or.inl ⟨e, hold⟩
        rw [hshared] at hst
        rcases notice with _ | ⟨tx', e' | ⟨index, response⟩⟩
        · exact hsame hst
        · rcases Shared.state_resolve_cases hst with hold | ⟨rfl, -, -⟩
          · exact hsame hold
          · have hfailing := heffect.failed tx e' rfl
            obtain ⟨t', id', hid'⟩ := hshape.failing c tx hfailing
            rw [hcurrent] at hid'
            cases hid'
            exact Or.inr (Or.inr hfailing)
        · rcases Shared.state_resolve_cases hst with hold | ⟨-, rfl, -⟩
          · exact hsame hold
          · rcases hbad with hbad | ⟨e, hbad⟩ <;> cases hbad
      rcases hdoomed with ⟨e', he⟩ | hdropped | hfailing
      · exact Or.inl (hresolved _ he (Or.inr ⟨e', rfl⟩))
      · exact Or.inl (hresolved _ hdropped (Or.inl rfl))
      · rw [hconns] at hfailing
        split at hfailing
        · rename_i hc
          subst hc
          rcases heffect.failing tx hfailing with hold | hdrained
          · exact Or.inl (Or.inr (Or.inr hold))
          · exact Or.inr hdrained
        · exact Or.inl (Or.inr (Or.inr hfailing))
    have hdead : (net.shared.conns c').closed = true ∧ ¬ (net.shared.conns c').Committed tx :=
      hbefore.elim (h.spared t c' id tx hwrite hawaits)
        (fun hdrained => hspares tx t c' id hdrained hcurrent hwrite)
    refine ⟨?_, fun hcommitted => ?_⟩
    · rw [hconns]
      split
      · rename_i hc
        subst hc
        exact heffect.closed hdead.1
      · exact hdead.1
    · exact hdead.2 (Conn.committed_of_live hdead.1 (hlive c' tx (Or.inl hcommitted)))

omit [DecidableEq ι] [DecidableEq κ] in
/-- `fail_all` drains closed connections only. -/
theorem closed_of_drains {e : Event ι κ} (hshape : Shape reqs net) {tx : Nat} {t : ι} {c : κ}
    {id : UInt32} (hdrains : e.Drains net tx) (hident : net.shared.ident tx = some (t, c, id)) :
    (net.shared.conns c).closed = true := by
  -- the waiter is registered on the connection of its channel
  have hsame : ∀ c', (∃ id e, (net.shared.conns c').demux.Has id e ∧ e.tx = tx) → c' = c := by
    rintro c' ⟨id', e', he, rfl⟩
    obtain ⟨t', hident'⟩ := hshape.waiter c' id' e' he
    rw [hident] at hident'
    cases hident'
    rfl
  cases e with
  | writer c' choice =>
    obtain ⟨pc, hpc, hdrained⟩ := hdrains
    rw [← hsame c' hdrained.has]
    exact (hshape.closedFirst c').writer (by rw [hpc]; rfl)
  | reader c' choice =>
    obtain ⟨pc, hpc, hdrained⟩ := hdrains
    rw [← hsame c' hdrained.has]
    exact (hshape.closedFirst c').reader (by rw [hpc]; rfl)
  | call | keepalive | hop | shutdown => exact hdrains.elim

theorem writeInvariant_step {fw : Forwarder} {e : Event ι κ} (hfollows : Following fw reqs net)
    (hshape : Shape reqs net) (h : WriteInvariant reqs net) (hspares : SparesWrites reqs net e)
    (hstep : net.step reqs e = some net') : WriteInvariant reqs net' := by
  rcases step_cases hfollows hstep with
    ⟨t, answer, rfl, hmove, hothers⟩ | ⟨t, answer, rfl, c, hshared, -, hcalls⟩ |
      ⟨c, conn, notice, -, hshared, hcalls, heffect⟩
  · exact writeInvariant_of_callStep h hshape hspares hmove hothers
  · exact writeInvariant_of_task (e := .call t answer) h hshape
      (fun _ _ _ _ hfalse => hfalse.elim)
      (show net'.shared = (net.shared.setConn c _).notify none from hshared) hcalls
      (fetchCorrId_effect _)
  · exact writeInvariant_of_task h hshape
      (fun tx t c id hdrains hident hwrite =>
        ⟨closed_of_drains hshape hdrains hident, hspares.drained tx t c id hdrains hident hwrite⟩)
      hshared hcalls heffect

/-- All that is known of a state that a sparing run reaches. -/
structure WriteSafe (fw : Forwarder) (reqs : ι → Request) (net : Network ι κ) : Prop where
  follows : Following fw reqs net
  shape : Shape reqs net
  writes : WriteInvariant reqs net

theorem writeSafe_of_run {fw : Forwarder} {capacity : κ → Nat} {es : List (Event ι κ)}
    (hrun : Transition.run (step reqs) (init fw reqs capacity) es = some net)
    (hspares : Transition.Meets (step reqs) (SparesWrites reqs) (init fw reqs capacity) es) :
    WriteSafe fw reqs net := by
  refine Transition.invariant_of_meets (I := WriteSafe fw reqs) ?_ ?_ hspares hrun
  · intro s e s' h hcond hstep
    exact ⟨following_step h.follows hstep, shape_step h.follows h.shape hstep,
      writeInvariant_step h.follows h.shape h.writes hcond hstep⟩
  · exact ⟨following_init capacity, shape_init fw reqs capacity,
      writeInvariant_init fw reqs capacity⟩

end Steps

end Network

end RzRouter
