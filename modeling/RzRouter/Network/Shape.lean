import RzRouter.Network.Moves

/-!
# The shape of reachable systems

Who owns what, in every reachable state, whatever the calls, the hops and the network do: the
frames on a connection are the frames of the calls that registered there, each handed over once,
and a waiter is registered under the id of its own try.
-/

namespace RzRouter

open Program

variable {ι κ : Type} [DecidableEq ι] [DecidableEq κ]

namespace Network

structure Shape (reqs : ι → Request) (net : Network ι κ) : Prop where
  /-- The channel of a try belongs to the call, for the connection and id of the try. -/
  current : ∀ t c id tx, (net.calls t).phase.current? = some (c, id, tx) →
    net.shared.ident tx = some (t, c, id)
  /-- A frame is that of the call and the id of its channel, and the call has sent it. -/
  frame : ∀ c, ∀ out ∈ (net.shared.conns c).frames, ∀ tx, out.tx = some tx →
    ∃ t id, net.shared.ident tx = some (t, c, id) ∧
      (reqs t).clridOffset + 4 ≤ (reqs t).frame.length ∧ out.bytes = (reqs t).frameFor id ∧
      ¬ (net.calls t).phase.Unsent tx
  nodup : ∀ c, (net.shared.conns c).txs.Nodup
  waiter : ∀ c id e, (net.shared.conns c).demux.Has id e →
    ∃ t, net.shared.ident e.tx = some (t, c, id)
  failing : ∀ c, ∀ tx ∈ (net.shared.conns c).failing, ∃ t id, net.shared.ident tx = some (t, c, id)
  delivers : ∀ c tx, (net.shared.conns c).Delivers tx → ∃ t id, net.shared.ident tx = some (t, c, id)
  closedFirst : ∀ c, (net.shared.conns c).ClosedFirst

section

variable {reqs : ι → Request} {net net' : Network ι κ}

omit [DecidableEq ι] [DecidableEq κ] in
theorem shape_init (fw : Forwarder) (reqs : ι → Request) (capacity : κ → Nat) :
    Shape reqs (init fw reqs capacity : Network ι κ) where
  current := nofun
  frame := fun _ _ hout => absurd hout List.not_mem_nil
  nodup := fun _ => List.nodup_nil
  waiter := fun _ id e h => absurd h (Demux.not_has_new id e)
  failing := fun _ _ h => absurd h List.not_mem_nil
  delivers := fun _ _ ⟨_, _, h⟩ => nomatch h
  closedFirst := fun _ => ⟨nofun, nofun⟩

theorem mem_txs {c : Conn} {tx : Nat} : tx ∈ c.txs ↔ ∃ out ∈ c.frames, out.tx = some tx :=
  List.mem_filterMap

omit [DecidableEq ι] [DecidableEq κ] in
/-- A frame that was sent is nobody's unsent one. -/
theorem Shape.notMem_txs (h : Shape reqs net) {t : ι} {c : κ} {id : UInt32} {tx : Nat}
    (hcurrent : (net.calls t).phase.current? = some (c, id, tx))
    (hunsent : (net.calls t).phase.Unsent tx) (c' : κ) : tx ∉ (net.shared.conns c').txs := by
  intro hmem
  obtain ⟨out, hout, htx⟩ := mem_txs.mp hmem
  obtain ⟨t', id', hident, -, -, hsent⟩ := h.frame c' out hout tx htx
  rw [h.current t c id tx hcurrent] at hident
  cases hident
  exact hsent hunsent

theorem failing_of_callEffect {c c' : Conn} (h : CallEffect c c') : c'.failing = c.failing := by
  unfold Conn.failing
  rw [h.writer, h.reader]

theorem delivers_of_callEffect {c c' : Conn} (h : CallEffect c c') {tx : Nat}
    (hdel : c'.Delivers tx) : c.Delivers tx := by
  unfold Conn.Delivers at hdel
  rw [h.reader] at hdel
  exact hdel

theorem closedFirst_of_callEffect {c c' : Conn} (h : CallEffect c c') (hc : c.ClosedFirst) :
    c'.ClosedFirst :=
  ⟨fun hbegun => h.closed (hc.writer (h.writer ▸ hbegun)),
    fun hbegun => h.closed (hc.reader (h.reader ▸ hbegun))⟩

theorem shape_of_callStep {t : ι} (h : Shape reqs net)
    (hstep : CallStep (reqs t) t net.shared (net.calls t).phase net'.shared (net'.calls t).phase)
    (hothers : ∀ t', t' ≠ t → net'.calls t' = net.calls t') : Shape reqs net' := by
  have hmono : ∀ {tx x}, net.shared.ident tx = some x → net'.shared.ident tx = some x :=
    fun hx => ident_mono_of_callStep hstep hx
  have hconn := conn_of_callStep hstep
  -- only a new channel becomes unsent, and `tx` is not new
  have hsent : ∀ {t' tx x}, net.shared.ident tx = some x → ¬ (net.calls t').phase.Unsent tx →
      ¬ (net'.calls t').phase.Unsent tx := by
    intro t' tx x hx hnot hunsent
    by_cases ht : t' = t
    · subst ht
      rcases unsent_of_callStep hstep hunsent with hold | rfl
      · exact hnot hold
      · exact Nat.lt_irrefl _ (Shared.lt_of_ident hx)
    · rw [hothers t' ht] at hunsent
      exact hnot hunsent
  exact
    { current := by
        intro t' c id tx hcurrent
        by_cases ht : t' = t
        · subst ht
          rcases current_of_callStep hstep hcurrent with hold | ⟨c', id', -, hx, hident⟩
          · exact hmono (h.current t' c id tx hold)
          · cases hx
            exact hident
        · rw [hothers t' ht] at hcurrent
          exact hmono (h.current t' c id tx hcurrent)
      frame := by
        intro c out hout tx htx
        have hold : out ∈ (net.shared.conns c).frames → ∃ t id,
            net'.shared.ident tx = some (t, c, id) ∧
            (reqs t).clridOffset + 4 ≤ (reqs t).frame.length ∧ out.bytes = (reqs t).frameFor id ∧
            ¬ (net'.calls t).phase.Unsent tx := by
          intro hout
          obtain ⟨t', id, hident, hlen, hbytes, hunsent⟩ := h.frame c out hout tx htx
          exact ⟨t', id, hmono hident, hlen, hbytes, hsent hident hunsent⟩
        -- the frame was there before, or the call hands it over now and is queued
        rcases frames_of_callStep hstep c with heq | ⟨id, tx', hph, hph', hlen, heq⟩
        · rw [heq] at hout
          exact hold hout
        · rw [heq] at hout
          rcases List.mem_append.mp hout with hmem | hnew
          · exact hold hmem
          · rw [List.mem_singleton.mp hnew] at htx ⊢
            cases htx
            refine ⟨t, id, hmono (h.current t c id tx (by rw [hph]; rfl)), hlen, rfl, ?_⟩
            rw [hph']
            exact fun h => h
      nodup := by
        intro c
        rcases frames_of_callStep hstep c with heq | ⟨id, tx, hph, hph', hlen, heq⟩
        · unfold Conn.txs
          rw [heq]
          exact h.nodup c
        -- the call has not sent a frame with this channel before
        · have hnew : tx ∉ (net.shared.conns c).txs :=
            h.notMem_txs (t := t) (by rw [hph]; rfl) (by rw [hph]; rfl) c
          have htxs : (net'.shared.conns c).txs = (net.shared.conns c).txs ++ [tx] := by
            unfold Conn.txs
            rw [heq, List.filterMap_append]
            rfl
          rw [htxs]
          exact List.nodup_append.mpr ⟨h.nodup c, List.nodup_singleton tx,
            fun a ha b hb => by
              rw [List.mem_singleton.mp hb]
              exact fun hab => hnew (hab ▸ ha)⟩
      waiter := by
        intro c id e he
        -- a new waiter is the one the call registers
        rcases has_of_callStep hstep he with hold | ⟨hph, -⟩
        · obtain ⟨t', hident⟩ := h.waiter c id e hold
          exact ⟨t', hmono hident⟩
        · exact ⟨t, hmono (h.current t c id e.tx (by rw [hph]; rfl))⟩
      failing := by
        intro c tx htx
        rw [failing_of_callEffect (hconn c)] at htx
        obtain ⟨t', id, hident⟩ := h.failing c tx htx
        exact ⟨t', id, hmono hident⟩
      delivers := by
        intro c tx htx
        obtain ⟨t', id, hident⟩ := h.delivers c tx (delivers_of_callEffect (hconn c) htx)
        exact ⟨t', id, hmono hident⟩
      closedFirst := fun c => closedFirst_of_callEffect (hconn c) (h.closedFirst c) }

omit [DecidableEq ι] in
theorem shape_of_task {c : κ} {conn : Conn} {notice : Option Notice} {drains : Nat → Prop}
    (h : Shape reqs net) (hshared : net'.shared = (net.shared.setConn c conn).notify notice)
    (hcalls : net'.calls = net.calls)
    (heffect : (net.shared.conns c).TaskEffect conn notice drains)
    (hdrains : ∀ tx, drains tx → ∃ id e, (net.shared.conns c).demux.Has id e ∧ e.tx = tx) :
    Shape reqs net' := by
  have hident : net'.shared.ident = net.shared.ident := by
    rw [hshared, Shared.ident_notify, Shared.ident_setConn]
  have hconns : ∀ c', net'.shared.conns c' = if c' = c then conn else net.shared.conns c' := by
    intro c'
    rw [hshared, Shared.conns_notify, Shared.conns_setConn]
  -- a registered waiter has a channel on this connection
  have hwaiter : ∀ tx, (∃ id e, (net.shared.conns c).demux.Has id e ∧ e.tx = tx) →
      ∃ t id, net.shared.ident tx = some (t, c, id) := by
    rintro tx ⟨id, e, he, rfl⟩
    obtain ⟨t, ht⟩ := h.waiter c id e he
    exact ⟨t, id, ht⟩
  exact
    { current := by
        rw [hcalls, hident]
        exact h.current
      frame := by
        intro c' out hout tx htx
        rw [hident, hcalls]
        rw [hconns] at hout
        split at hout
        · rename_i hc
          subst hc
          rcases heffect.frames out hout with hold | hnone
          · exact h.frame c' out hold tx htx
          · rw [hnone] at htx
            cases htx
        · exact h.frame c' out hout tx htx
      nodup := by
        intro c'
        rw [hconns]
        split
        · exact heffect.txs.nodup (h.nodup c)
        · exact h.nodup c'
      waiter := by
        intro c' id e he
        rw [hident]
        rw [hconns] at he
        split at he
        · rename_i hc
          subst hc
          exact h.waiter c' id e (heffect.waits id e he)
        · exact h.waiter c' id e he
      failing := by
        intro c' tx htx
        rw [hident]
        rw [hconns] at htx
        split at htx
        · rename_i hc
          subst hc
          -- what a task collects was registered on this connection
          rcases heffect.failing tx htx with hold | hdrained
          · exact h.failing c' tx hold
          · exact hwaiter tx (hdrains tx hdrained)
        · exact h.failing c' tx htx
      delivers := by
        intro c' tx htx
        rw [hident]
        rw [hconns] at htx
        split at htx
        · rename_i hc
          subst hc
          rcases heffect.delivers tx htx with hold | hhas
          · exact h.delivers c' tx hold
          · exact hwaiter tx hhas
        · exact h.delivers c' tx htx
      closedFirst := by
        intro c'
        rw [hconns]
        split
        · exact heffect.closedFirst (h.closedFirst c)
        · exact h.closedFirst c' }

omit [DecidableEq ι] in
theorem shape_of_redraw {c : κ} (h : Shape reqs net)
    (hshared : net'.shared = net.shared.setConn c (net.shared.conns c).fetchCorrId.1)
    (hcalls : net'.calls = net.calls) : Shape reqs net' :=
  shape_of_task h (show net'.shared = (net.shared.setConn c _).notify none from hshared) hcalls
    (fetchCorrId_effect _) (fun _ hfalse => hfalse.elim)

theorem shape_step {fw : Forwarder} {e : Event ι κ} (hfollows : Following fw reqs net)
    (h : Shape reqs net) (hstep : net.step reqs e = some net') : Shape reqs net' := by
  rcases step_cases hfollows hstep with
    ⟨t, answer, -, hmove, hothers⟩ | ⟨t, answer, -, c, hshared, -, hcalls⟩ |
      ⟨c, conn, notice, hdrains, hshared, hcalls, heffect⟩
  · exact shape_of_callStep h hmove hothers
  · exact shape_of_redraw h hshared hcalls
  · exact shape_of_task h hshared hcalls heffect hdrains

end

end Network

end RzRouter
