import RzRouter.Network.Ids
import RzRouter.Network.Shape

/-!
# Responses reach their calls

A response is delivered to one call, and when the hop echoes the clrids it receives, that call is
the one whose frame it answers.  The invariant ties the waiters, the reader and the resolved
channels of a connection together; the ids come from `Ids`.
-/

namespace RzRouter

open LittleEndian Program

variable {ι κ : Type} [DecidableEq ι] [DecidableEq κ]

/-- The frame in the reader's hands is a response with the clrid under which its waiter was
registered. -/
def Shared.Addressed (sh : Shared ι κ) (c : κ) : Reader → Prop
  | .remove _ id frame => IsResponse frame id
  | .deliver _ tx frame => ∃ t id, sh.ident tx = some (t, c, id) ∧ IsResponse frame id
  | _ => True

namespace Network

/-! ## Steps, as the responses see them -/

/-- What a step does to the responses: it moves the streams, sends responses into channels, and
lets calls take them out. -/
structure DeliveryStep (net net' : Network ι κ) (notice : κ → Option Notice) : Prop where
  stream : ∀ c, StreamStep (net.shared.conns c) (net'.shared.conns c) (notice c)
  ident : ∀ tx x, net.shared.ident tx = some x → net'.shared.ident tx = some x
  kept : ∀ tx st, net.shared.state tx = some st → st ≠ .waiting → net'.shared.state tx = some st
  received : ∀ tx index response, net'.shared.state tx = some (.received index response) →
    net.shared.state tx = some (.received index response) ∨
      ∃ c, notice c = some ⟨tx, .ok (index, response)⟩
  answered : ∀ t c id tx response, (net'.calls t).phase = .answered c id tx response →
    (net.calls t).phase = .answered c id tx response ∨
      ∃ index, net.shared.state tx = some (.received index response)

section

variable {reqs : ι → Request} {net net' : Network ι κ} {notice : κ → Option Notice}

omit [DecidableEq ι] in
theorem answered_of_callStep {req : Request} {t : ι} {sh sh' : Shared ι κ} {ph ph' : CallPhase κ}
    (h : CallStep req t sh ph sh' ph') {c : κ} {id : UInt32} {tx : Nat} {response : List UInt8}
    (hanswered : ph' = .answered c id tx response) :
    ph = .answered c id tx response ∨
      ∃ index, sh.state tx = some (.received index response) := by
  -- a call that fails is not answered
  have hafter : ∀ tx', (CallPhase.afterSend req tx' : CallPhase κ) ≠ .answered c id tx response := by
    intro tx'
    unfold CallPhase.afterSend
    split <;> exact nofun
  cases h with
  | skip => exact Or.inl hanswered
  | receive c' id' tx' ch hch index response' hstate =>
    cases hanswered
    refine Or.inr ⟨index, ?_⟩
    unfold Shared.state
    rw [hch, ← hstate]
    rfl
  | refuse c' id' tx' | cleanUpExpired c' id' tx' | timedOut c' id' tx' =>
    exact absurd hanswered (hafter tx')
  | _ => cases hanswered

theorem deliveryStep {fw : Forwarder} {e : Event ι κ} (hfollows : Following fw reqs net)
    (hstep : net.step reqs e = some net') : ∃ notice, DeliveryStep net net' notice := by
  rcases step_cases hfollows hstep with
    ⟨t, answer, -, hmove, hothers⟩ | ⟨t, answer, -, c, hshared, -, hcalls⟩ |
      ⟨c, conn, notice, -, hshared, hcalls, -, hstream, -⟩
  -- a move of a call touches no stream and resolves no channel with a response
  · refine ⟨fun _ => none, fun c => ?_, fun tx x => ident_mono_of_callStep hmove,
      fun tx st => resolved_of_callStep hmove,
      fun tx index response h => Or.inl (received_of_callStep hmove h),
      fun t' c id tx response h => ?_⟩
    · have heffect := conn_of_callStep hmove c
      exact .of_eq heffect.reader heffect.extracted heffect.buf heffect.incoming heffect.sent nofun
    · by_cases ht : t' = t
      · subst ht
        exact answered_of_callStep hmove h
      · rw [hothers t' ht] at h
        exact Or.inl h
  -- drawing the id 0 changes the counter only
  · refine ⟨fun _ => none, fun c' => ?_, ?_, ?_, ?_, ?_⟩
    · rw [hshared, Shared.conns_setConn]
      split
      · rename_i hc
        rw [hc]
        exact .of_eq rfl rfl rfl rfl rfl nofun
      · exact StreamStep.refl _
    · rw [hshared]
      exact fun _ _ h => h
    · rw [hshared]
      exact fun _ _ h _ => h
    · rw [hshared]
      exact fun _ _ _ h => Or.inl h
    · rw [hcalls]
      exact fun _ _ _ _ _ h => Or.inl h
  -- the notice of a task belongs to its own connection
  · refine ⟨fun c' => if c' = c then notice else none, fun c' => ?_, ?_, ?_, ?_, ?_⟩
    · rw [hshared, Shared.conns_notify, Shared.conns_setConn]
      split
      · rename_i hc
        rw [hc]
        exact hstream
      · exact StreamStep.refl _
    · rw [hshared, Shared.ident_notify]
      exact fun _ _ h => h
    · rw [hshared]
      exact fun _ _ h hne => Shared.state_notify_of_resolved h hne
    · intro tx index response h
      rw [hshared] at h
      refine (Shared.received_notify h).imp_right (fun hnotice => ⟨c, ?_⟩)
      rw [if_pos rfl]
      exact hnotice
    · rw [hcalls]
      exact fun _ _ _ _ _ h => Or.inl h

/-! ## The invariant -/

/-- Where the responses are. -/
structure Delivery (net : Network ι κ) : Prop where
  addressed : ∀ c, net.shared.Addressed c (net.shared.conns c).reader
  numbered : ∀ c, (net.shared.conns c).Numbered
  received : ∀ tx index response, net.shared.state tx = some (.received index response) →
    ∀ t c id, net.shared.ident tx = some (t, c, id) → IsResponse response id ∧
      index < (net.shared.conns c).extracted ∧
      ∀ frame, (net.shared.conns c).reader.held ≠ some (index, frame)
  once : ∀ c index tx tx' response response' t t' id id',
    net.shared.ident tx = some (t, c, id) → net.shared.ident tx' = some (t', c, id') →
    net.shared.state tx = some (.received index response) →
    net.shared.state tx' = some (.received index response') → tx = tx'
  answered : ∀ t c id tx response, (net.calls t).phase = .answered c id tx response →
    ∃ index, net.shared.state tx = some (.received index response)
  inOrder : ∀ c, (net.shared.conns c).SendsResponses → (net.shared.conns c).InOrder
  faithful : ∀ tx index response t c id, (net.shared.conns c).SendsResponses →
    net.shared.ident tx = some (t, c, id) →
    net.shared.state tx = some (.received index response) →
    ((net.shared.conns c).sent.map Incoming.bytes)[index]? = some response

omit [DecidableEq ι] [DecidableEq κ] in
theorem delivery_init (fw : Forwarder) (reqs : ι → Request) (capacity : κ → Nat) :
    Delivery (init fw reqs capacity : Network ι κ) where
  addressed := fun _ => trivial
  numbered := fun _ => nofun
  received := nofun
  once := nofun
  answered := nofun
  inOrder := fun c _ => Conn.inOrder_new (capacity c)
  faithful := nofun

omit [DecidableEq ι] [DecidableEq κ] in
theorem addressed_of_held_eq_none (sh : Shared ι κ) (c : κ) {r : Reader} (h : r.held = none) :
    sh.Addressed c r := by
  cases r <;> trivial

/-- The reader holds a frame that it held before or that it has just cut out. -/
theorem held_of_streamStep {c c' : Conn} {notice : Option Notice} {index : Nat}
    {frame : List UInt8} (hstep : StreamStep c c' notice)
    (hheld : c'.reader.held = some (index, frame)) :
    c.reader.held = some (index, frame) ∨ index = c.extracted := by
  cases hstep with
  | still _ hreader =>
    rcases hreader with hsame | ⟨hnone, -⟩
    · rw [hsame] at hheld
      exact Or.inl hheld
    · rw [hnone] at hheld
      cases hheld
  | hop message hreader | skip hscan hreader =>
    rw [hreader] at hheld
    exact Or.inl hheld
  | extract clrid frame' hscan hreader =>
    rw [hreader] at hheld
    cases hheld
    exact Or.inr rfl
  | find index' clrid frame' e hreader hwaiter hreader' =>
    rw [hreader'] at hheld
    rw [hreader]
    exact Or.inl hheld
  | unknown hreader' | deliver index' tx frame' hreader hreader' =>
    rw [hreader'] at hheld
    cases hheld

omit [DecidableEq ι] [DecidableEq κ] in
/-- A response is sent into the channel that the reader holds it for. -/
theorem Delivery.sent_for {notice : Option Notice} {c : κ} {conn : Conn} {tx index : Nat}
    {response : List UInt8} (h : Delivery net)
    (hstep : StreamStep (net.shared.conns c) conn notice)
    (hnotice : notice = some ⟨tx, .ok (index, response)⟩) :
    (net.shared.conns c).reader.held = some (index, response) ∧ conn.reader.held = none ∧
      conn.extracted = (net.shared.conns c).extracted ∧ conn.sent = (net.shared.conns c).sent ∧
      ∃ t id, net.shared.ident tx = some (t, c, id) ∧ IsResponse response id := by
  cases hstep with
  | still _ _ _ _ _ hnone => exact absurd hnotice (hnone _ _)
  | deliver index' tx' frame hreader hreader' hextracted hstream hsent =>
    cases hnotice
    have haddressed := h.addressed c
    rw [hreader] at haddressed ⊢
    exact ⟨rfl, hreader', hextracted, hsent, haddressed⟩
  | _ => cases hnotice

omit [DecidableEq ι] [DecidableEq κ] in
/-- What a channel holds after a step was there before, or its response was in the hands of the
reader of its connection. -/
theorem Delivery.received_cases (h : Delivery net) (hstep : DeliveryStep net net' notice)
    {tx index : Nat} {response : List UInt8} {t : ι} {c : κ} {id : UInt32}
    (hident : net'.shared.ident tx = some (t, c, id))
    (hreceived : net'.shared.state tx = some (.received index response)) :
    net.shared.ident tx = some (t, c, id) ∧
      (net.shared.state tx = some (.received index response) ∨
        notice c = some ⟨tx, .ok (index, response)⟩) := by
  -- channels keep their call, connection and id
  have hold : ∀ {x}, net.shared.ident tx = some x → x = (t, c, id) := by
    intro x hx
    have hx' := hstep.ident tx x hx
    rw [hident] at hx'
    exact (Option.some.inj hx').symm
  rcases hstep.received tx index response hreceived with hbefore | ⟨c', hnotice⟩
  · obtain ⟨x, hx⟩ := Shared.ident_of_state hbefore
    rw [hx, hold hx]
    exact ⟨rfl, Or.inl hbefore⟩
  -- a response that is sent has a channel on the connection that sends it
  · obtain ⟨-, -, -, -, t', id', hident', -⟩ := h.sent_for (hstep.stream c') hnotice
    have heq := hold hident'
    rw [hident', heq]
    cases heq
    exact ⟨rfl, Or.inr hnotice⟩

omit [DecidableEq ι] [DecidableEq κ] in
theorem delivery_of_deliveryStep (hshape : Shape reqs net) (h : Delivery net)
    (hstep : DeliveryStep net net' notice) : Delivery net' := by
  refine
    { addressed := fun c => ?_
      numbered := fun c => numbered_of_streamStep (h.numbered c) (hstep.stream c)
      received := ?_
      once := ?_
      answered := ?_
      inOrder := fun c hsends => inOrder_of_streamStep hsends
        (h.inOrder c (hsends.of_step (hstep.stream c))) (hstep.stream c)
      faithful := ?_ }
  · have hmono : ∀ r, net.shared.Addressed c r → net'.shared.Addressed c r := by
      intro r hr
      cases r with
      | deliver index tx frame =>
        obtain ⟨t, id, hident, hresponse⟩ := hr
        exact ⟨t, id, hstep.ident tx _ hident, hresponse⟩
      | _ => exact hr
    have haddressed := hmono _ (h.addressed c)
    have hstream := hstep.stream c
    generalize notice c = sent at hstream
    cases hstream with
    | still _ hreader =>
      rcases hreader with hsame | ⟨hnone, -⟩
      · rw [hsame]
        exact haddressed
      · exact addressed_of_held_eq_none _ c hnone
    | hop message hreader | skip hscan hreader =>
      rw [hreader]
      exact haddressed
    | extract clrid frame hscan hreader =>
      rw [hreader]
      exact (frame_of_scanResponse hscan).2
    | find index clrid frame e hreader hwaiter hreader' =>
      rw [hreader] at haddressed
      obtain ⟨t, hident⟩ := hshape.waiter c clrid e hwaiter
      rw [hreader']
      exact ⟨t, clrid, hstep.ident e.tx _ hident, haddressed⟩
    | unknown hreader' | deliver index tx frame hreader hreader' =>
      exact addressed_of_held_eq_none _ c hreader'
  · intro tx index response hreceived t c id hident
    obtain ⟨hident', hbefore | hnotice⟩ := h.received_cases hstep hident hreceived
    · obtain ⟨hresponse, hlt, hfree⟩ := h.received tx index response hbefore t c id hident'
      refine ⟨hresponse, Nat.lt_of_lt_of_le hlt (extracted_of_streamStep (hstep.stream c)),
        fun frame hheld => ?_⟩
      rcases held_of_streamStep (hstep.stream c) hheld with hold | rfl
      · exact hfree frame hold
      · exact Nat.lt_irrefl _ hlt
    · obtain ⟨hheld, hheld', hextracted, -, t', id', hident'', hresponse⟩ :=
        h.sent_for (hstep.stream c) hnotice
      rw [hident'] at hident''
      cases hident''
      refine ⟨hresponse, ?_, fun frame hframe => ?_⟩
      · rw [hextracted, ← h.numbered c index response hheld]
        exact Nat.lt_succ_self index
      · rw [hheld'] at hframe
        cases hframe
  · intro c index tx tx' response response' t t' id id' hident hident' hreceived hreceived'
    obtain ⟨hold, hbefore | hnotice⟩ := h.received_cases hstep hident hreceived
    · obtain ⟨hold', hbefore' | hnotice'⟩ := h.received_cases hstep hident' hreceived'
      · exact h.once c index tx tx' response response' t t' id id' hold hold' hbefore hbefore'
      · -- the index in the reader's hands has not been delivered before
        have hheld := (h.sent_for (hstep.stream c) hnotice').1
        exact absurd hheld ((h.received tx index response hbefore t c id hold).2.2 response')
    · obtain ⟨hold', hbefore' | hnotice'⟩ := h.received_cases hstep hident' hreceived'
      · have hheld := (h.sent_for (hstep.stream c) hnotice).1
        exact absurd hheld ((h.received tx' index response' hbefore' t' c id' hold').2.2 response)
      · rw [hnotice] at hnotice'
        cases hnotice'
        rfl
  · intro t c id tx response hanswered
    rcases hstep.answered t c id tx response hanswered with hbefore | ⟨index, hindex⟩
    · obtain ⟨index, hindex⟩ := h.answered t c id tx response hbefore
      exact ⟨index, hstep.kept tx _ hindex nofun⟩
    · exact ⟨index, hstep.kept tx _ hindex nofun⟩
  · intro tx index response t c id hsends hident hreceived
    have hsends' := hsends.of_step (hstep.stream c)
    obtain ⟨hident', hbefore | hnotice⟩ := h.received_cases hstep hident hreceived
    · have hget := h.faithful tx index response t c id hsends' hident' hbefore
      obtain ⟨more, hmore⟩ := sent_of_streamStep (hstep.stream c)
      rw [← hmore, List.map_append,
        List.getElem?_append_left (List.getElem?_eq_some_iff.mp hget).1]
      exact hget
    · obtain ⟨hheld, -, -, hsent, -⟩ := h.sent_for (hstep.stream c) hnotice
      rw [hsent]
      exact (h.inOrder c hsends').held index response hheld

/-- What holds in every state that a run reaches. -/
structure Delivers (fw : Forwarder) (reqs : ι → Request) (net : Network ι κ) : Prop where
  follows : Following fw reqs net
  shape : Shape reqs net
  ids : Ids net
  delivery : Delivery net

theorem delivers_of_run {fw : Forwarder} {capacity : κ → Nat} {es : List (Event ι κ)}
    (hrun : Transition.run (step reqs) (init fw reqs capacity) es = some net) :
    Delivers fw reqs net := by
  refine Transition.invariant_of_run (I := Delivers fw reqs) ?_ ?_ hrun
  · intro s e s' h hstep
    obtain ⟨notice, hdelivery⟩ := deliveryStep h.follows hstep
    exact ⟨following_step h.follows hstep, shape_step h.follows h.shape hstep,
      ids_step h.follows h.ids hstep, delivery_of_deliveryStep h.shape h.delivery hdelivery⟩
  · exact ⟨following_init capacity, shape_init fw reqs capacity, ids_init fw reqs capacity,
      delivery_init fw reqs capacity⟩

end

end Network

end RzRouter
