import RzRouter.Network.Isolation
import RzRouter.Tiers.Streams

/-!
# A request through two routers

Between an edge router and its zone routers nothing has to be assumed of the hops: a zone router
answers every frame that it answers with the clrid of this frame.  So what a client of the edge
router gets is what its zone router has answered to the frame of this very request.
-/

namespace RzRouter

open LittleEndian Network Program

namespace Tiers

variable {σ κ ω ζ μ : Type} [DecidableEq σ] [DecidableEq κ] [DecidableEq ω] [DecidableEq ζ]
  [DecidableEq μ] {su : TierSetup σ κ ω ζ μ} {r r' : Tiers σ κ ω ζ μ}

/-! ## Steps -/

inductive TierStep (su : TierSetup σ κ ω ζ μ) (r : Tiers σ κ ω ζ μ) :
    TierEvent σ κ ω ζ μ → Tiers σ κ ω ζ μ → Prop
  | edge (e : RouterEvent σ κ) (edge : Router σ κ)
      (hhop : ∀ c message, e ≠ .net (.hop c message)) (hstep : r.edge.step su.edge e = some edge) :
      TierStep su r (.edge e) { r with edge := edge }
  | zone (z : ζ) (e : RouterEvent (κ ⊕ ω) μ) (zone : Router (κ ⊕ ω) μ)
      (hclient : ∀ c ce, e = .client (.inl c) ce → su.zoneOf c = z ∧ r.Arrives su c ce)
      (hstep : (r.zone z).step (su.zone z) e = some zone) :
      TierStep su r (.zone z e) { r with zone := Function.update r.zone z zone }
  | respond (c : κ) (e : ClientEvent) (message : Incoming) (edge : Router σ κ)
      (zone : Router (κ ⊕ ω) μ) (hresponse : r.response? su c e = some message)
      (hedge : r.edge.step su.edge (.net (.hop c message)) = some edge)
      (hstep : (r.zone (su.zoneOf c)).step (su.zone (su.zoneOf c)) (.client (.inl c) e) = some zone) :
      TierStep su r (.zone (su.zoneOf c) (.client (.inl c) e))
        { edge := edge, zone := Function.update r.zone (su.zoneOf c) zone }

theorem tierStep {e : TierEvent σ κ ω ζ μ} (h : r.step su e = some r') : TierStep su r e r' := by
  have hedge : ∀ e : RouterEvent σ κ, (∀ c message, e ≠ .net (.hop c message)) →
      (r.edge.step su.edge e).map (fun edge => { r with edge := edge }) = some r' →
      TierStep su r (.edge e) r' := by
    intro e hhop hmap
    obtain ⟨edge, hstep, rfl⟩ := Option.map_eq_some_iff.mp hmap
    exact .edge e edge hhop hstep
  have hzone : ∀ z e, (∀ c ce, e = .client (.inl c) ce → su.zoneOf c = z ∧ r.Arrives su c ce) →
      r.stepZone su z e = some r' → TierStep su r (.zone z e) r' := by
    intro z e hclient hmap
    obtain ⟨zone, hstep, rfl⟩ := Option.map_eq_some_iff.mp hmap
    exact .zone z e zone hclient hstep
  cases e with
  | edge e =>
    cases e with
    | net e =>
      cases e with
      | hop c message => cases h
      | _ => exact hedge _ (fun _ _ heq => by cases heq) h
    | _ => exact hedge _ (fun _ _ heq => by cases heq) h
  | zone z e =>
    cases e with
    | client s e =>
      cases s with
      | inl c =>
        simp only [step] at h
        split at h
        · rename_i hclient
          split at h
          · refine hzone z _ (fun c' ce heq => ?_) h
            cases heq
            exact hclient
          · rename_i message hresponse
            obtain ⟨rfl, -⟩ := hclient
            obtain ⟨edge, hstep, hmap⟩ := Option.bind_eq_some_iff.mp h
            obtain ⟨zone, hzstep, rfl⟩ := Option.map_eq_some_iff.mp hmap
            exact .respond c e message edge zone hresponse hstep hzstep
        · cases h
      | inr w => exact hzone z _ (fun _ _ heq => by cases heq) h
    | _ => exact hzone z _ (fun _ _ heq => by cases heq) h

section Run

variable {es : List (TierEvent σ κ ω ζ μ)}

theorem edge_of_run (hrun : Transition.run (step su) (init su) es = some r) :
    ∃ es', Transition.run (Router.step su.edge) (Router.init su.edge) es' = some r.edge := by
  refine Transition.exists_run_of_component Tiers.edge (fun r e r' h => ?_) hrun
  cases tierStep h with
  | edge e edge hhop hstep => exact Or.inr ⟨e, hstep⟩
  | zone z e zone hclient hstep => exact Or.inl rfl
  | respond c e message edge zone hresponse hedge hstep => exact Or.inr ⟨_, hedge⟩

theorem zone_of_run (hrun : Transition.run (step su) (init su) es = some r) (z : ζ) :
    ∃ es', Transition.run (Router.step (su.zone z)) (Router.init (su.zone z)) es' =
      some (r.zone z) := by
  have hupdate : ∀ (r : Tiers σ κ ω ζ μ) (z' : ζ) (e : RouterEvent (κ ⊕ ω) μ)
      (zone : Router (κ ⊕ ω) μ), (r.zone z').step (su.zone z') e = some zone →
      Function.update r.zone z' zone z = r.zone z ∨
        ∃ e', (r.zone z).step (su.zone z) e' = some (Function.update r.zone z' zone z) := by
    intro r z' e zone hstep
    by_cases hz : z = z'
    · subst hz
      rw [Function.update_self]
      exact Or.inr ⟨e, hstep⟩
    · exact Or.inl (Function.update_of_ne hz _ _)
  refine Transition.exists_run_of_component (fun r : Tiers σ κ ω ζ μ => r.zone z)
    (fun r e r' h => ?_) hrun
  cases tierStep h with
  | edge e edge hhop hstep => exact Or.inl rfl
  | zone z' e zone hclient hstep => exact hupdate r z' e zone hstep
  | respond c e message edge zone hresponse hedge hstep => exact hupdate r _ _ zone hstep

end Run

/-! ## The invariant -/

/-- The zone router of each connection takes the frames that were written, and has sent only its
replies to them. -/
def Joined (su : TierSetup σ κ ω ζ μ) (r : Tiers σ κ ω ζ μ) : Prop :=
  ∀ c, Fed (r.session su c) (r.edge.net.shared.conns c) ∧
    (r.zone (su.zoneOf c)).RepliesOn (su.zone (su.zoneOf c)) (.inl c) (r.edge.net.shared.conns c)

omit [DecidableEq σ] [DecidableEq κ] [DecidableEq ω] [DecidableEq ζ] [DecidableEq μ] in
theorem joined_init (su : TierSetup σ κ ω ζ μ) : Joined su (init su) := by
  refine fun c => ⟨fed_start _ _, fun message hmessage => ?_⟩
  exact absurd hmessage List.not_mem_nil

omit [DecidableEq ω] [DecidableEq ζ] [DecidableEq μ] in
theorem joined_edge {e : RouterEvent σ κ} {edge : Router σ κ} (h : Joined su r)
    (hfollows : Following su.edge.forwarder su.edge.requests r.edge.net)
    (hhop : ∀ c message, e ≠ .net (.hop c message)) (hstep : r.edge.step su.edge e = some edge) :
    Joined su { r with edge := edge } := by
  intro c
  obtain ⟨hfed, hreplies⟩ := h c
  have hgrows : (r.edge.net.shared.conns c).Grows (edge.net.shared.conns c) := by
    cases Router.routerStep hstep with
    | refresh | client => exact Conn.grows_of_same rfl rfl rfl
    | call t choice a net hserves hanswer hnet =>
      exact grows_of_step hfollows hnet (fun _ _ heq => by cases heq) c
    | net e net hcall hnet =>
      exact grows_of_step hfollows hnet (fun c message heq => hhop c message (by rw [heq])) c
  refine ⟨hfed.of_wire hgrows.wire, fun message hmessage => ?_⟩
  change message ∈ (edge.net.shared.conns c).sent at hmessage
  rw [hgrows.sent] at hmessage
  exact hreplies message hmessage

omit [DecidableEq σ] in
/-- A zone router makes a step, and nothing happens at the edge router. -/
theorem joined_of_zone {z : ζ} {e : RouterEvent (κ ⊕ ω) μ} {zone : Router (κ ⊕ ω) μ}
    (h : Joined su r) (hserved : Router.Served (su.zone z) (r.zone z))
    (hvalid : ∀ c, ∀ out ∈ (r.edge.net.shared.conns c).wire, ∃ f, IsRouterFrame out.bytes f)
    (hclient : ∀ c ce, e = .client (.inl c) ce → su.zoneOf c = z ∧ r.Arrives su c ce)
    (hstep : (r.zone z).step (su.zone z) e = some zone) (c : κ) :
    Fed (({ r with zone := Function.update r.zone z zone } : Tiers σ κ ω ζ μ).session su c)
        (r.edge.net.shared.conns c) ∧
      (Function.update r.zone z zone (su.zoneOf c)).RepliesOn (su.zone (su.zoneOf c)) (.inl c)
        (r.edge.net.shared.conns c) := by
  obtain ⟨hfed, hreplies⟩ := h c
  unfold session at hfed ⊢
  by_cases hz : su.zoneOf c = z
  · subst hz
    simp only [Function.update_self]
    refine ⟨Router.fed_of_step hstep (hvalid c) (fun delay bytes heq => ?_) hfed,
      Router.repliesOn_of_step hserved hstep hreplies rfl⟩
    exact (hclient c _ heq).2
  · simp only [Function.update_of_ne hz]
    exact ⟨hfed, hreplies⟩

theorem joined_respond {c : κ} {e : ClientEvent} {message : Incoming} {edge : Router σ κ}
    {zone : Router (κ ⊕ ω) μ} (h : Joined su r)
    (hserved : Router.Served (su.zone (su.zoneOf c)) (r.zone (su.zoneOf c)))
    (hvalid : ∀ c, ∀ out ∈ (r.edge.net.shared.conns c).wire, ∃ f, IsRouterFrame out.bytes f)
    (hresponse : r.response? su c e = some message)
    (hedge : r.edge.step su.edge (.net (.hop c message)) = some edge)
    (hstep : (r.zone (su.zoneOf c)).step (su.zone (su.zoneOf c)) (.client (.inl c) e) = some zone) :
    Joined su { edge := edge, zone := Function.update r.zone (su.zoneOf c) zone } := by
  -- the message is the reply to the request at which the session stands
  cases e with
  | turn reply =>
    simp only [response?] at hresponse
    split at hresponse
    · rename_i req hpending
      split at hresponse
      · cases hresponse
        obtain ⟨f, hframes, hf, hreply⟩ := Router.take_of_pending hpending hstep
        obtain ⟨net, hnet, rfl⟩ := Option.map_eq_some_iff.mp hedge
        obtain ⟨-, -, hwire, -, hsent, hothers⟩ := hop_step hnet
        intro c'
        have hzone := joined_of_zone h hserved hvalid
          (fun c'' ce heq => by cases heq; exact ⟨rfl, trivial⟩) hstep c'
        refine ⟨hzone.1.of_wire ?_, ?_⟩
        · show _ <+: (net.shared.conns c').wire
          by_cases hc : c' = c
          · rw [hc, hwire]
          · rw [hothers c' hc]
        · by_cases hc : c' = c
          · subst hc
            intro message hmessage
            change message ∈ (net.shared.conns c').sent at hmessage
            rw [hsent] at hmessage
            rcases List.mem_append.mp hmessage with hold | hnew
            · exact hzone.2 message hold
            · rw [List.mem_singleton.mp hnew]
              simp only [Function.update_self]
              refine ⟨_, f, rfl, ?_, hf, ?_⟩
              · rw [hframes]
                exact List.getElem?_concat_length
              · unfold Router.requestIndex session
                rw [hframes, List.take_left]
                exact hreply.symm
          · intro message hmessage
            change message ∈ (net.shared.conns c').sent at hmessage
            rw [hothers c' hc] at hmessage
            exact hzone.2 message hmessage
      · cases hresponse
    · cases hresponse
  | _ => cases hresponse

theorem joined_of_run {es : List (TierEvent σ κ ω ζ μ)}
    (hrun : Transition.run (step su) (init su) es = some r) : Joined su r := by
  refine Transition.invariant_of_events (I := fun _ r => Joined su r) (joined_init su) ?_ hrun
  intro es r e r' hrun h hstep
  obtain ⟨es', hedge⟩ := edge_of_run hrun
  obtain ⟨es'', hnet⟩ := Router.net_of_run hedge
  have hvalid : ∀ c, ∀ out ∈ (r.edge.net.shared.conns c).wire, ∃ f, IsRouterFrame out.bytes f := by
    intro c out hout
    obtain ⟨f, hframe, -⟩ := Router.sends_of_run hedge
      (List.mem_append_left _ (List.mem_append_left _ hout))
    exact ⟨f, hframe⟩
  have hserved : ∀ z, Router.Served (su.zone z) (r.zone z) := fun z =>
    Router.served_of_run (zone_of_run hrun z).choose_spec
  cases tierStep hstep with
  | edge e edge hhop hstep' => exact joined_edge h (delivers_of_run hnet).follows hhop hstep'
  | zone z e zone hclient hstep' => exact joined_of_zone h (hserved z) hvalid hclient hstep'
  | respond c e message edge zone hresponse hmessage hstep' =>
    exact joined_respond h (hserved _) hvalid hresponse hmessage hstep'

/-! ## What a connection brings back -/

variable {es : List (TierEvent σ κ ω ζ μ)}

/-- A valid frame on the wire is one that the edge router sends. -/
theorem sends_of_written (hrun : Transition.run (step su) (init su) es = some r) {c : κ} {k : Nat}
    {out : Outgoing} {f : RouterFrame} (hout : (r.edge.net.shared.conns c).wire[k]? = some out)
    (hf : tryDecodeRouter out.bytes = .ok (some f)) : Router.Sends su.edge r.edge c out f := by
  obtain ⟨edgeEvents, hedge⟩ := edge_of_run hrun
  obtain ⟨f', hframe, hsends⟩ := Router.sends_of_run hedge
    (List.mem_append_left _ (List.mem_append_left _ (List.mem_of_getElem? hout)))
  rw [hframe.tryDecodeRouter, Except.ok.injEq, Option.some.injEq] at hf
  rw [← hf]
  exact hsends

/-- The `k`-th frame that the zone router has taken is the `k`-th that was written. -/
theorem frame_on_wire (hrun : Transition.run (step su) (init su) es = some r) {c : κ} {k : Nat}
    {f : RouterFrame × List UInt8} (hk : (r.session su c).frames[k]? = some f) :
    ∃ out, (r.edge.net.shared.conns c).wire[k]? = some out ∧ out.bytes = f.2 ∧
      Router.Sends su.edge r.edge c out f.1 := by
  obtain ⟨zoneEvents, hzone⟩ := zone_of_run hrun (su.zoneOf c)
  obtain ⟨clientEvents, hclient⟩ := Router.client_of_run hzone (.inl c)
  have hwire : ((r.edge.net.shared.conns c).wire.map Outgoing.bytes)[k]? = some f.2 := by
    have hget : ((r.session su c).frames.map Prod.snd)[k]? = some f.2 := by
      rw [List.getElem?_map]
      exact congrArg (Option.map Prod.snd) hk
    obtain ⟨later, hlater⟩ := (joined_of_run hrun c).1.taken
    rw [← hlater, List.getElem?_append_left (List.getElem?_eq_some_iff.mp hget).1]
    exact hget
  rw [List.getElem?_map] at hwire
  obtain ⟨out, hout, hbytes⟩ := Option.map_eq_some_iff.mp hwire
  have hwhole : TakenWhole ((r.zone (su.zoneOf c)).clients (.inl c)) :=
    Transition.invariant_of_run (I := TakenWhole) (fun _ _ _ h hstep => takenWhole_step h hstep)
      (fun _ hp => absurd hp List.not_mem_nil) hclient
  refine ⟨out, hout, hbytes, sends_of_written hrun hout ?_⟩
  rw [hbytes]
  exact (hwhole f (List.mem_of_getElem? hk)).tryDecodeRouter

/-- A message that the edge router gets is the reply of the zone router to the frame that some call
of the edge router has sent on the connection. -/
theorem reply_of_message (hrun : Transition.run (step su) (init su) es = some r) {c : κ}
    {message : Incoming} (hmessage : message ∈ (r.edge.net.shared.conns c).sent) :
    ∃ k out tx t id f bytes j, message.answers = some k ∧
      (r.edge.net.shared.conns c).wire[k]? = some out ∧ out.tx = some tx ∧
      r.edge.net.shared.ident tx = some (t, c, id) ∧ IsRouterFrame bytes f ∧
      su.edge.requests t = f.request bytes ∧ (su.edge.requests t).Remote ∧
      (r.session su c).requests[j]? =
        some ({ f with originalClrid := id }, overwrite bytes f.clridOffset (u32Bytes id)) ∧
      Router.AnswerTo (su.zone (su.zoneOf c)) (r.zone (su.zoneOf c)) (.inl c, j) message.bytes := by
  obtain ⟨k, f', hanswers, hk, hf', hbytes⟩ := (joined_of_run hrun c).2 message hmessage
  obtain ⟨zoneEvents, hzone⟩ := zone_of_run hrun (su.zoneOf c)
  obtain ⟨out, hout, houtBytes, hsends⟩ := frame_on_wire hrun hk
  have htaken := Router.getElem?_requestIndex hk hf'
  obtain ⟨-, -, hanswer⟩ := Router.reply_of_run hzone htaken
  rw [← hbytes] at hanswer
  obtain ⟨frame, bytes'⟩ := f'
  cases hsends with
  | keepalive _ htx hsegment =>
    -- a keepalive is no request
    exact absurd hsegment (of_decide_eq_true hf')
  | request tx t id f bytes htx hident hf hrequest hsegment hremote hsent =>
    refine ⟨k, out, tx, t, id, f, bytes, _, hanswers, hout, htx, hident, hf, hrequest, hremote, ?_,
      hanswer⟩
    have hpair : bytes' = overwrite bytes f.clridOffset (u32Bytes id) := by
      rw [hrequest] at hsent
      exact houtBytes.symm.trans hsent
    rw [← hpair]
    exact htaken

/-- The zone routers echo the clrids that they are sent. -/
theorem echoes_of_run (hrun : Transition.run (step su) (init su) es = some r) (c : κ) :
    r.edge.net.HopEchoes su.edge.requests c := by
  intro message hmessage
  obtain ⟨k, out, tx, t, id, f, bytes, j, hanswers, hout, htx, hident, hf, hrequest, hremote, htaken,
    hanswer⟩ := reply_of_message hrun hmessage
  obtain ⟨zoneEvents, hzone⟩ := zone_of_run hrun (su.zoneOf c)
  obtain ⟨hnamed, -, -⟩ := Router.reply_of_run hzone htaken
  have hclrid : ((su.zone (su.zoneOf c)).requests (.inl c, j)).originalClrid = id := by
    rw [hnamed]
    rfl
  have hsegment : ((su.zone (su.zoneOf c)).requests (.inl c, j)).segment =
      (su.edge.requests t).segment := by
    rw [hnamed, hrequest]
    rfl
  refine ⟨id, ?_, ?_⟩
  · rw [← hclrid]
    generalize message.bytes = response at hanswer
    cases hanswer with
    | failed e he => exact isResponse_buildErrorResponse _ _
    | built _ hlocal =>
      -- the edge router would have answered itself
      rcases hlocal with ⟨hlocal, -⟩ | ⟨hlocal, -⟩
      · exact absurd (hsegment.symm.trans hlocal) hremote.1
      · exact absurd (hsegment.symm.trans hlocal) hremote.2
    | forwarded c' id' tx' index response hresponse => exact hresponse.restoreClrid _
  · rw [hanswers]
    refine ⟨out, hout, ?_⟩
    unfold CarriesClrid
    rw [htx]
    refine ⟨t, c, id, hident, ?_⟩
    obtain ⟨edgeEvents, hedge⟩ := edge_of_run hrun
    obtain ⟨netEvents, hnet⟩ := Router.net_of_run hedge
    obtain ⟨t', id', hident', hlen, hframe, -⟩ := (delivers_of_run hnet).shape.frame c out
      (List.mem_append_left _ (List.mem_append_left _ (List.mem_of_getElem? hout))) tx htx
    rw [hident] at hident'
    cases hident'
    rw [hframe]
    exact clrid_of_frameFor hlen id

/-! ## What a client gets -/

omit [DecidableEq σ] [DecidableEq κ] [DecidableEq ω] [DecidableEq ζ] [DecidableEq μ] in
/-- What a client of the edge router can get for the request of call `t`: the error response of the
call, an answer that the edge router builds itself, or, under the client's clrid, what a zone router
has answered to this request, whose frame it has taken whole and with another clrid. -/
inductive AnswerThrough (su : TierSetup σ κ ω ζ μ) (r : Tiers σ κ ω ζ μ) (t : σ × Nat) :
    List UInt8 → Prop
  | failed (e : ForwardError) (h : (r.edge.net.calls t).result? = some (.error e)) :
      AnswerThrough su r t (buildErrorResponse (su.edge.requests t).originalClrid e.code)
  | built (response : List UInt8)
      (h : LocalAnswer su.edge.forwarder (su.edge.requests t) response) :
      AnswerThrough su r t response
  | zone (c : κ) (id : UInt32) (j : Nat) (f : RouterFrame) (bytes response : List UInt8)
      (hrequest : su.edge.requests t = f.request bytes)
      (htaken : (r.session su c).requests[j]? =
        some ({ f with originalClrid := id }, overwrite bytes f.clridOffset (u32Bytes id)))
      (hanswer : Router.AnswerTo (su.zone (su.zoneOf c)) (r.zone (su.zoneOf c)) (.inl c, j)
        response) :
      AnswerThrough su r t (restoreClrid response f.originalClrid)

/-- While no connection of the edge router has come round with its ids: whatever the two levels of
routers, their tables, tasks and clients do, every hop of the edge router echoes the clrids that it
is sent, and a client of the edge router gets, in the order of its requests, for each of them what a
zone router has answered to the frame of this request, or an answer that the edge router builds. -/
theorem requests_through_zones (su : TierSetup σ κ ω ζ μ) (es : List (TierEvent σ κ ω ζ μ))
    (r : Tiers σ κ ω ζ μ) (hrun : Transition.run (step su) (init su) es = some r)
    (hdrawn : ∀ c, (r.edge.net.shared.conns c).drawn < 2 ^ 32) :
    (∀ c, r.edge.net.HopEchoes su.edge.requests c) ∧
    ∀ s, ∃ replies : List (List UInt8), replies.length = (r.edge.clients s).requests.length ∧
      (∀ i frame bytes, (r.edge.clients s).requests[i]? = some (frame, bytes) →
        su.edge.requests (s, i) = frame.request bytes ∧
          ∃ reply, replies[i]? = some reply ∧ AnswerThrough su r (s, i) reply) ∧
      (r.edge.clients s).out <+: replies.flatten ∧
      ((r.edge.clients s).phase ≠ .closed .writeError →
        (r.edge.clients s).out = replies.flatten) := by
  obtain ⟨edgeEvents, hedge⟩ := edge_of_run hrun
  have hserved := Router.served_of_run hedge
  refine ⟨echoes_of_run hrun, fun s => ⟨r.edge.replies su.edge s, ?_, ?_, hserved.out s,
    hserved.written s⟩⟩
  · rw [Router.replies, List.length_map, List.length_range]
  · intro i frame bytes hi
    obtain ⟨hnamed, hreply, hanswer⟩ := Router.reply_of_run hedge hi
    refine ⟨hnamed, _, hreply, ?_⟩
    generalize r.edge.replyTo su.edge (s, i) = reply at hanswer
    cases hanswer with
    | failed e he => exact .failed e he
    | built _ hlocal => exact .built _ hlocal
    | forwarded c id tx index response hresponse hident hstate hown =>
      obtain ⟨message, hmessage, rfl, k, out, hanswers, hout, htx, -, -⟩ :=
        hown (hdrawn c) (echoes_of_run hrun c)
      obtain ⟨k', out', tx', t, id', f, bytes', j, hanswers', hout', htx', hident', -, hrequest, -,
        htaken, hzone⟩ := reply_of_message hrun (List.mem_of_getElem? hmessage)
      -- the frame on the wire names the call
      rw [hanswers] at hanswers'
      cases hanswers'
      rw [hout] at hout'
      cases hout'
      rw [htx] at htx'
      cases htx'
      rw [hident] at hident'
      cases hident'
      have hclrid : (su.edge.requests (s, i)).originalClrid = f.originalClrid := by
        rw [hrequest]
        rfl
      rw [hclrid]
      exact .zone c id j f bytes' message.bytes hrequest htaken hzone

/-- The edge router has one zone router, whose table is still empty. -/
def lyonTiers : TierSetup Unit Unit Empty Unit Unit where
  edge := Router.lyonSetup
  zone := fun _ =>
    { config := {}
      rzid := ⟨.zone, "zone1"⟩
      forwarder := ⟨3, []⟩
      requests := fun _ => ⟨lyonRequest.frameFor 1, "lyon", 12, 1, false⟩
      hopOf := fun _ => ⟨"bridge1", 0⟩
      capacity := fun _ => 1024
      accepted := fun _ => 0 }
  zoneOf := fun _ => ()

/-- The frame goes to the zone router, and its error response comes back. -/
def lyonThrough : List (TierEvent Unit Unit Empty Unit Unit) :=
  Router.lyonForwarded.map .edge ++
  List.replicate 4 (.edge (.net (.writer () .proceed))) ++
  [.zone () (.client (.inl ()) (.read 1 (lyonRequest.frameFor 1))),
    .zone () (.net (.call (.inl (), 0) .state)),
    .zone () (.client (.inl ()) (.turn unknownLyon)),
    .edge (.net (.reader () (.read (buildErrorResponse 1 1).length)))] ++
  List.replicate 3 (.edge (.net (.reader () .proceed))) ++
  [.edge (.net (.call ((), 0) .state)),
    .edge (.client () (.turn ⟨.ok (buildErrorResponse 9 1), 1, .done, true⟩))]

theorem requests_through_zones_lyon :
    ∃ r, Transition.run (step lyonTiers) (init lyonTiers) lyonThrough = some r ∧
      (r.edge.clients ()).out = buildErrorResponse 9 1 ∧
      ∃ reply, AnswerThrough lyonTiers r ((), 0) reply ∧ (r.edge.clients ()).out = reply := by
  obtain ⟨r, hrun, hr⟩ := Option.map_eq_some_iff.mp (show
    (Transition.run (step lyonTiers) (init lyonTiers) lyonThrough).map
      (fun r => ((r.edge.clients ()).out, (r.edge.clients ()).requests.length,
        (r.edge.clients ()).phase, (r.edge.net.shared.conns ()).drawn)) =
    some (buildErrorResponse 9 1, 1, .processing, 1) by decide)
  simp only [Prod.mk.injEq] at hr
  obtain ⟨hout, hrequests, hphase, hdrawn⟩ := hr
  obtain ⟨-, hclients⟩ := requests_through_zones lyonTiers _ r hrun
    (fun c => by rw [show c = () from rfl, hdrawn]; decide)
  obtain ⟨replies, hlen, hanswers, -, hwritten⟩ := hclients ()
  obtain ⟨request, hrequest⟩ := List.length_eq_one_iff.mp hrequests
  obtain ⟨-, reply, hreply, hanswer⟩ :=
    hanswers 0 request.1 request.2 (by rw [hrequest]; rfl)
  rw [hrequests] at hlen
  obtain ⟨only, rfl⟩ := List.length_eq_one_iff.mp hlen
  cases hreply
  refine ⟨r, hrun, hout, reply, hanswer, ?_⟩
  rw [hwritten (by rw [hphase]; exact SessionPhase.noConfusion), List.flatten_singleton]

end Tiers

end RzRouter
