import RzRouter.Router.Served

/-!
# The way of a request

A call looks the segment of its request up in the table, gets the hop from the registry and a
connection from the hop.  The table may be replaced in the meantime, and the hop retired: a frame
then still goes where a table listed its segment while the request was served.
-/

namespace RzRouter

open Network Program

/-! ## One call -/

section Calls

variable {κ : Type}

/-- The router does not answer the request itself. -/
def Request.Remote (req : Request) : Prop := req.segment ≠ GETSEGMENTS ∧ req.segment ≠ GETCODECS

/-- What a call has got so far: the table of its attempt, a hop, and a connection of the hop. -/
structure Way (κ : Type) where
  table : Option RoutingSnapshot
  hop : Option Hop
  conn : Option κ

/-- A call asks the registry for ids that its table lists for the segment of the request, asks the
hop that it was given, and uses the connection that the hop has picked; it opens a channel only for
a request that the router does not answer itself. -/
def routeProtocol (req : Request) : Protocol (ForwardOp κ) ForwardOp.Ret (Way κ) where
  allowed := fun way o =>
    match o with
    | .getHop hopId => ∃ snapshot, way.table = some snapshot ∧ hopId ∈ snapshot.lookup req.segment
    | .nextConnection hop => way.hop = some hop
    | .newChannel conn _ => way.conn = some conn ∧ req.Remote
    | _ => True
  answers _ _ _ := True
  next := fun way o r =>
    match o, r with
    | .loadRouting, r => ⟨some r, none, none⟩
    | .getHop _, r => { way with hop := r, conn := none }
    | .nextConnection _, r => { way with conn := r }
    | _, _ => way

variable {req : Request} {way : Way κ}

theorem follows_sendAndWait_route (hremote : req.Remote) {conn : κ} (hconn : way.conn = some conn)
    (frame : List UInt8) (id : UInt32) :
    Follows (routeProtocol req) (fun way' _ => way' = way) way (sendAndWait conn frame id) := by
  unfold sendAndWait
  refine follows_perform_bind trivial (fun closed _ => ?_)
  cases closed with
  | true => exact rfl
  | false =>
    refine follows_perform_bind ⟨hconn, hremote⟩ (fun tx _ => ?_)
    refine follows_perform_bind trivial (fun sentAt _ => ?_)
    refine follows_perform_bind trivial (fun inserted _ => ?_)
    cases inserted with
    | false => exact rfl
    | true =>
      refine follows_perform_bind trivial (fun accepted _ => ?_)
      cases accepted with
      | false => exact follows_perform_bind trivial (fun _ _ => rfl)
      | true =>
        refine follows_perform_bind trivial (fun result _ => ?_)
        cases result with
        | received response => exact rfl
        | failed e => cases e <;> exact rfl
        | dropped => exact rfl
        | elapsed => exact follows_perform_bind trivial (fun _ _ => rfl)

/-- A visit keeps the table of the attempt. -/
theorem follows_tryHop_route (hremote : req.Remote) {snapshot : RoutingSnapshot} {hopId : String}
    (htable : way.table = some snapshot) (hmem : hopId ∈ snapshot.lookup req.segment)
    (st : ForwardState) :
    Follows (routeProtocol (κ := κ) req) (fun way' _ => way'.table = some snapshot) way
      (tryHop req st hopId) := by
  unfold tryHop
  refine follows_perform_bind ⟨snapshot, htable, hmem⟩ (fun hop _ => ?_)
  cases hop with
  | none => exact htable
  | some hop =>
    refine follows_perform_bind rfl (fun conn _ => ?_)
    cases conn with
    | none => exact follows_perform_bind trivial (fun _ _ => htable)
    | some conn =>
      refine follows_perform_bind trivial (fun closed _ => ?_)
      cases closed with
      | true => exact htable
      | false =>
        refine follows_perform_bind trivial (fun id _ => ?_)
        simp only
        split
        · exact htable
        · refine follows_bind (follows_sendAndWait_route hremote rfl _ id) (fun way' result hway => ?_)
          subst hway
          cases result with
          | ok response => exact htable
          | error e =>
            -- a try that may have been sent ends the call of a write
            have hlost : ∀ frame, Follows (routeProtocol (κ := κ) req)
                (fun way' _ => way'.table = some snapshot)
                { way with hop := some hop, conn := some conn }
                (if req.isWrite = true then pure (Turn.done (.error .timeout)) else do
                  ForwardM.close conn
                  pure (Turn.next { frame := frame, requestSent := true })) := by
              intro frame
              split
              · exact htable
              · exact follows_perform_bind trivial (fun _ _ => htable)
            cases e with
            | connectionClosed => exact follows_perform_bind trivial (fun _ _ => htable)
            | _ => exact hlost _

theorem follows_tryHops_route (hremote : req.Remote) {snapshot : RoutingSnapshot}
    {hopIds : List String}
    (htable : way.table = some snapshot)
    (hmem : ∀ hopId ∈ hopIds, hopId ∈ snapshot.lookup req.segment) (st : ForwardState) :
    Follows (routeProtocol (κ := κ) req) (fun way' _ => way'.table = some snapshot) way
      (tryHops req hopIds st) := by
  induction hopIds generalizing way st with
  | nil => exact htable
  | cons hopId hopIds ih =>
    obtain ⟨hhop, hothers⟩ := List.forall_mem_cons.mp hmem
    refine follows_bind (follows_tryHop_route hremote htable hhop st) (fun way' turn htable' => ?_)
    cases turn with
    | done result => exact htable'
    | next st' => exact ih htable' hothers st'

/-- The order of an attempt has the hop ids of the table only. -/
theorem mem_of_mem_attemptOrder {hopIds : List String} {hne : hopIds ≠ []} {clrid : UInt32}
    {hopId : String} (h : hopId ∈ attemptOrder hopIds hne clrid) : hopId ∈ hopIds := by
  obtain ⟨i, -, rfl⟩ := List.mem_map.mp h
  exact List.get_mem _ _

theorem follows_forwardAttempts_route (hremote : req.Remote) (maxRetries remaining attempt : Nat)
    (way : Way κ) (st : ForwardState) :
    Follows (routeProtocol req) (fun _ _ => True) way
      (forwardAttempts maxRetries req remaining attempt st) := by
  induction remaining generalizing attempt way st with
  | zero => trivial
  | succ remaining ih =>
    refine follows_perform_bind trivial (fun snapshot _ => ?_)
    simp only
    split
    · trivial
    · refine follows_bind (follows_tryHops_route hremote rfl
        (fun hopId hmem => mem_of_mem_attemptOrder hmem) st) (fun way' turn _ => ?_)
      cases turn with
      | done result => trivial
      | next st' =>
        simp only
        split
        · trivial
        · split
          · trivial
          · exact follows_perform_bind trivial (fun _ _ => ih (attempt + 1) way' st')

theorem follows_forward_route (fw : Forwarder) (req : Request) (way : Way κ) :
    Follows (routeProtocol req) (fun _ _ => True) way (fw.forward req) := by
  unfold Forwarder.forward
  split
  · refine follows_perform_bind trivial (fun snapshot _ => ?_)
    exact follows_perform_bind trivial (fun _ _ => trivial)
  · rename_i hsegments
    simp only
    split
    · trivial
    · rename_i hcodecs
      exact follows_forwardAttempts_route ⟨hsegments, hcodecs⟩ _ _ _ way _

end Calls

/-! ## The registry -/

variable {ι κ : Type}

/-- Every hop is registered under its own id. -/
theorem sound_liveStep {client : RzidClient} {s s' : LiveState} {e : LiveEvent}
    (h : s.hops.Sound) (hstep : s.step client e = some s') : s'.hops.Sound := by
  cases liveStep hstep with
  | getOrCreate id requests outcome hphase => exact HopManager.sound_getOrCreate h id
  | retire snapshot c hphase => exact HopManager.sound_retireUnused h _
  | _ => exact h

/-! ## The channels of a step -/

section Steps

variable [DecidableEq κ]

/-- A channel is there before an operation, or the operation opens it. -/
theorem ident_of_serve {t : ι} {sh sh' : Shared ι κ} {ch : Option Nat} {o : ForwardOp κ}
    {answer : Answer κ} {r : Option o.Ret} (h : sh.serve t ch o answer = some (sh', r)) {tx : Nat}
    {x : ι × κ × UInt32} (hx : sh'.ident tx = some x) :
    sh.ident tx = some x ∨ ∃ c id, o = .newChannel c id ∧ x = (t, c, id) := by
  cases o with
  | newChannel c id =>
    cases answer with
    | state =>
      cases h
      unfold Shared.ident at hx ⊢
      rw [List.getElem?_append] at hx
      split at hx
      · exact Or.inl hx
      · rw [List.getElem?_singleton] at hx
        split at hx
        · cases hx
          exact Or.inr ⟨c, id, rfl, rfl⟩
        · cases hx
    | _ => cases h
  | segmentOrder snapshot =>
    cases answer with
    | order segments =>
      simp only [Shared.serve] at h
      split at h
      · cases h
        exact Or.inl hx
      · cases h
    | _ => cases h
  | nextConnection hop =>
    cases answer with
    | connection conn =>
      cases conn with
      | none =>
        cases h
        exact Or.inl hx
      | some c =>
        simp only [Shared.serve] at h
        split at h
        · cases h
        · cases h
          exact Or.inl hx
    | _ => cases h
  | wait tx' =>
    cases answer with
    | state =>
      simp only [Shared.serve] at h
      split at h
      · split at h <;> (cases h; exact Or.inl hx)
      · cases h
    | _ => cases h
  | remove c id =>
    cases answer with
    | state =>
      cases h
      rw [Shared.ident_dropSender, Shared.ident_setConn] at hx
      exact Or.inl hx
    | _ => cases h
  | nextCorrId c | insert c id tx sentAt | trySend c frame | close c =>
    cases answer with
    | state =>
      cases h
      rw [Shared.ident_setConn] at hx
      exact Or.inl hx
    | _ => cases h
  | _ =>
    cases answer <;> cases h
    exact Or.inl hx

/-- A step of a call performs the operation at which its program stands. -/
theorem play_of_call [DecidableEq ι] {reqs : ι → Request} {net net' : Network ι κ} {t : ι}
    {answer : Answer κ} (h : net.step reqs (.call t answer) = some net') :
    ∃ o k r, (net.calls t).prog = .op o k ∧
      net.shared.serve t (net.calls t).phase.channel? o answer = some (net'.shared, r) ∧
      (∀ t', t' ≠ t → net'.calls t' = net.calls t') ∧
      (net'.calls t).prog = match r with
        | some r => k r
        | none => .op o k := by
  simp only [Network.step] at h
  split at h
  · cases h
  · rename_i o k hprog
    split at h
    · cases h
    · rename_i shared hserve
      cases h
      exact ⟨o, k, none, hprog, hserve, fun _ _ => rfl, hprog⟩
    · rename_i shared r hserve
      cases h
      refine ⟨o, k, some r, hprog, hserve, fun t' ht' => Function.update_of_ne ht' _ _, ?_⟩
      simp only [Function.update_self]

/-- A step that is none of a call leaves calls and channels with their owners. -/
theorem calls_of_other [DecidableEq ι] {reqs : ι → Request} {net net' : Network ι κ}
    {e : Event ι κ} (h : net.step reqs e = some net') (hcall : ∀ t answer, e ≠ .call t answer) :
    net'.calls = net.calls ∧ net'.shared.ident = net.shared.ident := by
  cases e with
  | call t answer => exact absurd rfl (hcall t answer)
  | shutdown c =>
    cases h
    exact ⟨rfl, Shared.ident_setConn _ _ _⟩
  | keepalive c | hop c message =>
    obtain ⟨conn, -, rfl⟩ := Option.map_eq_some_iff.mp h
    exact ⟨rfl, Shared.ident_setConn _ _ _⟩
  | writer c choice | reader c choice =>
    obtain ⟨shared, htask, rfl⟩ := Option.map_eq_some_iff.mp h
    obtain ⟨result, -, rfl⟩ := Option.map_eq_some_iff.mp htask
    refine ⟨rfl, ?_⟩
    show Shared.ident _ = Shared.ident _
    rw [Shared.ident_notify, Shared.ident_setConn]

end Steps

/-! ## Calls in a router -/

namespace Router

variable {σ : Type} [DecidableEq σ] [DecidableEq κ] {su : Setup σ κ} {r r' : Router σ κ}
  {es : List (RouterEvent σ κ)} {t : σ × Nat}

/-- The table was published at some moment of the run at which the request was served. -/
def Published (su : Setup σ κ) (es : List (RouterEvent σ κ)) (t : σ × Nat)
    (snapshot : RoutingSnapshot) : Prop :=
  ∃ es₁ r₁, es₁ <+: es ∧ Transition.run (step su) (init su) es₁ = some r₁ ∧ r₁.Serves su t ∧
    r₁.refresh.refresh.routing = snapshot

/-- While the request was served, the published table listed the id of the hop for the segment of
the request, and after that the registry had this hop under its id. -/
def Routed (su : Setup σ κ) (es : List (RouterEvent σ κ)) (t : σ × Nat) (hop : Hop) : Prop :=
  ∃ es₁ r₁ es₂ r₂, es₁ <+: es₂ ∧ es₂ <+: es ∧
    Transition.run (step su) (init su) es₁ = some r₁ ∧ r₁.Serves su t ∧
    hop.id ∈ r₁.refresh.refresh.routing.lookup (su.requests t).segment ∧
    Transition.run (step su) (init su) es₂ = some r₂ ∧ r₂.Serves su t ∧
    r₂.refresh.hops.get hop.id = some hop

structure WayHolds (su : Setup σ κ) (es : List (RouterEvent σ κ)) (t : σ × Nat) (way : Way κ) :
    Prop where
  table : ∀ snapshot, way.table = some snapshot → Published su es t snapshot
  hop : ∀ hop, way.hop = some hop → Routed su es t hop
  conn : ∀ c, way.conn = some c → way.hop = some (su.hopOf c)

/-- Every call is on its way, and every channel was opened for a connection of a routed hop. -/
structure OnRoute (su : Setup σ κ) (es : List (RouterEvent σ κ)) (r : Router σ κ) : Prop where
  sound : r.refresh.hops.Sound
  ways : ∀ t, ∃ way, WayHolds su es t way ∧
    Follows (routeProtocol (su.requests t)) (fun _ _ => True) way (r.net.calls t).prog
  channels : ∀ tx t c id, r.net.shared.ident tx = some (t, c, id) →
    Routed su es t (su.hopOf c) ∧ (su.requests t).Remote

theorem Published.concat {snapshot : RoutingSnapshot} (h : Published su es t snapshot)
    (e : RouterEvent σ κ) : Published su (es ++ [e]) t snapshot := by
  obtain ⟨es₁, r₁, hprefix, hrest⟩ := h
  exact ⟨es₁, r₁, hprefix.trans (List.prefix_append es [e]), hrest⟩

theorem Routed.concat {hop : Hop} (h : Routed su es t hop) (e : RouterEvent σ κ) :
    Routed su (es ++ [e]) t hop := by
  obtain ⟨es₁, r₁, es₂, r₂, hfirst, hprefix, hrest⟩ := h
  exact ⟨es₁, r₁, es₂, r₂, hfirst, hprefix.trans (List.prefix_append es [e]), hrest⟩

theorem WayHolds.concat {way : Way κ} (h : WayHolds su es t way) (e : RouterEvent σ κ) :
    WayHolds su (es ++ [e]) t way :=
  ⟨fun snapshot hs => (h.table snapshot hs).concat e, fun hop hh => (h.hop hop hh).concat e, h.conn⟩

theorem onRoute_init (su : Setup σ κ) : OnRoute su [] (init su) where
  sound := HopManager.sound_new
  ways := by
    intro t
    refine ⟨⟨none, none, none⟩, ⟨?_, ?_, ?_⟩, follows_forward_route _ _ _⟩
    · intro snapshot h
      cases h
    · intro hop h
      cases h
    · intro c h
      cases h
  channels := by
    intro tx t c id h
    cases h

/-- A step that leaves calls and channels alone. -/
theorem OnRoute.of_same (h : OnRoute su es r) (e : RouterEvent σ κ) (hsound : r'.refresh.hops.Sound)
    (hcalls : r'.net.calls = r.net.calls) (hident : r'.net.shared.ident = r.net.shared.ident) :
    OnRoute su (es ++ [e]) r' where
  sound := hsound
  ways := by
    intro t
    obtain ⟨way, hway, hfollows⟩ := h.ways t
    rw [hcalls]
    exact ⟨way, hway.concat e, hfollows⟩
  channels := by
    rw [hident]
    exact fun tx t c id hx => (h.channels tx t c id hx).imp_left (fun h => h.concat e)

/-- An operation of a call takes it further on its way. -/
theorem wayHolds_next {way : Way κ} {o : ForwardOp κ} {choice a : Answer κ} {ch : Option Nat}
    {sh : Shared (σ × Nat) κ} {x : o.Ret} (hrun : Transition.run (step su) (init su) es = some r)
    (hserves : r.Serves su t) (hsound : r.refresh.hops.Sound) (h : WayHolds su es t way)
    (hallowed : (routeProtocol (su.requests t)).allowed way o)
    (hanswer : r.answer su o choice = some a)
    (hserve : r.net.shared.serve t ch o a = some (sh, some x)) :
    WayHolds su es t ((routeProtocol (su.requests t)).next way o x) := by
  cases o with
  | loadRouting =>
    cases hanswer
    cases hserve
    refine ⟨?_, ?_, ?_⟩
    · intro snapshot hs
      cases hs
      exact ⟨es, r, List.prefix_rfl, hrun, hserves, rfl⟩
    · intro hop hh
      cases hh
    · intro c hc
      cases hc
  | getHop hopId =>
    cases hanswer
    cases hserve
    refine ⟨h.table, ?_, ?_⟩
    · intro hop hget
      obtain ⟨snapshot, htable, hmem⟩ := hallowed
      obtain ⟨es₁, r₁, hprefix, hrun₁, hserves₁, hsnapshot⟩ := h.table snapshot htable
      have hid : hop.id = hopId := hsound.named hopId hop hget
      refine ⟨es₁, r₁, es, r, hprefix, List.prefix_rfl, hrun₁, hserves₁, ?_, hrun, hserves, ?_⟩
      · rw [hsnapshot, hid]
        exact hmem
      · rw [hid]
        exact hget
    · intro c hc
      cases hc
  | nextConnection hop =>
    refine ⟨h.table, h.hop, ?_⟩
    -- a connection that the hop has picked is one of its own
    intro c hc
    show way.hop = some (su.hopOf c)
    rw [show way.hop = some hop from hallowed]
    change x = some c at hc
    cases choice with
    | connection conn =>
      cases conn with
      | none =>
        cases hanswer
        cases hserve
        cases hc
      | some c' =>
        simp only [answer] at hanswer
        split at hanswer
        · rename_i hhop
          cases hanswer
          simp only [Shared.serve] at hserve
          split at hserve
          · cases hserve
          · cases hserve
            cases hc
            rw [hhop]
        · cases hanswer
    | _ =>
      cases hanswer
      cases hserve
  | _ => exact h

theorem onRoute_call {t : σ × Nat} {choice a : Answer κ} {net : Network (σ × Nat) κ}
    (hrun : Transition.run (step su) (init su) es = some r) (h : OnRoute su es r)
    (hserves : r.Serves su t)
    (hanswer : ∀ o k, (r.net.calls t).prog = .op o k → r.answer su o choice = some a)
    (hstep : r.net.step su.requests (.call t a) = some net) (e : RouterEvent σ κ) :
    OnRoute su (es ++ [e]) { r with net := net } := by
  obtain ⟨o, k, x, hprog, hserve, hothers, hthis⟩ := play_of_call hstep
  obtain ⟨way, hway, hfollows⟩ := h.ways t
  rw [hprog] at hfollows
  refine ⟨h.sound, fun t' => ?_, fun tx t' c id hident => ?_⟩
  · by_cases ht : t' = t
    · subst ht
      cases x with
      | none => exact ⟨way, hway.concat e, hthis ▸ hfollows⟩
      | some x =>
        have hnext := wayHolds_next hrun hserves h.sound hway hfollows.1 (hanswer o k hprog) hserve
        exact ⟨_, hnext.concat e, hthis ▸ hfollows.2 x trivial⟩
    · obtain ⟨way', hway', hfollows'⟩ := h.ways t'
      refine ⟨way', hway'.concat e, ?_⟩
      show Follows _ _ _ (net.calls t').prog
      rw [hothers t' ht]
      exact hfollows'
  · rcases ident_of_serve hserve hident with hold | ⟨c', id', rfl, hx⟩
    · exact (h.channels tx t' c id hold).imp_left (fun h => h.concat e)
    · -- the new channel is for the connection at which the call has arrived
      cases hx
      exact ⟨(hway.hop _ (hway.conn c hfollows.1.1)).concat e, hfollows.1.2⟩

theorem onRoute_step {e : RouterEvent σ κ}
    (hrun : Transition.run (step su) (init su) es = some r) (h : OnRoute su es r)
    (hstep : r.step su e = some r') : OnRoute su (es ++ [e]) r' := by
  cases routerStep hstep with
  | refresh e refresh hrefresh => exact h.of_same _ (sound_liveStep h.sound hrefresh) rfl rfl
  | client s e client hready hclient => exact h.of_same _ h.sound rfl rfl
  | call t choice a net hserves hanswer hnet => exact onRoute_call hrun h hserves hanswer hnet _
  | net e net hcall hnet =>
    obtain ⟨hcalls, hident⟩ := calls_of_other hnet hcall
    exact h.of_same _ h.sound hcalls hident

/-! ## Where the frames of a request go -/

theorem onRoute_of_run (hrun : Transition.run (step su) (init su) es = some r) :
    OnRoute su es r :=
  Transition.invariant_of_events (I := OnRoute su) (onRoute_init su)
    (fun _ _ _ _ hrun h hstep => onRoute_step hrun h hstep) hrun

/-- In every run of a router, whatever the refresh task does meanwhile: a frame that is sent, or
about to be sent, for a request carries the bytes of the request under the id of the try; the
request is none that the router answers itself; and the frame is on a connection of a hop whose id
the published table listed for the segment of the request while the request was served, and which
the registry had under this id after that. -/
theorem frames_on_route (su : Setup σ κ) (es : List (RouterEvent σ κ)) (r : Router σ κ)
    (hrun : Transition.run (step su) (init su) es = some r) (c : κ) (out : Outgoing)
    (hout : out ∈ (r.net.shared.conns c).frames) (tx : Nat) (htx : out.tx = some tx) :
    ∃ t id, out.bytes = (su.requests t).frameFor id ∧ (su.requests t).Remote ∧
      ∃ es₁ r₁ es₂ r₂, es₁ <+: es₂ ∧ es₂ <+: es ∧
        Transition.run (step su) (init su) es₁ = some r₁ ∧ r₁.Serves su t ∧
        (su.hopOf c).id ∈ r₁.refresh.refresh.routing.lookup (su.requests t).segment ∧
        Transition.run (step su) (init su) es₂ = some r₂ ∧ r₂.Serves su t ∧
        r₂.refresh.hops.get (su.hopOf c).id = some (su.hopOf c) := by
  obtain ⟨es', hnet⟩ := net_of_run hrun
  obtain ⟨t, id, hident, -, hbytes, -⟩ := (delivers_of_run hnet).shape.frame c out hout tx htx
  obtain ⟨hrouted, hremote⟩ := (onRoute_of_run hrun).channels tx t c id hident
  exact ⟨t, id, hbytes, hremote, hrouted⟩

theorem frames_on_route_lyon :
    ∃ r out, Transition.run (step lyonSetup) (init lyonSetup) lyonForwarded = some r ∧
      out ∈ (r.net.shared.conns ()).frames ∧ ∃ id, out.bytes = lyonRequest.frameFor id ∧
      ∃ es₁ r₁, Transition.run (step lyonSetup) (init lyonSetup) es₁ = some r₁ ∧
        "hop1" ∈ r₁.refresh.refresh.routing.lookup "lyon" := by
  obtain ⟨r, hrun, hr⟩ := Option.map_eq_some_iff.mp (show
    (Transition.run (step lyonSetup) (init lyonSetup) lyonForwarded).map
      (fun r => (r.net.shared.conns ()).frames.map Outgoing.tx) = some [some 0] by decide)
  obtain ⟨out, hframes, htx⟩ := List.map_eq_singleton_iff.mp hr
  have hout : out ∈ (r.net.shared.conns ()).frames := by
    rw [hframes]
    exact List.mem_singleton_self out
  obtain ⟨t, id, hbytes, -, es₁, r₁, -, -, -, -, hrun₁, -, hlisted, -⟩ :=
    frames_on_route lyonSetup _ r hrun () out hout 0 htx
  exact ⟨r, out, hrun, hout, id, hbytes, es₁, r₁, hrun₁, hlisted⟩

end Router

end RzRouter
