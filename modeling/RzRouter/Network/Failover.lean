import Mathlib.Data.List.Rotate
import RzRouter.Forwarder
import RzRouter.Hop.Pick

/-!
# What a forward call tries

A call looks up the routing table, the hops and their connections one after the other, and any of
them may be different at every look.  A trace of the call holds what it saw; here is which hops the
attempts of a trace visit, and why a visit or an attempt ends.
-/

namespace RzRouter

open LittleEndian Program

/-! ## Traces -/

/-- What a call can see at one operation.  Within `next_connection` connections may still be
closed, so `closed i` is the state of the connections at the `i`-th look. -/
structure View (κ : Type) where
  routing : RoutingSnapshot
  hops : HopManager
  connections : Hop → List κ
  rr : Hop → Nat
  closed : Nat → κ → Bool
  staysClosed : ConnectionSet.StaysClosed closed

/-- How an operation is answered in a view; what the demux, the channels and the hop do is open. -/
def View.Answers {κ : Type} (view : View κ) : (o : ForwardOp κ) → o.Ret → Prop
  | .loadRouting, snapshot => snapshot = view.routing
  | .getHop hopId, hop => hop = view.hops.get hopId
  | .nextConnection hop, conn =>
      conn = (Hop.nextConnection (view.connections hop) view.closed (view.rr hop)).2
  | .isClosed conn, closed => closed = view.closed 0 conn
  | _, _ => True

section Traces

variable {κ : Type}

abbrev Look (κ : Type) : Type := Played (View κ) (ForwardOp κ) ForwardOp.Ret

def Look.isLoad (s : Look κ) : Bool :=
  match s.op with
  | .loadRouting => true
  | _ => false

def Look.isGet (s : Look κ) : Bool :=
  match s.op with
  | .getHop _ => true
  | _ => false

def Look.isSleep (s : Look κ) : Bool :=
  match s.op with
  | .sleep _ => true
  | _ => false

/-- The hop id that a visit looks up. -/
def Look.hopId (s : Look κ) : String :=
  match s.op with
  | .getHop hopId => hopId
  | _ => ""

/-- An attempt: the load of the routing table and what follows up to the next one. -/
abbrev Attempt (κ : Type) : Type := Look κ × List (Look κ)

/-- A visit: the look-up of a hop and what follows up to the next one. -/
abbrev Visit (κ : Type) : Type := Look κ × List (Look κ)

/-- The attempts of a trace, without the sleeps between them. -/
def attempts (tr : List (Look κ)) : List (Attempt κ) :=
  episodes Look.isLoad (tr.filter (fun s => !s.isSleep))

def Attempt.visits (a : Attempt κ) : List (Visit κ) := episodes Look.isGet a.2

def Attempt.visited (a : Attempt κ) : List String := a.visits.map (fun v => v.1.hopId)

/-- The hop ids that the table of an attempt lists, in cyclic order from the client's clrid on. -/
def Attempt.order (req : Request) (a : Attempt κ) : List String :=
  (a.1.world.routing.lookup req.segment).rotate
    (req.originalClrid.toNat % (a.1.world.routing.lookup req.segment).length)

/-! ## How a visit ends -/

def Look.response? : Look κ → Option (List UInt8)
  | ⟨_, .wait _, .received response⟩ => some response
  | _ => none

/-- The frame is handed to the connection. -/
def Look.isSent : Look κ → Bool
  | ⟨_, .trySend _ _, accepted⟩ => accepted
  | _ => false

/-- The correlation id is already in use. -/
def Look.isRefused : Look κ → Bool
  | ⟨_, .insert _ _ _ _, inserted⟩ => !inserted
  | _ => false

def Received (tr : List (Look κ)) (response : List UInt8) : Prop :=
  ∃ s ∈ tr, s.response? = some response

def NoResponse (tr : List (Look κ)) : Prop := ∀ s ∈ tr, s.response? = none

/-- The request was sent, or takes a correlation id that is in use. -/
def SentOrRefused (tr : List (Look κ)) : Prop := ∃ s ∈ tr, s.isSent = true ∨ s.isRefused = true

/-- Why a visit went on to the next hop. -/
inductive Fails : Visit κ → Prop
  /-- The hop is not registered. -/
  | unregistered (view : View κ) (hopId : String) :
      Fails (⟨view, .getHop hopId, none⟩, [])
  /-- No connection is picked. -/
  | noneLive (view view' : View κ) (hopId : String) (hop : Hop) (rest : List (Look κ))
      (hclosed : view'.rr hop + (view'.connections hop).length ≤ usizeCount →
        ∀ conn ∈ view'.connections hop, view'.closed (view'.connections hop).length conn = true) :
      Fails (⟨view, .getHop hopId, some hop⟩, ⟨view', .nextConnection hop, none⟩ :: rest)
  /-- The connection that is picked, a live one, gives no response. -/
  | unanswered (view view' : View κ) (hopId : String) (hop : Hop) (conn : κ) (rest : List (Look κ))
      (hmem : conn ∈ view'.connections hop)
      (hopen : ∃ i < (view'.connections hop).length, view'.closed i conn = false)
      (hnone : NoResponse rest) :
      Fails (⟨view, .getHop hopId, some hop⟩, ⟨view', .nextConnection hop, some conn⟩ :: rest)

/-- Why a visit is the last one of its call: there is a response, a write has failed, or the frame
has no room for a clrid. -/
def Ends (req : Request) (v : Visit κ) (result : Except ForwardError (List UInt8)) : Prop :=
  (∃ response, Received v.2 response ∧ result = .ok (restoreClrid response req.originalClrid)) ∨
    (req.isWrite = true ∧ SentOrRefused v.2 ∧ NoResponse v.2 ∧ result = .error .timeout) ∨
    (req.frame.length < req.clridOffset + 4 ∧
      result = .error (.internal "frame too short for CLRID"))

/-- The attempt has visited its whole list in vain. -/
def Exhausted (req : Request) (a : Attempt κ) : Prop :=
  a.visited = a.order req ∧ ∀ v ∈ a.visits, Fails v

/-- The attempt has ended at a hop of its list. -/
def Stopped (req : Request) (a : Attempt κ) (result : Except ForwardError (List UInt8)) : Prop :=
  a.visited <+: a.order req ∧ ∃ vs v, a.visits = vs ++ [v] ∧ (∀ v' ∈ vs, Fails v') ∧
    Ends req v result

end Traces

/-! ## One visit -/

section Visits

variable {κ : Type} {req : Request}

/-- The look belongs to the visit under way. -/
def Look.Inner (s : Look κ) : Prop := s.isLoad = false ∧ s.isGet = false ∧ s.isSleep = false

/-- How `send_and_wait` goes. -/
def SendTrace (tr : List (Look κ)) (result : Except RZError (List UInt8)) : Prop :=
  (∀ s ∈ tr, s.Inner) ∧
    match result with
    | .ok response => Received tr response
    | .error .connectionClosed => NoResponse tr
    | .error _ => SentOrRefused tr ∧ NoResponse tr

/-- Looks at a connection and at the channel of a waiter start neither a visit nor an attempt. -/
theorem inner_of_eq_false {s : Look κ} (h : (s.isLoad || s.isGet || s.isSleep) = false) :
    s.Inner := by
  rw [Bool.or_eq_false_iff, Bool.or_eq_false_iff] at h
  exact ⟨h.1.1, h.1.2, h.2⟩

theorem shows_sendAndWait (conn : κ) (frame : List UInt8) (id : UInt32) :
    Shows View.Answers SendTrace (sendAndWait conn frame id) := by
  unfold sendAndWait
  apply shows_perform_bind
  intro w₁ closed _
  cases closed with
  | true =>
    apply shows_pure
    refine ⟨?_, ?_⟩
    · simp [Look.Inner, Look.isLoad, Look.isGet, Look.isSleep]
    · simp [NoResponse, Look.response?]
  | false =>
    apply shows_perform_bind
    intro w₂ tx _
    apply shows_perform_bind
    intro w₃ sentAt _
    apply shows_perform_bind
    intro w₄ inserted _
    cases inserted with
    | false =>
      apply shows_pure
      refine ⟨?_, ?_, ?_⟩
      · simp [Look.Inner, Look.isLoad, Look.isGet, Look.isSleep]
      · simp [SentOrRefused, Look.isRefused]
      · simp [NoResponse, Look.response?]
    | true =>
      apply shows_perform_bind
      intro w₅ accepted _
      cases accepted with
      | false =>
        apply shows_perform_bind
        intro w₆ _ _
        apply shows_pure
        refine ⟨?_, ?_⟩
        · simp [Look.Inner, Look.isLoad, Look.isGet, Look.isSleep]
        · simp [NoResponse, Look.response?]
      | true =>
        apply shows_perform_bind
        intro w₆ answer _
        cases answer with
        | received response =>
          apply shows_pure
          refine ⟨?_, ?_⟩
          · simp [Look.Inner, Look.isLoad, Look.isGet, Look.isSleep]
          · simp [Received, Look.response?]
        | failed e =>
          cases e with
          | timeout =>
            apply shows_pure
            refine ⟨?_, ?_, ?_⟩
            · simp [Look.Inner, Look.isLoad, Look.isGet, Look.isSleep]
            · simp [SentOrRefused, Look.isSent]
            · simp [NoResponse, Look.response?]
          | connectionClosed =>
            apply shows_pure
            refine ⟨?_, ?_⟩
            · simp [Look.Inner, Look.isLoad, Look.isGet, Look.isSleep]
            · simp [NoResponse, Look.response?]
        | dropped =>
          apply shows_pure
          refine ⟨?_, ?_⟩
          · simp [Look.Inner, Look.isLoad, Look.isGet, Look.isSleep]
          · simp [NoResponse, Look.response?]
        | elapsed =>
          apply shows_perform_bind
          intro w₇ _ _
          apply shows_pure
          refine ⟨?_, ?_, ?_⟩
          · simp [Look.Inner, Look.isLoad, Look.isGet, Look.isSleep]
          · simp [SentOrRefused, Look.isSent]
          · simp [NoResponse, Look.response?]

/-- How a visit goes. -/
def VisitTrace (req : Request) (hopId : String) (tr : List (Look κ)) (turn : Turn) : Prop :=
  ∃ view hop rest, tr = ⟨view, .getHop hopId, hop⟩ :: rest ∧ (∀ s ∈ rest, s.Inner) ∧
    match turn with
    | .next st => st.frame.length = req.frame.length ∧ Fails (⟨view, .getHop hopId, hop⟩, rest)
    | .done result => Ends req (⟨view, .getHop hopId, hop⟩, rest) result

theorem noResponse_append {tr tr' : List (Look κ)} (h : NoResponse tr) (h' : NoResponse tr') :
    NoResponse (tr ++ tr') := by
  intro s hs
  rcases List.mem_append.mp hs with hs | hs
  · exact h s hs
  · exact h' s hs

/-- How a visit goes on when its connection was given the frame: it goes on to the next hop
without a response, or it ends. -/
def AnswerTrace (req : Request) (tr : List (Look κ)) (turn : Turn) : Prop :=
  (∀ s ∈ tr, s.Inner) ∧
    match turn with
    | .next st => st.frame.length = req.frame.length ∧ NoResponse tr
    | .done result =>
      (∃ response, Received tr response ∧ result = .ok (restoreClrid response req.originalClrid)) ∨
        req.isWrite = true ∧ SentOrRefused tr ∧ NoResponse tr ∧ result = .error .timeout

theorem answerTrace_close {tr : List (Look κ)} {st : ForwardState} (hinner : ∀ s ∈ tr, s.Inner)
    (hnone : NoResponse tr) (hlen : st.frame.length = req.frame.length) (w : View κ) (conn : κ) :
    AnswerTrace req (tr ++ [⟨w, .close conn, ()⟩]) (.next st) := by
  refine ⟨fun s hs => ?_, hlen, noResponse_append hnone ?_⟩
  · rcases List.mem_append.mp hs with hs | hs
    · exact hinner s hs
    · rw [List.mem_singleton.mp hs]
      exact inner_of_eq_false rfl
  · simp [NoResponse, Look.response?]

theorem shows_answer {tr : List (Look κ)} {result : Except RZError (List UInt8)}
    (h : SendTrace tr result) (conn : κ) {frame : List UInt8}
    (hlen : frame.length = req.frame.length) (requestSent : Bool) :
    Shows View.Answers (fun tr' turn => AnswerTrace req (tr ++ tr') turn)
      (match result with
        | .ok response => pure (.done (.ok (restoreClrid response req.originalClrid)))
        | .error .connectionClosed => do
          ForwardM.close conn
          pure (.next ⟨frame, requestSent⟩)
        | .error _ =>
          if req.isWrite then pure (.done (.error .timeout)) else do
            ForwardM.close conn
            pure (.next ⟨frame, true⟩)) := by
  obtain ⟨hinner, hresult⟩ := h
  cases result with
  | ok response =>
    apply shows_pure
    rw [List.append_nil]
    exact ⟨hinner, Or.inl ⟨response, hresult, rfl⟩⟩
  | error e =>
    have hfailed : SentOrRefused tr ∧ NoResponse tr → Shows View.Answers
        (fun tr' turn => AnswerTrace req (tr ++ tr') turn)
        (if req.isWrite = true then pure (.done (.error .timeout)) else do
          ForwardM.close conn
          pure (.next ⟨frame, true⟩)) := by
      intro hsent
      split
      · rename_i hwrite
        apply shows_pure
        rw [List.append_nil]
        exact ⟨hinner, Or.inr ⟨hwrite, hsent.1, hsent.2, rfl⟩⟩
      · apply shows_perform_bind
        intro w _ _
        apply shows_pure
        exact answerTrace_close hinner hsent.2 hlen w conn
    cases e with
    | connectionClosed =>
      apply shows_perform_bind
      intro w _ _
      apply shows_pure
      exact answerTrace_close hinner hresult hlen w conn
    | _ => exact hfailed hresult

/-- The looks of a visit before its connection is given the frame. -/
theorem visitTrace_of_answerTrace {view view' : View κ} {hopId : String} {hop : Hop} {conn : κ}
    (hpick : conn ∈ view'.connections hop ∧
      ∃ i < (view'.connections hop).length, view'.closed i conn = false)
    (w₁ w₂ : View κ) (newClrid : UInt32) {tr : List (Look κ)} {turn : Turn}
    (h : AnswerTrace req tr turn) :
    VisitTrace req hopId
      (⟨view, .getHop hopId, some hop⟩ :: ⟨view', .nextConnection hop, some conn⟩ ::
        ⟨w₁, .isClosed conn, false⟩ :: ⟨w₂, .nextCorrId conn, newClrid⟩ :: tr) turn := by
  obtain ⟨hinner, hturn⟩ := h
  refine ⟨view, some hop, _, rfl, ?_, ?_⟩
  · intro s hs
    simp only [List.mem_cons] at hs
    rcases hs with rfl | rfl | rfl | hs
    · exact inner_of_eq_false rfl
    · exact inner_of_eq_false rfl
    · exact inner_of_eq_false rfl
    · exact hinner s hs
  · have hbefore : ∀ {tr : List (Look κ)}, NoResponse tr → NoResponse
        (⟨w₁, .isClosed conn, false⟩ :: ⟨w₂, .nextCorrId conn, newClrid⟩ :: tr) := by
      intro tr hnone
      exact List.forall_mem_cons.mpr ⟨rfl, List.forall_mem_cons.mpr ⟨rfl, hnone⟩⟩
    cases turn with
    | next st =>
      obtain ⟨hlen, hnone⟩ := hturn
      exact ⟨hlen, Fails.unanswered _ _ _ _ _ _ hpick.1 hpick.2 (hbefore hnone)⟩
    | done result =>
      rcases hturn with ⟨response, ⟨s, hs, hs'⟩, hresult⟩ | ⟨hwrite, ⟨s, hs, hs'⟩, hnone, hresult⟩
      · refine Or.inl ⟨response, ⟨s, ?_, hs'⟩, hresult⟩
        simp only [List.mem_cons, hs, or_true]
      · refine Or.inr (Or.inl ⟨hwrite, ⟨s, ?_, hs'⟩, ?_, hresult⟩)
        · simp only [List.mem_cons, hs, or_true]
        · exact List.forall_mem_cons.mpr ⟨rfl, hbefore hnone⟩

theorem shows_tryHop {st : ForwardState} (hlen : st.frame.length = req.frame.length)
    (hopId : String) :
    Shows View.Answers (VisitTrace (κ := κ) req hopId) (tryHop req st hopId) := by
  unfold tryHop
  apply shows_perform_bind
  intro view hop _
  cases hop with
  | none =>
    apply shows_pure
    exact ⟨view, none, [], rfl, fun _ hs => absurd hs List.not_mem_nil, hlen,
      Fails.unregistered view hopId⟩
  | some hop =>
    apply shows_perform_bind
    intro view' conn hpick
    cases conn with
    | none =>
      apply shows_perform_bind
      intro view'' _ _
      apply shows_pure
      refine ⟨view, some hop, _, rfl, ?_, hlen, ?_⟩
      · simp [Look.Inner, Look.isLoad, Look.isGet, Look.isSleep]
      · apply Fails.noneLive
        exact fun hfits => ConnectionSet.closed_of_pick_eq_none view'.staysClosed hfits hpick.symm
    | some conn =>
      have hopen := ConnectionSet.open_of_pick hpick.symm
      apply shows_perform_bind
      intro w₁ closed _
      cases closed with
      | true =>
        -- closed since it was picked
        apply shows_pure
        refine ⟨view, some hop, _, rfl, ?_, hlen, ?_⟩
        · simp [Look.Inner, Look.isLoad, Look.isGet, Look.isSleep]
        · apply Fails.unanswered _ _ _ _ _ _ hopen.1 hopen.2
          simp [NoResponse, Look.response?]
      | false =>
        apply shows_perform_bind
        intro w₂ newClrid _
        simp only
        split
        · rename_i hshort
          apply shows_pure
          refine ⟨view, some hop, _, rfl, ?_, Or.inr (Or.inr ⟨?_, rfl⟩)⟩
          · simp [Look.Inner, Look.isLoad, Look.isGet, Look.isSleep]
          · rw [hlen] at hshort
            exact hshort
        · rename_i hfits
          rw [not_lt] at hfits
          have hlen' : (overwrite st.frame req.clridOffset (u32Bytes newClrid)).length =
              req.frame.length := by
            rw [length_overwrite _ _ _ (by rw [length_u32Bytes]; exact hfits), hlen]
          -- the frame has its clrid and is sent
          refine shows_mono (shows_bind (shows_sendAndWait conn _ newClrid)
            (fun tr result hsend => ?_))
            (fun tr turn h => visitTrace_of_answerTrace hopen w₁ w₂ newClrid h)
          have hanswer := shows_answer hsend conn hlen' st.requestSent
          cases result with
          | ok response => exact hanswer
          | error e => cases e <;> exact hanswer

/-! ## One attempt -/

/-- How an attempt goes on after the load of its table, over the hop ids `order`. -/
def AttemptTrace (req : Request) (order : List String) (tr : List (Look κ)) (turn : Turn) : Prop :=
  (∀ s : Look κ, s ∈ tr → s.isLoad = false ∧ s.isSleep = false) ∧
    tr.takeWhile (fun s => !Look.isGet s) = [] ∧
    match turn with
    | .next st => st.frame.length = req.frame.length ∧
        (episodes Look.isGet tr).map (fun v => Look.hopId v.1) = order ∧
        ∀ v ∈ episodes Look.isGet tr, Fails v
    | .done result =>
        (episodes Look.isGet tr).map (fun v => Look.hopId v.1) <+: order ∧
        ∃ vs v, episodes Look.isGet tr = vs ++ [v] ∧ (∀ v' ∈ vs, Fails v') ∧ Ends req v result

theorem episodes_visit {view : View κ} {hopId : String} {hop : Option Hop}
    {rest tr : List (Look κ)} (hrest : ∀ s ∈ rest, s.Inner)
    (hstart : tr.takeWhile (fun s => !Look.isGet s) = []) :
    episodes Look.isGet ((⟨view, .getHop hopId, hop⟩ :: rest) ++ tr) =
      (⟨view, .getHop hopId, hop⟩, rest) :: episodes Look.isGet tr := by
  rw [episodes_append Look.isGet hstart,
    episodes_cons Look.isGet rfl (fun s hs => (hrest s hs).2.1)]
  rfl

theorem shows_tryHops {st : ForwardState} (hlen : st.frame.length = req.frame.length)
    (order : List String) :
    Shows View.Answers (AttemptTrace (κ := κ) req order) (tryHops req order st) := by
  induction order generalizing st with
  | nil =>
    apply shows_pure
    exact ⟨fun _ hs => absurd hs List.not_mem_nil, rfl, hlen, rfl,
      fun _ hv => absurd hv List.not_mem_nil⟩
  | cons hopId order ih =>
    refine shows_bind (shows_tryHop hlen hopId) (fun tr turn hvisit => ?_)
    obtain ⟨view, hop, rest, rfl, hrest, hturn⟩ := hvisit
    have hquiet : ∀ s ∈ (⟨view, .getHop hopId, hop⟩ : Look κ) :: rest,
        Look.isLoad s = false ∧ Look.isSleep s = false := by
      intro s hs
      rcases List.mem_cons.mp hs with rfl | hs
      · exact ⟨rfl, rfl⟩
      · exact ⟨(hrest s hs).1, (hrest s hs).2.2⟩
    cases turn with
    | done result =>
      apply shows_pure
      have hepisodes := @episodes_visit κ view hopId hop rest [] hrest rfl
      refine ⟨?_, rfl, ?_, [], _, hepisodes, fun _ hv => absurd hv List.not_mem_nil, hturn⟩
      · rw [List.append_nil]
        exact hquiet
      · rw [hepisodes]
        exact List.prefix_append [hopId] order
    | next st' =>
      refine shows_mono (ih hturn.1) (fun tr' turn' hattempt => ?_)
      obtain ⟨hquiet', hstart, hend⟩ := hattempt
      have hepisodes := @episodes_visit κ view hopId hop rest tr' hrest hstart
      refine ⟨?_, rfl, ?_⟩
      · intro s hs
        rcases List.mem_append.mp hs with hs | hs
        · exact hquiet s hs
        · exact hquiet' s hs
      · cases turn' with
        | next st'' =>
          obtain ⟨hlen'', hids, hfails⟩ := hend
          refine ⟨hlen'', ?_, ?_⟩
          · rw [hepisodes, List.map_cons, hids]
            rfl
          · rw [hepisodes]
            exact List.forall_mem_cons.mpr ⟨hturn.2, hfails⟩
        | done result =>
          obtain ⟨hids, vs, v, hvs, hfails, hends⟩ := hend
          refine ⟨?_, _ :: vs, v, ?_, List.forall_mem_cons.mpr ⟨hturn.2, hfails⟩, hends⟩
          · rw [hepisodes, List.map_cons]
            exact (List.prefix_cons_inj hopId).mpr hids
          · rw [hepisodes, hvs]
            rfl

/-- The order in which an attempt tries the hops is the cyclic one. -/
theorem attemptOrder_eq_rotate (hopIds : List String) (hne : hopIds ≠ []) (clrid : UInt32) :
    attemptOrder hopIds hne clrid = hopIds.rotate (clrid.toNat % hopIds.length) := by
  unfold attemptOrder
  apply List.ext_getElem
  · simp
  · intro i hi hi'
    simp [List.getElem_rotate, Nat.add_comm]

/-! ## All attempts -/

/-- How the attempts of a call go. -/
def CallTrace (req : Request) (tr : List (Look κ)) (result : Except ForwardError (List UInt8)) :
    Prop :=
  (tr.filter (fun s => !Look.isSleep s)).takeWhile (fun s => !Look.isLoad s) = [] ∧
    (∀ a ∈ (attempts tr).dropLast, Exhausted req a) ∧
    ∀ a, (attempts tr).getLast? = some a → Exhausted req a ∨ Stopped req a result

theorem attempts_load {view : View κ} {snapshot : RoutingSnapshot} {tr tr' : List (Look κ)}
    (hquiet : ∀ s : Look κ, s ∈ tr → s.isLoad = false ∧ s.isSleep = false)
    (hstart : (tr'.filter (fun s => !Look.isSleep s)).takeWhile (fun s => !Look.isLoad s) = []) :
    attempts (⟨view, .loadRouting, snapshot⟩ :: (tr ++ tr')) =
      (⟨view, .loadRouting, snapshot⟩, tr) :: attempts tr' := by
  have hfilter : tr.filter (fun s => !Look.isSleep s) = tr := by
    apply List.filter_eq_self.mpr
    intro s hs
    rw [(hquiet s hs).2]
    rfl
  unfold attempts
  rw [List.filter_cons_of_pos rfl, List.filter_append, hfilter, ← List.cons_append,
    episodes_append Look.isLoad hstart,
    episodes_cons Look.isLoad rfl (fun s hs => (hquiet s hs).1)]
  rfl

theorem callTrace_load {view : View κ} {snapshot : RoutingSnapshot} {tr tr' : List (Look κ)}
    {result : Except ForwardError (List UInt8)}
    (hquiet : ∀ s : Look κ, s ∈ tr → s.isLoad = false ∧ s.isSleep = false)
    (h : CallTrace req tr' result)
    (hfirst : Exhausted req (⟨view, .loadRouting, snapshot⟩, tr) ∨
      attempts tr' = [] ∧ Stopped req (⟨view, .loadRouting, snapshot⟩, tr) result) :
    CallTrace req (⟨view, .loadRouting, snapshot⟩ :: (tr ++ tr')) result := by
  obtain ⟨hstart, hbefore, hlast⟩ := h
  have hattempts := @attempts_load κ view snapshot tr tr' hquiet hstart
  refine ⟨rfl, ?_, ?_⟩
  · rw [hattempts]
    intro a ha
    cases hrest : attempts tr' with
    | nil =>
      rw [hrest] at ha
      exact absurd ha List.not_mem_nil
    | cons b bs =>
      rw [hrest, List.dropLast_cons_cons] at ha
      rcases List.mem_cons.mp ha with rfl | ha
      · apply hfirst.resolve_right
        rintro ⟨hnil, -⟩
        rw [hrest] at hnil
        cases hnil
      · rw [← hrest] at ha
        exact hbefore a ha
  · rw [hattempts]
    intro a ha
    cases hrest : attempts tr' with
    | nil =>
      rw [hrest] at ha
      cases ha
      exact hfirst.imp id (fun h => h.2)
    | cons b bs =>
      rw [hrest, List.getLast?_cons_cons, ← hrest] at ha
      exact hlast a ha

theorem callTrace_nil (result : Except ForwardError (List UInt8)) :
    CallTrace (κ := κ) req [] result :=
  ⟨rfl, fun _ ha => absurd ha List.not_mem_nil, fun a ha => by cases ha⟩

theorem shows_forwardAttempts (maxRetries remaining attempt : Nat) {st : ForwardState}
    (hlen : st.frame.length = req.frame.length) :
    Shows View.Answers (CallTrace (κ := κ) req)
      (forwardAttempts maxRetries req remaining attempt st) := by
  induction remaining generalizing attempt st with
  | zero =>
    apply shows_pure
    exact callTrace_nil _
  | succ remaining ih =>
    apply shows_perform_bind
    intro view snapshot hsnapshot
    change snapshot = view.routing at hsnapshot
    subst hsnapshot
    simp only
    split
    · rename_i hnil
      apply shows_pure
      have hempty : Exhausted req ((⟨view, .loadRouting, view.routing⟩ : Look κ), []) := by
        refine ⟨?_, fun _ hv => absurd hv List.not_mem_nil⟩
        show [] = (view.routing.lookup req.segment).rotate _
        rw [hnil]
        rfl
      exact @callTrace_load κ req view view.routing [] [] _
        (fun _ hs => absurd hs List.not_mem_nil) (callTrace_nil _) (Or.inl hempty)
    · rename_i hne
      refine shows_bind (shows_tryHops hlen _) (fun tr turn hattempt => ?_)
      obtain ⟨hquiet, -, hend⟩ := hattempt
      rw [attemptOrder_eq_rotate] at hend
      cases turn with
      | done result =>
        apply shows_pure
        exact callTrace_load hquiet (callTrace_nil _) (Or.inr ⟨rfl, hend⟩)
      | next st' =>
        have hfirst : Exhausted req (⟨view, .loadRouting, view.routing⟩, tr) := hend.2
        simp only
        split
        · apply shows_pure
          exact callTrace_load hquiet (callTrace_nil _) (Or.inl hfirst)
        · split
          · apply shows_pure
            exact callTrace_load hquiet (callTrace_nil _) (Or.inl hfirst)
          · apply shows_perform_bind
            intro w _ _
            refine shows_mono (ih (attempt + 1) hend.1) (fun tr' result h => ?_)
            -- a sleep belongs to no attempt
            have hrest : CallTrace req ((⟨w, .sleep (50 * (attempt + 1)), ()⟩ : Look κ) :: tr')
                result := h
            exact callTrace_load hquiet hrest (Or.inl hfirst)

/-- The requests that the table or the forwarder itself answers. -/
def AnsweredLocally (req : Request) (result : Except ForwardError (List UInt8)) : Prop :=
  (req.segment = GETSEGMENTS ∨ req.segment = GETCODECS) ∧ ∃ response, result = .ok response

theorem attempts_ne_nil {maxRetries remaining attempt : Nat} {st : ForwardState}
    {tr : List (Look κ)} {result : Except ForwardError (List UInt8)}
    (hplays : Plays View.Answers (forwardAttempts maxRetries req (remaining + 1) attempt st) tr
      result) : attempts tr ≠ [] := by
  unfold forwardAttempts at hplays
  change Plays View.Answers (.op .loadRouting _) tr result at hplays
  cases hplays with
  | op hr hk =>
    unfold attempts
    rw [List.filter_cons_of_pos rfl]
    exact List.cons_ne_nil _ _

theorem ne_networkError_of_stopped {a : Attempt κ} {result : Except ForwardError (List UInt8)}
    (h : Stopped req a result) : result ≠ .error .networkError := by
  obtain ⟨-, -, v, -, -, hends⟩ := h
  rintro rfl
  rcases hends with ⟨response, -, hresult⟩ | ⟨-, -, -, hresult⟩ | ⟨-, hresult⟩ <;> cases hresult

/-- What a call visits until it returns. -/
def VisitsHops (req : Request) (tr : List (Look κ)) (result : Except ForwardError (List UInt8)) :
    Prop :=
  (∀ a ∈ (attempts tr).dropLast, Exhausted req a) ∧
    (∀ a, (attempts tr).getLast? = some a → Exhausted req a ∨ Stopped req a result) ∧
    (result = .error .networkError → ∃ a, (attempts tr).getLast? = some a ∧ Exhausted req a)

theorem visitsHops_of_plays {maxRetries : Nat} (hretries : 1 ≤ maxRetries) {tr : List (Look κ)}
    {result : Except ForwardError (List UInt8)}
    (hplays : Plays View.Answers (forwardAttempts maxRetries req maxRetries 0 ⟨req.frame, false⟩)
      tr result) : VisitsHops req tr result := by
  obtain ⟨-, hbefore, hlast⟩ := shows_forwardAttempts _ _ _ rfl _ _ hplays
  refine ⟨hbefore, hlast, fun hnetwork => ?_⟩
  obtain ⟨n, hn⟩ := Nat.exists_eq_add_of_le' hretries
  subst hn
  have hsome := List.getLast?_eq_some_getLast (attempts_ne_nil hplays)
  refine ⟨_, hsome, (hlast _ hsome).resolve_right ?_⟩
  exact fun hstopped => ne_networkError_of_stopped hstopped hnetwork

theorem shows_forward (fw : Forwarder) (hretries : 1 ≤ fw.maxRetries) :
    Shows View.Answers
      (fun (tr : List (Look κ)) result => AnsweredLocally req result ∨ VisitsHops req tr result)
      (fw.forward req) := by
  unfold Forwarder.forward
  split
  · rename_i hsegment
    apply shows_perform_bind
    intro view snapshot _
    apply shows_perform_bind
    intro view' keys _
    apply shows_pure
    exact Or.inl ⟨Or.inl hsegment, _, rfl⟩
  · simp only
    split
    · rename_i hsegment
      apply shows_pure
      exact Or.inl ⟨Or.inr hsegment, _, rfl⟩
    · exact fun tr result hplays => Or.inr (visitsHops_of_plays hretries hplays)

/-- Whatever a call sees at its looks, every attempt but the last visits the whole list of its
table, in cyclic order from the client's clrid on, and each visit of it fails; the last attempt does
so too, or it ends at a hop of the list with a response, with a write that failed after it was sent
or whose id was refused, or because the frame has no room for a clrid.  `NetworkError` is only
returned when the last attempt has visited the whole list in vain.  And a set of connections, taken
as it is, gives no connection exactly if all are closed, unless the cursor overflows. -/
theorem forward_visits (fw : Forwarder) (req : Request) (tr : List (Look κ))
    (result : Except ForwardError (List UInt8)) (hretries : 1 ≤ fw.maxRetries)
    (hplays : Plays View.Answers (fw.forward req) tr result) :
    (AnsweredLocally req result ∨ VisitsHops req tr result) ∧
      ∀ (connections : List κ) (closed : κ → Bool) (rr : Nat),
        rr + connections.length ≤ usizeCount →
          ((Hop.nextConnection connections (fun _ => closed) rr).2 = none ↔
            ∀ conn ∈ connections, closed conn = true) :=
  ⟨shows_forward fw hretries tr result hplays,
    fun _ closed _ hfits => ConnectionSet.pick_eq_none_iff closed hfits⟩

end Visits

/-! ## Calls that stop at the first of two hops -/

def twoRouters : RoutingSnapshot :=
  .edge
    { segmentToZone := (∅ : FiniteMap String String).insert "paris" "a"
      zoneToRouters := (∅ : FiniteMap String (List String)).insert "a" ["router-a", "router-b"] }

/-- Both routers are registered, each with a connection that is open. -/
def bothUp : View Unit where
  routing := twoRouters
  hops := (HopManager.new.getOrCreate "router-a").getOrCreate "router-b"
  connections := fun _ => [()]
  rr := fun _ => 0
  closed := fun _ _ => false
  staysClosed := fun _ _ h => h

/-- A frame that ends before its clrid. -/
def shortRequest : Request where
  frame := [0xFE]
  segment := "paris"
  clridOffset := 13
  originalClrid := 0
  isWrite := false

def smallWrite : Request where
  frame := [0, 0, 0, 0]
  segment := "paris"
  clridOffset := 0
  originalClrid := 0
  isWrite := true

def noneUp : View Unit := { bothUp with hops := HopManager.new }

/-- Nothing is registered: the only attempt visits both hops. -/
theorem forward_visits_unregistered :
    VisitsHops shortRequest
      [⟨noneUp, .loadRouting, twoRouters⟩, ⟨noneUp, .getHop "router-a", none⟩,
        ⟨noneUp, .getHop "router-b", none⟩] (.error .networkError) := by
  have hplays : Plays View.Answers (Forwarder.forward ⟨1, []⟩ shortRequest)
      [⟨noneUp, .loadRouting, twoRouters⟩, ⟨noneUp, .getHop "router-a", none⟩,
        ⟨noneUp, .getHop "router-b", none⟩] (.error .networkError) := by
    apply Plays.op rfl
    change Plays View.Answers (.op (.getHop "router-a") _) _ _
    apply Plays.op rfl
    change Plays View.Answers (.op (.getHop "router-b") _) _ _
    apply Plays.op rfl
    exact Plays.ret _
  have hvisits := forward_visits ⟨1, []⟩ shortRequest _ (.error .networkError) (by decide) hplays
  apply hvisits.1.resolve_left
  rintro ⟨-, response, hok⟩
  cases hok

/-- A read whose frame is too short, and a write whose correlation id is in use: neither is sent,
there is no response, and the second hop is not visited. -/
theorem attempts_that_stop :
    (∃ tr, Plays View.Answers (Forwarder.forward ⟨3, []⟩ shortRequest) tr
        (.error (.internal "frame too short for CLRID")) ∧
      (attempts tr).map (fun a => (Attempt.visited a, Attempt.order shortRequest a)) =
        [(["router-a"], ["router-a", "router-b"])] ∧
      NoResponse tr ∧ ∀ s : Look Unit, s ∈ tr → s.isSent = false) ∧
    ∃ tr, Plays View.Answers (Forwarder.forward ⟨3, []⟩ smallWrite) tr (.error .timeout) ∧
      (attempts tr).map (fun a => (Attempt.visited a, Attempt.order smallWrite a)) =
        [(["router-a"], ["router-a", "router-b"])] ∧
      NoResponse tr ∧ ∀ s : Look Unit, s ∈ tr → s.isSent = false := by
  constructor
  · refine ⟨[⟨bothUp, .loadRouting, twoRouters⟩, ⟨bothUp, .getHop "router-a", some ⟨"router-a", 0⟩⟩,
      ⟨bothUp, .nextConnection ⟨"router-a", 0⟩, some ()⟩, ⟨bothUp, .isClosed (), false⟩,
      ⟨bothUp, .nextCorrId (), 1⟩], ?_, rfl, ?_, ?_⟩
    · apply Plays.op rfl
      change Plays View.Answers (.op (.getHop "router-a") _) _ _
      apply Plays.op rfl
      change Plays View.Answers (.op (.nextConnection _) _) _ _
      apply Plays.op rfl
      change Plays View.Answers (.op (.isClosed ()) _) _ _
      apply Plays.op rfl
      change Plays View.Answers (.op (.nextCorrId ()) _) _ _
      apply Plays.op trivial
      exact Plays.ret _
    · simp [NoResponse, Look.response?]
    · simp [Look.isSent]
  · refine ⟨[⟨bothUp, .loadRouting, twoRouters⟩, ⟨bothUp, .getHop "router-a", some ⟨"router-a", 0⟩⟩,
      ⟨bothUp, .nextConnection ⟨"router-a", 0⟩, some ()⟩, ⟨bothUp, .isClosed (), false⟩,
      ⟨bothUp, .nextCorrId (), 1⟩, ⟨bothUp, .isClosed (), false⟩,
      ⟨bothUp, .newChannel () 1, (0 : Nat)⟩, ⟨bothUp, .now, (0 : Nat)⟩,
      ⟨bothUp, .insert () 1 0 0, false⟩], ?_, rfl, ?_, ?_⟩
    · apply Plays.op rfl
      change Plays View.Answers (.op (.getHop "router-a") _) _ _
      apply Plays.op rfl
      change Plays View.Answers (.op (.nextConnection _) _) _ _
      apply Plays.op rfl
      change Plays View.Answers (.op (.isClosed ()) _) _ _
      apply Plays.op rfl
      change Plays View.Answers (.op (.nextCorrId ()) _) _ _
      apply Plays.op trivial
      change Plays View.Answers (.op (.isClosed ()) _) _ _
      apply Plays.op rfl
      change Plays View.Answers (.op (.newChannel () 1) _) _ _
      apply Plays.op trivial
      change Plays View.Answers (.op .now _) _ _
      apply Plays.op trivial
      change Plays View.Answers (.op (.insert () 1 0 0) _) _ _
      apply Plays.op trivial
      exact Plays.ret _
    · simp [NoResponse, Look.response?]
    · simp [Look.isSent]

end RzRouter
