import Mathlib.Tactic.Linarith
import RzRouter.Network.Failover

/-!
# How long a forward call can take

A call blocks the client's connection while it waits for a response and while it sleeps between two
attempts.  Here is how often it can do so, whatever it sees at its looks.
-/

namespace RzRouter

open LittleEndian Program

section Measures

variable {κ : Type}

def Look.isWait (s : Look κ) : Bool :=
  match s.op with
  | .wait _ => true
  | _ => false

/-- A wait that ends with a time-out. -/
def Look.isElapsed : Look κ → Bool
  | ⟨_, .wait _, .elapsed⟩ => true
  | ⟨_, .wait _, .failed .timeout⟩ => true
  | _ => false

def Look.slept (s : Look κ) : Nat :=
  match s.op with
  | .sleep ms => ms
  | _ => 0

/-- The number of hop ids that a table lists for the segment of the request. -/
def Look.listed (req : Request) : Look κ → Nat
  | ⟨_, .loadRouting, snapshot⟩ => (snapshot.lookup req.segment).length
  | _ => 0

end Measures

namespace Effort

variable {κ : Type}

/-- How many tables the call loads. -/
def loads (tr : List (Look κ)) : Nat := tr.countP Look.isLoad

/-- How many responses the call waits for. -/
def waits (tr : List (Look κ)) : Nat := tr.countP Look.isWait

/-- How many of them do not come in time. -/
def timeouts (tr : List (Look κ)) : Nat := tr.countP Look.isElapsed

/-- The milliseconds that the call sleeps. -/
def slept (tr : List (Look κ)) : Nat := (tr.map Look.slept).sum

/-- The number of hop ids in the tables that the call loads, for its segment. -/
def listed (req : Request) (tr : List (Look κ)) : Nat := (tr.map (Look.listed req)).sum

variable {req : Request}

/-! ## One hop -/

/-- What `send_and_wait` costs. -/
def SendEffort (tr : List (Look κ)) (result : Except RZError (List UInt8)) : Prop :=
  waits tr ≤ 1 ∧ (timeouts tr = 0 ∨ timeouts tr = 1 ∧ result = .error .timeout)

theorem sendEffort_sendAndWait (conn : κ) (frame : List UInt8) (id : UInt32) :
    Shows View.Answers SendEffort (sendAndWait conn frame id) := by
  unfold sendAndWait
  apply shows_perform_bind
  intro w₁ closed _
  cases closed with
  | true =>
    apply shows_pure
    exact ⟨Nat.zero_le 1, Or.inl rfl⟩
  | false =>
    apply shows_perform_bind
    intro w₂ tx _
    apply shows_perform_bind
    intro w₃ sentAt _
    apply shows_perform_bind
    intro w₄ inserted _
    cases inserted with
    | false =>
      apply shows_pure
      exact ⟨Nat.zero_le 1, Or.inl rfl⟩
    | true =>
      apply shows_perform_bind
      intro w₅ accepted _
      cases accepted with
      | false =>
        apply shows_perform_bind
        intro w₆ _ _
        apply shows_pure
        exact ⟨Nat.zero_le 1, Or.inl rfl⟩
      | true =>
        apply shows_perform_bind
        intro w₆ answer _
        cases answer with
        | received response =>
          apply shows_pure
          exact ⟨Nat.le_refl 1, Or.inl rfl⟩
        | failed e =>
          cases e with
          | timeout =>
            apply shows_pure
            exact ⟨Nat.le_refl 1, Or.inr ⟨rfl, rfl⟩⟩
          | connectionClosed =>
            apply shows_pure
            exact ⟨Nat.le_refl 1, Or.inl rfl⟩
        | dropped =>
          apply shows_pure
          exact ⟨Nat.le_refl 1, Or.inl rfl⟩
        | elapsed =>
          apply shows_perform_bind
          intro w₇ _ _
          apply shows_pure
          exact ⟨Nat.le_refl 1, Or.inr ⟨rfl, rfl⟩⟩

/-- What the visits of `n` hops cost; a write ends with its first time-out. -/
def HopsEffort (req : Request) (n : Nat) (tr : List (Look κ)) (turn : Turn) : Prop :=
  waits tr ≤ n ∧
    (req.isWrite = true →
      timeouts tr = 0 ∨ timeouts tr = 1 ∧ turn = .done (.error .timeout))

theorem hopsEffort_nil (n : Nat) (turn : Turn) : HopsEffort (κ := κ) req n [] turn :=
  ⟨Nat.zero_le n, fun _ => Or.inl rfl⟩

theorem waits_append (tr tr' : List (Look κ)) : waits (tr ++ tr') = waits tr + waits tr' :=
  List.countP_append

theorem timeouts_append (tr tr' : List (Look κ)) :
    timeouts (tr ++ tr') = timeouts tr + timeouts tr' := List.countP_append

/-- A visit goes on after its response has not come: it closes the connection. -/
theorem hopsEffort_close {tr : List (Look κ)} (hwaits : waits tr ≤ 1)
    (htimeouts : req.isWrite = true → timeouts tr = 0) (w : View κ) (conn : κ)
    (st : ForwardState) : HopsEffort req 1 (tr ++ [⟨w, .close conn, ()⟩]) (.next st) := by
  refine ⟨?_, fun hwrite => Or.inl ?_⟩
  · rw [waits_append]
    exact hwaits
  · rw [timeouts_append]
    exact htimeouts hwrite

theorem hopsEffort_answer {tr : List (Look κ)} {result : Except RZError (List UInt8)}
    (h : SendEffort tr result) (conn : κ) (frame : List UInt8) (requestSent : Bool) :
    Shows View.Answers (fun tr' turn => HopsEffort req 1 (tr ++ tr') turn)
      (match result with
        | .ok response => pure (.done (.ok (restoreClrid response req.originalClrid)))
        | .error .connectionClosed => do
          ForwardM.close conn
          pure (.next ⟨frame, requestSent⟩)
        | .error _ =>
          if req.isWrite then pure (.done (.error .timeout)) else do
            ForwardM.close conn
            pure (.next ⟨frame, true⟩)) := by
  obtain ⟨hwaits, htimeouts⟩ := h
  cases result with
  | ok response =>
    apply shows_pure
    rw [List.append_nil]
    refine ⟨hwaits, fun _ => Or.inl ?_⟩
    rcases htimeouts with hnone | ⟨-, hresult⟩
    · exact hnone
    · cases hresult
  | error e =>
    have hfailed : Shows View.Answers (fun tr' turn => HopsEffort req 1 (tr ++ tr') turn)
        (if req.isWrite = true then pure (.done (.error .timeout)) else do
          ForwardM.close conn
          pure (.next ⟨frame, true⟩)) := by
      split
      · apply shows_pure
        rw [List.append_nil]
        exact ⟨hwaits, fun _ => htimeouts.imp_right (fun htimeout => ⟨htimeout.1, rfl⟩)⟩
      · rename_i hread
        apply shows_perform_bind
        intro w _ _
        apply shows_pure
        exact hopsEffort_close hwaits (fun hwrite => absurd hwrite hread) w conn _
    cases e with
    | connectionClosed =>
      apply shows_perform_bind
      intro w _ _
      apply shows_pure
      refine hopsEffort_close hwaits (fun _ => ?_) w conn _
      rcases htimeouts with hnone | ⟨-, hresult⟩
      · exact hnone
      · cases hresult
    | _ => exact hfailed

theorem hopsEffort_tryHop (st : ForwardState) (hopId : String) :
    Shows View.Answers (HopsEffort (κ := κ) req 1) (tryHop req st hopId) := by
  unfold tryHop
  apply shows_perform_bind
  intro view hop _
  cases hop with
  | none =>
    apply shows_pure
    exact hopsEffort_nil (κ := κ) 1 _
  | some hop =>
    apply shows_perform_bind
    intro view' conn _
    cases conn with
    | none =>
      apply shows_perform_bind
      intro view'' _ _
      apply shows_pure
      exact hopsEffort_nil (κ := κ) 1 _
    | some conn =>
      apply shows_perform_bind
      intro w₁ closed _
      cases closed with
      | true =>
        apply shows_pure
        exact hopsEffort_nil (κ := κ) 1 _
      | false =>
        apply shows_perform_bind
        intro w₂ newClrid _
        simp only
        split
        · apply shows_pure
          exact hopsEffort_nil (κ := κ) 1 _
        · refine shows_bind (sendEffort_sendAndWait conn _ newClrid) (fun tr result hsend => ?_)
          have hanswer := @hopsEffort_answer κ req tr result hsend conn
            (overwrite st.frame req.clridOffset (u32Bytes newClrid)) st.requestSent
          cases result with
          | ok response => exact hanswer
          | error e => cases e <;> exact hanswer

/-- A response that has not come leaves the next hops their waits. -/
theorem hopsEffort_append {n : Nat} {tr tr' : List (Look κ)} {st : ForwardState} {turn : Turn}
    (h : HopsEffort req 1 tr (.next st)) (h' : HopsEffort req n tr' turn) :
    HopsEffort req (n + 1) (tr ++ tr') turn := by
  refine ⟨?_, fun hwrite => ?_⟩
  · have hwaits := h.1
    have hwaits' := h'.1
    rw [waits_append]
    omega
  · rw [timeouts_append]
    rcases h.2 hwrite with hnone | ⟨-, hturn⟩
    · rw [hnone, Nat.zero_add]
      exact h'.2 hwrite
    · cases hturn

theorem hopsEffort_tryHops (order : List String) (st : ForwardState) :
    Shows View.Answers (HopsEffort (κ := κ) req order.length) (tryHops req order st) := by
  induction order generalizing st with
  | nil =>
    apply shows_pure
    exact hopsEffort_nil 0 _
  | cons hopId order ih =>
    refine shows_bind (hopsEffort_tryHop st hopId) (fun tr turn hfirst => ?_)
    cases turn with
    | done result =>
      apply shows_pure
      rw [List.append_nil]
      exact ⟨hfirst.1.trans (Nat.le_add_left 1 _), hfirst.2⟩
    | next st' => exact shows_mono (ih st') (fun tr' turn' hrest => hopsEffort_append hfirst hrest)

/-! ## All attempts -/

/-- A trace that loads no table and does not sleep. -/
structure StaysInAttempt (req : Request) (tr : List (Look κ)) : Prop where
  loads : loads tr = 0
  slept : slept tr = 0
  listed : listed req tr = 0

theorem quiet_of_forall {tr : List (Look κ)}
    (h : ∀ s : Look κ, s ∈ tr → s.isLoad = false ∧ s.isSleep = false) : StaysInAttempt req tr := by
  refine ⟨?_, ?_, ?_⟩
  · apply List.countP_eq_zero.mpr
    intro s hs
    rw [(h s hs).1]
    exact Bool.false_ne_true
  · apply List.sum_eq_zero
    intro ms hms
    obtain ⟨⟨view, o, answer⟩, hs, rfl⟩ := List.mem_map.mp hms
    have hsleep := (h _ hs).2
    cases o with
    | sleep ms => cases hsleep
    | _ => rfl
  · apply List.sum_eq_zero
    intro n hn
    obtain ⟨⟨view, o, answer⟩, hs, rfl⟩ := List.mem_map.mp hn
    have hload := (h _ hs).1
    cases o with
    | loadRouting => cases hload
    | _ => rfl

/-- What the attempts from number `attempt` on cost: `n` attempts after the first one, with a sleep
before each of them. -/
structure CallEffort (req : Request) (maxRetries attempt : Nat) (tr : List (Look κ))
    (result : Except ForwardError (List UInt8)) : Prop where
  attempts : ∃ n, loads tr = n + 1 ∧ attempt + n < maxRetries ∧
    slept tr + 25 * (attempt * (attempt + 1)) = 25 * ((attempt + n) * (attempt + n + 1)) ∧
    (result = .error .networkError → attempt + n + 1 = maxRetries)
  waits : waits tr ≤ listed req tr
  timeouts : req.isWrite = true →
    timeouts tr = 0 ∨ timeouts tr = 1 ∧ result = .error .timeout

variable {maxRetries attempt : Nat} {view : View κ} {snapshot : RoutingSnapshot}
  {tr tr' : List (Look κ)} {result : Except ForwardError (List UInt8)}

/-- The call returns in the attempt. -/
theorem callEffort_last {turn : Turn} (hquiet : StaysInAttempt req tr)
    (hhops : HopsEffort req (snapshot.lookup req.segment).length tr turn)
    (hturn : turn = .done (.error .timeout) → result = .error .timeout)
    (hleft : attempt < maxRetries)
    (hlast : result = .error .networkError → attempt + 1 = maxRetries) :
    CallEffort req maxRetries attempt (⟨view, .loadRouting, snapshot⟩ :: tr) result := by
  refine ⟨⟨0, ?_, hleft, ?_, hlast⟩, ?_, fun hwrite => ?_⟩
  · show loads (_ :: tr) = 0 + 1
    unfold loads
    rw [List.countP_cons_of_pos rfl]
    exact congrArg (· + 1) hquiet.loads
  · show 0 + slept tr + _ = _
    rw [hquiet.slept]
    simp only [Nat.add_zero, Nat.zero_add]
  · show waits tr ≤ (snapshot.lookup req.segment).length + listed req tr
    have hwaits := hhops.1
    omega
  · exact (hhops.2 hwrite).imp_right (fun htimeout => ⟨htimeout.1, hturn htimeout.2⟩)

/-- The call sleeps after the attempt and makes another one. -/
theorem callEffort_sleep {st : ForwardState} (hquiet : StaysInAttempt req tr)
    (hhops : HopsEffort req (snapshot.lookup req.segment).length tr (.next st)) (w : View κ)
    (h : CallEffort req maxRetries (attempt + 1) tr' result) :
    CallEffort req maxRetries attempt
      (⟨view, .loadRouting, snapshot⟩ :: (tr ++ ⟨w, .sleep (50 * (attempt + 1)), ()⟩ :: tr'))
      result := by
  obtain ⟨n, hloads, hless, hslept, hlast⟩ := h.attempts
  refine ⟨⟨n + 1, ?_, by omega, ?_, fun hnetwork => ?_⟩, ?_, fun hwrite => ?_⟩
  · show loads (_ :: (tr ++ _ :: tr')) = n + 1 + 1
    have hfirst := hquiet.loads
    unfold loads at hloads hfirst ⊢
    rw [List.countP_cons_of_pos rfl, List.countP_append, List.countP_cons_of_neg Bool.false_ne_true,
      hfirst, Nat.zero_add, hloads]
  · have hsum : slept (⟨view, .loadRouting, snapshot⟩ ::
        (tr ++ ⟨w, .sleep (50 * (attempt + 1)), ()⟩ :: tr')) =
          50 * (attempt + 1) + slept tr' := by
      show 0 + slept (tr ++ _ :: tr') = _
      have hfirst := hquiet.slept
      unfold slept at hfirst ⊢
      rw [List.map_append, List.sum_append, hfirst, Nat.zero_add, Nat.zero_add]
      rfl
    rw [hsum]
    -- the sleeps make a triangular number
    linarith
  · have hall := hlast hnetwork
    omega
  · show waits (tr ++ _ :: tr') ≤ (snapshot.lookup req.segment).length + listed req (tr ++ _ :: tr')
    have hfirst := hhops.1
    have hrest := h.waits
    have hmore : listed req tr' ≤ listed req (tr ++ (⟨w, .sleep (50 * (attempt + 1)), ()⟩ :
        Look κ) :: tr') := by
      unfold listed
      rw [List.map_append, List.sum_append]
      exact Nat.le_trans (Nat.le_of_eq (Nat.zero_add _).symm) (Nat.le_add_left _ _)
    rw [waits_append]
    show waits tr + waits tr' ≤ _
    omega
  · show timeouts (tr ++ _ :: tr') = 0 ∨ timeouts (tr ++ _ :: tr') = 1 ∧ _
    rw [timeouts_append]
    show timeouts tr + timeouts tr' = 0 ∨ timeouts tr + timeouts tr' = 1 ∧ _
    rcases hhops.2 hwrite with hnone | ⟨-, hturn⟩
    · rw [hnone, Nat.zero_add]
      exact h.timeouts hwrite
    · cases hturn

theorem length_attemptOrder (hopIds : List String) (hne : hopIds ≠ []) (clrid : UInt32) :
    (attemptOrder hopIds hne clrid).length = hopIds.length := by
  unfold attemptOrder
  rw [List.length_map, List.length_range]

theorem callEffort_forwardAttempts (remaining : Nat) {st : ForwardState}
    (hlen : st.frame.length = req.frame.length) (hleft : attempt + remaining = maxRetries)
    (hsome : 0 < remaining) :
    Shows View.Answers (CallEffort (κ := κ) req maxRetries attempt)
      (forwardAttempts maxRetries req remaining attempt st) := by
  induction remaining generalizing attempt st with
  | zero => exact absurd hsome (Nat.lt_irrefl 0)
  | succ remaining ih =>
    have hless : attempt < maxRetries := by omega
    apply shows_perform_bind
    intro view snapshot hsnapshot
    change snapshot = view.routing at hsnapshot
    subst hsnapshot
    simp only
    split
    · apply shows_pure
      refine callEffort_last (quiet_of_forall (fun _ hs => absurd hs List.not_mem_nil))
        (hopsEffort_nil _ (.done (.error (.unknownSegment req.segment)))) ?_ hless ?_
      · intro hturn
        cases hturn
      · intro hresult
        cases hresult
    · rename_i hne
      refine shows_bind (shows_and (shows_tryHops hlen _) (hopsEffort_tryHops _ st))
        (fun tr turn hattempt => ?_)
      obtain ⟨⟨hcalm, -, hend⟩, hhops⟩ := hattempt
      rw [length_attemptOrder] at hhops
      rw [attemptOrder_eq_rotate] at hend
      have hquiet : StaysInAttempt req tr := quiet_of_forall hcalm
      cases turn with
      | done result =>
        have hstopped : Stopped req (⟨view, .loadRouting, view.routing⟩, tr) result := hend
        apply shows_pure
        rw [List.append_nil]
        refine callEffort_last hquiet hhops ?_ hless ?_
        · intro hturn
          exact Turn.done.inj hturn
        · exact fun hnetwork => absurd hnetwork (ne_networkError_of_stopped hstopped)
      | next st' =>
        have hnext : ∀ result : Except ForwardError (List UInt8),
            Turn.next st' = .done (.error .timeout) → result = .error .timeout := by
          intro result hturn
          cases hturn
        simp only
        split
        · apply shows_pure
          rw [List.append_nil]
          refine callEffort_last hquiet hhops (hnext _) hless ?_
          intro hresult
          cases hresult
        · split
          · rename_i hlast
            apply shows_pure
            rw [List.append_nil]
            refine callEffort_last hquiet hhops (hnext _) hless ?_
            intro _
            omega
          · rename_i hmore
            apply shows_perform_bind
            intro w _ _
            refine shows_mono (ih hend.1 (by omega) (by omega)) (fun tr' result h => ?_)
            exact callEffort_sleep hquiet hhops w h

/-- What a call costs. -/
structure ForwardEffort (fw : Forwarder) (req : Request) (tr : List (Look κ))
    (result : Except ForwardError (List UInt8)) : Prop where
  /-- Every attempt loads the table once. -/
  loads : req.segment ≠ GETSEGMENTS → loads tr ≤ fw.maxRetries
  /-- A GETSEGMENTS request loads it once and makes no attempt. -/
  loadsOnce : req.segment = GETSEGMENTS → Effort.loads tr = 1
  /-- The call gives up after `max_retries` attempts, not before. -/
  givesUp : result = .error .networkError → Effort.loads tr = fw.maxRetries
  /-- It sleeps 50 ms after the first attempt, 100 ms after the second one, and so on. -/
  slept : slept tr = 25 * (Effort.loads tr * (Effort.loads tr - 1))
  /-- At most one response is waited for at every hop that is listed. -/
  waits : waits tr ≤ listed req tr
  /-- A write waits in vain at most once. -/
  timeouts : req.isWrite = true → timeouts tr = 0 ∨ timeouts tr = 1 ∧ result = .error .timeout

theorem forwardEffort_of_callEffort {fw : Forwarder} (hsegment : req.segment ≠ GETSEGMENTS)
    (h : CallEffort req fw.maxRetries 0 tr result) : ForwardEffort fw req tr result := by
  obtain ⟨n, hloads, hless, hslept, hlast⟩ := h.attempts
  rw [Nat.zero_add] at hless
  refine ⟨fun _ => ?_, fun hsame => absurd hsame hsegment, fun hnetwork => ?_, ?_, h.waits,
    h.timeouts⟩
  · omega
  · have hall := hlast hnetwork
    omega
  · rw [hloads, Nat.add_sub_cancel]
    linarith

/-- A call that is answered by the router itself neither sleeps nor waits. -/
theorem forwardEffort_local (fw : Forwarder) {response : List UInt8}
    (hloads : loads tr = if req.segment = GETSEGMENTS then 1 else 0)
    (hslept : slept tr = 0) (hwaits : waits tr = 0) (htimeouts : timeouts tr = 0) :
    ForwardEffort fw req tr (.ok response) := by
  refine ⟨fun hsegment => ?_, fun hsegment => ?_, fun hnetwork => ?_, ?_, ?_,
    fun _ => Or.inl htimeouts⟩
  · rw [hloads, if_neg hsegment]
    exact Nat.zero_le _
  · rw [hloads, if_pos hsegment]
  · cases hnetwork
  · have hnone : loads tr * (loads tr - 1) = 0 := by
      rw [hloads]
      split <;> rfl
    rw [hslept, hnone]
  · rw [hwaits]
    exact Nat.zero_le _

/-- The effort of a call is bounded, whatever it sees at its looks. -/
theorem forward_effort (fw : Forwarder) (req : Request) (tr : List (Look κ))
    (result : Except ForwardError (List UInt8))
    (hplays : Plays View.Answers (fw.forward req) tr result) :
    ForwardEffort fw req tr result := by
  have hshows : Shows View.Answers (ForwardEffort (κ := κ) fw req) (fw.forward req) := by
    unfold Forwarder.forward
    split
    · rename_i hsegment
      apply shows_perform_bind
      intro view snapshot _
      apply shows_perform_bind
      intro view' keys _
      apply shows_pure
      exact forwardEffort_local fw (if_pos hsegment).symm rfl rfl rfl
    · rename_i hsegment
      simp only
      split
      · apply shows_pure
        exact @forwardEffort_local κ req [] fw _ (if_neg hsegment).symm rfl rfl rfl
      · cases hretries : fw.maxRetries with
        | zero =>
          apply shows_pure
          exact ⟨fun _ => Nat.zero_le _, fun hsame => absurd hsame hsegment,
            fun _ => hretries.symm, rfl, Nat.le_refl 0, fun _ => Or.inl rfl⟩
        | succ n =>
          rw [← hretries]
          refine shows_mono (callEffort_forwardAttempts fw.maxRetries rfl (Nat.zero_add _) ?_)
            (fun tr result h => forwardEffort_of_callEffort hsegment h)
          omega
  exact hshows tr result hplays

/-- Two attempts find no hop registered: fifty milliseconds, and no wait. -/
theorem forward_effort_unregistered :
    ∃ tr : List (Look Unit),
      Plays View.Answers (Forwarder.forward ⟨2, []⟩ shortRequest) tr (.error .networkError) ∧
      loads tr = 2 ∧ slept tr = 50 ∧ waits tr ≤ 4 := by
  have hplays : Plays View.Answers (Forwarder.forward ⟨2, []⟩ shortRequest)
      [⟨noneUp, .loadRouting, twoRouters⟩, ⟨noneUp, .getHop "router-a", none⟩,
        ⟨noneUp, .getHop "router-b", none⟩, ⟨noneUp, .sleep 50, ()⟩,
        ⟨noneUp, .loadRouting, twoRouters⟩, ⟨noneUp, .getHop "router-a", none⟩,
        ⟨noneUp, .getHop "router-b", none⟩] (.error .networkError) := by
    apply Plays.op rfl
    change Plays View.Answers (.op (.getHop "router-a") _) _ _
    apply Plays.op rfl
    change Plays View.Answers (.op (.getHop "router-b") _) _ _
    apply Plays.op rfl
    change Plays View.Answers (.op (.sleep 50) _) _ _
    apply Plays.op trivial
    change Plays View.Answers (.op .loadRouting _) _ _
    apply Plays.op rfl
    change Plays View.Answers (.op (.getHop "router-a") _) _ _
    apply Plays.op rfl
    change Plays View.Answers (.op (.getHop "router-b") _) _ _
    apply Plays.op rfl
    exact Plays.ret _
  have heffort := forward_effort ⟨2, []⟩ shortRequest _ _ hplays
  have hloads := heffort.givesUp rfl
  have hslept := heffort.slept
  rw [hloads] at hslept
  exact ⟨_, hplays, hloads, hslept, heffort.waits⟩

end Effort

end RzRouter
