import RzRouter.Forwarder

/-!
# The loops of a forward call

What a protocol must say of the single operations so that `forward` follows it: the loops over the
hops and over the attempts then keep what holds between two tries.
-/

namespace RzRouter

open LittleEndian Program

section Loops

variable {κ φ : Type}

/-- The operations that a call performs between two tries. -/
def Quiet : ForwardOp κ → Prop
  | .getHop _ | .nextConnection _ | .resolveAddress _ | .isClosed _ | .close _ | .sleep _ => True
  | _ => False

/-- How a try ends that has called `send_and_wait`: `T` holds of the turn that follows. -/
def SentPost (req : Request) (T : φ → Turn → Prop) (st : ForwardState) (frame : List UInt8)
    (ph : φ) (result : Except RZError (List UInt8)) : Prop :=
  match result with
  | .ok response => T ph (.done (.ok (restoreClrid response req.originalClrid)))
  | .error .connectionClosed => T ph (.next { st with frame := frame })
  | .error _ =>
    if req.isWrite = true then T ph (.done (.error .timeout))
    else T ph (.next { frame := frame, requestSent := true })

/-- What the protocol `P` grants to a call between whose turns `T` holds. -/
structure LoopRules (P : Protocol (ForwardOp κ) ForwardOp.Ret φ) (req : Request)
    (T : φ → Turn → Prop) : Prop where
  quiet : ∀ {ph st o}, Quiet o → T ph (.next st) →
    P.allowed ph o ∧ ∀ r, P.answers ph o r → T (P.next ph o r) (.next st)
  load : ∀ {ph st}, T ph (.next st) → P.allowed ph .loadRouting ∧
    ∀ snapshot : RoutingSnapshot, P.answers ph .loadRouting snapshot →
      T (P.next ph .loadRouting snapshot) (.next st) ∧
      (snapshot.lookup req.segment = [] →
        T (P.next ph .loadRouting snapshot) (.done (.error (.unknownSegment req.segment))))
  send : ∀ {ph st} (conn : κ), T ph (.next st) → P.allowed ph (.nextCorrId conn) ∧
    ∀ id : UInt32, P.answers ph (.nextCorrId conn) id →
      if req.clridOffset + 4 > st.frame.length then
        T (P.next ph (.nextCorrId conn) id)
          (.done (.error (.internal "frame too short for CLRID")))
      else
        let frame := overwrite st.frame req.clridOffset (u32Bytes id)
        Follows P (SentPost req T st frame) (P.next ph (.nextCorrId conn) id)
          (sendAndWait conn frame id)
  exhausted : ∀ {ph st}, T ph (.next st) →
    T ph (.done (.error .networkError)) ∧ T ph (.done (.error .timeout))

variable {P : Protocol (ForwardOp κ) ForwardOp.Ret φ} {req : Request} {T : φ → Turn → Prop}

/-- An operation between two tries. -/
theorem LoopRules.follows_quiet {α : Type} {post : φ → α → Prop} (h : LoopRules P req T) {ph : φ}
    {st : ForwardState} {o : ForwardOp κ} (ho : Quiet o) (hst : T ph (.next st))
    {f : o.Ret → ForwardM κ α}
    (hf : ∀ ph r, T ph (.next st) → Follows P post ph (f r)) :
    Follows P post ph (perform o >>= f) := by
  obtain ⟨hallowed, hnext⟩ := h.quiet ho hst
  exact follows_perform_bind hallowed (fun r hr => hf _ r (hnext r hr))

theorem LoopRules.follows_tryHop (h : LoopRules P req T) {ph : φ} {st : ForwardState}
    (hst : T ph (.next st)) (hopId : String) : Follows P T ph (tryHop req st hopId) := by
  unfold tryHop
  refine h.follows_quiet (by trivial) hst (fun ph hop hst => ?_)
  cases hop with
  | none => exact hst
  | some hop =>
    refine h.follows_quiet (by trivial) hst (fun ph conn hst => ?_)
    cases conn with
    | none => exact h.follows_quiet (by trivial) hst (fun _ _ hst => hst)
    | some conn =>
      refine h.follows_quiet (by trivial) hst (fun ph closed hst => ?_)
      cases closed with
      | true => exact hst
      | false =>
        obtain ⟨hallowed, hsend⟩ := h.send conn hst
        refine follows_perform_bind hallowed (fun id hid => ?_)
        -- the check of the frame length comes after the id is drawn
        have htry := hsend id hid
        simp only
        split
        · rename_i hshort
          rw [if_pos hshort] at htry
          exact htry
        · rename_i hfits
          rw [if_neg hfits] at htry
          refine follows_bind htry (fun ph result hresult => ?_)
          cases result with
          | ok response => exact hresult
          | error e =>
            -- any error but `ConnectionClosed` may have reached the hop
            have hlost : ∀ frame, (if req.isWrite = true then T ph (.done (.error .timeout))
                else T ph (.next { frame := frame, requestSent := true })) →
                  Follows P T ph (if req.isWrite = true then pure (.done (.error .timeout))
                    else do
                      ForwardM.close conn
                      pure (.next { frame := frame, requestSent := true })) := by
              intro frame hnext
              split at hnext
              · rename_i hwrite
                rw [if_pos hwrite]
                exact hnext
              · rename_i hread
                rw [if_neg hread]
                exact h.follows_quiet (by trivial) hnext (fun _ _ hst => hst)
            cases e with
            | connectionClosed => exact h.follows_quiet (by trivial) hresult (fun _ _ hst => hst)
            | _ => exact hlost _ hresult

theorem LoopRules.follows_tryHops (h : LoopRules P req T) (hopIds : List String) {ph : φ}
    {st : ForwardState} (hst : T ph (.next st)) : Follows P T ph (tryHops req hopIds st) := by
  induction hopIds generalizing ph st with
  | nil => exact hst
  | cons hopId hopIds ih =>
    refine follows_bind (h.follows_tryHop hst hopId) (fun ph turn hturn => ?_)
    cases turn with
    | done result => exact hturn
    | next st' => exact ih hturn

theorem LoopRules.follows_forwardAttempts (h : LoopRules P req T) (maxRetries remaining attempt : Nat)
    {ph : φ} {st : ForwardState} (hst : T ph (.next st)) :
    Follows P (fun ph result => T ph (.done result)) ph
      (forwardAttempts maxRetries req remaining attempt st) := by
  -- the attempts left bound the loop; the phase is the invariant
  induction remaining generalizing attempt ph st with
  | zero => exact (h.exhausted hst).1
  | succ remaining ih =>
    obtain ⟨hallowed, hload⟩ := h.load hst
    refine follows_perform_bind hallowed (fun snapshot hsnapshot => ?_)
    obtain ⟨hst, hunknown⟩ := hload snapshot hsnapshot
    simp only
    split
    · rename_i hnil
      exact hunknown hnil
    · refine follows_bind (h.follows_tryHops _ hst) (fun ph turn hturn => ?_)
      cases turn with
      | done result => exact hturn
      | next st' =>
        simp only
        split
        · exact (h.exhausted hturn).2
        · split
          · exact (h.exhausted hturn).1
          · exact h.follows_quiet (by trivial) hturn (fun _ _ hst => ih (attempt + 1) hst)

end Loops

end RzRouter
