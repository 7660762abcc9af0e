import RzRouter.Network.Ids
import RzRouter.Network.Shape
import RzRouter.Network.Writes

/-!
# When an id is free

`next_corr_id` skips the id 0 and looks at nothing else.  A call and its channel are numbered here
with the step of the id counter that their id came from: an id that is drawn or registered is taken
if and only if a waiter is still there whose number is the same modulo 2^32.
-/

namespace RzRouter

open Program

variable {ι κ : Type} [DecidableEq ι] [DecidableEq κ]

/-- The steps of the id counters that the ids of the calls and of the channels came from. -/
structure Draws (ι : Type) where
  call : ι → Nat
  channel : Nat → Nat

namespace Draws

def none : Draws ι := ⟨fun _ => 0, fun _ => 0⟩

omit [DecidableEq κ] in
/-- Call `t` goes from one phase to another: it draws an id, or opens a channel for the one it has
drawn. -/
def move (draws : Draws ι) (t : ι) (sh' : Shared ι κ) : CallPhase κ → CallPhase κ → Draws ι
  | .free, .drawn c _ => { draws with call := Function.update draws.call t (sh'.conns c).drawn }
  | .drawn _ _, .opened _ _ tx =>
      { draws with channel := Function.update draws.channel tx (draws.call t) }
  | _, _ => draws

omit [DecidableEq κ] in
def next (draws : Draws ι) (net : Network ι κ) (e : Event ι κ) (net' : Network ι κ) : Draws ι :=
  match e with
  | .call t _ => draws.move t net'.shared (net.calls t).phase (net'.calls t).phase
  | _ => draws

omit [DecidableEq κ] in
theorem move_self (draws : Draws ι) (t : ι) (sh' : Shared ι κ) (ph : CallPhase κ) :
    draws.move t sh' ph ph = draws := by
  cases ph <;> rfl

omit [DecidableEq κ] in
theorem next_of_calls (draws : Draws ι) {net net' : Network ι κ} (e : Event ι κ)
    (hcalls : net'.calls = net.calls) : draws.next net e net' = draws := by
  cases e with
  | call t answer =>
    show draws.move t net'.shared (net.calls t).phase (net'.calls t).phase = draws
    rw [hcalls, move_self]
  | _ => rfl

end Draws

namespace Network

/-- At this step `next_corr_id` of connection `c` takes a step of the id counter. -/
def DrawsFrom (net : Network ι κ) (e : Event ι κ) (c : κ) : Prop :=
  ∃ t k, e = .call t .state ∧ (net.calls t).prog = .op (.nextCorrId c) k

/-- At this step `next_corr_id` of connection `c` returns `id`. -/
def ReturnsId (net : Network ι κ) (e : Event ι κ) (c : κ) (id : UInt32) : Prop :=
  ∃ t k shared, e = .call t .state ∧ (net.calls t).prog = .op (.nextCorrId c) k ∧
    net.shared.serve t (net.calls t).phase.channel? (.nextCorrId c) .state = some (shared, some id)

/-- At this step `send_and_wait` registers its waiter in the demux of connection `c`. -/
def Registers (net : Network ι κ) (e : Event ι κ) (c : κ) (id : UInt32) (tx sentAt : Nat) : Prop :=
  ∃ t k, e = .call t .state ∧ (net.calls t).prog = .op (.insert c id tx sentAt) k

/-- The id that `next_corr_id` returns is not 0 and not that of a registered waiter, and no waiter
is refused. -/
structure AvoidsWaiters (net : Network ι κ) (e : Event ι κ) : Prop where
  returned : ∀ c id, net.ReturnsId e c id →
    id ≠ 0 ∧ (net.shared.conns c).demux.entry? id = none
  registered : ∀ c id tx sentAt, net.Registers e c id tx sentAt →
    ((net.shared.conns c).demux.insert id tx sentAt).2 = true

/-- When an id is drawn or registered, the number of no registered waiter of the connection is a
multiple of 2^32 away. -/
structure NotComeRound (s : Network ι κ × Draws ι) (e : Event ι κ) : Prop where
  drawn : ∀ c, s.1.DrawsFrom e c → ∀ id entry,
    (s.1.shared.conns c).demux.entry? id = some entry →
    s.2.channel entry.tx % 2 ^ 32 ≠ ((s.1.shared.conns c).drawn + 1) % 2 ^ 32
  registered : ∀ c id tx sentAt, s.1.Registers e c id tx sentAt → ∀ id' entry,
    (s.1.shared.conns c).demux.entry? id' = some entry →
    s.2.channel entry.tx % 2 ^ 32 ≠ s.2.channel tx % 2 ^ 32

/-- The calls and connections with the numbers of their ids. -/
abbrev numberedStep (reqs : ι → Request) :
    Network ι κ × Draws ι → Event ι κ → Option (Network ι κ × Draws ι) :=
  Transition.withHistory (step reqs) Draws.next

/-- An id is the step of the counter that it came from, and never 0. -/
structure Stamped (net : Network ι κ) (draws : Draws ι) : Prop where
  call : ∀ t c id, (net.calls t).phase = .drawn c id →
    id = UInt32.ofNat (draws.call t) ∧ id ≠ 0
  channel : ∀ tx t c id, net.shared.ident tx = some (t, c, id) →
    id = UInt32.ofNat (draws.channel tx) ∧ id ≠ 0

omit [DecidableEq ι] [DecidableEq κ] in
theorem stamped_init (fw : Forwarder) (reqs : ι → Request) (capacity : κ → Nat) :
    Stamped (init fw reqs capacity : Network ι κ) Draws.none := by
  constructor
  · intro t c id hphase
    cases hphase
  · intro tx t c id hident
    cases hident

theorem draws_of_callStep {req : Request} {t : ι} {sh sh' : Shared ι κ} {ph ph' : CallPhase κ}
    (h : CallStep req t sh ph sh' ph') (draws : Draws ι) :
    (draws.move t sh' ph ph' = draws ∧ sh'.ident = sh.ident ∧
      ∀ c id, ph' = .drawn c id → ph = .drawn c id) ∨
    (∃ c, (sh.conns c).corrId ≠ 0 ∧ ph' = .drawn c (sh.conns c).corrId ∧ sh'.ident = sh.ident ∧
      draws.move t sh' ph ph' =
        { draws with call := Function.update draws.call t ((sh.conns c).drawn + 1) }) ∨
    ∃ c id tx, ph = .drawn c id ∧ ph' = .opened c id tx ∧
      sh'.ident = Function.update sh.ident tx (some (t, c, id)) ∧
      draws.move t sh' ph ph' =
        { draws with channel := Function.update draws.channel tx (draws.call t) } := by
  have hafter : ∀ (tx : Nat) (c : κ) (id : UInt32), CallPhase.afterSend req tx ≠ .drawn c id := by
    intro tx c id
    unfold CallPhase.afterSend
    split <;> simp
  rcases ident_of_callStep h with hident | ⟨c, id, hph, hph', hident⟩
  · cases h with
    | skip ph => exact Or.inl ⟨draws.move_self t sh ph, rfl, fun _ _ hph => hph⟩
    | draw c hid =>
      refine Or.inr (Or.inl ⟨c, hid, rfl, rfl, ?_⟩)
      have hdrawn : ((sh.setConn c (sh.conns c).fetchCorrId.1).conns c).drawn =
          (sh.conns c).drawn + 1 := by
        rw [Shared.conns_setConn, if_pos rfl]
        rfl
      show { draws with call := Function.update draws.call t _ } = _
      rw [hdrawn]
    | openChannel c id =>
      -- the channel is new
      have hnew : Shared.ident { sh with channels := sh.channels ++ [⟨t, c, id, .waiting⟩] }
          sh.channels.length = some (t, c, id) := by
        unfold Shared.ident
        simp
      rw [hident] at hnew
      exact absurd (Shared.lt_of_ident hnew) (Nat.lt_irrefl _)
    | refuse c id tx sentAt hinserted =>
      exact Or.inl ⟨rfl, rfl, fun c' id' hph' => absurd hph' (hafter tx c' id')⟩
    | cleanUpExpired c id tx =>
      exact Or.inl ⟨rfl, hident, fun c' id' hph' => absurd hph' (hafter tx c' id')⟩
    | timedOut c id tx ch hch hstate =>
      exact Or.inl ⟨rfl, rfl, fun c' id' hph' => absurd hph' (hafter tx c' id')⟩
    | _ => exact Or.inl ⟨rfl, hident, fun _ _ hph => by cases hph⟩
  · subst hph hph'
    exact Or.inr (Or.inr ⟨c, id, _, rfl, rfl, hident, rfl⟩)

section

variable {fw : Forwarder} {reqs : ι → Request} {net net' : Network ι κ} {draws : Draws ι}
  {e : Event ι κ}

omit [DecidableEq ι] [DecidableEq κ] in
/-- Where no id is drawn and no channel is opened the numbers stay right. -/
theorem Stamped.of_eq (h : Stamped net draws) (hident : net'.shared.ident = net.shared.ident)
    (hphase : ∀ t c id, (net'.calls t).phase = .drawn c id → (net.calls t).phase = .drawn c id) :
    Stamped net' draws := by
  constructor
  · intro t c id ht
    exact h.call t c id (hphase t c id ht)
  · intro tx t c id htx
    rw [hident] at htx
    exact h.channel tx t c id htx

theorem stamped_of_callStep {t : ι} {answer : Answer κ} (hids : Ids net) (h : Stamped net draws)
    (hmove : CallStep (reqs t) t net.shared (net.calls t).phase net'.shared (net'.calls t).phase)
    (hothers : ∀ t', t' ≠ t → net'.calls t' = net.calls t') :
    Stamped net' (draws.next net (.call t answer) net') := by
  have hcases := draws_of_callStep hmove draws
  show Stamped net' (draws.move t net'.shared (net.calls t).phase (net'.calls t).phase)
  rcases hcases with ⟨hdraws, hident, hphase⟩ | ⟨c, hid, hph', hident, hdraws⟩ |
    ⟨c, id, tx, hph, hph', hident, hdraws⟩
  · rw [hdraws]
    apply h.of_eq hident
    intro t' c id ht'
    by_cases ht : t' = t
    · subst ht
      exact hphase c id ht'
    · rw [hothers t' ht] at ht'
      exact ht'
  · rw [hdraws]
    constructor
    · intro t' c' id' ht'
      by_cases ht : t' = t
      · -- the call that draws: its id is that of the next step of the counter
        subst ht
        rw [hph'] at ht'
        cases ht'
        show _ = UInt32.ofNat (Function.update draws.call t' _ t') ∧ _
        rw [Function.update_self]
        exact ⟨hids.counter c, hid⟩
      · rw [hothers t' ht] at ht'
        show _ = UInt32.ofNat (Function.update draws.call t _ t') ∧ _
        rw [Function.update_of_ne ht]
        exact h.call t' c' id' ht'
    · intro tx t' c' id' htx
      rw [hident] at htx
      exact h.channel tx t' c' id' htx
  · rw [hdraws]
    constructor
    · intro t' c' id' ht'
      by_cases ht : t' = t
      · subst ht
        rw [hph'] at ht'
        cases ht'
      · rw [hothers t' ht] at ht'
        exact h.call t' c' id' ht'
    · intro tx' t' c' id' htx'
      show _ = UInt32.ofNat (Function.update draws.channel tx _ tx') ∧ _
      rw [hident, Function.update_apply] at htx'
      split at htx'
      · -- the new channel has the number of the call that opens it
        rename_i heq
        subst heq
        cases htx'
        rw [Function.update_self]
        exact h.call t c id hph
      · rename_i hne
        rw [Function.update_of_ne hne]
        exact h.channel tx' t' c' id' htx'

theorem stamped_step (hfollows : Following fw reqs net) (hids : Ids net) (h : Stamped net draws)
    (hstep : net.step reqs e = some net') : Stamped net' (draws.next net e net') := by
  rcases step_cases hfollows hstep with
    ⟨t, answer, rfl, hmove, hothers⟩ | ⟨t, answer, rfl, c, hshared, -, hcalls⟩ |
      ⟨c, conn, notice, -, hshared, hcalls⟩
  · exact stamped_of_callStep hids h hmove hothers
  · rw [draws.next_of_calls _ hcalls]
    apply h.of_eq
    · rw [hshared, Shared.ident_setConn]
    · rw [hcalls]
      exact fun _ _ _ hphase => hphase
  · rw [draws.next_of_calls _ hcalls]
    apply h.of_eq
    · rw [hshared, Shared.ident_notify, Shared.ident_setConn]
    · rw [hcalls]
      exact fun _ _ _ hphase => hphase

/-- All that the numbers of a reachable state say. -/
structure NumberedInvariant (fw : Forwarder) (reqs : ι → Request) (s : Network ι κ × Draws ι) :
    Prop where
  follows : Following fw reqs s.1
  shape : Shape reqs s.1
  ids : Ids s.1
  stamped : Stamped s.1 s.2

omit [DecidableEq ι] [DecidableEq κ] in
theorem numberedInvariant_init (fw : Forwarder) (reqs : ι → Request) (capacity : κ → Nat) :
    NumberedInvariant fw reqs ((init fw reqs capacity : Network ι κ), Draws.none) :=
  ⟨following_init capacity, shape_init fw reqs capacity, ids_init fw reqs capacity,
    stamped_init fw reqs capacity⟩

theorem numberedInvariant_step {s s' : Network ι κ × Draws ι} (h : NumberedInvariant fw reqs s)
    (hstep : numberedStep reqs s e = some s') : NumberedInvariant fw reqs s' := by
  obtain ⟨hnet, hdraws⟩ := Transition.withHistory_eq_some hstep
  refine ⟨following_step h.follows hnet, shape_step h.follows h.shape hnet,
    ids_step h.follows h.ids hnet, ?_⟩
  rw [hdraws]
  exact stamped_step h.follows h.ids h.stamped hnet

theorem ofNat_eq_ofNat_iff (a b : Nat) :
    UInt32.ofNat a = UInt32.ofNat b ↔ a % 2 ^ 32 = b % 2 ^ 32 := by
  rw [UInt32.ofNat_eq_iff_mod_eq_toNat, UInt32.toNat_ofNat']

omit [DecidableEq ι] [DecidableEq κ] in
/-- A registered waiter is there under the id of its number, and that is not 0. -/
theorem stamp_of_entry {s : Network ι κ × Draws ι} (h : NumberedInvariant fw reqs s) {c : κ}
    {id : UInt32} {entry : DemuxEntry Nat}
    (hentry : (s.1.shared.conns c).demux.entry? id = some entry) :
    id = UInt32.ofNat (s.2.channel entry.tx) ∧ id ≠ 0 := by
  obtain ⟨t, hident⟩ := h.shape.waiter c id entry ⟨_, hentry⟩
  exact h.stamped.channel entry.tx t c id hident

omit [DecidableEq ι] in
theorem returnsId_iff {c : κ} {id : UInt32} :
    net.ReturnsId e c id ↔ net.DrawsFrom e c ∧ (net.shared.conns c).corrId = id ∧ id ≠ 0 := by
  constructor
  · rintro ⟨t, k, shared, he, hprog, hserve⟩
    rw [serve_nextCorrId] at hserve
    by_cases hid : (net.shared.conns c).corrId ≠ 0
    · rw [if_pos hid] at hserve
      cases hserve
      exact ⟨⟨t, k, he, hprog⟩, rfl, hid⟩
    · rw [if_neg hid] at hserve
      cases hserve
  · rintro ⟨⟨t, k, he, hprog⟩, rfl, hid⟩
    refine ⟨t, k, net.shared.setConn c (net.shared.conns c).fetchCorrId.1, he, hprog, ?_⟩
    rw [serve_nextCorrId, if_pos hid]

omit [DecidableEq ι] in
/-- A drawn id is free if and only if the counter has not come round to a registered waiter. -/
theorem returned_iff {s : Network ι κ × Draws ι} (h : NumberedInvariant fw reqs s) (c : κ)
    (hdraws : s.1.DrawsFrom e c) :
    (∀ id, s.1.ReturnsId e c id →
      id ≠ 0 ∧ (s.1.shared.conns c).demux.entry? id = none) ↔
    ∀ id entry, (s.1.shared.conns c).demux.entry? id = some entry →
      s.2.channel entry.tx % 2 ^ 32 ≠ ((s.1.shared.conns c).drawn + 1) % 2 ^ 32 := by
  have hcounter := h.ids.counter c
  constructor
  · intro hfree id entry hentry hround
    obtain ⟨hid, hne⟩ := stamp_of_entry h hentry
    have hsame : (s.1.shared.conns c).corrId = id := by
      rw [hcounter, hid, ofNat_eq_ofNat_iff]
      exact hround.symm
    have hnone := (hfree id (returnsId_iff.mpr ⟨hdraws, hsame, hne⟩)).2
    rw [hentry] at hnone
    cases hnone
  · intro hround id hreturns
    obtain ⟨-, hsame, hne⟩ := returnsId_iff.mp hreturns
    refine ⟨hne, ?_⟩
    cases hentry : (s.1.shared.conns c).demux.entry? id with
    | none => rfl
    | some entry =>
      have hid := (stamp_of_entry h hentry).1
      rw [← hsame, hcounter, ofNat_eq_ofNat_iff] at hid
      exact absurd hid.symm (hround id entry hentry)

omit [DecidableEq ι] [DecidableEq κ] in
/-- A waiter is refused if and only if the counter has come round between it and a registered
one. -/
theorem registered_iff {s : Network ι κ × Draws ι} (h : NumberedInvariant fw reqs s) {c : κ}
    {id : UInt32} {tx sentAt : Nat} (hregisters : s.1.Registers e c id tx sentAt) :
    ((s.1.shared.conns c).demux.insert id tx sentAt).2 = true ↔
    ∀ id' entry, (s.1.shared.conns c).demux.entry? id' = some entry →
      s.2.channel entry.tx % 2 ^ 32 ≠ s.2.channel tx % 2 ^ 32 := by
  -- the call has opened its channel for this id
  have hid : id = UInt32.ofNat (s.2.channel tx) := by
    obtain ⟨t, k, -, hprog⟩ := hregisters
    have hfollows := h.follows t
    rw [hprog] at hfollows
    have hallowed : callAllowed (reqs t) (s.1.calls t).phase (.insert c id tx sentAt) :=
      hfollows.1
    cases hphase : (s.1.calls t).phase with
    | opened c' id' tx' =>
      rw [hphase] at hallowed
      obtain ⟨rfl, rfl, rfl⟩ := hallowed
      exact (h.stamped.channel tx t c id (h.shape.current t c id tx (by rw [hphase]; rfl))).1
    | _ =>
      rw [hphase] at hallowed
      exact hallowed.elim
  rw [Demux.insert_accepted_iff]
  constructor
  · intro hnone id' entry hentry hround
    have hid' := (stamp_of_entry h hentry).1
    rw [(ofNat_eq_ofNat_iff _ _).mpr hround, ← hid] at hid'
    rw [hid', hnone] at hentry
    cases hentry
  · intro hround
    cases hentry : (s.1.shared.conns c).demux.entry? id with
    | none => rfl
    | some entry =>
      have hid' := (stamp_of_entry h hentry).1
      rw [hid, ofNat_eq_ofNat_iff] at hid'
      exact absurd hid'.symm (hround id entry hentry)

omit [DecidableEq ι] in
theorem avoidsWaiters_iff {s : Network ι κ × Draws ι} (h : NumberedInvariant fw reqs s) :
    AvoidsWaiters s.1 e ↔ NotComeRound s e := by
  constructor
  · intro havoids
    refine ⟨fun c hdraws => ?_, fun c id tx sentAt hregisters => ?_⟩
    · exact (returned_iff h c hdraws).mp (havoids.returned c)
    · exact (registered_iff h hregisters).mp (havoids.registered c id tx sentAt hregisters)
  · intro hround
    refine ⟨fun c id hreturns => ?_, fun c id tx sentAt hregisters => ?_⟩
    · have hdraws := (returnsId_iff.mp hreturns).1
      exact (returned_iff h c hdraws).mpr (hround.drawn c hdraws) id hreturns
    · exact (registered_iff h hregisters).mpr (hround.registered c id tx sentAt hregisters)

end

/-- In every run: ids are not 0 and not those of registered waiters, and no waiter is refused, if
and only if no waiter is still registered when the counter comes round to its number. -/
theorem ids_avoid_waiters (fw : Forwarder) (reqs : ι → Request) (capacity : κ → Nat)
    (es : List (Event ι κ)) :
    Transition.Meets (step reqs) AvoidsWaiters (init fw reqs capacity) es ↔
    Transition.Meets (numberedStep reqs) NotComeRound (init fw reqs capacity, Draws.none) es := by
  have hplain : Transition.Meets (numberedStep reqs) (fun s e => AvoidsWaiters s.1 e)
      ((init fw reqs capacity : Network ι κ), Draws.none) es ↔
      Transition.Meets (step reqs) AvoidsWaiters (init fw reqs capacity) es :=
    Transition.meets_withHistory
  rw [← hplain]
  exact Transition.meets_congr
    (fun s e (h : NumberedInvariant fw reqs s) => avoidsWaiters_iff h)
    (fun s e s' h _ hstep => numberedInvariant_step h hstep)
    (numberedInvariant_init fw reqs capacity)

/-! ## A counter that comes round -/

/-- Writes of any number of clients over one connection. -/
def manyWrites : Network Nat Unit := init ⟨3, []⟩ (fun _ => parisWrite) (fun _ => 1024)

/-- Call `t` comes to draw an id on the connection. -/
def looks (t : Nat) : List (Event Nat Unit) :=
  [.call t (.routing parisTable), .call t (.hop (some ⟨"router-a", 0⟩)),
    .call t (.connection (some ())), .call t .state]

/-- It registers its waiter under the id it has drawn. -/
def registers (t : Nat) : List (Event Nat Unit) :=
  List.replicate 2 (.call t .state) ++ [.call t (.instant 0), .call t .state]

/-- Call 0 waits, and the next `n` calls draw an id each. -/
def draws (n : Nat) : List (Event Nat Unit) :=
  looks 0 ++ [.call 0 .state] ++ registers 0 ++
    (List.range n).flatMap (fun i => looks (i + 1) ++ [.call (i + 1) .state])

/-- The system with call `t` elsewhere. -/
def setCall (net : Network ι κ) (t : ι) (call : Call κ) : Network ι κ :=
  { net with calls := Function.update net.calls t call }

omit [DecidableEq κ] in
theorem setCall_self (net : Network ι κ) (t : ι) : net.setCall t (net.calls t) = net := by
  unfold setCall
  rw [Function.update_eq_self]

theorem run_setCall {reqs : ι → Request} {net : Network ι κ} {t : ι} {answer : Answer κ}
    {o : ForwardOp κ} {k : o.Ret → ForwardM κ (Except ForwardError (List UInt8))}
    {ph : CallPhase κ} (shared : Shared ι κ) (r : o.Ret)
    (hserve : net.shared.serve t ph.channel? o answer = some (shared, some r))
    (es : List (Event ι κ)) :
    Transition.run (step reqs) (net.setCall t ⟨.op o k, ph⟩) (.call t answer :: es) =
      Transition.run (step reqs)
        (setCall { net with shared := shared } t ⟨k r, callNext (reqs t) ph o r⟩) es := by
  have hstep : (net.setCall t ⟨.op o k, ph⟩).step reqs (.call t answer) =
      some (setCall { net with shared := shared } t ⟨k r, callNext (reqs t) ph o r⟩) := by
    simp only [step, setCall, Function.update_self, Function.update_idem, hserve]
  show (step reqs _ _).bind _ = _
  rw [hstep]
  rfl

/-- What a write still does when it has drawn `id`, up to a refused waiter. -/
def Sends (id : UInt32) (p : ForwardM Unit (Except ForwardError (List UInt8))) : Prop :=
  ∃ k₁ k₂, p = .op (.isClosed ()) k₁ ∧ k₁ false = .op (.newChannel () id) k₂ ∧
    ∀ tx, ∃ k₃ k₄, k₂ tx = .op .now k₃ ∧ k₃ 0 = .op (.insert () id tx 0) k₄ ∧
      k₄ false = .ret (.error .timeout)

/-- A write that has not begun. -/
def unbegun : Call Unit := ⟨Forwarder.forward ⟨3, []⟩ parisWrite, .free⟩

theorem forward_paris : ∃ k₁ k₂ k₃ k₄ k₅, unbegun.prog = .op .loadRouting k₁ ∧
    k₁ parisTable = .op (.getHop "router-a") k₂ ∧
    k₂ (some ⟨"router-a", 0⟩) = .op (.nextConnection ⟨"router-a", 0⟩) k₃ ∧
    k₃ (some ()) = .op (.isClosed ()) k₄ ∧ k₄ false = .op (.nextCorrId ()) k₅ ∧
    ∀ id, Sends id (k₅ id) :=
  ⟨_, _, _, _, _, rfl, rfl, rfl, rfl, rfl,
    fun _ => ⟨_, _, rfl, rfl, fun _ => ⟨_, _, rfl, rfl, rfl⟩⟩⟩

theorem run_looks {net : Network Nat Unit} (t : Nat) (hcall : net.calls t = unbegun)
    (hopen : (net.shared.conns ()).closed = false) :
    ∃ k, (∀ id, Sends id (k id)) ∧ ∀ es,
      Transition.run (step fun _ => parisWrite) net (looks t ++ es) =
        Transition.run (step fun _ => parisWrite)
          (net.setCall t ⟨.op (.nextCorrId ()) k, .free⟩) es := by
  obtain ⟨k₁, k₂, k₃, k₄, k₅, h₀, h₁, h₂, h₃, h₄, hsends⟩ := forward_paris
  refine ⟨k₅, hsends, fun es => ?_⟩
  have hbegin : net = net.setCall t ⟨.op .loadRouting k₁, .free⟩ := by
    have hself := net.setCall_self t
    rw [hcall] at hself
    rw [← h₀]
    exact hself.symm
  -- no look changes anything but the program of the call
  have hconnection : net.shared.serve t none (.nextConnection ⟨"router-a", 0⟩)
      (.connection (some ())) = some (net.shared, some (some ())) := by
    simp only [Shared.serve, hopen, Bool.false_eq_true, if_false]
  have hclosed : net.shared.serve t none (.isClosed ()) .state = some (net.shared, some false) := by
    simp only [Shared.serve, hopen]
  conv_lhs => rw [hbegin]
  show Transition.run _ _ (_ :: _ :: _ :: _ :: es) = _
  rw [run_setCall net.shared parisTable rfl, h₁,
    run_setCall net.shared (some ⟨"router-a", 0⟩) rfl, h₂,
    run_setCall net.shared (some ()) hconnection, h₃, run_setCall net.shared false hclosed, h₄]
  rfl

theorem run_draw (net : Network Nat Unit) (t : Nat)
    (k : UInt32 → ForwardM Unit (Except ForwardError (List UInt8)))
    (hid : (net.shared.conns ()).corrId ≠ 0) (es : List (Event Nat Unit)) :
    Transition.run (step fun _ => parisWrite) (net.setCall t ⟨.op (.nextCorrId ()) k, .free⟩)
        (.call t .state :: es) =
      Transition.run (step fun _ => parisWrite)
        (setCall
          { net with shared := net.shared.setConn () (net.shared.conns ()).fetchCorrId.1 } t
          ⟨k (net.shared.conns ()).corrId, .drawn () (net.shared.conns ()).corrId⟩) es := by
  rw [run_setCall (net.shared.setConn () (net.shared.conns ()).fetchCorrId.1)
    (net.shared.conns ()).corrId]
  · rfl
  · rw [serve_nextCorrId, if_pos hid]

theorem run_registers (net : Network Nat Unit) (t : Nat) {id : UInt32}
    {p : ForwardM Unit (Except ForwardError (List UInt8))} (hsends : Sends id p)
    (hopen : (net.shared.conns ()).closed = false) :
    ∃ shared call, (∀ es, Transition.run (step fun _ => parisWrite)
        (net.setCall t ⟨p, .drawn () id⟩) (registers t ++ es) =
      Transition.run (step fun _ => parisWrite) (setCall { net with shared := shared } t call) es) ∧
      shared.conns () =
        { net.shared.conns () with
          demux := ((net.shared.conns ()).demux.insert id net.shared.channels.length 0).1 } ∧
      (((net.shared.conns ()).demux.insert id net.shared.channels.length 0).2 = false →
        call.prog = .ret (.error .timeout)) := by
  obtain ⟨k₁, k₂, rfl, h₁, hrest⟩ := hsends
  obtain ⟨k₃, k₄, h₂, h₃, h₄⟩ := hrest net.shared.channels.length
  have hclosed : net.shared.serve t none (.isClosed ()) .state = some (net.shared, some false) := by
    simp only [Shared.serve, hopen]
  let opened : Shared Nat Unit :=
    { net.shared with channels := net.shared.channels ++ [⟨t, (), id, .waiting⟩] }
  let inserted := (net.shared.conns ()).demux.insert id net.shared.channels.length 0
  refine ⟨opened.setConn () { net.shared.conns () with demux := inserted.1 },
    ⟨k₄ inserted.2, callNext parisWrite (.opened () id net.shared.channels.length)
      (.insert () id net.shared.channels.length 0) inserted.2⟩,
    fun es => ?_, rfl, fun hrefused => ?_⟩
  · show Transition.run _ _ (_ :: _ :: _ :: _ :: es) = _
    rw [run_setCall net.shared false hclosed, h₁,
      run_setCall opened net.shared.channels.length rfl, h₂, run_setCall opened 0 rfl, h₃,
      run_setCall (opened.setConn () { net.shared.conns () with demux := inserted.1 })
        inserted.2 rfl]
    rfl
  · show k₄ inserted.2 = _
    rw [show inserted.2 = false from hrefused]
    exact h₄

/-- Call 0 waits under id 1, and the other calls up to `n` have drawn an id each. -/
structure Stalled (n : Nat) (net : Network Nat Unit) : Prop where
  unbegun : ∀ t, n < t → net.calls t = unbegun
  isOpen : (net.shared.conns ()).closed = false
  corrId : (net.shared.conns ()).corrId = UInt32.ofNat (n + 2)
  waiter : (net.shared.conns ()).demux.entry? 1 = some ⟨0, 0⟩
  frames : (net.shared.conns ()).frames = []

theorem stalled_zero : ∃ net,
    Transition.run (step fun _ => parisWrite) manyWrites (draws 0) = some net ∧ Stalled 0 net := by
  obtain ⟨k, hsends, hlooks⟩ := run_looks 0 (show manyWrites.calls 0 = unbegun from rfl) rfl
  obtain ⟨shared, call, hregisters, hconn, -⟩ := run_registers
    { manyWrites with
      shared := manyWrites.shared.setConn () (manyWrites.shared.conns ()).fetchCorrId.1 }
    0 (hsends 1) rfl
  refine ⟨setCall { manyWrites with shared := shared } 0 call, ?_, ?_⟩
  · have hrun := hlooks (.call 0 .state :: (registers 0 ++ []))
    rw [run_draw _ _ _ (by decide)] at hrun
    exact hrun.trans (hregisters [])
  · refine ⟨fun t ht => Function.update_of_ne (Nat.ne_of_gt ht) _ _, ?_, ?_, ?_, ?_⟩
    · show (shared.conns ()).closed = false
      rw [hconn]
      rfl
    · show (shared.conns ()).corrId = _
      rw [hconn]
      rfl
    · show (shared.conns ()).demux.entry? 1 = _
      rw [hconn]
      rfl
    · show (shared.conns ()).frames = []
      rw [hconn]
      rfl

/-- As long as no 0 comes up, every call draws the next id. -/
theorem stalled_draws (n : Nat) (hn : n + 2 ≤ 2 ^ 32) : ∃ net,
    Transition.run (step fun _ => parisWrite) manyWrites (draws n) = some net ∧ Stalled n net := by
  induction n with
  | zero => exact stalled_zero
  | succ n ih =>
    obtain ⟨net, hrun, hstalled⟩ := ih (by omega)
    obtain ⟨k, hsends, hlooks⟩ := run_looks (n + 1)
      (hstalled.unbegun (n + 1) (Nat.lt_succ_self n)) hstalled.isOpen
    have hid : (net.shared.conns ()).corrId ≠ 0 := by
      rw [hstalled.corrId]
      intro hzero
      have hmod := (UInt32.ofNat_eq_iff_mod_eq_toNat _ _).mp hzero
      rw [Nat.mod_eq_of_lt (by omega)] at hmod
      cases hmod
    have hdraws : draws (n + 1) = draws n ++ (looks (n + 1) ++ [.call (n + 1) .state]) := by
      unfold draws
      rw [List.range_succ, List.flatMap_append, List.append_assoc]
      simp
    refine ⟨setCall
      { net with shared := net.shared.setConn () (net.shared.conns ()).fetchCorrId.1 } (n + 1)
      ⟨k (net.shared.conns ()).corrId, .drawn () (net.shared.conns ()).corrId⟩, ?_, ?_⟩
    · rw [hdraws, Transition.run_append, hrun]
      show Transition.run _ net _ = _
      rw [hlooks, run_draw _ _ _ hid]
      rfl
    · refine ⟨fun t ht => ?_, hstalled.isOpen, ?_, hstalled.waiter, hstalled.frames⟩
      · show Function.update net.calls (n + 1) _ t = _
        rw [Function.update_of_ne (Nat.ne_of_gt ht)]
        exact hstalled.unbegun t (by omega)
      · show (net.shared.conns ()).corrId + 1 = UInt32.ofNat (n + 1 + 2)
        rw [hstalled.corrId, ← Nat.add_right_comm, UInt32.ofNat_add (n + 2) 1]
        rfl

/-- At the end of its range the counter skips 0, and the next call draws the id of call 0. -/
theorem comes_round {n : Nat} {net : Network Nat Unit} (h : Stalled n net)
    (hround : UInt32.ofNat (n + 2) = 0) : ∃ net₁ net₂,
    Transition.run (step fun _ => parisWrite) net (looks (n + 1) ++ [.call (n + 1) .state]) =
      some net₁ ∧
    net₁.ReturnsId (.call (n + 1) .state) () 1 ∧
    (net₁.shared.conns ()).demux.entry? 1 = some ⟨0, 0⟩ ∧
    Transition.run (step fun _ => parisWrite) net₁ (.call (n + 1) .state :: registers (n + 1)) =
      some net₂ ∧
    (net₂.calls (n + 1)).prog = .ret (.error .timeout) ∧ (net₂.shared.conns ()).frames = [] := by
  obtain ⟨k, hsends, hlooks⟩ := run_looks (n + 1) (h.unbegun (n + 1) (Nat.lt_succ_self n)) h.isOpen
  have hzero : (net.shared.conns ()).corrId = 0 := h.corrId.trans hround
  let skipped : Network Nat Unit :=
    { net with shared := net.shared.setConn () (net.shared.conns ()).fetchCorrId.1 }
  have hone : (skipped.shared.conns ()).corrId = 1 := by
    show (net.shared.conns ()).corrId + 1 = 1
    rw [hzero]
    rfl
  -- the id 0 is drawn again
  have hskip : (net.setCall (n + 1) ⟨.op (.nextCorrId ()) k, .free⟩).step (fun _ => parisWrite)
      (.call (n + 1) .state) = some (skipped.setCall (n + 1) ⟨.op (.nextCorrId ()) k, .free⟩) := by
    have hserve := serve_nextCorrId net.shared (n + 1) none ()
    rw [if_neg (not_not.mpr hzero)] at hserve
    simp only [step, setCall, Function.update_self]
    rw [show CallPhase.channel? (CallPhase.free : CallPhase Unit) = none from rfl, hserve]
  have hdraw := run_draw skipped (n + 1) k (by rw [hone]; decide)
  rw [hone] at hdraw
  obtain ⟨shared, call, hregisters, hconn, hrefused⟩ := run_registers
    { skipped with shared := skipped.shared.setConn () (skipped.shared.conns ()).fetchCorrId.1 }
    (n + 1) (hsends 1) h.isOpen
  refine ⟨skipped.setCall (n + 1) ⟨.op (.nextCorrId ()) k, .free⟩,
    setCall { skipped with shared := shared } (n + 1) call, ?_, ?_, h.waiter, ?_, ?_, ?_⟩
  · rw [hlooks]
    show (step _ _ _).bind _ = _
    rw [hskip]
    rfl
  · apply returnsId_iff.mpr
    refine ⟨⟨n + 1, k, rfl, ?_⟩, hone, by decide⟩
    simp only [setCall, Function.update_self]
  · rw [hdraw, ← List.append_nil (registers (n + 1))]
    exact hregisters []
  · simp only [setCall, Function.update_self]
    apply hrefused
    rw [← Bool.not_eq_true, Demux.insert_accepted_iff]
    show (net.shared.conns ()).demux.entry? 1 ≠ none
    rw [h.waiter]
    exact Option.some_ne_none _
  · show (shared.conns ()).frames = []
    rw [hconn]
    exact h.frames

/-- With a waiter left under id 1, the 2^32-th step of the counter returns 1 again.  The waiter of
the new write is refused, and the call returns `Timeout` although nothing was sent. -/
theorem waiters_id_returned : ∃ net net',
    Transition.run (step fun _ => parisWrite) manyWrites
      (draws (2 ^ 32 - 2) ++ (looks (2 ^ 32 - 1) ++ [.call (2 ^ 32 - 1) .state])) = some net ∧
    net.ReturnsId (.call (2 ^ 32 - 1) .state) () 1 ∧
    (net.shared.conns ()).demux.entry? 1 = some ⟨0, 0⟩ ∧
    Transition.run (step fun _ => parisWrite) net
      (.call (2 ^ 32 - 1) .state :: registers (2 ^ 32 - 1)) = some net' ∧
    (net'.calls (2 ^ 32 - 1)).prog = .ret (.error .timeout) ∧
    (net'.shared.conns ()).frames = [] := by
  obtain ⟨net, hrun, hstalled⟩ := stalled_draws (2 ^ 32 - 2) (by omega)
  obtain ⟨net₁, net₂, hrun₁, hrest⟩ := comes_round hstalled rfl
  refine ⟨net₁, net₂, ?_, hrest⟩
  rw [Transition.run_append, hrun]
  exact hrun₁

end Network

end RzRouter
