import RzRouter.Hop

/-!
# The rules of a maintenance tick

What a tick knows about the connection set at each of its operations, and what the calls for the
address leave alone.  Every step of a hop keeps these rules, whatever resolver and hosts answer and
whenever connections die.
-/

namespace RzRouter

open Program Transition

/-! ## What a tick knows -/

/-- The state that a tick has loaded and whether it has acted on it, the set that it has loaded,
until it stores another one, the connections that it has seen closed and those that it has made. -/
structure TickPhase where
  started : Option HopState
  acted : Bool
  loaded : Option (List Nat)
  seenClosed : List Nat
  made : List Nat

def TickPhase.idle : TickPhase := ⟨none, false, none, [], []⟩

/-- The rules of a tick. -/
def tickProtocol (connPerHop : Nat) : Protocol HopOp HopOp.Ret TickPhase where
  allowed ph
    | .loadState => ph.started = none
    | .storeConnections connections =>
        connections.length ≤ max connPerHop 1 ∧
          (∀ conn ∈ connections,
            conn ∈ ph.made ∨ ∃ old, ph.loaded = some old ∧ conn ∈ old) ∧
          (ph.started = some .recovering ∧ ph.acted = false ∨ ph.started = some .healthy ∧
            ∃ old, ph.loaded = some old ∧ ∀ conn ∈ old, conn ∉ ph.seenClosed → conn ∈ connections)
    | .storeState .recovering =>
        ph.started = some .unavailable ∧ ph.acted = false ∨ ph.started = some .healthy ∧
          ∃ old, ph.loaded = some old ∧ ∀ conn ∈ old, conn ∈ ph.seenClosed
    | .storeState .healthy => ph.started = some .recovering
    | .storeState .unavailable => False
    | _ => True
  answers ph
    -- a closed connection stays closed
    | .isClosed conn, closed => conn ∈ ph.seenClosed → closed = true
    | _, _ => True
  next ph
    | .loadState, state => { ph with started := some state }
    | .loadConnections, connections => { ph with loaded := some connections }
    | .isClosed conn, true => { ph with seenClosed := conn :: ph.seenClosed }
    | .connect _, .ok conn => { ph with made := conn :: ph.made }
    | .storeConnections _, _ => { ph with acted := true, loaded := none }
    | .storeState .recovering, _ =>
        if ph.started = some .unavailable then { ph with acted := true } else ph
    | _, _ => ph

/-- Between two phases of a tick only more connections have been seen closed or made. -/
structure SeesMore (ph ph' : TickPhase) : Prop where
  started : ph'.started = ph.started
  acted : ph'.acted = ph.acted
  loaded : ph'.loaded = ph.loaded
  seen : ∀ conn ∈ ph.seenClosed, conn ∈ ph'.seenClosed
  made : ∀ conn ∈ ph.made, conn ∈ ph'.made

theorem SeesMore.refl (ph : TickPhase) : SeesMore ph ph :=
  ⟨rfl, rfl, rfl, fun _ h => h, fun _ h => h⟩

theorem SeesMore.trans {ph ph' ph'' : TickPhase} (h : SeesMore ph ph') (h' : SeesMore ph' ph'') :
    SeesMore ph ph'' where
  started := h'.started.trans h.started
  acted := h'.acted.trans h.acted
  loaded := h'.loaded.trans h.loaded
  seen := fun conn hconn => h'.seen conn (h.seen conn hconn)
  made := fun conn hconn => h'.made conn (h.made conn hconn)

section Follows

variable (connPerHop : Nat)

theorem seesMore_isClosed (ph : TickPhase) (conn : Nat) (closed : Bool) :
    SeesMore ph ((tickProtocol connPerHop).next ph (.isClosed conn) closed) := by
  cases closed with
  | false => exact SeesMore.refl ph
  | true => exact ⟨rfl, rfl, rfl, fun _ h => List.mem_cons_of_mem _ h, fun _ h => h⟩

/-- The connections of a list that have not been seen closed. -/
def unseen (ph : TickPhase) (connections : List Nat) : List Nat :=
  connections.filter (fun conn => decide (conn ∉ ph.seenClosed))

theorem unseen_length_le {ph ph' : TickPhase} (h : SeesMore ph ph') (connections : List Nat) :
    (unseen ph' connections).length ≤ (unseen ph connections).length := by
  unfold unseen
  apply List.Sublist.length_le
  apply List.monotone_filter_right
  intro conn hconn
  rw [decide_eq_true_eq] at hconn ⊢
  exact fun hseen => hconn (h.seen conn hseen)

/-- `live_count` counts at least the connections that it does not see closed. -/
theorem follows_liveCount (connections : List Nat) (ph : TickPhase) :
    Follows (tickProtocol connPerHop)
      (fun ph' live => SeesMore ph ph' ∧ (unseen ph' connections).length ≤ live) ph
      (liveCount connections) := by
  induction connections generalizing ph with
  | nil => exact ⟨SeesMore.refl ph, Nat.le_refl 0⟩
  | cons conn connections ih =>
    apply follows_perform_bind trivial
    intro closed _
    have hmore := seesMore_isClosed connPerHop ph conn closed
    apply follows_bind (ih _)
    intro ph' live hlive
    refine ⟨hmore.trans hlive.1, ?_⟩
    cases closed with
    | false =>
      show (unseen ph' (conn :: connections)).length ≤ live + 1
      unfold unseen
      rw [List.filter_cons]
      have hcount := hlive.2
      unfold unseen at hcount
      split
      · simp only [List.length_cons]
        omega
      · omega
    | true =>
      show (unseen ph' (conn :: connections)).length ≤ live
      have hseen : conn ∈ ph'.seenClosed := hlive.1.seen conn List.mem_cons_self
      have hcount := hlive.2
      unfold unseen at hcount ⊢
      rw [List.filter_cons_of_neg (by simp [hseen])]
      exact hcount

/-- The survivors are at most the connections not seen closed before, and all that are not seen
closed now. -/
theorem follows_openConnections (connections : List Nat) (ph : TickPhase) :
    Follows (tickProtocol connPerHop)
      (fun ph' survivors => SeesMore ph ph' ∧
        survivors.length ≤ (unseen ph connections).length ∧
        (∀ conn ∈ survivors, conn ∈ connections) ∧
        ∀ conn ∈ connections, conn ∉ ph'.seenClosed → conn ∈ survivors) ph
      (openConnections connections) := by
  induction connections generalizing ph with
  | nil =>
    exact ⟨SeesMore.refl ph, Nat.le_refl 0, fun _ h => h, fun _ h => absurd h List.not_mem_nil⟩
  | cons conn connections ih =>
    apply follows_perform_bind trivial
    intro closed hanswer
    have hmore := seesMore_isClosed connPerHop ph conn closed
    apply follows_bind (ih _)
    intro ph' rest hrest
    have hcount := (hrest.2.1).trans (unseen_length_le hmore connections)
    refine ⟨hmore.trans hrest.1, ?_, ?_, ?_⟩
    · cases closed with
      | false =>
        -- an open connection was not seen closed before
        have hopen : conn ∉ ph.seenClosed := by
          intro hseen
          exact Bool.false_ne_true (hanswer hseen)
        show (conn :: rest).length ≤ _
        unfold unseen at hcount ⊢
        rw [List.filter_cons_of_pos (by simp [hopen])]
        exact Nat.succ_le_succ hcount
      | true =>
        show rest.length ≤ _
        unfold unseen at hcount ⊢
        rw [List.filter_cons]
        split
        · exact hcount.trans (Nat.le_succ _)
        · exact hcount
    · intro c hc
      cases closed with
      | false =>
        rcases List.mem_cons.mp hc with rfl | hc
        · exact List.mem_cons_self
        · exact List.mem_cons_of_mem _ (hrest.2.2.1 c hc)
      | true => exact List.mem_cons_of_mem _ (hrest.2.2.1 c hc)
    · intro c hc hopen
      rcases List.mem_cons.mp hc with rfl | hc
      · cases closed with
        | false => exact List.mem_cons_self
        | true => exact absurd (hrest.1.seen c List.mem_cons_self) hopen
      · have hkept := hrest.2.2.2 c hc hopen
        cases closed with
        | false => exact List.mem_cons_of_mem _ hkept
        | true => exact hkept

/-- The connect loop adds at most one connection a turn; it needs leave to mark the hop as
recovering when it starts with nothing. -/
theorem follows_createConnections (addr : String) (toCreate remaining : Nat)
    (newConns : List Nat) (ph : TickPhase) (hstarted : ph.started = some .healthy)
    (hmark : newConns = [] → (tickProtocol connPerHop).allowed ph (.storeState .recovering)) :
    Follows (tickProtocol connPerHop)
      (fun ph' created => SeesMore ph ph' ∧ created.length ≤ newConns.length + remaining ∧
        (∀ conn ∈ created, conn ∈ newConns ∨ conn ∈ ph'.made) ∧
        ∀ conn ∈ newConns, conn ∈ created) ph
      (createConnections addr toCreate remaining newConns) := by
  induction remaining generalizing newConns ph with
  | zero => exact ⟨SeesMore.refl ph, Nat.le_refl _, fun _ h => Or.inl h, fun _ h => h⟩
  | succ remaining ih =>
    apply follows_perform_bind trivial
    intro answer _
    cases answer with
    | ok conn =>
      have hmore : SeesMore ph { ph with made := conn :: ph.made } :=
        ⟨rfl, rfl, rfl, fun _ h => h, fun _ h => List.mem_cons_of_mem _ h⟩
      have hnext := ih (newConns ++ [conn]) { ph with made := conn :: ph.made } hstarted
        (fun hnil => absurd hnil (by simp))
      apply follows_mono _ hnext
      intro ph' created hcreated
      obtain ⟨hmore', hlength, hmade, hkeeps⟩ := hcreated
      refine ⟨hmore.trans hmore', ?_, ?_, fun c hc => hkeeps c (List.mem_append_left _ hc)⟩
      · rw [List.length_append, List.length_singleton] at hlength
        omega
      · intro c hc
        rcases hmade c hc with hmem | hmem
        · rcases List.mem_append.mp hmem with hold | hnew
          · exact Or.inl hold
          · rw [List.mem_singleton.mp hnew]
            exact Or.inr (hmore'.made conn List.mem_cons_self)
        · exact Or.inr hmem
    | error e =>
      have hnext : Follows (tickProtocol connPerHop)
          (fun ph' created => SeesMore ph ph' ∧
            created.length ≤ newConns.length + (remaining + 1) ∧
            (∀ conn ∈ created, conn ∈ newConns ∨ conn ∈ ph'.made) ∧
            ∀ conn ∈ newConns, conn ∈ created) ph
          (createConnections addr toCreate remaining newConns) := by
        apply follows_mono _ (ih newConns ph hstarted hmark)
        intro ph' created hcreated
        exact ⟨hcreated.1, hcreated.2.1.trans (by omega), hcreated.2.2⟩
      show Follows (tickProtocol connPerHop) _ ph
        (if newConns = [] ∧ toCreate > 1 then
          HopM.storeState .recovering >>=
            fun _ => createConnections addr toCreate remaining newConns
        else createConnections addr toCreate remaining newConns)
      split
      · rename_i hnone
        apply follows_perform_bind (hmark hnone.1)
        intro _ _
        have hphase : (tickProtocol connPerHop).next ph (.storeState .recovering) () = ph := by
          show (if ph.started = some .unavailable then _ else ph) = ph
          rw [hstarted]
          rfl
        rw [hphase]
        exact hnext
      · exact hnext

theorem follows_fillConnections (old : List Nat) (toCreate : Nat) (addr : String) (ph : TickPhase)
    (hstarted : ph.started = some .healthy) (hloaded : ph.loaded = some old)
    (hroom : (unseen ph old).length + toCreate ≤ max connPerHop 1) :
    Follows (tickProtocol connPerHop) (fun _ _ => True) ph (fillConnections old toCreate addr) := by
  apply follows_bind (follows_openConnections connPerHop old ph)
  intro ph' survivors hsurvivors
  have hloaded' : ph'.loaded = some old := hsurvivors.1.loaded.trans hloaded
  have hcreate := follows_createConnections connPerHop addr toCreate toCreate survivors ph'
    (hsurvivors.1.started.trans hstarted) (by
    -- with no survivors every connection of the set has been seen closed
    intro hnone
    refine Or.inr ⟨hsurvivors.1.started.trans hstarted, old, hloaded', fun conn hconn => ?_⟩
    by_contra hopen
    have hkept := hsurvivors.2.2.2 conn hconn hopen
    rw [hnone] at hkept
    exact List.not_mem_nil hkept)
  apply follows_bind hcreate
  intro ph'' newConns hnew
  obtain ⟨hmore, hlength, hmade, hkeeps⟩ := hnew
  have hloaded'' : ph''.loaded = some old := hmore.loaded.trans hloaded'
  have hbound : newConns.length ≤ max connPerHop 1 := by
    have hfew := hsurvivors.2.1
    omega
  split
  · have hstarted'' : ph''.started = some .healthy :=
      (hmore.started.trans hsurvivors.1.started).trans hstarted
    refine ⟨⟨hbound, ?_, Or.inr ⟨hstarted'', old, hloaded'', ?_⟩⟩, fun _ _ => trivial⟩
    · intro conn hconn
      rcases hmade conn hconn with hsurvivor | hnew
      · exact Or.inr ⟨old, hloaded'', hsurvivors.2.2.1 conn hsurvivor⟩
      · exact Or.inl hnew
    · intro conn hconn hopen
      apply hkeeps
      exact hsurvivors.2.2.2 conn hconn (fun hseen => hopen (hmore.seen conn hseen))
  · trivial

theorem follows_ensureConnections (ph : TickPhase) (hstarted : ph.started = some .healthy) :
    Follows (tickProtocol connPerHop) (fun _ _ => True) ph (ensureConnections connPerHop) := by
  apply follows_perform_bind trivial
  intro connections _
  apply follows_bind (follows_liveCount connPerHop connections _)
  intro ph' live hlive
  have hstarted' : ph'.started = some .healthy := hlive.1.started.trans hstarted
  have hloaded' : ph'.loaded = some connections := hlive.1.loaded
  have hfill : ∀ addr, live < max connPerHop 1 → Follows (tickProtocol connPerHop)
      (fun _ _ => True) ph' (fillConnections connections (max connPerHop 1 - live) addr) := by
    intro addr hless
    apply follows_fillConnections connPerHop connections _ addr ph' hstarted' hloaded'
    have hcount := hlive.2
    omega
  split
  · rename_i hless
    apply follows_perform_bind trivial
    intro address _
    cases address with
    | some addr => exact hfill addr hless
    | none =>
      apply follows_perform_bind trivial
      intro resolved _
      cases resolved with
      | ok addr => exact follows_perform_bind trivial (fun _ _ => hfill addr hless)
      | error e => trivial
  · trivial

/-- A reconnect that succeeds replaces the set, one that fails does nothing. -/
theorem follows_tryReconnect (addr : String) (ph : TickPhase)
    (hstarted : ph.started = some .recovering) (hacted : ph.acted = false) :
    Follows (tickProtocol connPerHop)
      (fun ph' success => ph'.started = some .recovering ∧ (success = false → ph' = ph)) ph
      (tryReconnect addr) := by
  apply follows_perform_bind trivial
  intro answer _
  cases answer with
  | ok conn =>
    apply follows_perform_bind
    · refine ⟨Nat.le_max_right _ _, ?_, Or.inl ⟨hstarted, hacted⟩⟩
      intro c hc
      rw [List.mem_singleton.mp hc]
      exact Or.inl List.mem_cons_self
    · exact fun _ _ => ⟨hstarted, fun hfalse => absurd hfalse Bool.true_eq_false.mp⟩
  | error e => exact ⟨hstarted, fun _ => rfl⟩

theorem follows_resolveAndReconnect (ph : TickPhase) (hstarted : ph.started = some .recovering)
    (hacted : ph.acted = false) :
    Follows (tickProtocol connPerHop) (fun _ _ => True) ph resolveAndReconnect := by
  apply follows_perform_bind trivial
  intro answer _
  cases answer with
  | error e => trivial
  | ok addr =>
    apply follows_perform_bind trivial
    intro _ _
    apply follows_bind (follows_tryReconnect connPerHop addr ph hstarted hacted)
    intro ph' success hsuccess
    split
    · exact ⟨hsuccess.1, fun _ _ => trivial⟩
    · trivial

theorem follows_maintenanceTick :
    Follows (tickProtocol connPerHop) (fun _ _ => True) TickPhase.idle
      (maintenanceTick connPerHop) := by
  apply follows_perform_bind rfl
  intro state _
  cases state with
  | healthy => exact follows_ensureConnections connPerHop _ rfl
  | recovering =>
    apply follows_perform_bind trivial
    intro address _
    cases address with
    | none => exact follows_resolveAndReconnect connPerHop _ rfl rfl
    | some addr =>
      apply follows_bind (follows_tryReconnect connPerHop addr _ rfl rfl)
      intro ph' success hsuccess
      split
      · exact ⟨hsuccess.1, fun _ _ => trivial⟩
      · rename_i hfalse
        rw [hsuccess.2 (Bool.eq_false_iff.mpr hfalse)]
        exact follows_resolveAndReconnect connPerHop _ rfl rfl
  | unavailable =>
    apply follows_perform_bind trivial
    intro address _
    show Follows (tickProtocol connPerHop) _ _
      (if address.isSome = true then HopM.storeState .recovering else pure ())
    split
    · exact ⟨Or.inl ⟨rfl, rfl⟩, fun _ _ => trivial⟩
    · trivial

/-! ## What a call for the address does -/

/-- Calls for the address store addresses, and no state but `Unavailable`. -/
def addressProtocol : Protocol HopOp HopOp.Ret Unit where
  allowed _
    | .storeConnections _ => False
    | .storeState state => state = .unavailable
    | _ => True
  answers _ _ _ := True
  next _ _ _ := ()

theorem follows_ensureAddress : Follows addressProtocol (fun _ _ => True) () ensureAddress := by
  apply follows_perform_bind trivial
  intro address _
  cases address with
  | some addr => trivial
  | none =>
    apply follows_perform_bind trivial
    intro resolved _
    cases resolved with
    | ok addr => exact follows_perform_bind trivial (fun _ _ => trivial)
    | error e => exact follows_perform_bind rfl (fun _ _ => trivial)

theorem follows_addressCall (call : AddressCall) :
    Follows addressProtocol (fun _ _ => True) () call.prog := by
  cases call with
  | ensure => exact follows_ensureAddress
  | resolve =>
    apply follows_perform_bind trivial
    intro address _
    cases address with
    | some addr => trivial
    | none => exact follows_ensureAddress

end Follows

/-! ## What a step keeps -/

/-- A connection is established before it stands anywhere. -/
structure HopFields.Known (h : HopFields) : Prop where
  connections : ∀ conn ∈ h.connections, conn < h.established
  closed : ∀ conn ∈ h.closed, conn < h.established
  held : ∀ conn ∈ h.held, conn < h.established

namespace HopFields

variable {h : HopFields}

theorem known_new : new.Known where
  connections := fun _ hconn => absurd hconn List.not_mem_nil
  closed := fun _ hconn => absurd hconn (Finset.notMem_empty _)
  held := fun _ hconn => absurd hconn (Finset.notMem_empty _)

theorem Known.perform (hknown : h.Known) {env : Surroundings} {o : HopOp}
    (hstore : ∀ connections, o = .storeConnections connections →
      ∀ conn ∈ connections, conn < h.established) : (h.perform env o).1.Known := by
  have hgrows := @established_le_perform env h o
  constructor
  · intro conn hconn
    by_cases hset : ∃ connections, o = .storeConnections connections
    · obtain ⟨connections, rfl⟩ := hset
      exact hstore connections rfl conn hconn
    · rw [perform_connections h (fun connections hsame => hset ⟨connections, hsame⟩)] at hconn
      exact (hknown.connections conn hconn).trans_le hgrows
  · intro conn hconn
    rcases (mem_closed_perform h o).mp hconn with hclosed | ⟨connections, -, hdropped⟩
    · exact (hknown.closed conn hclosed).trans_le hgrows
    · exact (hknown.connections conn ((mem_dropped h).mp hdropped).1).trans_le hgrows
  · intro conn hconn
    rw [perform_held] at hconn
    exact (hknown.held conn hconn).trans_le hgrows

theorem Known.close (hknown : h.Known) {conn : Nat} (hconn : conn < h.established) :
    ({ h with closed := insert conn h.closed } : HopFields).Known where
  connections := hknown.connections
  closed := by
    intro c hc
    rcases Finset.mem_insert.mp hc with rfl | hold
    · exact hconn
    · exact hknown.closed c hold
  held := hknown.held

theorem Known.hold (hknown : h.Known) {conn : Nat} (hconn : conn ∈ h.connections) :
    (h.hold conn).Known where
  connections := hknown.connections
  closed := hknown.closed
  held := by
    intro c hc
    rcases Finset.mem_insert.mp hc with rfl | hold
    · exact hknown.connections c hconn
    · exact hknown.held c hold

theorem Known.release (hknown : h.Known) {conn : Nat} (hconn : conn ∈ h.held) :
    (h.release conn).Known where
  connections := hknown.connections
  closed := by
    intro c hc
    change c ∈ (if conn ∈ h.connections then h.closed else insert conn h.closed) at hc
    split at hc
    · exact hknown.closed c hc
    · rcases Finset.mem_insert.mp hc with rfl | hold
      · exact hknown.held c hconn
      · exact hknown.closed c hold
  held := fun c hc => hknown.held c (Finset.mem_of_mem_erase hc)

end HopFields

namespace HopSystem

variable {ι : Type} [DecidableEq ι] {connPerHop : Nat}

/-- The tick follows its rules, and what it knows about the set is right. -/
structure TickInv (connPerHop : Nat) (s : HopSystem ι) (ph : TickPhase) : Prop where
  follows : Follows (tickProtocol connPerHop) (fun _ _ => True) ph s.tick
  calls : ∀ i, Follows addressProtocol (fun _ _ => True) () (s.calls i)
  loaded : ∀ old, ph.loaded = some old → s.fields.connections = old
  seen : ∀ conn ∈ ph.seenClosed, conn ∈ s.fields.closed
  made : ∀ conn ∈ ph.made, conn < s.fields.established
  known : s.fields.Known
  bound : s.fields.connections.length ≤ max connPerHop 1

omit [DecidableEq ι] in
theorem tickInv_init (connPerHop : Nat) (calls : ι → AddressCall) :
    TickInv connPerHop (init calls) TickPhase.idle where
  follows := trivial
  calls := fun i => follows_addressCall (calls i)
  loaded := by
    intro old h
    cases h
  seen := fun _ h => absurd h List.not_mem_nil
  made := fun _ h => absurd h List.not_mem_nil
  known := HopFields.known_new
  bound := Nat.zero_le _

/-- The system after the next operation of the tick. -/
def afterTick (s : HopSystem ι) (env : Surroundings) (o : HopOp) (k : o.Ret → HopM Unit) :
    HopSystem ι :=
  { s with fields := (s.fields.perform env o).1, tick := k (s.fields.perform env o).2 }

/-- The phase after the next operation of the tick. -/
def nextPhase (connPerHop : Nat) (s : HopSystem ι) (env : Surroundings) (ph : TickPhase)
    (o : HopOp) : TickPhase :=
  (tickProtocol connPerHop).next ph o (s.fields.perform env o).2

section Tick

variable {s : HopSystem ι} {ph : TickPhase} {env : Surroundings}

omit [DecidableEq ι] in
theorem answers_perform (h : TickInv connPerHop s ph) (o : HopOp) :
    (tickProtocol connPerHop).answers ph o (s.fields.perform env o).2 := by
  cases o with
  | isClosed conn => exact fun hseen => decide_eq_true (h.seen conn hseen)
  | _ => trivial

/-- What an operation of the tick tells it. -/
inductive Learns (s : HopSystem ι) (env : Surroundings) (ph : TickPhase) : HopOp → TickPhase → Prop
  | nothing (o : HopOp) (hstore : ∀ connections, o ≠ .storeConnections connections) :
      Learns s env ph o ph
  | state : Learns s env ph .loadState { ph with started := some s.fields.state }
  | set : Learns s env ph .loadConnections { ph with loaded := some s.fields.connections }
  | closed (conn : Nat) (hclosed : conn ∈ s.fields.closed) :
      Learns s env ph (.isClosed conn) { ph with seenClosed := conn :: ph.seenClosed }
  | made (addr : String)
      (hmade : s.fields.established < (s.fields.perform env (.connect addr)).1.established) :
      Learns s env ph (.connect addr) { ph with made := s.fields.established :: ph.made }
  | stored (connections : List Nat) :
      Learns s env ph (.storeConnections connections) { ph with acted := true, loaded := none }
  | marked : Learns s env ph (.storeState .recovering) { ph with acted := true }

omit [DecidableEq ι] in
theorem learns_nextPhase (s : HopSystem ι) (env : Surroundings) (ph : TickPhase) (o : HopOp) :
    Learns s env ph o (nextPhase connPerHop s env ph o) := by
  unfold nextPhase
  cases o with
  | loadState => exact .state
  | loadConnections => exact .set
  | isClosed conn =>
    rw [HopFields.perform_isClosed]
    by_cases hclosed : conn ∈ s.fields.closed
    · simp only [hclosed, decide_true]
      exact .closed conn hclosed
    · simp only [hclosed, decide_false]
      exact .nothing _ (fun _ => HopOp.noConfusion)
  | storeState state =>
    cases state with
    | recovering =>
      show Learns s env ph _
        (if ph.started = some .unavailable then { ph with acted := true } else ph)
      split
      · exact .marked
      · exact .nothing _ (fun _ => HopOp.noConfusion)
    | _ => exact .nothing _ (fun _ => HopOp.noConfusion)
  | storeConnections connections => exact .stored connections
  | connect addr =>
    cases hconnect : env.connect addr with
    | ok u =>
      have hperform := HopFields.perform_connect_ok s.fields hconnect
      rw [hperform]
      refine .made addr ?_
      rw [hperform]
      exact Nat.lt_succ_self _
    | error e =>
      rw [HopFields.perform_connect_error _ hconnect]
      exact .nothing _ (fun _ => HopOp.noConfusion)
  | _ => exact .nothing _ (fun _ => HopOp.noConfusion)

omit [DecidableEq ι] in
theorem seen_nextPhase (h : TickInv connPerHop s ph) (o : HopOp) {conn : Nat}
    (hconn : conn ∈ (nextPhase connPerHop s env ph o).seenClosed) :
    conn ∈ s.fields.closed := by
  have hlearns := @learns_nextPhase _ connPerHop s env ph o
  generalize nextPhase connPerHop s env ph o = ph' at hlearns hconn
  cases hlearns with
  | closed c hclosed =>
    rcases List.mem_cons.mp hconn with rfl | hold
    · exact hclosed
    · exact h.seen conn hold
  | _ => exact h.seen conn hconn

omit [DecidableEq ι] in
theorem loaded_nextPhase (h : TickInv connPerHop s ph) (o : HopOp) {old : List Nat}
    (hold : (nextPhase connPerHop s env ph o).loaded = some old) : s.fields.connections = old := by
  have hlearns := @learns_nextPhase _ connPerHop s env ph o
  generalize nextPhase connPerHop s env ph o = ph' at hlearns hold
  cases hlearns with
  | set => exact Option.some.inj hold
  | stored connections => cases hold
  | _ => exact h.loaded old hold

omit [DecidableEq ι] in
/-- The state that a tick goes by is the one it has loaded. -/
theorem started_nextPhase (s : HopSystem ι) (ph : TickPhase) (o : HopOp) :
    (nextPhase connPerHop s env ph o).started = ph.started ∨
      o = .loadState ∧ (nextPhase connPerHop s env ph o).started = some s.fields.state := by
  have hlearns := @learns_nextPhase _ connPerHop s env ph o
  generalize nextPhase connPerHop s env ph o = ph' at hlearns ⊢
  cases hlearns with
  | state => exact Or.inr ⟨rfl, rfl⟩
  | _ => exact Or.inl rfl

omit [DecidableEq ι] in
/-- A tick that has not acted has stored no set. -/
theorem acted_nextPhase {o : HopOp} (hacted : (nextPhase connPerHop s env ph o).acted = false) :
    ph.acted = false ∧ ∀ connections, o ≠ .storeConnections connections := by
  have hlearns := @learns_nextPhase _ connPerHop s env ph o
  generalize nextPhase connPerHop s env ph o = ph' at hlearns hacted
  cases hlearns with
  | nothing o hstore => exact ⟨hacted, hstore⟩
  | stored connections => cases hacted
  | marked => cases hacted
  | _ => exact ⟨hacted, fun _ => HopOp.noConfusion⟩

omit [DecidableEq ι] in
theorem made_nextPhase (h : TickInv connPerHop s ph) (o : HopOp) {conn : Nat}
    (hconn : conn ∈ (nextPhase connPerHop s env ph o).made) :
    conn < (s.fields.perform env o).1.established := by
  have hgrows := @HopFields.established_le_perform env s.fields o
  have hlearns := @learns_nextPhase _ connPerHop s env ph o
  generalize nextPhase connPerHop s env ph o = ph' at hlearns hconn
  cases hlearns with
  | made addr hmade =>
    rcases List.mem_cons.mp hconn with rfl | hold
    · exact hmade
    · exact (h.made conn hold).trans_le hgrows
  | _ => exact (h.made conn hconn).trans_le hgrows

omit [DecidableEq ι] in
theorem tickInv_afterTick (h : TickInv connPerHop s ph) {o : HopOp} {k : o.Ret → HopM Unit}
    (htick : s.tick = .op o k) :
    TickInv connPerHop (s.afterTick env o k) (nextPhase connPerHop s env ph o) := by
  have hfollows := h.follows
  rw [htick] at hfollows
  obtain ⟨hallowed, hnext⟩ := hfollows
  have hknown : (s.afterTick env o k).fields.Known := by
    apply h.known.perform
    rintro connections rfl conn hconn
    rcases hallowed.2.1 conn hconn with hmade | ⟨old, hloaded, hold⟩
    · exact h.made conn hmade
    · apply h.known.connections conn
      rw [h.loaded old hloaded]
      exact hold
  -- only storing a set changes the set
  by_cases hstore : ∃ connections, o = .storeConnections connections
  · obtain ⟨connections, rfl⟩ := hstore
    constructor
    · exact hnext _ (answers_perform h _)
    · exact h.calls
    · intro old hold
      cases hold
    · exact fun conn hconn => HopFields.closed_subset_perform _ _ (h.seen conn hconn)
    · exact fun conn hconn => h.made conn hconn
    · exact hknown
    · exact hallowed.1
  · have hconnections : (s.afterTick env o k).fields.connections = s.fields.connections :=
      HopFields.perform_connections _ (fun c hc => hstore ⟨c, hc⟩)
    constructor
    · exact hnext _ (answers_perform h o)
    · exact h.calls
    · exact fun old hold => hconnections.trans (loaded_nextPhase h o hold)
    · exact fun conn hconn => HopFields.closed_subset_perform _ o (seen_nextPhase h o hconn)
    · exact fun conn hconn => made_nextPhase h o hconn
    · exact hknown
    · rw [hconnections]
      exact h.bound

end Tick

omit [DecidableEq ι] in
theorem tickInv_interval {s : HopSystem ι} {ph : TickPhase} (h : TickInv connPerHop s ph) :
    TickInv connPerHop { s with tick := maintenanceTick connPerHop } TickPhase.idle where
  follows := follows_maintenanceTick connPerHop
  calls := h.calls
  loaded := by
    intro old hold
    cases hold
  seen := fun conn hconn => absurd hconn List.not_mem_nil
  made := fun conn hconn => absurd hconn List.not_mem_nil
  known := h.known
  bound := h.bound

omit [DecidableEq ι] in
/-- The tick goes on as before when only closed and held connections change. -/
theorem TickInv.of_fields {s : HopSystem ι} {ph : TickPhase} (h : TickInv connPerHop s ph)
    {fields : HopFields} (hconnections : fields.connections = s.fields.connections)
    (hestablished : fields.established = s.fields.established)
    (hclosed : s.fields.closed ⊆ fields.closed) (hknown : fields.Known) :
    TickInv connPerHop { s with fields := fields } ph where
  follows := h.follows
  calls := h.calls
  loaded := fun old hold => hconnections.trans (h.loaded old hold)
  seen := fun conn hconn => hclosed (h.seen conn hconn)
  made := by
    intro conn hconn
    rw [hestablished]
    exact h.made conn hconn
  known := hknown
  bound := by
    rw [hconnections]
    exact h.bound

omit [DecidableEq ι] in
theorem tickInv_close {s : HopSystem ι} {ph : TickPhase} (h : TickInv connPerHop s ph)
    {conn : Nat} (hconn : conn < s.fields.established) :
    TickInv connPerHop
      { s with fields := { s.fields with closed := insert conn s.fields.closed } } ph :=
  h.of_fields rfl rfl (Finset.subset_insert _ _) (h.known.close hconn)

/-- The system after the next operation of a call. -/
def afterCall (s : HopSystem ι) (i : ι) (env : Surroundings) (o : HopOp)
    (k : o.Ret → HopM (Option String)) : HopSystem ι :=
  { s with
    fields := (s.fields.perform env o).1
    calls := Function.update s.calls i (k (s.fields.perform env o).2) }

section Call

variable {s : HopSystem ι} {ph : TickPhase} {i : ι} {env : Surroundings} {o : HopOp}
  {k : o.Ret → HopM (Option String)}

omit [DecidableEq ι] in
theorem allowed_call (h : TickInv connPerHop s ph) (hcall : s.calls i = .op o k) :
    addressProtocol.allowed () o ∧ ∀ r, Follows addressProtocol (fun _ _ => True) () (k r) := by
  have hfollows := h.calls i
  rw [hcall] at hfollows
  exact ⟨hfollows.1, fun r => hfollows.2 r trivial⟩

theorem connections_afterCall (h : TickInv connPerHop s ph) (hcall : s.calls i = .op o k) :
    (s.afterCall i env o k).fields.connections = s.fields.connections := by
  apply HopFields.perform_connections
  rintro connections rfl
  exact (allowed_call h hcall).1

theorem tickInv_afterCall (h : TickInv connPerHop s ph) (hcall : s.calls i = .op o k) :
    TickInv connPerHop (s.afterCall i env o k) ph := by
  have hconnections := @connections_afterCall _ _ _ _ _ _ env _ _ h hcall
  have hgrows := @HopFields.established_le_perform env s.fields o
  constructor
  · exact h.follows
  · intro j
    show Follows addressProtocol _ () (Function.update s.calls i _ j)
    by_cases hj : j = i
    · subst hj
      rw [Function.update_self]
      exact (allowed_call h hcall).2 _
    · rw [Function.update_of_ne hj]
      exact h.calls j
  · exact fun old hold => hconnections.trans (h.loaded old hold)
  · exact fun conn hconn => HopFields.closed_subset_perform _ o (h.seen conn hconn)
  · exact fun conn hconn => (h.made conn hconn).trans_le hgrows
  · apply h.known.perform
    rintro connections rfl
    exact (allowed_call h hcall).1.elim
  · rw [hconnections]
    exact h.bound

/-- A call closes nothing. -/
theorem closed_afterCall (h : TickInv connPerHop s ph) (hcall : s.calls i = .op o k) :
    (s.afterCall i env o k).fields.closed = s.fields.closed := by
  apply HopFields.perform_closed
  rintro connections rfl
  exact (allowed_call h hcall).1

end Call

/-- The phase of the tick after an event. -/
def phaseAfter (connPerHop : Nat) (s : HopSystem ι) (ph : TickPhase) : UpkeepEvent ι → TickPhase
  | .interval => TickPhase.idle
  | .tick env =>
    match s.tick with
    | .ret _ => ph
    | .op o _ => nextPhase connPerHop s env ph o
  | _ => ph

theorem tickInv_step {s s' : HopSystem ι} {e : UpkeepEvent ι} {ph : TickPhase}
    (h : TickInv connPerHop s ph) (hstep : step connPerHop s e = some s') :
    TickInv connPerHop s' (phaseAfter connPerHop s ph e) := by
  cases moves_of_step hstep with
  | interval hidle => exact tickInv_interval h
  | tick env o k htick =>
    unfold phaseAfter
    simp only [htick]
    exact tickInv_afterTick h htick
  | call i env o k hcall => exact tickInv_afterCall h hcall
  | close conn hconn => exact tickInv_close h hconn
  | hold conn hconn => exact h.of_fields rfl rfl (Finset.Subset.refl _) (h.known.hold hconn)
  | release conn hconn =>
    exact h.of_fields rfl rfl (HopFields.closed_subset_release _ _) (h.known.release hconn)

theorem tickInv_of_run {es : List (UpkeepEvent ι)} {s s' : HopSystem ι} {ph : TickPhase}
    (h : TickInv connPerHop s ph) (hrun : run (step connPerHop) s es = some s') :
    ∃ ph', TickInv connPerHop s' ph' := by
  refine invariant_of_run (I := fun t => ∃ ph, TickInv connPerHop t ph) ?_ ⟨ph, h⟩ hrun
  rintro t e t' ⟨ph, hph⟩ hstep
  exact ⟨_, tickInv_step hph hstep⟩

theorem tickInv_run {calls : ι → AddressCall} {es : List (UpkeepEvent ι)} {s : HopSystem ι}
    (hrun : run (step connPerHop) (init calls) es = some s) : ∃ ph, TickInv connPerHop s ph :=
  tickInv_of_run (tickInv_init connPerHop calls) hrun

theorem established_step {s s' : HopSystem ι} {e : UpkeepEvent ι}
    (hstep : step connPerHop s e = some s') : s.fields.established ≤ s'.fields.established := by
  cases moves_of_step hstep with
  | tick env o k htick => exact HopFields.established_le_perform _ o
  | call i env o k hcall => exact HopFields.established_le_perform _ o
  | _ => exact Nat.le_refl _

theorem closed_step {s s' : HopSystem ι} {e : UpkeepEvent ι}
    (hstep : step connPerHop s e = some s') : s.fields.closed ⊆ s'.fields.closed := by
  cases moves_of_step hstep with
  | interval hidle => exact Finset.Subset.refl _
  | tick env o k htick => exact HopFields.closed_subset_perform _ o
  | call i env o k hcall => exact HopFields.closed_subset_perform _ o
  | close conn hconn => exact Finset.subset_insert _ _
  | hold conn hconn => exact Finset.Subset.refl _
  | release conn hconn => exact HopFields.closed_subset_release _ _

end HopSystem

end RzRouter
