import RzRouter.Hop.LiveConnections

/-!
# Retired hops (`hop.rs`, `shutdown`)

The registry shuts a hop down when no route leads to it any more: `shutdown` tells the maintenance
loop to stop and closes the connections that it finds in the set.  The loop does not look up before
its tick has ended, so the two can cross.  The set itself goes with the last handle of the hop.
-/

namespace RzRouter

open Program Transition

/-- How far `shutdown` is. -/
inductive Shutdown
  | pending
  | cancelled
  /-- In its loop over the set that it has loaded. -/
  | closing (remaining : List Nat)
  | done
  deriving DecidableEq, Repr

/-- A hop with its maintenance loop and its shutdown.  The loop, the shutdown and the calls under
way each have a handle of the hop. -/
structure RetiringHop (ι : Type) where
  hop : HopSystem ι
  /-- The maintenance loop has not returned. -/
  looping : Bool
  shutdown : Shutdown
  /-- The calls for the address that are under way. -/
  callers : Finset ι
  /-- The last handle of the hop has gone. -/
  dropped : Bool

inductive RetireEvent (ι : Type)
  | upkeep (e : UpkeepEvent ι)
  /-- The maintenance loop returns. -/
  | leave
  | cancel
  | load
  | close
  /-- The last handle of the hop goes. -/
  | drop

/-- The set goes with the hop, and with it the last handles of the connections that nobody else
has one of. -/
def HopFields.drop (h : HopFields) : HopFields :=
  { h with
    connections := []
    closed := h.closed ∪ (h.dropped []).toFinset }

namespace RetiringHop

variable {ι : Type} [DecidableEq ι]

def init (calls : ι → AddressCall) : RetiringHop ι :=
  ⟨HopSystem.init calls, true, .pending, ∅, false⟩

/-- A step of the tasks of the hop; the loop may start a tick after it was told to stop, since
`select!` takes any branch that is ready. -/
def stepHop (connPerHop : Nat) (s : RetiringHop ι) (e : UpkeepEvent ι) : Option (RetiringHop ι) :=
  (s.hop.step connPerHop e).map (fun hop => { s with hop := hop })

/-- A step of a call; it has a handle of the hop from its first operation to its last. -/
def stepCall (connPerHop : Nat) (s : RetiringHop ι) (i : ι) (env : Surroundings) :
    Option (RetiringHop ι) :=
  (s.hop.step connPerHop (.call i env)).map (fun hop =>
    match hop.calls i with
    | .ret _ => { s with hop := hop, callers := s.callers.erase i }
    | .op _ _ => { s with hop := hop, callers := insert i s.callers })

/-- One step. -/
def step (connPerHop : Nat) (s : RetiringHop ι) : RetireEvent ι → Option (RetiringHop ι)
  | .upkeep .interval => if s.looping then s.stepHop connPerHop .interval else none
  | .upkeep (.call i env) => if s.dropped then none else s.stepCall connPerHop i env
  | .upkeep e => s.stepHop connPerHop e
  | .leave =>
    match s.hop.tick with
    | .ret _ =>
      if s.looping ∧ s.shutdown ≠ .pending then some { s with looping := false } else none
    | .op _ _ => none
  | .cancel => if s.shutdown = .pending then some { s with shutdown := .cancelled } else none
  | .load =>
    if s.shutdown = .cancelled then
      some { s with shutdown := .closing s.hop.fields.connections }
    else none
  | .close =>
    match s.shutdown with
    | .closing (conn :: remaining) =>
      some { s with
        hop.fields.closed := insert conn s.hop.fields.closed
        shutdown := .closing remaining }
    | .closing [] => some { s with shutdown := .done }
    | _ => none
  | .drop =>
    if s.looping = false ∧ s.shutdown = .done ∧ s.callers = ∅ ∧ s.dropped = false then
      some { s with hop.fields := s.hop.fields.drop, dropped := true }
    else none

/-- What a step can be. -/
inductive Moves (connPerHop : Nat) (s : RetiringHop ι) : RetireEvent ι → RetiringHop ι → Prop
  | upkeep (e : UpkeepEvent ι) (hop : HopSystem ι) (callers : Finset ι)
      (hstep : s.hop.step connPerHop e = some hop) (hloop : e = .interval → s.looping = true) :
      Moves connPerHop s (.upkeep e) { s with hop := hop, callers := callers }
  | leave (hidle : s.hop.tick = .ret ()) : Moves connPerHop s .leave { s with looping := false }
  | cancel (hpending : s.shutdown = .pending) :
      Moves connPerHop s .cancel { s with shutdown := .cancelled }
  | load (hcancelled : s.shutdown = .cancelled) :
      Moves connPerHop s .load { s with shutdown := .closing s.hop.fields.connections }
  | close (conn : Nat) (remaining : List Nat)
      (hclosing : s.shutdown = .closing (conn :: remaining)) :
      Moves connPerHop s .close
        { s with
          hop.fields.closed := insert conn s.hop.fields.closed
          shutdown := .closing remaining }
  | done (hclosing : s.shutdown = .closing []) :
      Moves connPerHop s .close { s with shutdown := .done }
  | drop (hleft : s.looping = false) (hdone : s.shutdown = .done) (hthere : s.dropped = false) :
      Moves connPerHop s .drop { s with hop.fields := s.hop.fields.drop, dropped := true }

theorem moves_of_step {connPerHop : Nat} {s s' : RetiringHop ι} {e : RetireEvent ι}
    (h : step connPerHop s e = some s') : Moves connPerHop s e s' := by
  cases e with
  | upkeep e =>
    have hhop : s.stepHop connPerHop e = some s' → (e = .interval → s.looping = true) →
        Moves connPerHop s (.upkeep e) s' := by
      intro hstep hloop
      obtain ⟨hop, hhop, rfl⟩ := Option.map_eq_some_iff.mp hstep
      exact .upkeep e hop s.callers hhop hloop
    cases e with
    | interval =>
      unfold step at h
      simp only at h
      split at h
      · rename_i hlooping
        exact hhop h (fun _ => hlooping)
      · cases h
    | call i env =>
      unfold step at h
      simp only at h
      split at h
      · cases h
      · obtain ⟨hop, hcall, hs'⟩ := Option.map_eq_some_iff.mp h
        have hloop : UpkeepEvent.call i env = .interval → s.looping = true :=
          fun hinterval => by cases hinterval
        split at hs'
        · rw [← hs']
          exact .upkeep _ hop _ hcall hloop
        · rw [← hs']
          exact .upkeep _ hop _ hcall hloop
    | _ => exact hhop h (fun hinterval => by cases hinterval)
  | leave =>
    unfold step at h
    simp only at h
    split at h
    · rename_i hidle
      split at h
      · cases h
        exact .leave hidle
      · cases h
    · cases h
  | cancel =>
    unfold step at h
    simp only at h
    split at h
    · rename_i hpending
      cases h
      exact .cancel hpending
    · cases h
  | load =>
    unfold step at h
    simp only at h
    split at h
    · rename_i hcancelled
      cases h
      exact .load hcancelled
    · cases h
  | close =>
    unfold step at h
    simp only at h
    split at h
    · rename_i conn remaining hclosing
      cases h
      exact .close conn remaining hclosing
    · rename_i hclosing
      cases h
      exact .done hclosing
    · cases h
  | drop =>
    unfold step at h
    simp only at h
    split at h
    · rename_i hlast
      cases h
      exact .drop hlast.1 hlast.2.1 hlast.2.2.2
    · cases h

/-! ## What every step keeps -/

variable {connPerHop : Nat}

/-- Only a tick stores a set. -/
theorem connections_upkeep {s s' : HopSystem ι} {e : UpkeepEvent ι} {ph : TickPhase}
    (h : HopSystem.TickInv connPerHop s ph) (hstep : s.step connPerHop e = some s') :
    s'.fields.connections = s.fields.connections ∨
      ∃ env connections k, e = .tick env ∧ s.tick = .op (.storeConnections connections) k ∧
        s'.fields.connections = connections := by
  cases HopSystem.moves_of_step hstep with
  | tick env o k htick =>
    by_cases hstore : ∃ connections, o = .storeConnections connections
    · obtain ⟨connections, rfl⟩ := hstore
      exact Or.inr ⟨env, connections, k, rfl, htick, rfl⟩
    · exact Or.inl (HopFields.perform_connections _ (fun c hc => hstore ⟨c, hc⟩))
  | call i env o k hcall => exact Or.inl (HopSystem.connections_afterCall h hcall)
  | _ => exact Or.inl rfl

/-- A maintenance loop that has returned has no tick under way, and a hop that has gone has no
loop and no set. -/
structure LoopInv (connPerHop : Nat) (s : RetiringHop ι) : Prop where
  tick : ∃ ph, HopSystem.TickInv connPerHop s.hop ph
  closing : ∀ remaining, s.shutdown = .closing remaining →
    ∀ conn ∈ remaining, conn < s.hop.fields.established
  idle : s.looping = false → s.hop.tick = .ret ()
  gone : s.dropped = true →
    s.looping = false ∧ s.shutdown = .done ∧ s.hop.fields.connections = []

theorem known_drop {h : HopFields} (hknown : h.Known) : h.drop.Known where
  connections := fun _ hconn => absurd hconn List.not_mem_nil
  closed := by
    intro conn hconn
    rcases Finset.mem_union.mp hconn with hclosed | hdropped
    · exact hknown.closed conn hclosed
    · obtain ⟨hold, -, -⟩ := (HopFields.mem_dropped h).mp (List.mem_toFinset.mp hdropped)
      exact hknown.connections conn hold
  held := hknown.held

omit [DecidableEq ι] in
/-- Without a tick under way the set may go. -/
theorem tickInv_drop {s : HopSystem ι} {ph : TickPhase} (h : HopSystem.TickInv connPerHop s ph)
    (hidle : s.tick = .ret ()) :
    HopSystem.TickInv connPerHop { s with fields := s.fields.drop } TickPhase.idle where
  follows := by
    show Follows _ _ _ s.tick
    rw [hidle]
    trivial
  calls := h.calls
  loaded := by
    intro old hold
    cases hold
  seen := fun _ hconn => absurd hconn List.not_mem_nil
  made := fun _ hconn => absurd hconn List.not_mem_nil
  known := known_drop h.known
  bound := Nat.zero_le _

theorem loopInv_step (s : RetiringHop ι) (e : RetireEvent ι) (s' : RetiringHop ι)
    (hs : LoopInv connPerHop s) (hstep : step connPerHop s e = some s') :
    LoopInv connPerHop s' := by
  obtain ⟨ph, hph⟩ := hs.tick
  cases moves_of_step hstep with
  | upkeep e hop callers hhop hloop =>
    have hph' := HopSystem.tickInv_step hph hhop
    have hidle : s.looping = false → hop.tick = .ret () := by
      intro hleft
      have hidle := hs.idle hleft
      cases HopSystem.moves_of_step hhop with
      | interval htick =>
        rw [hleft] at hloop
        exact absurd (hloop rfl) Bool.false_ne_true
      | tick env o k htick =>
        rw [hidle] at htick
        cases htick
      | _ => exact hidle
    refine ⟨⟨_, hph'⟩, fun remaining hclosing conn hconn => ?_, hidle, fun hgone => ?_⟩
    · exact (hs.closing remaining hclosing conn hconn).trans_le (HopSystem.established_step hhop)
    · obtain ⟨hleft, hdone, hnone⟩ := hs.gone hgone
      refine ⟨hleft, hdone, ?_⟩
      rcases connections_upkeep hph hhop with hsame | ⟨env, connections, k, rfl, htick, -⟩
      · exact hsame.trans hnone
      · rw [hs.idle hleft] at htick
        cases htick
  | leave hidle =>
    exact ⟨⟨ph, hph⟩, hs.closing, fun _ => hidle, fun hgone => ⟨rfl, (hs.gone hgone).2⟩⟩
  | cancel hpending =>
    refine ⟨⟨ph, hph⟩, fun _ => Shutdown.noConfusion, hs.idle, fun hgone => ?_⟩
    rw [(hs.gone hgone).2.1] at hpending
    cases hpending
  | load hcancelled =>
    refine ⟨⟨ph, hph⟩, ?_, hs.idle, fun hgone => ?_⟩
    · intro remaining hclosing
      cases hclosing
      exact hph.known.connections
    · rw [(hs.gone hgone).2.1] at hcancelled
      cases hcancelled
  | close conn remaining hclosing =>
    have hconn := hs.closing _ hclosing
    refine ⟨⟨ph, HopSystem.tickInv_close hph (hconn conn List.mem_cons_self)⟩, ?_, hs.idle,
      fun hgone => ?_⟩
    · intro rest hrest
      cases hrest
      exact fun c hc => hconn c (List.mem_cons_of_mem _ hc)
    · rw [(hs.gone hgone).2.1] at hclosing
      cases hclosing
  | done hclosing =>
    refine ⟨⟨ph, hph⟩, fun _ => Shutdown.noConfusion, hs.idle, fun hgone => ?_⟩
    rw [(hs.gone hgone).2.1] at hclosing
    cases hclosing
  | drop hleft hdone hthere =>
    refine ⟨⟨_, tickInv_drop hph (hs.idle hleft)⟩, ?_, hs.idle, fun _ => ⟨hleft, hdone, rfl⟩⟩
    intro remaining hclosing
    change s.shutdown = .closing remaining at hclosing
    rw [hdone] at hclosing
    cases hclosing

theorem loopInv_of_run {calls : ι → AddressCall} {es : List (RetireEvent ι)} {s : RetiringHop ι}
    (hrun : run (step connPerHop) (init calls) es = some s) : LoopInv connPerHop s :=
  invariant_of_run loopInv_step
    ⟨⟨TickPhase.idle, HopSystem.tickInv_init connPerHop calls⟩, fun _ => Shutdown.noConfusion,
      fun _ => rfl, fun hgone => absurd hgone Bool.false_ne_true⟩ hrun

/-! ## After `shutdown` has loaded the set -/

/-- In the course of these events a tick puts the connection into the set, where it was not. -/
def StoredIn (connPerHop : Nat) (s : RetiringHop ι) (es : List (RetireEvent ι)) (conn : Nat) :
    Prop :=
  ∃ before env after t connections k, es = before ++ .upkeep (.tick env) :: after ∧
    run (step connPerHop) s before = some t ∧
    t.hop.tick = .op (.storeConnections connections) k ∧ conn ∈ connections ∧
    conn ∉ t.hop.fields.connections

/-- What becomes of the connections that `shutdown` has loaded. -/
structure AfterLoad (connPerHop : Nat) (s₀ : RetiringHop ι) (es : List (RetireEvent ι))
    (s : RetiringHop ι) : Prop where
  loop : LoopInv connPerHop s
  begun : s.shutdown ≠ .pending ∧ s.shutdown ≠ .cancelled
  closed : ∀ conn ∈ s₀.hop.fields.connections, conn ∈ s.hop.fields.closed ∨
    ∃ remaining, s.shutdown = .closing remaining ∧ conn ∈ remaining
  stored : ∀ conn ∈ s.hop.fields.connections,
    conn ∈ s₀.hop.fields.connections ∨ StoredIn connPerHop s₀ es conn
  quiet : s₀.looping = false → s.looping = false ∧
    ∀ conn ∈ s.hop.fields.connections, conn ∈ s₀.hop.fields.connections

theorem StoredIn.append {s : RetiringHop ι} {es : List (RetireEvent ι)} {conn : Nat}
    (h : StoredIn connPerHop s es conn) (e : RetireEvent ι) :
    StoredIn connPerHop s (es ++ [e]) conn := by
  obtain ⟨before, env, after, t, connections, k, rfl, hrest⟩ := h
  refine ⟨before, env, after ++ [e], t, connections, k, ?_, hrest⟩
  rw [List.append_assoc, List.cons_append]

theorem afterLoad_step (s₀ : RetiringHop ι) (es : List (RetireEvent ι)) (s : RetiringHop ι)
    (e : RetireEvent ι) (s' : RetiringHop ι) (hrun : run (step connPerHop) s₀ es = some s)
    (hs : AfterLoad connPerHop s₀ es s) (hstep : step connPerHop s e = some s') :
    AfterLoad connPerHop s₀ (es ++ [e]) s' := by
  have hloop := loopInv_step s e s' hs.loop hstep
  obtain ⟨ph, hph⟩ := hs.loop.tick
  have hstored : ∀ conn ∈ s.hop.fields.connections,
      conn ∈ s₀.hop.fields.connections ∨ StoredIn connPerHop s₀ (es ++ [e]) conn :=
    fun conn hconn => (hs.stored conn hconn).imp_right (fun h => h.append e)
  cases moves_of_step hstep with
  | upkeep e hop callers hhop hloop' =>
    refine ⟨hloop, hs.begun, fun conn hconn => ?_, ?_, fun hleft => ?_⟩
    · exact (hs.closed conn hconn).imp_left (fun h => HopSystem.closed_step hhop h)
    · rcases connections_upkeep hph hhop with hsame | ⟨env, connections, k, rfl, htick, hset⟩
      · show ∀ conn ∈ hop.fields.connections, _
        rw [hsame]
        exact hstored
      · intro conn hconn
        by_cases hold : conn ∈ s.hop.fields.connections
        · exact hstored conn hold
        · -- it comes into the set just now
          refine Or.inr ⟨es, env, [], s, connections, k, rfl, hrun, htick, ?_, hold⟩
          rw [← hset]
          exact hconn
    · obtain ⟨hleft', hconnections⟩ := hs.quiet hleft
      have hidle := hs.loop.idle hleft'
      refine ⟨hleft', ?_⟩
      rcases connections_upkeep hph hhop with hsame | ⟨env, connections, k, rfl, htick, -⟩
      · show ∀ conn ∈ hop.fields.connections, _
        rw [hsame]
        exact hconnections
      · rw [hidle] at htick
        cases htick
  | leave hidle => exact ⟨hloop, hs.begun, hs.closed, hstored, fun h => ⟨rfl, (hs.quiet h).2⟩⟩
  | cancel hpending => exact absurd hpending hs.begun.1
  | load hcancelled => exact absurd hcancelled hs.begun.2
  | close conn remaining hclosing =>
    refine ⟨hloop, ⟨Shutdown.noConfusion, Shutdown.noConfusion⟩, fun c hc => ?_, hstored, hs.quiet⟩
    rcases hs.closed c hc with hclosed | ⟨rest, hrest, hmem⟩
    · exact Or.inl (Finset.mem_insert_of_mem hclosed)
    · rw [hclosing] at hrest
      cases hrest
      rcases List.mem_cons.mp hmem with rfl | htail
      · exact Or.inl (Finset.mem_insert_self _ _)
      · exact Or.inr ⟨remaining, rfl, htail⟩
  | done hclosing =>
    refine ⟨hloop, ⟨Shutdown.noConfusion, Shutdown.noConfusion⟩, fun c hc => ?_, hstored, hs.quiet⟩
    rcases hs.closed c hc with hclosed | ⟨rest, hrest, hmem⟩
    · exact Or.inl hclosed
    · rw [hclosing] at hrest
      cases hrest
      exact absurd hmem List.not_mem_nil
  | drop hleft hdone hthere =>
    refine ⟨hloop, hs.begun, fun c hc => ?_, fun _ hnone => absurd hnone List.not_mem_nil,
      fun h => ⟨hleft, fun _ hnone => absurd hnone List.not_mem_nil⟩⟩
    exact (hs.closed c hc).imp_left (fun hclosed => Finset.mem_union_left _ hclosed)

/-! ## Once `shutdown` has returned -/

/-- A hop without its maintenance loop, shut down. -/
structure Dead (connPerHop : Nat) (s : RetiringHop ι) : Prop where
  loop : LoopInv connPerHop s
  left : s.looping = false
  done : s.shutdown = .done

/-- What a step of a dead hop does to the set and to what is closed. -/
inductive Wanes (s s' : RetiringHop ι) : RetireEvent ι → Prop
  /-- Nothing of the set closes. -/
  | nothing (e : RetireEvent ι) (hdrop : s'.dropped = s.dropped)
      (hconnections : s'.hop.fields.connections = s.hop.fields.connections)
      (hclosed : s'.hop.fields.closed = s.hop.fields.closed)
      (hheld : s.hop.fields.held ⊆ s'.hop.fields.held) : Wanes s s' e
  | close (conn : Nat) (hdrop : s'.dropped = s.dropped)
      (hfields : s'.hop.fields =
        { s.hop.fields with closed := insert conn s.hop.fields.closed }) :
      Wanes s s' (.upkeep (.close conn))
  | release (conn : Nat) (hdrop : s'.dropped = s.dropped)
      (hfields : s'.hop.fields = s.hop.fields.release conn) :
      Wanes s s' (.upkeep (.release conn))
  | drop (hthere : s.dropped = false) (hdrop : s'.dropped = true)
      (hfields : s'.hop.fields = s.hop.fields.drop) :
      Wanes s s' .drop

theorem dead_step {s s' : RetiringHop ι} {e : RetireEvent ι} (hs : Dead connPerHop s)
    (hstep : step connPerHop s e = some s') : Dead connPerHop s' ∧ Wanes s s' e := by
  have hloop := loopInv_step s e s' hs.loop hstep
  obtain ⟨ph, hph⟩ := hs.loop.tick
  have hidle := hs.loop.idle hs.left
  cases moves_of_step hstep with
  | upkeep e hop callers hhop hloop' =>
    refine ⟨⟨hloop, hs.left, hs.done⟩, ?_⟩
    cases HopSystem.moves_of_step hhop with
    | interval htick => exact .nothing _ rfl rfl rfl (Finset.Subset.refl _)
    | tick env o k htick =>
      rw [hidle] at htick
      cases htick
    | call i env o k hcall =>
      refine .nothing _ rfl (HopSystem.connections_afterCall hph hcall)
        (HopSystem.closed_afterCall hph hcall) ?_
      show s.hop.fields.held ⊆ (s.hop.fields.perform env o).1.held
      rw [HopFields.perform_held]
    | close conn hconn => exact .close conn rfl rfl
    | hold conn hconn => exact .nothing _ rfl rfl rfl (Finset.subset_insert _ _)
    | release conn hconn => exact .release conn rfl rfl
  | leave htick =>
    exact ⟨⟨hloop, rfl, hs.done⟩, .nothing _ rfl rfl rfl (Finset.Subset.refl _)⟩
  | cancel hpending =>
    rw [hs.done] at hpending
    cases hpending
  | load hcancelled =>
    rw [hs.done] at hcancelled
    cases hcancelled
  | close conn remaining hclosing =>
    rw [hs.done] at hclosing
    cases hclosing
  | done hclosing =>
    rw [hs.done] at hclosing
    cases hclosing
  | drop hleft hdone hthere => exact ⟨⟨hloop, hleft, hdone⟩, .drop hthere rfl rfl⟩

/-- An event other than the end of a connection or of the hop. -/
def KeepsConnections (_ : RetiringHop ι) : RetireEvent ι → Prop
  | .upkeep (.close _) => False
  | .drop => False
  | _ => True

/-- The set of a dead hop is what it was, and nothing of it has closed since. -/
structure Lasts (connPerHop : Nat) (s₀ s : RetiringHop ι) : Prop where
  dead : Dead connPerHop s
  connections : s.hop.fields.connections = s₀.hop.fields.connections
  closed : ∀ conn ∈ s₀.hop.fields.connections,
    (conn ∈ s.hop.fields.closed ↔ conn ∈ s₀.hop.fields.closed)

theorem lasts_step (s₀ s : RetiringHop ι) (e : RetireEvent ι) (s' : RetiringHop ι)
    (hs : Lasts connPerHop s₀ s) (he : KeepsConnections s e)
    (hstep : step connPerHop s e = some s') : Lasts connPerHop s₀ s' := by
  obtain ⟨hdead, hwanes⟩ := dead_step hs.dead hstep
  cases hwanes with
  | nothing e hdrop hconnections hclosed hheld =>
    refine ⟨hdead, hconnections.trans hs.connections, ?_⟩
    rw [hclosed]
    exact hs.closed
  | close conn hdrop hfields => exact he.elim
  | release conn hdrop hfields =>
    refine ⟨hdead, ?_, fun c hc => ?_⟩
    · rw [hfields]
      exact hs.connections
    · rw [hfields, ← hs.closed c hc]
      show c ∈ (if conn ∈ s.hop.fields.connections then s.hop.fields.closed
        else insert conn s.hop.fields.closed) ↔ _
      split
      · exact Iff.rfl
      · rename_i hout
        -- only a connection outside the set closes with its last handle
        rw [Finset.mem_insert, or_iff_right]
        rintro rfl
        rw [hs.connections] at hout
        exact hout hc
  | drop hthere hdrop hfields => exact he.elim

/-- Until a dead hop goes, its set is what it was; from then on, what was in it is closed, or closes
when its last handle goes. -/
structure Outlived (connPerHop : Nat) (s₀ s : RetiringHop ι) : Prop where
  dead : Dead connPerHop s
  kept : s.dropped = false → s.hop.fields.connections = s₀.hop.fields.connections
  gone : s.dropped = true → ∀ conn ∈ s₀.hop.fields.connections,
    conn ∈ s.hop.fields.closed ∨ conn ∈ s.hop.fields.held

theorem outlived_step (s₀ s : RetiringHop ι) (e : RetireEvent ι) (s' : RetiringHop ι)
    (hs : Outlived connPerHop s₀ s) (hstep : step connPerHop s e = some s') :
    Outlived connPerHop s₀ s' := by
  obtain ⟨hdead, hwanes⟩ := dead_step hs.dead hstep
  cases hwanes with
  | nothing e hdrop hconnections hclosed hheld =>
    refine ⟨hdead, fun hkept => ?_, fun hgone conn hconn => ?_⟩
    · exact hconnections.trans (hs.kept (hdrop ▸ hkept))
    · rw [hclosed]
      exact (hs.gone (hdrop ▸ hgone) conn hconn).imp_right (fun h => hheld h)
  | close conn hdrop hfields =>
    refine ⟨hdead, fun hkept => ?_, fun hgone c hc => ?_⟩
    · rw [hfields]
      exact hs.kept (hdrop ▸ hkept)
    · rw [hfields]
      exact (hs.gone (hdrop ▸ hgone) c hc).imp_left (fun h => Finset.mem_insert_of_mem h)
  | release conn hdrop hfields =>
    refine ⟨hdead, fun hkept => ?_, fun hgone c hc => ?_⟩
    · rw [hfields]
      exact hs.kept (hdrop ▸ hkept)
    · rw [hdrop] at hgone
      rw [hfields]
      by_cases hsame : c = conn
      · -- with the hop gone, no set has the connection any more
        subst hsame
        left
        show c ∈ (if c ∈ s.hop.fields.connections then s.hop.fields.closed
          else insert c s.hop.fields.closed)
        rw [(hs.dead.loop.gone hgone).2.2, if_neg List.not_mem_nil]
        exact Finset.mem_insert_self _ _
      · refine (hs.gone hgone c hc).imp (fun h => HopFields.closed_subset_release _ _ h) ?_
        exact fun h => Finset.mem_erase_of_ne_of_mem hsame h
  | drop hthere hdrop hfields =>
    refine ⟨hdead, fun hkept => ?_, fun _ conn hconn => ?_⟩
    · rw [hdrop] at hkept
      cases hkept
    · rw [hfields]
      by_cases hheld : conn ∈ s.hop.fields.held
      · exact Or.inr hheld
      · left
        apply Finset.mem_union_right
        rw [List.mem_toFinset, HopFields.mem_dropped, hs.kept hthere]
        exact ⟨hconn, List.not_mem_nil, hheld⟩

/-- What a shutdown leaves open.  It closes all that it has loaded; if the maintenance loop has
returned before, then nothing in the set is open once it is done; and in any case, what is open then
was put into the set by a tick that ended after the set was loaded, at most `max connPerHop 1`
connections.  Once the loop has returned as well, these stay in the set and open until they are
closed or the last handle of the hop goes; then they are closed, but for those that somebody else
has a handle of. -/
theorem retired_hop_closed (connPerHop : Nat) (calls : ι → AddressCall)
    (es₁ es₂ : List (RetireEvent ι)) (s₁ s₂ s₃ : RetiringHop ι)
    (hbefore : run (step connPerHop) (init calls) es₁ = some s₁)
    (hload : step connPerHop s₁ .load = some s₂)
    (hafter : run (step connPerHop) s₂ es₂ = some s₃) (hdone : s₃.shutdown = .done) :
    (∀ conn ∈ s₁.hop.fields.connections, conn ∈ s₃.hop.fields.closed) ∧
    (s₁.looping = false → s₃.hop.fields.AllClosed) ∧
    s₃.hop.fields.connections.length ≤ max connPerHop 1 ∧
    (∀ conn ∈ s₃.hop.fields.connections, conn ∉ s₃.hop.fields.closed →
      StoredIn connPerHop s₂ es₂ conn) ∧
    (s₃.looping = false → ∀ es s, run (step connPerHop) s₃ es = some s →
      (Meets (step connPerHop) KeepsConnections s₃ es →
        s.hop.fields.connections = s₃.hop.fields.connections ∧
          ∀ conn ∈ s₃.hop.fields.connections,
            (conn ∈ s.hop.fields.closed ↔ conn ∈ s₃.hop.fields.closed)) ∧
      (s.dropped = true → ∀ conn ∈ s₃.hop.fields.connections,
        conn ∈ s.hop.fields.closed ∨ conn ∈ s.hop.fields.held)) := by
  have hloop₂ : LoopInv connPerHop s₂ := loopInv_step s₁ _ s₂ (loopInv_of_run hbefore) hload
  obtain ⟨hclosing, hlooping, hset⟩ : s₂.shutdown = .closing s₂.hop.fields.connections ∧
      s₂.looping = s₁.looping ∧ s₂.hop.fields.connections = s₁.hop.fields.connections := by
    cases moves_of_step hload with
    | load hcancelled => exact ⟨rfl, rfl, rfl⟩
  have hend : AfterLoad connPerHop s₂ es₂ s₃ := by
    refine invariant_of_events (I := AfterLoad connPerHop s₂) ?_
      (fun es s e s' => afterLoad_step s₂ es s e s') hafter
    refine ⟨hloop₂, ?_, fun conn hconn => Or.inr ⟨_, hclosing, hconn⟩, fun _ h => Or.inl h,
      fun h => ⟨h, fun _ hconn => hconn⟩⟩
    rw [hclosing]
    exact ⟨Shutdown.noConfusion, Shutdown.noConfusion⟩
  -- what `shutdown` has loaded is closed
  have hclosed : ∀ conn ∈ s₂.hop.fields.connections, conn ∈ s₃.hop.fields.closed := by
    intro conn hconn
    rcases hend.closed conn hconn with hclosed | ⟨remaining, hremaining, -⟩
    · exact hclosed
    · rw [hdone] at hremaining
      cases hremaining
  obtain ⟨ph, hph⟩ := hend.loop.tick
  refine ⟨hset ▸ hclosed, fun hleft => ?_, hph.bound, fun conn hconn hopen => ?_,
    fun hleft es s hrun => ⟨fun hmeets => ?_, fun hgone => ?_⟩⟩
  · obtain ⟨-, hsame⟩ := hend.quiet (hlooping.trans hleft)
    exact fun conn hconn => hclosed conn (hsame conn hconn)
  · exact (hend.stored conn hconn).resolve_left (fun hold => hopen (hclosed conn hold))
  · have hlasts : Lasts connPerHop s₃ s :=
      invariant_of_meets (lasts_step s₃) ⟨⟨hend.loop, hleft, hdone⟩, rfl, fun _ _ => Iff.rfl⟩
        hmeets hrun
    exact ⟨hlasts.connections, hlasts.closed⟩
  · have hstart : Outlived connPerHop s₃ s₃ := by
      refine ⟨⟨hend.loop, hleft, hdone⟩, fun _ => rfl, fun hgone conn hconn => ?_⟩
      rw [(hend.loop.gone hgone).2.2] at hconn
      exact absurd hconn List.not_mem_nil
    exact (invariant_of_run (outlived_step s₃) hstart hrun).gone hgone

/-- The network in which the hop lives. -/
def host : Surroundings := HopSystem.hostAt "10.0.0.1"

/-- A hop is retired while its first tick connects: the connection comes into the set after
`shutdown` has found it empty, and stays open until the last handle of the hop goes. -/
theorem retired_hop_closed_crossed :
    ∃ s₁ s₂ s₃ s₄,
      run (step 1) (init (fun _ : Unit => AddressCall.resolve))
        (.upkeep .interval :: (List.replicate 6 (.upkeep (.tick host)) ++ [.cancel])) = some s₁ ∧
      step 1 s₁ .load = some s₂ ∧
      run (step 1) s₂ [.close, .upkeep (.tick host), .leave] = some s₃ ∧
      s₃.hop.fields.connections = [0] ∧ 0 ∉ s₃.hop.fields.closed ∧
      StoredIn 1 s₂ [.close, .upkeep (.tick host), .leave] 0 ∧
      (∀ es s, run (step 1) s₃ es = some s → Meets (step 1) KeepsConnections s₃ es →
        s.hop.fields.connections = [0] ∧ 0 ∉ s.hop.fields.closed) ∧
      step 1 s₃ .drop = some s₄ ∧ 0 ∈ s₄.hop.fields.closed := by
  have hall : ((run (step 1) (init (fun _ : Unit => AddressCall.resolve))
      (.upkeep .interval :: (List.replicate 6 (.upkeep (.tick host)) ++ [.cancel]))).bind
        (fun s₁ => (step 1 s₁ .load).bind
          (fun s₂ => (run (step 1) s₂ [.close, .upkeep (.tick host), .leave]).bind
            (fun s₃ => (step 1 s₃ .drop).map
              (fun s₄ => (s₃.hop.fields, s₃.looping, s₃.shutdown, s₄.hop.fields.held,
                s₄.dropped)))))) =
      some (⟨some "10.0.0.1", [0], .healthy, 1, ∅, ∅⟩, false, .done, ∅, true) := rfl
  obtain ⟨s₁, hbefore, hrest⟩ := Option.bind_eq_some_iff.mp hall
  obtain ⟨s₂, hload, hrest⟩ := Option.bind_eq_some_iff.mp hrest
  obtain ⟨s₃, hafter, hrest⟩ := Option.bind_eq_some_iff.mp hrest
  obtain ⟨s₄, hdrop, hs⟩ := Option.map_eq_some_iff.mp hrest
  simp only [Prod.mk.injEq] at hs
  obtain ⟨hfields, hleft, hdone, hheld, hgone⟩ := hs
  obtain ⟨-, -, -, hstored, hlater⟩ :=
    retired_hop_closed 1 _ _ _ s₁ s₂ s₃ hbefore hload hafter hdone
  rw [hfields] at hstored hlater
  have hopen : 0 ∉ (∅ : Finset Nat) := Finset.notMem_empty 0
  have hset : (0 : Nat) ∈ [0] := List.mem_singleton_self 0
  refine ⟨s₁, s₂, s₃, s₄, hbefore, hload, hafter, by rw [hfields], by rw [hfields]; exact hopen,
    hstored 0 hset hopen, fun es s hrun hmeets => ?_, hdrop, ?_⟩
  · obtain ⟨hsame, hclosed⟩ := (hlater hleft es s hrun).1 hmeets
    exact ⟨hsame, fun hnow => hopen ((hclosed 0 hset).mp hnow)⟩
  · have hrun : run (step 1) s₃ [.drop] = some s₄ := by
      rw [run_cons_eq_some]
      exact ⟨s₄, hdrop, rfl⟩
    rcases (hlater hleft [.drop] s₄ hrun).2 hgone 0 hset with hclosed | hmem
    · exact hclosed
    · rw [hheld] at hmem
      exact absurd hmem hopen

end RetiringHop

end RzRouter
