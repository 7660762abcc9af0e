import RzRouter.Hop.TickRules

/-!
# A hop that recovers by itself

A hop whose connections have all died should get back to a live connection once its host can be
reached, at whatever address, with nothing but its own maintenance ticks.  Every combination of
state and cached address leads there except two.
-/

namespace RzRouter

open Program Transition

/-- The hop resolves to address `A`, and no other address accepts connections. -/
structure OnlyHost (env : Surroundings) (A : String) : Prop where
  resolve : env.resolve = .ok A
  connect : env.connect A = .ok ()
  refuse : ∀ addr, addr ≠ A → ∃ e, env.connect addr = .error e

namespace HopFields

/-- The fields after a tick that runs alone. -/
def upkeep (connPerHop : Nat) (env : Surroundings) (h : HopFields) : HopFields :=
  ((maintenanceTick connPerHop).exec (perform env) h).1

/-- Healthy, at address `A`, with a live connection. -/
structure Healed (A : String) (h : HopFields) : Prop where
  state : h.state = .healthy
  address : h.address = some A
  live : ∃ conn ∈ h.connections, conn ∉ h.closed

/-- The states from which a hop with host `A` recovers: not a healthy hop that has cached another
address and keeps one connection only, and not an unavailable hop without an address. -/
def Recovers (connPerHop : Nat) (A : String) (h : HopFields) : Prop :=
  match h.state, h.address with
  | .healthy, some addr => addr = A ∨ 1 < connPerHop
  | .unavailable, none => False
  | _, _ => True

section Exec

variable {env : Surroundings} {A : String} (h : HopFields)

theorem exec_liveCount (connections : List Nat) :
    (liveCount connections).exec (perform env) h =
      (h, (connections.filter (fun conn => decide (conn ∉ h.closed))).length) := by
  induction connections with
  | nil => rfl
  | cons conn connections ih =>
    unfold liveCount
    rw [exec_bind, exec_perform, perform_isClosed, exec_bind, ih, exec_pure]
    by_cases hclosed : conn ∈ h.closed <;> simp [hclosed]

theorem exec_openConnections (connections : List Nat) :
    (openConnections connections).exec (perform env) h =
      (h, connections.filter (fun conn => decide (conn ∉ h.closed))) := by
  induction connections with
  | nil => rfl
  | cons conn connections ih =>
    unfold openConnections
    rw [exec_bind, exec_perform, perform_isClosed, exec_bind, ih, exec_pure]
    by_cases hclosed : conn ∈ h.closed <;> simp [hclosed]

theorem exec_createConnections_ok (hconnect : env.connect A = .ok ()) (toCreate remaining : Nat)
    (newConns : List Nat) :
    (createConnections A toCreate remaining newConns).exec (perform env) h =
      ({ h with established := h.established + remaining },
        newConns ++ List.range' h.established remaining) := by
  induction remaining generalizing h newConns with
  | zero =>
    unfold createConnections
    simp
  | succ remaining ih =>
    unfold createConnections
    rw [exec_bind, exec_perform, perform_connect_ok h hconnect, ih]
    simp [List.range'_succ, Nat.add_comm 1 remaining, Nat.add_assoc]

/-- No connect succeeds: with more than one connection to create the hop is recovering. -/
theorem exec_createConnections_error {addr : String} {e : RZError}
    (hconnect : env.connect addr = .error e) (toCreate remaining : Nat) :
    (createConnections addr toCreate remaining []).exec (perform env) h =
      (if 1 < toCreate ∧ 0 < remaining then { h with state := .recovering } else h, []) := by
  induction remaining generalizing h with
  | zero =>
    unfold createConnections
    simp
  | succ remaining ih =>
    unfold createConnections
    rw [exec_bind, exec_perform, perform_connect_error h hconnect]
    by_cases hmany : 1 < toCreate
    · simp only [hmany, and_self, if_true, exec_bind, exec_perform, perform_storeState]
      rw [ih]
      simp [hmany]
    · simp only [hmany, and_false, if_false, false_and]
      rw [ih]
      simp [hmany]

/-- The connections of the set that are open. -/
def openOnes : List Nat := h.connections.filter (fun conn => decide (conn ∉ h.closed))

variable {h} in
theorem openOnes_of_allClosed (hclosed : h.AllClosed) : h.openOnes = [] := by
  unfold openOnes
  apply List.filter_eq_nil_iff.mpr
  intro conn hconn
  simp [hclosed conn hconn]

theorem exec_fillConnections_ok (hconnect : env.connect A = .ok ()) {toCreate : Nat}
    (hcreate : 0 < toCreate) :
    (fillConnections h.connections toCreate A).exec (perform env) h =
      ({ h with
        established := h.established + toCreate
        connections := h.openOnes ++ List.range' h.established toCreate }, ()) := by
  have hsome : h.openOnes ++ List.range' h.established toCreate ≠ [] := by
    intro hnil
    have hlength := congrArg List.length hnil
    simp at hlength
    omega
  unfold fillConnections
  rw [exec_bind, exec_openConnections, exec_bind, exec_createConnections_ok h hconnect]
  show (if h.openOnes ++ List.range' h.established toCreate ≠ [] then
    HopM.storeConnections (h.openOnes ++ List.range' h.established toCreate)
    else pure ()).exec (perform env) _ = _
  rw [if_pos hsome, exec_perform, perform_storeConnections, closed_union_dropped]
  -- the new set begins with what is open in the old one
  intro conn hconn hopen
  apply List.mem_append_left
  exact List.mem_filter.mpr ⟨hconn, decide_eq_true hopen⟩

theorem exec_fillConnections_error {addr : String} {e : RZError}
    (hconnect : env.connect addr = .error e) (hclosed : h.AllClosed) {toCreate : Nat}
    (hcreate : 0 < toCreate) :
    (fillConnections h.connections toCreate addr).exec (perform env) h =
      (if 1 < toCreate then { h with state := .recovering } else h, ()) := by
  have hnone : h.connections.filter (fun conn => decide (conn ∉ h.closed)) = [] :=
    openOnes_of_allClosed hclosed
  unfold fillConnections
  rw [exec_bind, exec_openConnections, exec_bind, hnone, exec_createConnections_error h hconnect]
  simp [hcreate]

/-- What a healthy tick does: with enough live connections nothing; otherwise it asks for the
address if there is none, and fills the set. -/
theorem upkeep_healthy (connPerHop : Nat) (hstate : h.state = .healthy) :
    h.upkeep connPerHop env =
      if h.openOnes.length < max connPerHop 1 then
        match h.address with
        | some addr => ((fillConnections h.connections
            (max connPerHop 1 - h.openOnes.length) addr).exec (perform env) h).1
        | none =>
          match env.resolve with
          | .ok addr => ((fillConnections h.connections
              (max connPerHop 1 - h.openOnes.length) addr).exec (perform env)
                { h with address := some addr }).1
          | .error _ => h
      else h := by
  have hload : h.perform env .loadState = (h, .healthy) := by
    rw [perform_loadState, hstate]
  unfold upkeep maintenanceTick
  rw [exec_bind, exec_perform, hload]
  show ((ensureConnections connPerHop).exec (perform env) h).1 = _
  unfold ensureConnections
  simp only
  rw [exec_bind, exec_perform, perform_loadConnections, exec_bind, exec_liveCount]
  show (Prog.exec (perform env) (if h.openOnes.length < max connPerHop 1 then _ else _) h).1 = _
  by_cases hless : h.openOnes.length < max connPerHop 1
  · rw [if_pos hless, if_pos hless, exec_bind, exec_perform, perform_loadAddress]
    cases haddress : h.address with
    | some addr => rfl
    | none =>
      show (Prog.exec (perform env) (HopM.resolve >>= _) h).1 = _
      rw [exec_bind, exec_perform, perform_resolve]
      cases env.resolve with
      | ok addr => rfl
      | error e => rfl
  · rw [if_neg hless, if_neg hless]
    rfl

theorem exec_tryReconnect_ok (hconnect : env.connect A = .ok ()) :
    (tryReconnect A).exec (perform env) h =
      ({ h with
        established := h.established + 1
        connections := [h.established]
        closed := h.closed ∪ (h.dropped [h.established]).toFinset }, true) := by
  unfold tryReconnect
  rw [exec_bind, exec_perform, perform_connect_ok h hconnect]
  rfl

theorem exec_tryReconnect_error {addr : String} {e : RZError}
    (hconnect : env.connect addr = .error e) :
    (tryReconnect addr).exec (perform env) h = (h, false) := by
  unfold tryReconnect
  rw [exec_bind, exec_perform, perform_connect_error h hconnect]
  rfl

/-- The fields after a successful reconnect to `A`. -/
def reconnected (A : String) : HopFields :=
  { h with
    address := some A
    state := .healthy
    established := h.established + 1
    connections := [h.established]
    closed := h.closed ∪ (h.dropped [h.established]).toFinset }

theorem exec_resolveAndReconnect (hhost : OnlyHost env A) :
    (resolveAndReconnect.exec (perform env) h).1 = h.reconnected A := by
  unfold resolveAndReconnect
  rw [exec_bind, exec_perform, perform_resolve, hhost.resolve]
  show (Prog.exec (perform env) (HopM.storeAddress A >>= _) h).1 = _
  rw [exec_bind, exec_perform, perform_storeAddress, exec_bind,
    exec_tryReconnect_ok _ hhost.connect]
  rfl

/-- A recovering tick reconnects, whatever address is cached. -/
theorem upkeep_recovering (connPerHop : Nat) (hhost : OnlyHost env A)
    (hstate : h.state = .recovering) : h.upkeep connPerHop env = h.reconnected A := by
  have hload : h.perform env .loadState = (h, .recovering) := by
    rw [perform_loadState, hstate]
  unfold upkeep maintenanceTick
  rw [exec_bind, exec_perform, hload]
  show (Prog.exec (perform env) (HopM.loadAddress >>= _) h).1 = _
  rw [exec_bind, exec_perform, perform_loadAddress]
  cases haddress : h.address with
  | none => exact exec_resolveAndReconnect h hhost
  | some addr =>
    show (Prog.exec (perform env) (tryReconnect addr >>= _) h).1 = _
    rw [exec_bind]
    by_cases hcurrent : addr = A
    · subst hcurrent
      rw [exec_tryReconnect_ok h hhost.connect]
      show ({ h with
        state := .healthy
        established := h.established + 1
        connections := [h.established]
        closed := h.closed ∪ (h.dropped [h.established]).toFinset } : HopFields) = _
      unfold reconnected
      rw [← haddress]
    · -- the cached address is stale: it is resolved again
      obtain ⟨e, he⟩ := hhost.refuse addr hcurrent
      rw [exec_tryReconnect_error h he]
      exact exec_resolveAndReconnect h hhost

theorem upkeep_unavailable (connPerHop : Nat) (hstate : h.state = .unavailable) :
    h.upkeep connPerHop env =
      if h.address.isSome = true then { h with state := .recovering } else h := by
  have hload : h.perform env .loadState = (h, .unavailable) := by
    rw [perform_loadState, hstate]
  unfold upkeep maintenanceTick
  rw [exec_bind, exec_perform, hload]
  show (Prog.exec (perform env) (HopM.loadAddress >>= _) h).1 = _
  rw [exec_bind, exec_perform, perform_loadAddress]
  by_cases hsome : h.address.isSome = true
  · rw [if_pos hsome, if_pos hsome, exec_perform, perform_storeState]
  · rw [if_neg hsome, if_neg hsome]
    rfl

/-! ## Where the ticks lead -/

variable {h}

theorem healed_upkeep (connPerHop : Nat) (hhost : OnlyHost env A) (hknown : h.Known)
    (hhealed : Healed A h) : Healed A (h.upkeep connPerHop env) := by
  rw [upkeep_healthy h connPerHop hhealed.state]
  by_cases hless : h.openOnes.length < max connPerHop 1
  · rw [if_pos hless, hhealed.address]
    show Healed A ((fillConnections h.connections (max connPerHop 1 - h.openOnes.length)
      A).exec (perform env) h).1
    rw [exec_fillConnections_ok h hhost.connect (by omega)]
    refine ⟨hhealed.state, hhealed.address, ?_⟩
    refine ⟨h.established, ?_, ?_⟩
    · show h.established ∈ h.openOnes ++ List.range' h.established _
      rw [List.mem_append, List.mem_range'_1]
      omega
    · intro hmem
      exact absurd (hknown.closed _ hmem) (Nat.lt_irrefl _)
  · rw [if_neg hless]
    exact hhealed

theorem healed_reconnected (hknown : h.Known) : Healed A (h.reconnected A) := by
  refine ⟨rfl, rfl, h.established, List.mem_singleton_self _, ?_⟩
  intro hmem
  rcases Finset.mem_union.mp hmem with hclosed | hdropped
  · exact absurd (hknown.closed _ hclosed) (Nat.lt_irrefl _)
  · obtain ⟨hold, -⟩ := (mem_dropped h).mp (List.mem_toFinset.mp hdropped)
    exact absurd (hknown.connections _ hold) (Nat.lt_irrefl _)

/-- Every address but a stale one lets a healthy tick fill the set. -/
theorem healed_of_healthy (connPerHop : Nat) (hhost : OnlyHost env A)
    (hknown : h.Known) (hclosed : h.AllClosed) (hstate : h.state = .healthy)
    (haddress : h.address = none ∨ h.address = some A) : Healed A (h.upkeep connPerHop env) := by
  have hnone : h.openOnes.length = 0 := by rw [openOnes_of_allClosed hclosed, List.length_nil]
  have hfilled : ∀ h' : HopFields, h'.state = .healthy → h'.address = some A →
      h'.Known → Healed A ((fillConnections h'.connections
        (max connPerHop 1 - h.openOnes.length) A).exec (perform env) h').1 := by
    intro h' hstate' haddress' hknown'
    rw [exec_fillConnections_ok h' hhost.connect (by omega)]
    refine ⟨hstate', haddress', h'.established, ?_, ?_⟩
    · show h'.established ∈ h'.openOnes ++ List.range' h'.established _
      rw [List.mem_append, List.mem_range'_1]
      omega
    · intro hmem
      exact absurd (hknown'.closed _ hmem) (Nat.lt_irrefl _)
  rw [upkeep_healthy h connPerHop hstate, if_pos (by omega)]
  rcases haddress with haddress | haddress
  · rw [haddress, hhost.resolve]
    exact hfilled { h with address := some A } hstate rfl
      ⟨hknown.connections, hknown.closed, hknown.held⟩
  · rw [haddress]
    exact hfilled h hstate haddress hknown

/-- A healthy hop with a stale address starts recovering if it wants more than one connection, and
does nothing otherwise. -/
theorem upkeep_stale (connPerHop : Nat) (hhost : OnlyHost env A) (hclosed : h.AllClosed)
    (hstate : h.state = .healthy) {addr : String} (haddress : h.address = some addr)
    (hstale : addr ≠ A) :
    h.upkeep connPerHop env = if 1 < connPerHop then { h with state := .recovering } else h := by
  have hnone : h.openOnes.length = 0 := by rw [openOnes_of_allClosed hclosed, List.length_nil]
  obtain ⟨e, he⟩ := hhost.refuse addr hstale
  have hmany : 1 < max connPerHop 1 - 0 ↔ 1 < connPerHop := by omega
  rw [upkeep_healthy h connPerHop hstate, hnone, if_pos (by omega), haddress]
  show ((fillConnections h.connections (max connPerHop 1 - 0) addr).exec (perform env) h).1 = _
  rw [exec_fillConnections_error h he hclosed (by omega)]
  simp only [hmany, ← haddress]

/-- Two ticks are enough. -/
theorem healed_of_recovers (connPerHop : Nat) (hhost : OnlyHost env A)
    (hknown : h.Known) (hnext : (h.upkeep connPerHop env).Known) (hclosed : h.AllClosed)
    (hrecovers : Recovers connPerHop A h) :
    Healed A ((h.upkeep connPerHop env).upkeep connPerHop env) := by
  have hreconnect : ∀ h' : HopFields, h'.state = .recovering → h'.Known →
      Healed A (h'.upkeep connPerHop env) := by
    intro h' hstate hknown'
    rw [upkeep_recovering h' connPerHop hhost hstate]
    exact healed_reconnected hknown'
  unfold Recovers at hrecovers
  cases hstate : h.state with
  | healthy =>
    cases haddress : h.address with
    | none =>
      exact healed_upkeep connPerHop hhost hnext
        (healed_of_healthy connPerHop hhost hknown hclosed hstate (Or.inl haddress))
    | some addr =>
      by_cases hcurrent : addr = A
      · subst hcurrent
        exact healed_upkeep connPerHop hhost hnext
          (healed_of_healthy connPerHop hhost hknown hclosed hstate (Or.inr haddress))
      · rw [hstate, haddress] at hrecovers
        rw [upkeep_stale connPerHop hhost hclosed hstate haddress hcurrent,
          if_pos (hrecovers.resolve_left hcurrent)]
        exact hreconnect { h with state := .recovering } rfl
          ⟨hknown.connections, hknown.closed, hknown.held⟩
  | recovering =>
    exact healed_upkeep connPerHop hhost hnext (hreconnect h hstate hknown)
  | unavailable =>
    cases haddress : h.address with
    | none =>
      rw [hstate, haddress] at hrecovers
      exact hrecovers.elim
    | some addr =>
      rw [upkeep_unavailable h connPerHop hstate, haddress]
      exact hreconnect { h with address := some addr, state := .recovering } rfl
        ⟨hknown.connections, hknown.closed, hknown.held⟩

theorem upkeep_of_not_recovers (connPerHop : Nat) (hhost : OnlyHost env A)
    (hclosed : h.AllClosed) (hstuck : ¬ Recovers connPerHop A h) :
    h.upkeep connPerHop env = h := by
  unfold Recovers at hstuck
  cases hstate : h.state with
  | healthy =>
    cases haddress : h.address with
    | none =>
      rw [hstate, haddress] at hstuck
      exact absurd trivial hstuck
    | some addr =>
      rw [hstate, haddress] at hstuck
      rw [upkeep_stale connPerHop hhost hclosed hstate haddress (fun heq => hstuck (Or.inl heq)),
        if_neg (fun hmany => hstuck (Or.inr hmany))]
  | recovering =>
    rw [hstate] at hstuck
    exact absurd trivial hstuck
  | unavailable =>
    rw [upkeep_unavailable h connPerHop hstate]
    cases haddress : h.address with
    | none => rfl
    | some addr =>
      rw [hstate, haddress] at hstuck
      exact absurd trivial hstuck

theorem not_healed_of_not_recovers (connPerHop : Nat) (hhost : OnlyHost env A)
    (hclosed : h.AllClosed) (hstuck : ¬ Recovers connPerHop A h) (n : Nat) :
    ¬ Healed A ((upkeep connPerHop env)^[n] h) := by
  rw [Function.iterate_fixed (upkeep_of_not_recovers connPerHop hhost hclosed hstuck)]
  intro hhealed
  obtain ⟨conn, hconn, hopen⟩ := hhealed.live
  exact hopen (hclosed conn hconn)

end Exec

end HopFields

/-! ## From any reachable state -/

namespace HopSystem

variable {ι : Type} [DecidableEq ι]

/-- A tick that runs alone is a run of the system. -/
theorem run_tick (connPerHop : Nat) (env : Surroundings) (p : HopM Unit) (s : HopSystem ι) :
    ∃ n, run (step connPerHop) { s with tick := p } (List.replicate n (.tick env)) =
      some { s with fields := (p.exec (HopFields.perform env) s.fields).1, tick := .ret () } := by
  induction p generalizing s with
  | ret u => exact ⟨0, rfl⟩
  | op o k ih =>
    obtain ⟨n, hn⟩ := ih (s.fields.perform env o).2
      { s with fields := (s.fields.perform env o).1 }
    refine ⟨n + 1, ?_⟩
    rw [List.replicate_succ, run_cons_eq_some]
    exact ⟨_, rfl, hn⟩

theorem run_upkeep (connPerHop : Nat) (env : Surroundings) (s : HopSystem ι)
    (hidle : s.tick = .ret ()) :
    ∃ n, run (step connPerHop) s (.interval :: List.replicate n (.tick env)) =
      some { s with fields := s.fields.upkeep connPerHop env } := by
  obtain ⟨n, hn⟩ := run_tick connPerHop env (maintenanceTick connPerHop) s
  refine ⟨n, (run_cons_eq_some _ _ _ _).mpr ⟨{ s with tick := maintenanceTick connPerHop }, ?_, ?_⟩⟩
  · unfold step
    simp only [hidle]
  · rw [hn, ← hidle]
    rfl

end HopSystem

/-- The connections of a hop are known, and not too many. -/
structure HopFields.Sound (connPerHop : Nat) (h : HopFields) : Prop where
  known : h.Known
  bound : h.connections.length ≤ max connPerHop 1

/-- The tick is a run of a hop without calls. -/
theorem HopFields.sound_upkeep {connPerHop : Nat} (env : Surroundings) {h : HopFields}
    (hsound : h.Sound connPerHop) : (h.upkeep connPerHop env).Sound connPerHop := by
  let alone : HopSystem Empty := ⟨h, .ret (), fun _ => .ret none⟩
  have hidle : HopSystem.TickInv connPerHop alone TickPhase.idle :=
    { follows := trivial
      calls := fun _ => trivial
      loaded := fun old hnone => by cases hnone
      seen := fun _ hconn => absurd hconn List.not_mem_nil
      made := fun _ hconn => absurd hconn List.not_mem_nil
      known := hsound.known
      bound := hsound.bound }
  obtain ⟨n, hn⟩ := HopSystem.run_upkeep connPerHop env alone rfl
  obtain ⟨ph, hph⟩ := HopSystem.tickInv_of_run hidle hn
  exact ⟨hph.known, hph.bound⟩

theorem HopFields.healed_iterate {connPerHop : Nat} {env : Surroundings} {A : String}
    {h : HopFields} (hhost : OnlyHost env A) (hsound : h.Sound connPerHop)
    (hhealed : Healed A h) (n : Nat) : Healed A ((upkeep connPerHop env)^[n] h) := by
  induction n generalizing h with
  | zero => exact hhealed
  | succ n ih =>
    rw [Function.iterate_succ_apply]
    exact ih (sound_upkeep env hsound) (healed_upkeep connPerHop hhost hsound.known hhealed)

namespace HopSystem

variable {ι : Type} [DecidableEq ι]

/-- From a reachable state without a live connection, four ticks alone bring the hop back to a live
connection at the address of its host exactly if it is neither healthy with another address and a
single connection to keep nor unavailable without an address; from the other states no number of
ticks does. -/
theorem self_heals_iff (connPerHop : Nat) (calls : ι → AddressCall) (es : List (UpkeepEvent ι))
    (s : HopSystem ι) (A : String) (env : Surroundings)
    (hrun : run (step connPerHop) (init calls) es = some s) (hclosed : s.fields.AllClosed)
    (hhost : OnlyHost env A) :
    ((∃ n ≤ 4, HopFields.Healed A ((HopFields.upkeep connPerHop env)^[n] s.fields)) ↔
        HopFields.Recovers connPerHop A s.fields) ∧
      ∀ n ≥ 4, HopFields.Healed A ((HopFields.upkeep connPerHop env)^[n] s.fields) ↔
        HopFields.Recovers connPerHop A s.fields := by
  obtain ⟨ph, hinv⟩ := tickInv_run hrun
  have hsound : s.fields.Sound connPerHop := ⟨hinv.known, hinv.bound⟩
  have hnext := HopFields.sound_upkeep env hsound
  have hhealed : HopFields.Recovers connPerHop A s.fields →
      ∀ n, HopFields.Healed A ((HopFields.upkeep connPerHop env)^[n + 2] s.fields) := by
    intro hrecovers n
    rw [Function.iterate_add_apply]
    apply HopFields.healed_iterate hhost
    · exact HopFields.sound_upkeep env hnext
    · exact HopFields.healed_of_recovers connPerHop hhost hsound.known hnext.known hclosed hrecovers
  have hnever : ∀ n,
      HopFields.Healed A ((HopFields.upkeep connPerHop env)^[n] s.fields) →
        HopFields.Recovers connPerHop A s.fields := by
    intro n hn
    by_contra hstuck
    exact HopFields.not_healed_of_not_recovers connPerHop hhost hclosed hstuck n hn
  constructor
  · constructor
    · rintro ⟨n, -, hn⟩
      exact hnever n hn
    · exact fun hrecovers => ⟨2, by omega, hhealed hrecovers 0⟩
  · intro n hn
    refine ⟨hnever n, fun hrecovers => ?_⟩
    obtain ⟨m, rfl⟩ : ∃ m, n = m + 2 := ⟨n - 2, by omega⟩
    exact hhealed hrecovers m

/-! ## Hops that stay down -/

/-- A network in which the hop lives at `A`. -/
def hostAt (A : String) : Surroundings where
  resolve := .ok A
  connect := fun addr => if addr = A then .ok () else .error (.io "connection refused")

theorem onlyHost_hostAt (A : String) : OnlyHost (hostAt A) A where
  resolve := rfl
  connect := if_pos rfl
  refuse := fun _ hne => ⟨_, if_neg hne⟩

/-- A network in which nothing answers. -/
def outage : Surroundings where
  resolve := .error (.resolver "timeout")
  connect := fun _ => .error (.io "connection refused")

/-- Both connections of a hop have died, and its host has moved: the stale address makes the first
tick fail and the hop recovering. -/
theorem self_heals_iff_moved :
    ∃ s, run (step 2) (init (fun _ : Unit => AddressCall.resolve))
        (.interval :: (List.replicate 8 (.tick (hostAt "10.0.0.1")) ++ [.close 0, .close 1])) =
          some s ∧
      s.fields.address = some "10.0.0.1" ∧ s.fields.connections = [0, 1] ∧
      ∃ n ≤ 4, HopFields.Healed "10.0.0.2"
        ((HopFields.upkeep 2 (hostAt "10.0.0.2"))^[n] s.fields) := by
  have hrun : run (step 2) (init (fun _ : Unit => AddressCall.resolve))
      (.interval :: (List.replicate 8 (.tick (hostAt "10.0.0.1")) ++ [.close 0, .close 1])) =
    some ⟨⟨some "10.0.0.1", [0, 1], .healthy, 2, {1, 0}, ∅⟩, .ret (), fun _ => resolveAddress⟩ :=
    rfl
  refine ⟨_, hrun, rfl, rfl, ?_⟩
  exact (self_heals_iff 2 (fun _ : Unit => AddressCall.resolve) _ _ "10.0.0.2"
    (hostAt "10.0.0.2") hrun (by decide) (onlyHost_hostAt _)).1.mpr (Or.inr (by decide))

/-- The only connection, to the address that is cached, has died. -/
def oldHostGone : HopFields := ⟨some "10.0.0.1", [0], .healthy, 1, {0}, ∅⟩

/-- The host of a hop with a single connection moves: the connection dies, and the address that
was cached for it is never resolved again.  And a hop whose first resolution fails, for a forward
call, is unavailable for good. -/
theorem hops_that_stay_down :
    (∃ s, run (step 1) (init (fun _ : Unit => AddressCall.resolve))
        (.interval :: (List.replicate 7 (.tick (hostAt "10.0.0.1")) ++ [.close 0])) = some s ∧
      s.tick = .ret () ∧ s.fields.AllClosed ∧
      ∀ n, ¬ HopFields.Healed "10.0.0.2"
        ((HopFields.upkeep 1 (hostAt "10.0.0.2"))^[n] s.fields)) ∧
    ∃ s, run (step 4) (init (fun _ : Unit => AddressCall.resolve))
        (List.replicate 4 (.call () outage)) = some s ∧
      s.tick = .ret () ∧ s.fields.AllClosed ∧
      ∀ n, ¬ HopFields.Healed "10.0.0.2"
        ((HopFields.upkeep 4 (hostAt "10.0.0.2"))^[n] s.fields) := by
  constructor
  · have hclosed : oldHostGone.AllClosed := by decide
    refine ⟨⟨oldHostGone, .ret (), fun _ => resolveAddress⟩, rfl, rfl, hclosed, ?_⟩
    apply HopFields.not_healed_of_not_recovers 1 (onlyHost_hostAt _) hclosed
    show ¬ ("10.0.0.1" = "10.0.0.2" ∨ 1 < 1)
    decide
  · refine ⟨_, rfl, rfl, ?_, ?_⟩
    · exact fun conn hconn => absurd hconn List.not_mem_nil
    · apply HopFields.not_healed_of_not_recovers 4 (onlyHost_hostAt _)
      · exact fun conn hconn => absurd hconn List.not_mem_nil
      · exact id

end HopSystem

end RzRouter
