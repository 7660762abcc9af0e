import Mathlib.Data.Finset.Erase
import Mathlib.Data.Finset.Lattice.Lemmas
import RzRouter.Error
import RzRouter.Library.Program
import RzRouter.Library.Transition

/-!
# The upkeep of a hop (`hop.rs`)

The maintenance task of a hop and the calls that resolve its address are programs over the atomic
operations on the hop's fields; the resolver and the hosts answer what the surroundings decide.
Connections are named by the order in which they were established.
-/

namespace RzRouter

open Program

/-- `HopState`. -/
inductive HopState
  | healthy
  | recovering
  | unavailable
  deriving DecidableEq, Repr

/-! ## Operations -/

inductive HopOp
  | loadState
  | storeState (state : HopState)
  | loadAddress
  | storeAddress (addr : String)
  /-- `connections.load()`: the `ConnectionSet` of the moment. -/
  | loadConnections
  | storeConnections (connections : List Nat)
  | isClosed (conn : Nat)
  /-- `resolver.resolve(&self.id)`. -/
  | resolve
  /-- `Connection::connect(addr, ..)`. -/
  | connect (addr : String)

/-- The type of an operation's answer. -/
@[reducible] def HopOp.Ret : HopOp → Type
  | loadState => HopState
  | storeState _ => Unit
  | loadAddress => Option String
  | storeAddress _ => Unit
  | loadConnections => List Nat
  | storeConnections _ => Unit
  | isClosed _ => Bool
  | resolve => Except RZError String
  | connect _ => Except RZError Nat

/-- Programs over the fields of a hop. -/
abbrev HopM (α : Type) : Type := Prog HopOp HopOp.Ret α

namespace HopM

abbrev loadState : HopM HopState := perform HopOp.loadState
abbrev storeState (state : HopState) : HopM Unit := perform (HopOp.storeState state)
abbrev loadAddress : HopM (Option String) := perform HopOp.loadAddress
abbrev storeAddress (addr : String) : HopM Unit := perform (HopOp.storeAddress addr)
abbrev loadConnections : HopM (List Nat) := perform HopOp.loadConnections
abbrev storeConnections (connections : List Nat) : HopM Unit :=
  perform (HopOp.storeConnections connections)
abbrev isClosed (conn : Nat) : HopM Bool := perform (HopOp.isClosed conn)
abbrev resolve : HopM (Except RZError String) := perform HopOp.resolve
abbrev connect (addr : String) : HopM (Except RZError Nat) := perform (HopOp.connect addr)

end HopM

/-! ## Connection sets -/

/-- `live_count`. -/
def liveCount : List Nat → HopM Nat
  | [] => return 0
  | conn :: connections => do
    let closed ← HopM.isClosed conn
    let live ← liveCount connections
    return if closed then live else live + 1

/-- The filter that `ensure_connections` puts on the old set. -/
def openConnections : List Nat → HopM (List Nat)
  | [] => return []
  | conn :: connections => do
    let closed ← HopM.isClosed conn
    let rest ← openConnections connections
    return if closed then rest else conn :: rest

/-! ## Maintenance -/

/-- The loop of `ensure_connections`, with the number of turns left. -/
def createConnections (addr : String) (toCreate : Nat) : Nat → List Nat → HopM (List Nat)
  | 0, newConns => return newConns
  | remaining + 1, newConns => do
    match ← HopM.connect addr with
    | .ok conn => createConnections addr toCreate remaining (newConns ++ [conn])
    | .error _ =>
      if newConns = [] ∧ toCreate > 1 then
        -- failed to create any so far
        HopM.storeState .recovering
      createConnections addr toCreate remaining newConns

/-- `ensure_connections`, from the address on. -/
def fillConnections (connections : List Nat) (toCreate : Nat) (addr : String) : HopM Unit := do
  let survivors ← openConnections connections
  let newConns ← createConnections addr toCreate toCreate survivors
  if newConns ≠ [] then
    HopM.storeConnections newConns

/-- `ensure_connections`. -/
def ensureConnections (connPerHop : Nat) : HopM Unit := do
  let target := max connPerHop 1
  let connections ← HopM.loadConnections
  let live ← liveCount connections
  if live < target then
    match ← HopM.loadAddress with
    | some addr => fillConnections connections (target - live) addr
    | none =>
      match ← HopM.resolve with
      | .ok addr =>
        HopM.storeAddress addr
        fillConnections connections (target - live) addr
      | .error _ => return

/-- `try_reconnect`: one connection to test connectivity, which becomes the whole set. -/
def tryReconnect (addr : String) : HopM Bool := do
  match ← HopM.connect addr with
  | .ok conn =>
    HopM.storeConnections [conn]
    return true
  | .error _ => return false

/-- Resolves the address again and reconnects to it. -/
def resolveAndReconnect : HopM Unit := do
  match ← HopM.resolve with
  | .ok addr =>
    HopM.storeAddress addr
    if ← tryReconnect addr then
      HopM.storeState .healthy
  | .error _ => return

/-- `maintenance_tick`. -/
def maintenanceTick (connPerHop : Nat) : HopM Unit := do
  match ← HopM.loadState with
  | .healthy => ensureConnections connPerHop
  | .recovering =>
    match ← HopM.loadAddress with
    | some addr =>
      if ← tryReconnect addr then
        HopM.storeState .healthy
      else
        resolveAndReconnect
    | none => resolveAndReconnect
  | .unavailable =>
    if (← HopM.loadAddress).isSome then
      HopM.storeState .recovering

/-! ## Addresses -/

/-- `ensure_address`. -/
def ensureAddress : HopM (Option String) := do
  match ← HopM.loadAddress with
  | some addr => return some addr
  | none =>
    match ← HopM.resolve with
    | .ok addr =>
      HopM.storeAddress addr
      return some addr
    | .error _ =>
      HopM.storeState .unavailable
      return none

/-- `resolve_address`. -/
def resolveAddress : HopM (Option String) := do
  match ← HopM.loadAddress with
  | some addr => return some addr
  | none => ensureAddress

/-! ## The fields -/

/-- The fields of a `Hop` that these programs read and write, the number of connections
established so far, which of them are closed, and of which somebody else than the hop holds a
handle: a forward call, or whoever has loaded a set with the connection. -/
structure HopFields where
  address : Option String
  connections : List Nat
  state : HopState
  established : Nat
  closed : Finset Nat
  held : Finset Nat

/-- `Hop::new`. -/
def HopFields.new : HopFields := ⟨none, [], .healthy, 0, ∅, ∅⟩

/-- What the resolver and the hosts answer. -/
structure Surroundings where
  resolve : Except RZError String
  connect : String → Except RZError Unit

namespace HopFields

/-- The connections whose last handle goes with the set when `connections` takes its place. -/
def dropped (h : HopFields) (connections : List Nat) : List Nat :=
  h.connections.filter (fun conn => decide (conn ∉ connections ∧ conn ∉ h.held))

/-- Performs one operation. -/
def perform (env : Surroundings) (h : HopFields) : (o : HopOp) → HopFields × o.Ret
  | .loadState => (h, h.state)
  | .storeState state => ({ h with state := state }, ())
  | .loadAddress => (h, h.address)
  | .storeAddress addr => ({ h with address := some addr }, ())
  | .loadConnections => (h, h.connections)
  | .storeConnections connections =>
    -- a connection closes when its last handle is dropped
    ({ h with
        connections := connections
        closed := h.closed ∪ (h.dropped connections).toFinset }, ())
  | .isClosed conn => (h, decide (conn ∈ h.closed))
  | .resolve => (h, env.resolve)
  | .connect addr =>
    match env.connect addr with
    | .ok () => ({ h with established := h.established + 1 }, .ok h.established)
    | .error e => (h, .error e)

/-- Somebody takes a handle of a connection of the set. -/
def hold (h : HopFields) (conn : Nat) : HopFields := { h with held := insert conn h.held }

/-- The last handle that somebody else than the hop holds is dropped. -/
def release (h : HopFields) (conn : Nat) : HopFields :=
  { h with
    held := h.held.erase conn
    closed := if conn ∈ h.connections then h.closed else insert conn h.closed }

/-- No connection of the set is open. -/
def AllClosed (h : HopFields) : Prop := ∀ conn ∈ h.connections, conn ∈ h.closed

instance (h : HopFields) : Decidable h.AllClosed :=
  inferInstanceAs (Decidable (∀ conn ∈ h.connections, conn ∈ h.closed))

section Perform

variable (env : Surroundings) (h : HopFields)

@[simp] theorem perform_loadState : h.perform env .loadState = (h, h.state) := rfl
@[simp] theorem perform_storeState (state : HopState) :
    h.perform env (.storeState state) = ({ h with state := state }, ()) := rfl
@[simp] theorem perform_loadAddress : h.perform env .loadAddress = (h, h.address) := rfl
@[simp] theorem perform_storeAddress (addr : String) :
    h.perform env (.storeAddress addr) = ({ h with address := some addr }, ()) := rfl
@[simp] theorem perform_loadConnections :
    h.perform env .loadConnections = (h, h.connections) := rfl
@[simp] theorem perform_storeConnections (connections : List Nat) :
    h.perform env (.storeConnections connections) =
      ({ h with
          connections := connections
          closed := h.closed ∪ (h.dropped connections).toFinset }, ()) := rfl
@[simp] theorem perform_isClosed (conn : Nat) :
    h.perform env (.isClosed conn) = (h, decide (conn ∈ h.closed)) := rfl
@[simp] theorem perform_resolve : h.perform env .resolve = (h, env.resolve) := rfl

variable {env}

theorem perform_connect_ok {addr : String} (hconnect : env.connect addr = .ok ()) :
    h.perform env (.connect addr) =
      ({ h with established := h.established + 1 }, .ok h.established) := by
  simp only [perform, hconnect]

theorem perform_connect_error {addr : String} {e : RZError}
    (hconnect : env.connect addr = .error e) :
    h.perform env (.connect addr) = (h, .error e) := by
  simp only [perform, hconnect]

theorem mem_dropped {connections : List Nat} {conn : Nat} :
    conn ∈ h.dropped connections ↔
      conn ∈ h.connections ∧ conn ∉ connections ∧ conn ∉ h.held := by
  unfold dropped
  rw [List.mem_filter, decide_eq_true_eq]

theorem perform_closed {o : HopOp} (ho : ∀ connections, o ≠ .storeConnections connections) :
    (h.perform env o).1.closed = h.closed := by
  cases o with
  | storeConnections connections => exact absurd rfl (ho connections)
  | connect addr =>
    cases hconnect : env.connect addr with
    | ok u => rw [perform_connect_ok h hconnect]
    | error e => rw [perform_connect_error h hconnect]
  | _ => rfl

/-- A set that keeps what is open drops nothing that is open. -/
theorem closed_union_dropped {connections : List Nat}
    (hkeeps : ∀ conn ∈ h.connections, conn ∉ h.closed → conn ∈ connections) :
    h.closed ∪ (h.dropped connections).toFinset = h.closed := by
  apply Finset.union_eq_left.mpr
  intro conn hconn
  obtain ⟨hold, hnew, -⟩ := (mem_dropped h).mp (List.mem_toFinset.mp hconn)
  by_contra hopen
  exact hnew (hkeeps conn hold hopen)

/-- An operation closes what it drops, and nothing is opened again. -/
theorem mem_closed_perform (o : HopOp) {conn : Nat} :
    conn ∈ (h.perform env o).1.closed ↔ conn ∈ h.closed ∨
      ∃ connections, o = .storeConnections connections ∧ conn ∈ h.dropped connections := by
  by_cases hstore : ∃ connections, o = .storeConnections connections
  · obtain ⟨connections, rfl⟩ := hstore
    rw [perform_storeConnections]
    simp only [Finset.mem_union, List.mem_toFinset, HopOp.storeConnections.injEq,
      exists_eq_left']
  · rw [perform_closed h (fun connections hsame => hstore ⟨connections, hsame⟩)]
    constructor
    · exact Or.inl
    · rintro (hclosed | ⟨connections, hsame, -⟩)
      · exact hclosed
      · exact absurd ⟨connections, hsame⟩ hstore

theorem closed_subset_perform (o : HopOp) : h.closed ⊆ (h.perform env o).1.closed :=
  fun _ hconn => (mem_closed_perform h o).mpr (Or.inl hconn)

theorem perform_held (o : HopOp) : (h.perform env o).1.held = h.held := by
  cases o with
  | connect addr =>
    cases hconnect : env.connect addr with
    | ok u => rw [perform_connect_ok h hconnect]
    | error e => rw [perform_connect_error h hconnect]
  | _ => rfl

theorem closed_subset_release (conn : Nat) : h.closed ⊆ (h.release conn).closed := by
  unfold release
  split
  · exact Finset.Subset.refl _
  · exact Finset.subset_insert _ _

theorem established_le_perform (o : HopOp) :
    h.established ≤ (h.perform env o).1.established := by
  cases o with
  | connect addr =>
    cases hconnect : env.connect addr with
    | ok u =>
      rw [perform_connect_ok h hconnect]
      exact Nat.le_succ _
    | error e => rw [perform_connect_error h hconnect]
  | _ => exact Nat.le_refl _

theorem perform_connections {o : HopOp} (ho : ∀ connections, o ≠ .storeConnections connections) :
    (h.perform env o).1.connections = h.connections := by
  cases o with
  | storeConnections connections => exact absurd rfl (ho connections)
  | connect addr =>
    cases hconnect : env.connect addr with
    | ok u => rw [perform_connect_ok h hconnect]
    | error e => rw [perform_connect_error h hconnect]
  | _ => rfl

theorem perform_state {o : HopOp} (ho : ∀ state, o ≠ .storeState state) :
    (h.perform env o).1.state = h.state := by
  cases o with
  | storeState state => exact absurd rfl (ho state)
  | connect addr =>
    cases hconnect : env.connect addr with
    | ok u => rw [perform_connect_ok h hconnect]
    | error e => rw [perform_connect_error h hconnect]
  | _ => rfl

end Perform

end HopFields

/-! ## All tasks of a hop -/

/-- Who asks for the address: `ensure_address` itself or `resolve_address`. -/
inductive AddressCall
  | ensure
  | resolve
  deriving DecidableEq, Repr

def AddressCall.prog : AddressCall → HopM (Option String)
  | ensure => ensureAddress
  | resolve => resolveAddress

/-- A hop with what is left of the tick under way and of each call; `ι` names the calls. -/
structure HopSystem (ι : Type) where
  fields : HopFields
  tick : HopM Unit
  calls : ι → HopM (Option String)

inductive UpkeepEvent (ι : Type)
  /-- The interval of the maintenance loop elapses. -/
  | interval
  /-- The tick performs an operation. -/
  | tick (env : Surroundings)
  | call (i : ι) (env : Surroundings)
  /-- A connection is closed by its tasks, a forward call or a shutdown. -/
  | close (conn : Nat)
  /-- Somebody takes a handle of a connection of the set. -/
  | hold (conn : Nat)
  /-- The last handle outside the set is dropped. -/
  | release (conn : Nat)

namespace HopSystem

variable {ι : Type} [DecidableEq ι]

def init (calls : ι → AddressCall) : HopSystem ι :=
  ⟨HopFields.new, .ret (), fun i => (calls i).prog⟩

/-- One step; a tick starts when the one before has ended. -/
def step (connPerHop : Nat) (s : HopSystem ι) : UpkeepEvent ι → Option (HopSystem ι)
  | .interval =>
    match s.tick with
    | .ret _ => some { s with tick := maintenanceTick connPerHop }
    | .op _ _ => none
  | .tick env =>
    match s.tick with
    | .ret _ => none
    | .op o k =>
      let (fields, answer) := s.fields.perform env o
      some { s with fields := fields, tick := k answer }
  | .call i env =>
    match s.calls i with
    | .ret _ => none
    | .op o k =>
      let (fields, answer) := s.fields.perform env o
      some { s with fields := fields, calls := Function.update s.calls i (k answer) }
  | .close conn =>
    if conn < s.fields.established then
      some { s with fields := { s.fields with closed := insert conn s.fields.closed } }
    else none
  | .hold conn =>
    if conn ∈ s.fields.connections then some { s with fields := s.fields.hold conn } else none
  | .release conn =>
    if conn ∈ s.fields.held then some { s with fields := s.fields.release conn } else none

/-- What a step can be. -/
inductive Moves (connPerHop : Nat) (s : HopSystem ι) : UpkeepEvent ι → HopSystem ι → Prop
  | interval (hidle : s.tick = .ret ()) :
      Moves connPerHop s .interval { s with tick := maintenanceTick connPerHop }
  | tick (env : Surroundings) (o : HopOp) (k : o.Ret → HopM Unit) (htick : s.tick = .op o k) :
      Moves connPerHop s (.tick env)
        { s with fields := (s.fields.perform env o).1, tick := k (s.fields.perform env o).2 }
  | call (i : ι) (env : Surroundings) (o : HopOp) (k : o.Ret → HopM (Option String))
      (hcall : s.calls i = .op o k) :
      Moves connPerHop s (.call i env)
        { s with
          fields := (s.fields.perform env o).1
          calls := Function.update s.calls i (k (s.fields.perform env o).2) }
  | close (conn : Nat) (hconn : conn < s.fields.established) :
      Moves connPerHop s (.close conn)
        { s with fields := { s.fields with closed := insert conn s.fields.closed } }
  | hold (conn : Nat) (hconn : conn ∈ s.fields.connections) :
      Moves connPerHop s (.hold conn) { s with fields := s.fields.hold conn }
  | release (conn : Nat) (hconn : conn ∈ s.fields.held) :
      Moves connPerHop s (.release conn) { s with fields := s.fields.release conn }

theorem moves_of_step {connPerHop : Nat} {s s' : HopSystem ι} {e : UpkeepEvent ι}
    (h : step connPerHop s e = some s') : Moves connPerHop s e s' := by
  cases e with
  | interval =>
    simp only [step] at h
    cases htick : s.tick with
    | ret u =>
      rw [htick] at h
      cases h
      exact Moves.interval htick
    | op o k =>
      rw [htick] at h
      cases h
  | tick env =>
    simp only [step] at h
    cases htick : s.tick with
    | ret u =>
      rw [htick] at h
      cases h
    | op o k =>
      rw [htick] at h
      cases h
      exact Moves.tick env o k htick
  | call i env =>
    simp only [step] at h
    cases hcall : s.calls i with
    | ret u =>
      rw [hcall] at h
      cases h
    | op o k =>
      rw [hcall] at h
      cases h
      exact Moves.call i env o k hcall
  | close conn =>
    simp only [step] at h
    by_cases hconn : conn < s.fields.established
    · rw [if_pos hconn] at h
      cases h
      exact Moves.close conn hconn
    · rw [if_neg hconn] at h
      cases h
  | hold conn =>
    simp only [step] at h
    by_cases hconn : conn ∈ s.fields.connections
    · rw [if_pos hconn] at h
      cases h
      exact Moves.hold conn hconn
    · rw [if_neg hconn] at h
      cases h
  | release conn =>
    simp only [step] at h
    by_cases hconn : conn ∈ s.fields.held
    · rw [if_pos hconn] at h
      cases h
      exact Moves.release conn hconn
    · rw [if_neg hconn] at h
      cases h

end HopSystem

end RzRouter
