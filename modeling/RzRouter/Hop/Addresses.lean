import RzRouter.Hop.SelfHealing
import RzRouter.Resolver

/-!
# Where a hop's address comes from, and when RzPoint is asked

The address of a hop is written by its maintenance task and by any number of address calls at once,
each with what RzPoint has told it.  Here are the rules that all of these keep, and what follows for
every interleaving of them.
-/

namespace RzRouter

open Program Transition

/-! ## The rules of a lookup -/

/-- The state that a task has loaded, until it stores one; the address that it has loaded or stored
last; whether it has found no address; whether it has failed to connect. -/
structure LookupPhase where
  started : Option HopState
  known : Option String
  missing : Bool
  failed : Bool

def LookupPhase.idle : LookupPhase := ⟨none, none, false, false⟩

/-- A task stores given addresses only, and connects to the one that it has loaded or stored.  It
asks for an address if it has found none, or if it is to recover the hop and has failed to
connect. -/
def lookupProtocol (Given : String → Prop) : Protocol HopOp HopOp.Ret LookupPhase where
  allowed ph
    | .storeAddress addr => Given addr
    | .connect addr => Given addr ∧ ph.known = some addr
    | .resolve => ph.missing = true ∨ ph.failed = true ∧ ph.started = some .recovering
    | _ => True
  answers _
    | .loadAddress, some addr => Given addr
    | .resolve, .ok addr => Given addr
    | _, _ => True
  next ph
    | .loadState, state => { ph with started := some state }
    | .storeState _, _ => { ph with started := none }
    | .loadAddress, none => { ph with missing := true }
    | .loadAddress, some addr => { ph with known := some addr }
    | .storeAddress addr, _ => { ph with known := some addr }
    | .connect _, .error _ => { ph with failed := true }
    | _, _ => ph

section Follows

variable {Given : String → Prop}

theorem lookup_liveCount (connections : List Nat) (ph : LookupPhase) :
    Follows (lookupProtocol Given) (fun ph' _ => ph' = ph) ph (liveCount connections) := by
  induction connections with
  | nil => rfl
  | cons conn connections ih =>
    apply follows_perform_bind trivial
    intro closed _
    apply follows_bind ih
    intro ph' live hph'
    exact hph'

theorem lookup_openConnections (connections : List Nat) (ph : LookupPhase) :
    Follows (lookupProtocol Given) (fun ph' _ => ph' = ph) ph (openConnections connections) := by
  induction connections with
  | nil => rfl
  | cons conn connections ih =>
    apply follows_perform_bind trivial
    intro closed _
    apply follows_bind ih
    intro ph' rest hph'
    exact hph'

theorem lookup_createConnections {addr : String} (haddr : Given addr) (toCreate remaining : Nat)
    (newConns : List Nat) (ph : LookupPhase) (hknown : ph.known = some addr) :
    Follows (lookupProtocol Given) (fun _ _ => True) ph
      (createConnections addr toCreate remaining newConns) := by
  induction remaining generalizing newConns ph with
  | zero => trivial
  | succ remaining ih =>
    have hconnect : (lookupProtocol Given).allowed ph (.connect addr) := ⟨haddr, hknown⟩
    apply follows_perform_bind hconnect
    intro answer _
    cases answer with
    | ok conn => exact ih _ ph hknown
    | error e =>
      show Follows (lookupProtocol Given) _ _
        (if newConns = [] ∧ toCreate > 1 then
          HopM.storeState .recovering >>=
            fun _ => createConnections addr toCreate remaining newConns
        else createConnections addr toCreate remaining newConns)
      split
      · apply follows_perform_bind trivial
        intro _ _
        exact ih _ { ph with failed := true, started := none } hknown
      · exact ih _ { ph with failed := true } hknown

theorem lookup_fillConnections {addr : String} (haddr : Given addr) (connections : List Nat)
    (toCreate : Nat) (ph : LookupPhase) (hknown : ph.known = some addr) :
    Follows (lookupProtocol Given) (fun _ _ => True) ph
      (fillConnections connections toCreate addr) := by
  apply follows_bind (lookup_openConnections connections ph)
  intro ph' survivors hph'
  rw [hph']
  apply follows_bind (lookup_createConnections haddr toCreate toCreate survivors ph hknown)
  intro ph'' newConns _
  split
  · exact follows_perform_bind trivial (fun _ _ => trivial)
  · trivial

theorem lookup_ensureConnections (connPerHop : Nat) (ph : LookupPhase) :
    Follows (lookupProtocol Given) (fun _ _ => True) ph (ensureConnections connPerHop) := by
  apply follows_perform_bind trivial
  intro connections _
  apply follows_bind (lookup_liveCount connections _)
  intro ph' live _
  split
  · apply follows_perform_bind trivial
    intro address haddress
    cases address with
    | some addr => exact lookup_fillConnections haddress connections _ _ rfl
    | none =>
      apply follows_perform_bind (Or.inl rfl)
      intro resolved hresolved
      cases resolved with
      | ok addr =>
        apply follows_perform_bind hresolved
        intro _ _
        exact lookup_fillConnections hresolved connections _ _ rfl
      | error e => trivial
  · trivial

/-- A reconnect that does not succeed has failed to connect. -/
theorem lookup_tryReconnect {addr : String} (haddr : Given addr) (ph : LookupPhase)
    (hknown : ph.known = some addr) :
    Follows (lookupProtocol Given)
      (fun ph' success => ph'.started = ph.started ∧ (success = false → ph'.failed = true)) ph
      (tryReconnect addr) := by
  have hconnect : (lookupProtocol Given).allowed ph (.connect addr) := ⟨haddr, hknown⟩
  apply follows_perform_bind hconnect
  intro answer _
  cases answer with
  | ok conn =>
    apply follows_perform_bind trivial
    intro _ _
    exact ⟨rfl, fun hfalse => absurd hfalse Bool.true_eq_false.mp⟩
  | error e => exact ⟨rfl, fun _ => rfl⟩

theorem lookup_resolveAndReconnect {ph : LookupPhase}
    (hask : (lookupProtocol Given).allowed ph .resolve) :
    Follows (lookupProtocol Given) (fun _ _ => True) ph resolveAndReconnect := by
  apply follows_perform_bind hask
  intro answer hanswer
  cases answer with
  | error e => trivial
  | ok addr =>
    apply follows_perform_bind hanswer
    intro _ _
    apply follows_bind (lookup_tryReconnect hanswer _ rfl)
    intro ph' success _
    split
    · exact follows_perform_bind trivial (fun _ _ => trivial)
    · trivial

theorem lookup_maintenanceTick (connPerHop : Nat) :
    Follows (lookupProtocol Given) (fun _ _ => True) LookupPhase.idle
      (maintenanceTick connPerHop) := by
  apply follows_perform_bind trivial
  intro state _
  cases state with
  | healthy => exact lookup_ensureConnections connPerHop _
  | recovering =>
    apply follows_perform_bind trivial
    intro address haddress
    cases address with
    | none => exact lookup_resolveAndReconnect (Or.inl rfl)
    | some addr =>
      apply follows_bind (lookup_tryReconnect haddress _ rfl)
      intro ph' success hsuccess
      split
      · exact follows_perform_bind trivial (fun _ _ => trivial)
      · rename_i hfailed
        apply lookup_resolveAndReconnect
        exact Or.inr ⟨hsuccess.2 (Bool.not_eq_true _ ▸ hfailed), hsuccess.1⟩
  | unavailable =>
    apply follows_perform_bind trivial
    intro address _
    split
    · exact follows_perform_bind trivial (fun _ _ => trivial)
    · trivial

/-- What an address call returns is given. -/
theorem lookup_ensureAddress (ph : LookupPhase) :
    Follows (lookupProtocol Given) (fun _ result => ∀ addr, result = some addr → Given addr) ph
      ensureAddress := by
  apply follows_perform_bind trivial
  intro address haddress
  cases address with
  | some addr =>
    intro found hfound
    rw [← Option.some.inj hfound]
    exact haddress
  | none =>
    apply follows_perform_bind (Or.inl rfl)
    intro resolved hresolved
    cases resolved with
    | ok addr =>
      apply follows_perform_bind hresolved
      intro _ _ found hfound
      rw [← Option.some.inj hfound]
      exact hresolved
    | error e =>
      apply follows_perform_bind trivial
      intro _ _ found hfound
      cases hfound

theorem lookup_call (call : AddressCall) (ph : LookupPhase) :
    Follows (lookupProtocol Given) (fun _ result => ∀ addr, result = some addr → Given addr) ph
      call.prog := by
  cases call with
  | ensure => exact lookup_ensureAddress ph
  | resolve =>
    apply follows_perform_bind trivial
    intro address haddress
    cases address with
    | some addr =>
      intro found hfound
      rw [← Option.some.inj hfound]
      exact haddress
    | none => exact lookup_ensureAddress _

end Follows

/-! ## One operation -/

namespace HopFields

variable (env : Surroundings) (h : HopFields)

theorem perform_address {o : HopOp} (ho : ∀ addr, o ≠ .storeAddress addr) :
    (h.perform env o).1.address = h.address := by
  cases o with
  | storeAddress addr => exact absurd rfl (ho addr)
  | connect addr =>
    cases hconnect : env.connect addr with
    | ok u => rw [perform_connect_ok h hconnect]
    | error e => rw [perform_connect_error h hconnect]
  | _ => rfl

/-- An address is never taken away. -/
theorem perform_address_isSome {o : HopOp} (hcached : h.address.isSome = true) :
    (h.perform env o).1.address.isSome = true := by
  by_cases hstore : ∃ addr, o = .storeAddress addr
  · obtain ⟨addr, rfl⟩ := hstore
    rfl
  · rw [perform_address env h (fun addr hsame => hstore ⟨addr, hsame⟩)]
    exact hcached

variable {env} {h} {Given : String → Prop}

theorem lookup_answers (haddress : ∀ addr, h.address = some addr → Given addr)
    {ph : LookupPhase} {o : HopOp}
    (hresolve : o = .resolve → ∀ addr, env.resolve = .ok addr → Given addr) :
    (lookupProtocol Given).answers ph o (h.perform env o).2 := by
  cases o with
  | loadAddress =>
    show (lookupProtocol Given).answers ph .loadAddress h.address
    cases hcached : h.address with
    | none => trivial
    | some addr => exact haddress addr hcached
  | resolve =>
    show (lookupProtocol Given).answers ph .resolve env.resolve
    cases hanswer : env.resolve with
    | ok addr => exact hresolve rfl addr hanswer
    | error e => trivial
  | _ => trivial

theorem lookup_address (haddress : ∀ addr, h.address = some addr → Given addr)
    {ph : LookupPhase} {o : HopOp} (hallowed : (lookupProtocol Given).allowed ph o) :
    ∀ addr, (h.perform env o).1.address = some addr → Given addr := by
  by_cases hstore : ∃ addr, o = .storeAddress addr
  · obtain ⟨stored, rfl⟩ := hstore
    intro addr hsame
    rw [← Option.some.inj hsame]
    exact hallowed
  · rw [perform_address env h (fun addr hsame => hstore ⟨addr, hsame⟩)]
    exact haddress

end HopFields

/-! ## Runs on the network -/

/-- What the network answers at one moment: RzPoint, at each of the three attempts, and the
hosts. -/
structure Internet where
  web : String → Nat → HttpAnswer
  connect : String → Except RZError Unit

/-- The surroundings of the hop `hopId`. -/
def Internet.around (net : Internet) (r : RzPointResolver) (hopId : String) : Surroundings :=
  ⟨(r.resolve hopId net.web).1, net.connect⟩

/-- The events of a hop, with what the network answers at each operation. -/
inductive LookupEvent (ι : Type)
  | interval
  | tick (net : Internet)
  | call (i : ι) (net : Internet)
  | close (conn : Nat)
  | hold (conn : Nat)
  | release (conn : Nat)

def LookupEvent.upkeep {ι : Type} (r : RzPointResolver) (hopId : String) :
    LookupEvent ι → UpkeepEvent ι
  | interval => .interval
  | tick net => .tick (net.around r hopId)
  | call i net => .call i (net.around r hopId)
  | close conn => .close conn
  | hold conn => .hold conn
  | release conn => .release conn

namespace HopSystem

variable {ι : Type} [DecidableEq ι]

/-- One step of the hop `hopId`, which has its addresses from `r`. -/
def lookupStep (r : RzPointResolver) (hopId : String) (connPerHop : Nat) (s : HopSystem ι)
    (e : LookupEvent ι) : Option (HopSystem ι) :=
  s.step connPerHop (e.upkeep r hopId)

/-- The event is a `resolve` of the tick or of a call, and `net` is the network then. -/
inductive Asks (s : HopSystem ι) : LookupEvent ι → Internet → Prop
  | tick (net : Internet) (k : Except RZError String → HopM Unit)
      (htick : s.tick = .op .resolve k) : Asks s (.tick net) net
  | call (i : ι) (net : Internet) (k : Except RZError String → HopM (Option String))
      (hcall : s.calls i = .op .resolve k) : Asks s (.call i net) net

/-- In the course of these events RzPoint has given the address. -/
def GivenIn (r : RzPointResolver) (hopId : String) (connPerHop : Nat) (s : HopSystem ι)
    (es : List (LookupEvent ι)) (addr : String) : Prop :=
  ∃ before e after t net, es = before ++ e :: after ∧
    run (lookupStep r hopId connPerHop) s before = some t ∧ Asks t e net ∧
    r.Gives hopId net.web addr

/-- Every task has kept the rules of a lookup, and the address of the hop is given. -/
structure LookupInv (Given : String → Prop) (s : HopSystem ι) : Prop where
  tick : ∃ ph, Follows (lookupProtocol Given) (fun _ _ => True) ph s.tick
  calls : ∀ i, ∃ ph, Follows (lookupProtocol Given)
    (fun _ result => ∀ addr, result = some addr → Given addr) ph (s.calls i)
  address : ∀ addr, s.fields.address = some addr → Given addr

variable {r : RzPointResolver} {hopId : String} {connPerHop : Nat}

theorem lookupInv_step {Given : String → Prop} {s s' : HopSystem ι} {e : LookupEvent ι}
    (hs : LookupInv Given s)
    (hgiven : ∀ net addr, Asks s e net → r.Gives hopId net.web addr → Given addr)
    (hstep : lookupStep r hopId connPerHop s e = some s') : LookupInv Given s' := by
  cases e with
  | interval =>
    cases moves_of_step hstep with
    | interval hidle => exact ⟨⟨_, lookup_maintenanceTick connPerHop⟩, hs.calls, hs.address⟩
  | tick net =>
    cases moves_of_step hstep with
    | tick env o k htick =>
      obtain ⟨ph, hph⟩ := hs.tick
      rw [htick] at hph
      have hresolve : o = .resolve → ∀ addr, (net.around r hopId).resolve = .ok addr →
          Given addr := by
        intro hasks addr hanswer
        subst hasks
        exact hgiven net addr (.tick net k htick)
          ((RzPointResolver.resolve_ok_iff r hopId net.web addr).mp hanswer)
      exact ⟨⟨_, hph.2 _ (HopFields.lookup_answers hs.address hresolve)⟩, hs.calls,
        HopFields.lookup_address hs.address hph.1⟩
  | call i net =>
    cases moves_of_step hstep with
    | call i env o k hcall =>
      obtain ⟨ph, hph⟩ := hs.calls i
      rw [hcall] at hph
      have hresolve : o = .resolve → ∀ addr, (net.around r hopId).resolve = .ok addr →
          Given addr := by
        intro hasks addr hanswer
        subst hasks
        exact hgiven net addr (.call i net k hcall)
          ((RzPointResolver.resolve_ok_iff r hopId net.web addr).mp hanswer)
      refine ⟨hs.tick, fun j => ?_, HopFields.lookup_address hs.address hph.1⟩
      show ∃ ph, Follows _ _ ph (Function.update s.calls i _ j)
      by_cases hj : j = i
      · subst hj
        rw [Function.update_self]
        exact ⟨_, hph.2 _ (HopFields.lookup_answers hs.address hresolve)⟩
      · rw [Function.update_of_ne hj]
        exact hs.calls j
  | close conn =>
    cases moves_of_step hstep with
    | close conn hconn => exact ⟨hs.tick, hs.calls, hs.address⟩
  | hold conn =>
    cases moves_of_step hstep with
    | hold conn hconn => exact ⟨hs.tick, hs.calls, hs.address⟩
  | release conn =>
    cases moves_of_step hstep with
    | release conn hconn => exact ⟨hs.tick, hs.calls, hs.address⟩

omit [DecidableEq ι] in
theorem lookupInv_init (Given : String → Prop) (calls : ι → AddressCall) :
    LookupInv Given (init calls) :=
  ⟨⟨LookupPhase.idle, trivial⟩, fun i => ⟨LookupPhase.idle, lookup_call (calls i) _⟩,
    fun addr hnone => by cases hnone⟩

def rzpoint : RzPointResolver := .new "http://rzpoint/" .edge

/-- RzPoint fails at the first attempt; the hosts take connections. -/
def secondTime : Internet where
  web _ attempt :=
    if attempt = 0 then .failed "timed out" else .response 200 "200 OK" (.ok "10.0.0.1\n")
  connect _ := .ok ()

/-- Wherever an address stands, it is one that RzPoint has given in the run: in the address of the
hop, in the connection attempt that the tick is about to make, in what a call has returned.  Such an
address is not blank and has no white space around it. -/
theorem addresses_given (r : RzPointResolver) (hopId : String) (connPerHop : Nat)
    (calls : ι → AddressCall) (es : List (LookupEvent ι)) (s : HopSystem ι)
    (hrun : run (lookupStep r hopId connPerHop) (init calls) es = some s) :
    (∀ addr, s.fields.address = some addr →
      GivenIn r hopId connPerHop (init calls) es addr) ∧
    (∀ addr k, s.tick = .op (.connect addr) k →
      GivenIn r hopId connPerHop (init calls) es addr) ∧
    (∀ i addr, s.calls i = .ret (some addr) →
      GivenIn r hopId connPerHop (init calls) es addr) ∧
    ∀ addr, GivenIn r hopId connPerHop (init calls) es addr → strTrim addr = addr ∧ addr ≠ "" := by
  have hinv : LookupInv (GivenIn r hopId connPerHop (init calls) es) s := by
    -- on the beginnings of the run, with the addresses of the whole run as the given ones
    refine invariant_of_events (I := fun before t => ∀ after, before ++ after = es →
      LookupInv (GivenIn r hopId connPerHop (init calls) es) t) ?_ ?_ hrun [] (List.append_nil es)
    · intro after _
      exact lookupInv_init _ calls
    · intro before t e t' hbefore ht hstep after hes
      rw [List.append_assoc] at hes
      refine lookupInv_step (ht _ hes) (fun net addr hasks hgives => ?_) hstep
      exact ⟨before, e, after, t, net, hes.symm, hbefore, hasks, hgives⟩
  refine ⟨hinv.address, fun addr k htick => ?_, fun i addr hcall => ?_, fun addr hgiven => ?_⟩
  · obtain ⟨ph, hph⟩ := hinv.tick
    rw [htick] at hph
    exact hph.1.1
  · obtain ⟨ph, hph⟩ := hinv.calls i
    rw [hcall] at hph
    exact hph addr rfl
  · obtain ⟨before, e, after, t, net, -, -, -, hgives⟩ := hgiven
    exact RzPointResolver.trimmed_of_gives hgives

/-- RzPoint answers the second attempt of the first lookup, with the address on a line of its own;
the first connection goes there. -/
theorem addresses_given_retried :
    ∃ s, run (lookupStep rzpoint "lyon" 2)
        (init (fun _ : Unit => AddressCall.resolve))
        (.interval :: List.replicate 5 (.tick secondTime)) = some s ∧
      s.fields.address = some "10.0.0.1" ∧
      GivenIn rzpoint "lyon" 2 (init (fun _ : Unit => AddressCall.resolve))
        (.interval :: List.replicate 5 (.tick secondTime)) "10.0.0.1" := by
  have hall : (run (lookupStep rzpoint "lyon" 2)
      (init (fun _ : Unit => AddressCall.resolve))
      (.interval :: List.replicate 5 (.tick secondTime))).map (fun s => s.fields.address) =
        some (some "10.0.0.1") := by decide
  obtain ⟨s, hrun, haddress⟩ := Option.map_eq_some_iff.mp hall
  exact ⟨s, hrun, haddress, (addresses_given _ _ _ _ _ s hrun).1 _ haddress⟩

/-! ## Once an address is known -/

/-- In the course of these events the tick that is under way has failed to connect to the address
of the hop. -/
def FailedIn (r : RzPointResolver) (hopId : String) (connPerHop : Nat) (s : HopSystem ι)
    (es : List (LookupEvent ι)) : Prop :=
  ∃ before net after t addr k error, es = before ++ .tick net :: after ∧
    .interval ∉ after ∧ run (lookupStep r hopId connPerHop) s before = some t ∧
    t.tick = .op (.connect addr) k ∧ t.fields.address = some addr ∧
    net.connect addr = .error error

theorem FailedIn.append {s : HopSystem ι} {es : List (LookupEvent ι)}
    (h : FailedIn r hopId connPerHop s es) {e : LookupEvent ι} (he : e ≠ .interval) :
    FailedIn r hopId connPerHop s (es ++ [e]) := by
  obtain ⟨before, net, after, t, addr, k, error, rfl, hafter, hrest⟩ := h
  refine ⟨before, net, after ++ [e], t, addr, k, error, ?_, ?_, hrest⟩
  · rw [List.append_assoc, List.cons_append]
  · intro hmem
    rcases List.mem_append.mp hmem with hold | hlast
    · exact hafter hold
    · exact he (List.mem_singleton.mp hlast).symm

/-- No address call is under way. -/
def CallsAtRest (calls : ι → AddressCall) (s : HopSystem ι) : Prop :=
  ∀ i, s.calls i = (calls i).prog ∨ ∃ result, s.calls i = .ret result

/-- What holds from a moment on at which the address is known and no task is under way. -/
structure CachedInv (r : RzPointResolver) (hopId : String) (connPerHop : Nat)
    (calls : ι → AddressCall) (s₁ : HopSystem ι) (es : List (LookupEvent ι)) (s : HopSystem ι)
    (ph : LookupPhase) : Prop where
  address : s.fields.address.isSome = true
  calls : CallsAtRest calls s
  tick : Follows (lookupProtocol (fun _ => True)) (fun _ _ => True) ph s.tick
  found : ph.missing = false
  known : ∀ addr, ph.known = some addr → s.fields.address = some addr
  started : ∀ state, ph.started = some state → s.fields.state = state
  failed : ph.failed = true → FailedIn r hopId connPerHop s₁ es

/-- With a known address a call returns it at once. -/
theorem call_cached {call : AddressCall} {o : HopOp} {k : o.Ret → HopM (Option String)}
    (hcall : call.prog = .op o k) (env : Surroundings) {h : HopFields} {addr : String}
    (hcached : h.address = some addr) :
    o = .loadAddress ∧ (h.perform env o).1 = h ∧ k (h.perform env o).2 = .ret (some addr) := by
  cases call with
  | ensure =>
    change Prog.op HopOp.loadAddress _ = Prog.op o k at hcall
    cases hcall
    rw [HopFields.perform_loadAddress, hcached]
    exact ⟨rfl, rfl, rfl⟩
  | resolve =>
    change Prog.op HopOp.loadAddress _ = Prog.op o k at hcall
    cases hcall
    rw [HopFields.perform_loadAddress, hcached]
    exact ⟨rfl, rfl, rfl⟩

section Cached

variable {calls : ι → AddressCall} {s₁ s : HopSystem ι} {es : List (LookupEvent ι)}
  {ph : LookupPhase}

/-- The tick performs an operation. -/
theorem cachedInv_tick (hrun : run (lookupStep r hopId connPerHop) s₁ es = some s)
    (hs : CachedInv r hopId connPerHop calls s₁ es s ph) (net : Internet) {o : HopOp}
    {k : o.Ret → HopM Unit} (htick : s.tick = .op o k) :
    CachedInv r hopId connPerHop calls s₁ (es ++ [.tick net])
      { s with
        fields := (s.fields.perform (net.around r hopId) o).1
        tick := k (s.fields.perform (net.around r hopId) o).2 }
      ((lookupProtocol (fun _ => True)).next ph o
        (s.fields.perform (net.around r hopId) o).2) := by
  have hfollows := hs.tick
  rw [htick] at hfollows
  have hearlier : ph.failed = true → FailedIn r hopId connPerHop s₁ (es ++ [.tick net]) :=
    fun hfailed => (hs.failed hfailed).append (fun hsame => by cases hsame)
  have hanswers : (lookupProtocol (fun _ => True)).answers ph o
      (s.fields.perform (net.around r hopId) o).2 :=
    HopFields.lookup_answers (fun _ _ => trivial) (fun _ _ _ => trivial)
  have haddress : (s.fields.perform (net.around r hopId) o).1.address.isSome = true :=
    HopFields.perform_address_isSome _ _ hs.address
  have hrest := hfollows.2 _ hanswers
  cases o with
  | loadState =>
    refine ⟨haddress, hs.calls, hrest, hs.found, hs.known, ?_, hearlier⟩
    intro state hstate
    exact Option.some.inj hstate
  | storeState state =>
    refine ⟨haddress, hs.calls, hrest, hs.found, hs.known, ?_, hearlier⟩
    intro state hstate
    cases hstate
  | loadAddress =>
    obtain ⟨addr, haddr⟩ := Option.isSome_iff_exists.mp hs.address
    have hanswer : (s.fields.perform (net.around r hopId) .loadAddress).2 = some addr := haddr
    rw [hanswer] at hrest ⊢
    refine ⟨haddress, hs.calls, hrest, hs.found, ?_, hs.started, hearlier⟩
    intro found hfound
    rw [← hfound]
    exact haddr
  | storeAddress addr =>
    refine ⟨haddress, hs.calls, hrest, hs.found, ?_, hs.started, hearlier⟩
    intro found hfound
    exact hfound
  | connect addr =>
    cases hconnect : net.connect addr with
    | ok u =>
      rw [HopFields.perform_connect_ok s.fields hconnect] at haddress hrest ⊢
      exact ⟨haddress, hs.calls, hrest, hs.found, hs.known, hs.started, hearlier⟩
    | error error =>
      rw [HopFields.perform_connect_error s.fields hconnect] at haddress hrest ⊢
      refine ⟨haddress, hs.calls, hrest, hs.found, hs.known, hs.started, fun _ => ?_⟩
      -- it connects to the address that it knows, which is that of the hop
      exact ⟨es, net, [], s, addr, k, error, rfl, List.not_mem_nil, hrun, htick,
        hs.known addr hfollows.1.2, hconnect⟩
  | _ => exact ⟨haddress, hs.calls, hrest, hs.found, hs.known, hs.started, hearlier⟩

theorem cachedInv_step {e : LookupEvent ι} {s' : HopSystem ι}
    (hrun : run (lookupStep r hopId connPerHop) s₁ es = some s)
    (hs : CachedInv r hopId connPerHop calls s₁ es s ph)
    (hstep : lookupStep r hopId connPerHop s e = some s') :
    ∃ ph', CachedInv r hopId connPerHop calls s₁ (es ++ [e]) s' ph' := by
  cases e with
  | interval =>
    cases moves_of_step hstep with
    | interval hidle =>
      refine ⟨LookupPhase.idle, hs.address, hs.calls, lookup_maintenanceTick connPerHop, rfl,
        ?_, ?_, ?_⟩
      · intro addr hnone
        cases hnone
      · intro state hnone
        cases hnone
      · intro hfalse
        cases hfalse
  | tick net =>
    cases moves_of_step hstep with
    | tick env o k htick => exact ⟨_, cachedInv_tick hrun hs net htick⟩
  | call i net =>
    cases moves_of_step hstep with
    | call i env o k hcall =>
      obtain ⟨addr, haddr⟩ := Option.isSome_iff_exists.mp hs.address
      have hprog : (calls i).prog = .op o k := by
        rcases hs.calls i with hstart | ⟨result, hdone⟩
        · rw [← hstart]
          exact hcall
        · rw [hcall] at hdone
          cases hdone
      obtain ⟨-, hfields, hdone⟩ := call_cached hprog (net.around r hopId) haddr
      show ∃ ph', CachedInv r hopId connPerHop calls s₁ _ ⟨_, _, _⟩ ph'
      rw [hfields, hdone]
      refine ⟨ph, hs.address, fun j => ?_, hs.tick, hs.found, hs.known, hs.started, fun h =>
        (hs.failed h).append (fun hsame => by cases hsame)⟩
      show Function.update s.calls i _ j = _ ∨ ∃ result, Function.update s.calls i _ j = _
      by_cases hj : j = i
      · subst hj
        rw [Function.update_self]
        exact Or.inr ⟨some addr, rfl⟩
      · rw [Function.update_of_ne hj]
        exact hs.calls j
  | close conn =>
    cases moves_of_step hstep with
    | close conn hconn =>
      exact ⟨ph, hs.address, hs.calls, hs.tick, hs.found, hs.known, hs.started, fun h =>
        (hs.failed h).append (fun hsame => by cases hsame)⟩
  | hold conn =>
    cases moves_of_step hstep with
    | hold conn hconn =>
      exact ⟨ph, hs.address, hs.calls, hs.tick, hs.found, hs.known, hs.started, fun h =>
        (hs.failed h).append (fun hsame => by cases hsame)⟩
  | release conn =>
    cases moves_of_step hstep with
    | release conn hconn =>
      exact ⟨ph, hs.address, hs.calls, hs.tick, hs.found, hs.known, hs.started, fun h =>
        (hs.failed h).append (fun hsame => by cases hsame)⟩

end Cached

/-- RzPoint is left alone while the address works.  From any moment on at which the address is known
and no task is under way, RzPoint is asked by a maintenance tick only, which has found the hop
recovering and has failed to connect to the address that the hop had then; and the hop keeps an
address. -/
theorem rzpoint_asked_after_failure (r : RzPointResolver) (hopId : String) (connPerHop : Nat)
    (calls : ι → AddressCall) (s₁ s₂ : HopSystem ι) (es : List (LookupEvent ι))
    (hcached : s₁.fields.address.isSome = true) (hidle : s₁.tick = .ret ())
    (hcalls : CallsAtRest calls s₁)
    (hrun : run (lookupStep r hopId connPerHop) s₁ es = some s₂) :
    s₂.fields.address.isSome = true ∧
    ∀ e net, Asks s₂ e net → e = .tick net ∧ s₂.fields.state = .recovering ∧
      FailedIn r hopId connPerHop s₁ es := by
  obtain ⟨ph, hs⟩ : ∃ ph, CachedInv r hopId connPerHop calls s₁ es s₂ ph := by
    refine invariant_of_events (I := fun es s => ∃ ph,
      CachedInv r hopId connPerHop calls s₁ es s ph) ?_ ?_ hrun
    · refine ⟨LookupPhase.idle, hcached, hcalls, ?_, rfl, ?_, ?_, ?_⟩
      · rw [hidle]
        trivial
      · intro addr hnone
        cases hnone
      · intro state hnone
        cases hnone
      · intro hfalse
        cases hfalse
    · intro es s e s' hbefore hs hstep
      obtain ⟨ph, hph⟩ := hs
      exact cachedInv_step hbefore hph hstep
  refine ⟨hs.address, fun e net hasks => ?_⟩
  cases hasks with
  | tick net k htick =>
    have hfollows := hs.tick
    rw [htick] at hfollows
    rcases hfollows.1 with hmissing | ⟨hfailed, hstarted⟩
    · rw [hs.found] at hmissing
      exact absurd hmissing Bool.false_ne_true
    · exact ⟨rfl, hs.started _ hstarted, hs.failed hfailed⟩
  | call i net k hcall =>
    -- a call that has a step left begins with the address
    rcases hs.calls i with hstart | ⟨result, hdone⟩
    · obtain ⟨addr, haddr⟩ := Option.isSome_iff_exists.mp hs.address
      have hprog := hstart.symm.trans hcall
      cases (call_cached hprog (net.around r hopId) haddr).1
    · rw [hcall] at hdone
      cases hdone

/-- RzPoint knows the hop, whose host is down. -/
def hostDown : Internet where
  web _ _ := .response 200 "200 OK" (.ok "10.0.0.1")
  connect _ := .error (.io "connection refused")

/-- The first tick finds the address and no connection; the second one asks RzPoint again. -/
theorem rzpoint_asked_after_failure_down :
    ∃ s₁ s₂, run (lookupStep rzpoint "lyon" 2) (init (fun _ : Unit => AddressCall.resolve))
        (.interval :: List.replicate 9 (.tick hostDown)) = some s₁ ∧
      run (lookupStep rzpoint "lyon" 2) s₁
        (.interval :: List.replicate 3 (.tick hostDown)) = some s₂ ∧
      (∃ k, s₂.tick = .op .resolve k) ∧ s₂.fields.state = .recovering ∧
      FailedIn rzpoint "lyon" 2 s₁ (.interval :: List.replicate 3 (.tick hostDown)) := by
  have hafter : ∃ s₂ k, run (lookupStep rzpoint "lyon" 2)
      (⟨⟨some "10.0.0.1", [], .recovering, 0, ∅, ∅⟩, .ret (), fun _ => resolveAddress⟩ :
        HopSystem Unit) (.interval :: List.replicate 3 (.tick hostDown)) = some s₂ ∧
      s₂.tick = .op .resolve k := ⟨_, _, rfl, rfl⟩
  obtain ⟨s₂, k, hrun, htick⟩ := hafter
  obtain ⟨-, hasks⟩ := rzpoint_asked_after_failure rzpoint "lyon" 2 (fun _ => .resolve) _ s₂ _
    rfl rfl (fun _ => Or.inl rfl) hrun
  obtain ⟨-, hstate, hfailed⟩ := hasks _ hostDown (.tick hostDown k htick)
  exact ⟨_, s₂, rfl, hrun, ⟨k, htick⟩, hstate, hfailed⟩

end HopSystem

end RzRouter
