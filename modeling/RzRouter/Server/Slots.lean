import RzRouter.Library.Pool
import RzRouter.Server

/-!
# Slots

A connection takes a slot before its task starts, and the slot comes back through the message at
the end of the task.  Here is who holds the slots that `active` counts.
-/

namespace RzRouter

open Pool Transition

namespace ClientTask

/-- In `handle_connection`. -/
def serving (t : ClientTask) : Nat :=
  match t.status, t.session.phase with
  | .running, .reading | .running, .processing => 1
  | _, _ => 0

/-- Done with its connection, its message not sent. -/
def leaving (t : ClientTask) : Nat :=
  match t.status, t.session.phase with
  | .running, .closed _ => 1
  | _, _ => 0

def panicked (t : ClientTask) : Nat :=
  match t.status with
  | .panicked => 1
  | _ => 0

/-- Its message sent. -/
def notified (t : ClientTask) : Nat :=
  match t.status with
  | .notified => 1
  | _ => 0

/-- Whether the slot of the task has been given back. -/
def holding (t : ClientTask) : Nat := t.serving + t.leaving + t.panicked

theorem holding_running (session : Session) : holding ⟨session, .running⟩ = 1 := by
  unfold holding serving leaving panicked
  cases session.phase <;> rfl

@[simp] theorem holding_notified (session : Session) : holding ⟨session, .notified⟩ = 0 := rfl

@[simp] theorem holding_panicked (session : Session) : holding ⟨session, .panicked⟩ = 1 := rfl

theorem holding_add_notified (t : ClientTask) : t.holding + t.notified = 1 := by
  obtain ⟨session, status⟩ := t
  cases status with
  | running =>
    rw [holding_running]
    rfl
  | _ => rfl

end ClientTask

namespace Server

/-- How many connections are served. -/
def serving (s : Server) : Nat := total ClientTask.serving s.tasks

def leaving (s : Server) : Nat := total ClientTask.leaving s.tasks

/-- How many tasks have panicked. -/
def panicked (s : Server) : Nat := total ClientTask.panicked s.tasks

def holding (s : Server) : Nat := total ClientTask.holding s.tasks

/-- How many tasks have sent their message. -/
def notified (s : Server) : Nat := total ClientTask.notified s.tasks

theorem holding_eq (s : Server) : s.holding = s.serving + s.leaving + s.panicked := by
  unfold holding serving leaving panicked
  rw [← total_add, ← total_add]
  rfl

theorem holding_add_notified (s : Server) : s.holding + s.notified = s.tasks.length := by
  unfold holding notified
  rw [← total_add, ← total_one]
  exact congrArg (total · s.tasks) (funext ClientTask.holding_add_notified)

variable {cfg : Config} {maxConnections : UInt64}

/-! ## What the counter counts -/

/-- `active` counts the tasks that hold a slot and the messages under way; once nobody reads the
messages it may count more. -/
structure Slots (maxConnections : UInt64) (s : Server) : Prop where
  limit : s.active.toNat + (if s.spawning then 1 else 0) ≤ maxConnections.toNat
  opened : s.metrics.connectionsOpened = s.tasks.length
  closed : s.metrics.connectionsClosed + s.active.toNat = s.metrics.connectionsOpened
  held : s.holding + s.ended ≤ s.active.toNat
  exact : s.releasing = true → s.holding + s.ended = s.active.toNat

theorem slots_init (maxConnections : UInt64) : Slots maxConnections init where
  limit := Nat.zero_le _
  opened := rfl
  closed := rfl
  held := Nat.le_refl 0
  exact := fun _ => rfl

/-- The counters of `handle_connection` are not those of the connections. -/
theorem connections_turn (cfg : Config) (m : RouterMetrics) (s : Session)
    (result : Except ForwardError (List UInt8)) :
    (m.turn cfg s result).connectionsOpened = m.connectionsOpened ∧
      (m.turn cfg s result).connectionsClosed = m.connectionsClosed := by
  have hrespond : ∀ (m : RouterMetrics) clrid,
      (m.respond clrid result).connectionsOpened = m.connectionsOpened ∧
        (m.respond clrid result).connectionsClosed = m.connectionsClosed := by
    intro m clrid
    cases result with
    | ok response => exact ⟨rfl, rfl⟩
    | error e => cases e <;> exact ⟨rfl, rfl⟩
  unfold RouterMetrics.turn
  split
  · exact ⟨rfl, rfl⟩
  · split
    · split <;> exact ⟨rfl, rfl⟩
    · split
      · exact ⟨rfl, rfl⟩
      · simp only
        split
        · exact ⟨rfl, rfl⟩
        · exact hrespond _ _
    · exact ⟨rfl, rfl⟩

theorem connections_step (cfg : Config) (m : RouterMetrics) (s : Session) (e : ClientEvent) :
    (m.step cfg s e).connectionsOpened = m.connectionsOpened ∧
      (m.step cfg s e).connectionsClosed = m.connectionsClosed := by
  cases e with
  | turn reply => exact connections_turn cfg m s reply.result
  | _ => exact ⟨rfl, rfl⟩

theorem holding_set {tasks : List ClientTask} {i : Nat} {t : ClientTask} (ht : tasks[i]? = some t)
    (t' : ClientTask) :
    total ClientTask.holding (tasks.set i t') + t.holding =
      total ClientTask.holding tasks + t'.holding :=
  total_set ClientTask.holding ht t'

/-- What is held changes as the counter does. -/
theorem slots_moved {s s' : Server} (hs : Slots maxConnections s)
    (hlimit : s'.active.toNat + (if s'.spawning then 1 else 0) ≤ maxConnections.toNat)
    (hopened : s'.metrics.connectionsOpened = s'.tasks.length)
    (hclosed : s'.metrics.connectionsClosed + s'.active.toNat = s'.metrics.connectionsOpened)
    (hreleasing : s'.releasing = s.releasing)
    (hmoved : s'.holding + s'.ended + s.active.toNat = s.holding + s.ended + s'.active.toNat) :
    Slots maxConnections s' := by
  refine ⟨hlimit, hopened, hclosed, ?_, fun hstill => ?_⟩
  · have hheld := hs.held
    omega
  · have hexact := hs.exact (hreleasing ▸ hstill)
    omega

theorem slots_step (s : Server) (e : ServerEvent) (s' : Server) (hs : Slots maxConnections s)
    (hstep : step cfg maxConnections s e = some s') : Slots maxConnections s' := by
  have hlimit := hs.limit
  have hopened := hs.opened
  have hclosed := hs.closed
  have hheld := hs.held
  cases moves_of_step hstep with
  | dropped hfull => exact hs
  | accepted hidle hroom =>
    refine slots_moved hs ?_ hopened hclosed rfl rfl
    have hless := UInt64.lt_iff_toNat_lt.mp hroom
    show s.active.toNat + 1 ≤ maxConnections.toNat
    omega
  | acceptError => exact ⟨hlimit, hopened, hclosed, hheld, hs.exact⟩
  | spawn now hspawning =>
    rw [hspawning, if_pos rfl] at hlimit
    -- the counter does not wrap around
    have hmax := maxConnections.toNat_lt
    have hadd : (s.active + 1).toNat = s.active.toNat + 1 := by
      rw [UInt64.toNat_add]
      exact Nat.mod_eq_of_lt (Nat.lt_of_le_of_lt hlimit hmax)
    have htotal : total ClientTask.holding (s.tasks ++ [⟨Session.start now, .running⟩]) =
        total ClientTask.holding s.tasks + 1 := by
      rw [total_append, total_cons, ClientTask.holding_running, total_nil,
        Nat.add_zero]
    refine slots_moved hs ?_ ?_ ?_ rfl ?_
    · show (s.active + 1).toNat + 0 ≤ _
      omega
    · show s.metrics.connectionsOpened + 1 = (s.tasks ++ [_]).length
      rw [List.length_append, hopened]
      rfl
    · show s.metrics.connectionsClosed + (s.active + 1).toNat = s.metrics.connectionsOpened + 1
      omega
    · show total ClientTask.holding (s.tasks ++ [_]) + s.ended + s.active.toNat =
        total ClientTask.holding s.tasks + s.ended + (s.active + 1).toNat
      omega
  | client i e session session' htask hstep' =>
    have htotal := holding_set htask ⟨session', .running⟩
    rw [ClientTask.holding_running, ClientTask.holding_running] at htotal
    obtain ⟨hsameOpened, hsameClosed⟩ := connections_step cfg s.metrics session e
    refine slots_moved hs hlimit ?_ ?_ rfl ?_
    · show (s.metrics.step cfg session e).connectionsOpened = (s.tasks.set i _).length
      rw [hsameOpened, List.length_set, hopened]
    · show (s.metrics.step cfg session e).connectionsClosed + s.active.toNat =
        (s.metrics.step cfg session e).connectionsOpened
      rw [hsameClosed, hsameOpened, hclosed]
    · show total ClientTask.holding (s.tasks.set i _) + s.ended + s.active.toNat =
        total ClientTask.holding s.tasks + s.ended + s.active.toNat
      omega
  | notify i session reason htask hphase =>
    have htotal := holding_set htask ⟨session, .notified⟩
    rw [ClientTask.holding_running, ClientTask.holding_notified] at htotal
    unfold holding at hheld
    refine ⟨hlimit, ?_, hclosed, ?_, fun hreleasing => ?_⟩
    · show s.metrics.connectionsOpened = (s.tasks.set i _).length
      rw [List.length_set, hopened]
    · show total ClientTask.holding (s.tasks.set i _) +
        (if s.releasing then s.ended + 1 else s.ended) ≤ s.active.toNat
      split <;> omega
    · have hexact : total ClientTask.holding s.tasks + s.ended = s.active.toNat :=
        hs.exact hreleasing
      show total ClientTask.holding (s.tasks.set i _) +
        (if s.releasing then s.ended + 1 else s.ended) = s.active.toNat
      rw [if_pos hreleasing]
      omega
  | panic i session request htask hpending =>
    have htotal := holding_set htask ⟨session, .panicked⟩
    rw [ClientTask.holding_running, ClientTask.holding_panicked] at htotal
    refine slots_moved hs hlimit ?_ hclosed rfl ?_
    · show s.metrics.connectionsOpened = (s.tasks.set i _).length
      rw [List.length_set, hopened]
    · show total ClientTask.holding (s.tasks.set i _) + s.ended + s.active.toNat =
        total ClientTask.holding s.tasks + s.ended + s.active.toNat
      omega
  | release hreleasing hended =>
    -- the message is that of a connection that `active` counts
    have hpos : (1 : UInt64) ≤ s.active := by
      rw [UInt64.le_iff_toNat_le]
      show 1 ≤ s.active.toNat
      omega
    have hsub : (s.active - 1).toNat = s.active.toNat - 1 := UInt64.toNat_sub_of_le _ _ hpos
    refine slots_moved hs ?_ hopened ?_ rfl ?_
    · show (s.active - 1).toNat + (if s.spawning then 1 else 0) ≤ maxConnections.toNat
      omega
    · show s.metrics.connectionsClosed + 1 + (s.active - 1).toNat = s.metrics.connectionsOpened
      omega
    · show s.holding + (s.ended - 1) + s.active.toNat = s.holding + s.ended + (s.active - 1).toNat
      omega
  | cancel => exact ⟨hlimit, hopened, hclosed, hheld, hs.exact⟩
  | stopListening hidle => exact ⟨hlimit, hopened, hclosed, hheld, hs.exact⟩
  | stopReleasing =>
    refine ⟨hlimit, hopened, hclosed, ?_, fun hreleasing => Bool.noConfusion hreleasing⟩
    show s.holding + 0 ≤ s.active.toNat
    omega

theorem slots_of_run {es : List ServerEvent} {s : Server}
    (hrun : run (step cfg maxConnections) init es = some s) : Slots maxConnections s :=
  invariant_of_run slots_step (slots_init maxConnections) hrun

/-! ## No slot is lost -/

/-- The steps that give slots back. -/
def GivesBack : ServerEvent → Prop
  | .notify _ | .release => True
  | _ => False

/-- What giving slots back leaves alone. -/
structure SameConnections (s s' : Server) : Prop where
  sessions : s'.tasks.map ClientTask.session = s.tasks.map ClientTask.session
  serving : s'.serving = s.serving
  panicked : s'.panicked = s.panicked
  listening : s'.listening = s.listening
  spawning : s'.spawning = s.spawning
  releasing : s'.releasing = s.releasing

theorem SameConnections.refl (s : Server) : SameConnections s s := ⟨rfl, rfl, rfl, rfl, rfl, rfl⟩

theorem SameConnections.trans {s s' s'' : Server} (h : SameConnections s s')
    (h' : SameConnections s' s'') : SameConnections s s'' where
  sessions := h'.sessions.trans h.sessions
  serving := h'.serving.trans h.serving
  panicked := h'.panicked.trans h.panicked
  listening := h'.listening.trans h.listening
  spawning := h'.spawning.trans h.spawning
  releasing := h'.releasing.trans h.releasing

theorem exists_leaving {s : Server} (h : s.leaving ≠ 0) :
    ∃ (i : Nat) (session : Session) (reason : CloseReason),
      s.tasks[i]? = some ⟨session, .running⟩ ∧ session.phase = .closed reason := by
  obtain ⟨t, ht, hleaving⟩ := exists_of_total_ne_zero h
  obtain ⟨i, hi⟩ := List.mem_iff_getElem?.mp ht
  obtain ⟨session, status⟩ := t
  cases status with
  | running =>
    cases hphase : session.phase with
    | closed reason => exact ⟨i, session, reason, hi, hphase⟩
    | _ =>
      unfold ClientTask.leaving at hleaving
      rw [hphase] at hleaving
      exact absurd rfl hleaving
  | _ => exact absurd rfl hleaving

/-- A task that leaves its connection alone. -/
theorem sessions_set {tasks : List ClientTask} {i : Nat} {session : Session} {status : TaskStatus}
    (htask : tasks[i]? = some ⟨session, status⟩) (status' : TaskStatus) :
    (tasks.set i ⟨session, status'⟩).map ClientTask.session = tasks.map ClientTask.session := by
  obtain ⟨hi, hget⟩ := List.getElem?_eq_some_iff.mp htask
  have hmap : i < (tasks.map ClientTask.session).length := by rwa [List.length_map]
  have hsame : (tasks.map ClientTask.session)[i] = session := by
    rw [List.getElem_map, hget]
  rw [List.map_set]
  show (tasks.map ClientTask.session).set i session = _
  rw [← hsame]
  exact List.set_getElem_self _

variable (cfg maxConnections) in
/-- A task that is done sends its message. -/
theorem notify_leaving {s : Server} (hreleasing : s.releasing = true) (h : s.leaving ≠ 0) :
    ∃ i s', step cfg maxConnections s (.notify i) = some s' ∧ SameConnections s s' ∧
      s'.leaving + 1 = s.leaving ∧ s'.ended = s.ended + 1 := by
  obtain ⟨i, session, reason, htask, hphase⟩ := exists_leaving h
  have hserving := total_set ClientTask.serving htask ⟨session, .notified⟩
  have hleaving := total_set ClientTask.leaving htask ⟨session, .notified⟩
  have hpanicked := total_set ClientTask.panicked htask ⟨session, .notified⟩
  have hwas : ClientTask.serving ⟨session, .running⟩ = 0 ∧
      ClientTask.leaving ⟨session, .running⟩ = 1 := by
    unfold ClientTask.serving ClientTask.leaving
    rw [hphase]
    exact ⟨rfl, rfl⟩
  rw [hwas.1] at hserving
  rw [hwas.2] at hleaving
  refine ⟨i, { s with tasks := s.tasks.set i ⟨session, .notified⟩, ended := s.ended + 1 }, ?_,
    ⟨sessions_set htask .notified, hserving, hpanicked, rfl, rfl, rfl⟩, hleaving, rfl⟩
  simp only [step, htask, hphase, hreleasing, if_true]

variable (cfg maxConnections) in
/-- Giving back all that can be given back. -/
theorem exists_settled (s : Server) (hreleasing : s.releasing = true) :
    ∃ es s', run (step cfg maxConnections) s es = some s' ∧ (∀ e ∈ es, GivesBack e) ∧
      SameConnections s s' ∧ s'.leaving = 0 ∧ s'.ended = 0 := by
  -- a message costs two steps, one to send it and one to take it
  induction hn : 2 * s.leaving + s.ended using Nat.strongRecOn generalizing s with
  | ind n ih =>
    have hmore : ∀ e s₁, GivesBack e → step cfg maxConnections s e = some s₁ →
        SameConnections s s₁ → 2 * s₁.leaving + s₁.ended < n →
        ∃ es s', run (step cfg maxConnections) s es = some s' ∧ (∀ e ∈ es, GivesBack e) ∧
          SameConnections s s' ∧ s'.leaving = 0 ∧ s'.ended = 0 := by
      intro e s₁ he hstep hsame hless
      obtain ⟨es, s', hrun, hes, hsame', hdone⟩ :=
        ih _ hless s₁ (hsame.releasing.trans hreleasing) rfl
      refine ⟨e :: es, s', (run_cons_eq_some _ _ _ _).mpr ⟨s₁, hstep, hrun⟩, ?_,
        hsame.trans hsame', hdone⟩
      intro e' he'
      rcases List.mem_cons.mp he' with rfl | htail
      · exact he
      · exact hes e' htail
    by_cases hleaving : s.leaving = 0
    · by_cases hended : s.ended = 0
      · exact ⟨[], s, rfl, fun _ he => absurd he List.not_mem_nil, SameConnections.refl s,
          hleaving, hended⟩
      · apply hmore .release { s with
          active := s.active - 1
          ended := s.ended - 1
          metrics := { s.metrics with connectionsClosed := s.metrics.connectionsClosed + 1 } }
          trivial
        · unfold step
          simp only
          rw [if_pos ⟨hreleasing, Nat.pos_of_ne_zero hended⟩]
        · exact ⟨rfl, rfl, rfl, rfl, rfl, rfl⟩
        · show 2 * s.leaving + (s.ended - 1) < n
          omega
    · obtain ⟨i, s₁, hstep, hsame, hfewer, hended⟩ :=
        notify_leaving cfg maxConnections hreleasing hleaving
      exact hmore (.notify i) s₁ trivial hstep hsame (by omega)

/-! ## The connections themselves -/

/-- Some run of `handle_connection` alone leads to this state. -/
def Reached (cfg : Config) (session : Session) : Prop :=
  ∃ now es, run (Session.step cfg) (Session.start now) es = some session

theorem reached_step (s : Server) (e : ServerEvent) (s' : Server)
    (hs : ∀ t ∈ s.tasks, Reached cfg t.session) (hstep : step cfg maxConnections s e = some s') :
    ∀ t ∈ s'.tasks, Reached cfg t.session := by
  have hset : ∀ {i : Nat} {session : Session} (status : TaskStatus),
      s.tasks[i]? = some ⟨session, .running⟩ →
        ∀ t ∈ s.tasks.set i ⟨session, status⟩, Reached cfg t.session := by
    intro i session status htask t ht
    rcases List.mem_or_eq_of_mem_set ht with hold | rfl
    · exact hs t hold
    · exact hs ⟨session, .running⟩ (List.mem_of_getElem? htask)
  cases moves_of_step hstep with
  | spawn now hspawning =>
    intro t ht
    rcases List.mem_append.mp ht with hold | hnew
    · exact hs t hold
    · rw [List.mem_singleton.mp hnew]
      exact ⟨now, [], rfl⟩
  | client i e session session' htask hstep' =>
    intro t ht
    rcases List.mem_or_eq_of_mem_set ht with hold | rfl
    · exact hs t hold
    · obtain ⟨now, es, hrun⟩ := hs _ (List.mem_of_getElem? htask)
      refine ⟨now, es ++ [e], ?_⟩
      rw [run_append, hrun]
      exact (run_cons_eq_some _ _ _ _).mpr ⟨session', hstep', rfl⟩
  | notify i session reason htask hphase => exact hset .notified htask
  | panic i session request htask hpending => exact hset .panicked htask
  | _ => exact hs

/-! ## The limit -/

/-- In every run at most `max_connections` connections are served, each as `handle_connection`
serves it alone.  As long as slots are given back at all, the slots taken are those of the
connections that are served, of the ones that are done but not yet counted as closed, and of the
tasks that have panicked; those of the second kind can all be given back, and then a connection is
dropped exactly if the others take all slots. -/
theorem connections_limited (cfg : Config) (maxConnections : UInt64) (es : List ServerEvent)
    (s : Server) (hrun : run (step cfg maxConnections) init es = some s) :
    s.serving ≤ maxConnections.toNat ∧
    (∀ t ∈ s.tasks, Reached cfg t.session) ∧
    s.metrics.connectionsOpened = s.metrics.connectionsClosed + s.active.toNat ∧
    s.serving + s.leaving + s.panicked + s.ended ≤ s.active.toNat ∧
    (s.releasing = true → s.serving + s.leaving + s.panicked + s.ended = s.active.toNat) ∧
    (s.releasing = true → ∃ es' s', run (step cfg maxConnections) s es' = some s' ∧
      (∀ e ∈ es', GivesBack e) ∧ SameConnections s s' ∧
      s'.active.toNat = s.serving + s.panicked ∧
      (s.listening = true → s.spawning = false →
        (step cfg maxConnections s' .accept = some { s' with spawning := true } ↔
          s.serving + s.panicked < maxConnections.toNat))) := by
  have hslots : Slots maxConnections s := slots_of_run hrun
  have hheld := hslots.held
  have hlimit := hslots.limit
  have hclosed := hslots.closed
  have hexact := hslots.exact
  rw [holding_eq] at hheld hexact
  refine ⟨by omega, ?_, hclosed.symm, hheld, hexact, fun hreleasing => ?_⟩
  · exact invariant_of_run (I := fun s => ∀ t ∈ s.tasks, Reached cfg t.session) reached_step
      (fun t ht => absurd ht List.not_mem_nil) hrun
  · obtain ⟨es', s', hrun', hes', hsame, hleaving, hended⟩ :=
      exists_settled cfg maxConnections s hreleasing
    have hall : run (step cfg maxConnections) init (es ++ es') = some s' := by
      rw [run_append, hrun]
      exact hrun'
    have hsettled := (slots_of_run hall).exact (hsame.releasing.trans hreleasing)
    rw [holding_eq, hleaving, hended, hsame.serving, hsame.panicked] at hsettled
    have hactive : s'.active.toNat = s.serving + s.panicked := by omega
    refine ⟨es', s', hrun', hes', hsame, hactive, fun hlistening hidle => ?_⟩
    have hready : s'.listening = true ∧ ¬ s'.spawning = true := by
      rw [hsame.listening, hsame.spawning, hidle]
      exact ⟨hlistening, Bool.false_ne_true⟩
    rw [← hactive, ← UInt64.lt_iff_toNat_lt]
    unfold step
    simp only
    rw [if_pos hready]
    split
    · rename_i hfull
      constructor
      · intro hsome
        have hspawning := congrArg Server.spawning (Option.some.inj hsome)
        exact absurd hspawning hready.2
      · exact fun hroom => absurd hroom (UInt64.not_lt.mpr hfull)
    · rename_i hroom
      exact ⟨fun _ => UInt64.not_le.mp hroom, fun _ => rfl⟩

/-- With a limit of one, a connection that comes while another is served is dropped, and one that
comes after it is not. -/
theorem connections_limited_one :
    ∃ s, run (step {} 1) init [.accept, .spawn 0, .accept, .client 0 (.eof 5)] = some s ∧
      s.tasks.length = 1 ∧ ∃ es' s', run (step {} 1) s es' = some s' ∧ s'.active.toNat = 0 ∧
        step {} 1 s' .accept = some { s' with spawning := true } := by
  have hrun : run (step {} 1) init [.accept, .spawn 0, .accept, .client 0 (.eof 5)] = some _ := rfl
  obtain ⟨-, -, -, -, -, hback⟩ := connections_limited {} 1 _ _ hrun
  obtain ⟨es', s', hrun', -, -, hactive, haccept⟩ := hback rfl
  exact ⟨_, hrun, rfl, es', s', hrun', hactive, (haccept rfl rfl).mpr (by decide)⟩

end Server

end RzRouter
