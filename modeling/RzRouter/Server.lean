import RzRouter.Metrics
import RzRouter.Router

/-!
# The server (`tcp_server.rs`, `run`)

`run` accepts connections up to a limit, and starts a task for each; a task of its own gives the
slots of ended connections back.  An event is one step of one of them.
-/

namespace RzRouter

inductive TaskStatus
  /-- In `handle_connection`, or before the message that follows it. -/
  | running
  | notified
  | panicked
  deriving DecidableEq, Repr

/-- The task of a connection. -/
structure ClientTask where
  session : Session
  status : TaskStatus
  deriving DecidableEq

/-- `TcpServer`, and where its two loops stand. -/
structure Server where
  cancelled : Bool
  /-- The accept loop has not returned. -/
  listening : Bool
  /-- It has checked the limit for a connection and not counted it yet. -/
  spawning : Bool
  /-- The task that gives slots back has not ended. -/
  releasing : Bool
  active : UInt64
  /-- The messages in the channel of this task. -/
  ended : Nat
  tasks : List ClientTask
  metrics : RouterMetrics
  deriving DecidableEq

inductive ServerEvent
  /-- `accept` returns a connection, and the limit is checked. -/
  | accept
  | acceptError
  /-- The connection is counted, and its task starts. -/
  | spawn (now : Nat)
  | client (i : Nat) (e : ClientEvent)
  /-- A task sends its message and ends. -/
  | notify (i : Nat)
  /-- A build with overflow checks can panic in `forward`; the task then ends without a message. -/
  | panic (i : Nat)
  | release
  | cancel
  | stopListening
  | stopReleasing

namespace Server

def init : Server where
  cancelled := false
  listening := true
  spawning := false
  releasing := true
  active := 0
  ended := 0
  tasks := []
  metrics := {}

/-- One step of the server. -/
def step (cfg : Config) (maxConnections : UInt64) (s : Server) : ServerEvent → Option Server
  | .accept =>
    if s.listening ∧ ¬ s.spawning then
      -- a connection over the limit is dropped
      if s.active ≥ maxConnections then some s else some { s with spawning := true }
    else none
  | .acceptError => if s.listening ∧ ¬ s.spawning then some s else none
  | .spawn now =>
    if s.spawning then
      some { s with
        spawning := false
        active := s.active + 1
        tasks := s.tasks ++ [⟨Session.start now, .running⟩]
        metrics := { s.metrics with connectionsOpened := s.metrics.connectionsOpened + 1 } }
    else none
  | .client i e =>
    match s.tasks[i]? with
    | some ⟨session, .running⟩ =>
      match e, s.cancelled with
      | .cancel _, false => none
      | _, _ => (session.step cfg e).map (fun session' =>
          { s with
            tasks := s.tasks.set i ⟨session', .running⟩
            metrics := s.metrics.step cfg session e })
    | _ => none
  | .notify i =>
    match s.tasks[i]? with
    | some ⟨session, .running⟩ =>
      match session.phase with
      | .closed _ =>
        some { s with
          tasks := s.tasks.set i ⟨session, .notified⟩
          -- a message to a task that has ended is lost
          ended := if s.releasing then s.ended + 1 else s.ended }
      | _ => none
    | _ => none
  | .panic i =>
    match s.tasks[i]? with
    | some ⟨session, .running⟩ =>
      match session.pending cfg with
      | some _ =>
        some { s with
          tasks := s.tasks.set i ⟨session, .panicked⟩
          -- the frame has been counted
          metrics := { s.metrics with framesReceived := s.metrics.framesReceived + 1 } }
      | none => none
    | _ => none
  | .release =>
    if s.releasing ∧ 0 < s.ended then
      some { s with
        active := s.active - 1
        ended := s.ended - 1
        metrics := { s.metrics with connectionsClosed := s.metrics.connectionsClosed + 1 } }
    else none
  | .cancel => some { s with cancelled := true }
  | .stopListening =>
    if s.cancelled ∧ s.listening ∧ ¬ s.spawning then some { s with listening := false } else none
  | .stopReleasing =>
    -- its channel is closed no earlier: the accept loop holds a sender until it is cancelled
    if s.cancelled ∧ s.releasing then some { s with releasing := false, ended := 0 } else none

/-- What a step can be. -/
inductive Moves (cfg : Config) (maxConnections : UInt64) (s : Server) :
    ServerEvent → Server → Prop
  | dropped (hfull : s.active ≥ maxConnections) : Moves cfg maxConnections s .accept s
  | accepted (hidle : s.spawning = false) (hroom : s.active < maxConnections) :
      Moves cfg maxConnections s .accept { s with spawning := true }
  | acceptError : Moves cfg maxConnections s .acceptError s
  | spawn (now : Nat) (hspawning : s.spawning = true) :
      Moves cfg maxConnections s (.spawn now)
        { s with
          spawning := false
          active := s.active + 1
          tasks := s.tasks ++ [⟨Session.start now, .running⟩]
          metrics := { s.metrics with connectionsOpened := s.metrics.connectionsOpened + 1 } }
  | client (i : Nat) (e : ClientEvent) (session session' : Session)
      (htask : s.tasks[i]? = some ⟨session, .running⟩)
      (hstep : session.step cfg e = some session') :
      Moves cfg maxConnections s (.client i e)
        { s with
          tasks := s.tasks.set i ⟨session', .running⟩
          metrics := s.metrics.step cfg session e }
  | notify (i : Nat) (session : Session) (reason : CloseReason)
      (htask : s.tasks[i]? = some ⟨session, .running⟩) (hphase : session.phase = .closed reason) :
      Moves cfg maxConnections s (.notify i)
        { s with
          tasks := s.tasks.set i ⟨session, .notified⟩
          ended := if s.releasing then s.ended + 1 else s.ended }
  | panic (i : Nat) (session : Session) (request : Request)
      (htask : s.tasks[i]? = some ⟨session, .running⟩)
      (hpending : session.pending cfg = some request) :
      Moves cfg maxConnections s (.panic i)
        { s with
          tasks := s.tasks.set i ⟨session, .panicked⟩
          metrics := { s.metrics with framesReceived := s.metrics.framesReceived + 1 } }
  | release (hreleasing : s.releasing = true) (hended : 0 < s.ended) :
      Moves cfg maxConnections s .release
        { s with
          active := s.active - 1
          ended := s.ended - 1
          metrics := { s.metrics with connectionsClosed := s.metrics.connectionsClosed + 1 } }
  | cancel : Moves cfg maxConnections s .cancel { s with cancelled := true }
  | stopListening (hidle : s.spawning = false) :
      Moves cfg maxConnections s .stopListening { s with listening := false }
  | stopReleasing :
      Moves cfg maxConnections s .stopReleasing { s with releasing := false, ended := 0 }

theorem moves_of_step {cfg : Config} {maxConnections : UInt64} {s s' : Server} {e : ServerEvent}
    (h : step cfg maxConnections s e = some s') : Moves cfg maxConnections s e s' := by
  cases e with
  | accept =>
    unfold step at h
    simp only at h
    split at h
    · rename_i hidle
      split at h
      · rename_i hfull
        cases h
        exact .dropped hfull
      · rename_i hroom
        cases h
        exact .accepted (Bool.eq_false_iff.mpr hidle.2) (UInt64.not_le.mp hroom)
    · cases h
  | acceptError =>
    unfold step at h
    simp only at h
    split at h
    · cases h
      exact .acceptError
    · cases h
  | spawn now =>
    unfold step at h
    simp only at h
    split at h
    · rename_i hspawning
      cases h
      exact .spawn now hspawning
    · cases h
  | client i e =>
    unfold step at h
    simp only at h
    split at h
    · rename_i session htask
      split at h
      · cases h
      · obtain ⟨session', hstep, rfl⟩ := Option.map_eq_some_iff.mp h
        exact .client i _ session session' htask hstep
    · cases h
  | notify i =>
    unfold step at h
    simp only at h
    split at h
    · rename_i session htask
      split at h
      · rename_i reason hphase
        cases h
        exact .notify i session reason htask hphase
      · cases h
    · cases h
  | panic i =>
    unfold step at h
    simp only at h
    split at h
    · rename_i session htask
      split at h
      · rename_i request hpending
        cases h
        exact .panic i session request htask hpending
      · cases h
    · cases h
  | release =>
    unfold step at h
    simp only at h
    split at h
    · rename_i hended
      cases h
      exact .release hended.1 hended.2
    · cases h
  | cancel =>
    cases h
    exact .cancel
  | stopListening =>
    unfold step at h
    simp only at h
    split at h
    · rename_i hidle
      cases h
      exact .stopListening (Bool.eq_false_iff.mpr hidle.2.2)
    · cases h
  | stopReleasing =>
    unfold step at h
    simp only at h
    split at h
    · cases h
      exact .stopReleasing
    · cases h

end Server

end RzRouter
