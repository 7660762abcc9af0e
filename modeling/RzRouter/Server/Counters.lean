import RzRouter.Server.Slots

/-!
# What the counters count

Every step of a connection adds to the shared counters what it adds to its own account, so each
counter is a sum over all connections, however these interleave.
-/

namespace RzRouter

open Pool Transition

/-- Closed by one of the two time-outs that are counted as such. -/
def Session.timedOut (s : Session) : Nat :=
  match s.phase with
  | .closed .idleTimeout | .closed .frameTimeout => 1
  | _ => 0

/-- Closed for one of the two size limits. -/
def Session.oversized (s : Session) : Nat :=
  match s.phase with
  | .closed .bufferExceeded | .closed .frameTooLarge => 1
  | _ => 0

/-- The frames taken that are no requests. -/
def Session.keepalives (s : Session) : List (RouterFrame × List UInt8) :=
  s.frames.filter (fun f => !isRequest f)

/-- What becomes of a request. -/
inductive Outcome
  | forwarded
  | unknownSegment
  | networkError
  | timeout
  | internal
  deriving DecidableEq

/-- The outcome that the result of `forward` stands for. -/
def outcome : Except ForwardError (List UInt8) → Outcome
  | .ok _ => .forwarded
  | .error (.unknownSegment _) => .unknownSegment
  | .error .networkError => .networkError
  | .error .timeout => .timeout
  | .error (.internal _) => .internal

/-- The counter of an outcome. -/
def RouterMetrics.count (m : RouterMetrics) : Outcome → Nat
  | .forwarded => m.framesForwarded
  | .unknownSegment => m.unknownSegment
  | .networkError => m.networkErrors
  | .timeout => m.timeouts
  | .internal => m.internalErrors

/-- What the connection adds to these counters besides its requests. -/
def Session.lapsed (s : Session) : Outcome → Nat
  | .timeout => s.timedOut
  | _ => 0

namespace Session

/-- The result that `forward` returns for the request of a turn. -/
def answered (cfg : Config) (s : Session) : ClientEvent → List (Except ForwardError (List UInt8))
  | .turn reply =>
    match s.pending cfg with
    | some _ => [reply.result]
    | none => []
  | _ => []

/-- The buffer of a turn, where it does not begin with a frame. -/
def garbled (cfg : Config) (s : Session) : ClientEvent → List (List UInt8)
  | .turn _ =>
    if s.buf.length > cfg.maxBufferSize then []
    else
      match tryDecodeRouter s.buf with
      | .ok _ => []
      | .error _ => [s.buf]
  | _ => []

end Session

/-! ## One step of a connection -/

/-- The counters and the account of a connection change by the same. -/
structure Balanced (s s' : Session) (results : List (Except ForwardError (List UInt8)))
    (garbled : List (List UInt8)) (m m' : RouterMetrics) : Prop where
  frames : s'.frames.length + m.framesReceived = s.frames.length + m'.framesReceived
  requests : s'.requests.length = s.requests.length + results.length
  keepalives : s'.keepalives.length + m.keepalivesReceived =
    s.keepalives.length + m'.keepalivesReceived
  counts : ∀ o, m'.count o + s.lapsed o =
    m.count o + results.countP (fun r => outcome r = o) + s'.lapsed o
  received : s'.received.length + m.bytesReceived = s.received.length + m'.bytesReceived
  resyncs : m'.resyncs = m.resyncs + garbled.length
  errors : s'.oversized + m'.resyncs + m.clientErrors = s.oversized + m.resyncs + m'.clientErrors
  sent : s'.out.length + m.bytesSent ≤ s.out.length + m'.bytesSent
  allSent : s'.phase ≠ .closed .writeError →
    s'.out.length + m.bytesSent = s.out.length + m'.bytesSent

theorem timedOut_processing {s : Session} (h : s.phase = .processing) :
    s.timedOut = 0 ∧ s.oversized = 0 := by
  unfold Session.timedOut Session.oversized
  rw [h]
  exact ⟨rfl, rfl⟩

theorem timedOut_writeError {s : Session} (h : s.phase = .closed .writeError) :
    s.timedOut = 0 ∧ s.oversized = 0 := by
  unfold Session.timedOut Session.oversized
  rw [h]
  exact ⟨rfl, rfl⟩

theorem lapsed_eq_zero {s : Session} (h : s.timedOut = 0) (o : Outcome) : s.lapsed o = 0 := by
  cases o with
  | timeout => exact h
  | _ => rfl

/-- No time-out is counted. -/
theorem counts_quiet {s s' : Session} (h : s.timedOut = 0) (h' : s'.timedOut = 0)
    {m m' : RouterMetrics} (hsame : ∀ o, m'.count o = m.count o) (o : Outcome) :
    m'.count o + s.lapsed o = m.count o + s'.lapsed o := by
  rw [hsame, lapsed_eq_zero h, lapsed_eq_zero h']

/-- The time-out of the connection is counted. -/
theorem counts_lapse {s s' : Session} (h : s.timedOut = 0) (h' : s'.timedOut = 1)
    (m : RouterMetrics) (o : Outcome) :
    ({ m with timeouts := m.timeouts + 1 } : RouterMetrics).count o + s.lapsed o =
      m.count o + s'.lapsed o := by
  cases o with
  | timeout =>
    show m.timeouts + 1 + s.timedOut = m.timeouts + s'.timedOut
    omega
  | _ => rfl

/-- Taking a frame. -/
theorem length_requests_take (s : Session) (frame : RouterFrame) :
    (s.take frame).frames.length = s.frames.length + 1 ∧
      (s.take frame).requests.length =
        s.requests.length + (if frame.segment = KEEPALIVE_SEGMENT then 0 else 1) ∧
      (s.take frame).keepalives.length =
        s.keepalives.length + (if frame.segment = KEEPALIVE_SEGMENT then 1 else 0) := by
  unfold Session.requests Session.keepalives Session.take isRequest
  simp only [List.length_append, List.length_singleton, List.filter_append, true_and]
  split
  · rename_i hsegment
    rw [List.filter_cons_of_neg (by simp [hsegment]), List.filter_cons_of_pos (by simp [hsegment])]
    exact ⟨rfl, rfl⟩
  · rename_i hsegment
    rw [List.filter_cons_of_pos (by simp [hsegment]), List.filter_cons_of_neg (by simp [hsegment])]
    exact ⟨rfl, rfl⟩

/-- What is written is at most what is counted, and the same unless the connection is closed. -/
theorem out_respond_le (s : Session) (clrid : UInt32) (reply : Reply) (m : RouterMetrics) :
    (s.respond clrid reply).out.length + m.bytesSent ≤
        s.out.length + (m.respond clrid reply.result).bytesSent ∧
      ((s.respond clrid reply).phase ≠ .closed .writeError →
        (s.respond clrid reply).out.length + m.bytesSent =
          s.out.length + (m.respond clrid reply.result).bytesSent) := by
  have hwrite : ∀ response : List UInt8,
      (({ s with now := s.now + reply.duration } : Session).write
          response reply.write).out.length ≤ s.out.length + response.length ∧
        (reply.write = .done →
          (({ s with now := s.now + reply.duration } : Session).write
            response reply.write).out.length = s.out.length + response.length) := by
    intro response
    unfold Session.write
    cases reply.write with
    | done => simp only [List.length_append, Nat.le_refl, implies_true, and_self]
    | failed written =>
      simp only [List.length_append, List.length_take]
      exact ⟨by omega, fun hdone => by cases hdone⟩
  unfold Session.respond RouterMetrics.respond
  cases reply.result with
  | ok response =>
    obtain ⟨hle, heq⟩ := hwrite response
    simp only
    split
    · rename_i hdone
      have hall := heq hdone
      split
      · exact ⟨by omega, fun _ => by omega⟩
      · refine ⟨?_, fun hne => absurd rfl hne⟩
        simp only [Session.close]
        omega
    · refine ⟨?_, fun hne => absurd rfl hne⟩
      simp only [Session.close]
      omega
  | error e =>
    obtain ⟨hle, heq⟩ := hwrite (buildErrorResponse clrid e.code)
    simp only
    split
    · rename_i hdone
      have hall := heq hdone
      exact ⟨by omega, fun _ => by omega⟩
    · refine ⟨?_, fun hne => absurd rfl hne⟩
      simp only [Session.close]
      omega

/-- The result of a request is counted once, by its outcome. -/
theorem count_respond (m : RouterMetrics) (clrid : UInt32)
    (result : Except ForwardError (List UInt8)) (o : Outcome) :
    (m.respond clrid result).count o = m.count o + [result].countP (fun r => outcome r = o) := by
  rw [List.countP_singleton]
  cases result with
  | ok response => cases o <;> rfl
  | error e => cases e <;> cases o <;> rfl

/-- What the answer to a request leaves alone. -/
theorem counters_respond (m : RouterMetrics) (clrid : UInt32)
    (result : Except ForwardError (List UInt8)) :
    (m.respond clrid result).framesReceived = m.framesReceived ∧
      (m.respond clrid result).keepalivesReceived = m.keepalivesReceived ∧
      (m.respond clrid result).bytesReceived = m.bytesReceived ∧
      (m.respond clrid result).clientErrors = m.clientErrors ∧
      (m.respond clrid result).resyncs = m.resyncs := by
  unfold RouterMetrics.respond
  cases result with
  | ok response => exact ⟨rfl, rfl, rfl, rfl, rfl⟩
  | error e => cases e <;> exact ⟨rfl, rfl, rfl, rfl, rfl⟩

theorem balanced_respond (s : Session) (frame : RouterFrame) (reply : Reply) (m : RouterMetrics)
    (hphase : s.phase = .processing) (hsegment : frame.segment ≠ KEEPALIVE_SEGMENT) :
    Balanced s ((s.take frame).respond frame.originalClrid reply) [reply.result] [] m
      (({ m with framesReceived := m.framesReceived + 1 } : RouterMetrics).respond
        frame.originalClrid reply.result) := by
  have hsame := sameInput_respond (s.take frame) frame.originalClrid reply
  obtain ⟨hframes, hrequests, hkept⟩ := length_requests_take s frame
  rw [if_neg hsegment] at hrequests hkept
  obtain ⟨hout, hall⟩ := out_respond_le (s.take frame) frame.originalClrid reply
    { m with framesReceived := m.framesReceived + 1 }
  obtain ⟨hreceived, hkeepalives, hbytes, herrors, hresyncs⟩ :=
    counters_respond { m with framesReceived := m.framesReceived + 1 } frame.originalClrid
      reply.result
  obtain ⟨htimed, hsize⟩ := timedOut_processing hphase
  have hopen : ((s.take frame).respond frame.originalClrid reply).timedOut = 0 ∧
      ((s.take frame).respond frame.originalClrid reply).oversized = 0 := by
    rcases phase_respond (s.take frame) frame.originalClrid reply with hkeep | hclosed
    · exact timedOut_processing (hkeep.trans hphase)
    · exact timedOut_writeError hclosed
  refine ⟨?_, ?_, ?_, fun o => ?_, ?_, hresyncs, ?_, hout, hall⟩
  · rw [hsame.frames, hframes, hreceived]
    show _ = _ + (m.framesReceived + 1)
    omega
  · unfold Session.requests at hrequests ⊢
    rw [hsame.frames]
    exact hrequests
  · unfold Session.keepalives at hkept ⊢
    rw [hsame.frames, hkept, hkeepalives]
    rfl
  · rw [count_respond, lapsed_eq_zero htimed, lapsed_eq_zero hopen.1]
    cases o <;> rfl
  · rw [hsame.received, hbytes]
    rfl
  · rw [hresyncs, herrors, hsize, hopen.2]

/-- A step that takes and writes nothing. -/
theorem balanced_same {s s' : Session} {m m' : RouterMetrics} {garbled : List (List UInt8)}
    (hsession : s'.frames = s.frames ∧ s'.received = s.received ∧ s'.out = s.out)
    (hcounters : m'.framesReceived = m.framesReceived ∧
      m'.keepalivesReceived = m.keepalivesReceived ∧ m'.bytesReceived = m.bytesReceived ∧
      m'.bytesSent = m.bytesSent)
    (hcounts : ∀ o, m'.count o + s.lapsed o = m.count o + s'.lapsed o)
    (hresyncs : m'.resyncs = m.resyncs + garbled.length)
    (herrors : s'.oversized + m'.resyncs + m.clientErrors =
      s.oversized + m.resyncs + m'.clientErrors) : Balanced s s' [] garbled m m' := by
  obtain ⟨hframes, hreceived, hout⟩ := hsession
  obtain ⟨hcount, hkeepalives, hbytes, hsent⟩ := hcounters
  refine ⟨?_, ?_, ?_, hcounts, ?_, hresyncs, herrors, ?_, fun _ => ?_⟩
  · rw [hframes, hcount]
  · unfold Session.requests
    rw [hframes]
    rfl
  · unfold Session.keepalives
    rw [hframes, hkeepalives]
  · rw [hreceived, hbytes]
  · rw [hout, hsent]
  · rw [hout, hsent]

theorem balanced_resync (s : Session) (m : RouterMetrics) (hphase : s.phase = .processing) :
    Balanced s s.resync [] [s.buf] m
      { m with clientErrors := m.clientErrors + 1, resyncs := m.resyncs + 1 } := by
  obtain ⟨htimed, hsize⟩ := timedOut_processing hphase
  have hsame : (s.resync.frames = s.frames ∧ s.resync.received = s.received ∧
      s.resync.out = s.out) ∧ s.resync.timedOut = 0 ∧ s.resync.oversized = 0 := by
    unfold Session.resync
    split
    · exact ⟨⟨rfl, rfl, rfl⟩, rfl, rfl⟩
    · simp only
      split
      · rename_i pos hmagic
        exact ⟨⟨rfl, rfl, rfl⟩,
          timedOut_processing (s := { s with buf := (s.buf.drop 1).drop pos }) hphase⟩
      · split
        · exact ⟨⟨rfl, rfl, rfl⟩, rfl, rfl⟩
        · exact ⟨⟨rfl, rfl, rfl⟩, rfl, rfl⟩
  refine balanced_same hsame.1 ⟨rfl, rfl, rfl, rfl⟩ ?_ rfl ?_
  · exact counts_quiet htimed hsame.2.1 (fun o => by cases o <;> rfl)
  · rw [hsame.2.2, hsize]
    show 0 + (m.resyncs + 1) + m.clientErrors = 0 + m.resyncs + (m.clientErrors + 1)
    omega

theorem balanced_keepalive (s : Session) (frame : RouterFrame) (m : RouterMetrics)
    (hphase : s.phase = .processing) (hsegment : frame.segment = KEEPALIVE_SEGMENT) :
    Balanced s (s.take frame) [] [] m
      { m with
        framesReceived := m.framesReceived + 1
        keepalivesReceived := m.keepalivesReceived + 1 } := by
  obtain ⟨htimed, hsize⟩ := timedOut_processing hphase
  obtain ⟨htimed', hsize'⟩ := timedOut_processing (s := s.take frame) hphase
  obtain ⟨hframes, hrequests, hkept⟩ := length_requests_take s frame
  rw [if_pos hsegment] at hrequests hkept
  refine ⟨?_, hrequests, ?_, ?_, rfl, rfl, ?_, Nat.le_refl _, fun _ => rfl⟩
  · rw [hframes]
    show _ = _ + (m.framesReceived + 1)
    omega
  · rw [hkept]
    show _ = _ + (m.keepalivesReceived + 1)
    omega
  · exact counts_quiet htimed htimed' (fun o => by cases o <;> rfl)
  · rw [hsize, hsize']

/-- A turn with a buffer that is too large answers nothing. -/
theorem answered_large {cfg : Config} {s : Session} (hlen : s.buf.length > cfg.maxBufferSize)
    (reply : Reply) :
    s.answered cfg (.turn reply) = [] ∧ s.garbled cfg (.turn reply) = [] := by
  unfold Session.answered Session.garbled Session.pending
  simp only
  rw [if_neg (fun h => Nat.not_lt.mpr h.2 hlen), if_pos hlen]
  exact ⟨rfl, rfl⟩

/-- A turn answers the request that it finds. -/
theorem answered_turn {cfg : Config} {s : Session} (hphase : s.phase = .processing)
    (hlen : ¬ s.buf.length > cfg.maxBufferSize) (reply : Reply) :
    s.answered cfg (.turn reply) =
        (match tryDecodeRouter s.buf with
        | .ok (some frame) =>
          if frame.frameLen ≤ cfg.maxFrameSize ∧ frame.segment ≠ KEEPALIVE_SEGMENT then
            [reply.result]
          else []
        | _ => []) ∧
      s.garbled cfg (.turn reply) =
        (match tryDecodeRouter s.buf with
        | .ok _ => []
        | .error _ => [s.buf]) := by
  unfold Session.answered Session.garbled Session.pending
  simp only
  rw [if_pos ⟨hphase, Nat.le_of_not_lt hlen⟩, if_neg hlen]
  refine ⟨?_, rfl⟩
  cases tryDecodeRouter s.buf with
  | error e => rfl
  | ok decoded =>
    cases decoded with
    | none => rfl
    | some frame =>
      simp only
      by_cases hrequest : frame.frameLen ≤ cfg.maxFrameSize ∧ frame.segment ≠ KEEPALIVE_SEGMENT
      · rw [if_pos hrequest, if_pos hrequest]
      · rw [if_neg hrequest, if_neg hrequest]

theorem balanced_turn (cfg : Config) (s : Session) (reply : Reply) (m : RouterMetrics)
    (hphase : s.phase = .processing) :
    Balanced s (s.turn cfg reply) (s.answered cfg (.turn reply)) (s.garbled cfg (.turn reply)) m
      (m.turn cfg s reply.result) := by
  obtain ⟨htimed, hsize⟩ := timedOut_processing hphase
  have hoversized : ∀ reason, (s.close reason).timedOut = 0 → (s.close reason).oversized = 1 →
      Balanced s (s.close reason) [] [] m { m with clientErrors := m.clientErrors + 1 } := by
    intro reason htimed' hsize'
    refine balanced_same ⟨rfl, rfl, rfl⟩ ⟨rfl, rfl, rfl, rfl⟩ ?_ rfl ?_
    · exact counts_quiet htimed htimed' (fun o => by cases o <;> rfl)
    · rw [hsize, hsize']
      show 1 + m.resyncs + m.clientErrors = 0 + m.resyncs + (m.clientErrors + 1)
      omega
  unfold Session.turn RouterMetrics.turn
  by_cases hlen : s.buf.length > cfg.maxBufferSize
  · obtain ⟨hanswered, hgarbled⟩ := answered_large hlen reply
    rw [if_pos hlen, if_pos hlen, hanswered, hgarbled]
    exact hoversized .bufferExceeded rfl rfl
  · obtain ⟨hanswered, hgarbled⟩ := answered_turn hphase hlen reply
    rw [if_neg hlen, if_neg hlen, hanswered, hgarbled]
    cases hdecode : tryDecodeRouter s.buf with
    | error e => exact balanced_resync s m hphase
    | ok decoded =>
      cases decoded with
      | none =>
        simp only
        by_cases hlate : s.now - s.lastFrameTime > cfg.frameTimeout
        · rw [if_pos hlate, if_pos hlate]
          refine balanced_same ⟨rfl, rfl, rfl⟩ ⟨rfl, rfl, rfl, rfl⟩ ?_ rfl ?_
          · exact counts_lapse htimed rfl m
          · rw [hsize]
            rfl
        · rw [if_neg hlate, if_neg hlate]
          refine balanced_same ⟨rfl, rfl, rfl⟩ ⟨rfl, rfl, rfl, rfl⟩ ?_ rfl ?_
          · exact counts_quiet htimed rfl (fun _ => rfl)
          · rw [hsize]
            rfl
      | some frame =>
        simp only
        by_cases hlarge : frame.frameLen > cfg.maxFrameSize
        · rw [if_pos hlarge, if_pos hlarge, if_neg (fun h => Nat.not_lt.mpr h.1 hlarge)]
          exact hoversized .frameTooLarge rfl rfl
        · rw [if_neg hlarge, if_neg hlarge]
          by_cases hsegment : frame.segment = KEEPALIVE_SEGMENT
          · rw [if_pos hsegment, if_pos hsegment, if_neg (fun h => h.2 hsegment)]
            exact balanced_keepalive s frame m hphase hsegment
          · rw [if_neg hsegment, if_neg hsegment, if_pos ⟨Nat.le_of_not_lt hlarge, hsegment⟩]
            exact balanced_respond s frame reply m hphase hsegment

theorem balanced_step {cfg : Config} {s s' : Session} {e : ClientEvent} (m : RouterMetrics)
    (hstep : s.step cfg e = some s') :
    Balanced s s' (s.answered cfg e) (s.garbled cfg e) m (m.step cfg s e) := by
  have hreading : s.phase = .reading → s.timedOut = 0 ∧ s.oversized = 0 := by
    intro hphase
    unfold Session.timedOut Session.oversized
    rw [hphase]
    exact ⟨rfl, rfl⟩
  have hleave : ∀ delay reason, s.phase = .reading →
      ({ s with now := s.now + delay }.close reason).timedOut = 0 →
      ({ s with now := s.now + delay }.close reason).oversized = 0 →
      Balanced s ({ s with now := s.now + delay }.close reason) [] [] m m := by
    intro delay reason hphase htimed hsize
    refine balanced_same ⟨rfl, rfl, rfl⟩ ⟨rfl, rfl, rfl, rfl⟩ ?_ rfl ?_
    · exact counts_quiet (hreading hphase).1 htimed (fun _ => rfl)
    · rw [hsize, (hreading hphase).2]
  unfold Session.step at hstep
  split at hstep
  · rename_i delay bytes hphase
    obtain ⟨htimed, hsize⟩ := hreading hphase
    split at hstep
    · cases hstep
    · cases hstep
      refine ⟨rfl, rfl, rfl, ?_, ?_, rfl, ?_, Nat.le_refl _, fun _ => rfl⟩
      · exact counts_quiet htimed rfl (fun o => by cases o <;> rfl)
      · show (s.received ++ bytes).length + _ = _ + (m.bytesReceived + bytes.length)
        rw [List.length_append]
        omega
      · rw [hsize]
        rfl
  · rename_i delay hphase
    cases hstep
    exact hleave delay .clientClosed hphase rfl rfl
  · rename_i delay hphase
    cases hstep
    exact hleave delay .readError hphase rfl rfl
  · rename_i delay hphase
    obtain ⟨htimed, hsize⟩ := hreading hphase
    split at hstep
    · cases hstep
    · cases hstep
      refine balanced_same ⟨rfl, rfl, rfl⟩ ⟨rfl, rfl, rfl, rfl⟩ ?_ rfl ?_
      · exact counts_lapse htimed rfl m
      · rw [hsize]
        rfl
  · rename_i delay hphase
    cases hstep
    exact hleave delay .cancelled hphase rfl rfl
  · rename_i reply hphase
    cases hstep
    exact balanced_turn cfg s reply m hphase
  · cases hstep

/-! ## The runs of the connections -/

/-- What happens to one connection. -/
structure ClientRun where
  start : Nat
  events : List ClientEvent

namespace ClientRun

/-- `handle_connection` alone. -/
def session? (cfg : Config) (r : ClientRun) : Option Session :=
  run (Session.step cfg) (Session.start r.start) r.events

/-- What `forward` returns for its requests, in order. -/
def results (cfg : Config) (r : ClientRun) : List (Except ForwardError (List UInt8)) :=
  notes (Session.step cfg) (Session.answered cfg) (Session.start r.start) r.events

/-- The buffers that did not begin with a frame. -/
def garbled (cfg : Config) (r : ClientRun) : List (List UInt8) :=
  notes (Session.step cfg) (Session.garbled cfg) (Session.start r.start) r.events

/-- How many of its requests have come to `o`. -/
def count (cfg : Config) (o : Outcome) (r : ClientRun) : Nat :=
  (r.results cfg).countP (fun result => outcome result = o)

def add (r : ClientRun) (e : ClientEvent) : ClientRun := { r with events := r.events ++ [e] }

variable {cfg : Config} {r : ClientRun} {s : Session}

theorem session_add (h : r.session? cfg = some s) (e : ClientEvent) :
    (r.add e).session? cfg = s.step cfg e := by
  unfold session? at h ⊢
  unfold add
  rw [run_append, h]
  show (s.step cfg e).bind _ = _
  cases s.step cfg e <;> rfl

theorem results_add (h : r.session? cfg = some s) (e : ClientEvent) :
    (r.add e).results cfg = r.results cfg ++ s.answered cfg e := notes_concat _ h e

theorem garbled_add (h : r.session? cfg = some s) (e : ClientEvent) :
    (r.add e).garbled cfg = r.garbled cfg ++ s.garbled cfg e := notes_concat _ h e

end ClientRun

namespace Server

variable {cfg : Config} {maxConnections : UInt64}

/-- The sum of what each connection has done. -/
def sum (s : Server) (f : Session → Nat) : Nat := total (fun t => f t.session) s.tasks

/-- The runs of the connections, after one more event. -/
def addEvent (runs : List ClientRun) : ServerEvent → List ClientRun
  | .spawn now => runs ++ [⟨now, []⟩]
  | .client i e =>
    match runs[i]? with
    | some r => runs.set i (r.add e)
    | none => runs
  | _ => runs

/-- The runs of the connections in a run of the server. -/
def clientRuns (es : List ServerEvent) : List ClientRun := es.foldl addEvent []

theorem clientRuns_concat (es : List ServerEvent) (e : ServerEvent) :
    clientRuns (es ++ [e]) = addEvent (clientRuns es) e := by
  unfold clientRuns
  rw [List.foldl_append]
  rfl

/-! ## All connections -/

/-- The counters, as sums over the connections. -/
structure Counted (cfg : Config) (es : List ServerEvent) (s : Server) : Prop where
  runs : (clientRuns es).map (fun r => (r.session? cfg, (r.results cfg).length)) =
    s.tasks.map (fun t => (some t.session, t.session.requests.length))
  frames : s.metrics.framesReceived = s.sum (fun c => c.frames.length) + s.panicked
  keepalives : s.metrics.keepalivesReceived = s.sum (fun c => c.keepalives.length)
  counts : ∀ o, s.metrics.count o =
    total (ClientRun.count cfg o) (clientRuns es) + s.sum (fun c => c.lapsed o)
  received : s.metrics.bytesReceived = s.sum (fun c => c.received.length)
  resyncs : s.metrics.resyncs = total (fun r => (r.garbled cfg).length) (clientRuns es)
  errors : s.metrics.clientErrors = s.metrics.resyncs + s.sum Session.oversized
  sent : s.sum (fun c => c.out.length) ≤ s.metrics.bytesSent
  allSent : (∀ t ∈ s.tasks, t.session.phase ≠ .closed .writeError) →
    s.sum (fun c => c.out.length) = s.metrics.bytesSent

theorem counted_init (cfg : Config) : Counted cfg [] init :=
  ⟨rfl, rfl, rfl, fun o => by cases o <;> rfl, rfl, rfl, rfl, Nat.le_refl 0, fun _ => rfl⟩

/-- No connection steps. -/
theorem counted_same {es es' : List ServerEvent} {s s' : Server} (hs : Counted cfg es s)
    (hruns : (clientRuns es').map (fun r => (r.session? cfg, (r.results cfg).length)) =
      s'.tasks.map (fun t => (some t.session, t.session.requests.length)))
    (htotal : ∀ f : ClientRun → Nat, (∀ now, f ⟨now, []⟩ = 0) →
      total f (clientRuns es') = total f (clientRuns es))
    (hsum : ∀ f, (∀ now, f (Session.start now) = 0) → s'.sum f = s.sum f)
    (hphases : (∀ t ∈ s'.tasks, t.session.phase ≠ .closed .writeError) →
      ∀ t ∈ s.tasks, t.session.phase ≠ .closed .writeError)
    (hframes : s'.metrics.framesReceived + s.panicked = s.metrics.framesReceived + s'.panicked)
    (hcounters : s'.metrics.keepalivesReceived = s.metrics.keepalivesReceived ∧
      (∀ o, s'.metrics.count o = s.metrics.count o) ∧
      s'.metrics.bytesReceived = s.metrics.bytesReceived ∧
      s'.metrics.bytesSent = s.metrics.bytesSent ∧
      s'.metrics.clientErrors = s.metrics.clientErrors ∧
      s'.metrics.resyncs = s.metrics.resyncs) : Counted cfg es' s' := by
  obtain ⟨hkeepalives, hcounts, hbytes, hsent, herrors, hresyncs⟩ := hcounters
  have hcount := hs.frames
  have hframeSum := hsum (fun c => c.frames.length) (fun _ => rfl)
  have hsentSum := hsum (fun c => c.out.length) (fun _ => rfl)
  refine ⟨hruns, ?_, ?_, fun o => ?_, ?_, ?_, ?_, ?_, fun hopen => ?_⟩
  · omega
  · rw [hsum (fun c => c.keepalives.length) (fun _ => rfl), hkeepalives]
    exact hs.keepalives
  · rw [hsum (fun c => c.lapsed o) (fun _ => by cases o <;> rfl),
      htotal (ClientRun.count cfg o) (fun _ => rfl), hcounts]
    exact hs.counts o
  · rw [hsum _ (fun _ => rfl), hbytes]
    exact hs.received
  · rw [htotal _ (fun _ => rfl), hresyncs]
    exact hs.resyncs
  · rw [hsum Session.oversized (fun _ => rfl), herrors, hresyncs]
    exact hs.errors
  · rw [hsentSum, hsent]
    exact hs.sent
  · rw [hsentSum, hsent]
    exact hs.allSent (hphases hopen)

/-- One connection steps. -/
theorem counted_balanced {es es' : List ServerEvent} {s s' : Server} {r r' : ClientRun}
    {results : List (Except ForwardError (List UInt8))} {garbled : List (List UInt8)}
    (session session' : Session) (hs : Counted cfg es s)
    (hruns : (clientRuns es').map (fun r => (r.session? cfg, (r.results cfg).length)) =
      s'.tasks.map (fun t => (some t.session, t.session.requests.length)))
    (htotal : ∀ f : ClientRun → Nat,
      total f (clientRuns es') + f r = total f (clientRuns es) + f r')
    (hresults : r'.results cfg = r.results cfg ++ results)
    (hgarbled : r'.garbled cfg = r.garbled cfg ++ garbled)
    (hsum : ∀ f, s'.sum f + f session = s.sum f + f session')
    (hpanicked : s'.panicked = s.panicked)
    (hbalanced : Balanced session session' results garbled s.metrics s'.metrics)
    (hopen : (∀ t ∈ s'.tasks, t.session.phase ≠ .closed .writeError) →
      session'.phase ≠ .closed .writeError ∧
        ∀ t ∈ s.tasks, t.session.phase ≠ .closed .writeError) : Counted cfg es' s' := by
  have hframeSum := hsum (fun c => c.frames.length)
  have hsentSum := hsum (fun c => c.out.length)
  refine ⟨hruns, ?_, ?_, fun o => ?_, ?_, ?_, ?_, ?_, fun hall => ?_⟩
  · have hcount := hs.frames
    have hstep := hbalanced.frames
    omega
  · have hcount := hs.keepalives
    have hstep := hbalanced.keepalives
    have hkeptSum := hsum (fun c => c.keepalives.length)
    omega
  · have hcount := hs.counts o
    have hstep := hbalanced.counts o
    have hlapsedSum := hsum (fun c => c.lapsed o)
    have hcountTotal := htotal (ClientRun.count cfg o)
    have hmore : r'.count cfg o = r.count cfg o + results.countP (fun x => outcome x = o) := by
      unfold ClientRun.count
      rw [hresults, List.countP_append]
    omega
  · have hcount := hs.received
    have hstep := hbalanced.received
    have hreceivedSum := hsum (fun c => c.received.length)
    omega
  · have hcount := hs.resyncs
    have hstep := hbalanced.resyncs
    have hgarbledTotal := htotal (fun r => (r.garbled cfg).length)
    simp only [hgarbled, List.length_append] at hgarbledTotal
    omega
  · have hcount := hs.errors
    have hstep := hbalanced.errors
    have hsizeSum := hsum Session.oversized
    omega
  · have hcount := hs.sent
    have hstep := hbalanced.sent
    omega
  · have hcount := hs.allSent (hopen hall).2
    have hstep := hbalanced.allSent (hopen hall).1
    omega

theorem phases_set {tasks : List ClientTask} {i : Nat} {session : Session} {status : TaskStatus}
    (htask : tasks[i]? = some ⟨session, status⟩) {t' : ClientTask}
    (hsession : session.phase = .closed .writeError → t'.session.phase = .closed .writeError)
    (hopen : ∀ t ∈ tasks.set i t', t.session.phase ≠ .closed .writeError) :
    ∀ t ∈ tasks, t.session.phase ≠ .closed .writeError := by
  intro t ht hclosed
  obtain ⟨j, hj⟩ := List.mem_iff_getElem?.mp ht
  by_cases hij : i = j
  · subst hij
    rw [htask] at hj
    cases hj
    obtain ⟨hlt, -⟩ := List.getElem?_eq_some_iff.mp htask
    exact hopen t' (List.mem_set hlt t') (hsession hclosed)
  · apply hopen t _ hclosed
    apply List.mem_of_getElem? (i := j)
    rw [List.getElem?_set_ne hij]
    exact hj

/-- A step after which the connections have had the same events. -/
theorem counted_idle {es : List ServerEvent} {e : ServerEvent} {s s' : Server}
    (hs : Counted cfg es s) (he : ∀ runs, addEvent runs e = runs)
    (htasks : s'.tasks.map ClientTask.session = s.tasks.map ClientTask.session)
    (hframes : s'.metrics.framesReceived + s.panicked = s.metrics.framesReceived + s'.panicked)
    (hcounters : s'.metrics.keepalivesReceived = s.metrics.keepalivesReceived ∧
      (∀ o, s'.metrics.count o = s.metrics.count o) ∧
      s'.metrics.bytesReceived = s.metrics.bytesReceived ∧
      s'.metrics.bytesSent = s.metrics.bytesSent ∧
      s'.metrics.clientErrors = s.metrics.clientErrors ∧
      s'.metrics.resyncs = s.metrics.resyncs) : Counted cfg (es ++ [e]) s' := by
  have hsame : clientRuns (es ++ [e]) = clientRuns es := (clientRuns_concat es e).trans (he _)
  have hsum : ∀ f, s'.sum f = s.sum f := by
    intro f
    have hsessions : ∀ c : Server, c.sum f = ((c.tasks.map ClientTask.session).map f).sum := by
      intro c
      rw [List.map_map]
      rfl
    rw [hsessions, hsessions, htasks]
  refine counted_same hs ?_ (fun f _ => by rw [hsame]) (fun f _ => hsum f) ?_ hframes hcounters
  · have hsessions : ∀ tasks : List ClientTask,
        tasks.map (fun t => (some t.session, t.session.requests.length)) =
          (tasks.map ClientTask.session).map (fun c => (some c, c.requests.length)) := by
      intro tasks
      rw [List.map_map]
      rfl
    rw [hsame, hs.runs, hsessions, hsessions, htasks]
  · intro hopen t ht
    have hmem : t.session ∈ s'.tasks.map ClientTask.session := by
      rw [htasks]
      exact List.mem_map_of_mem ht
    obtain ⟨t', ht', hsession⟩ := List.mem_map.mp hmem
    rw [← hsession]
    exact hopen t' ht'

/-- The run of a connection goes on with its task. -/
theorem counted_client {es : List ServerEvent} {s : Server} {i : Nat} {e : ClientEvent}
    {session session' : Session} (hs : Counted cfg es s)
    (htask : s.tasks[i]? = some ⟨session, .running⟩) (hstep : session.step cfg e = some session') :
    Counted cfg (es ++ [.client i e])
      { s with
        tasks := s.tasks.set i ⟨session', .running⟩
        metrics := s.metrics.step cfg session e } := by
  have hget := congrArg (fun l => l[i]?) hs.runs
  simp only [List.getElem?_map, htask, Option.map_some] at hget
  obtain ⟨r, hr, hpair⟩ := Option.map_eq_some_iff.mp hget
  obtain ⟨hsession, hrequests⟩ := Prod.mk.inj hpair
  have hruns : clientRuns (es ++ [.client i e]) = (clientRuns es).set i (r.add e) := by
    rw [clientRuns_concat]
    unfold addEvent
    simp only [hr]
  have hbalanced := balanced_step s.metrics hstep
  refine counted_balanced session session' hs ?_ (fun f => ?_) (ClientRun.results_add hsession e)
    (ClientRun.garbled_add hsession e)
    (fun f => total_set (fun t : ClientTask => f t.session) htask ⟨session', .running⟩)
    (total_set ClientTask.panicked htask ⟨session', .running⟩) hbalanced (fun hopen => ?_)
  · rw [hruns, List.map_set, List.map_set, hs.runs, ClientRun.session_add hsession, hstep,
      ClientRun.results_add hsession, List.length_append, hrequests, hbalanced.requests]
  · rw [hruns]
    exact total_set f hr (r.add e)
  · -- a closed connection does not step
    have hwasOpen : session.phase ≠ .closed .writeError := by
      intro hclosed
      unfold Session.step at hstep
      rw [hclosed] at hstep
      cases hstep
    obtain ⟨hlt, -⟩ := List.getElem?_eq_some_iff.mp htask
    exact ⟨hopen _ (List.mem_set hlt _), phases_set htask (fun h => absurd h hwasOpen) hopen⟩

theorem counted_step (es : List ServerEvent) (s : Server) (e : ServerEvent) (s' : Server)
    (hs : Counted cfg es s) (hstep : step cfg maxConnections s e = some s') :
    Counted cfg (es ++ [e]) s' := by
  cases moves_of_step hstep with
  | spawn now hspawning =>
    have hruns : clientRuns (es ++ [.spawn now]) = clientRuns es ++ [⟨now, []⟩] :=
      clientRuns_concat es _
    refine counted_same hs ?_ (fun f hf => ?_) (fun f hf => ?_)
      (fun hopen t ht => hopen t (List.mem_append_left _ ht)) ?_
      ⟨rfl, fun o => by cases o <;> rfl, rfl, rfl, rfl, rfl⟩
    · rw [hruns, List.map_append, hs.runs, List.map_append]
      rfl
    · rw [hruns, total_append, total_cons, hf]
      rfl
    · show total (fun t : ClientTask => f t.session) (s.tasks ++ [⟨Session.start now, _⟩]) = s.sum f
      rw [total_append, total_cons, hf]
      rfl
    · show s.metrics.framesReceived + s.panicked = s.metrics.framesReceived +
        total ClientTask.panicked (s.tasks ++ [⟨Session.start now, _⟩])
      rw [total_append]
      rfl
  | client i e session session' htask hstep' => exact counted_client hs htask hstep'
  | notify i session reason htask hphase =>
    refine counted_idle hs (fun _ => rfl) (sessions_set htask .notified) ?_
      ⟨rfl, fun _ => rfl, rfl, rfl, rfl, rfl⟩
    have hpanicked := total_set ClientTask.panicked htask ⟨session, .notified⟩
    exact congrArg (s.metrics.framesReceived + ·) hpanicked.symm
  | panic i session request htask hpending =>
    refine counted_idle hs (fun _ => rfl) (sessions_set htask .panicked) ?_
      ⟨rfl, fun o => by cases o <;> rfl, rfl, rfl, rfl, rfl⟩
    have hpanicked := total_set ClientTask.panicked htask ⟨session, .panicked⟩
    show s.metrics.framesReceived + 1 + total ClientTask.panicked s.tasks =
      s.metrics.framesReceived + total ClientTask.panicked (s.tasks.set i _)
    have hone : total ClientTask.panicked (s.tasks.set i ⟨session, .panicked⟩) + 0 =
        total ClientTask.panicked s.tasks + 1 := hpanicked
    omega
  | _ =>
    exact counted_idle hs (fun _ => rfl) rfl rfl
      ⟨rfl, fun o => by cases o <;> rfl, rfl, rfl, rfl, rfl⟩

/-- The counters that all connections share are sums over the connections, in every run of the
server.  What `forward` returns for the requests of a connection is counted by its kind, once for
each request; `timeouts` also counts the connections that are closed for one; a connection is
counted as closed when its message is taken; every frame taken and every byte read is counted; and
every byte that is sent, along with bytes that are lost where a write fails. -/
theorem counters_agree (cfg : Config) (maxConnections : UInt64) (es : List ServerEvent)
    (s : Server) (hrun : run (step cfg maxConnections) init es = some s) :
    (clientRuns es).map (fun r => (r.session? cfg, (r.results cfg).length)) =
      s.tasks.map (fun t => (some t.session, t.session.requests.length)) ∧
    (s.metrics.connectionsOpened = s.tasks.length ∧
      s.metrics.connectionsClosed + s.ended ≤ s.notified ∧
      (s.releasing = true → s.metrics.connectionsClosed + s.ended = s.notified)) ∧
    s.metrics.framesReceived = s.sum (fun c => c.frames.length) + s.panicked ∧
    s.metrics.keepalivesReceived = s.sum (fun c => c.keepalives.length) ∧
    s.metrics.framesForwarded = total (ClientRun.count cfg .forwarded) (clientRuns es) ∧
    s.metrics.unknownSegment = total (ClientRun.count cfg .unknownSegment) (clientRuns es) ∧
    s.metrics.networkErrors = total (ClientRun.count cfg .networkError) (clientRuns es) ∧
    s.metrics.internalErrors = total (ClientRun.count cfg .internal) (clientRuns es) ∧
    s.metrics.timeouts =
      total (ClientRun.count cfg .timeout) (clientRuns es) + s.sum Session.timedOut ∧
    s.metrics.resyncs = total (fun r => (r.garbled cfg).length) (clientRuns es) ∧
    s.metrics.clientErrors =
      total (fun r => (r.garbled cfg).length) (clientRuns es) + s.sum Session.oversized ∧
    s.metrics.bytesReceived = s.sum (fun c => c.received.length) ∧
    s.sum (fun c => c.out.length) ≤ s.metrics.bytesSent ∧
    ((∀ t ∈ s.tasks, t.session.phase ≠ .closed .writeError) →
      s.sum (fun c => c.out.length) = s.metrics.bytesSent) := by
  have hcounted : Counted cfg es s :=
    invariant_of_events (counted_init cfg)
      (fun es t e t' _ ht hstep => counted_step es t e t' ht hstep) hrun
  have hslots := slots_of_run hrun
  have hends : s.metrics.connectionsClosed + s.ended ≤ s.notified ∧
      (s.releasing = true → s.metrics.connectionsClosed + s.ended = s.notified) := by
    have hall := holding_add_notified s
    have hopened := hslots.opened
    have hclosed := hslots.closed
    have hheld := hslots.held
    refine ⟨by omega, fun hreleasing => ?_⟩
    have hexact := hslots.exact hreleasing
    omega
  have hquiet : ∀ o, (∀ c : Session, c.lapsed o = 0) →
      s.metrics.count o = total (ClientRun.count cfg o) (clientRuns es) := by
    intro o hnone
    rw [hcounted.counts o]
    unfold sum
    simp only [hnone]
    rw [total_zero, Nat.add_zero]
  refine ⟨hcounted.runs, ⟨hslots.opened, hends⟩, hcounted.frames, hcounted.keepalives,
    hquiet .forwarded (fun _ => rfl), hquiet .unknownSegment (fun _ => rfl),
    hquiet .networkError (fun _ => rfl), hquiet .internal (fun _ => rfl), hcounted.counts .timeout,
    hcounted.resyncs, ?_, hcounted.received, hcounted.sent, hcounted.allSent⟩
  rw [← hcounted.resyncs]
  exact hcounted.errors

/-- Two clients send a request, for a segment that nobody serves and to a hop that fails, and a
third one sends garbage. -/
def threeClients : List ServerEvent :=
  [.accept, .spawn 0, .accept, .spawn 1, .accept, .spawn 1, .client 0 (.read 1 lyonFrame),
    .client 1 (.read 1 lyonFrame), .client 2 (.read 1 [1, 2, 3, 4, 5, 6]),
    .client 0 (.turn unknownLyon), .client 1 (.turn ⟨.error .networkError, 2, .done, true⟩),
    .client 2 (.turn unknownLyon), .client 0 (.turn unknownLyon), .client 0 (.eof 3), .notify 0,
    .release]

/-- One of the three connections has ended. -/
theorem counters_agree_three :
    ∃ s, run (step {} 10) init threeClients = some s ∧ s.metrics.connectionsOpened = 3 ∧
      s.metrics.connectionsClosed = 1 ∧ s.notified = 1 ∧
      s.metrics.unknownSegment = 1 ∧ s.metrics.networkErrors = 1 ∧ s.metrics.timeouts = 0 ∧
      total (ClientRun.count {} .networkError) (clientRuns threeClients) = 1 ∧
      total (fun r => (r.garbled {}).length) (clientRuns threeClients) = 1 ∧
      s.metrics.bytesReceived = s.sum (fun c => c.received.length) := by
  obtain ⟨s, hrun, hs⟩ := Option.map_eq_some_iff.mp (show
    (run (step {} 10) init threeClients).map (fun s => (s.metrics, s.ended, s.releasing)) =
      some ({ connectionsOpened := 3, connectionsClosed := 1, framesReceived := 2,
              bytesReceived := 46, bytesSent := 2 * (buildErrorResponse 9 1).length,
              clientErrors := 1, unknownSegment := 1, networkErrors := 1, resyncs := 1 },
            0, true) by decide)
  simp only [Prod.mk.injEq] at hs
  obtain ⟨hmetrics, hended, hreleasing⟩ := hs
  obtain ⟨-, ⟨-, -, hclosed⟩, -, -, -, -, hnetwork, -, -, hresyncs, -, hbytes, -⟩ :=
    counters_agree {} 10 _ s hrun
  have hnotified := hclosed hreleasing
  rw [hmetrics] at hnetwork hresyncs hnotified
  rw [hended] at hnotified
  refine ⟨s, hrun, ?_, ?_, hnotified.symm, ?_, ?_, ?_, hnetwork.symm, hresyncs.symm, hbytes⟩ <;>
    rw [hmetrics]

end Server

end RzRouter
