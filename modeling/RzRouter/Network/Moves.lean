import RzRouter.Network.Steps

/-!
# What the moves of a call change

The invariants of the system speak about the frames, the waiters and the channels.  For each of
these, one lemma says what a move of a call does to it.
-/

namespace RzRouter

variable {ι κ : Type} [DecidableEq κ]

/-! ## Reading the shared state -/

namespace Shared

omit [DecidableEq κ] in
/-- The call, the connection and the correlation id of a channel; they never change. -/
def ident (sh : Shared ι κ) (tx : Nat) : Option (ι × κ × UInt32) :=
  (sh.channels[tx]?).map (fun ch => (ch.owner, ch.conn, ch.corrId))

omit [DecidableEq κ] in
def state (sh : Shared ι κ) (tx : Nat) : Option ChannelState := (sh.channels[tx]?).map Channel.state

theorem conns_setConn (sh : Shared ι κ) (c c' : κ) (conn : Conn) :
    (sh.setConn c conn).conns c' = if c' = c then conn else sh.conns c' := by
  unfold setConn
  simp only [Function.update_apply]

omit [DecidableEq κ] in
@[simp] theorem conns_dropSender (sh : Shared ι κ) (tx : Option Nat) :
    (sh.dropSender tx).conns = sh.conns := by
  cases tx <;> rfl

omit [DecidableEq κ] in
@[simp] theorem conns_notify (sh : Shared ι κ) (notice : Option Notice) :
    (sh.notify notice).conns = sh.conns := by
  rcases notice with _ | ⟨tx, e | ⟨index, response⟩⟩ <;> rfl

omit [DecidableEq κ] in
theorem ident_resolve (sh : Shared ι κ) (tx : Nat) (new : ChannelState) :
    (sh.resolve tx new).ident = sh.ident := by
  funext tx'
  unfold ident resolve
  rw [List.getElem?_modify]
  cases sh.channels[tx']? with
  | none => rfl
  | some ch =>
    simp only [Option.map_eq_map, Option.map_some]
    -- resolving changes the state of a channel only
    split <;> rfl

omit [DecidableEq κ] in
theorem state_resolve (sh : Shared ι κ) (tx tx' : Nat) (new : ChannelState) :
    (sh.resolve tx new).state tx' =
      if tx' = tx then (sh.state tx').map new.resolve else sh.state tx' := by
  unfold state resolve
  rw [List.getElem?_modify]
  by_cases h : tx' = tx
  · subst h
    cases sh.channels[tx']? <;> simp
  · rw [if_neg h]
    simp [Ne.symm h]

omit [DecidableEq κ] in
@[simp] theorem ident_notify (sh : Shared ι κ) (notice : Option Notice) :
    (sh.notify notice).ident = sh.ident := by
  rcases notice with _ | ⟨tx, e | ⟨index, response⟩⟩
  · rfl
  · exact ident_resolve sh tx _
  · exact ident_resolve sh tx _

omit [DecidableEq κ] in
@[simp] theorem ident_dropSender (sh : Shared ι κ) (tx : Option Nat) :
    (sh.dropSender tx).ident = sh.ident := by
  cases tx with
  | none => rfl
  | some tx => exact ident_resolve sh tx _

@[simp] theorem ident_setConn (sh : Shared ι κ) (c : κ) (conn : Conn) :
    (sh.setConn c conn).ident = sh.ident := rfl

omit [DecidableEq κ] in
/-- Resolving a channel that is resolved, or another one, changes nothing for it. -/
theorem state_resolve_cases {sh : Shared ι κ} {tx tx' : Nat} {new st : ChannelState}
    (h : (sh.resolve tx new).state tx' = some st) :
    sh.state tx' = some st ∨ tx' = tx ∧ st = new ∧ sh.state tx' = some .waiting := by
  rw [state_resolve] at h
  split at h
  · rename_i htx
    obtain ⟨old, hold, rfl⟩ := Option.map_eq_some_iff.mp h
    cases old with
    | waiting => exact Or.inr ⟨htx, rfl, hold⟩
    | received index response => exact Or.inl hold
    | failed e => exact Or.inl hold
    | dropped => exact Or.inl hold
  · exact Or.inl h

omit [DecidableEq κ] in
theorem state_resolve_of_resolved {sh : Shared ι κ} {tx tx' : Nat} {new st : ChannelState}
    (h : sh.state tx' = some st) (hresolved : st ≠ .waiting) :
    (sh.resolve tx new).state tx' = some st := by
  rw [state_resolve, h]
  split
  · cases st with
    | waiting => exact absurd rfl hresolved
    | _ => rfl
  · rfl

omit [DecidableEq κ] in
theorem state_notify_of_resolved {sh : Shared ι κ} {notice : Option Notice} {tx : Nat}
    {st : ChannelState} (h : sh.state tx = some st) (hresolved : st ≠ .waiting) :
    (sh.notify notice).state tx = some st := by
  rcases notice with _ | ⟨tx', e | ⟨index, response⟩⟩
  · exact h
  · exact state_resolve_of_resolved h hresolved
  · exact state_resolve_of_resolved h hresolved

omit [DecidableEq κ] in
theorem state_dropSender_of_resolved {sh : Shared ι κ} {dropped : Option Nat} {tx : Nat}
    {st : ChannelState} (h : sh.state tx = some st) (hresolved : st ≠ .waiting) :
    (sh.dropSender dropped).state tx = some st := by
  cases dropped with
  | none => exact h
  | some tx' => exact state_resolve_of_resolved h hresolved

omit [DecidableEq κ] in
theorem not_waiting_of_dropSender (sh : Shared ι κ) (tx : Nat) :
    (sh.dropSender (some tx)).state tx ≠ some .waiting := by
  intro h
  unfold dropSender at h
  rw [state_resolve, if_pos rfl] at h
  obtain ⟨old, -, hold⟩ := Option.map_eq_some_iff.mp h
  cases old <;> cases hold

omit [DecidableEq κ] in
/-- A response gets into a channel by being sent there. -/
theorem received_notify {sh : Shared ι κ} {notice : Option Notice} {tx index : Nat}
    {response : List UInt8} (h : (sh.notify notice).state tx = some (.received index response)) :
    sh.state tx = some (.received index response) ∨ notice = some ⟨tx, .ok (index, response)⟩ := by
  rcases notice with _ | ⟨tx', e | ⟨index', response'⟩⟩
  · exact Or.inl h
  · rcases state_resolve_cases h with hold | ⟨-, hst, -⟩
    · exact Or.inl hold
    · cases hst
  · rcases state_resolve_cases h with hold | ⟨rfl, hst, -⟩
    · exact Or.inl hold
    · cases hst
      exact Or.inr rfl

omit [DecidableEq κ] in
theorem state_ne_none_of_ident {sh : Shared ι κ} {tx : Nat} {x : ι × κ × UInt32}
    (h : sh.ident tx = some x) : ∃ st, sh.state tx = some st := by
  obtain ⟨ch, hch, -⟩ := Option.map_eq_some_iff.mp h
  exact ⟨ch.state, by unfold state; rw [hch]; rfl⟩

omit [DecidableEq κ] in
theorem ident_of_state {sh : Shared ι κ} {tx : Nat} {st : ChannelState}
    (h : sh.state tx = some st) : ∃ x, sh.ident tx = some x := by
  obtain ⟨ch, hch, -⟩ := Option.map_eq_some_iff.mp h
  exact ⟨(ch.owner, ch.conn, ch.corrId), by unfold ident; rw [hch]; rfl⟩

omit [DecidableEq κ] in
theorem lt_of_ident {sh : Shared ι κ} {tx : Nat} {x : ι × κ × UInt32}
    (h : sh.ident tx = some x) : tx < sh.channels.length := by
  obtain ⟨ch, hch, -⟩ := Option.map_eq_some_iff.mp h
  exact (List.getElem?_eq_some_iff.mp hch).1

omit [DecidableEq κ] in
theorem lt_of_state {sh : Shared ι κ} {tx : Nat} {st : ChannelState}
    (h : sh.state tx = some st) : tx < sh.channels.length := by
  obtain ⟨ch, hch, -⟩ := Option.map_eq_some_iff.mp h
  exact (List.getElem?_eq_some_iff.mp hch).1

end Shared

namespace CallPhase

omit [DecidableEq κ] in
/-- The connection, the correlation id and the channel of the current try. -/
def current? : CallPhase κ → Option (κ × UInt32 × Nat)
  | opened c id tx | registered c id tx | aborted c id tx | queued c id tx | expired c id tx =>
      some (c, id, tx)
  | answered c id tx _ => some (c, id, tx)
  | _ => none

omit [DecidableEq κ] in
/-- The call has not handed the frame of `tx` over, and does not do so any more when it is
aborted. -/
def Unsent : CallPhase κ → Nat → Prop
  | opened _ _ tx', tx | registered _ _ tx', tx | aborted _ _ tx', tx => tx' = tx
  | _, _ => False

end CallPhase

/-! ## Moves -/

/-- A move of a call leaves the tasks and the socket of a connection alone. -/
structure CallEffect (c c' : Conn) : Prop where
  closed : c.closed = true → c'.closed = true
  writer : c'.writer = c.writer
  wire : c'.wire = c.wire
  reader : c'.reader = c.reader
  keepalive : c'.keepalive = c.keepalive
  extracted : c'.extracted = c.extracted
  buf : c'.buf = c.buf
  incoming : c'.incoming = c.incoming
  sent : c'.sent = c.sent

section Moves

variable {req : Request} {t : ι} {sh sh' : Shared ι κ} {ph ph' : CallPhase κ}

/-- What a move of a call from phase `ph` to `ph'` does to connection `c`.  A waiter that it takes
out is one of `dropped`. -/
inductive ConnMove (req : Request) (c : κ) (ph ph' : CallPhase κ) (dropped : Nat → Prop)
    (conn : Conn) : Conn → Prop
  | same : ConnMove req c ph ph' dropped conn conn
  | close : ConnMove req c ph ph' dropped conn conn.close
  | draw : ConnMove req c ph ph' dropped conn conn.fetchCorrId.1
  | register (id : UInt32) (tx sentAt : Nat) (hph : ph = .opened c id tx)
      (hph' : ph' = .registered c id tx) (hinserted : (conn.demux.insert id tx sentAt).2 = true) :
      ConnMove req c ph ph' dropped conn
        { conn with demux := (conn.demux.insert id tx sentAt).1 }
  | send (id : UInt32) (tx : Nat) (hph : ph = .registered c id tx) (hph' : ph' = .queued c id tx)
      (hlen : req.clridOffset + 4 ≤ req.frame.length) :
      ConnMove req c ph ph' dropped conn
        { conn with queue := conn.queue ++ [⟨some tx, req.frameFor id⟩] }
  | remove (id : UInt32) (hdropped : ∀ tx, (conn.demux.remove id).2 = some tx → dropped tx) :
      ConnMove req c ph ph' dropped conn { conn with demux := (conn.demux.remove id).1 }

theorem connMove_setConn {dropped : Nat → Prop} {c c' : κ} {conn : Conn}
    (h : ConnMove req c' ph ph' dropped (sh.conns c') conn) :
    ConnMove req c ph ph' dropped (sh.conns c) ((sh.setConn c' conn).conns c) := by
  rw [Shared.conns_setConn]
  split
  · rename_i hc
    subst hc
    exact h
  · exact .same

theorem connMove_of_callStep (h : CallStep req t sh ph sh' ph') (c : κ) :
    ConnMove req c ph ph' (fun tx => sh'.state tx ≠ some .waiting) (sh.conns c) (sh'.conns c) := by
  cases h with
  | close c' => exact connMove_setConn .close
  | draw c' hid => exact connMove_setConn .draw
  | register c' id tx sentAt hinserted =>
    exact connMove_setConn (.register id tx sentAt rfl rfl hinserted)
  | send c' id tx hlen hopen => exact connMove_setConn (.send id tx rfl rfl hlen)
  | cleanUpAborted c' id tx | cleanUpExpired c' id tx =>
    rw [Shared.conns_dropSender]
    refine connMove_setConn (.remove id (fun tx' htaken => ?_))
    rw [htaken]
    exact Shared.not_waiting_of_dropSender _ _
  | _ => exact .same

theorem conn_of_callStep (h : CallStep req t sh ph sh' ph') (c : κ) :
    CallEffect (sh.conns c) (sh'.conns c) := by
  have hmove := connMove_of_callStep h c
  generalize sh'.conns c = conn' at hmove ⊢
  cases hmove with
  | close => exact ⟨fun _ => rfl, rfl, rfl, rfl, rfl, rfl, rfl, rfl, rfl⟩
  | _ => exact ⟨fun h => h, rfl, rfl, rfl, rfl, rfl, rfl, rfl, rfl⟩

/-- Only `send` adds a frame. -/
theorem frames_of_callStep (h : CallStep req t sh ph sh' ph') (c : κ) :
    (sh'.conns c).frames = (sh.conns c).frames ∨
      ∃ id tx, ph = .registered c id tx ∧ ph' = .queued c id tx ∧
        req.clridOffset + 4 ≤ req.frame.length ∧
        (sh'.conns c).frames = (sh.conns c).frames ++ [⟨some tx, req.frameFor id⟩] := by
  have hmove := connMove_of_callStep h c
  -- the connection after the move is a variable, so that the cases of `ConnMove` fix it
  generalize sh'.conns c = conn' at hmove ⊢
  cases hmove with
  | send id tx hph hph' hlen =>
    refine Or.inr ⟨id, tx, hph, hph', hlen, ?_⟩
    simp [Conn.frames]
  | _ => exact Or.inl rfl

/-- Only `register` adds a waiter. -/
theorem has_of_callStep (h : CallStep req t sh ph sh' ph') {c : κ} {id : UInt32}
    {e : DemuxEntry Nat} (he : (sh'.conns c).demux.Has id e) :
    (sh.conns c).demux.Has id e ∨ ph = .opened c id e.tx ∧ ph' = .registered c id e.tx := by
  have hmove := connMove_of_callStep h c
  generalize sh'.conns c = conn' at hmove he
  cases hmove with
  | register id' tx sentAt hph hph' hinserted =>
    rcases Demux.has_insert he with hold | ⟨rfl, rfl⟩
    · exact Or.inl hold
    · exact Or.inr ⟨hph, hph'⟩
  | remove id' hdropped => exact Or.inl (Demux.has_remove he)
  | _ => exact Or.inl he

/-- Only `openChannel` adds a channel. -/
theorem ident_of_callStep (h : CallStep req t sh ph sh' ph') :
    sh'.ident = sh.ident ∨
      ∃ c id, ph = .drawn c id ∧ ph' = .opened c id sh.channels.length ∧
        sh'.ident = Function.update sh.ident sh.channels.length (some (t, c, id)) := by
  cases h with
  | openChannel c id =>
    refine Or.inr ⟨c, id, rfl, rfl, ?_⟩
    -- the new channel is the last one of the list, the others keep their place
    funext tx
    unfold Shared.ident
    rw [Function.update_apply, List.getElem?_append]
    split
    · rename_i hlt
      rw [if_neg (Nat.ne_of_lt hlt)]
    · rename_i hge
      split
      · rename_i heq
        rw [heq, Nat.sub_self]
        rfl
      · rename_i hne
        rw [List.getElem?_eq_none (by simp only [List.length_singleton]; omega),
          List.getElem?_eq_none (by omega)]
  | cleanUpAborted c id tx | cleanUpExpired c id tx =>
    rw [Shared.ident_dropSender]
    exact Or.inl rfl
  | _ => exact Or.inl rfl

/-- A move resolves a channel only by dropping a waiter that it removes. -/
theorem state_of_callStep (h : CallStep req t sh ph sh' ph') {tx : Nat} {st : ChannelState}
    (hst : sh'.state tx = some st) :
    sh.state tx = some st ∨ tx = sh.channels.length ∧ st = .waiting ∨
      ∃ c id tx', (ph = .aborted c id tx' ∨ ph = .expired c id tx') ∧ st = .dropped ∧
        ((sh.conns c).demux.remove id).2 = some tx := by
  cases h with
  | openChannel c id =>
    unfold Shared.state at hst ⊢
    rw [List.getElem?_append] at hst
    split at hst
    · exact Or.inl hst
    · obtain ⟨ch, hch, rfl⟩ := Option.map_eq_some_iff.mp hst
      obtain ⟨hlt, rfl⟩ := List.getElem?_eq_some_iff.mp hch
      simp only [List.length_singleton] at hlt
      refine Or.inr (Or.inl ⟨by omega, ?_⟩)
      simp
  | cleanUpAborted c id tx' =>
    -- only a waiter that is found is dropped
    cases hremove : ((sh.conns c).demux.remove id).2 with
    | none =>
      rw [hremove] at hst
      exact Or.inl hst
    | some tx₀ =>
      rw [hremove] at hst
      rcases Shared.state_resolve_cases hst with hold | ⟨rfl, rfl, -⟩
      · exact Or.inl hold
      · exact Or.inr (Or.inr ⟨c, id, tx', Or.inl rfl, rfl, hremove⟩)
  | cleanUpExpired c id tx' =>
    cases hremove : ((sh.conns c).demux.remove id).2 with
    | none =>
      rw [hremove] at hst
      exact Or.inl hst
    | some tx₀ =>
      rw [hremove] at hst
      rcases Shared.state_resolve_cases hst with hold | ⟨rfl, rfl, -⟩
      · exact Or.inl hold
      · exact Or.inr (Or.inr ⟨c, id, tx', Or.inr rfl, rfl, hremove⟩)
  | _ => exact Or.inl hst

/-- A try begins with `openChannel` and keeps its connection, id and channel. -/
theorem current_of_callStep (h : CallStep req t sh ph sh' ph') {x : κ × UInt32 × Nat}
    (hx : ph'.current? = some x) :
    ph.current? = some x ∨
      ∃ c id, ph = .drawn c id ∧ x = (c, id, sh.channels.length) ∧
        sh'.ident sh.channels.length = some (t, c, id) := by
  cases h with
  | openChannel c id =>
    cases hx
    refine Or.inr ⟨c, id, rfl, rfl, ?_⟩
    unfold Shared.ident
    simp
  | refuse c id tx sentAt hinserted =>
    unfold CallPhase.afterSend at hx
    split at hx <;> cases hx
  | cleanUpExpired c id tx =>
    unfold CallPhase.afterSend at hx
    split at hx <;> cases hx
  | timedOut c id tx ch hch hstate =>
    unfold CallPhase.afterSend at hx
    split at hx <;> cases hx
  | giveUp | close | draw | cleanUpAborted | lose => cases hx
  | _ => exact Or.inl hx

omit [DecidableEq κ] in
theorem not_unsent_afterSend (req : Request) (tx tx' : Nat) :
    ¬ (CallPhase.afterSend req tx : CallPhase κ).Unsent tx' := by
  unfold CallPhase.afterSend
  split <;> exact fun h => h

/-- Only a new channel becomes unsent. -/
theorem unsent_of_callStep (h : CallStep req t sh ph sh' ph') {tx : Nat} (htx : ph'.Unsent tx) :
    ph.Unsent tx ∨ tx = sh.channels.length := by
  cases h with
  | openChannel c id => exact Or.inr htx.symm
  | refuse c id tx₀ sentAt hinserted => exact absurd htx (not_unsent_afterSend req tx₀ tx)
  | cleanUpExpired c id tx₀ => exact absurd htx (not_unsent_afterSend req tx₀ tx)
  | timedOut c id tx₀ ch hch hstate => exact absurd htx (not_unsent_afterSend req tx₀ tx)
  | giveUp | close | draw | send | cleanUpAborted | elapse | receive | lose => exact htx.elim
  | _ => exact Or.inl htx

theorem received_of_callStep (h : CallStep req t sh ph sh' ph') {tx index : Nat}
    {response : List UInt8} (hst : sh'.state tx = some (.received index response)) :
    sh.state tx = some (.received index response) := by
  rcases state_of_callStep h hst with hold | ⟨-, hw⟩ | ⟨-, -, -, -, hdropped, -⟩
  · exact hold
  · cases hw
  · cases hdropped

theorem resolved_of_callStep (h : CallStep req t sh ph sh' ph') {tx : Nat} {st : ChannelState}
    (hst : sh.state tx = some st) (hresolved : st ≠ .waiting) : sh'.state tx = some st := by
  cases h with
  | openChannel c id =>
    unfold Shared.state at hst ⊢
    rw [List.getElem?_append_left (Shared.lt_of_state hst)]
    exact hst
  | cleanUpAborted c id tx' | cleanUpExpired c id tx' =>
    exact Shared.state_dropSender_of_resolved hst hresolved
  | _ => exact hst

/-- The id counter moves when the call draws an id. -/
theorem counter_of_callStep (h : CallStep req t sh ph sh' ph') :
    ((∀ c, (sh'.conns c).counter = (sh.conns c).counter) ∧
      ∀ c id, ph' = .drawn c id → ph = .drawn c id) ∨
    ∃ c, (sh.conns c).corrId ≠ 0 ∧ ph' = .drawn c (sh.conns c).corrId ∧
      sh' = sh.setConn c (sh.conns c).fetchCorrId.1 := by
  -- every other move leaves the counters of all connections alone
  have hsame : ∀ c c' conn, conn.counter = (sh.conns c).counter →
      ((sh.setConn c conn).conns c').counter = (sh.conns c').counter := by
    intro c c' conn hcounter
    rw [Shared.conns_setConn]
    split
    · rename_i hc
      rw [hc, hcounter]
    · rfl
  have hafter : ∀ tx c id, (CallPhase.afterSend req tx : CallPhase κ) ≠ .drawn c id := by
    intro tx c id
    unfold CallPhase.afterSend
    split <;> exact nofun
  cases h with
  | draw c hid => exact Or.inr ⟨c, hid, rfl, rfl⟩
  | close c | register c id tx sentAt hinserted | send c id tx hlen hopen =>
    exact Or.inl ⟨fun c' => hsame c c' _ rfl, nofun⟩
  | cleanUpAborted c id tx =>
    refine Or.inl ⟨fun c' => ?_, nofun⟩
    rw [Shared.conns_dropSender]
    exact hsame c c' _ rfl
  | cleanUpExpired c id tx =>
    refine Or.inl ⟨fun c' => ?_, fun c' id' h => absurd h (hafter tx c' id')⟩
    rw [Shared.conns_dropSender]
    exact hsame c c' _ rfl
  | refuse c id tx | timedOut c id tx =>
    exact Or.inl ⟨fun _ => rfl, fun c' id' h => absurd h (hafter tx c' id')⟩
  | skip => exact Or.inl ⟨fun _ => rfl, fun _ _ h => h⟩
  | _ => exact Or.inl ⟨fun _ => rfl, nofun⟩

theorem ident_mono_of_callStep (h : CallStep req t sh ph sh' ph') {tx : Nat} {x : ι × κ × UInt32}
    (hx : sh.ident tx = some x) : sh'.ident tx = some x := by
  rcases ident_of_callStep h with heq | ⟨c, id, -, -, heq⟩
  · rw [heq]
    exact hx
  · rw [heq, Function.update_of_ne (Nat.ne_of_lt (Shared.lt_of_ident hx))]
    exact hx

end Moves

end RzRouter
