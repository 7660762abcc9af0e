import Mathlib.Algebra.GroupWithZero.Nat
import RzRouter.Library.FiniteMap

/-!
# The demultiplexer of a connection (`demux.rs`)

Pending requests by correlation id, in shards that are locked one at a time.  Every operation that
the source performs under one shard's lock is one function here; `cleanup`, `fail_all` and
`pending_count` go through the shards.  `τ` is the sender half of a waiter's channel.
-/

namespace RzRouter

/-- `DemuxError`. -/
inductive DemuxError
  | timeout
  | connectionClosed
  deriving DecidableEq, Repr

/-- `DemuxEntry`. -/
structure DemuxEntry (τ : Type) where
  tx : τ
  sentAt : Nat
  deriving DecidableEq, Repr

/-- `Demux` with `n` shards. -/
structure Demux (n : Nat) (τ : Type) where
  shards : Fin n → FiniteMap UInt32 (DemuxEntry τ)

namespace Demux

variable {n : Nat} {τ : Type}

def new : Demux n τ := ⟨fun _ => ∅⟩

/-- Applies an update to one shard, under its lock. -/
def withShard (d : Demux n τ) (i : Fin n) (m : FiniteMap UInt32 (DemuxEntry τ)) : Demux n τ :=
  ⟨Function.update d.shards i m⟩

variable [NeZero n]

/-- The shard of an id. -/
def shard (id : UInt32) : Fin n := Fin.ofNat n id.toNat

/-- The entry registered for an id. -/
def entry? (d : Demux n τ) (id : UInt32) : Option (DemuxEntry τ) := (d.shards (shard id)).lookup id

/-- `insert`: registers a waiter, unless the id is taken. -/
def insert (d : Demux n τ) (corrId : UInt32) (tx : τ) (sentAt : Nat) : Demux n τ × Bool :=
  if corrId ∈ d.shards (shard corrId) then (d, false)
  else (d.withShard (shard corrId) ((d.shards (shard corrId)).insert corrId ⟨tx, sentAt⟩), true)

/-- `remove`: takes the waiter of an id out. -/
def remove (d : Demux n τ) (corrId : UInt32) : Demux n τ × Option τ :=
  (d.withShard (shard corrId) ((d.shards (shard corrId)).erase corrId),
    (d.entry? corrId).map DemuxEntry.tx)

omit [NeZero n] in
/-- `map.drain()` on one shard, for the order in which the hash map yields its keys. -/
def drainShard (d : Demux n τ) (i : Fin n) (keys : List UInt32) :
    Demux n τ × List (UInt32 × DemuxEntry τ) :=
  (d.withShard i ∅, keys.filterMap (fun id => ((d.shards i).lookup id).map (fun e => (id, e))))

/-! ## All shards -/

omit [NeZero n] in
/-- The expired ids of a shard, for the order in which its map yields its keys. -/
def expiredKeys (d : Demux n τ) (threshold : Int) (i : Fin n) (keys : List UInt32) :
    List UInt32 :=
  keys.filter (fun id =>
    ((d.shards i).lookup id).any (fun e => decide ((e.sentAt : Int) < threshold)))

omit [NeZero n] in
/-- The first loop of `cleanup`. -/
def collectExpired (d : Demux n τ) (threshold : Int) (order : Fin n → List UInt32) :
    List (UInt32 × Fin n) :=
  (List.finRange n).flatMap (fun i => (d.expiredKeys threshold i (order i)).map (fun id => (id, i)))

omit [NeZero n] in
/-- The second loop of `cleanup`: what is still there is removed and notified. -/
def removeExpired : Demux n τ → List (UInt32 × Fin n) → Demux n τ × List (τ × DemuxError)
  | d, [] => (d, [])
  | d, (id, i) :: timedOut =>
    match (d.shards i).lookup id with
    | some entry =>
      let (d, notices) := removeExpired (d.withShard i ((d.shards i).erase id)) timedOut
      (d, (entry.tx, .timeout) :: notices)
    | none => removeExpired d timedOut

omit [NeZero n] in
/-- `cleanup` at time `now`, for the order in which each shard's map yields its keys. -/
def cleanup (d : Demux n τ) (now maxAge : Nat) (order : Fin n → List UInt32) :
    Demux n τ × List (τ × DemuxError) :=
  d.removeExpired (d.collectExpired ((now : Int) - maxAge) order)

omit [NeZero n] in
/-- The first loop of `fail_all`. -/
def drainShards (order : Fin n → List UInt32) :
    Demux n τ → List (Fin n) → Demux n τ × List (UInt32 × DemuxEntry τ)
  | d, [] => (d, [])
  | d, i :: is =>
    let (d, drained) := d.drainShard i (order i)
    let (d, entries) := drainShards order d is
    (d, drained ++ entries)

omit [NeZero n] in
/-- `fail_all`, for the order in which each shard's map yields its keys. -/
def failAll (d : Demux n τ) (order : Fin n → List UInt32) : Demux n τ × List (τ × DemuxError) :=
  let (d, entries) := drainShards order d (List.finRange n)
  (d, entries.map (fun entry => (entry.2.tx, .connectionClosed)))

omit [NeZero n] in
/-- `pending_count`. -/
def pendingCount (d : Demux n τ) : Nat :=
  (List.finRange n).foldl (fun total i => total + (d.shards i).keys.card) 0

/-! ## What is registered -/

/-- The entry `e` is registered under `id`. -/
def Has (d : Demux n τ) (id : UInt32) (e : DemuxEntry τ) : Prop :=
  ∃ i, (d.shards i).lookup id = some e

omit [NeZero n] in
theorem not_has_new (id : UInt32) (e : DemuxEntry τ) : ¬ (new : Demux n τ).Has id e := by
  rintro ⟨i, hi⟩
  cases hi

omit [NeZero n] in
theorem has_withShard {d : Demux n τ} {i : Fin n} {m : FiniteMap UInt32 (DemuxEntry τ)}
    {id : UInt32} {e : DemuxEntry τ} (h : (d.withShard i m).Has id e) :
    d.Has id e ∨ m.lookup id = some e := by
  obtain ⟨j, hj⟩ := h
  change (Function.update d.shards i m j).lookup id = some e at hj
  by_cases hji : j = i
  · subst hji
    rw [Function.update_self] at hj
    exact Or.inr hj
  · rw [Function.update_of_ne hji] at hj
    exact Or.inl ⟨j, hj⟩

/-- An insertion adds at most the given entry. -/
theorem has_insert {d : Demux n τ} {corrId : UInt32} {tx : τ} {sentAt : Nat} {id : UInt32}
    {e : DemuxEntry τ} (h : (d.insert corrId tx sentAt).1.Has id e) :
    d.Has id e ∨ id = corrId ∧ e = ⟨tx, sentAt⟩ := by
  unfold insert at h
  split at h
  · exact Or.inl h
  · rcases has_withShard h with hold | hnew
    · exact Or.inl hold
    · rw [FiniteMap.lookup_insert] at hnew
      split at hnew
      · rename_i hid
        cases hnew
        exact Or.inr ⟨hid, rfl⟩
      · exact Or.inl ⟨_, hnew⟩

theorem has_remove {d : Demux n τ} {corrId id : UInt32} {e : DemuxEntry τ}
    (h : (d.remove corrId).1.Has id e) : d.Has id e := by
  rcases has_withShard h with hold | hnew
  · exact hold
  · rw [FiniteMap.lookup_erase] at hnew
    split at hnew
    · cases hnew
    · exact ⟨_, hnew⟩

theorem has_of_remove {d : Demux n τ} {corrId : UInt32} {tx : τ}
    (h : (d.remove corrId).2 = some tx) : ∃ e, d.Has corrId e ∧ e.tx = tx := by
  obtain ⟨e, he, rfl⟩ := Option.map_eq_some_iff.mp h
  exact ⟨e, ⟨_, he⟩, rfl⟩

omit [NeZero n] in
theorem has_drainShard {d : Demux n τ} {i : Fin n} {keys : List UInt32} {id : UInt32}
    {e : DemuxEntry τ} (h : (d.drainShard i keys).1.Has id e) : d.Has id e := by
  rcases has_withShard h with hold | hnew
  · exact hold
  · cases hnew

omit [NeZero n] in
theorem lookup_of_mem_drainShard {d : Demux n τ} {i : Fin n} {keys : List UInt32}
    {entry : UInt32 × DemuxEntry τ} (h : entry ∈ (d.drainShard i keys).2) :
    (d.shards i).lookup entry.1 = some entry.2 := by
  obtain ⟨id, -, hid⟩ := List.mem_filterMap.mp h
  obtain ⟨e, he, rfl⟩ := Option.map_eq_some_iff.mp hid
  exact he

/-! ## What stays registered -/

omit [NeZero n] in
theorem shards_withShard (d : Demux n τ) (i j : Fin n) (m : FiniteMap UInt32 (DemuxEntry τ)) :
    (d.withShard i m).shards j = if j = i then m else d.shards j := by
  unfold withShard
  simp only [Function.update_apply]

theorem lookup_insert {d : Demux n τ} {corrId : UInt32} {tx : τ} {sentAt : Nat} {i : Fin n}
    {id : UInt32} {e : DemuxEntry τ}
    (h : ((d.insert corrId tx sentAt).1.shards i).lookup id = some e) :
    (d.shards i).lookup id = some e ∨ e = ⟨tx, sentAt⟩ := by
  unfold insert at h
  split at h
  · exact Or.inl h
  · rw [shards_withShard] at h
    split at h
    · rename_i hi
      rw [FiniteMap.lookup_insert] at h
      split at h
      · cases h
        exact Or.inr rfl
      · rw [hi]
        exact Or.inl h
    · exact Or.inl h

theorem lookup_remove {d : Demux n τ} {corrId : UInt32} {i : Fin n} {id : UInt32}
    {e : DemuxEntry τ} (h : ((d.remove corrId).1.shards i).lookup id = some e) :
    (d.shards i).lookup id = some e := by
  unfold remove at h
  rw [shards_withShard] at h
  split at h
  · rename_i hi
    rw [FiniteMap.lookup_erase] at h
    split at h
    · cases h
    · rw [hi]
      exact h
  · exact h

omit [NeZero n] in
theorem lookup_drainShard {d : Demux n τ} {i j : Fin n} {keys : List UInt32} {id : UInt32}
    {e : DemuxEntry τ} (h : ((d.drainShard i keys).1.shards j).lookup id = some e) :
    j ≠ i ∧ (d.shards j).lookup id = some e := by
  unfold drainShard at h
  rw [shards_withShard] at h
  split at h
  · cases h
  · rename_i hj
    exact ⟨hj, h⟩

/-- A successful insertion replaces no waiter. -/
theorem has_insert_of_has {d : Demux n τ} {corrId : UInt32} {tx : τ} {sentAt : Nat} {id : UInt32}
    {e : DemuxEntry τ} (h : d.Has id e) : (d.insert corrId tx sentAt).1.Has id e := by
  obtain ⟨i, hi⟩ := h
  refine ⟨i, ?_⟩
  unfold insert
  split
  · exact hi
  · rename_i hfree
    rw [shards_withShard]
    split
    · rename_i hshard
      subst hshard
      rw [FiniteMap.lookup_insert, if_neg]
      · exact hi
      · rintro rfl
        exact hfree (Finmap.mem_of_lookup_eq_some hi)
    · exact hi

theorem has_of_insert {d : Demux n τ} {corrId : UInt32} {tx : τ} {sentAt : Nat}
    (h : (d.insert corrId tx sentAt).2 = true) :
    (d.insert corrId tx sentAt).1.Has corrId ⟨tx, sentAt⟩ := by
  refine ⟨shard corrId, ?_⟩
  unfold insert at h ⊢
  split at h
  · cases h
  · rename_i hfree
    rw [if_neg hfree, shards_withShard, if_pos rfl, FiniteMap.lookup_insert, if_pos rfl]

theorem insert_accepted_iff (d : Demux n τ) (corrId : UInt32) (tx : τ) (sentAt : Nat) :
    (d.insert corrId tx sentAt).2 = true ↔ d.entry? corrId = none := by
  unfold insert entry?
  rw [Finmap.lookup_eq_none]
  split
  · rename_i hmem
    exact ⟨fun h => Bool.noConfusion h, fun h => absurd hmem h⟩
  · rename_i hfree
    exact ⟨fun _ => hfree, fun _ => rfl⟩

/-- A waiter stays registered until it is the one that `remove` returns. -/
theorem has_remove_of_has {d : Demux n τ} (corrId : UInt32) {id : UInt32} {e : DemuxEntry τ}
    (h : d.Has id e) : (d.remove corrId).1.Has id e ∨ (d.remove corrId).2 = some e.tx := by
  obtain ⟨i, hi⟩ := h
  by_cases htaken : i = shard corrId ∧ id = corrId
  · obtain ⟨rfl, rfl⟩ := htaken
    apply Or.inr
    unfold remove entry?
    rw [hi]
    rfl
  · refine Or.inl ⟨i, ?_⟩
    unfold remove
    rw [shards_withShard]
    split
    · rename_i hshard
      rw [FiniteMap.lookup_erase, if_neg (fun hid => htaken ⟨hshard, hid⟩), ← hshard]
      exact hi
    · exact hi

omit [NeZero n] in
/-- Draining a shard takes all its waiters. -/
theorem has_drainShard_of_has {d : Demux n τ} {i : Fin n} {keys : List UInt32} {id : UInt32}
    {e : DemuxEntry τ} (hkeys : Enumerates keys (d.shards i).keys) (h : d.Has id e) :
    (d.drainShard i keys).1.Has id e ∨ (id, e) ∈ (d.drainShard i keys).2 := by
  obtain ⟨j, hj⟩ := h
  by_cases hji : j = i
  · subst hji
    refine Or.inr (List.mem_filterMap.mpr ⟨id, ?_, ?_⟩)
    · rw [hkeys.mem_iff, Finmap.mem_keys]
      exact Finmap.mem_of_lookup_eq_some hj
    · rw [hj]
      rfl
  · refine Or.inl ⟨j, ?_⟩
    unfold drainShard
    rw [shards_withShard, if_neg hji]
    exact hj

end Demux

end RzRouter
