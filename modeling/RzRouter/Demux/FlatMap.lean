import Mathlib.Algebra.Order.Group.Multiset
import Mathlib.Data.List.FinRange
import RzRouter.Demux

/-!
# The demux as one map

What a demux is for: one map from correlation ids to waiters.  The sharded demux behaves like it,
whatever the number of shards and the order in which their maps are iterated, and neither loses a
waiter nor resolves one twice.
-/

namespace RzRouter

/-- A call of a demux operation. -/
inductive DemuxOp (τ : Type)
  | insert (corrId : UInt32) (tx : τ) (sentAt : Nat)
  | remove (corrId : UInt32)
  | cleanup (now maxAge : Nat)
  | failAll
  | pendingCount

/-- What a call gives: an answer, or the waiters that it has resolved, in some order. -/
inductive DemuxResult (τ : Type)
  | inserted (success : Bool)
  | removed (tx : Option τ)
  | resolved (notices : Multiset (τ × DemuxError))
  | count (pending : Nat)

/-! ## The map -/

/-- Waiters by correlation id. -/
abbrev WaiterMap (τ : Type) : Type := FiniteMap UInt32 (DemuxEntry τ)

namespace WaiterMap

variable {τ : Type}

/-- The entry was sent before the threshold. -/
def expired (threshold : Int) (e : DemuxEntry τ) : Bool := decide ((e.sentAt : Int) < threshold)

/-- The notices to the waiters that satisfy a test. -/
def notices (m : WaiterMap τ) (test : DemuxEntry τ → Bool) (error : DemuxError) :
    Multiset (τ × DemuxError) :=
  (m.entries.filter (fun e => test e.2)).map (fun e => (e.2.tx, error))

/-- One call on the map. -/
def perform (m : WaiterMap τ) : DemuxOp τ → WaiterMap τ × DemuxResult τ
  | .insert corrId tx sentAt =>
    if corrId ∈ m then (m, .inserted false) else (m.insert corrId ⟨tx, sentAt⟩, .inserted true)
  | .remove corrId => (m.erase corrId, .removed ((m.lookup corrId).map DemuxEntry.tx))
  | .cleanup now maxAge =>
    (m.retain (fun _ e => !expired ((now : Int) - maxAge) e),
      .resolved (m.notices (expired ((now : Int) - maxAge)) .timeout))
  | .failAll => (∅, .resolved (m.notices (fun _ => true) .connectionClosed))
  | .pendingCount => (m, .count m.keys.card)

/-- A sequence of calls, with their results. -/
def run (m : WaiterMap τ) : List (DemuxOp τ) → WaiterMap τ × List (DemuxResult τ)
  | [] => (m, [])
  | op :: ops =>
    let (m, result) := m.perform op
    let (m, results) := run m ops
    (m, result :: results)

def waiters (m : WaiterMap τ) : Multiset τ := m.entries.map (fun e => e.2.tx)

end WaiterMap

/-- The waiter that a call has registered. -/
def DemuxOp.accepted {τ : Type} : DemuxOp τ → DemuxResult τ → Multiset τ
  | .insert _ tx _, .inserted true => {tx}
  | _, _ => 0

/-- The waiters that a call has handed out or resolved. -/
def DemuxResult.released {τ : Type} : DemuxResult τ → Multiset τ
  | .removed (some tx) => {tx}
  | .resolved notices => notices.map Prod.fst
  | _ => 0

namespace Demux

variable {n : Nat} {τ : Type}

/-! ## Calls on the shards -/

/-- `order` gives an order of iteration for each shard's map. -/
def Iterates (d : Demux n τ) (order : Fin n → List UInt32) : Prop :=
  ∀ i, Enumerates (order i) (d.shards i).keys

instance (d : Demux n τ) (order : Fin n → List UInt32) : Decidable (d.Iterates order) :=
  inferInstanceAs (Decidable (∀ i, Enumerates (order i) (d.shards i).keys))

/-- All waiters of all shards. -/
def waiters (d : Demux n τ) : Multiset τ :=
  ((List.finRange n).map (fun i => (d.shards i).entries.map (fun e => e.2.tx))).sum

variable [NeZero n]

/-- One call on the demux; `order` is the order in which the maps are iterated. -/
def perform (d : Demux n τ) (order : Fin n → List UInt32) :
    DemuxOp τ → Option (Demux n τ × DemuxResult τ)
  | .insert corrId tx sentAt =>
    let (d, success) := d.insert corrId tx sentAt
    some (d, .inserted success)
  | .remove corrId =>
    let (d, tx) := d.remove corrId
    some (d, .removed tx)
  | .cleanup now maxAge =>
    if d.Iterates order then
      let (d, notices) := d.cleanup now maxAge order
      some (d, .resolved notices)
    else none
  | .failAll =>
    if d.Iterates order then
      let (d, notices) := d.failAll order
      some (d, .resolved notices)
    else none
  | .pendingCount => some (d, .count d.pendingCount)

/-- A sequence of calls, with their results. -/
def run (d : Demux n τ) : List (DemuxOp τ × (Fin n → List UInt32)) →
    Option (Demux n τ × List (DemuxResult τ))
  | [] => some (d, [])
  | (op, order) :: ops =>
    match d.perform order op with
    | some (d, result) =>
      match run d ops with
      | some (d, results) => some (d, result :: results)
      | none => none
    | none => none

/-! ## The representation -/

/-- The shards hold the entries of the map, each in the shard of its id. -/
def Represents (d : Demux n τ) (m : WaiterMap τ) : Prop :=
  ∀ i id, (d.shards i).lookup id = if shard id = i then m.lookup id else none

theorem represents_new : Represents (new : Demux n τ) (∅ : WaiterMap τ) := by
  intro i id
  split <;> rfl

section Represents

variable {d : Demux n τ} {m : WaiterMap τ}

theorem Represents.lookup_shard (h : Represents d m) (id : UInt32) :
    (d.shards (shard id)).lookup id = m.lookup id := by
  rw [h, if_pos rfl]

theorem Represents.mem_shard (h : Represents d m) {i : Fin n} {id : UInt32} :
    id ∈ d.shards i ↔ shard id = i ∧ id ∈ m := by
  rw [← Finmap.lookup_isSome, ← Finmap.lookup_isSome, h]
  by_cases hi : shard id = i
  · rw [if_pos hi]
    exact ⟨fun hm => ⟨hi, hm⟩, fun hm => hm.2⟩
  · rw [if_neg hi]
    exact ⟨fun hm => absurd hm Bool.false_ne_true, fun hm => absurd hm.1 hi⟩

theorem represents_insert (h : Represents d m) (corrId : UInt32) (tx : τ) (sentAt : Nat) :
    Represents (d.insert corrId tx sentAt).1 (m.perform (.insert corrId tx sentAt)).1 ∧
      (m.perform (.insert corrId tx sentAt)).2 = .inserted (d.insert corrId tx sentAt).2 := by
  have hmem : corrId ∈ d.shards (shard corrId) ↔ corrId ∈ m := by
    rw [h.mem_shard]
    exact ⟨fun hm => hm.2, fun hm => ⟨rfl, hm⟩⟩
  unfold insert
  simp only [WaiterMap.perform]
  by_cases htaken : corrId ∈ m
  · rw [if_pos (hmem.mpr htaken), if_pos htaken]
    exact ⟨h, rfl⟩
  · rw [if_neg (fun hm => htaken (hmem.mp hm)), if_neg htaken]
    refine ⟨fun i id => ?_, rfl⟩
    show ((d.withShard _ _).shards i).lookup id = _
    rw [shards_withShard]
    by_cases hi : i = shard corrId
    · subst hi
      rw [if_pos rfl, FiniteMap.lookup_insert, FiniteMap.lookup_insert, h]
      by_cases hid : id = corrId
      · subst hid
        rw [if_pos rfl, if_pos rfl, if_pos rfl]
      · rw [if_neg hid, if_neg hid]
    · rw [if_neg hi, FiniteMap.lookup_insert, h]
      by_cases hid : id = corrId
      · subst hid
        rw [if_neg (Ne.symm hi), if_neg (Ne.symm hi)]
      · rw [if_neg hid]

theorem represents_erase (h : Represents d m) {i : Fin n} {id : UInt32} (hi : shard id = i) :
    Represents (d.withShard i ((d.shards i).erase id)) (m.erase id) := by
  intro j id'
  rw [shards_withShard]
  by_cases hj : j = i
  · subst hj
    rw [if_pos rfl, FiniteMap.lookup_erase, FiniteMap.lookup_erase, h]
    by_cases hid : id' = id
    · rw [if_pos hid, if_pos hid, ite_self]
    · rw [if_neg hid, if_neg hid]
  · rw [if_neg hj, FiniteMap.lookup_erase, h]
    by_cases hid : id' = id
    · subst hid
      rw [if_pos rfl, ite_self, if_neg (fun heq => hj (heq.symm.trans hi))]
    · rw [if_neg hid]

theorem represents_remove (h : Represents d m) (corrId : UInt32) :
    Represents (d.remove corrId).1 (m.erase corrId) ∧
      (d.remove corrId).2 = (m.lookup corrId).map DemuxEntry.tx := by
  refine ⟨represents_erase h rfl, ?_⟩
  show (d.entry? corrId).map DemuxEntry.tx = _
  unfold entry?
  rw [h.lookup_shard]

/-! ## Both loops of a clean-up -/

/-- Removing collected ids one by one removes them from the map, and notifies their waiters. -/
theorem represents_removeExpired (h : Represents d m) {timedOut : List (UInt32 × Fin n)}
    (hshard : ∀ p ∈ timedOut, shard p.1 = p.2) (hnodup : (timedOut.map Prod.fst).Nodup) :
    Represents (d.removeExpired timedOut).1 (m.eraseAll (timedOut.map Prod.fst)) ∧
      (d.removeExpired timedOut).2 = (timedOut.map Prod.fst).filterMap (fun id =>
        (m.lookup id).map (fun e => (e.tx, DemuxError.timeout))) := by
  induction timedOut generalizing d m with
  | nil =>
    refine ⟨?_, rfl⟩
    rw [List.map_nil, FiniteMap.eraseAll_nil]
    exact h
  | cons p timedOut ih =>
    obtain ⟨id, i⟩ := p
    have hi : shard id = i := hshard (id, i) List.mem_cons_self
    rw [List.map_cons, List.nodup_cons] at hnodup
    have hlookup : (d.shards i).lookup id = m.lookup id := by
      rw [h, if_pos hi]
    have hrest := fun {d' : Demux n τ} {m' : WaiterMap τ} (h' : Represents d' m') =>
      ih h' (fun p hp => hshard p (List.mem_cons_of_mem _ hp)) hnodup.2
    rw [List.map_cons, FiniteMap.eraseAll_cons, List.filterMap_cons]
    unfold removeExpired
    rw [hlookup]
    cases hentry : m.lookup id with
    | none =>
      -- nothing is registered under the id any more
      rw [FiniteMap.erase_of_lookup m id hentry]
      exact hrest h
    | some e =>
      obtain ⟨hrep, hnotices⟩ := hrest (represents_erase h hi)
      refine ⟨hrep, ?_⟩
      show (e.tx, DemuxError.timeout) ::
        ((d.withShard i ((d.shards i).erase id)).removeExpired timedOut).2 = _
      rw [hnotices]
      show _ :: _ = _ :: _
      congr 1
      apply List.filterMap_congr
      intro id' hid'
      rw [FiniteMap.lookup_erase, if_neg]
      rintro rfl
      exact hnodup.1 hid'

/-! ## Keys in the order of iteration -/

theorem enumerates_keys (h : Represents d m) {order : Fin n → List UInt32}
    (horder : d.Iterates order) : Enumerates ((List.finRange n).flatMap order) m.keys := by
  have hmem : ∀ {i id}, id ∈ order i ↔ shard id = i ∧ id ∈ m := by
    intro i id
    rw [(horder i).mem_iff, Finmap.mem_keys, h.mem_shard]
  apply (Multiset.Nodup.ext ?_ m.keys.nodup).mpr
  · intro id
    rw [Multiset.mem_coe, List.mem_flatMap, Finset.mem_val, Finmap.mem_keys]
    constructor
    · rintro ⟨i, -, hid⟩
      exact (hmem.mp hid).2
    · exact fun hid => ⟨shard id, List.mem_finRange _, hmem.mpr ⟨rfl, hid⟩⟩
  · apply List.nodup_flatMap.mpr
    refine ⟨fun i _ => (horder i).nodup, ?_⟩
    apply (List.nodup_finRange n).imp
    intro i j hij id hi hj
    exact hij ((hmem.mp hi).1.symm.trans (hmem.mp hj).1)

omit [NeZero n] in
theorem exists_iterates (d : Demux n τ) : ∃ order, d.Iterates order :=
  ⟨fun i => (d.shards i).keys.toList, fun _ => Finset.coe_toList _⟩

/-! ## The operations on all shards -/

/-- Of each shard's ids those are collected whose entries are expired. -/
theorem map_collectExpired (h : Represents d m) {order : Fin n → List UInt32}
    (horder : d.Iterates order) (threshold : Int) :
    (d.collectExpired threshold order).map Prod.fst =
      ((List.finRange n).flatMap order).filter
        (fun id => (m.lookup id).any (WaiterMap.expired threshold)) := by
  unfold collectExpired
  rw [List.map_flatMap, List.filter_flatMap]
  congr 1
  funext i
  rw [List.map_map]
  show (d.expiredKeys threshold i (order i)).map id = _
  rw [List.map_id]
  unfold expiredKeys
  apply List.filter_congr
  intro id hid
  have hshard : shard id = i := by
    rw [(horder i).mem_iff, Finmap.mem_keys, h.mem_shard] at hid
    exact hid.1
  rw [h, if_pos hshard]
  rfl

theorem shard_of_mem_collectExpired (h : Represents d m) {order : Fin n → List UInt32}
    (horder : d.Iterates order) (threshold : Int) :
    ∀ p ∈ d.collectExpired threshold order, shard p.1 = p.2 := by
  intro p hp
  obtain ⟨i, -, hmem⟩ := List.mem_flatMap.mp hp
  obtain ⟨id, hid, rfl⟩ := List.mem_map.mp hmem
  have horder' := List.mem_of_mem_filter hid
  rw [(horder i).mem_iff, Finmap.mem_keys, h.mem_shard] at horder'
  exact horder'.1

theorem represents_cleanup (h : Represents d m) {order : Fin n → List UInt32}
    (horder : d.Iterates order) (now maxAge : Nat) :
    Represents (d.cleanup now maxAge order).1
        (m.retain (fun _ e => !WaiterMap.expired ((now : Int) - maxAge) e)) ∧
      ((d.cleanup now maxAge order).2 : Multiset (τ × DemuxError)) =
        m.notices (WaiterMap.expired ((now : Int) - maxAge)) .timeout := by
  have hkeys := enumerates_keys h horder
  have hcollected := map_collectExpired h horder ((now : Int) - maxAge)
  have hnodup : ((d.collectExpired ((now : Int) - maxAge) order).map Prod.fst).Nodup := by
    rw [hcollected]
    exact hkeys.nodup.filter _
  obtain ⟨hrep, hnotices⟩ := represents_removeExpired h
    (shard_of_mem_collectExpired h horder ((now : Int) - maxAge)) hnodup
  rw [hcollected] at hrep hnotices
  constructor
  · rw [← hkeys.eraseAll_filter]
    exact hrep
  · show ((d.removeExpired _).2 : Multiset (τ × DemuxError)) = _
    apply Eq.trans _ (hkeys.filterMap_lookup (WaiterMap.expired ((now : Int) - maxAge))
      (fun e => (e.tx, DemuxError.timeout)))
    rw [hnotices, List.filterMap_filter]
    congr 1
    apply List.filterMap_congr
    intro id _
    cases m.lookup id with
    | none => rfl
    | some e => rfl

omit [NeZero n] in
theorem shards_drainShards (order : Fin n → List UInt32) (d : Demux n τ) {is : List (Fin n)}
    (his : is.Nodup) :
    (∀ j, (drainShards order d is).1.shards j = if j ∈ is then ∅ else d.shards j) ∧
      (drainShards order d is).2 = is.flatMap (fun i => (order i).filterMap (fun id =>
        ((d.shards i).lookup id).map (fun e => (id, e)))) := by
  induction is generalizing d with
  | nil =>
    refine ⟨fun j => ?_, rfl⟩
    rw [if_neg List.not_mem_nil]
    rfl
  | cons i is ih =>
    rw [List.nodup_cons] at his
    obtain ⟨hshards, hentries⟩ := ih (d.drainShard i (order i)).1 his.2
    have hother : ∀ j, (d.drainShard i (order i)).1.shards j = if j = i then ∅ else d.shards j :=
      fun j => shards_withShard d i j ∅
    constructor
    · intro j
      show (drainShards order (d.drainShard i (order i)).1 is).1.shards j = _
      rw [hshards, hother]
      by_cases hj : j = i
      · simp [hj]
      · simp [hj]
    · show (d.drainShard i (order i)).2 ++ (drainShards order (d.drainShard i (order i)).1 is).2 = _
      rw [hentries, List.flatMap_cons]
      congr 1
      apply List.flatMap_congr
      intro j hj
      rw [hother, if_neg]
      rintro rfl
      exact his.1 hj

theorem represents_failAll (h : Represents d m) {order : Fin n → List UInt32}
    (horder : d.Iterates order) :
    Represents (d.failAll order).1 (∅ : WaiterMap τ) ∧
      ((d.failAll order).2 : Multiset (τ × DemuxError)) =
        m.notices (fun _ => true) .connectionClosed := by
  obtain ⟨hshards, hentries⟩ := shards_drainShards order d (List.nodup_finRange n)
  constructor
  · intro i id
    show ((drainShards order d (List.finRange n)).1.shards i).lookup id = _
    rw [hshards, if_pos (List.mem_finRange i)]
    split <;> rfl
  · show (((drainShards order d (List.finRange n)).2.map
      (fun entry => (entry.2.tx, DemuxError.connectionClosed)) : List (τ × DemuxError)) :
        Multiset (τ × DemuxError)) = _
    apply Eq.trans _ ((enumerates_keys h horder).filterMap_lookup (fun _ => true)
      (fun e => (e.tx, DemuxError.connectionClosed)))
    rw [hentries]
    congr 1
    rw [List.map_flatMap, List.filterMap_flatMap]
    congr 1
    funext i
    rw [List.map_filterMap]
    apply List.filterMap_congr
    intro id hid
    rw [(horder i).mem_iff, Finmap.mem_keys, h.mem_shard] at hid
    rw [h, if_pos hid.1]
    cases m.lookup id with
    | none => rfl
    | some e => rfl

theorem pendingCount_eq (h : Represents d m) : d.pendingCount = m.keys.card := by
  obtain ⟨order, horder⟩ := exists_iterates d
  have hfold : ∀ (is : List (Fin n)) (total : Nat),
      is.foldl (fun total i => total + (d.shards i).keys.card) total =
        total + (is.flatMap order).length := by
    intro is
    induction is with
    | nil => exact fun _ => rfl
    | cons i is ih =>
      intro total
      have hcard : (d.shards i).keys.card = (order i).length := by
        show Multiset.card (d.shards i).keys.val = _
        rw [← horder i, Multiset.coe_card]
      rw [List.foldl_cons, ih, hcard, List.flatMap_cons, List.length_append, Nat.add_assoc]
  unfold pendingCount
  rw [hfold, Nat.zero_add]
  show _ = Multiset.card m.keys.val
  rw [← enumerates_keys h horder, Multiset.coe_card]

theorem waiters_eq (h : Represents d m) : d.waiters = m.waiters := by
  obtain ⟨order, horder⟩ := exists_iterates d
  have hall : ∀ {m' : WaiterMap τ} {ids : List UInt32}, Enumerates ids m'.keys →
      m'.waiters = (ids.filterMap (fun id => (m'.lookup id).map DemuxEntry.tx) : List τ) := by
    intro m' ids hids
    have hentries := hids.filterMap_lookup (fun _ => true) DemuxEntry.tx
    rw [Multiset.filter_eq_self.mpr (fun _ _ => rfl)] at hentries
    apply hentries.symm.trans
    congr 1
    apply List.filterMap_congr
    intro id _
    cases m'.lookup id with
    | none => rfl
    | some e => rfl
  have hsum : ∀ is : List (Fin n),
      (is.map (fun i => (d.shards i).entries.map (fun e => e.2.tx))).sum =
        ((is.flatMap order).filterMap (fun id => (m.lookup id).map DemuxEntry.tx) : List τ) := by
    intro is
    induction is with
    | nil => rfl
    | cons i is ih =>
      rw [List.map_cons, List.sum_cons, ih, List.flatMap_cons, List.filterMap_append,
        ← Multiset.coe_add]
      congr 1
      apply (hall (horder i)).trans
      congr 1
      apply List.filterMap_congr
      intro id hid
      rw [(horder i).mem_iff, Finmap.mem_keys, h.mem_shard] at hid
      rw [h, if_pos hid.1]
  exact (hsum _).trans (hall (enumerates_keys h horder)).symm

theorem represents_perform (h : Represents d m) {order : Fin n → List UInt32} {op : DemuxOp τ}
    {d' : Demux n τ} {result : DemuxResult τ} (hperform : d.perform order op = some (d', result)) :
    Represents d' (m.perform op).1 ∧ result = (m.perform op).2 := by
  cases op with
  | insert corrId tx sentAt =>
    cases hperform
    obtain ⟨hrep, hresult⟩ := represents_insert h corrId tx sentAt
    exact ⟨hrep, hresult.symm⟩
  | remove corrId =>
    cases hperform
    obtain ⟨hrep, hresult⟩ := represents_remove h corrId
    exact ⟨hrep, congrArg DemuxResult.removed hresult⟩
  | cleanup now maxAge =>
    simp only [perform] at hperform
    by_cases horder : d.Iterates order
    · rw [if_pos horder] at hperform
      cases hperform
      obtain ⟨hrep, hresult⟩ := represents_cleanup h horder now maxAge
      exact ⟨hrep, congrArg DemuxResult.resolved hresult⟩
    · rw [if_neg horder] at hperform
      cases hperform
  | failAll =>
    simp only [perform] at hperform
    by_cases horder : d.Iterates order
    · rw [if_pos horder] at hperform
      cases hperform
      obtain ⟨hrep, hresult⟩ := represents_failAll h horder
      exact ⟨hrep, congrArg DemuxResult.resolved hresult⟩
    · rw [if_neg horder] at hperform
      cases hperform
  | pendingCount =>
    cases hperform
    exact ⟨h, congrArg DemuxResult.count (pendingCount_eq h)⟩

end Represents

end Demux

/-! ## No waiter is lost -/

namespace WaiterMap

variable {τ : Type}

theorem waiters_insert {m : WaiterMap τ} {id : UInt32} {e : DemuxEntry τ} (h : id ∉ m) :
    waiters (m.insert id e) = m.waiters + {e.tx} := by
  unfold waiters
  rw [Finmap.entries_insert_of_notMem h, Multiset.map_cons, ← Multiset.singleton_add, add_comm]

theorem map_notices (m : WaiterMap τ) (test : DemuxEntry τ → Bool) (error : DemuxError) :
    (m.notices test error).map Prod.fst =
      (m.entries.filter (fun e => test e.2)).map (fun e => e.2.tx) := by
  unfold notices
  rw [Multiset.map_map]
  rfl

/-- What a call accepts is registered, and what it releases was. -/
theorem waiters_perform (m : WaiterMap τ) (op : DemuxOp τ) :
    m.waiters + op.accepted (m.perform op).2 =
      (m.perform op).1.waiters + (m.perform op).2.released := by
  cases op with
  | insert corrId tx sentAt =>
    simp only [perform]
    by_cases htaken : corrId ∈ m
    · rw [if_pos htaken]
      rfl
    · rw [if_neg htaken]
      show m.waiters + {tx} = waiters (m.insert corrId ⟨tx, sentAt⟩) + 0
      rw [waiters_insert htaken, add_zero]
  | remove corrId =>
    show m.waiters + 0 = waiters (m.erase corrId) +
      (DemuxResult.removed ((m.lookup corrId).map DemuxEntry.tx)).released
    cases hentry : m.lookup corrId with
    | none =>
      have hsame : m.erase corrId = m := by
        apply Finmap.ext_lookup
        intro id
        rw [FiniteMap.lookup_erase]
        by_cases hid : id = corrId
        · rw [hid, if_pos rfl, hentry]
        · rw [if_neg hid]
      rw [hsame]
      rfl
    | some e =>
      have hback : (m.erase corrId).insert corrId e = m := by
        apply Finmap.ext_lookup
        intro id
        rw [FiniteMap.lookup_insert, FiniteMap.lookup_erase]
        by_cases hid : id = corrId
        · rw [hid, if_pos rfl, hentry]
        · rw [if_neg hid, if_neg hid]
      have hinsert := @waiters_insert τ (m.erase corrId) corrId e Finmap.notMem_erase_self
      rw [hback] at hinsert
      rw [hinsert, add_zero]
      rfl
  | cleanup now maxAge =>
    show m.waiters + 0 = waiters (m.retain (fun _ e => !expired ((now : Int) - maxAge) e)) +
      (m.notices (expired ((now : Int) - maxAge)) .timeout).map Prod.fst
    rw [add_zero, map_notices, add_comm]
    show m.entries.map (fun e => e.2.tx) = (m.entries.filter _).map _ +
      (m.entries.filter (fun e => (!expired ((now : Int) - maxAge) e.2) = true)).map
        (fun e => e.2.tx)
    have hnot : m.entries.filter (fun e => (!expired ((now : Int) - maxAge) e.2) = true) =
        m.entries.filter (fun e => ¬ expired ((now : Int) - maxAge) e.2 = true) :=
      Multiset.filter_congr (fun e _ => by simp)
    rw [hnot, ← Multiset.map_add, Multiset.filter_add_not]
  | failAll =>
    show m.waiters + 0 = 0 + (m.notices (fun _ => true) .connectionClosed).map Prod.fst
    rw [add_zero, zero_add, map_notices, Multiset.filter_eq_self.mpr (fun _ _ => rfl)]
    rfl
  | pendingCount => rfl

end WaiterMap

namespace Demux

variable {n : Nat} [NeZero n] {τ : Type}

/-- The waiters that a sequence of calls has registered. -/
def acceptedBy (calls : List (DemuxOp τ)) (results : List (DemuxResult τ)) : Multiset τ :=
  ((calls.zip results).map (fun p => p.1.accepted p.2)).sum

/-- The waiters that it has handed out or resolved. -/
def releasedBy (results : List (DemuxResult τ)) : Multiset τ :=
  (results.map DemuxResult.released).sum

theorem run_of_represents {d₀ d : Demux n τ} {m : WaiterMap τ} (h : Represents d₀ m)
    {calls : List (DemuxOp τ × (Fin n → List UInt32))} {results : List (DemuxResult τ)}
    (hrun : run d₀ calls = some (d, results)) :
    results = (m.run (calls.map Prod.fst)).2 ∧ Represents d (m.run (calls.map Prod.fst)).1 ∧
      m.waiters + acceptedBy (calls.map Prod.fst) results =
        (m.run (calls.map Prod.fst)).1.waiters + releasedBy results := by
  induction calls generalizing d₀ m results with
  | nil =>
    cases hrun
    exact ⟨rfl, h, rfl⟩
  | cons call calls ih =>
    obtain ⟨op, order⟩ := call
    unfold run at hrun
    cases hperform : d₀.perform order op with
    | none =>
      rw [hperform] at hrun
      cases hrun
    | some next =>
      obtain ⟨d₁, result⟩ := next
      rw [hperform] at hrun
      simp only at hrun
      cases hrest : run d₁ calls with
      | none =>
        rw [hrest] at hrun
        cases hrun
      | some last =>
        obtain ⟨d₂, rest⟩ := last
        rw [hrest] at hrun
        cases hrun
        obtain ⟨hrep, hresult⟩ := represents_perform h hperform
        obtain ⟨hresults, hlast, hwaiters⟩ := ih hrep hrest
        have hstep := m.waiters_perform op
        rw [← hresult] at hstep
        refine ⟨?_, hlast, ?_⟩
        · show result :: rest = (m.perform op).2 :: _
          rw [hresult, hresults]
          rfl
        · calc m.waiters + (op.accepted result + acceptedBy (calls.map Prod.fst) rest)
              = (m.waiters + op.accepted result) + acceptedBy (calls.map Prod.fst) rest := by
                rw [add_assoc]
            _ = ((m.perform op).1.waiters + acceptedBy (calls.map Prod.fst) rest) +
                  result.released := by rw [hstep, add_right_comm]
            _ = (WaiterMap.run (m.perform op).1 (calls.map Prod.fst)).1.waiters +
                  (result.released + releasedBy rest) := by
                rw [hwaiters, add_assoc, add_comm result.released]

/-- Every sequence of calls can be made, with some orders of iteration. -/
theorem exists_run (d : Demux n τ) (ops : List (DemuxOp τ)) :
    ∃ calls : List (DemuxOp τ × (Fin n → List UInt32)), calls.map Prod.fst = ops ∧
      (run d calls).isSome = true := by
  induction ops generalizing d with
  | nil => exact ⟨[], rfl, rfl⟩
  | cons op ops ih =>
    obtain ⟨order, horder⟩ := exists_iterates d
    have hperform : ∃ next, d.perform order op = some next := by
      cases op with
      | cleanup now maxAge => exact ⟨_, if_pos horder⟩
      | failAll => exact ⟨_, if_pos horder⟩
      | _ => exact ⟨_, rfl⟩
    obtain ⟨⟨d₁, result⟩, hnext⟩ := hperform
    obtain ⟨calls, hcalls, hruns⟩ := ih d₁
    obtain ⟨⟨d₂, results⟩, hrun⟩ := Option.isSome_iff_exists.mp hruns
    refine ⟨(op, order) :: calls, congrArg _ hcalls, ?_⟩
    unfold run
    rw [hnext]
    simp only [hrun, Option.isSome_some]

/-- Every sequence of calls can be made on a new demux, and whatever the number of shards and the
orders of iteration, it gives the results that one map gives, and the shards hold the map's entries;
the waiters that were registered are those that are registered still and those that were handed out
or resolved, each as often as it was registered. -/
theorem run_refines (ops : List (DemuxOp τ)) :
    (∃ calls : List (DemuxOp τ × (Fin n → List UInt32)), calls.map Prod.fst = ops ∧
      (run new calls).isSome = true) ∧
    ∀ (calls : List (DemuxOp τ × (Fin n → List UInt32))) (d : Demux n τ)
      (results : List (DemuxResult τ)), calls.map Prod.fst = ops →
      run new calls = some (d, results) →
        results = (WaiterMap.run ∅ ops).2 ∧ Represents d (WaiterMap.run ∅ ops).1 ∧
          acceptedBy ops results = d.waiters + releasedBy results := by
  refine ⟨exists_run new ops, fun calls d results hops hrun => ?_⟩
  subst hops
  obtain ⟨hresults, hrep, hwaiters⟩ := run_of_represents represents_new hrun
  refine ⟨hresults, hrep, ?_⟩
  rw [waiters_eq hrep]
  rw [← hwaiters]
  exact (zero_add _).symm

/-- Two waiters in two shards: one of them is timed out, the other one is handed out. -/
def twoWaiters : List (DemuxOp Nat × (Fin 2 → List UInt32)) :=
  [(.insert 1 10 5, fun _ => []), (.insert 2 20 9, fun _ => []), (.insert 2 30 9, fun _ => []),
    (.cleanup 10 3, fun i => if i = 0 then [2] else [1]), (.remove 2, fun _ => []),
    (.pendingCount, fun _ => [])]

theorem run_refines_twoWaiters :
    ∃ (d : Demux 2 Nat) (results : List (DemuxResult Nat)),
      run new twoWaiters = some (d, results) ∧ results.length = 6 ∧
      results = (WaiterMap.run ∅ (twoWaiters.map Prod.fst)).2 ∧
      Represents d (WaiterMap.run ∅ (twoWaiters.map Prod.fst)).1 ∧
      acceptedBy (twoWaiters.map Prod.fst) results = d.waiters + releasedBy results := by
  obtain ⟨⟨d, results⟩, hrun, hlen⟩ := Option.map_eq_some_iff.mp (show
    (run new twoWaiters).map (fun next => next.2.length) = some 6 from rfl)
  exact ⟨d, results, hrun, hlen, (run_refines _).2 twoWaiters d results rfl hrun⟩

end Demux

end RzRouter
