import RzRouter.HopManager

/-!
# The hop registry

What `get_or_create` and `retire_unused` do to a lookup, and the account of the hops: every hop
that was ever created is registered, once and under its own id, or it was shut down, once.
-/

namespace RzRouter

namespace HopManager

/-- Every hop that was created: the registered ones and those that were shut down. -/
def created (hm : HopManager) : Multiset Hop :=
  hm.hops.entries.map (fun e => e.2) + hm.shutdowns

/-- The allocations are numbered, and each of them is accounted for once. -/
structure Sound (hm : HopManager) : Prop where
  named : ∀ id hop, hm.get id = some hop → hop.id = id
  accounted : hm.created.map Hop.handle = Multiset.range hm.allocated

theorem sound_new : new.Sound where
  named := by
    intro id hop h
    cases h
  accounted := rfl

/-! ## `get_or_create` -/

theorem getOrCreate_of_get {hm : HopManager} {id : String} {hop : Hop} (h : hm.get id = some hop) :
    hm.getOrCreate id = hm := by
  unfold get at h
  unfold getOrCreate
  rw [h]

theorem getOrCreate_of_get_none {hm : HopManager} {id : String} (h : hm.get id = none) :
    hm.getOrCreate id =
      { hm with hops := hm.hops.insert id ⟨id, hm.allocated⟩, allocated := hm.allocated + 1 } := by
  unfold get at h
  unfold getOrCreate
  rw [h]

theorem get_getOrCreate_of_get {hm : HopManager} {a : String} {hop : Hop} (h : hm.get a = some hop)
    (id : String) : (hm.getOrCreate id).get a = some hop := by
  cases hid : hm.get id with
  | some hop' => rw [getOrCreate_of_get hid, h]
  | none =>
    rw [getOrCreate_of_get_none hid]
    unfold get at h hid ⊢
    have hne : a ≠ id := by
      rintro rfl
      rw [h] at hid
      cases hid
    rw [Finmap.lookup_insert_of_ne _ hne, h]

theorem isSome_get_getOrCreate (hm : HopManager) (id a : String) :
    ((hm.getOrCreate id).get a).isSome ↔ (hm.get a).isSome ∨ a = id := by
  cases hid : hm.get id with
  | some hop =>
    rw [getOrCreate_of_get hid]
    constructor
    · exact Or.inl
    · rintro (h | rfl)
      · exact h
      · rw [hid]
        rfl
  | none =>
    rw [getOrCreate_of_get_none hid]
    unfold get
    simp only [FiniteMap.lookup_insert]
    split <;> simp_all

theorem created_getOrCreate_of_get_none {hm : HopManager} {id : String} (h : hm.get id = none) :
    (hm.getOrCreate id).created = ⟨id, hm.allocated⟩ ::ₘ hm.created := by
  rw [getOrCreate_of_get_none h]
  unfold created
  simp only
  rw [Finmap.entries_insert_of_notMem (Finmap.lookup_eq_none.mp h), Multiset.map_cons,
    Multiset.cons_add]

theorem sound_getOrCreate {hm : HopManager} (h : hm.Sound) (id : String) :
    (hm.getOrCreate id).Sound := by
  cases hid : hm.get id with
  | some hop =>
    rw [getOrCreate_of_get hid]
    exact h
  | none =>
    constructor
    · intro a hop ha
      rw [getOrCreate_of_get_none hid] at ha
      unfold get at ha
      simp only [FiniteMap.lookup_insert] at ha
      split at ha
      · rename_i heq
        rw [← Option.some.inj ha, heq]
      · exact h.named a hop ha
    · rw [created_getOrCreate_of_get_none hid, Multiset.map_cons, h.accounted,
        getOrCreate_of_get_none hid, Multiset.range_succ]

/-! ## A sequence of `get_or_create` -/

/-- `get_or_create` for each id of a list. -/
def createAll (hm : HopManager) (ids : List String) : HopManager := ids.foldl getOrCreate hm

theorem createAll_append (hm : HopManager) (ids ids' : List String) :
    hm.createAll (ids ++ ids') = (hm.createAll ids).createAll ids' := List.foldl_append

theorem get_createAll_of_get {hm : HopManager} {a : String} {hop : Hop} (h : hm.get a = some hop)
    (ids : List String) : (hm.createAll ids).get a = some hop := by
  induction ids generalizing hm with
  | nil => exact h
  | cons id ids ih => exact ih (get_getOrCreate_of_get h id)

theorem isSome_get_createAll (hm : HopManager) (ids : List String) (a : String) :
    ((hm.createAll ids).get a).isSome ↔ (hm.get a).isSome ∨ a ∈ ids := by
  induction ids generalizing hm with
  | nil => simp [createAll]
  | cons id ids ih =>
    have hstep := ih (hm.getOrCreate id)
    unfold createAll at hstep ⊢
    rw [List.foldl_cons, hstep, isSome_get_getOrCreate, List.mem_cons, or_assoc]

theorem sound_createAll {hm : HopManager} (h : hm.Sound) (ids : List String) :
    (hm.createAll ids).Sound := by
  induction ids generalizing hm with
  | nil => exact h
  | cons id ids ih => exact ih (sound_getOrCreate h id)

theorem mem_created_createAll {hm : HopManager} {hop : Hop} (h : hop ∈ hm.created)
    (ids : List String) : hop ∈ (hm.createAll ids).created := by
  induction ids generalizing hm with
  | nil => exact h
  | cons id ids ih =>
    apply @ih (hm.getOrCreate id)
    cases hid : hm.get id with
    | some hop' =>
      rw [getOrCreate_of_get hid]
      exact h
    | none =>
      rw [created_getOrCreate_of_get_none hid]
      exact Multiset.mem_cons_of_mem h

/-! ## `retire_unused` -/

theorem get_retireUnused (hm : HopManager) (active : Multiset String) (id : String) :
    (hm.retireUnused active).get id = if id ∈ active then hm.get id else none := by
  unfold retireUnused get
  rw [FiniteMap.lookup_retain]
  cases hm.hops.lookup id <;> by_cases h : id ∈ active <;> simp [h, Option.filter]

/-- Nothing is lost: what is not active any more is shut down. -/
theorem created_retireUnused (hm : HopManager) (active : Multiset String) :
    (hm.retireUnused active).created = hm.created := by
  have hsplit : hm.hops.entries.filter (fun e => e.1 ∈ active) +
      hm.hops.entries.filter (fun e => e.1 ∉ active) = hm.hops.entries :=
    Multiset.filter_add_not _ _
  unfold created retireUnused FiniteMap.retain
  simp only [decide_eq_true_eq]
  rw [add_comm hm.shutdowns, ← add_assoc, ← Multiset.map_add, hsplit]

theorem sound_retireUnused {hm : HopManager} (h : hm.Sound) (active : Multiset String) :
    (hm.retireUnused active).Sound where
  named := by
    intro id hop hget
    rw [get_retireUnused] at hget
    split at hget
    · exact h.named id hop hget
    · cases hget
  accounted := by
    rw [created_retireUnused]
    exact h.accounted

/-! ## The account -/

theorem mem_created_of_get {hm : HopManager} {id : String} {hop : Hop} (h : hm.get id = some hop) :
    hop ∈ hm.created := by
  apply Multiset.mem_add.mpr
  refine Or.inl (Multiset.mem_map.mpr ⟨⟨id, hop⟩, ?_, rfl⟩)
  exact Finmap.lookup_eq_some_iff.mp h

theorem Sound.nodup {hm : HopManager} (h : hm.Sound) : hm.created.Nodup := by
  apply Multiset.Nodup.of_map Hop.handle
  rw [h.accounted]
  exact Multiset.nodup_range _

theorem Sound.notMem_shutdowns {hm : HopManager} (h : hm.Sound) {id : String} {hop : Hop}
    (hget : hm.get id = some hop) : hop ∉ hm.shutdowns := by
  have hmem : hop ∈ hm.hops.entries.map (fun e => e.2) :=
    Multiset.mem_map.mpr ⟨⟨id, hop⟩, Finmap.lookup_eq_some_iff.mp hget, rfl⟩
  exact Multiset.disjoint_left.mp (Multiset.nodup_add.mp h.nodup).2.2 hmem

/-- A hop that was created is registered, or it was shut down once. -/
theorem Sound.get_or_count {hm : HopManager} (h : hm.Sound) {hop : Hop} (hmem : hop ∈ hm.created) :
    hm.get hop.id = some hop ∧ hm.shutdowns.count hop = 0 ∨
      hm.get hop.id ≠ some hop ∧ hm.shutdowns.count hop = 1 := by
  rcases Multiset.mem_add.mp hmem with hregistered | hshut
  · left
    obtain ⟨⟨id, hop'⟩, hentry, rfl⟩ := Multiset.mem_map.mp hregistered
    have hget : hm.get id = some hop' := Finmap.lookup_eq_some_iff.mpr hentry
    rw [h.named id hop' hget]
    exact ⟨hget, Multiset.count_eq_zero_of_notMem (h.notMem_shutdowns hget)⟩
  · right
    refine ⟨fun hget => h.notMem_shutdowns hget hshut, ?_⟩
    exact Multiset.count_eq_one_of_mem (Multiset.nodup_add.mp h.nodup).2.1 hshut

end HopManager

end RzRouter
