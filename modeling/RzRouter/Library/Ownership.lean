import RzRouter.Library.FiniteMap

/-!
# Maps maintained by authoritative lists

A map from items to owners is updated by complete lists: `replaceOwner m o items` makes `items`
everything that `o` owns, taking items from other owners where necessary.  Against the history of
such lists (newest first), what `o` should own is the last list given for it minus the items that
a newer list of another owner claims: `held`.  An update keeps every owner that was right, and
makes its own owner right whatever the map was before.
-/

namespace Ownership

variable {ο ι : Type} [DecidableEq ο] [DecidableEq ι]

/-- Makes `items` everything that `o` owns. -/
def replaceOwner (m : FiniteMap ι ο) (o : ο) (items : List ι) : FiniteMap ι ο :=
  items.foldl (fun m i => (m.erase i).insert i o) (m.retain (fun _ o' => decide (o' ≠ o)))

omit [DecidableEq ο] in
theorem lookup_foldl_assign (items : List ι) (o : ο) (m : FiniteMap ι ο) (a : ι) :
    (items.foldl (fun m i => (m.erase i).insert i o) m).lookup a =
      if a ∈ items then some o else m.lookup a := by
  induction items generalizing m with
  | nil => simp
  | cons i items ih =>
    rw [List.foldl_cons, ih, FiniteMap.lookup_insert, FiniteMap.lookup_erase]
    by_cases ha : a ∈ items
    · simp [ha]
    · by_cases hi : a = i
      · simp [hi]
      · simp [ha, hi]

theorem lookup_replaceOwner (m : FiniteMap ι ο) (o : ο) (items : List ι) (a : ι) :
    (replaceOwner m o items).lookup a =
      if a ∈ items then some o else (m.lookup a).filter (fun o' => decide (o' ≠ o)) := by
  unfold replaceOwner
  rw [lookup_foldl_assign, FiniteMap.lookup_retain]

/-- The map after the lists of `claims`, newest first. -/
def replaceOwners (m : FiniteMap ι ο) (claims : List (ο × List ι)) : FiniteMap ι ο :=
  claims.foldr (fun claim m => replaceOwner m claim.1 claim.2) m

theorem replaceOwners_append (m : FiniteMap ι ο) (new old : List (ο × List ι)) :
    replaceOwners m (new ++ old) = replaceOwners (replaceOwners m old) new := List.foldr_append

/-- The owner of an item after the lists of `claims`, newest first: that of the newest list with
the item, or else the one in `m` if no list is given for it. -/
def assigned (m : FiniteMap ι ο) : List (ο × List ι) → ι → Option ο
  | [], a => m.lookup a
  | (o, items) :: claims, a =>
      if a ∈ items then some o else (assigned m claims a).filter (fun o' => decide (o' ≠ o))

theorem lookup_replaceOwners (m : FiniteMap ι ο) (claims : List (ο × List ι)) (a : ι) :
    (replaceOwners m claims).lookup a = assigned m claims a := by
  induction claims with
  | nil => rfl
  | cons claim claims ih =>
    obtain ⟨o, items⟩ := claim
    unfold assigned
    rw [← ih]
    exact lookup_replaceOwner _ o items a

/-- Lists of different owners that have no item in common. -/
def DisjointClaims (claims : List (ο × List ι)) : Prop :=
  claims.Pairwise (fun claim claim' => claim.1 ≠ claim'.1 ∧ claim.2.Disjoint claim'.2)

/-- Among disjoint lists the order does not matter: an item in one of them goes to the list's
owner, and any other item keeps its owner unless a list is given for that owner. -/
theorem assigned_of_disjoint (m : FiniteMap ι ο) {claims : List (ο × List ι)}
    (h : DisjointClaims claims) (a : ι) (o : ο) :
    assigned m claims a = some o ↔
      (∃ items, (o, items) ∈ claims ∧ a ∈ items) ∨
        (∀ claim ∈ claims, a ∉ claim.2) ∧ m.lookup a = some o ∧ o ∉ claims.map Prod.fst := by
  induction claims with
  | nil => simp [assigned]
  | cons claim claims ih =>
    obtain ⟨o', items'⟩ := claim
    have hhead : ∀ claim ∈ claims, o' ≠ claim.1 ∧ items'.Disjoint claim.2 :=
      fun claim hmem => List.rel_of_pairwise_cons h hmem
    unfold assigned
    by_cases ha : a ∈ items'
    · rw [if_pos ha, Option.some_inj]
      constructor
      · rintro rfl
        exact Or.inl ⟨items', List.mem_cons_self, ha⟩
      · rintro (⟨items, hmem, hitem⟩ | ⟨hnone, -, -⟩)
        · rcases List.mem_cons.mp hmem with heq | hrest
          · exact (congrArg Prod.fst heq).symm
          · exact absurd hitem ((hhead _ hrest).2 ha)
        · exact absurd ha (hnone _ List.mem_cons_self)
    · rw [if_neg ha, Option.filter_eq_some_iff, ih (List.Pairwise.of_cons h), decide_eq_true_eq]
      constructor
      · rintro ⟨⟨items, hmem, hitem⟩ | ⟨hnone, hold, hnew⟩, hne⟩
        · exact Or.inl ⟨items, List.mem_cons_of_mem _ hmem, hitem⟩
        · refine Or.inr ⟨?_, hold, ?_⟩
          · exact List.forall_mem_cons.mpr ⟨ha, hnone⟩
          · rw [List.map_cons, List.mem_cons, not_or]
            exact ⟨hne, hnew⟩
      · rintro (⟨items, hmem, hitem⟩ | ⟨hnone, hold, hnew⟩)
        · rcases List.mem_cons.mp hmem with heq | hrest
          · cases heq
            exact absurd hitem ha
          · exact ⟨Or.inl ⟨items, hrest, hitem⟩, Ne.symm (hhead _ hrest).1⟩
        · rw [List.map_cons, List.mem_cons, not_or] at hnew
          exact ⟨Or.inr ⟨fun claim hmem => hnone claim (List.mem_cons_of_mem _ hmem), hold, hnew.2⟩,
            hnew.1⟩

/-- The lists given for the owners `os`, in this order, newest first. -/
def claimsOf (list : ο → Option (List ι)) (os : List ο) : List (ο × List ι) :=
  (os.filterMap (fun o => (list o).map (fun items => (o, items)))).reverse

omit [DecidableEq ο] [DecidableEq ι] in
theorem mem_claimsOf {list : ο → Option (List ι)} {os : List ο} {o : ο} {items : List ι} :
    (o, items) ∈ claimsOf list os ↔ o ∈ os ∧ list o = some items := by
  unfold claimsOf
  rw [List.mem_reverse, List.mem_filterMap]
  constructor
  · rintro ⟨o', ho', hclaim⟩
    obtain ⟨items', hlist, heq⟩ := Option.map_eq_some_iff.mp hclaim
    cases heq
    exact ⟨ho', hlist⟩
  · rintro ⟨ho, hlist⟩
    refine ⟨o, ho, ?_⟩
    rw [hlist]
    rfl

omit [DecidableEq ο] [DecidableEq ι] in
theorem disjointClaims_claimsOf {list : ο → Option (List ι)} {os : List ο} (hos : os.Nodup)
    (h : ∀ o o', o ≠ o' → ∀ items items', list o = some items → list o' = some items' →
      items.Disjoint items') : DisjointClaims (claimsOf list os) := by
  unfold DisjointClaims claimsOf
  rw [List.pairwise_reverse, List.pairwise_filterMap]
  apply hos.imp
  intro o o' hne claim hclaim claim' hclaim'
  obtain ⟨items, hlist, rfl⟩ := Option.map_eq_some_iff.mp hclaim
  obtain ⟨items', hlist', rfl⟩ := Option.map_eq_some_iff.mp hclaim'
  exact ⟨Ne.symm hne, (h o o' hne items items' hlist hlist').symm⟩

/-- The owners after lists that are disjoint and given once for each owner, in any order. -/
theorem lookup_replaceOwners_claimsOf (m : FiniteMap ι ο) {list : ο → Option (List ι)}
    {os : List ο} (hos : os.Nodup) (hlist : ∀ o, list o ≠ none → o ∈ os)
    (hdisjoint : ∀ o o', o ≠ o' → ∀ items items', list o = some items → list o' = some items' →
      items.Disjoint items') (a : ι) (o : ο) :
    (replaceOwners m (claimsOf list os)).lookup a = some o ↔
      (∃ items, list o = some items ∧ a ∈ items) ∨
        (∀ o' items, list o' = some items → a ∉ items) ∧ m.lookup a = some o ∧ list o = none := by
  have hmem : ∀ o items, (o, items) ∈ claimsOf list os ↔ list o = some items := by
    intro o items
    rw [mem_claimsOf, and_iff_right_of_imp]
    intro h
    apply hlist
    rw [h]
    exact Option.some_ne_none items
  have hgiven : o ∉ (claimsOf list os).map Prod.fst ↔ list o = none := by
    rw [List.mem_map, Option.eq_none_iff_forall_ne_some]
    constructor
    · exact fun h items hitems => h ⟨(o, items), (hmem o items).mpr hitems, rfl⟩
    · rintro h ⟨⟨o', items⟩, hclaim, rfl⟩
      exact h items ((hmem o' items).mp hclaim)
  rw [lookup_replaceOwners, assigned_of_disjoint m (disjointClaims_claimsOf hos hdisjoint), hgiven]
  simp only [hmem, Prod.forall]

/-- What `o` owns after the lists of `history`, newest first. -/
def held : List (ο × List ι) → ο → Finset ι
  | [], _ => ∅
  | (o', items) :: history, o =>
      if o' = o then items.toFinset else held history o \ items.toFinset

theorem held_cons_self (history : List (ο × List ι)) (o : ο) (items : List ι) :
    held ((o, items) :: history) o = items.toFinset := if_pos rfl

theorem held_cons_of_ne (history : List (ο × List ι)) (o o' : ο) (items : List ι) (h : o' ≠ o) :
    held ((o', items) :: history) o = held history o \ items.toFinset := if_neg h

/-- `m` assigns to `o` exactly what the history gives it. -/
def Exact (m : FiniteMap ι ο) (history : List (ο × List ι)) (o : ο) : Prop :=
  ∀ a, m.lookup a = some o ↔ a ∈ held history o

theorem exact_replaceOwner_self (m : FiniteMap ι ο) (history : List (ο × List ι)) (o : ο)
    (items : List ι) : Exact (replaceOwner m o items) ((o, items) :: history) o := by
  intro a
  rw [lookup_replaceOwner, held_cons_self, List.mem_toFinset]
  by_cases ha : a ∈ items <;> simp [ha, Option.filter_eq_some_iff]

theorem exact_replaceOwner (m : FiniteMap ι ο) (history : List (ο × List ι)) (o o' : ο)
    (items : List ι) (h : Exact m history o) :
    Exact (replaceOwner m o' items) ((o', items) :: history) o := by
  by_cases ho : o' = o
  · rw [ho]
    exact exact_replaceOwner_self m history o items
  · intro a
    rw [lookup_replaceOwner, held_cons_of_ne history o o' items ho, Finset.mem_sdiff,
      List.mem_toFinset, ← h a]
    by_cases ha : a ∈ items
    · simp [ha, ho]
    · simp only [ha, if_false, Option.filter_eq_some_iff, not_false_eq_true, and_true,
        decide_eq_true_eq, and_iff_left_iff_imp]
      exact fun _ => Ne.symm ho

/-- Where nothing is assigned to `o`, exactness says that it should hold nothing. -/
theorem exact_iff_of_unowned {m : FiniteMap ι ο} {history : List (ο × List ι)} {o : ο}
    (h : ∀ a, m.lookup a ≠ some o) : Exact m history o ↔ held history o = ∅ := by
  constructor
  · intro hexact
    apply Finset.eq_empty_of_forall_notMem
    exact fun a ha => h a ((hexact a).mpr ha)
  · intro hheld a
    rw [hheld]
    exact iff_of_false (h a) (Finset.notMem_empty a)

/-- What is held was in the last list given for the owner. -/
theorem exists_list_of_mem_held {history : List (ο × List ι)} {o : ο} {a : ι}
    (h : a ∈ held history o) : ∃ items, (o, items) ∈ history ∧ a ∈ items := by
  induction history with
  | nil => simp [held] at h
  | cons claim history ih =>
    obtain ⟨o', items⟩ := claim
    by_cases ho : o' = o
    · subst ho
      rw [held_cons_self, List.mem_toFinset] at h
      exact ⟨items, List.mem_cons_self, h⟩
    · rw [held_cons_of_ne history o o' items ho, Finset.mem_sdiff] at h
      obtain ⟨items', hmem, ha⟩ := ih h.1
      exact ⟨items', List.mem_cons_of_mem _ hmem, ha⟩

/-- Newer lists of other owners only take items away. -/
theorem mem_held_append {new old : List (ο × List ι)} {o : ο} (ho : o ∉ new.map Prod.fst) (a : ι) :
    a ∈ held (new ++ old) o ↔ a ∈ held old o ∧ ∀ claim ∈ new, a ∉ claim.2 := by
  induction new with
  | nil => simp
  | cons claim new ih =>
    obtain ⟨o', items⟩ := claim
    rw [List.map_cons, List.mem_cons, not_or] at ho
    rw [List.cons_append, held_cons_of_ne _ o o' items (Ne.symm ho.1), Finset.mem_sdiff,
      List.mem_toFinset, ih ho.2, List.forall_mem_cons]
    tauto

/-- Among newer lists of distinct owners, an item that is in one of them is held by the owner of
the newest one. -/
theorem exists_mem_held_append {new old : List (ο × List ι)} (hnew : (new.map Prod.fst).Nodup)
    {claim : ο × List ι} (hmem : claim ∈ new) {a : ι} (ha : a ∈ claim.2) :
    ∃ o ∈ new.map Prod.fst, a ∈ held (new ++ old) o := by
  induction new with
  | nil => exact absurd hmem List.not_mem_nil
  | cons head new ih =>
    obtain ⟨o', items⟩ := head
    obtain ⟨hhead, htail⟩ := List.nodup_cons.mp hnew
    -- the first owner that claims the item takes it from all later ones
    by_cases hitems : a ∈ items
    · refine ⟨o', List.mem_cons_self, ?_⟩
      rw [List.cons_append, held_cons_self, List.mem_toFinset]
      exact hitems
    · rcases List.mem_cons.mp hmem with rfl | hrest
      · exact absurd ha hitems
      · obtain ⟨o, ho, hheld⟩ := ih htail hrest
        have hne : o' ≠ o := fun h => hhead (h ▸ ho)
        refine ⟨o, List.mem_cons_of_mem _ ho, ?_⟩
        rw [List.cons_append, held_cons_of_ne _ o o' items hne, Finset.mem_sdiff,
          List.mem_toFinset]
        exact ⟨hheld, hitems⟩

end Ownership
