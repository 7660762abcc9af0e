import Mathlib.Data.Finmap
import Mathlib.Data.List.Sort

/-!
# Finite maps with a filtering operation

`FiniteMap κ ν` is Mathlib's non-dependent `Finmap`.  This file adds `retain` (keep the entries
that satisfy a test), uniform lookup equations for `insert` and `erase`, and the notion of a list
that enumerates a finite set in some order.
-/

/-- Finite maps from `κ` to `ν`, equal when they have the same lookups. -/
abbrev FiniteMap (κ ν : Type) := Finmap (fun _ : κ => ν)

namespace FiniteMap

variable {κ ν : Type} [DecidableEq κ]

theorem lookup_insert (m : FiniteMap κ ν) (a k : κ) (v : ν) :
    (m.insert k v).lookup a = if a = k then some v else m.lookup a := by
  split
  · rename_i h
    rw [h, Finmap.lookup_insert]
  · rename_i h
    rw [Finmap.lookup_insert_of_ne _ h]

theorem lookup_erase (m : FiniteMap κ ν) (a k : κ) :
    (m.erase k).lookup a = if a = k then none else m.lookup a := by
  split
  · rename_i h
    rw [h, Finmap.lookup_erase]
  · rename_i h
    rw [Finmap.lookup_erase_ne h]

theorem insert_of_lookup (m : FiniteMap κ ν) (k : κ) (v : ν) (h : m.lookup k = some v) :
    m.insert k v = m := by
  apply Finmap.ext_lookup
  intro a
  rw [lookup_insert]
  split
  · rename_i ha
    rw [ha, h]
  · rfl

theorem erase_of_lookup (m : FiniteMap κ ν) (k : κ) (h : m.lookup k = none) : m.erase k = m := by
  apply Finmap.ext_lookup
  intro a
  rw [lookup_erase]
  split
  · rename_i ha
    rw [ha, h]
  · rfl

/-- The entries of `m` whose key and value pass `keep`. -/
def retain (keep : κ → ν → Bool) (m : FiniteMap κ ν) : FiniteMap κ ν where
  entries := m.entries.filter (fun e => keep e.1 e.2)
  nodupKeys := by
    have hle : (m.entries.filter (fun e => keep e.1 e.2)).keys ≤ m.entries.keys :=
      Multiset.map_le_map (Multiset.filter_le _ _)
    exact Multiset.nodup_keys.mp (Multiset.nodup_of_le hle m.nodupKeys.nodup_keys)

@[simp] theorem lookup_retain (m : FiniteMap κ ν) (keep : κ → ν → Bool) (a : κ) :
    (m.retain keep).lookup a = (m.lookup a).filter (keep a) := by
  apply Option.ext
  intro v
  rw [Finmap.lookup_eq_some_iff, Option.filter_eq_some_iff, Finmap.lookup_eq_some_iff]
  exact Multiset.mem_filter

theorem lookup_retain_eq_some (m : FiniteMap κ ν) (keep : κ → ν → Bool) (a : κ) (v : ν) :
    (m.retain keep).lookup a = some v ↔ m.lookup a = some v ∧ keep a v = true := by
  rw [lookup_retain, Option.filter_eq_some_iff]

theorem mem_retain (m : FiniteMap κ ν) (keep : κ → ν → Bool) (a : κ) :
    a ∈ m.retain keep ↔ ∃ v, m.lookup a = some v ∧ keep a v = true := by
  rw [Finmap.mem_iff]
  exact exists_congr (fun v => lookup_retain_eq_some m keep a v)

/-- The entries whose key is not in `ks`. -/
def eraseAll (ks : List κ) (m : FiniteMap κ ν) : FiniteMap κ ν :=
  m.retain (fun k _ => decide (k ∉ ks))

theorem eraseAll_nil (m : FiniteMap κ ν) : m.eraseAll [] = m := by
  apply Finmap.ext_lookup
  intro a
  unfold eraseAll
  rw [lookup_retain]
  cases m.lookup a <;> simp

theorem eraseAll_cons (m : FiniteMap κ ν) (k : κ) (ks : List κ) :
    m.eraseAll (k :: ks) = FiniteMap.eraseAll ks (m.erase k) := by
  apply Finmap.ext_lookup
  intro a
  unfold eraseAll
  rw [lookup_retain, lookup_retain, lookup_erase]
  by_cases ha : a = k
  · rw [if_pos ha, ha]
    cases m.lookup k <;> simp
  · simp [ha]

theorem eq_empty_iff (m : FiniteMap κ ν) : m = ∅ ↔ ∀ a, a ∉ m := by
  constructor
  · rintro rfl a
    exact Finmap.notMem_empty
  · intro h
    apply Finmap.ext_lookup
    intro a
    rw [Finmap.lookup_eq_none.mpr (h a), Finmap.lookup_empty]

end FiniteMap

/-- `l` lists the elements of `s`, each once, in some order. -/
def Enumerates {α : Type} (l : List α) (s : Finset α) : Prop :=
  (l : Multiset α) = s.val

instance {α : Type} [DecidableEq α] (l : List α) (s : Finset α) : Decidable (Enumerates l s) :=
  inferInstanceAs (Decidable (_ = _))

namespace Enumerates

variable {α : Type} {l : List α} {s : Finset α}

theorem mem_iff (h : Enumerates l s) (a : α) : a ∈ l ↔ a ∈ s := by
  rw [← Finset.mem_val, ← h, Multiset.mem_coe]

theorem nodup (h : Enumerates l s) : l.Nodup := by
  rw [← Multiset.coe_nodup, h]
  exact s.nodup

end Enumerates

/-- Erasing the keys of the entries that pass `p` keeps the others. -/
theorem Enumerates.eraseAll_filter {κ ν : Type} [DecidableEq κ] {m : FiniteMap κ ν} {l : List κ}
    (h : Enumerates l m.keys) (p : ν → Bool) :
    m.eraseAll (l.filter (fun a => (m.lookup a).any p)) = m.retain (fun _ v => !p v) := by
  apply Finmap.ext_lookup
  intro a
  unfold FiniteMap.eraseAll
  rw [FiniteMap.lookup_retain, FiniteMap.lookup_retain]
  cases hentry : m.lookup a with
  | none => rfl
  | some v =>
    have hmem : a ∈ l := by
      rw [h.mem_iff, Finmap.mem_keys]
      exact Finmap.mem_of_lookup_eq_some hentry
    simp only [List.mem_filter, hmem, hentry, Option.any_some, true_and]
    cases hp : p v <;> simp [Option.filter, hp]

/-- Going through the keys of a map in any order gives what its entries give. -/
theorem Enumerates.filterMap_lookup {κ ν β : Type} [DecidableEq κ] {m : FiniteMap κ ν} {l : List κ}
    (h : Enumerates l m.keys) (p : ν → Bool) (g : ν → β) :
    ((l.filterMap (fun a => (m.lookup a).bind (fun v => if p v then some (g v) else none)) :
      List β) : Multiset β) = (m.entries.filter (fun e => p e.2)).map (fun e => g e.2) := by
  obtain ⟨es, hes⟩ := Quot.exists_rep m.entries
  have hlookup : ∀ e ∈ es, m.lookup e.1 = some e.2 := by
    intro e he
    apply Finmap.lookup_eq_some_iff.mpr
    rw [← hes]
    exact he
  have hperm : List.Perm l (es.map (fun e => e.1)) := by
    have hval : (l : Multiset κ) = m.entries.map (fun e => e.1) := h
    rw [← hes] at hval
    exact Multiset.coe_eq_coe.mp hval
  have hentries : ∀ es' : List ((_ : κ) × ν), (∀ e ∈ es', m.lookup e.1 = some e.2) →
      (es'.map (fun e => e.1)).filterMap
          (fun a => (m.lookup a).bind (fun v => if p v then some (g v) else none)) =
        (es'.filter (fun e => p e.2)).map (fun e => g e.2) := by
    intro es'
    induction es' with
    | nil => exact fun _ => rfl
    | cons e es' ih =>
      intro hall
      have hrest := ih (fun e' he' => hall e' (List.mem_cons_of_mem e he'))
      rw [List.map_cons, List.filterMap_cons, hall e List.mem_cons_self, hrest]
      by_cases hp : p e.2 = true
      · simp [hp]
      · simp [hp]
  have hcoe : (m.entries.filter (fun e => p e.2)).map (fun e => g e.2) =
      ((es.filter (fun e => p e.2)).map (fun e => g e.2) : List β) := by
    rw [← hes]
    simp
  rw [hcoe, ← hentries es hlookup]
  exact Multiset.coe_eq_coe.mpr (hperm.filterMap _)

/-- In a loop over distinct elements in which only the turn of `a` can change what `get` reads,
`get` is changed once, by the turn of `a`. -/
theorem get_foldl_once {α β γ : Type} [DecidableEq α] (f : β → α → β) (get : β → γ)
    (turn : γ → γ) (a : α) (hother : ∀ w b, b ≠ a → get (f w b) = get w)
    (hturn : ∀ w, get (f w a) = turn (get w)) {l : List α} (hl : l.Nodup) (w : β) :
    get (l.foldl f w) = if a ∈ l then turn (get w) else get w := by
  induction l generalizing w with
  | nil => simp
  | cons b l ih =>
    obtain ⟨hnot, hl⟩ := List.nodup_cons.mp hl
    rw [List.foldl_cons, ih hl]
    by_cases hb : b = a
    · subst hb
      rw [if_neg hnot, if_pos List.mem_cons_self, hturn]
    · rw [hother w b hb]
      simp [Ne.symm hb]

/-- A choice of iteration order for every finite set of `α`. -/
structure Iteration (α : Type) where
  toList : Finset α → List α
  enumerates : ∀ s, Enumerates (toList s) s

namespace Iteration

/-- Iteration in ascending order. -/
def ascending (α : Type) [LinearOrder α] : Iteration α where
  toList s := Quot.liftOn s.val (List.insertionSort (· ≤ ·)) (by
    intro l l' hperm
    have hperm' : l.Perm l' := hperm
    refine @List.Perm.eq_of_pairwise _ (· ≤ ·) _ _ ?_ ?_ ?_ ?_
    · intro a b _ _ hab hba
      exact le_antisymm hab hba
    · exact List.pairwise_insertionSort _ _
    · exact List.pairwise_insertionSort _ _
    · exact ((List.perm_insertionSort _ l).trans hperm').trans (List.perm_insertionSort _ l').symm)
  enumerates s := by
    obtain ⟨val, hnodup⟩ := s
    induction val using Quot.inductionOn with
    | h l => exact Quot.sound (List.perm_insertionSort _ l)

end Iteration
