import Mathlib.Data.List.Basic

/-!
# Places in a list

The entries of a list that pass a test are found again by how many of them stand before.  Two lists
that agree on their tests place by place have the same counts, so a place in the one is found from
a place in the other.
-/

namespace Places

variable {α β : Type}

/-- What is filtered out of a list has a place in the list. -/
theorem exists_place {p : α → Bool} {l : List α} {j : Nat} {a : α} (h : (l.filter p)[j]? = some a) :
    ∃ k, l[k]? = some a ∧ p a = true ∧ (l.take k).countP p = j := by
  induction l generalizing j with
  | nil => cases h
  | cons b l ih =>
    by_cases hb : p b = true
    · rw [List.filter_cons_of_pos hb] at h
      cases j with
      | zero =>
        cases h
        exact ⟨0, rfl, hb, rfl⟩
      | succ j =>
        obtain ⟨k, hk, ha, hcount⟩ := ih h
        refine ⟨k + 1, hk, ha, ?_⟩
        rw [List.take_succ_cons, List.countP_cons_of_pos hb, hcount]
    · rw [List.filter_cons_of_neg hb] at h
      obtain ⟨k, hk, ha, hcount⟩ := ih h
      refine ⟨k + 1, hk, ha, ?_⟩
      rw [List.take_succ_cons, List.countP_cons_of_neg hb, hcount]

/-- Later places have more before them. -/
theorem count_lt_of_lt {p : α → Bool} {l : List α} {k k' : Nat} {a : α} (hk : l[k]? = some a)
    (ha : p a = true) (hlt : k < k') : (l.take k).countP p < (l.take k').countP p := by
  have hnext : (l.take (k + 1)).countP p = (l.take k).countP p + 1 := by
    rw [List.take_add_one, hk, List.countP_append]
    simp [ha]
  have hmore : (l.take (k + 1)).countP p ≤ (l.take k').countP p :=
    (List.take_sublist_take_left hlt).countP_le
  omega

theorem place_of_count {p : α → Bool} {l : List α} {k k' : Nat} {a a' : α}
    (hk : l[k]? = some a) (hk' : l[k']? = some a') (ha : p a = true) (ha' : p a' = true)
    (hcount : (l.take k).countP p = (l.take k').countP p) : k = k' := by
  rcases Nat.lt_trichotomy k k' with hlt | heq | hlt
  · have h := count_lt_of_lt hk ha hlt
    omega
  · exact heq
  · have h := count_lt_of_lt hk' ha' hlt
    omega

/-- Lists that agree on a test have the same counts. -/
theorem count_of_agree {p : α → Bool} {q : β → Bool} {l : List α} {l' : List β} {k : Nat}
    (h : ∀ i < k, (l[i]?).map p = (l'[i]?).map q) :
    (l.take k).countP p = (l'.take k).countP q := by
  have hmap : (l.take k).map p = (l'.take k).map q := by
    apply List.ext_getElem?
    intro i
    rw [List.getElem?_map, List.getElem?_map, List.getElem?_take, List.getElem?_take]
    split
    · rename_i hi
      exact h i hi
    · rfl
  have hcount := congrArg (List.countP id) hmap
  rw [List.countP_map, List.countP_map] at hcount
  exact hcount

end Places
