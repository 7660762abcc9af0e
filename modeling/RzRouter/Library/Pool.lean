import Mathlib.Algebra.BigOperators.Group.List.Basic

/-!
# Pools of tasks

A pool is a list of tasks to which tasks are added and in which one task steps at a time.  What the
tasks of a pool hold together changes by what the one task changes.
-/

namespace Pool

variable {τ M : Type} [AddCommMonoid M]

/-- What the tasks hold together. -/
def total (f : τ → M) (pool : List τ) : M := (pool.map f).sum

@[simp] theorem total_nil (f : τ → M) : total f [] = 0 := rfl

@[simp] theorem total_cons (f : τ → M) (t : τ) (pool : List τ) :
    total f (t :: pool) = f t + total f pool := by
  unfold total
  rw [List.map_cons, List.sum_cons]

@[simp] theorem total_append (f : τ → M) (pool pool' : List τ) :
    total f (pool ++ pool') = total f pool + total f pool' := by
  unfold total
  rw [List.map_append, List.sum_append]

/-- One task steps. -/
theorem total_set (f : τ → M) {pool : List τ} {i : Nat} {t : τ} (ht : pool[i]? = some t) (t' : τ) :
    total f (pool.set i t') + f t = total f pool + f t' := by
  induction pool generalizing i with
  | nil => cases ht
  | cons u pool ih =>
    cases i with
    | zero =>
      cases ht
      rw [List.set_cons_zero, total_cons, total_cons, add_right_comm, add_comm (f t')]
      exact add_right_comm _ _ _
    | succ i =>
      rw [List.getElem?_cons_succ] at ht
      rw [List.set_cons_succ, total_cons, total_cons, add_assoc, ih ht, add_assoc]

theorem total_add (f g : τ → M) (pool : List τ) :
    total (fun t => f t + g t) pool = total f pool + total g pool := by
  unfold total
  exact List.sum_map_add

theorem total_zero (pool : List τ) : total (fun _ => (0 : M)) pool = 0 := by
  induction pool with
  | nil => rfl
  | cons t pool ih => rw [total_cons, ih, zero_add]

theorem total_one (pool : List τ) : total (fun _ => 1) pool = pool.length := by
  induction pool with
  | nil => rfl
  | cons t pool ih => rw [total_cons, ih, List.length_cons, Nat.add_comm]

theorem exists_of_total_ne_zero {f : τ → M} {pool : List τ} (h : total f pool ≠ 0) :
    ∃ t ∈ pool, f t ≠ 0 := by
  by_contra hnone
  apply h
  unfold total
  apply List.sum_eq_zero
  intro x hx
  obtain ⟨t, ht, rfl⟩ := List.mem_map.mp hx
  by_contra hne
  exact hnone ⟨t, ht, hne⟩

end Pool
