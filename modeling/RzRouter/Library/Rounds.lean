import Mathlib.Data.Nat.Periodic

/-!
# Counting over rounds

How often a periodic condition holds over any stretch of consecutive numbers: as often as in the
rounds that fit into the stretch, and not more often than in the rounds that cover it.
-/

namespace Rounds

open Function

variable {p : Nat → Prop} [DecidablePred p] {n : Nat}

/-- A round may start anywhere. -/
theorem count_round (hp : Periodic p n) (a : Nat) :
    Nat.count (fun i => p (a + i)) n = Nat.count p n := by
  have hleft : Nat.count p (a + n) = Nat.count p a + Nat.count (fun i => p (a + i)) n :=
    Nat.count_add p a n
  have hright : Nat.count p (a + n) = Nat.count p a + Nat.count p n := by
    have hshift : ∀ i, p (n + i) ↔ p i := by
      intro i
      rw [Nat.add_comm n i, hp i]
    rw [Nat.add_comm a n, Nat.count_add, Nat.add_comm]
    simp only [hshift]
  omega

theorem count_rounds (hp : Periodic p n) (a q : Nat) :
    Nat.count (fun i => p (a + i)) (n * q) = Nat.count p n * q := by
  induction q with
  | zero => simp
  | succ q ih =>
    have hround := count_round hp (a + n * q)
    rw [Nat.mul_succ, Nat.count_add, ih, Nat.mul_succ]
    simp only [← Nat.add_assoc]
    rw [hround]

theorem count_le_add {q r : Nat → Prop} [DecidablePred q] [DecidablePred r]
    (h : ∀ i < n, p i → q i ∨ r i) : Nat.count p n ≤ Nat.count q n + Nat.count r n := by
  induction n with
  | zero => simp
  | succ n ih =>
    have hbefore := ih (fun i hi => h i (by omega))
    have hlast := h n (Nat.lt_succ_self n)
    simp only [Nat.count_succ]
    by_cases hp : p n
    · rcases hlast hp with hq | hr
      · rw [if_pos hp, if_pos hq]
        omega
      · rw [if_pos hp, if_pos hr]
        omega
    · rw [if_neg hp]
      omega

/-- The rounds that fit, and those that cover the stretch. -/
theorem count_bounds (hp : Periodic p n) (hn : 0 < n) (a k : Nat) :
    Nat.count p n * (k / n) ≤ Nat.count (fun i => p (a + i)) k ∧
      Nat.count (fun i => p (a + i)) k ≤ Nat.count p n * ((k + n - 1) / n) := by
  constructor
  · rw [← count_rounds hp a]
    exact Nat.count_monotone _ (Nat.mul_div_le k n)
  · rw [← count_rounds hp a]
    apply Nat.count_monotone
    have hmod := Nat.mod_lt (k + n - 1) hn
    have hdiv := Nat.mod_add_div (k + n - 1) n
    omega

end Rounds
