import Mathlib.Algebra.Order.Ring.Nat
import Mathlib.Data.List.Basic
import RzRouter.HopManager

/-!
# Picking a connection (`hop.rs`)

`pick` looks at the connections of a set one after the other, and any of them can be closed in the
meantime: what `is_closed` answers may depend on the turn of the loop.
-/

namespace RzRouter

/-- The number of `usize` values. -/
def usizeCount : Nat := 2 ^ 64

variable {κ : Type}

/-- `ConnectionSet::pick`; `isClosed i` is what `is_closed` answers in turn `i`. -/
def ConnectionSet.pick (connections : List κ) (isClosed : Nat → κ → Bool) (cursor : Nat) :
    Option κ :=
  (List.range connections.length).findSome? (fun i =>
    -- the index is always in range
    (connections[(cursor + i) % usizeCount % connections.length]?).filter
      (fun conn => !isClosed i conn))

/-- `Hop::next_connection`, for the set that it loads: the cursor afterwards, and the connection. -/
def Hop.nextConnection (connections : List κ) (isClosed : Nat → κ → Bool) (rr : Nat) :
    Nat × Option κ :=
  ((rr + 1) % usizeCount, ConnectionSet.pick connections isClosed rr)

namespace ConnectionSet

/-- Without overflow every place of the set has its turn. -/
theorem exists_turn {n cursor j : Nat} (hfits : cursor + n ≤ usizeCount) (hj : j < n) :
    ∃ i < n, (cursor + i) % usizeCount % n = j := by
  have hn : 0 < n := Nat.lt_of_le_of_lt (Nat.zero_le j) hj
  have hcursor : cursor % n < n := Nat.mod_lt _ hn
  refine ⟨(j + (n - cursor % n)) % n, Nat.mod_lt _ hn, ?_⟩
  have hi : (j + (n - cursor % n)) % n < n := Nat.mod_lt _ hn
  have hsum : cursor + (j + (n - cursor % n)) = j + n + n * (cursor / n) := by
    have hdiv := Nat.mod_add_div cursor n
    omega
  have hnowrap : (cursor + (j + (n - cursor % n)) % n) % usizeCount =
      cursor + (j + (n - cursor % n)) % n := Nat.mod_eq_of_lt (by omega)
  rw [hnowrap, Nat.add_mod_mod, hsum, Nat.add_mul_mod_self_left, Nat.add_mod_right,
    Nat.mod_eq_of_lt hj]

variable {connections : List κ} {isClosed : Nat → κ → Bool} {cursor : Nat}

/-- Nothing is picked exactly if every connection is closed in its turn. -/
theorem pick_eq_none :
    pick connections isClosed cursor = none ↔
      ∀ i < connections.length, ∀ conn,
        connections[(cursor + i) % usizeCount % connections.length]? = some conn →
          isClosed i conn = true := by
  unfold pick
  rw [List.findSome?_eq_none_iff]
  constructor
  · intro h i hi conn hconn
    have hnone := h i (List.mem_range.mpr hi)
    rw [hconn] at hnone
    simpa using hnone
  · intro h i hi
    simp only [Option.filter_eq_none_iff]
    intro conn hconn
    simp [h i (List.mem_range.mp hi) conn hconn]

/-- With the states of the connections as they are, nothing is picked exactly if all are closed. -/
theorem pick_eq_none_iff (closed : κ → Bool) (hfits : cursor + connections.length ≤ usizeCount) :
    pick connections (fun _ => closed) cursor = none ↔
      ∀ conn ∈ connections, closed conn = true := by
  rw [pick_eq_none]
  constructor
  · intro h conn hconn
    obtain ⟨j, hj, hget⟩ := List.getElem_of_mem hconn
    obtain ⟨i, hi, hidx⟩ := exists_turn hfits hj
    apply h i hi conn
    rw [hidx, List.getElem?_eq_getElem hj, hget]
  · intro h i _ conn hconn
    exact h conn (List.mem_of_getElem? hconn)

/-- A connection stays closed. -/
def StaysClosed (isClosed : Nat → κ → Bool) : Prop :=
  ∀ i conn, isClosed i conn = true → isClosed (i + 1) conn = true

theorem closed_of_le (hstays : StaysClosed isClosed) {i j : Nat} (hij : i ≤ j) {conn : κ}
    (h : isClosed i conn = true) : isClosed j conn = true := by
  induction hij with
  | refl => exact h
  | step _ ih => exact hstays _ conn ih

/-- When nothing is picked, all connections of the set are closed by the end. -/
theorem closed_of_pick_eq_none (hstays : StaysClosed isClosed)
    (hfits : cursor + connections.length ≤ usizeCount)
    (h : pick connections isClosed cursor = none) :
    ∀ conn ∈ connections, isClosed connections.length conn = true := by
  intro conn hconn
  obtain ⟨j, hj, hget⟩ := List.getElem_of_mem hconn
  obtain ⟨i, hi, hidx⟩ := exists_turn hfits hj
  apply closed_of_le hstays (Nat.le_of_lt hi)
  apply pick_eq_none.mp h i hi conn
  rw [hidx, List.getElem?_eq_getElem hj, hget]

/-- What is picked is a connection of the set that was open in its turn. -/
theorem open_of_pick {conn : κ} (h : pick connections isClosed cursor = some conn) :
    conn ∈ connections ∧ ∃ i < connections.length, isClosed i conn = false := by
  unfold pick at h
  obtain ⟨i, hi, hfilter⟩ := List.exists_of_findSome?_eq_some h
  obtain ⟨hget, hopen⟩ := Option.filter_eq_some_iff.mp hfilter
  refine ⟨List.mem_of_getElem? hget, i, List.mem_range.mp hi, ?_⟩
  simpa using hopen

end ConnectionSet

end RzRouter
