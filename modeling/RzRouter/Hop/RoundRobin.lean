import RzRouter.Hop.Pick
import RzRouter.Library.Rounds

/-!
# The share of a connection

Every call of `next_connection` moves the cursor by one, whoever makes it.  Here is how often each
connection of a set is picked in a row of calls, some of the connections being closed.
-/

namespace RzRouter

variable {κ : Type}

/-- What a number of calls of `next_connection` pick one after the other, while the set and the
states of its connections stay as they are. -/
def Hop.picks (connections : List κ) (closed : κ → Bool) : Nat → Nat → List (Option κ)
  | _, 0 => []
  | rr, calls + 1 =>
    let (rr, conn) := Hop.nextConnection connections (fun _ => closed) rr
    conn :: picks connections closed rr calls

namespace ConnectionSet

variable (connections : List κ) (closed : κ → Bool)

/-- What is picked from a cursor on, if it does not overflow. -/
def pickFrom (cursor : Nat) : Option κ :=
  (List.range connections.length).findSome? (fun i =>
    (connections[(cursor + i) % connections.length]?).filter (fun conn => !closed conn))

theorem pick_eq_pickFrom {cursor : Nat} (hfits : cursor + connections.length ≤ usizeCount) :
    pick connections (fun _ => closed) cursor = pickFrom connections closed cursor := by
  have hturns : ∀ turns : List Nat, (∀ i ∈ turns, i < connections.length) →
      turns.findSome? (fun i =>
        (connections[(cursor + i) % usizeCount % connections.length]?).filter
          (fun conn => !closed conn)) =
      turns.findSome? (fun i =>
        (connections[(cursor + i) % connections.length]?).filter (fun conn => !closed conn)) := by
    intro turns
    induction turns with
    | nil => exact fun _ => rfl
    | cons i turns ih =>
      intro hlt
      have hi := hlt i List.mem_cons_self
      rw [List.findSome?_cons, List.findSome?_cons, Nat.mod_eq_of_lt (a := cursor + i) (by omega),
        ih (fun j hj => hlt j (List.mem_cons_of_mem i hj))]
  exact hturns _ (fun i hi => List.mem_range.mp hi)

theorem periodic_pickFrom : Function.Periodic (pickFrom connections closed) connections.length := by
  intro cursor
  unfold pickFrom
  simp only [Nat.add_right_comm cursor connections.length, Nat.add_mod_right]

variable [DecidableEq κ]

/-- How many of the cursors of one round pick the connection. -/
def share (conn : κ) : Nat :=
  Nat.count (fun cursor => pickFrom connections closed cursor = some conn) connections.length

variable {connections closed}

omit [DecidableEq κ] in
theorem pickFrom_some {cursor : Nat} {conn : κ}
    (h : pickFrom connections closed cursor = some conn) : closed conn = false := by
  unfold pickFrom at h
  obtain ⟨i, -, hfilter⟩ := List.exists_of_findSome?_eq_some h
  have hopen := (Option.filter_eq_some_iff.mp hfilter).2
  simpa using hopen

omit [DecidableEq κ] in
/-- An open connection is picked at its own place. -/
theorem pickFrom_of_open {cursor : Nat} {conn : κ} (hcursor : cursor < connections.length)
    (hget : connections[cursor]? = some conn) (hopen : closed conn = false) :
    pickFrom connections closed cursor = some conn := by
  unfold pickFrom
  obtain ⟨n, hn⟩ : ∃ n, connections.length = n + 1 := ⟨connections.length - 1, by omega⟩
  rw [hn, List.range_succ_eq_map, List.findSome?_cons, Nat.add_zero, ← hn,
    Nat.mod_eq_of_lt hcursor, hget]
  simp [Option.filter, hopen]

/-- No open connection starves. -/
theorem share_pos {conn : κ} (hmem : conn ∈ connections) (hopen : closed conn = false) :
    1 ≤ share connections closed conn := by
  obtain ⟨j, hj, hget⟩ := List.getElem_of_mem hmem
  have hpick := pickFrom_of_open hj ((List.getElem?_eq_getElem hj).trans (congrArg some hget)) hopen
  have hcount : Nat.count (fun cursor => pickFrom connections closed cursor = some conn) (j + 1) ≤
      share connections closed conn := Nat.count_monotone _ hj
  rw [Nat.count_succ, if_pos hpick] at hcount
  omega

theorem share_of_closed {conn : κ} (hclosed : closed conn = true) :
    share connections closed conn = 0 := by
  unfold share
  apply Nat.count_of_forall_not
  intro cursor _ hpick
  rw [pickFrom_some hpick] at hclosed
  exact Bool.false_ne_true hclosed

omit [DecidableEq κ] in
/-- The places of a list, one after the other. -/
theorem count_places (test : κ → Bool) (connections : List κ) :
    Nat.count (fun cursor => (connections[cursor]?).any test = true) connections.length =
      connections.countP test := by
  induction connections with
  | nil => rfl
  | cons c connections ih =>
    rw [List.length_cons, Nat.count_succ', List.countP_cons]
    simp only [List.getElem?_cons_succ, List.getElem?_cons_zero, Option.any_some]
    rw [ih]

/-- A connection is picked at its own places and at some of the closed ones. -/
theorem share_le (conn : κ) :
    share connections closed conn ≤ connections.count conn + connections.countP closed := by
  unfold share List.count
  rw [← count_places, ← count_places]
  apply Rounds.count_le_add
  intro cursor hcursor hpick
  have hget : connections[cursor]? = some connections[cursor] := List.getElem?_eq_getElem hcursor
  rw [hget, Option.any_some, Option.any_some]
  cases hclosed : closed connections[cursor] with
  | true => exact Or.inr rfl
  | false =>
    rw [pickFrom_of_open hcursor hget hclosed] at hpick
    exact Or.inl (beq_iff_eq.mpr (Option.some.inj hpick))

end ConnectionSet

namespace Hop

variable [DecidableEq κ]

/-- The picks are those of consecutive cursors. -/
theorem count_picks {connections : List κ} (hne : 0 < connections.length) (closed : κ → Bool)
    (rr calls : Nat) (conn : κ) (hfits : rr + calls + connections.length ≤ usizeCount) :
    (picks connections closed rr calls).count (some conn) =
      Nat.count (fun i => ConnectionSet.pickFrom connections closed (rr + i) = some conn)
        calls := by
  induction calls generalizing rr with
  | zero => rfl
  | succ calls ih =>
    have hpick : ConnectionSet.pick connections (fun _ => closed) rr = _ :=
      ConnectionSet.pick_eq_pickFrom connections closed (by omega)
    have hnext : (rr + 1) % usizeCount = rr + 1 := Nat.mod_eq_of_lt (by omega)
    show (ConnectionSet.pick connections (fun _ => closed) rr ::
      picks connections closed ((rr + 1) % usizeCount) calls).count (some conn) = _
    rw [hpick, hnext, List.count_cons, ih (rr + 1) (by omega), Nat.count_succ']
    simp only [beq_iff_eq, Nat.add_zero, Nat.add_assoc, Nat.add_comm 1]

theorem picks_nil (closed : κ → Bool) (rr calls : Nat) (conn : κ) :
    (picks [] closed rr calls).count (some conn) = 0 := by
  induction calls generalizing rr with
  | zero => rfl
  | succ calls ih =>
    show (none :: picks [] closed ((rr + 1) % usizeCount) calls).count (some conn) = 0
    rw [List.count_cons, ih]
    rfl

/-- Round robin.  In a row of calls, as long as the cursor does not overflow, every connection of
the set is picked as often as its share of a round says, up to one round that is not complete.  An
open connection has a share, a closed one has none, and what closed ones leave goes to others: no
connection has more than its own places in the set and the closed ones. -/
theorem picks_spread (connections : List κ) (closed : κ → Bool) (rr calls : Nat) (conn : κ)
    (hfits : rr + calls + connections.length ≤ usizeCount) :
    ConnectionSet.share connections closed conn * (calls / connections.length) ≤
        (picks connections closed rr calls).count (some conn) ∧
    (picks connections closed rr calls).count (some conn) ≤
        ConnectionSet.share connections closed conn *
          ((calls + connections.length - 1) / connections.length) ∧
    (conn ∈ connections → closed conn = false →
      1 ≤ ConnectionSet.share connections closed conn) ∧
    (closed conn = true → ConnectionSet.share connections closed conn = 0) ∧
    ConnectionSet.share connections closed conn ≤
      connections.count conn + connections.countP closed := by
  have hperiodic : ∀ conn, Function.Periodic
      (fun cursor => ConnectionSet.pickFrom connections closed cursor = some conn)
      connections.length := by
    intro conn cursor
    show (ConnectionSet.pickFrom connections closed (cursor + connections.length) = _) = _
    rw [ConnectionSet.periodic_pickFrom]
  refine ⟨?_, ?_, ConnectionSet.share_pos, ConnectionSet.share_of_closed,
    ConnectionSet.share_le conn⟩
  · rcases Nat.eq_zero_or_pos connections.length with hnil | hne
    · rw [hnil, Nat.div_zero, Nat.mul_zero]
      exact Nat.zero_le _
    · rw [count_picks hne closed rr calls conn hfits]
      exact (Rounds.count_bounds (hperiodic conn) hne rr calls).1
  · rcases Nat.eq_zero_or_pos connections.length with hnil | hne
    · rw [List.length_eq_zero_iff.mp hnil, picks_nil]
      exact Nat.zero_le _
    · rw [count_picks hne closed rr calls conn hfits]
      exact (Rounds.count_bounds (hperiodic conn) hne rr calls).2

/-- The second of three connections is closed: in three rounds the third one is picked six times. -/
theorem picks_spread_closed :
    ConnectionSet.share [0, 1, 2] (fun conn => conn == 1) 2 = 2 ∧
      (picks [0, 1, 2] (fun conn => conn == 1) 5 9).count (some 2) = 6 := by
  have hshare : ConnectionSet.share [0, 1, 2] (fun conn => conn == 1) 2 = 2 := by decide
  obtain ⟨hatLeast, hatMost, -⟩ :=
    picks_spread [0, 1, 2] (fun conn => conn == 1) 5 9 2 (by decide)
  rw [hshare] at hatLeast hatMost
  exact ⟨hshare, Nat.le_antisymm hatMost hatLeast⟩

end Hop

end RzRouter
