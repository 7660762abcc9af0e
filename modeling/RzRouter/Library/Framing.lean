import Mathlib.Data.List.Basic

/-!
# Self-delimiting frames

A set of frames is self-delimiting when no frame is empty and none is a proper prefix of another.
A stream of such frames can then be cut in one way only: a reader that takes one frame after
another off the front of what has arrived gets them in the order in which they were sent.
-/

namespace Framing

variable {α : Type}

/-- The lists with property `P` can be cut off a stream in one way. -/
structure SelfDelimiting (P : List α → Prop) : Prop where
  nonempty : ∀ a, P a → a ≠ []
  unique : ∀ a b r s, P a → P b → a ++ r = b ++ s → a = b

namespace SelfDelimiting

variable {P : List α → Prop} (hP : SelfDelimiting P)

include hP

/-- The frame at the front of a stream of frames is the first that was sent. -/
theorem front_eq {frames : List (List α)} (hframes : ∀ a ∈ frames, P a) {a rest : List α}
    (ha : P a) (hstream : a ++ rest = frames.flatten) :
    ∃ others, frames = a :: others ∧ rest = others.flatten := by
  cases frames with
  | nil =>
    rw [List.flatten_nil] at hstream
    exact absurd (List.append_eq_nil_iff.mp hstream).1 (hP.nonempty a ha)
  | cons b others =>
    rw [List.flatten_cons] at hstream
    have hab := hP.unique a b rest others.flatten ha (hframes b List.mem_cons_self) hstream
    subst hab
    exact ⟨others, rfl, List.append_cancel_left hstream⟩

/-- A reader that has taken `k` frames takes the next one: it is the `k`-th that was sent. -/
theorem take_next {frames : List (List α)} {k : Nat} (hframes : ∀ a ∈ frames, P a)
    {a rest : List α} (ha : P a) (hstream : a ++ rest = (frames.drop k).flatten) :
    frames[k]? = some a ∧ rest = (frames.drop (k + 1)).flatten := by
  obtain ⟨others, hdrop, hrest⟩ :=
    hP.front_eq (fun b hb => hframes b (List.mem_of_mem_drop hb)) ha hstream
  have hget : frames[k]? = some a := by
    rw [← List.head?_drop, hdrop]
    rfl
  have htail : frames.drop (k + 1) = others := by
    rw [← List.tail_drop, hdrop]
    rfl
  exact ⟨hget, by rw [htail, hrest]⟩

end SelfDelimiting

end Framing
