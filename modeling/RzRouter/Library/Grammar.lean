import Mathlib.Data.List.Basic

/-!
# Parsers and what they read

A parser takes a value off the front of a list of symbols, or rejects it.  `Reads p a enc` says
that `p` takes `a` off every list that begins with `enc`, and leaves the rest; its rules follow the
combinators, so that an encoder and a parser of the same shape are matched step by step.
-/

namespace Grammar

/-- Takes a value off the front of a list of symbols, or rejects the list. -/
abbrev Parser (σ α : Type) := StateT (List σ) Option α

variable {σ α β : Type}

/-- The next symbol. -/
def item : Parser σ σ
  | [] => none
  | a :: rest => some (a, rest)

/-- The next `n` symbols. -/
def take (n : Nat) : Parser σ (List σ) := fun s =>
  if n ≤ s.length then some (s.take n, s.drop n) else none

/-- The next symbol, which must be `a`. -/
def expect [DecidableEq σ] (a : σ) : Parser σ Unit := do
  let b ← item
  if b = a then pure () else failure

/-- The values of `n` runs of `p`. -/
def count (p : Parser σ α) : Nat → Parser σ (List α)
  | 0 => pure []
  | n + 1 => do
    let a ← p
    let as ← count p n
    pure (a :: as)

/-- The value that `p` takes off a whole list. -/
def whole (p : Parser σ α) (s : List σ) : Option α :=
  match p.run s with
  | some (a, []) => some a
  | _ => none

/-- The next `n` symbols, which `p` takes as a whole. -/
def exactly (n : Nat) (p : Parser σ α) : Parser σ α := do
  let s ← take n
  StateT.lift (whole p s)

/-- `p` takes `a` off every list that begins with `enc`. -/
def Reads (p : Parser σ α) (a : α) (enc : List σ) : Prop :=
  ∀ rest, p.run (enc ++ rest) = some (a, rest)

/-! ## Rules -/

theorem reads_pure (a : α) : Reads (pure a : Parser σ α) a [] := fun _ => rfl

/-- What was read first is out of the way. -/
theorem Reads.run_bind {p : Parser σ α} {a : α} {enc : List σ} (h : Reads p a enc)
    (f : α → Parser σ β) (rest : List σ) : (p >>= f).run (enc ++ rest) = (f a).run rest := by
  rw [StateT.run_bind, h rest]
  rfl

theorem Reads.bind {p : Parser σ α} {f : α → Parser σ β} {a : α} {b : β} {enc enc' : List σ}
    (hp : Reads p a enc) (hf : Reads (f a) b enc') : Reads (p >>= f) b (enc ++ enc') := by
  intro rest
  rw [List.append_assoc, hp.run_bind, hf rest]

theorem Reads.map {p : Parser σ α} {a : α} {enc : List σ} (h : Reads p a enc) (f : α → β) :
    Reads (p >>= fun a => pure (f a)) (f a) enc := by
  have hbind := h.bind (f := fun a => pure (f a)) (reads_pure (f a))
  rwa [List.append_nil] at hbind

theorem reads_item (a : σ) : Reads item a [a] := fun _ => rfl

theorem reads_expect [DecidableEq σ] (a : σ) : Reads (expect a) () [a] := by
  have hpure : Reads (if a = a then pure () else failure : Parser σ Unit) () [] := by
    rw [if_pos rfl]
    exact reads_pure ()
  exact (reads_item a).bind hpure

theorem reads_take {enc : List σ} {n : Nat} (h : enc.length = n) : Reads (take n) enc enc := by
  intro rest
  subst h
  have hle : enc.length ≤ (enc ++ rest).length := by
    rw [List.length_append]
    exact Nat.le_add_right _ _
  change (if enc.length ≤ (enc ++ rest).length then _ else _) = _
  rw [if_pos hle, List.take_left, List.drop_left]

/-- A list of encoded values, one after another. -/
theorem reads_count {p : Parser σ α} {enc : α → List σ} {as : List α}
    (h : ∀ a ∈ as, Reads p a (enc a)) : Reads (count p as.length) as (as.flatMap enc) := by
  induction as with
  | nil => exact reads_pure []
  | cons a as ih =>
    have htail := ih (fun b hb => h b (List.mem_cons_of_mem a hb))
    exact (h a List.mem_cons_self).bind (htail.map (fun as => a :: as))

theorem run_bind_eq_some {p : Parser σ α} {f : α → Parser σ β} {s rest : List σ} {b : β}
    (h : (p >>= f).run s = some (b, rest)) :
    ∃ a s', p.run s = some (a, s') ∧ (f a).run s' = some (b, rest) := by
  rw [StateT.run_bind] at h
  obtain ⟨⟨a, s'⟩, hp, hf⟩ := Option.bind_eq_some_iff.mp h
  exact ⟨a, s', hp, hf⟩

theorem length_of_take {n : Nat} {s enc rest : List σ}
    (h : (take n).run s = some (enc, rest)) : enc.length = n := by
  by_cases hle : n ≤ s.length
  · change (if n ≤ s.length then some (s.take n, s.drop n) else none) = some (enc, rest) at h
    rw [if_pos hle] at h
    obtain rfl : s.take n = enc := congrArg Prod.fst (Option.some.inj h)
    exact List.length_take_of_le hle
  · change (if n ≤ s.length then some (s.take n, s.drop n) else none) = some (enc, rest) at h
    rw [if_neg hle] at h
    cases h

/-- `count` returns as many values as asked for. -/
theorem length_of_count {p : Parser σ α} {n : Nat} {s rest : List σ} {as : List α}
    (h : (count p n).run s = some (as, rest)) : as.length = n := by
  induction n generalizing s as rest with
  | zero =>
    obtain rfl : [] = as := congrArg Prod.fst (Option.some.inj h)
    rfl
  | succ n ih =>
    obtain ⟨a, s', -, h⟩ := run_bind_eq_some h
    obtain ⟨as', s'', hcount, h⟩ := run_bind_eq_some h
    obtain rfl : a :: as' = as := congrArg Prod.fst (Option.some.inj h)
    rw [List.length_cons, ih hcount]

theorem Reads.whole_eq {p : Parser σ α} {a : α} {enc : List σ} (h : Reads p a enc) :
    whole p enc = some a := by
  have hrun := h []
  rw [List.append_nil] at hrun
  unfold whole
  rw [hrun]

theorem whole_eq_some {p : Parser σ α} {s : List σ} {a : α} (h : whole p s = some a) :
    p.run s = some (a, []) := by
  unfold whole at h
  split at h
  · rename_i hrun
    rw [hrun, Option.some.inj h]
  · cases h

/-- Symbols behind what was read make the list too long. -/
theorem Reads.whole_eq_none {p : Parser σ α} {a : α} {enc rest : List σ} (h : Reads p a enc)
    (hrest : rest ≠ []) : whole p (enc ++ rest) = none := by
  unfold whole
  rw [h rest]
  cases rest with
  | nil => exact absurd rfl hrest
  | cons b rest => rfl

theorem reads_exactly {p : Parser σ α} {a : α} {enc : List σ} {n : Nat} (hn : enc.length = n)
    (h : whole p enc = some a) : Reads (exactly n p) a enc := by
  have hlift : Reads (StateT.lift (whole p enc) : Parser σ α) a [] := by
    intro rest
    rw [h]
    rfl
  have hbind := (reads_take hn).bind (f := fun s => StateT.lift (whole p s)) hlift
  rwa [List.append_nil] at hbind

/-- A part that `p` does not take as a whole is rejected. -/
theorem run_exactly_eq_none {p : Parser σ α} {enc : List σ} {n : Nat} (hn : enc.length = n)
    (h : whole p enc = none) (rest : List σ) : (exactly n p).run (enc ++ rest) = none := by
  unfold exactly
  rw [(reads_take hn).run_bind, h]
  rfl

end Grammar
