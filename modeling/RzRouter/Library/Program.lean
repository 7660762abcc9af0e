import Mathlib.Data.List.TakeWhile

/-!
# Programs and the protocols they follow

A program is a tree: it returns, or it performs an operation and continues with the answer.  A
protocol tracks a phase along a program: it says which operations a phase allows, which answers
may come, and what phase follows.  `Follows` is the weakest precondition of a program with respect
to a protocol; its rules are those of sequencing and consequence.  Where the order of the operations
matters, `Plays` is the set of traces of a program and `Shows` a property of all of them.
-/

namespace Program

/-- Programs over the operations `Op`; operation `o` is answered by a value of `Ret o`. -/
inductive Prog (Op : Type) (Ret : Op → Type) (α : Type)
  | ret (a : α)
  | op (o : Op) (k : Ret o → Prog Op Ret α)

variable {Op : Type} {Ret : Op → Type} {α β φ : Type}

namespace Prog

/-- Runs `p`, then `f` on its result. -/
def bind : Prog Op Ret α → (α → Prog Op Ret β) → Prog Op Ret β
  | ret a, f => f a
  | op o k, f => op o (fun r => bind (k r) f)

instance : Monad (Prog Op Ret) where
  pure := ret
  bind := bind

end Prog

/-- The program that performs one operation and returns its answer. -/
def perform (o : Op) : Prog Op Ret (Ret o) := .op o .ret

/-- Runs a program alone on a state, each operation answered by `handle`. -/
def Prog.exec {σ : Type} (handle : σ → (o : Op) → σ × Ret o) : Prog Op Ret α → σ → σ × α
  | .ret a, s => (s, a)
  | .op o k, s => (k (handle s o).2).exec handle (handle s o).1

/-- The rules of an interface: allowed operations, possible answers, and the phase after one. -/
structure Protocol (Op : Type) (Ret : Op → Type) (φ : Type) where
  allowed : φ → Op → Prop
  answers : φ → (o : Op) → Ret o → Prop
  next : φ → (o : Op) → Ret o → φ

/-- From phase `ph` the program performs allowed operations only, whatever is answered, and it
returns with `post`. -/
def Follows (P : Protocol Op Ret φ) (post : φ → α → Prop) : φ → Prog Op Ret α → Prop
  | ph, .ret a => post ph a
  | ph, .op o k => P.allowed ph o ∧ ∀ r, P.answers ph o r → Follows P post (P.next ph o r) (k r)

section Exec

variable {σ : Type} (handle : σ → (o : Op) → σ × Ret o) (s : σ)

@[simp] theorem exec_pure (a : α) : (pure a : Prog Op Ret α).exec handle s = (s, a) := rfl

@[simp] theorem exec_perform (o : Op) :
    (perform o : Prog Op Ret (Ret o)).exec handle s = handle s o :=
  rfl

@[simp] theorem exec_bind (p : Prog Op Ret α) (f : α → Prog Op Ret β) :
    (p >>= f).exec handle s = (f (p.exec handle s).2).exec handle (p.exec handle s).1 := by
  show (p.bind f).exec handle s = _
  induction p generalizing s with
  | ret a => rfl
  | op o k ih => exact ih (handle s o).2 (handle s o).1

end Exec

section Rules

variable {P : Protocol Op Ret φ}

theorem follows_mono {post post' : φ → α → Prop} (hpost : ∀ ph a, post ph a → post' ph a)
    {ph : φ} {p : Prog Op Ret α} (h : Follows P post ph p) : Follows P post' ph p := by
  induction p generalizing ph with
  | ret a => exact hpost ph a h
  | op o k ih => exact ⟨h.1, fun r hr => ih r (h.2 r hr)⟩

/-- Sequencing: what holds when the first part returns is what the rest may rely on. -/
theorem follows_bind {mid : φ → α → Prop} {post : φ → β → Prop} {ph : φ} {p : Prog Op Ret α}
    {f : α → Prog Op Ret β} (hp : Follows P mid ph p)
    (hf : ∀ ph' a, mid ph' a → Follows P post ph' (f a)) : Follows P post ph (p >>= f) := by
  change Follows P post ph (p.bind f)
  induction p generalizing ph with
  | ret a => exact hf ph a hp
  | op o k ih => exact ⟨hp.1, fun r hr => ih r (hp.2 r hr)⟩

theorem follows_perform_bind {o : Op} {post : φ → β → Prop} {ph : φ} {f : Ret o → Prog Op Ret β}
    (hallowed : P.allowed ph o)
    (hf : ∀ r, P.answers ph o r → Follows P post (P.next ph o r) (f r)) :
    Follows P post ph (perform o >>= f) := ⟨hallowed, hf⟩

end Rules

/-! ## Traces -/

/-- An operation that was performed, what the surroundings were then, and the answer. -/
structure Played (W : Type) (Op : Type) (Ret : Op → Type) where
  world : W
  op : Op
  answer : Ret op

/-- The program can perform the operations of the trace in order and return `a`, the surroundings
being different at each of them. -/
inductive Plays {W : Type} (answers : W → (o : Op) → Ret o → Prop) :
    Prog Op Ret α → List (Played W Op Ret) → α → Prop
  | ret (a : α) : Plays answers (.ret a) [] a
  | op {w : W} {o : Op} {r : Ret o} {k : Ret o → Prog Op Ret α} {tr : List (Played W Op Ret)}
      {a : α} (hr : answers w o r) (hk : Plays answers (k r) tr a) :
      Plays answers (.op o k) (⟨w, o, r⟩ :: tr) a

/-- Every trace of the program, with what it returns, has the property `post`. -/
def Shows {W : Type} (answers : W → (o : Op) → Ret o → Prop)
    (post : List (Played W Op Ret) → α → Prop) (p : Prog Op Ret α) : Prop :=
  ∀ tr a, Plays answers p tr a → post tr a

section Shows

variable {W : Type} {answers : W → (o : Op) → Ret o → Prop}

theorem shows_pure {post : List (Played W Op Ret) → α → Prop} {a : α} (h : post [] a) :
    Shows answers post (pure a) := by
  intro tr b hplays
  change Plays answers (.ret a) tr b at hplays
  cases hplays
  exact h

theorem shows_mono {post post' : List (Played W Op Ret) → α → Prop} {p : Prog Op Ret α}
    (h : Shows answers post p) (hpost : ∀ tr a, post tr a → post' tr a) :
    Shows answers post' p :=
  fun tr a hplays => hpost tr a (h tr a hplays)

theorem shows_and {post post' : List (Played W Op Ret) → α → Prop} {p : Prog Op Ret α}
    (h : Shows answers post p) (h' : Shows answers post' p) :
    Shows answers (fun tr a => post tr a ∧ post' tr a) p :=
  fun tr a hplays => ⟨h tr a hplays, h' tr a hplays⟩

theorem shows_perform_bind {post : List (Played W Op Ret) → β → Prop} {o : Op}
    {f : Ret o → Prog Op Ret β}
    (h : ∀ w r, answers w o r → Shows answers (fun tr b => post (⟨w, o, r⟩ :: tr) b) (f r)) :
    Shows answers post (perform o >>= f) := by
  intro tr b hplays
  change Plays answers (.op o f) tr b at hplays
  cases hplays with
  | op hr hk => exact h _ _ hr _ _ hk

theorem plays_bind {p : Prog Op Ret α} {f : α → Prog Op Ret β} {tr : List (Played W Op Ret)}
    {b : β} (h : Plays answers (p >>= f) tr b) :
    ∃ tr₁ a tr₂, tr = tr₁ ++ tr₂ ∧ Plays answers p tr₁ a ∧ Plays answers (f a) tr₂ b := by
  change Plays answers (p.bind f) tr b at h
  induction p generalizing tr with
  | ret a => exact ⟨[], a, tr, rfl, Plays.ret a, h⟩
  | op o k ih =>
    change Plays answers (.op o (fun r => (k r).bind f)) tr b at h
    cases h with
    | op hr hk =>
      obtain ⟨tr₁, a, tr₂, htr, hp, hf⟩ := ih _ hk
      exact ⟨_ :: tr₁, a, tr₂, congrArg _ htr, Plays.op hr hp, hf⟩

/-- Sequencing: the trace of the first part comes before that of the second. -/
theorem shows_bind {mid : List (Played W Op Ret) → α → Prop}
    {post : List (Played W Op Ret) → β → Prop} {p : Prog Op Ret α} {f : α → Prog Op Ret β}
    (hp : Shows answers mid p)
    (hf : ∀ tr a, mid tr a → Shows answers (fun tr' b => post (tr ++ tr') b) (f a)) :
    Shows answers post (p >>= f) := by
  intro tr b hplays
  obtain ⟨tr₁, a, tr₂, rfl, hfirst, hrest⟩ := plays_bind hplays
  exact hf tr₁ a (hp tr₁ a hfirst) tr₂ b hrest

end Shows

/-! ## Episodes -/

section Episodes

variable {σ : Type} (starts : σ → Bool)

/-- The elements that start an episode, each with what follows it up to the next one. -/
def episodes : List σ → List (σ × List σ)
  | [] => []
  | a :: as =>
    if starts a then (a, as.takeWhile (fun b => !starts b)) :: episodes as else episodes as

theorem episodes_eq_nil {as : List σ} (h : ∀ a ∈ as, starts a = false) :
    episodes starts as = [] := by
  induction as with
  | nil => rfl
  | cons a as ih =>
    unfold episodes
    rw [if_neg (by simp [h a List.mem_cons_self])]
    exact ih (fun b hb => h b (List.mem_cons_of_mem a hb))

/-- An episode ends where the next one starts. -/
theorem episodes_append {as bs : List σ} (h : bs.takeWhile (fun b => !starts b) = []) :
    episodes starts (as ++ bs) = episodes starts as ++ episodes starts bs := by
  have htake : ∀ cs : List σ, (cs ++ bs).takeWhile (fun b => !starts b) =
      cs.takeWhile (fun b => !starts b) := by
    intro cs
    rw [List.takeWhile_append, h]
    split
    · rename_i hall
      rw [List.append_nil, (List.takeWhile_prefix _).eq_of_length hall]
    · rfl
  induction as with
  | nil => rfl
  | cons a as ih =>
    simp only [List.cons_append, episodes]
    rw [ih, htake]
    split
    · rfl
    · rfl

theorem episodes_cons {a : σ} {as : List σ} (ha : starts a = true)
    (has : ∀ b ∈ as, starts b = false) : episodes starts (a :: as) = [(a, as)] := by
  have htake : as.takeWhile (fun b => !starts b) = as := by
    apply List.takeWhile_eq_self_iff.mpr
    intro b hb
    rw [has b hb]
    rfl
  unfold episodes
  rw [if_pos ha, episodes_eq_nil starts has, htake]

end Episodes

end Program
