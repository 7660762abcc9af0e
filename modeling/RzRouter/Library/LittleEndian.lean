import Mathlib.Tactic.Ring
import Mathlib.Tactic.Linarith

/-!
# Little-endian byte strings and slices of byte lists

`leBytes k n` writes `n` in `k` bytes, least significant first, and `leNat` reads such bytes back.
`slice` is an in-range subrange, `overwrite` replaces the bytes from a position on.
-/

namespace LittleEndian

/-- The `k` low bytes of `n`, least significant first. -/
def leBytes : Nat → Nat → List UInt8
  | 0, _ => []
  | k + 1, n => UInt8.ofNat (n % 256) :: leBytes k (n / 256)

/-- The number that the bytes write, least significant first. -/
def leNat : List UInt8 → Nat
  | [] => 0
  | b :: bs => b.toNat + 256 * leNat bs

@[simp] theorem length_leBytes (k n : Nat) : (leBytes k n).length = k := by
  induction k generalizing n with
  | zero => rfl
  | succ k ih => rw [leBytes, List.length_cons, ih]

theorem leNat_leBytes (k n : Nat) : leNat (leBytes k n) = n % 256 ^ k := by
  induction k generalizing n with
  | zero => simp [leBytes, leNat, Nat.mod_one]
  | succ k ih =>
    have hbyte : (UInt8.ofNat (n % 256)).toNat = n % 256 := by
      rw [UInt8.toNat_ofNat']
      omega
    rw [leBytes, leNat, ih, hbyte, pow_succ', Nat.mod_mul]

theorem leNat_lt (bs : List UInt8) : leNat bs < 256 ^ bs.length := by
  induction bs with
  | nil => simp [leNat]
  | cons b bs ih =>
    have hb := UInt8.toNat_lt b
    rw [leNat, List.length_cons, pow_succ']
    omega

theorem leBytes_leNat (bs : List UInt8) : leBytes bs.length (leNat bs) = bs := by
  induction bs with
  | nil => rfl
  | cons b bs ih =>
    have hb := UInt8.toNat_lt b
    have hmod : (b.toNat + 256 * leNat bs) % 256 = b.toNat := by omega
    have hdiv : (b.toNat + 256 * leNat bs) / 256 = leNat bs := by omega
    rw [List.length_cons, leNat, leBytes, hmod, hdiv, ih, UInt8.ofNat_toNat]

/-- The bytes of `buf` from `a` up to `b`, both in range. -/
def slice (buf : List UInt8) (a b : Nat) (_ : a ≤ b) (_ : b ≤ buf.length) : List UInt8 :=
  (buf.drop a).take (b - a)

@[simp] theorem length_slice (buf : List UInt8) (a b : Nat) (hab : a ≤ b) (hb : b ≤ buf.length) :
    (slice buf a b hab hb).length = b - a := by
  unfold slice
  rw [List.length_take, List.length_drop]
  omega

/-- A slice only depends on the bytes before its end. -/
theorem slice_append (buf rest : List UInt8) (a b : Nat) (hab : a ≤ b) (hb : b ≤ buf.length)
    (hb' : b ≤ (buf ++ rest).length) :
    slice (buf ++ rest) a b hab hb' = slice buf a b hab hb := by
  unfold slice
  rw [List.drop_append_of_le_length (by omega),
    List.take_append_of_le_length (by rw [List.length_drop]; omega)]

/-- A slice between what stands before and behind it. -/
theorem slice_eq_of_append {buf lead mid tail : List UInt8} {a b : Nat}
    (h : buf = lead ++ (mid ++ tail)) (ha : lead.length = a) (hmid : mid.length = b - a)
    (hab : a ≤ b) (hb : b ≤ buf.length) : slice buf a b hab hb = mid := by
  subst h
  unfold slice
  rw [List.drop_left' ha, List.take_left' hmid]

theorem getElem_eq_of_append {buf lead tail : List UInt8} {b : UInt8} {i : Nat}
    (h : buf = lead ++ (b :: tail)) (hi : lead.length = i) (hlt : i < buf.length) :
    buf[i] = b := by
  subst h hi
  rw [List.getElem_append_right (Nat.le_refl _)]
  simp only [Nat.sub_self, List.getElem_cons_zero]

theorem slice_append_drop (buf : List UInt8) (a b : Nat) (hab : a ≤ b) (hb : b ≤ buf.length) :
    slice buf a b hab hb ++ buf.drop b = buf.drop a := by
  have hdrop : buf.drop b = (buf.drop a).drop (b - a) := by
    rw [List.drop_drop, Nat.add_sub_cancel' hab]
  unfold slice
  rw [hdrop, List.take_append_drop]

/-- Replaces the bytes of `buf` from `pos` on by `bytes`. -/
def overwrite (buf : List UInt8) (pos : Nat) (bytes : List UInt8) : List UInt8 :=
  buf.take pos ++ bytes ++ buf.drop (pos + bytes.length)

theorem length_overwrite (buf : List UInt8) (pos : Nat) (bytes : List UInt8)
    (h : pos + bytes.length ≤ buf.length) : (overwrite buf pos bytes).length = buf.length := by
  unfold overwrite
  simp only [List.length_append, List.length_take, List.length_drop]
  omega

/-- The bytes before and behind what was written are as they were. -/
theorem getElem?_overwrite (buf : List UInt8) (pos i : Nat) (bytes : List UInt8)
    (hpos : pos + bytes.length ≤ buf.length) (h : i < pos ∨ pos + bytes.length ≤ i) :
    (overwrite buf pos bytes)[i]? = buf[i]? := by
  have htake : (buf.take pos).length = pos := List.length_take_of_le (by omega)
  unfold overwrite
  rcases h with hbefore | hbehind
  · rw [List.append_assoc, List.getElem?_append_left (by omega), List.getElem?_take_of_lt hbefore]
  · rw [List.getElem?_append_right (by rw [List.length_append]; omega), List.getElem?_drop,
      List.length_append, htake]
    congr 1
    omega

theorem slice_overwrite (buf : List UInt8) (pos stop : Nat) (bytes : List UInt8)
    (hstop : stop = pos + bytes.length) (hpos : pos ≤ buf.length) (hab : pos ≤ stop)
    (hb : stop ≤ (overwrite buf pos bytes).length) :
    slice (overwrite buf pos bytes) pos stop hab hb = bytes := by
  subst hstop
  have htake : (buf.take pos).length = pos := by
    rw [List.length_take]
    omega
  unfold slice overwrite
  rw [List.append_assoc, List.drop_append_of_le_length (by omega),
    List.drop_of_length_le (by omega), List.nil_append, Nat.add_sub_cancel_left,
    List.take_append_of_le_length (Nat.le_refl _), List.take_length]

theorem overwrite_append (lead mid mid' tail : List UInt8) (h : mid.length = mid'.length) :
    overwrite (lead ++ mid ++ tail) lead.length mid' = lead ++ mid' ++ tail := by
  unfold overwrite
  rw [List.append_assoc lead mid tail, List.take_left, List.drop_append]
  have h1 : lead.drop (lead.length + mid'.length) = [] := List.drop_of_length_le (by omega)
  have h2 : lead.length + mid'.length - lead.length = mid.length := by omega
  rw [h1, h2, List.nil_append, List.drop_left]

/-- Writing twice at one place keeps what was written last. -/
theorem overwrite_overwrite (buf : List UInt8) (pos : Nat) (bytes bytes' : List UInt8)
    (hlen : bytes.length = bytes'.length) (h : pos + bytes.length ≤ buf.length) :
    overwrite (overwrite buf pos bytes) pos bytes' = overwrite buf pos bytes' := by
  have hlead : (buf.take pos).length = pos := by
    rw [List.length_take]
    omega
  have hagain := overwrite_append (buf.take pos) bytes bytes' (buf.drop (pos + bytes.length)) hlen
  rw [hlead] at hagain
  unfold overwrite at hagain ⊢
  rw [hagain, hlen]

end LittleEndian
