import Mathlib.Data.List.DropRight
import Mathlib.Data.List.Infix

/-!
# String tests on characters

The prefix, suffix, substring and split operations of a string, read on its list of characters,
and the cancellation facts used to tell formatted keys apart.
-/

namespace Text

/-- `s` starts with `p`. -/
def startsWith (s p : String) : Bool := p.toList.isPrefixOf s.toList

/-- `s` ends with `p`. -/
def endsWith (s p : String) : Bool := p.toList.isSuffixOf s.toList

/-- `p` occurs in `s`. -/
def contains (s p : String) : Bool := decide (p.toList <:+: s.toList)

/-- The parts of `s` between occurrences of `c`, empty parts included. -/
def split (s : String) (c : Char) : List String := (s.toList.splitOn c).map String.ofList

theorem startsWith_iff (s p : String) : startsWith s p = true ↔ ∃ t, s = p ++ t := by
  unfold startsWith
  rw [List.isPrefixOf_iff_prefix]
  constructor
  · rintro ⟨t, ht⟩
    refine ⟨String.ofList t, ?_⟩
    rw [← String.toList_inj, String.toList_append, String.toList_ofList, ht]
  · rintro ⟨t, rfl⟩
    rw [String.toList_append]
    exact List.prefix_append _ _

theorem endsWith_iff (s p : String) : endsWith s p = true ↔ ∃ t, s = t ++ p := by
  unfold endsWith
  rw [List.isSuffixOf_iff_suffix]
  constructor
  · rintro ⟨t, ht⟩
    refine ⟨String.ofList t, ?_⟩
    rw [← String.toList_inj, String.toList_append, String.toList_ofList, ht]
  · rintro ⟨t, rfl⟩
    rw [String.toList_append]
    exact List.suffix_append _ _

/-- The first part ends at the first occurrence of the separator. -/
theorem split_of_toList {s : String} {c : Char} {head rest : List Char}
    (hs : s.toList = head ++ c :: rest) (hhead : c ∉ head) :
    split s c = String.ofList head :: split (String.ofList rest) c := by
  unfold split
  rw [hs, List.splitOn_append_cons_self_of_not_mem hhead, String.toList_ofList, List.map_cons]

theorem append_right_cancel_iff (s t p : String) : s ++ p = t ++ p ↔ s = t := by
  rw [← String.toList_inj, String.toList_append, String.toList_append, List.append_cancel_right_eq,
    String.toList_inj]

theorem append_left_cancel_iff (s t p : String) : p ++ s = p ++ t ↔ s = t := by
  rw [← String.toList_inj, String.toList_append, String.toList_append, List.append_cancel_left_eq,
    String.toList_inj]

/-- A key formatted as `lead ++ x ++ tail` determines `x`. -/
theorem format_inj (lead tail x y : String) : lead ++ x ++ tail = lead ++ y ++ tail ↔ x = y := by
  rw [append_right_cancel_iff, append_left_cancel_iff]

/-- Keys with tails of which neither ends with the other differ. -/
theorem append_ne_of_tails (s t p q : String)
    (hpq : endsWith p q = false) (hqp : endsWith q p = false) : s ++ p ≠ t ++ q := by
  intro h
  have hp : p.toList <:+ (s ++ p).toList := by
    rw [String.toList_append]
    exact List.suffix_append _ _
  have hq : q.toList <:+ (s ++ p).toList := by
    rw [h, String.toList_append]
    exact List.suffix_append _ _
  rcases List.suffix_or_suffix_of_suffix hp hq with hle | hle
  · rw [← List.isSuffixOf_iff_suffix] at hle
    exact absurd hle (Bool.eq_false_iff.mp hqp)
  · rw [← List.isSuffixOf_iff_suffix] at hle
    exact absurd hle (Bool.eq_false_iff.mp hpq)

/-! ## Ends of strings -/

/-- `s` without the characters at its ends that satisfy `p`. -/
def trim (p : Char → Bool) (s : String) : String :=
  String.ofList ((s.toList.dropWhile p).rdropWhile p)

/-- `s` without the characters at its end that satisfy `p`. -/
def trimEnd (p : Char → Bool) (s : String) : String := String.ofList (s.toList.rdropWhile p)

/-- `l` without the copies of `p` that it starts with. -/
def dropPrefixes (p : List Char) : Nat → List Char → List Char
  | 0, l => l
  | n + 1, l => if p.isPrefixOf l then dropPrefixes p n (l.drop p.length) else l

/-- `s` without the copies of `p` that it starts with. -/
def trimStartMatches (p s : String) : String :=
  String.ofList (dropPrefixes p.toList s.toList.length s.toList)

theorem trim_trim (p : Char → Bool) (s : String) : trim p (trim p s) = trim p s := by
  unfold trim
  rw [String.toList_ofList]
  have hhead : ((s.toList.dropWhile p).rdropWhile p).dropWhile p =
      (s.toList.dropWhile p).rdropWhile p := by
    rw [List.dropWhile_eq_self_iff]
    intro hpos
    have htaken := List.rdropWhile_prefix p (l := s.toList.dropWhile p)
    rw [htaken.getElem hpos]
    exact List.dropWhile_get_zero_not p s.toList _
  rw [hhead, List.rdropWhile_idempotent]

end Text
