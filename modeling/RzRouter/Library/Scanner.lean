import Mathlib.Data.List.DropRight

/-!
# Scanning a stream for frames

A frame begins with a marker, and a decoder looks at the bytes from a marker on: it may need more
of them, reject them, or find a frame.  `parse` is the parser of a whole stream.  A reader that
gets the stream in pieces, and drops bytes that belong to no frame whenever it likes, finds the
same frames: `Tracks` is its invariant.
-/

namespace Scanner

variable {α β : Type}

inductive Verdict (β : Type)
  | more
  | bad
  | frame (b : β) (n : Nat)
  deriving DecidableEq

/-- A decoder whose verdict on what it has seen is final: more bytes behind do not change it. -/
structure Decoder (α β : Type) where
  marks : α → Bool
  decode : List α → Verdict β
  stable : ∀ buf rest, decode buf ≠ .more → decode (buf ++ rest) = decode buf
  fits : ∀ buf b n, decode buf = .frame b n → 0 < n ∧ n ≤ buf.length

namespace Decoder

variable (D : Decoder α β)

/-- Drops what is before the first marker. -/
def skip (buf : List α) : List α := buf.dropWhile (fun a => !D.marks a)

theorem length_skip_le (buf : List α) : (D.skip buf).length ≤ buf.length :=
  (List.dropWhile_suffix _).length_le

/-- The frames of a stream, with their bytes, and what is left: nothing, or a marker with the
beginning of a frame. -/
def parse (buf : List α) : List (β × List α) × List α :=
  match _hskip : D.skip buf with
  | [] => ([], [])
  | a :: rest =>
    match _hdecode : D.decode (a :: rest) with
    | .more => ([], a :: rest)
    | .bad => parse rest
    | .frame b n =>
      let r := parse ((a :: rest).drop n)
      ((b, (a :: rest).take n) :: r.1, r.2)
termination_by buf.length
decreasing_by
  · have hle := D.length_skip_le buf
    rw [_hskip, List.length_cons] at hle
    omega
  · have hle := D.length_skip_le buf
    have hfits := D.fits _ b n _hdecode
    rw [_hskip] at hle
    rw [List.length_drop]
    omega

/-! ## Equations -/

theorem skip_skip (buf : List α) : D.skip (D.skip buf) = D.skip buf := by
  unfold skip
  exact List.dropWhile_idempotent _ _

theorem skip_cons_of_marks {a : α} {rest : List α} (h : D.marks a = true) :
    D.skip (a :: rest) = a :: rest := by
  unfold skip
  rw [List.dropWhile_cons_of_neg (by rw [h]; decide)]

theorem skip_cons_of_not_marks {a : α} {rest : List α} (h : D.marks a = false) :
    D.skip (a :: rest) = D.skip rest := by
  unfold skip
  rw [List.dropWhile_cons_of_pos (by rw [h]; rfl)]

/-- What is left after skipping begins with a marker. -/
theorem marks_of_skip {buf rest : List α} {a : α} (h : D.skip buf = a :: rest) :
    D.marks a = true := by
  unfold skip at h
  have hne : buf.dropWhile (fun a => !D.marks a) ≠ [] := by
    rw [h]
    exact List.cons_ne_nil _ _
  have hhead := List.head_dropWhile_not (fun a => !D.marks a) hne
  simp only [h, List.head_cons, Bool.not_eq_false'] at hhead
  exact hhead

theorem skip_append_of_eq_nil {buf : List α} (h : D.skip buf = []) (more : List α) :
    D.skip (buf ++ more) = D.skip more := by
  unfold skip at h ⊢
  rw [List.dropWhile_append, h]
  rfl

theorem skip_append_of_eq_cons {buf rest : List α} {a : α} (h : D.skip buf = a :: rest)
    (more : List α) : D.skip (buf ++ more) = a :: (rest ++ more) := by
  unfold skip at h ⊢
  rw [List.dropWhile_append, h]
  rfl

theorem parse_of_skip_nil {buf : List α} (h : D.skip buf = []) : D.parse buf = ([], []) := by
  rw [parse]
  split
  · rfl
  · rename_i hcons
    rw [h] at hcons
    cases hcons

/-- From a marker on, the parser does what the decoder says. -/
theorem parse_of_skip_cons {buf rest : List α} {a : α} (hskip : D.skip buf = a :: rest) :
    D.parse buf =
      match D.decode (a :: rest) with
      | .more => ([], a :: rest)
      | .bad => D.parse rest
      | .frame b n => ((b, (a :: rest).take n) :: (D.parse ((a :: rest).drop n)).1,
          (D.parse ((a :: rest).drop n)).2) := by
  rw [parse]
  split
  · rename_i hnil
    rw [hskip] at hnil
    cases hnil
  · rename_i hcons
    rw [hskip] at hcons
    cases hcons
    split <;> rename_i hdecode <;> rw [hdecode]

theorem parse_of_more {buf : List α} (h : D.decode (D.skip buf) = .more) :
    D.parse buf = ([], D.skip buf) := by
  cases hskip : D.skip buf with
  | nil => exact D.parse_of_skip_nil hskip
  | cons a rest =>
    rw [hskip] at h
    rw [D.parse_of_skip_cons hskip, h]

theorem parse_of_bad {buf rest : List α} {a : α} (hskip : D.skip buf = a :: rest)
    (h : D.decode (a :: rest) = .bad) : D.parse buf = D.parse rest := by
  rw [D.parse_of_skip_cons hskip, h]

theorem parse_of_frame {buf rest : List α} {a : α} {b : β} {n : Nat}
    (hskip : D.skip buf = a :: rest) (h : D.decode (a :: rest) = .frame b n) :
    D.parse buf = ((b, (a :: rest).take n) :: (D.parse ((a :: rest).drop n)).1,
      (D.parse ((a :: rest).drop n)).2) := by
  rw [D.parse_of_skip_cons hskip, h]

/-- Only what comes from the first marker on matters. -/
theorem parse_congr {buf buf' : List α} (h : D.skip buf = D.skip buf') :
    D.parse buf = D.parse buf' := by
  cases hskip : D.skip buf with
  | nil =>
    rw [D.parse_of_skip_nil hskip, D.parse_of_skip_nil (h ▸ hskip)]
  | cons a rest =>
    have hskip' : D.skip buf' = a :: rest := h ▸ hskip
    cases hdecode : D.decode (a :: rest) with
    | more =>
      rw [D.parse_of_more (by rw [hskip]; exact hdecode),
        D.parse_of_more (by rw [hskip']; exact hdecode), h]
    | bad => rw [D.parse_of_bad hskip hdecode, D.parse_of_bad hskip' hdecode]
    | frame b n => rw [D.parse_of_frame hskip hdecode, D.parse_of_frame hskip' hdecode]

/-! ## Streams in pieces -/

theorem parse_append (buf more : List α) :
    D.parse (buf ++ more) =
      ((D.parse buf).1 ++ (D.parse ((D.parse buf).2 ++ more)).1,
        (D.parse ((D.parse buf).2 ++ more)).2) := by
  -- by the length of the buffer, which every decision of the decoder shortens
  induction hlen : buf.length using Nat.strongRecOn generalizing buf with
  | ind k ih =>
    cases hskip : D.skip buf with
    | nil =>
      rw [D.parse_of_skip_nil hskip, D.parse_congr (D.skip_append_of_eq_nil hskip more)]
      rfl
    | cons a rest =>
      have hskip' := D.skip_append_of_eq_cons hskip more
      have hle := D.length_skip_le buf
      rw [hskip, List.length_cons] at hle
      cases hdecode : D.decode (a :: rest) with
      | more =>
        have hagain : D.skip (a :: (rest ++ more)) = a :: (rest ++ more) :=
          D.skip_cons_of_marks (D.marks_of_skip hskip)
        -- undecided: the parser stops here and starts again with the longer buffer
        have hbuf : D.parse buf = ([], a :: rest) := by
          rw [D.parse_of_more (by rw [hskip]; exact hdecode), hskip]
        rw [hbuf, D.parse_congr (hskip'.trans hagain.symm)]
        rfl
      | bad =>
        have hstable := D.stable (a :: rest) more (by rw [hdecode]; exact nofun)
        rw [D.parse_of_bad hskip hdecode, D.parse_of_bad hskip' (hstable.trans hdecode)]
        exact ih rest.length (by omega) rest rfl
      | frame b n =>
        have hstable := D.stable (a :: rest) more (by rw [hdecode]; exact nofun)
        obtain ⟨hpos, hfits⟩ := D.fits _ b n hdecode
        rw [D.parse_of_frame hskip hdecode, D.parse_of_frame hskip' (hstable.trans hdecode),
          ← List.cons_append, List.drop_append_of_le_length hfits,
          List.take_append_of_le_length hfits,
          ih ((a :: rest).drop n).length (by rw [List.length_drop, List.length_cons]; omega) _ rfl]
        rfl

/-- A reader of `stream` has found `found` and has `buf` left. -/
def Tracks (stream : List α) (found : List (β × List α)) (buf : List α) : Prop :=
  D.parse stream = (found ++ (D.parse buf).1, (D.parse buf).2)

theorem tracks_nil : D.Tracks [] [] [] := rfl

variable {D} {stream buf : List α} {found : List (β × List α)}

theorem Tracks.read (h : D.Tracks stream found buf) (more : List α) :
    D.Tracks (stream ++ more) found (buf ++ more) := by
  unfold Tracks at h ⊢
  rw [D.parse_append stream more, D.parse_append buf more, h]
  simp only [List.append_assoc]

theorem Tracks.drop (h : D.Tracks stream found buf) {buf' : List α}
    (hskip : D.skip buf' = D.skip buf) : D.Tracks stream found buf' := by
  unfold Tracks at h ⊢
  rw [D.parse_congr hskip]
  exact h

theorem Tracks.bad {a : α} {rest : List α} (h : D.Tracks stream found (a :: rest))
    (hmarks : D.marks a = true) (hdecode : D.decode (a :: rest) = .bad) :
    D.Tracks stream found rest := by
  unfold Tracks at h ⊢
  rw [D.parse_of_bad (D.skip_cons_of_marks hmarks) hdecode] at h
  exact h

theorem Tracks.frame {a : α} {rest : List α} {b : β} {n : Nat}
    (h : D.Tracks stream found (a :: rest)) (hmarks : D.marks a = true)
    (hdecode : D.decode (a :: rest) = .frame b n) :
    D.Tracks stream (found ++ [(b, (a :: rest).take n)]) ((a :: rest).drop n) := by
  unfold Tracks at h ⊢
  rw [D.parse_of_frame (D.skip_cons_of_marks hmarks) hdecode] at h
  rw [h, List.append_assoc]
  rfl

/-- A reader that can find nothing more in its buffer has found every frame of the stream. -/
theorem Tracks.done (h : D.Tracks stream found buf) (hmore : D.decode (D.skip buf) = .more) :
    D.parse stream = (found, D.skip buf) := by
  unfold Tracks at h
  rw [h, D.parse_of_more hmore, List.append_nil]

/-- What a reader has found stays found when the stream goes on. -/
theorem Tracks.found_prefix (h : D.Tracks stream found buf) (unread : List α) :
    (D.parse (stream ++ unread)).1 = found ++ (D.parse (buf ++ unread)).1 :=
  congrArg Prod.fst (h.read unread)

end Decoder

end Scanner
