import Mathlib.Data.List.Induction

/-!
# Executable transition systems

A system is a step function `σ → ε → Option σ` (`none`: the event is not enabled).  `run` plays a
list of events, `Meets` says that a condition on the state before the step and the event holds at
every step of a run.  The rules below are the induction over runs, done once.
-/

namespace Transition

variable {σ ε : Type}

/-- Plays the events in order; `none` as soon as one is not enabled. -/
def run (step : σ → ε → Option σ) : σ → List ε → Option σ
  | s, [] => some s
  | s, e :: es => (step s e).bind (fun s' => run step s' es)

/-- `cond` holds at every step of the run of `es` from `s`. -/
def Meets (step : σ → ε → Option σ) (cond : σ → ε → Prop) : σ → List ε → Prop
  | _, [] => True
  | s, e :: es => cond s e ∧ ∀ s', step s e = some s' → Meets step cond s' es

variable {step : σ → ε → Option σ}

@[simp] theorem run_nil (s : σ) : run step s [] = some s := rfl

theorem run_cons_eq_some (s s' : σ) (e : ε) (es : List ε) :
    run step s (e :: es) = some s' ↔ ∃ t, step s e = some t ∧ run step t es = some s' := by
  simp only [run, Option.bind_eq_some_iff]

theorem run_append (s : σ) (es fs : List ε) :
    run step s (es ++ fs) = (run step s es).bind (fun t => run step t fs) := by
  induction es generalizing s with
  | nil => rfl
  | cons e es ih =>
    simp only [List.cons_append, run]
    cases step s e with
    | none => rfl
    | some t => exact ih t

/-- An invariant that every conditioned step keeps holds after every run that meets the
condition. -/
theorem invariant_of_meets {I : σ → Prop} {cond : σ → ε → Prop}
    (hstep : ∀ s e s', I s → cond s e → step s e = some s' → I s')
    {s s' : σ} {es : List ε} (h0 : I s) (hmeets : Meets step cond s es)
    (hrun : run step s es = some s') : I s' := by
  induction es generalizing s with
  | nil =>
    cases hrun
    exact h0
  | cons e es ih =>
    obtain ⟨t, ht, hrest⟩ := (run_cons_eq_some s s' e es).mp hrun
    exact ih (hstep s e t h0 hmeets.1 ht) (hmeets.2 t ht) hrest

/-- An invariant that every step keeps holds after every run. -/
theorem invariant_of_run {I : σ → Prop} (hstep : ∀ s e s', I s → step s e = some s' → I s')
    {s s' : σ} {es : List ε} (h0 : I s) (hrun : run step s es = some s') : I s' := by
  induction es generalizing s with
  | nil =>
    cases hrun
    exact h0
  | cons e es ih =>
    obtain ⟨t, ht, hrest⟩ := (run_cons_eq_some s s' e es).mp hrun
    exact ih (hstep s e t h0 ht) hrest

/-- An invariant of the state and of the events that have led to it. -/
theorem invariant_of_events {I : List ε → σ → Prop} {s : σ} (h0 : I [] s)
    (hstep : ∀ es t e t', run step s es = some t → I es t → step t e = some t' → I (es ++ [e]) t')
    {es : List ε} {s' : σ} (hrun : run step s es = some s') : I es s' := by
  -- on the events from the last one backwards, so that the beginning of the run stays
  induction es using List.reverseRecOn generalizing s' with
  | nil =>
    cases hrun
    exact h0
  | append_singleton es e ih =>
    rw [run_append] at hrun
    obtain ⟨t, ht, hlast⟩ := Option.bind_eq_some_iff.mp hrun
    obtain ⟨t', ht', hnil⟩ := (run_cons_eq_some t s' e []).mp hlast
    rw [← Option.some.inj hnil]
    exact hstep es t e t' ht (ih ht) ht'

/-- What is noted along a run, at each step from the state before it. -/
def notes {α : Type} (step : σ → ε → Option σ) (note : σ → ε → List α) : σ → List ε → List α
  | _, [] => []
  | s, e :: es =>
      note s e ++
        match step s e with
        | some s' => notes step note s' es
        | none => []

theorem notes_concat {α : Type} (note : σ → ε → List α) {s s' : σ} {es : List ε}
    (hrun : run step s es = some s') (e : ε) :
    notes step note s (es ++ [e]) = notes step note s es ++ note s' e := by
  induction es generalizing s with
  | nil =>
    cases hrun
    show note s' e ++ _ = [] ++ note s' e
    cases step s' e with
    | none => exact List.append_nil _
    | some t => exact List.append_nil _
  | cons d es ih =>
    obtain ⟨t, ht, hrest⟩ := (run_cons_eq_some s s' d es).mp hrun
    rw [List.cons_append]
    unfold notes
    simp only [ht]
    rw [ih hrest, List.append_assoc]

/-- Evaluates a Boolean test at every step of a run. -/
def checks (step : σ → ε → Option σ) (test : σ → ε → Bool) : σ → List ε → Bool
  | _, [] => true
  | s, e :: es =>
      test s e &&
        match step s e with
        | some s' => checks step test s' es
        | none => true

theorem meets_of_checks {cond : σ → ε → Prop} {test : σ → ε → Bool}
    (htest : ∀ s e, test s e = true → cond s e) {s : σ} {es : List ε}
    (h : checks step test s es = true) : Meets step cond s es := by
  induction es generalizing s with
  | nil => trivial
  | cons e es ih =>
    rw [checks, Bool.and_eq_true] at h
    refine ⟨htest s e h.1, fun s' hs' => ?_⟩
    have hrest := h.2
    rw [hs'] at hrest
    exact ih hrest

/-- Two step conditions that agree under an invariant, which steps meeting the first one keep,
hold along the same runs. -/
theorem meets_congr {inv : σ → Prop} {left right : σ → ε → Prop}
    (hiff : ∀ s e, inv s → (left s e ↔ right s e))
    (hkeep : ∀ s e s', inv s → left s e → step s e = some s' → inv s')
    {s : σ} {es : List ε} (h0 : inv s) : Meets step left s es ↔ Meets step right s es := by
  induction es generalizing s with
  | nil => exact Iff.rfl
  | cons e es ih =>
    constructor
    · rintro ⟨hl, hrest⟩
      exact ⟨(hiff s e h0).mp hl, fun t ht => (ih (hkeep s e t h0 hl ht)).mp (hrest t ht)⟩
    · rintro ⟨hr, hrest⟩
      have hl : left s e := (hiff s e h0).mpr hr
      exact ⟨hl, fun t ht => (ih (hkeep s e t h0 hl ht)).mpr (hrest t ht)⟩

/-- A condition that holds along a run holds along its two parts. -/
theorem meets_append {cond : σ → ε → Prop} {s : σ} {es fs : List ε}
    (h : Meets step cond s (es ++ fs)) :
    Meets step cond s es ∧ ∀ t, run step s es = some t → Meets step cond t fs := by
  induction es generalizing s with
  | nil =>
    refine ⟨trivial, fun t ht => ?_⟩
    cases ht
    exact h
  | cons e es ih =>
    refine ⟨⟨h.1, fun s' hs' => (ih (h.2 s' hs')).1⟩, fun t ht => ?_⟩
    obtain ⟨s', hs', hrest⟩ := (run_cons_eq_some s t e es).mp ht
    exact (ih (h.2 s' hs')).2 t hrest

/-! ## Components -/

/-- A component: where every step of a system is a step of the component or leaves it alone, a run
of the system is a run of the component. -/
theorem exists_run_of_component {σ' ε' : Type} {step' : σ' → ε' → Option σ'} (proj : σ → σ')
    (hstep : ∀ s e s', step s e = some s' →
      proj s' = proj s ∨ ∃ e', step' (proj s) e' = some (proj s'))
    {s s' : σ} {es : List ε} (hrun : run step s es = some s') :
    ∃ es', run step' (proj s) es' = some (proj s') := by
  induction es generalizing s with
  | nil =>
    cases hrun
    exact ⟨[], rfl⟩
  | cons e es ih =>
    obtain ⟨t, ht, hrest⟩ := (run_cons_eq_some s s' e es).mp hrun
    obtain ⟨es', hes'⟩ := ih hrest
    rcases hstep s e t ht with hsame | ⟨e', he'⟩
    · rw [hsame] at hes'
      exact ⟨es', hes'⟩
    · exact ⟨e' :: es', (run_cons_eq_some _ _ _ _).mpr ⟨proj t, he', hes'⟩⟩

/-! ## History variables -/

section History

variable {η : Type} {record : η → σ → ε → σ → η}

/-- The system with a history: `record` notes every step in a variable that no step reads. -/
def withHistory (step : σ → ε → Option σ) (record : η → σ → ε → σ → η) (s : σ × η) (e : ε) :
    Option (σ × η) :=
  (step s.1 e).map (fun t => (t, record s.2 s.1 e t))

theorem withHistory_eq_some {s : σ × η} {e : ε} {t : σ × η}
    (h : withHistory step record s e = some t) :
    step s.1 e = some t.1 ∧ t.2 = record s.2 s.1 e t.1 := by
  obtain ⟨t', ht', rfl⟩ := Option.map_eq_some_iff.mp h
  exact ⟨ht', rfl⟩

/-- A condition that does not read the history holds along the same runs without it. -/
theorem meets_withHistory {cond : σ → ε → Prop} {s : σ × η} {es : List ε} :
    Meets (withHistory step record) (fun s e => cond s.1 e) s es ↔ Meets step cond s.1 es := by
  induction es generalizing s with
  | nil => exact Iff.rfl
  | cons e es ih =>
    constructor
    · rintro ⟨hcond, hrest⟩
      refine ⟨hcond, fun t ht => ?_⟩
      apply (ih (s := (t, record s.2 s.1 e t))).mp
      apply hrest
      unfold withHistory
      rw [ht]
      rfl
    · rintro ⟨hcond, hrest⟩
      refine ⟨hcond, fun t ht => ih.mpr ?_⟩
      exact hrest t.1 (withHistory_eq_some ht).1

end History

end Transition
