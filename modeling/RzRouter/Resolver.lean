import RzRouter.Config
import RzRouter.Library.Text

/-!
# RzPoint (`resolver.rs`)

The resolver asks RzPoint for the host of a hop, up to three times.  What comes back from the URL
at each attempt is up to the surroundings.
-/

namespace RzRouter

/-- What a GET gives: a response with its status, the text of that status, and its body as far as it
can be read; or an error. -/
inductive HttpAnswer
  | response (status : Nat) (statusText : String) (body : Except String String)
  | failed (e : String)

/-- The characters that `str::trim` takes away. -/
def isWhiteSpace (c : Char) : Bool :=
  let n := c.toNat
  (9 ≤ n && n ≤ 13) || n == 0x20 || n == 0x85 || n == 0xA0 || n == 0x1680 ||
    (0x2000 ≤ n && n ≤ 0x200A) || n == 0x2028 || n == 0x2029 || n == 0x202F || n == 0x205F ||
    n == 0x3000

def strTrim (s : String) : String := Text.trim isWhiteSpace s

structure RzPointResolver where
  baseUrl : String
  mode : RouterMode

namespace RzPointResolver

/-- `RzPointResolver::new`. -/
def new (rzpointAddr : String) (mode : RouterMode) : RzPointResolver where
  baseUrl :=
    let clean := Text.trimEnd (· == '/')
      (Text.trimStartMatches "https://" (Text.trimStartMatches "http://" rzpointAddr))
    "http://" ++ clean
  mode := mode

/-- The URL that is asked for a hop. -/
def url (r : RzPointResolver) (hopId : String) : String :=
  let path := match r.mode with
    | .edge => "/routers/" ++ hopId
    | .zone => "/bridges/" ++ hopId
  r.baseUrl ++ path

/-- The loop of `resolve`, with the number of attempts left; the milliseconds that it sleeps. -/
def attempts (hopId : String) (get : Nat → HttpAnswer) :
    Nat → Nat → Option RZError → Except RZError String × Nat
  | 0, _, lastErr => (.error (lastErr.getD (.resolver "resolve failed")), 0)
  | remaining + 1, attempt, _ =>
    let again (e : RZError) :=
      let pause := if attempt < 2 then 100 * (attempt + 1) else 0
      let (result, ms) := attempts hopId get remaining (attempt + 1) (some e)
      (result, pause + ms)
    match get attempt with
    | .response status statusText body =>
      if 200 ≤ status ∧ status < 300 then
        match body with
        | .ok host =>
          let trimmed := strTrim host
          if trimmed = "" then (.error (.resolver ("empty response for hop " ++ hopId)), 0)
          else (.ok trimmed, 0)
        | .error e => (.error (.resolver e), 0)
      else if status = 404 then (.error (.resolver ("hop " ++ hopId ++ " not found")), 0)
      else again (.resolver ("HTTP " ++ statusText))
    | .failed e => again (.resolver e)

/-- `resolve`; the third attempt is the last one. -/
def resolve (r : RzPointResolver) (hopId : String) (web : String → Nat → HttpAnswer) :
    Except RZError String × Nat :=
  attempts hopId (web (r.url hopId)) 3 0 none

end RzPointResolver

/-! ## What `resolve` returns -/

/-- The answer is a success with a host in its body. -/
def HttpAnswer.Names (answer : HttpAnswer) (addr : String) : Prop :=
  ∃ status statusText body, answer = .response status statusText (.ok body) ∧
    200 ≤ status ∧ status < 300 ∧ strTrim body = addr ∧ addr ≠ ""

/-- The answer is neither a success nor a 404, so that the resolver tries again. -/
def HttpAnswer.Retried (answer : HttpAnswer) : Prop :=
  (∃ e, answer = .failed e) ∨ ∃ status statusText body,
    answer = .response status statusText body ∧ ¬(200 ≤ status ∧ status < 300) ∧ status ≠ 404

namespace RzPointResolver

/-- RzPoint names the host of the hop at one of the three attempts, those before having to be
retried. -/
def Gives (r : RzPointResolver) (hopId : String) (web : String → Nat → HttpAnswer)
    (addr : String) : Prop :=
  ∃ n < 3, (web (r.url hopId) n).Names addr ∧ ∀ m < n, (web (r.url hopId) m).Retried

/-- The first of `k + 1` attempts, or the first one after it. -/
theorem first_attempt_iff (good again : Nat → Prop) (attempt k : Nat) :
    (∃ n < k + 1, good (attempt + n) ∧ ∀ m < n, again (attempt + m)) ↔
      good attempt ∨ again attempt ∧
        ∃ n < k, good (attempt + 1 + n) ∧ ∀ m < n, again (attempt + 1 + m) := by
  have hshift : ∀ n, attempt + (n + 1) = attempt + 1 + n := by
    intro n
    omega
  constructor
  · rintro ⟨n, hn, hat, hbefore⟩
    cases n with
    | zero => exact Or.inl hat
    | succ n =>
      refine Or.inr ⟨hbefore 0 (Nat.zero_lt_succ n), n, by omega, ?_, fun m hm => ?_⟩
      · rw [← hshift]
        exact hat
      · rw [← hshift]
        exact hbefore (m + 1) (by omega)
  · rintro (hat | ⟨hfirst, n, hn, hat, hbefore⟩)
    · exact ⟨0, by omega, hat, fun m hm => absurd hm (Nat.not_lt_zero m)⟩
    · refine ⟨n + 1, by omega, ?_, fun m hm => ?_⟩
      · rw [hshift]
        exact hat
      · cases m with
        | zero => exact hfirst
        | succ m =>
          rw [hshift]
          exact hbefore m (by omega)

section Attempts

variable (hopId : String) (get : Nat → HttpAnswer) (remaining attempt : Nat)
  (lastErr : Option RZError)

theorem attempts_of_retried (h : (get attempt).Retried) :
    ∃ e, (attempts hopId get (remaining + 1) attempt lastErr).1 =
      (attempts hopId get remaining (attempt + 1) (some e)).1 := by
  rcases h with ⟨e, he⟩ | ⟨status, statusText, body, hresponse, hstatus, hfound⟩
  · refine ⟨.resolver e, ?_⟩
    rw [attempts, he]
  · refine ⟨.resolver ("HTTP " ++ statusText), ?_⟩
    rw [attempts, hresponse]
    show (if 200 ≤ status ∧ status < 300 then _ else _ : Except RZError String × Nat).1 = _
    rw [if_neg hstatus, if_neg hfound]

/-- An attempt that is not retried decides. -/
theorem attempts_of_not_retried (h : ¬ (get attempt).Retried) (addr : String) :
    (attempts hopId get (remaining + 1) attempt lastErr).1 = .ok addr ↔
      (get attempt).Names addr := by
  rw [attempts]
  cases hget : get attempt with
  | failed e => exact absurd (Or.inl ⟨e, hget⟩) h
  | response status statusText body =>
    show (if 200 ≤ status ∧ status < 300 then _ else _ : Except RZError String × Nat).1 = _ ↔ _
    by_cases hstatus : 200 ≤ status ∧ status < 300
    · rw [if_pos hstatus]
      cases body with
      | error e =>
        constructor
        · intro hok
          cases hok
        · rintro ⟨_, _, _, hsame, -⟩
          cases hsame
      | ok host =>
        show (if strTrim host = "" then _ else _ : Except RZError String × Nat).1 = _ ↔ _
        by_cases hempty : strTrim host = ""
        · rw [if_pos hempty]
          constructor
          · intro hok
            cases hok
          · rintro ⟨_, _, _, hsame, -, -, haddr, hne⟩
            cases hsame
            exact absurd (haddr.symm.trans hempty) hne
        · rw [if_neg hempty]
          constructor
          · intro hok
            cases hok
            exact ⟨status, statusText, host, rfl, hstatus.1, hstatus.2, rfl, hempty⟩
          · rintro ⟨_, _, _, hsame, -, -, haddr, -⟩
            cases hsame
            rw [haddr]
    · rw [if_neg hstatus]
      have hmissing : status = 404 := by
        by_contra hfound
        exact h (Or.inr ⟨status, statusText, body, hget, hstatus, hfound⟩)
      rw [if_pos hmissing]
      constructor
      · intro hok
        cases hok
      · rintro ⟨_, _, _, hsame, hlow, hhigh, -⟩
        cases hsame
        exact absurd ⟨hlow, hhigh⟩ hstatus

end Attempts

theorem not_names_of_retried {answer : HttpAnswer} (h : answer.Retried) (addr : String) :
    ¬ answer.Names addr := by
  rintro ⟨status, statusText, body, rfl, hlow, hhigh, -⟩
  rcases h with ⟨e, he⟩ | ⟨_, _, _, hsame, hstatus, -⟩
  · cases he
  · cases hsame
    exact hstatus ⟨hlow, hhigh⟩

theorem attempts_ok_iff (hopId : String) (get : Nat → HttpAnswer) (addr : String)
    (remaining attempt : Nat) (lastErr : Option RZError) :
    (attempts hopId get remaining attempt lastErr).1 = .ok addr ↔
      ∃ n < remaining, (get (attempt + n)).Names addr ∧ ∀ m < n, (get (attempt + m)).Retried := by
  induction remaining generalizing attempt lastErr with
  | zero =>
    constructor
    · intro h
      cases h
    · rintro ⟨n, hn, -⟩
      omega
  | succ remaining ih =>
    rw [first_attempt_iff (fun n => (get n).Names addr) (fun n => (get n).Retried)]
    by_cases hretried : (get attempt).Retried
    · obtain ⟨e, he⟩ := attempts_of_retried hopId get remaining attempt lastErr hretried
      rw [he, ih]
      constructor
      · intro hlater
        exact Or.inr ⟨hretried, hlater⟩
      · rintro (hnames | ⟨-, hlater⟩)
        · exact absurd hnames (not_names_of_retried hretried addr)
        · exact hlater
    · rw [attempts_of_not_retried hopId get remaining attempt lastErr hretried addr]
      constructor
      · intro hnames
        exact Or.inl hnames
      · rintro (hnames | ⟨hagain, -⟩)
        · exact hnames
        · exact absurd hagain hretried

theorem resolve_ok_iff (r : RzPointResolver) (hopId : String) (web : String → Nat → HttpAnswer)
    (addr : String) : (r.resolve hopId web).1 = .ok addr ↔ r.Gives hopId web addr := by
  unfold resolve Gives
  rw [attempts_ok_iff]
  simp only [Nat.zero_add]

/-- An address is not blank and has no white space around it. -/
theorem trimmed_of_gives {r : RzPointResolver} {hopId : String} {web : String → Nat → HttpAnswer}
    {addr : String} (h : r.Gives hopId web addr) : strTrim addr = addr ∧ addr ≠ "" := by
  obtain ⟨n, -, ⟨status, statusText, body, -, -, -, rfl, hne⟩, -⟩ := h
  exact ⟨Text.trim_trim isWhiteSpace body, hne⟩

end RzPointResolver

end RzRouter
