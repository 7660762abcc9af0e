import RzRouter.Network.Moves

/-!
# Correlation ids

As long as the id counter of a connection has not come round, every id it has given out belongs to
one call: to a call that is about to open a channel for it, or to the one channel that was opened.
-/

namespace RzRouter

variable {ι κ : Type} [DecidableEq ι] [DecidableEq κ]

/-- The id is one of the first `drawn` ids. -/
def Conn.Issued (c : Conn) (id : UInt32) : Prop := 0 < id.toNat ∧ id.toNat ≤ c.drawn

theorem Conn.issued_of_counter {c c' : Conn} (h : c'.counter = c.counter) (id : UInt32) :
    c'.Issued id ↔ c.Issued id := by
  have hdrawn : c'.drawn = c.drawn := congrArg Prod.snd h
  unfold Issued
  rw [hdrawn]

namespace Network

/-- Who has which id; this holds of a connection until its counter comes round. -/
structure Ids (net : Network ι κ) : Prop where
  counter : ∀ c, (net.shared.conns c).corrId = UInt32.ofNat ((net.shared.conns c).drawn + 1)
  channel : ∀ c, (net.shared.conns c).drawn < 2 ^ 32 → ∀ tx t id,
    net.shared.ident tx = some (t, c, id) → (net.shared.conns c).Issued id
  unique : ∀ c, (net.shared.conns c).drawn < 2 ^ 32 → ∀ tx tx' t t' id,
    net.shared.ident tx = some (t, c, id) → net.shared.ident tx' = some (t', c, id) → tx = tx'
  pending : ∀ c, (net.shared.conns c).drawn < 2 ^ 32 → ∀ t id,
    (net.calls t).phase = .drawn c id → (net.shared.conns c).Issued id ∧
      (∀ tx t', net.shared.ident tx ≠ some (t', c, id)) ∧
      ∀ t', (net.calls t').phase = .drawn c id → t' = t

section

variable {reqs : ι → Request} {net net' : Network ι κ}

omit [DecidableEq ι] [DecidableEq κ] in
theorem ids_init (fw : Forwarder) (reqs : ι → Request) (capacity : κ → Nat) :
    Ids (init fw reqs capacity : Network ι κ) where
  counter := fun _ => rfl
  channel := nofun
  unique := nofun
  pending := nofun

omit [DecidableEq ι] [DecidableEq κ] in
/-- Ids only depend on the counters, the channels, and who is about to open one. -/
theorem Ids.of_eq (h : Ids net)
    (hcounter : ∀ c, (net'.shared.conns c).counter = (net.shared.conns c).counter)
    (hident : net'.shared.ident = net.shared.ident)
    (hphase : ∀ t c id, (net'.calls t).phase = .drawn c id →
      (net.calls t).phase = .drawn c id) : Ids net' := by
  -- the four parts read only the counters, the channels and the calls with a drawn id
  have hid : ∀ c, (net'.shared.conns c).corrId = (net.shared.conns c).corrId :=
    fun c => congrArg Prod.fst (hcounter c)
  have hdrawn : ∀ c, (net'.shared.conns c).drawn = (net.shared.conns c).drawn :=
    fun c => congrArg Prod.snd (hcounter c)
  have hissued : ∀ c id, (net'.shared.conns c).Issued id ↔ (net.shared.conns c).Issued id :=
    fun c => Conn.issued_of_counter (hcounter c)
  refine ⟨fun c => by rw [hid, hdrawn]; exact h.counter c, ?_, ?_, ?_⟩
  · intro c hlt tx t id htx
    rw [hdrawn] at hlt
    rw [hident] at htx
    exact (hissued c id).mpr (h.channel c hlt tx t id htx)
  · intro c hlt tx tx' t t' id htx htx'
    rw [hdrawn] at hlt
    rw [hident] at htx htx'
    exact h.unique c hlt tx tx' t t' id htx htx'
  · intro c hlt t id ht
    rw [hdrawn] at hlt
    rw [hident, hissued]
    obtain ⟨hid, hfree, hothers⟩ := h.pending c hlt t id (hphase t c id ht)
    exact ⟨hid, hfree, fun t' ht' => hothers t' (hphase t' c id ht')⟩

omit [DecidableEq ι] [DecidableEq κ] in
/-- A call opens a channel for the id it has drawn. -/
theorem ids_of_open {t : ι} {c : κ} {id : UInt32} {tx : Nat} (h : Ids net)
    (hcounter : ∀ c, (net'.shared.conns c).counter = (net.shared.conns c).counter)
    (hdrew : (net.calls t).phase = .drawn c id)
    (hnew : net'.shared.ident = Function.update net.shared.ident tx (some (t, c, id)))
    (hself : ∀ c id, (net'.calls t).phase ≠ .drawn c id)
    (hothers : ∀ t', t' ≠ t → net'.calls t' = net.calls t') : Ids net' := by
  have hid : ∀ c, (net'.shared.conns c).corrId = (net.shared.conns c).corrId :=
    fun c => congrArg Prod.fst (hcounter c)
  have hdrawn : ∀ c, (net'.shared.conns c).drawn = (net.shared.conns c).drawn :=
    fun c => congrArg Prod.snd (hcounter c)
  have hissued : ∀ c id, (net'.shared.conns c).Issued id ↔ (net.shared.conns c).Issued id :=
    fun c => Conn.issued_of_counter (hcounter c)
  -- a channel is the new one or an old one
  have hcases : ∀ {tx' t' c' id'}, net'.shared.ident tx' = some (t', c', id') →
      tx' = tx ∧ t' = t ∧ c' = c ∧ id' = id ∨
        tx' ≠ tx ∧ net.shared.ident tx' = some (t', c', id') := by
    intro tx' t' c' id' htx'
    rw [hnew, Function.update_apply] at htx'
    split at htx'
    · rename_i htx
      cases htx'
      exact Or.inl ⟨htx, rfl, rfl, rfl⟩
    · rename_i htx
      exact Or.inr ⟨htx, htx'⟩
  refine ⟨fun c => by rw [hid, hdrawn]; exact h.counter c, ?_, ?_, ?_⟩
  · intro c' hlt tx' t' id' htx'
    rw [hdrawn] at hlt
    rw [hissued]
    rcases hcases htx' with ⟨-, -, rfl, rfl⟩ | ⟨-, hold⟩
    · exact (h.pending c' hlt t id' hdrew).1
    · exact h.channel c' hlt tx' t' id' hold
  · intro c' hlt tx₁ tx₂ t₁ t₂ id' h₁ h₂
    rw [hdrawn] at hlt
    rcases hcases h₁ with ⟨rfl, rfl, rfl, rfl⟩ | ⟨-, hold₁⟩
    · rcases hcases h₂ with ⟨rfl, -, -, -⟩ | ⟨-, hold₂⟩
      · rfl
      · exact absurd hold₂ ((h.pending c' hlt t₁ id' hdrew).2.1 tx₂ t₂)
    · rcases hcases h₂ with ⟨rfl, rfl, rfl, rfl⟩ | ⟨-, hold₂⟩
      · exact absurd hold₁ ((h.pending c' hlt t₂ id' hdrew).2.1 tx₁ t₁)
      · exact h.unique c' hlt tx₁ tx₂ t₁ t₂ id' hold₁ hold₂
  · intro c' hlt t' id' ht'
    rw [hdrawn] at hlt
    have hne : t' ≠ t := fun heq => hself c' id' (heq ▸ ht')
    rw [hothers t' hne] at ht'
    obtain ⟨hid', hfree, honly⟩ := h.pending c' hlt t' id' ht'
    refine ⟨(hissued c' id').mpr hid', fun tx' t'' htx' => ?_, fun t'' ht'' => ?_⟩
    · rcases hcases htx' with ⟨-, -, rfl, rfl⟩ | ⟨-, hold⟩
      · exact hne (honly t hdrew).symm
      · exact hfree tx' t'' hold
    · have hne'' : t'' ≠ t := fun heq => hself c' id' (heq ▸ ht'')
      rw [hothers t'' hne''] at ht''
      exact honly t'' ht''

/-- The counter after a draw. -/
theorem counter_fetchCorrId {c : Conn} (h : c.corrId = UInt32.ofNat (c.drawn + 1)) :
    c.fetchCorrId.1.corrId = UInt32.ofNat (c.fetchCorrId.1.drawn + 1) := by
  change c.corrId + 1 = UInt32.ofNat (c.drawn + 1 + 1)
  rw [h, UInt32.ofNat_add (c.drawn + 1) 1]
  rfl

omit [DecidableEq ι] in
/-- An id is drawn, for call `t` or, if it is 0, for nobody. -/
theorem ids_of_draw {c : κ} (h : Ids net)
    (hshared : net'.shared = net.shared.setConn c (net.shared.conns c).fetchCorrId.1)
    (hphase : ∀ t c' id, (net'.calls t).phase = .drawn c' id →
      (net.calls t).phase = .drawn c' id ∨ c' = c ∧ id = (net.shared.conns c).corrId)
    (honce : ∀ t t', (net'.calls t).phase = .drawn c (net.shared.conns c).corrId →
      (net'.calls t').phase = .drawn c (net.shared.conns c).corrId →
      (net.calls t).phase ≠ .drawn c (net.shared.conns c).corrId →
      (net.calls t').phase ≠ .drawn c (net.shared.conns c).corrId → t = t') : Ids net' := by
  have hconns : ∀ c', net'.shared.conns c' =
      if c' = c then (net.shared.conns c).fetchCorrId.1 else net.shared.conns c' := by
    intro c'
    rw [hshared, Shared.conns_setConn]
  have hident : net'.shared.ident = net.shared.ident := by rw [hshared, Shared.ident_setConn]
  have hle : ∀ c', (net.shared.conns c').drawn ≤ (net'.shared.conns c').drawn := by
    intro c'
    rw [hconns]
    split
    · rename_i hc
      rw [hc]
      exact Nat.le_succ _
    · exact Nat.le_refl _
  have hissued : ∀ c' id, (net.shared.conns c').Issued id → (net'.shared.conns c').Issued id :=
    fun c' id hid => ⟨hid.1, Nat.le_trans hid.2 (hle c')⟩
  -- the new id is larger than all before
  have hnew : (net'.shared.conns c).drawn < 2 ^ 32 →
      (net.shared.conns c).corrId.toNat = (net.shared.conns c).drawn + 1 ∧
        (net'.shared.conns c).drawn = (net.shared.conns c).drawn + 1 := by
    intro hlt
    have hdrawn : (net'.shared.conns c).drawn = (net.shared.conns c).drawn + 1 := by
      rw [hconns, if_pos rfl]
      rfl
    rw [hdrawn] at hlt
    rw [h.counter c]
    exact ⟨UInt32.toNat_ofNat_of_lt' hlt, hdrawn⟩
  have hfresh : (net'.shared.conns c).drawn < 2 ^ 32 →
      ¬ (net.shared.conns c).Issued (net.shared.conns c).corrId := by
    intro hlt hissued
    have hle' := hissued.2
    rw [(hnew hlt).1] at hle'
    omega
  refine ⟨fun c' => ?_, ?_, ?_, ?_⟩
  · rw [hconns]
    split
    · exact counter_fetchCorrId (h.counter c)
    · exact h.counter c'
  · intro c' hlt tx t id htx
    rw [hident] at htx
    exact hissued c' id (h.channel c' (Nat.lt_of_le_of_lt (hle c') hlt) tx t id htx)
  · intro c' hlt tx tx' t t' id htx htx'
    rw [hident] at htx htx'
    exact h.unique c' (Nat.lt_of_le_of_lt (hle c') hlt) tx tx' t t' id htx htx'
  · intro c' hlt t id ht
    have hlt' := Nat.lt_of_le_of_lt (hle c') hlt
    rw [hident]
    by_cases hold : (net.calls t).phase = .drawn c' id
    · obtain ⟨hid, hfree, honly⟩ := h.pending c' hlt' t id hold
      refine ⟨hissued c' id hid, hfree, fun t' ht' => ?_⟩
      rcases hphase t' c' id ht' with hold' | ⟨rfl, rfl⟩
      · exact honly t' hold'
      · exact absurd hid (hfresh hlt)
    · rcases hphase t c' id ht with hold' | ⟨rfl, rfl⟩
      · exact absurd hold' hold
      · obtain ⟨hnat, hdrawn⟩ := hnew hlt
        refine ⟨⟨by rw [hnat]; exact Nat.succ_pos _, by rw [hnat, hdrawn]⟩, ?_, fun t' ht' => ?_⟩
        · intro tx t' htx
          exact hfresh hlt (h.channel c' hlt' tx t' _ htx)
        · by_cases hold' : (net.calls t').phase = .drawn c' (net.shared.conns c').corrId
          · exact absurd (h.pending c' hlt' t' _ hold').1 (hfresh hlt)
          · exact honce t' t ht' ht hold' hold

theorem ids_step {fw : Forwarder} {e : Event ι κ} (hfollows : Following fw reqs net)
    (h : Ids net) (hstep : net.step reqs e = some net') : Ids net' := by
  rcases step_cases hfollows hstep with
    ⟨t, answer, -, hmove, hothers⟩ | ⟨t, answer, -, c, hshared, -, hcalls⟩ |
      ⟨c, conn, notice, -, hshared, hcalls, -, -, hcounter⟩
  · rcases counter_of_callStep hmove with ⟨hcounter, hphase⟩ | ⟨c, -, hdrew, hshared⟩
    · rcases ident_of_callStep hmove with hident | ⟨c, id, hph, hph', hident⟩
      · refine h.of_eq hcounter hident (fun t' c' id' ht' => ?_)
        by_cases ht : t' = t
        · subst ht
          exact hphase c' id' ht'
        · rw [hothers t' ht] at ht'
          exact ht'
      · exact ids_of_open h hcounter hph hident (fun c' id' => by rw [hph']; exact nofun) hothers
    · refine ids_of_draw h hshared (fun t' c' id' ht' => ?_) (fun t₁ t₂ h₁ h₂ hn₁ hn₂ => ?_)
      · by_cases ht : t' = t
        · subst ht
          rw [hdrew] at ht'
          cases ht'
          exact Or.inr ⟨rfl, rfl⟩
        · rw [hothers t' ht] at ht'
          exact Or.inl ht'
      -- only the call that moves holds an id it did not hold before
      · have hself : ∀ t', (net'.calls t').phase = .drawn c (net.shared.conns c).corrId →
            (net.calls t').phase ≠ .drawn c (net.shared.conns c).corrId → t' = t := by
          intro t' ht' hne
          by_contra ht
          rw [hothers t' ht] at ht'
          exact hne ht'
        rw [hself t₁ h₁ hn₁, hself t₂ h₂ hn₂]
  · refine ids_of_draw h hshared (fun t' c' id' ht' => ?_) (fun t₁ t₂ h₁ h₂ hn₁ hn₂ => ?_)
    · rw [hcalls] at ht'
      exact Or.inl ht'
    · rw [hcalls] at h₁
      exact absurd h₁ hn₁
  · refine h.of_eq (fun c' => ?_) ?_ (fun t' c' id' ht' => ?_)
    · rw [hshared, Shared.conns_notify, Shared.conns_setConn]
      split
      · rename_i hc
        rw [hc, hcounter]
      · rfl
    · rw [hshared, Shared.ident_notify, Shared.ident_setConn]
    · rw [hcalls] at ht'
      exact ht'

end

end Network

end RzRouter
