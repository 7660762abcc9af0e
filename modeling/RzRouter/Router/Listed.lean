import RzRouter.Router.Routes
import RzRouter.Sync.Provenance

/-!
# Requests go where RzID has placed their segment

What a published table says was an answer of RzID, and a frame goes to a hop of the table.  So a
hop gets a request only if RzID has placed its segment in a zone (shard), and the hop in the list of
this zone (shard), in ticks before.
-/

namespace RzRouter

open Network Program

def RouterEvent.tick? {σ κ : Type} : RouterEvent σ κ → Option Tick
  | .refresh e => e.tick?
  | _ => none

namespace Router

variable {σ κ : Type} {su : Setup σ κ} {r r' : Router σ κ} {es : List (RouterEvent σ κ)}

/-- The ticks of a run. -/
def ticks (es : List (RouterEvent σ κ)) : List Tick := es.filterMap RouterEvent.tick?

theorem ticks_concat (es : List (RouterEvent σ κ)) (e : RouterEvent σ κ) :
    ticks (es ++ [e]) = ticks es ++ e.tick?.toList := by
  unfold ticks
  rw [List.filterMap_append]
  cases htick : e.tick? with
  | none => rw [List.filterMap_cons_none htick, List.filterMap_nil, Option.toList_none]
  | some tick => rw [List.filterMap_cons_some htick, List.filterMap_nil, Option.toList_some]

variable [DecidableEq σ] [DecidableEq κ]

theorem attested_of_run (hrun : Transition.run (step su) (init su) es = some r) :
    r.refresh.Attested su.rzid (ticks es) := by
  refine Transition.invariant_of_events
    (I := fun es (r : Router σ κ) => r.refresh.Attested su.rzid (ticks es)) ?_ ?_ hrun
  · exact ⟨attested_init _ _ _, fun snapshot hbuilt => by cases hbuilt⟩
  · intro es r e r' hrun h hstep
    rw [ticks_concat]
    cases routerStep hstep with
    | refresh e refresh hrefresh => exact LiveState.attested_step h hrefresh
    | _ =>
      show LiveState.Attested su.rzid (ticks es ++ []) _
      rw [List.append_nil]
      exact h

/-- Every frame that is on a connection, or about to be sent, for a request is on a connection of a
hop that RzID listed for a zone (shard) to which it gave the segment of the request, in ticks before
the request was served. -/
theorem frames_to_listed_hops (su : Setup σ κ) (es : List (RouterEvent σ κ)) (r : Router σ κ)
    (hrun : Transition.run (step su) (init su) es = some r) (c : κ) (out : Outgoing)
    (hout : out ∈ (r.net.shared.conns c).frames) (tx : Nat) (htx : out.tx = some tx) :
    ∃ t id, out.bytes = (su.requests t).frameFor id ∧
      ∃ es₁ r₁ owner hops, es₁ <+: es ∧
        Transition.run (step su) (init su) es₁ = some r₁ ∧ r₁.Serves su t ∧
        (∃ tick ∈ ticks es₁, tick.answers.GivesSegment su.rzid (su.requests t).segment owner) ∧
        (∃ tick ∈ ticks es₁, tick.answers.GivesHops su.rzid owner hops) ∧
        (su.hopOf c).id ∈ hops := by
  obtain ⟨es', hnet⟩ := net_of_run hrun
  obtain ⟨t, id, hident, -, hbytes, -⟩ := (delivers_of_run hnet).shape.frame c out hout tx htx
  obtain ⟨⟨es₁, r₁, es₂, r₂, hbefore₁, hbefore₂, hrun₁, hserves₁, hlisted, -⟩, -⟩ :=
    (onRoute_of_run hrun).channels tx t c id hident
  obtain ⟨owner, hops, hsegment, hhops, hid⟩ := (attested_of_run hrun₁).routing.of_lookup hlisted
  exact ⟨t, id, hbytes, es₁, r₁, owner, hops, hbefore₁.trans hbefore₂, hrun₁, hserves₁, hsegment,
    hhops, hid⟩

/-- The frame for segment `lyon` goes to `hop1`, which RzID has listed for zone `a`. -/
theorem frames_to_listed_hops_lyon :
    ∃ r out, Transition.run (step lyonSetup) (init lyonSetup) lyonForwarded = some r ∧
      out ∈ (r.net.shared.conns ()).frames ∧
      ∃ owner hops, "hop1" ∈ hops ∧ lyonTick.answers.GivesSegment lyonSetup.rzid "lyon" owner ∧
        lyonTick.answers.GivesHops lyonSetup.rzid owner hops := by
  obtain ⟨r, hrun, hr⟩ := Option.map_eq_some_iff.mp (show
    (Transition.run (step lyonSetup) (init lyonSetup) lyonForwarded).map
      (fun r => (r.net.shared.conns ()).frames.map Outgoing.tx) = some [some 0] by decide)
  obtain ⟨out, hframes, htx⟩ := List.map_eq_singleton_iff.mp hr
  have hout : out ∈ (r.net.shared.conns ()).frames := by
    rw [hframes]
    exact List.mem_singleton_self out
  obtain ⟨t, id, -, es₁, r₁, owner, hops, hbefore, -, -, ⟨tick, htick, hsegment⟩,
    ⟨tick', htick', hhops⟩, hid⟩ := frames_to_listed_hops lyonSetup _ r hrun () out hout 0 htx
  -- the run has one tick
  have honly : ∀ tick ∈ ticks es₁, tick = lyonTick := by
    intro tick htick
    have hmem : tick ∈ ticks lyonForwarded := (hbefore.filterMap _).subset htick
    exact List.mem_singleton.mp hmem
  rw [honly tick htick] at hsegment
  rw [honly tick' htick'] at hhops
  exact ⟨r, out, hrun, hout, owner, hops, hid, hsegment, hhops⟩

end Router

end RzRouter
