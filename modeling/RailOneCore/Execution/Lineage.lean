import RailOneCore.Execution.Budget

/-!
# The lineage of attempts

Each attempt signs where it stands: its number, the attempt before it and the route that it takes.
Plans keep these facts in pointers that the operations update in different ways, so that the signed
lineage is right only as long as the pointers name the last attempt.  `ExecutionPlan.Lineage` is that
invariant, for a plan and the attempts of it in the order of their start.
-/

namespace RailOne

open Concurrent Ordered

/-- What is fixed when an attempt is born. -/
structure Birth where
  rttId : String
  routeId : String
  /-- The signed payload. -/
  payload : Fields

def RttAttemptRecord.birth (a : RttAttemptRecord) : Birth := ⟨a.rttId, a.routeId, a.signedRtt.payload⟩

theorem SameAttempt.birth {a b : RttAttemptRecord} (h : SameAttempt a b) : b.birth = a.birth := by
  simp [RttAttemptRecord.birth, h.rttId, h.routeId, h.signedRtt]

/-- The entry before the `n`-th one, when counting from 0. -/
def before {α : Type} (l : List α) : ℕ → Option α
  | 0 => none
  | n + 1 => l[n]?

theorem before_length {α : Type} (l : List α) : before l l.length = l.getLast? := by
  cases h : l.length with
  | zero =>
    rw [List.length_eq_zero_iff.mp h]
    rfl
  | succ n =>
    rw [List.getLast?_eq_getElem?, h]
    rfl

theorem before_append {α : Type} {l l' : List α} {n : ℕ} (h : n ≤ l.length) :
    before (l ++ l') n = before l n := by
  cases n with
  | zero => rfl
  | succ n => exact List.getElem?_append_left h

/-- The signed lineage of the `n`-th attempt, when counting from 0, after the attempt `previous`. -/
structure Birth.Follows (b : Birth) (n : ℕ) (previous : Option Birth) : Prop where
  attemptNumber : b.payload.get "attempt_number" = some (.int (n + 1))
  replayGeneration : b.payload.get "replay_generation" = some (.int n)
  previousRttId : b.payload.get "previous_rtt_id" = some (.ofOption (previous.map Birth.rttId))
  previousRouteId : b.payload.get "previous_route_id" = some (.ofOption (previous.map Birth.routeId))

/-- The plan and its attempts, in the order of their start: no route is attempted twice, the routes
that are left are the ranked ones without those attempted, and every attempt signs its place and one
of the ranked routes. -/
structure ExecutionPlan.Lineage (d : Deployment) (p : ExecutionPlan) (bs : List Birth) : Prop where
  ranks : p.rankedRoutes.map RankedRoute.rank = List.range' 1 p.rankedRoutes.length
  ids : (p.rankedRoutes.map fun r => r.candidate.routeId).Nodup
  unique : (bs.map Birth.routeId).Nodup
  remaining : p.remainingRouteIds =
    (p.rankedRoutes.map fun r => r.candidate.routeId).filter (· ∉ bs.map Birth.routeId)
  follows : ∀ (n : ℕ) (b : Birth), bs[n]? = some b → b.Follows n (before bs n)
  pins : ∀ b ∈ bs, ∃ r ∈ p.rankedRoutes, r.candidate.routeId = b.routeId ∧
    ∃ route, r.candidate.toPayload d.rt = .ok route ∧ b.payload.get "route" = some (.obj route)

/-- The pointers of the plan name the last attempt. -/
structure ExecutionPlan.PointsToLast (p : ExecutionPlan) (bs : List Birth) : Prop where
  used : p.attemptsUsed = bs.length
  current : ∀ c, p.currentRttId = some c → bs.getLast?.map Birth.rttId = some c
  previous : p.currentRttId = none → p.previousRttId = bs.getLast?.map Birth.rttId ∧
    p.previousRouteId = bs.getLast?.map Birth.routeId

/-! ## The route of the next attempt -/

/-- The best-ranked route that has not been attempted and that the remaining budget covers. -/
def ExecutionPlan.bestRoute (p : ExecutionPlan) (bs : List Birth) : Option RankedRoute :=
  p.rankedRoutes.find? fun r => decide (r.candidate.routeId ∉ bs.map Birth.routeId) &&
    decide (r.candidate.estimatedCostMinor ≤ p.routingBudgetRemainingMinor)

namespace RttAttemptService

/-- The search through the identifiers of ranked routes is the search through the routes. -/
theorem firstAffordable_filter {p : ExecutionPlan} {P : String → Bool}
    (hnodup : (p.rankedRoutes.map fun r => r.candidate.routeId).Nodup) (l : List RankedRoute)
    (hl : ∀ r ∈ l, r ∈ p.rankedRoutes) :
    firstAffordable p ((l.map fun r => r.candidate.routeId).filter P) =
      .ok (l.find? fun r => P r.candidate.routeId &&
        decide (r.candidate.estimatedCostMinor ≤ p.routingBudgetRemainingMinor)) := by
  induction l with
  | nil => rfl
  | cons r l ih =>
    have hrest := ih fun r' hr' => hl r' (List.mem_cons_of_mem _ hr')
    have hr : r ∈ p.rankedRoutes := hl r List.mem_cons_self
    rw [List.map_cons, List.filter_cons, List.find?_cons]
    by_cases hP : P r.candidate.routeId = true
    · -- identifiers are unique, so that the route with the identifier of `r` is `r`
      have hfind : p.rankedRoutes.find? (fun q => q.candidate.routeId == r.candidate.routeId) =
          some r := by
        cases hfound : p.rankedRoutes.find? fun q => q.candidate.routeId == r.candidate.routeId with
        | none =>
          have hne := List.find?_eq_none.mp hfound r hr
          simp at hne
        | some q =>
          have hid : q.candidate.routeId = r.candidate.routeId := by
            simpa using List.find?_some hfound
          rw [List.inj_on_of_nodup_map hnodup (List.mem_of_find?_eq_some hfound) hr hid]
      rw [if_pos hP, firstAffordable, hfind, hP, Bool.true_and]
      dsimp only
      by_cases hcost : r.candidate.estimatedCostMinor ≤ p.routingBudgetRemainingMinor
      · rw [if_pos hcost, decide_eq_true hcost]
      · rw [if_neg hcost, decide_eq_false hcost]
        exact hrest
    · rw [if_neg hP, Bool.eq_false_iff.mpr hP, Bool.false_and]
      exact hrest

/-- `start_next` selects the best route. -/
theorem bestRoute_of_selectRoute {d : Deployment} {p : ExecutionPlan} {bs : List Birth}
    {selected : RankedRoute} (hp : p.Lineage d bs) (h : selectRoute p = .ok selected) :
    p.bestRoute bs = some selected := by
  simp only [selectRoute, bind_eq_ok, require_eq_ok] at h
  obtain ⟨-, -, -, -, -, -, found, hfound, h⟩ := h
  rw [hp.remaining, firstAffordable_filter hp.ids p.rankedRoutes fun _ hr => hr] at hfound
  cases found with
  | none => cases h
  | some r =>
    rw [pure_eq_ok] at h
    subst h
    exact Except.ok.inj hfound

end RttAttemptService

/-! ## Lineage along a run -/

namespace DeterministicRouteScorer

theorem rank_enumerateRanks (start : ℕ) (l : List Scored) :
    (enumerateRanks start l).map RankedRoute.rank = List.range' start l.length := by
  induction l generalizing start with
  | nil => rfl
  | cons s l ih => rw [enumerateRanks, List.map_cons, ih, List.length_cons, List.range'_succ]

/-- The ranks are `1, 2, …` in the order of the ranking. -/
theorem ranks_of_rank {rt : Runtime} {weights : RouteScoreWeights} {q : RankingRequest}
    {cs : List RouteCandidate} {ranked : List RankedRoute}
    (h : rank rt weights cs q = .ok ranked) :
    ranked.map RankedRoute.rank = List.range' 1 ranked.length := by
  unfold rank at h
  split at h
  · cases h
  · simp only [bind_eq_ok, pure_eq_ok] at h
    obtain ⟨scored, -, rfl⟩ := h
    have hlength : (enumerateRanks 1 (scored.insertionSort precedes)).length =
        (scored.insertionSort precedes).length := by
      have hmap := congrArg List.length (rank_enumerateRanks 1 (scored.insertionSort precedes))
      simpa only [List.length_map, List.length_range'] using hmap
    rw [rank_enumerateRanks, hlength]

end DeterministicRouteScorer

namespace ExecutionPlan

variable {d : Deployment} {p : ExecutionPlan} {bs : List Birth}

/-- A drafted plan has not attempted anything. -/
theorem lineage_of_draft {signedUtt : SignatureEnvelope} {candidates : List RouteCandidate}
    {instant : Instant}
    (h : ExecutionPlanningService.draft d p.uttId signedUtt candidates instant = .ok p) :
    p.Lineage d [] ∧ p.PointsToLast [] := by
  obtain ⟨-, hnodup, -⟩ := ExecutionPlanningService.routes_of_draft h
  obtain ⟨request, ranked, planId, maxAttempts, -, hrank, -, hp⟩ :=
    ExecutionPlanningService.draft_eq_ok h
  have hranked : p.rankedRoutes = ranked := congrArg ExecutionPlan.rankedRoutes hp
  refine ⟨⟨?_, hnodup, List.nodup_nil, ?_, by simp, by simp⟩, ?_, ?_, ?_⟩
  · rw [hranked]
    exact DeterministicRouteScorer.ranks_of_rank hrank
  · rw [hp]
    simp [ExecutionPlanningService.newPlan]
  · rw [hp]
    rfl
  · rw [hp]
    nofun
  · rw [hp]
    exact fun _ => ⟨rfl, rfl⟩

/-- What the payload of a new attempt says. -/
theorem follows_of_rttPayload {a : RttAttemptRecord} {selected : RankedRoute} {uttId : String}
    {uttHash : Json} {instant : Instant} (hpoints : p.PointsToLast bs) (hidle : p.currentRttId = none)
    (h : RttAttemptService.rttPayload d a.rttId uttId uttHash p selected instant =
      .ok a.signedRtt.payload) :
    a.birth.Follows bs.length bs.getLast? ∧ ∃ route, selected.candidate.toPayload d.rt = .ok route ∧
      a.birth.payload.get "route" = some (.obj route) := by
  obtain ⟨hrtt, hroute⟩ := hpoints.previous hidle
  simp only [RttAttemptService.rttPayload, bind_eq_ok, pure_eq_ok] at h
  obtain ⟨route, hpayload, hfields⟩ := h
  have hbirth : a.birth.payload = a.signedRtt.payload := rfl
  refine ⟨⟨?_, ?_, ?_, ?_⟩, route, hpayload, ?_⟩
  · rw [hbirth, ← hfields, ← hpoints.used]
    rfl
  · rw [hbirth, ← hfields, ← hpoints.used]
    rfl
  · rw [hbirth, ← hfields, ← hrtt]
    rfl
  · rw [hbirth, ← hfields, ← hroute]
    rfl
  · rw [hbirth, ← hfields]
    rfl

/-- Starting an attempt extends the lineage. -/
theorem Lineage.start {a : RttAttemptRecord} {selected : RankedRoute} {uttHash : Json}
    {instant : Instant} (hp : p.Lineage d bs) (hpoints : p.PointsToLast bs)
    (hselected : RttAttemptService.selectRoute p = .ok selected)
    (hroute : a.routeId = selected.candidate.routeId)
    (hpayload : RttAttemptService.rttPayload d a.rttId p.uttId uttHash p selected instant =
      .ok a.signedRtt.payload) :
    (p.afterStart a.rttId selected.candidate.routeId instant).Lineage d (bs ++ [a.birth]) ∧
      (p.afterStart a.rttId selected.candidate.routeId instant).PointsToLast (bs ++ [a.birth]) := by
  obtain ⟨-, hidle, -, hmem, hleft⟩ := RttAttemptService.selectRoute_eq_ok hselected
  obtain ⟨hfollows, hpins⟩ := follows_of_rttPayload hpoints hidle hpayload
  have hid : a.birth.routeId = selected.candidate.routeId := hroute
  have hnew : selected.candidate.routeId ∉ bs.map Birth.routeId := by
    rw [hp.remaining] at hleft
    simpa using List.of_mem_filter hleft
  refine ⟨⟨hp.ranks, hp.ids, ?_, ?_, ?_, ?_⟩, ?_, ?_, ?_⟩
  · rw [List.map_append, List.map_singleton, hid, List.nodup_append]
    refine ⟨hp.unique, List.nodup_singleton _, fun x hx y hy => ?_⟩
    rw [List.mem_singleton] at hy
    exact fun heq => hnew (hy ▸ heq ▸ hx)
  · change p.remainingRouteIds.filter _ = _
    rw [hp.remaining, List.filter_filter]
    refine List.filter_congr fun x _ => ?_
    simp only [List.map_append, List.map_singleton, hid, List.mem_append, List.mem_singleton,
      not_or, ne_eq, Bool.decide_and, Bool.and_comm]
  · intro n b hb
    rcases Nat.lt_or_ge n bs.length with hn | hn
    · rw [List.getElem?_append_left hn] at hb
      rw [before_append hn.le]
      exact hp.follows n b hb
    · rw [List.getElem?_append_right hn, List.getElem?_singleton] at hb
      split at hb
      · have hlast : n = bs.length := by omega
        cases hb
        rw [hlast, before_append le_rfl, before_length]
        exact hfollows
      · cases hb
  · intro b hb
    rcases List.mem_append.mp hb with hb | hb
    · exact hp.pins b hb
    · rw [List.mem_singleton] at hb
      subst hb
      exact ⟨selected, hmem, hid.symm, hpins⟩
  · change p.attemptsUsed + 1 = _
    rw [hpoints.used, List.length_append, List.length_singleton]
  · intro c hc
    rw [List.getLast?_append_of_ne_nil _ (List.cons_ne_nil _ _)]
    exact hc
  · nofun

/-- The lineage does not change when the last attempt gets an outcome. -/
theorem Lineage.conclude {q : ExecutionPlan} {b a : RttAttemptRecord} {r : String}
    (hq : q.Lineage d bs) (hpoints : q.PointsToLast bs) (hb : SameAttempt b a)
    (hcurrent : q.currentRttId = some a.rttId) (hr : r = a.rttId)
    (hlast : ∀ c, bs.getLast? = some c → c.rttId = a.rttId → c = a.birth)
    (h : Execution.Concludes q b r p a) : p.Lineage d bs ∧ p.PointsToLast bs := by
  obtain ⟨last, hmem, hrtt⟩ := Option.map_eq_some_iff.mp (hpoints.current _ hcurrent)
  have hbirth : last = a.birth := hlast last hmem hrtt
  subst hbirth
  have hroute : b.routeId = a.routeId := hb.routeId.symm
  have hprevious : some b.routeId = bs.getLast?.map Birth.routeId := by
    rw [hmem, hroute]
    rfl
  have hid : some r = bs.getLast?.map Birth.rttId := by
    rw [hmem, hr]
    rfl
  cases h with
  | failure code disposition cost instant hcost =>
    refine ⟨⟨hq.ranks, hq.ids, hq.unique, hq.remaining, hq.follows, hq.pins⟩, hpoints.used, ?_, ?_⟩
    · intro c hc
      simp only [ExecutionPlan.afterFailure] at hc
      split at hc
      · rw [← hid, ← hc]
      · cases hc
    · exact fun _ => ⟨hid, hprevious⟩
  | success cost instant hcost =>
    refine ⟨⟨hq.ranks, hq.ids, hq.unique, hq.remaining, hq.follows, hq.pins⟩, hpoints.used, ?_,
      fun _ => ⟨hid, hprevious⟩⟩
    rintro _ ⟨⟩

end ExecutionPlan

/-- Every plan has the lineage of its attempts. -/
def ExecutionStore.Lineages (d : Deployment) (st : ExecutionStore) : Prop :=
  ∀ id p, st.plans.get? id = some p →
    p.Lineage d ((st.attemptsOf id).map RttAttemptRecord.birth) ∧
      p.PointsToLast ((st.attemptsOf id).map RttAttemptRecord.birth)

namespace Execution

variable {d : Deployment}

/-- One step of a call that names its RTT trimmed keeps the lineages. -/
theorem lineages_of_advances {named : Option String} {o : Op} {s s' : ExecutionStore}
    (hs : s.Consistent) (hnamed : ∀ r, named = some r → strip r = r) (hlineages : s.Lineages d)
    (h : Advances d named o s s') : s'.Lineages d := by
  cases h with
  | unchanged => exact hlineages
  | planned p signedUtt candidates instant hdraft hutt hid =>
    intro id p' hp'
    rw [Dict.get?_set] at hp'
    split at hp'
    · next heq =>
      cases hp'
      change p.Lineage d ((s.attemptsOf id).map _) ∧ p.PointsToLast ((s.attemptsOf id).map _)
      rw [attemptsOf_of_none hs (heq ▸ hid), List.map_nil]
      exact ExecutionPlan.lineage_of_draft hdraft
    · exact hlineages id p' hp'
  | started q a selected instant uttHash hq hselected hfresh ha hpayload =>
    intro id p' hp'
    have hplan : a.planId = q.planId := by
      rw [ha]
      rfl
    have hroute : a.routeId = selected.candidate.routeId := by
      rw [ha]
      rfl
    rw [ExecutionStore.attemptsOf_put_of_none hfresh]
    rcases plan_of_put hp' with ⟨hid, rfl⟩ | ⟨hne, hold⟩
    · have hid' : id = q.planId := hid
      subst hid'
      obtain ⟨hlineage, hpoints⟩ := hlineages _ q hq
      rw [if_pos hplan, List.map_append, List.map_singleton]
      exact hlineage.start hpoints hselected hroute hpayload
    · rw [if_neg fun h => hne (h.symm.trans hplan)]
      exact hlineages id p' hold
  | concluded q p b prior a r hnamed' ho hq hcurrent hprior hsame hplan hr hb hconcludes =>
    intro id p' hp'
    obtain ⟨⟨l₁, l₂, hbefore, hafter⟩, hothers⟩ :=
      ExecutionStore.attemptsOf_put_of_some (p := p) hprior hsame.planId.symm
    have hid : p.planId = q.planId := hconcludes.samePlan.planId
    rcases plan_of_put hp' with ⟨rfl, rfl⟩ | ⟨hne, hold⟩
    · obtain ⟨hlineage, hpoints⟩ := hlineages _ q hq
      have hbirths : ((s.put p' a).attemptsOf p'.planId).map RttAttemptRecord.birth =
          (s.attemptsOf q.planId).map RttAttemptRecord.birth := by
        rw [hid, ← hplan, hafter, hbefore]
        simp [hsame.birth]
      rw [hbirths]
      refine hlineage.conclude hpoints hb hcurrent ((hnamed r hnamed').symm.trans hr) ?_ hconcludes
      -- the attempt with this identifier is the one that gets the outcome
      intro c hlast hrtt
      obtain ⟨a', ha', rfl⟩ := List.mem_map.mp (List.mem_of_getLast? hlast)
      obtain ⟨⟨key, hkey⟩, -⟩ := ExecutionStore.mem_attemptsOf.mp ha'
      have hkey' : a.rttId = key := hrtt.symm.trans (hs.attemptKey hkey).1
      rw [← hkey', hprior, Option.some.injEq] at hkey
      rw [← hkey, hsame.birth]
    · rw [hothers id fun h => hne (h.trans (hplan.trans hid.symm))]
      exact hlineages id p' hold

/-- The lineages in sequential runs with identifiers as issued. -/
theorem lineages_of_sequentially {w₀ w : World} (h₀ : w₀.executions = .empty)
    (h : (system d).Sequentially Call.PassesIssuedId w₀ w) : w.executions.Lineages d := by
  obtain ⟨x, hx, rfl, hcalls⟩ := (system d).reachable_of_sequentially h
  have hempty : ExecutionStore.empty.Lineages d := by
    intro id p hp
    simp [ExecutionStore.empty] at hp
  refine invariant_of_reachable (K := fun _ => True) h₀ hempty ?_ (fun _ _ => trivial)
    ((system d).steps_guarded_of_calls hcalls hx)
  intro c o w w' r hs hlineages hc _ hadv _
  refine lineages_of_advances hs (fun r hr => ?_) hlineages hadv
  cases c with
  | recordFailure | recordSuccess | resolveReconciliation =>
    cases hr
    exact hc
  | _ => cases hr

/-! ## A start -/

/-- A program that does not write the execution store leaves it alone. -/
theorem executions_of_runs {α : Type} {p : Code α} {w w' : World} {r : Except Exn α}
    (hp : p.Ops fun o => o.part ≠ .executions) (h : p.Runs (World.sem d.rt) w r w') :
    w'.executions = w.executions := by
  have hframe : ∀ (o : Op) (s : World) (r : o.Resp) (s' : World), o.part ≠ .executions →
      World.sem d.rt o s r s' → s'.executions = s.executions :=
    fun _ _ _ _ ho hsem => (World.frame_of_sem hsem).executions ho
  exact h.part_eq hframe hp

/-- What a start that returns has done, when nothing interfered with it. -/
theorem runs_startNext {uttId : String} {at_ : Datetime} {a : RttAttemptRecord} {w w' : World}
    (h : (RttAttemptService.startNext d uttId at_).Runs (World.sem d.rt) w (.ok a) w') :
    ∃ q selected instant uttHash, w.executions.requirePlanForUtt uttId = .ok q ∧
      RttAttemptService.selectRoute q = .ok selected ∧
      a = RttAttemptService.newAttempt a.rttId uttId q selected.candidate.routeId a.signedRtt
        instant ∧
      RttAttemptService.rttPayload d a.rttId uttId uttHash q selected instant =
        .ok a.signedRtt.payload ∧
      w.executions.attempts.get? a.rttId = none ∧
      w'.executions = w.executions.put (q.afterStart a.rttId selected.candidate.routeId instant) a := by
  unfold RttAttemptService.startNext at h
  simp only [Prog.runs_bind_ok, Prog.runs_lift_ok] at h
  obtain ⟨instant, w₀, ⟨-, hw₀⟩, key, w₀', ⟨-, hw₀'⟩, signedUtt, w₁, hutt, _, w₂, hvalid, h⟩ := h
  rw [hw₀', hw₀] at hutt
  obtain ⟨_, _, ⟨-, rfl⟩, _, w₃, hendpoints, q, w₄, hq, selected, _, ⟨hselected, rfl⟩, h⟩ := h
  obtain ⟨rttId, _, ⟨-, rfl⟩, uttHash, _, ⟨-, rfl⟩, payload, _, ⟨hpayload, rfl⟩, h⟩ := h
  obtain ⟨signedRtt, w₅, hsign, _, w₆, hcommit, hret⟩ := h
  obtain ⟨ha, rfl⟩ := Prog.runs_ret.mp hret
  have ha := Except.ok.inj ha
  -- nothing before the commit writes the execution store
  have h₁ := executions_of_runs (ops_requireUtt.mpr (by rintro ⟨⟩)) hutt
  have h₂ := executions_of_runs (ops_requireValid (by rintro ⟨⟩)) hvalid
  have h₃ := executions_of_runs
    (RttAttemptService.ops_validateEndpoints.mono fun _ ho => by simp [ho]) hendpoints
  obtain ⟨hread, rfl⟩ := sem_requirePlanForUtt.mp (Prog.runs_call.mp hq)
  have h₅ := executions_of_runs (ops_sign.mpr (by rintro ⟨⟩)) hsign
  obtain ⟨hsigned, -⟩ := sem_sign_ok.mp (Prog.runs_call.mp hsign)
  unfold Code.commitStart at hcommit
  obtain ⟨_, w₆', hutt', hcommit⟩ := Prog.runs_bind_ok.mp hcommit
  have h₆ := executions_of_runs (ops_requireUtt.mpr (by rintro ⟨⟩)) hutt'
  obtain ⟨_, st, hst, -, rfl⟩ | ⟨_, -, hr, -⟩ :=
    (sem_commitStart.mp (Prog.runs_call.mp hcommit)).cases
  · have hsame : w₆'.executions = w.executions := by
      rw [h₆, h₅, h₃, h₂, h₁]
    obtain ⟨rfl, -, -, hfresh, -⟩ := ExecutionStore.commitStart_eq_ok hst
    rw [hsame] at hfresh
    rw [h₃, h₂, h₁] at hread
    have hfields : signedRtt.payload = payload := (SignatureService.signArtifact_eq_ok hsigned).1
    subst ha
    exact ⟨q, selected, instant, uttHash, hread.symm, hselected, rfl, hfields ▸ hpayload, hfresh,
      by rw [← hsame]; rfl⟩
  · cases hr

end Execution

/-- In every world that a sequential run with identifiers as issued reaches, every plan has the
lineage of its attempts, and an attempt that `start_next` adds is pinned to the best-ranked route that
has not been attempted and that the remaining budget covers. -/
theorem retry_lineage {d : Deployment} {w₀ w : World} (h₀ : w₀.executions = .empty)
    (h : (system d).Sequentially Call.PassesIssuedId w₀ w) :
    (∀ id p, w.executions.plans.get? id = some p →
        p.Lineage d ((w.executions.attemptsOf id).map RttAttemptRecord.birth)) ∧
      ∀ uttId at_ a w',
        ((Call.startNext uttId at_).body d).Runs (World.sem d.rt) w (.ok (.attempt a)) w' →
          ∃ p selected route, w.executions.plans.get? a.planId = some p ∧
            p.bestRoute ((w.executions.attemptsOf a.planId).map RttAttemptRecord.birth) =
              some selected ∧
            a.routeId = selected.candidate.routeId ∧ selected.candidate.toPayload d.rt = .ok route ∧
            a.signedRtt.payload.get "route" = some (.obj route) ∧
            w'.executions.attemptsOf a.planId = w.executions.attemptsOf a.planId ++ [a] := by
  have hlineages := Execution.lineages_of_sequentially h₀ h
  refine ⟨fun id p hp => (hlineages id p hp).1, fun uttId at_ a w' hrun => ?_⟩
  obtain ⟨a', hrun, ha'⟩ := Prog.runs_map_ok.mp hrun
  cases ha'
  obtain ⟨q, selected, instant, uttHash, hq, hselected, ha, hpayload, hfresh, hw'⟩ :=
    Execution.runs_startNext hrun
  obtain ⟨planId, -, hget⟩ := ExecutionStore.requirePlanForUtt_eq_ok.mp hq
  obtain ⟨x, hx, rfl, -⟩ := (system d).reachable_of_sequentially h
  have hcons : w₀.executions.Consistent := h₀ ▸ .empty
  have hkey : q.planId = planId :=
    (Execution.consistent_of_reachable hcons hx).planKey hget
  have hplan : a.planId = q.planId := congrArg RttAttemptRecord.planId ha
  obtain ⟨hlineage, hpoints⟩ := hlineages planId q hget
  have hidle := (RttAttemptService.selectRoute_eq_ok hselected).2.1
  obtain ⟨-, route, hroute, hfield⟩ :=
    ExecutionPlan.follows_of_rttPayload hpoints hidle hpayload
  refine ⟨q, selected, route, ?_, ?_, congrArg RttAttemptRecord.routeId ha, hroute, hfield, ?_⟩
  · rw [hplan, hkey]
    exact hget
  · rw [hplan, hkey]
    exact RttAttemptService.bestRoute_of_selectRoute hlineage hselected
  · rw [hw', ExecutionStore.attemptsOf_put_of_none hfresh, if_pos rfl]

/-- In the sample, the second attempt follows the first one. -/
theorem retry_lineage_sample :
    ∃ p, (Sample.runAll (Sample.failedOnce ++ [.startNext "UTT-1" (.aware 0)])).executions.plans.get?
        "PLAN-ce74" = some p ∧
      p.attemptsUsed = 2 ∧
      p.Lineage Sample.deployment
        (((Sample.runAll (Sample.failedOnce ++ [.startNext "UTT-1" (.aware 0)])).executions.attemptsOf
          "PLAN-ce74").map RttAttemptRecord.birth) := by
  have hused : ((Sample.runAll
      (Sample.failedOnce ++ [.startNext "UTT-1" (.aware 0)])).executions.plans.get?
        "PLAN-ce74").map ExecutionPlan.attemptsUsed = some 2 := by decide +kernel
  have hissued : ∀ c ∈ Sample.failedOnce ++ [.startNext "UTT-1" (.aware 0)],
      c.PassesIssuedId := by
    simp only [Sample.failedOnce, List.cons_append, List.nil_append, List.forall_mem_cons,
      Call.PassesIssuedId]
    refine ⟨?_, ?_, ?_, ?_, ?_⟩
    · decide
    · decide
    · decide
    · decide
    · simp
  obtain ⟨p, hp, hused⟩ := Option.map_eq_some_iff.mp hused
  exact ⟨p, hp, hused, (retry_lineage rfl (Sample.sequentially_runAll hissued)).1 _ p hp⟩

end RailOne
