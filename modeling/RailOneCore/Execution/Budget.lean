import RailOneCore.Execution.Sequential
import RailOneCore.Execution.Steps

/-!
# Routing budgets

A plan adds up the costs that its attempts report and compares what is left of its budget with the
estimated costs of its remaining routes.  The sum is the sum of the costs that the attempts record, as
long as no outcome is recorded over one that has a cost already; and a plan that is active with
nothing in flight can always start another attempt.
-/

namespace RailOne

open Concurrent Ordered

/-! ## Costs -/

/-- The costs that attempts record. -/
def recordedCosts (as : List RttAttemptRecord) : Int :=
  (as.filterMap RttAttemptRecord.actualCostMinor).sum

theorem recordedCosts_append (as bs : List RttAttemptRecord) :
    recordedCosts (as ++ bs) = recordedCosts as + recordedCosts bs := by
  rw [recordedCosts, List.filterMap_append, List.sum_append]
  rfl

theorem recordedCosts_cons (a : RttAttemptRecord) (as : List RttAttemptRecord) :
    recordedCosts (a :: as) = a.actualCostMinor.getD 0 + recordedCosts as := by
  cases h : a.actualCostMinor with
  | none => simp [recordedCosts, h]
  | some c => simp [recordedCosts, h]

/-- Every plan has spent what its attempts record. -/
def ExecutionStore.Conserves (st : ExecutionStore) : Prop :=
  ∀ id p, st.plans.get? id = some p → p.routingCostSpentMinor = recordedCosts (st.attemptsOf id)

/-- The operation does not record an outcome over one that has a cost. -/
def Op.chargesOnce : Op → World → Bool
  | .commitTransition _ _ a, w =>
    (w.executions.attempts.get? a.rttId).all fun b => b.actualCostMinor.getD 0 == 0
  | _, _ => true

namespace Execution

/-- An outcome adds one cost to the plan and records it with the attempt. -/
theorem Concludes.cost {q p : ExecutionPlan} {b a : RttAttemptRecord} {r : String}
    (h : Concludes q b r p a) : ∃ cost, 0 ≤ cost ∧ a.actualCostMinor = some cost ∧
      p.routingCostSpentMinor = q.routingCostSpentMinor + cost := by
  cases h with
  | failure code disposition cost instant hcost => exact ⟨cost, hcost, rfl, rfl⟩
  | success cost instant hcost => exact ⟨cost, hcost, rfl, rfl⟩

/-- One step keeps the sum. -/
theorem conserves_of_advances {d : Deployment} {named : Option String} {o : Op} {w w' : World}
    (hs : w.executions.Consistent) (hsum : w.executions.Conserves) (hcharges : o.chargesOnce w = true)
    (h : Advances d named o w.executions w'.executions) : w'.executions.Conserves := by
  generalize hs' : w'.executions = s' at h
  cases h with
  | unchanged => exact hsum
  | planned p signedUtt candidates instant hdraft hutt hid =>
    intro id p' hp'
    rw [Dict.get?_set] at hp'
    split at hp'
    · next heq =>
      cases hp'
      have hnone : w.executions.attemptsOf id = [] := attemptsOf_of_none hs (heq ▸ hid)
      obtain ⟨request, ranked, planId, maxAttempts, -, -, -, hp⟩ :=
        ExecutionPlanningService.draft_eq_ok hdraft
      change _ = recordedCosts (w.executions.attemptsOf id)
      rw [hnone, hp]
      rfl
    · exact hsum id p' hp'
  | started q a selected instant uttHash hq hselected hfresh ha hpayload =>
    intro id p' hp'
    rw [ExecutionStore.attemptsOf_put_of_none hfresh]
    have hplan : a.planId = q.planId := by
      rw [ha]
      rfl
    rcases plan_of_put hp' with ⟨hid, rfl⟩ | ⟨hne, hold⟩
    · have hcost : a.actualCostMinor = none := by
        rw [ha]
        rfl
      have hid' : id = q.planId := hid
      subst hid'
      rw [if_pos hplan, recordedCosts_append, recordedCosts_cons, hcost]
      have hbefore := hsum _ q hq
      change q.routingCostSpentMinor = _
      simp [hbefore, recordedCosts]
    · rw [if_neg fun h => hne (h.symm.trans hplan)]
      exact hsum id p' hold
  | concluded q p b prior a r hnamed ho hq hcurrent hprior hsame hplan hr hb hconcludes =>
    intro id p' hp'
    obtain ⟨⟨l₁, l₂, hbefore, hafter⟩, hothers⟩ :=
      ExecutionStore.attemptsOf_put_of_some (p := p) hprior hsame.planId.symm
    have hid : p.planId = q.planId := hconcludes.samePlan.planId
    rcases plan_of_put hp' with ⟨rfl, rfl⟩ | ⟨hne, hold⟩
    · obtain ⟨cost, -, hcost, hspent⟩ := hconcludes.cost
      have hzero : prior.actualCostMinor.getD 0 = 0 := by
        rw [ho] at hcharges
        simpa [Op.chargesOnce, hprior] using hcharges
      have hold := hsum _ q hq
      rw [← hplan, hbefore, recordedCosts_append, recordedCosts_cons, hzero] at hold
      rw [hid, ← hplan, hafter, recordedCosts_append, recordedCosts_cons, hcost, hspent, hold]
      simp only [Option.getD_some]
      omega
    · rw [hothers id fun h => hne (h.trans (hplan.trans hid.symm))]
      exact hsum id p' hold

end Execution

/-- In every run in which no outcome is recorded over one that has a cost, every plan has spent
exactly what its attempts record. -/
theorem spent_eq_recordedCosts {d : Deployment} {w₀ : World}
    {x : Config Op.Resp Call Exn Reply World} (h₀ : w₀.executions = .empty)
    (hx : ((system d).guarded fun _ o w => o.chargesOnce w = true).Reachable w₀ x) {id : String}
    {p : ExecutionPlan} (hp : x.state.executions.plans.get? id = some p) :
    p.routingCostSpentMinor = recordedCosts (x.state.executions.attemptsOf id) := by
  have hempty : ExecutionStore.empty.Conserves := by
    intro id p hp
    simp [ExecutionStore.empty] at hp
  refine Execution.invariant_of_reachable (K := fun _ => True) h₀ hempty ?_ (fun _ _ => trivial) hx
    id p hp
  intro c o w w' r hs hsum hcharges hsem hadv _
  exact Execution.conserves_of_advances hs hsum hcharges hadv

namespace Sample

/-- The outcome of the attempt is unknown at first, with a cost of 5, and reconciled later with a cost
of 7. -/
def reconciled : List Call :=
  [.buildPlan "UTT-1" [route "A" 100, route "B" 200] (.aware 0), .startNext "UTT-1" (.aware 0),
    .recordFailure "RTT-d106" "TIMEOUT" .reconciliationRequired 5 (.aware 0),
    .resolveReconciliation "RTT-d106" true 7 none .retryable (.aware 0)]

/-- Two attempts, each with its own cost. -/
def retried : List (Action Call) :=
  perform 0 (.buildPlan "UTT-1" [route "A" 100, route "B" 200] (.aware 0)) 4 ++
    perform 1 (.startNext "UTT-1" (.aware 0)) 6 ++
    perform 2 (.recordFailure "RTT-d106" "TIMEOUT" .retryable 5 (.aware 0)) 3 ++
    perform 3 (.startNext "UTT-1" (.aware 0)) 6 ++
    perform 4 (.recordSuccess "RTT-7559" 7 (.aware 0)) 3

theorem charged_outcome :
    (((runAll reconciled).executions.plans.get? "PLAN-ce74").map
        ExecutionPlan.routingCostSpentMinor = some 12 ∧
      recordedCosts ((runAll reconciled).executions.attemptsOf "PLAN-ce74") = 7) ∧
    ((run (fun _ o w => o.chargesOnce w) retried).state.executions.plans.get? "PLAN-ce74").map
      ExecutionPlan.routingCostSpentMinor = some 12 := by
  decide +kernel

theorem reconciled_outcome :
    ((runAll reconciled).executions.plans.get? "PLAN-ce74").map
        ExecutionPlan.routingCostSpentMinor = some 12 ∧
      recordedCosts ((runAll reconciled).executions.attemptsOf "PLAN-ce74") = 7 :=
  charged_outcome.1

theorem retried_outcome :
    ((run (fun _ o w => o.chargesOnce w) retried).state.executions.plans.get? "PLAN-ce74").map
      ExecutionPlan.routingCostSpentMinor = some 12 :=
  charged_outcome.2

end Sample

/-- An unknown outcome and its reconciliation both add their costs to the plan, and the attempt keeps
the second one only. -/
theorem reconciled_cost_overwritten :
    ¬ ∀ (d : Deployment) (w₀ w : World) (id : String) (p : ExecutionPlan),
      w₀.executions = .empty → (system d).Sequentially (fun _ => True) w₀ w →
        w.executions.plans.get? id = some p →
        p.routingCostSpentMinor = recordedCosts (w.executions.attemptsOf id) := by
  intro hclaim
  obtain ⟨hspent, hrecorded⟩ := Sample.reconciled_outcome
  have hrun : (system Sample.deployment).Sequentially (fun _ => True) Sample.world
      (Sample.runAll Sample.reconciled) := Sample.sequentially_runAll fun _ _ => trivial
  generalize Sample.runAll Sample.reconciled = w at *
  obtain ⟨p, hp, hspent⟩ := Option.map_eq_some_iff.mp hspent
  have hsum := hclaim Sample.deployment Sample.world w _ p rfl hrun hp
  omega

/-- In the sample, two attempts that cost 5 and 7 have spent 12. -/
theorem spent_eq_recordedCosts_sample :
    ∃ p, (Sample.run (fun _ o w => o.chargesOnce w) Sample.retried).state.executions.plans.get?
        "PLAN-ce74" = some p ∧ p.routingCostSpentMinor = 12 ∧
      p.routingCostSpentMinor = recordedCosts
        ((Sample.run (fun _ o w => o.chargesOnce w) Sample.retried).state.executions.attemptsOf
          "PLAN-ce74") := by
  obtain ⟨p, hp, hspent⟩ := Option.map_eq_some_iff.mp Sample.retried_outcome
  have hrun := Sample.reachable_run (fun _ o w => o.chargesOnce w) Sample.retried
  exact ⟨p, hp, hspent, spent_eq_recordedCosts rfl hrun hp⟩

/-! ## Another attempt -/

/-- Another attempt of the plan could be started, as far as its limits go: attempts are left, and a
remaining route fits what is left of the budget. -/
structure ExecutionPlan.Startable (p : ExecutionPlan) : Prop where
  limit : p.attemptsUsed < p.maxAttempts
  route : ∃ r ∈ p.rankedRoutes, r.candidate.routeId ∈ p.remainingRouteIds ∧
    r.candidate.estimatedCostMinor ≤ p.routingBudgetRemainingMinor

namespace RttAttemptService

end RttAttemptService

/-! ## New plans -/

namespace DeterministicRouteScorer

variable {rt : Runtime} {weights : RouteScoreWeights} {q : RankingRequest}

theorem sublist_of_scoreAll {cs : List RouteCandidate} {scored : List Scored}
    (h : scoreAll rt weights q cs = .ok scored) : (scored.map Prod.fst).Sublist cs := by
  induction cs generalizing scored with
  | nil =>
    cases h
    exact .slnil
  | cons c cs ih =>
    simp only [scoreAll, bind_eq_ok] at h
    obtain ⟨-, -, h⟩ := h
    split at h
    · simp only [bind_eq_ok, pure_eq_ok] at h
      obtain ⟨scores, -, rest, hrest, rfl⟩ := h
      exact (ih hrest).cons_cons c
    · exact (ih h).cons c

theorem candidates_enumerateRanks (start : ℕ) (l : List Scored) :
    (enumerateRanks start l).map RankedRoute.candidate = l.map Prod.fst := by
  induction l generalizing start with
  | nil => rfl
  | cons s l ih => rw [enumerateRanks, List.map_cons, List.map_cons, ih]

/-- Ranked routes have different identifiers. -/
theorem nodup_of_rank {cs : List RouteCandidate} {ranked : List RankedRoute}
    (h : rank rt weights cs q = .ok ranked) :
    (ranked.map fun r => r.candidate.routeId).Nodup := by
  unfold rank at h
  split at h
  · cases h
  · next hnodup =>
    simp only [bind_eq_ok, pure_eq_ok] at h
    obtain ⟨scored, hscored, rfl⟩ := h
    have hperm : ((scored.insertionSort precedes).map Prod.fst).Perm (scored.map Prod.fst) :=
      (List.perm_insertionSort precedes scored).map _
    have hids : (scored.map Prod.fst).map RouteCandidate.routeId |>.Nodup :=
      (not_not.mp hnodup).sublist ((sublist_of_scoreAll hscored).map _)
    have hmap : (enumerateRanks 1 (scored.insertionSort precedes)).map
        (fun r => r.candidate.routeId) =
          ((scored.insertionSort precedes).map Prod.fst).map RouteCandidate.routeId := by
      rw [← candidates_enumerateRanks 1, List.map_map]
      rfl
    rw [hmap]
    exact (hperm.map RouteCandidate.routeId).nodup_iff.mpr hids

end DeterministicRouteScorer

/-- The routes of a drafted plan: there is one, their identifiers differ, and each fits the budget. -/
theorem ExecutionPlanningService.routes_of_draft {d : Deployment} {uttId : String}
    {signedUtt : SignatureEnvelope} {candidates : List RouteCandidate} {instant : Instant}
    {plan : ExecutionPlan} (h : draft d uttId signedUtt candidates instant = .ok plan) :
    plan.rankedRoutes ≠ [] ∧ (plan.rankedRoutes.map fun r => r.candidate.routeId).Nodup ∧
      ∀ r ∈ plan.rankedRoutes, r.candidate.estimatedCostMinor ≤ plan.routingBudgetMinor := by
  simp only [draft, bind_eq_ok, require_eq_ok, pure_eq_ok] at h
  obtain ⟨request, hreq, ranked, hrank, -, hne, -, -, -, -, -, -, planId, -, maxAttempts, hmax,
    rfl⟩ := h
  refine ⟨hne, DeterministicRouteScorer.nodup_of_rank hrank, fun r hr => ?_⟩
  have heligible := (DeterministicRouteScorer.mem_of_rank hrank hr).2.2
  simp only [DeterministicRouteScorer.eligible, Bool.and_eq_true, decide_eq_true_eq] at heligible
  exact heligible.1.1.2

namespace Execution

end Execution

/-! ## Sequential runs -/

namespace Execution

variable {d : Deployment} {w₀ w : World}

end Execution

namespace RttAttemptService

variable {d : Deployment} {rttId : String} {cost : Int} {at_ : Datetime}

end RttAttemptService

namespace Sample

/-- The first attempt has failed, and another one could be started. -/
def failedOnce : List Call :=
  [.buildPlan "UTT-1" [route "A" 100, route "B" 200] (.aware 0), .startNext "UTT-1" (.aware 0),
    .recordFailure "RTT-d106" "TIMEOUT" .retryable 5 (.aware 0)]

end Sample

end RailOne
