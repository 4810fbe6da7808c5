import RailOneCore.Execution.Runs

/-!
# What each step does to plans and attempts, exactly

`Advances` refines the effects of the life cycle to the records themselves: a new plan is the draft
of the planner, a start is the start of the route that `start_next` selects, and an outcome is one
that a report or a resolution computes from the plan.  Facts about budgets, lineage and routes that
are left over are derived from it.
-/

namespace RailOne

open Concurrent Ordered

namespace Execution

/-- What the operation `o` of a call that names an RTT does to the store. -/
inductive Advances (d : Deployment) (named : Option String) (o : Op) (s : ExecutionStore) :
    ExecutionStore → Prop
  | unchanged : Advances d named o s s
  | planned (p : ExecutionPlan) (signedUtt : SignatureEnvelope) (candidates : List RouteCandidate)
      (instant : Instant)
      (hdraft : ExecutionPlanningService.draft d p.uttId signedUtt candidates instant = .ok p)
      (hutt : s.planByUtt.get? p.uttId = none) (hid : s.plans.get? p.planId = none) :
      Advances d named o s
        { s with
          plans := s.plans.set p.planId p
          planByUtt := s.planByUtt.set p.uttId p.planId }
  | started (q : ExecutionPlan) (a : RttAttemptRecord) (selected : RankedRoute) (instant : Instant)
      (uttHash : Json) (hq : s.plans.get? q.planId = some q)
      (hselected : RttAttemptService.selectRoute q = .ok selected)
      (hfresh : s.attempts.get? a.rttId = none)
      (ha : a = RttAttemptService.newAttempt a.rttId q.uttId q selected.candidate.routeId
        a.signedRtt instant)
      (hpayload : RttAttemptService.rttPayload d a.rttId q.uttId uttHash q selected instant =
        .ok a.signedRtt.payload) :
      Advances d named o s (s.put (q.afterStart a.rttId selected.candidate.routeId instant) a)
  | concluded (q p : ExecutionPlan) (b prior a : RttAttemptRecord) (r : String)
      (hnamed : named = some r) (ho : o = .commitTransition q.version p a)
      (hq : s.plans.get? q.planId = some q)
      (hcurrent : q.currentRttId = some a.rttId) (hprior : s.attempts.get? a.rttId = some prior)
      (hsame : SameAttempt prior a) (hplan : a.planId = q.planId) (hr : strip r = a.rttId)
      (hb : SameAttempt b a) (hconcludes : Concludes q b r p a) :
      Advances d named o s (s.put p a)

variable {d : Deployment} {w₀ : World} {x y : Config Op.Resp Call Exn Reply World}

/-- A step that is issued as it should be advances the store. -/
theorem advances_of_sem {named : Option String} {o : Op} {w w' : World} {r : o.Resp}
    (hs : w.executions.Consistent) (hissued : Issued d named o w)
    (hsem : World.sem d.rt o w r w') : Advances d named o w.executions w'.executions := by
  by_cases hpart : o.part = .executions
  · cases o <;> simp only [Op.part, reduceCtorEq] at hpart
    case createPlan p =>
      rcases (sem_createPlan.mp hsem).cases with ⟨_, st, hst, -, rfl⟩ | ⟨_, -, -, rfl⟩
      · obtain ⟨signedUtt, candidates, instant, hdraft⟩ := hissued
        rcases ExecutionStore.createPlan_eq_ok hst with ⟨rfl, -⟩ | ⟨hutt, hid, rfl⟩
        · exact .unchanged
        · exact .planned p signedUtt candidates instant hdraft hutt hid
      · exact .unchanged
    case commitStart v p a =>
      rcases (sem_commitStart.mp hsem).cases with ⟨_, st, hst, -, rfl⟩ | ⟨_, -, -, rfl⟩
      · obtain ⟨rfl, -, -, hfresh, q, hq, hv, -⟩ := ExecutionStore.commitStart_eq_ok hst
        obtain ⟨selected, instant, uttHash, hselected, hp, ha, hpayload⟩ :=
          StartIssued.exact hissued q hq hv
        subst hp
        exact .started q a selected instant uttHash hq hselected hfresh ha hpayload
      · exact .unchanged
    case commitTransition v p a =>
      rcases (sem_commitTransition.mp hsem).cases with ⟨_, st, hst, -, rfl⟩ | ⟨_, -, -, rfl⟩
      · obtain ⟨rfl, ⟨q, hq, hv, hcurrent⟩, prior, hprior⟩ :=
          ExecutionStore.commitTransition_eq_ok hst
        have hissued : TransitionIssued named w.executions v p a := hissued
        obtain ⟨b, r, hnamed, hb, hconcludes⟩ := hissued.exact q hq hv
        obtain ⟨r', hnamed', -, hr, -⟩ := hissued.pointers
        rw [hnamed, Option.some.injEq] at hnamed'
        subst hnamed'
        obtain ⟨stored, hstored, hsame⟩ := hissued.attempt
        rw [hprior, Option.some.injEq] at hstored
        subst hstored
        have hid : p.planId = q.planId := hconcludes.samePlan.planId
        exact .concluded q p b prior a r hnamed (by rw [hv]) (hid ▸ hq) hcurrent hprior hsame
          (hissued.lineage.trans hid) hr hb hconcludes
      · exact .unchanged
  · rw [(World.frame_of_sem hsem).executions hpart]
    exact .unchanged

/-- Every step of every run advances the store. -/
theorem advances_of_performs {guard : Call → Op → World → Prop} (h₀ : w₀.executions.Consistent)
    (hx : ((system d).guarded guard).Reachable w₀ x) {i : ℕ} {c : Call} {o : Op}
    (h : ((system d).guarded guard).Performs i c o x y) :
    Advances d c.named o x.state.executions y.state.executions := by
  have hs := consistent_of_reachable h₀ ((system d).steps_of_guarded hx)
  have hissued := (guarantee_of_performs ensures_bare h₀ hx h).2
  obtain ⟨k, r, -, hsem, -⟩ := h
  exact advances_of_sem hs hissued hsem.2

/-- The induction over runs: what holds of the empty store and survives every advance of an allowed
step holds in every reachable world.  `K` is what is known already of all reachable worlds. -/
theorem invariant_of_reachable {guard : Call → Op → World → Prop} {J K : ExecutionStore → Prop}
    (h₀ : w₀.executions = .empty) (hempty : J .empty)
    (hstep : ∀ (c : Call) (o : Op) (w w' : World) (r : o.Resp), w.executions.Consistent →
      J w.executions → guard c o w → World.sem d.rt o w r w' →
      Advances d c.named o w.executions w'.executions → K w'.executions → J w'.executions)
    (hK : ∀ y, ((system d).guarded guard).Reachable w₀ y → K y.state.executions)
    (hx : ((system d).guarded guard).Reachable w₀ x) : J x.state.executions := by
  have hcons : w₀.executions.Consistent := h₀ ▸ .empty
  induction hx with
  | refl =>
    change J w₀.executions
    rw [h₀]
    exact hempty
  | tail hprior hstep' ih =>
    cases hstep' with
    | spawn c => exact ih
    | perform i c o hp =>
      have hs := consistent_of_reachable hcons ((system d).steps_of_guarded hprior)
      have hadv := advances_of_performs hcons hprior hp
      have hknown := hK _ (hprior.tail (.perform i c o hp))
      obtain ⟨k, r, -, hsem, -⟩ := hp
      exact hstep c o _ _ r hs ih hsem.1 hsem.2 hadv hknown

/-! ## Storing a plan -/

section Put

variable {s : ExecutionStore} {p : ExecutionPlan} {a : RttAttemptRecord}

/-- A stored plan after one plan has been put is that plan, or an old one. -/
theorem plan_of_put {id : String} {p' : ExecutionPlan}
    (h : (s.put p a).plans.get? id = some p') :
    id = p.planId ∧ p' = p ∨ id ≠ p.planId ∧ s.plans.get? id = some p' := by
  rw [ExecutionStore.plans_put, Dict.get?_set] at h
  split at h
  · next heq => exact .inl ⟨heq, (Option.some.inj h).symm⟩
  · next hne => exact .inr ⟨hne, h⟩

/-- No attempt belongs to a plan that is not there. -/
theorem attemptsOf_of_none (hs : s.Consistent) {id : String} (h : s.plans.get? id = none) :
    s.attemptsOf id = [] := by
  rw [List.eq_nil_iff_forall_not_mem]
  intro b hb
  obtain ⟨⟨r, hr⟩, hplan⟩ := ExecutionStore.mem_attemptsOf.mp hb
  obtain ⟨q, hq⟩ := hs.planOfAttempt hr
  rw [hplan, h] at hq
  cases hq

end Put

end Execution

end RailOne
