import RailOneCore.Execution.Protocol
import RailOneCore.Platform.Footprint

/-!
# Runs of the platform and the execution store

In every run of the platform, whatever the interleaving, the execution store stays consistent and
every step has an effect that the kind of its call allows.  The statements are about runs restricted
by a guard; with a guard that keeps reports of outcomes away from parked attempts the effects are the
strict ones.
-/

namespace RailOne

open Concurrent

/-- The kind of a call. -/
def Call.cause : Call → ExecutionCause
  | .buildPlan .. => .plan
  | .startNext .. => .start
  | .recordFailure rttId _ disposition _ _ => .recordFailure rttId disposition
  | .recordSuccess .. => .recordSuccess
  | .resolveReconciliation .. => .resolve
  | _ => .other

/-- The RTT that a call names to give it an outcome. -/
def Call.named : Call → Option String
  | .recordFailure rttId .. => some rttId
  | .recordSuccess rttId .. => some rttId
  | .resolveReconciliation rttId .. => some rttId
  | _ => none

/-- The RTT whose outcome a call of `record_failure` or `record_success` reports. -/
def Call.reported : Call → Option String
  | .recordFailure rttId .. => some rttId
  | .recordSuccess rttId .. => some rttId
  | _ => none

namespace Execution

variable {d : Deployment} {guard : Call → Op → World → Prop} {rules : ExecutionRules} {w₀ : World}
  {x y : Config Op.Resp Call Exn Reply World}

/-- Under the guard, a report of an outcome reads its plan only while its attempt is not parked. -/
def KeepsReportsFresh (guard : Call → Op → World → Prop) : Prop :=
  ∀ c rttId planId w, c.reported = some rttId → guard c (.requirePlan planId) w →
    ∀ b, w.executions.attempts.get? (strip rttId) = some b → b.state ≠ .reconciliationRequired

/-- The guard ensures what is said to be known of commits. -/
structure Ensures (d : Deployment) (guard : Call → Op → World → Prop) (rules : ExecutionRules) :
    Prop where
  strict : rules.strict → KeepsReportsFresh guard
  plan : ∀ c plan, PlanOrigin d (guard c) plan → rules.plan plan
  attempt : ∀ c plan a, AttemptOrigin d (guard c) plan a → rules.attempt plan a

theorem ensures_bare : Ensures d guard .bare :=
  ⟨False.elim, fun _ _ _ => trivial, fun _ _ _ _ => trivial⟩

/-- Every call respects the life cycle of plans and attempts. -/
theorem respects_body (hguard : Ensures d guard rules) (c : Call) (w : World) :
    Respects d (guard c) rules c.cause c.named (c.body d) w := by
  have hmap : ∀ {α : Type} {cause : ExecutionCause} {named : Option String} {p : Code α}
      (f : α → Reply), Respects d (guard c) rules cause named p w →
        Respects d (guard c) rules cause named (f <$> p) w :=
    fun f hp => Safe.map f hp (fun _ _ _ h => h) fun _ _ _ h => h
  have hother : Part.executions ∉ c.parts →
      Respects d (guard c) rules c.cause c.named (c.body d) w :=
    fun h => Respects.of_ops (ops_body_ne d h)
  cases c with
  | buildPlan => exact hmap _ (respects_buildPlan (hguard.plan _) _ _ _)
  | startNext => exact hmap _ (respects_startNext (hguard.attempt _) _ _)
  | recordFailure =>
    exact hmap _ (respects_recordFailure _ _ _ _ _ fun hs _ _ => hguard.strict hs _ _ _ _ rfl)
  | recordSuccess =>
    exact hmap _ (respects_recordSuccess _ _ _ fun hs _ _ => hguard.strict hs _ _ _ _ rfl)
  | resolveReconciliation => exact hmap _ (respects_resolveReconciliation _ _ _ _ _ _)
  | issueQuote | accept | prepare | dispatch | publishBatch => exact hother (by simp [Call.parts])

/-- The protocol of the execution store holds throughout every run. -/
theorem holds_of_reachable (hguard : Ensures d guard rules)
    (h₀ : w₀.executions.Consistent) (hx : ((system d).guarded guard).Reachable w₀ x) :
    protocol.Holds ((system d).guarded guard)
      (fun _ c o w w' => Effect rules c.cause w w' ∧ Issued d c.named o w) (fun _ _ _ _ => True)
      x := by
  refine System.holds_of_reachable (A := fun _ => True) (fun _ _ _ _ _ h => h.1.evolves) h₀ rfl ?_
    (fun _ _ => trivial) hx
  exact fun _ c s _ _ => respects_body hguard c s

/-- The execution store is consistent in every reachable world. -/
theorem consistent_of_reachable (h₀ : w₀.executions.Consistent)
    (hx : (system d).Reachable w₀ x) : x.state.executions.Consistent :=
  (holds_of_reachable ensures_bare h₀
    ((system d).steps_guarded_of_forall (fun _ _ _ => trivial) hx)).1

/-- Every step has an effect that the kind of its call allows, and is issued as it should be. -/
theorem guarantee_of_performs (hguard : Ensures d guard rules)
    (h₀ : w₀.executions.Consistent) (hx : ((system d).guarded guard).Reachable w₀ x) {i : ℕ}
    {c : Call} {o : Op} (h : ((system d).guarded guard).Performs i c o x y) :
    Effect rules c.cause x.state y.state ∧ Issued d c.named o x.state := by
  have hG : ∀ (_ : ℕ) (c : Call) (o : Op) (w w' : World),
      Effect rules c.cause w w' ∧ Issued d c.named o w → protocol.Rely w w' :=
    fun _ _ _ _ _ h => h.1.evolves
  exact (System.holds_of_performs hG (holds_of_reachable hguard h₀ hx) h).2

/-- Every step has an effect that the kind of its call allows. -/
theorem effect_of_performs (hguard : Ensures d guard rules)
    (h₀ : w₀.executions.Consistent) (hx : ((system d).guarded guard).Reachable w₀ x) {i : ℕ}
    {c : Call} {o : Op} (h : ((system d).guarded guard).Performs i c o x y) :
    ExecutionEffect rules c.cause x.state.executions y.state.executions :=
  (guarantee_of_performs hguard h₀ hx h).1

/-- What is known of new plans, and depends only on what no commit changes, holds of all plans in
every reachable world. -/
theorem forall_plan_of_reachable {F : ExecutionPlan → Prop} (hguard : Ensures d guard rules)
    (hF : ∀ p p', SamePlan p p' → F p → F p') (hrules : ∀ p, rules.plan p → F p)
    (h₀ : w₀.executions = .empty) (hx : ((system d).guarded guard).Reachable w₀ x) :
    ∀ id p, x.state.executions.plans.get? id = some p → F p := by
  have hempty : w₀.executions.Consistent := h₀ ▸ .empty
  induction hx with
  | refl =>
    intro id p hp
    simp [h₀, ExecutionStore.empty] at hp
  | tail hprior hstep ih =>
    cases hstep with
    | spawn c => exact ih
    | perform i c o hperform =>
      exact (effect_of_performs hguard hempty hprior hperform).forall_plan hF hrules ih

end Execution

end RailOne
